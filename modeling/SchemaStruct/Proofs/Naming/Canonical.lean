import Mathlib
import SchemaStruct.Template.Filter
import SchemaStruct.Proofs.Naming.Initials
import SchemaStruct.Proofs.Naming.Letters

/-!
# The Snake Form as Normal Form

All styles start from the snake form of a clean name: words of small letters and digits, one
underscore between two of them. A text of this form is left alone by cleaning and by the snake
style. A sanitizer may guard the snake form against a digit in front and against the reserved words,
but only with underscores at the ends, which cleaning takes away again. So what is restyled a second
time may as well be the snake identifier of a name as the name.

## Main definitions

* `Naming.IsSnake`: a text in snake form.

## Main results

* `Naming.isSnake_iff`: the texts in snake form are those that the snake form of names leaves alone;
* `Sanitizer.shared_shared_snake`: an identifier for the snake identifier of a name is one for the
  name.
-/

namespace SchemaStruct

namespace Naming

/-- A text in snake form. -/
structure IsSnake (cs : List Char) : Prop where
  /-- It has letters, digits and underscores only. -/
  isWordChar : ∀ c ∈ cs, IsWordChar c
  /-- It has no capitals. -/
  isUpper_eq_false : ∀ c ∈ cs, c.isUpper = false
  /-- No two underscores stand together. -/
  isChain : cs.IsChain fun c d => ¬(c = '_' ∧ d = '_')
  /-- There are no underscores at its ends. -/
  trimmed : Text.trimWhile (· == '_') cs = cs
  /-- It is not empty. -/
  ne_nil : cs ≠ []

variable {cs : List Char}

/-- Squeezing keeps the first character. -/
theorem head?_squeeze (cs : List Char) : (squeeze cs).head? = cs.head? := by
  fun_induction squeeze cs with
  | case1 rest ih => exact ih
  | case2 c rest h ih => rfl
  | case3 => rfl

/-- No two underscores stand together in a squeezed text. -/
theorem isChain_squeeze (cs : List Char) :
    (squeeze cs).IsChain fun c d => ¬(c = '_' ∧ d = '_') := by
  fun_induction squeeze cs with
  | case1 rest ih => exact ih
  | case2 c rest h ih =>
    refine List.isChain_cons.mpr ⟨fun d hd => ?_, ih⟩
    rintro ⟨rfl, rfl⟩
    -- what is behind the underscore was behind it before
    rw [head?_squeeze] at hd
    obtain ⟨tail, htail⟩ := List.head?_eq_some_iff.mp hd
    exact h tail rfl htail
  | case3 => exact .nil

/-- Such a text is squeezed already. -/
theorem squeeze_eq_self (h : cs.IsChain fun c d => ¬(c = '_' ∧ d = '_')) : squeeze cs = cs := by
  fun_induction squeeze cs with
  | case1 rest ih => exact absurd ⟨rfl, rfl⟩ (List.isChain_cons_cons.mp h).1
  | case2 c rest hc ih => rw [ih h.tail]
  | case3 => rfl

/-- A text without capitals is not split. -/
theorem splitCapitals_eq_self (h : ∀ c ∈ cs, c.isUpper = false) : splitCapitals cs = cs := by
  fun_induction splitCapitals cs with
  | case1 a b rest hsplit ih => simp [h b (by simp)] at hsplit
  | case2 a b rest hsplit ih => rw [ih fun c hc => h c (List.mem_cons_of_mem a hc)]
  | case3 cs hshort => rfl

/-- The snake form of a clean name is in snake form. -/
theorem isSnake_snake_clean (cs : List Char) : IsSnake (snake (clean cs)) where
  isWordChar _ := mem_snake
  isUpper_eq_false _ := isUpper_of_mem_snake
  isChain := List.IsChain.infix (isChain_squeeze _) (Text.isInfix_trimWhile _ _)
  trimmed := Text.trimWhile_trimWhile _ _
  ne_nil := restyle_ne_nil .snake cs

namespace IsSnake

/-- A text in snake form has no hyphens. -/
theorem ne_hyphen (h : IsSnake cs) {c : Char} (hc : c ∈ cs) : c ≠ '-' := by
  rintro rfl
  exact absurd (h.isWordChar _ hc) (by unfold IsWordChar; decide)

/-- It is its own snake form. -/
theorem snake_eq (h : IsSnake cs) : snake cs = cs := by
  have hjoined : (cs.map fun c => if c = '-' then '_' else c) = cs :=
    (List.map_congr_left fun c hc => if_neg (h.ne_hyphen hc)).trans (List.map_id' cs)
  have hlower : cs.map Char.toLower = cs := by
    refine (List.map_congr_left fun c hc => ?_).trans (List.map_id' cs)
    exact Char.toLower_eq_of_not_isUpper (by simp [h.isUpper_eq_false c hc])
  rw [snake, hjoined, splitCapitals_eq_self h.isUpper_eq_false, hlower, squeeze_eq_self h.isChain,
    h.trimmed]

/-- There are no connectors at all at its ends. -/
theorem trimWhile_isConnector (h : IsSnake cs) : Text.trimWhile isConnector cs = cs := by
  have hconnector {c : Char} (hc : c ∈ cs) (hne : (c == '_') = false) : isConnector c = false := by
    simp [isConnector, h.ne_hyphen hc, beq_eq_false_iff_ne.mp hne]
  obtain ⟨first, rest, hcons⟩ := List.exists_cons_of_ne_nil h.ne_nil
  have hfirst : (first == '_') = false :=
    Text.not_of_trimWhile_eq_cons (p := (· == '_')) (h.trimmed.trans hcons)
  have hlast : (cs.getLast h.ne_nil == '_') = false := by
    have htrimmed : Text.trimEndWhile (· == '_') (cs.dropWhile (· == '_')) = cs := h.trimmed
    have hmem : cs.getLast h.ne_nil ∈
        (Text.trimEndWhile (· == '_') (cs.dropWhile (· == '_'))).getLast? := by
      rw [htrimmed]
      exact List.getLast?_eq_some_getLast h.ne_nil
    exact Text.not_of_mem_getLast?_trimEndWhile (p := (· == '_')) hmem
  exact Text.trimWhile_eq_self (by rw [hcons]; rfl) (List.getLast?_eq_some_getLast h.ne_nil)
    (hconnector (hcons ▸ List.mem_cons_self) hfirst)
    (hconnector (List.getLast_mem h.ne_nil) hlast)

/-- Cleaning takes away the underscores around it, and nothing else. -/
theorem clean_append (h : IsSnake cs) {front back : List Char} (hfront : ∀ c ∈ front, c = '_')
    (hback : ∀ c ∈ back, c = '_') : clean (front ++ cs ++ back) = cs := by
  have hunderscore {c : Char} (hc : c = '_') : isConnector c = true := by
    rw [hc]
    decide
  -- there is no foreign character to replace
  have hkept : ∀ c ∈ front ++ cs ++ back, (c.isAlphanum || isConnector c) = true := by
    intro c hc
    rw [List.mem_append, List.mem_append] at hc
    rcases hc with (hc | hc) | hc
    · simp [hunderscore (hfront c hc)]
    · rcases h.isWordChar c hc with halnum | hc
      · simp [halnum]
      · simp [hunderscore hc]
    · simp [hunderscore (hback c hc)]
  have hsame : replaced (front ++ cs ++ back) = front ++ cs ++ back :=
    (List.map_congr_left fun c hc => if_pos (hkept c hc)).trans (List.map_id' _)
  have htrimmed : Text.trimWhile isConnector (replaced (front ++ cs ++ back)) = cs := by
    rw [hsame]
    exact Text.trimWhile_append h.trimWhile_isConnector (fun c hc => hunderscore (hfront c hc))
      fun c hc => hunderscore (hback c hc)
  rcases clean_cases (front ++ cs ++ back) with ⟨hnil, -⟩ | ⟨-, hclean⟩
  · exact absurd (htrimmed.symm.trans hnil) h.ne_nil
  · rw [hclean, htrimmed]

/-- It is clean. -/
theorem clean_eq (h : IsSnake cs) : clean cs = cs := by
  have hnothing : ∀ c ∈ ([] : List Char), c = '_' := fun c hc => absurd hc List.not_mem_nil
  simpa using h.clean_append hnothing hnothing

end IsSnake

/-- The texts in snake form are those that become themselves when they are cleaned and brought into
the snake style. -/
theorem isSnake_iff : IsSnake cs ↔ snake (clean cs) = cs := by
  constructor
  · intro h
    rw [h.clean_eq, h.snake_eq]
  · intro h
    rw [← h]
    exact isSnake_snake_clean cs

/-- Every style makes the same of a clean name and of its snake form. -/
theorem restyle_snake_clean (style : NamingStyle) (cs : List Char) :
    restyle style (snake (clean cs)) = restyle style (clean cs) := by
  have hsnake : snake (snake (clean cs)) = snake (clean cs) := (isSnake_snake_clean cs).snake_eq
  have hwords : words (snake (clean cs)) = words (clean cs) := by rw [words, hsnake, words]
  cases style with
  | snake => exact hsnake
  | camel => rw [restyle, hwords, restyle]
  | pascal => rw [restyle, hwords, restyle]
  | kebab => rw [restyle, hsnake, restyle]
  | screamingSnake => rw [restyle, hsnake, restyle]

end Naming

namespace Sanitizer

open Naming

/-- What a sanitizer adds to the snake identifier of a name is gone when the identifier is
cleaned. -/
theorem clean_shared_snake (s : Sanitizer) (name : String) :
    clean (s.shared name .snake).toList = snake (clean name.toList) := by
  obtain ⟨front, back, hlist, hfront, hback⟩ := s.exists_toList_shared name .snake
  rw [hlist]
  exact (isSnake_snake_clean name.toList).clean_append hfront hback

/-- The snake identifier of a name becomes by itself what the name becomes. -/
theorem identifier_shared_snake (s : Sanitizer) (name : String) (style : NamingStyle) :
    identifier style (s.shared name .snake) = identifier style name := by
  rw [identifier, clean_shared_snake, restyle_snake_clean, identifier]

/-- The snake identifiers are a normal form of names: an identifier for the snake identifier of a
name, in any style, is the identifier for the name itself. So the snake style is idempotent. The
second sanitizer may have other reserved words than the first. -/
theorem shared_shared_snake (s other : Sanitizer) (name : String) :
    (∀ style, other.shared (s.shared name .snake) style = other.shared name style) ∧
    s.shared (s.shared name .snake) .snake = s.shared name .snake := by
  have hshared (t : Sanitizer) (style : NamingStyle) :
      t.shared (s.shared name .snake) style = t.shared name style := by
    rw [shared, identifier_shared_snake, shared]
  exact ⟨hshared other, hshared s .snake⟩

/-- Both what guards the digit and what avoids the reserved word are gone in the second round. -/
example :
    let s : Sanitizer := { reserved := ["_1st", "first"] }
    s.shared "1st!" .snake = "_1st_" ∧ s.shared "_1st_" .kebab = s.shared "1st!" .kebab := by
  decide +kernel

end Sanitizer

namespace Template.Filter

/-- In a template, the snake filter in front of a filter for another style makes no difference. -/
theorem apply_style_snake (style : NamingStyle) (v : Value) :
    (apply (.style .snake) [] v).bind (fun text => apply (.style style) [] (.ofText text)) =
      apply (.style style) [] v := by
  change Except.ok (Sanitizer.shared {} (Sanitizer.shared {} v.text .snake) style) =
    Except.ok (Sanitizer.shared {} v.text style)
  rw [Sanitizer.shared, Sanitizer.identifier_shared_snake, Sanitizer.shared]

end Template.Filter

end SchemaStruct
