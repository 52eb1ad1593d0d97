import Mathlib
import SchemaStruct.Proofs.Naming.Identifier

/-!
# First Characters of Identifiers

What a sanitizer makes of a name begins with the identifier that the name becomes by itself:
reserved words and identifiers in use get something behind them. So the style alone decides how an
identifier begins. In the pascal style no small letter stands in front, in the snake and camel
styles no capital.

## Main definitions

* `NamingStyle.Begins`: how the identifiers of a style may begin.

## Main results

* `Sanitizer.exists_append_unique`: what a sanitizer adds stands behind the identifier;
* `Sanitizer.exists_eq_cons_of_mem_identifiers`: identifiers begin as their style says.
-/

namespace SchemaStruct

/-- How identifiers of a style may begin: with no small letter in the pascal style, with no capital
in the camel and snake styles. -/
def NamingStyle.Begins : NamingStyle → Char → Prop
  | .pascal, c => c.isLower = false
  | .camel, c | .snake, c => c.isUpper = false
  | _, _ => True

/-- An identifier consists of word characters. -/
theorem IsIdentifier.isWordChar {s : String} (h : IsIdentifier s) {c : Char}
    (hc : c ∈ s.toList) : IsWordChar c := by
  obtain ⟨first, rest, hs, hfirst, hrest⟩ := h
  rw [hs] at hc
  rcases List.mem_cons.1 hc with rfl | hc
  · exact hfirst.imp_left fun halpha => by simp [Char.isAlphanum, halpha]
  · exact hrest c hc

namespace Naming

/-- The snake form has no capitals. -/
theorem isUpper_of_mem_snake {c : Char} {cs : List Char} (h : c ∈ snake cs) :
    c.isUpper = false := by
  have hlow := mem_squeeze.mp (Text.mem_of_mem_trimWhile h)
  obtain ⟨d, -, rfl⟩ := List.mem_map.mp hlow
  exact Char.isUpper_toLower_eq_false d

/-- The first word of a clean name is not empty. -/
theorem ne_nil_of_words_eq_cons {cs first : List Char} {rest : List (List Char)}
    (h : words (clean cs) = first :: rest) : first ≠ [] := by
  cases hsnake : snake (clean cs) with
  | nil =>
    obtain ⟨c, hc, -⟩ := exists_mem_snake cs
    simp [hsnake] at hc
  | cons c tail =>
    have hc : (c == '_') = false := Text.not_of_trimWhile_eq_cons (p := (· == '_')) hsnake
    rw [words, hsnake] at h
    exact Text.ne_nil_of_splitOn_eq_cons (beq_eq_false_iff_ne.1 hc) h

/-- Capitalized words begin with no small letter. -/
theorem isLower_head_flatMap_capitalize {c : Char} {rest : List Char} {pieces : List (List Char)}
    (h : pieces.flatMap capitalize = c :: rest) : c.isLower = false := by
  induction pieces with
  | nil => simp at h
  | cons piece pieces ih =>
    cases piece with
    | nil => exact ih h
    | cons d tail =>
      obtain ⟨rfl, -⟩ := List.cons.inj h
      exact Char.isLower_toUpper_eq_false d

/-- A clean name begins as its style says. -/
theorem begins_of_restyle_eq_cons {style : NamingStyle} {c : Char} {cs rest : List Char}
    (h : restyle style (clean cs) = c :: rest) : style.Begins c := by
  cases style with
  | snake =>
    have hc : c ∈ restyle .snake (clean cs) := h ▸ List.mem_cons_self
    exact isUpper_of_mem_snake hc
  | camel =>
    cases hwords : words (clean cs) with
    | nil => simp [restyle, hwords] at h
    | cons first others =>
      cases hfirst : first with
      | nil => exact absurd hfirst (ne_nil_of_words_eq_cons hwords)
      | cons d tail =>
        simp only [restyle, hwords, hfirst, List.map_cons, List.cons_append] at h
        obtain ⟨rfl, -⟩ := List.cons.inj h
        exact Char.isUpper_toLower_eq_false d
  | pascal => exact isLower_head_flatMap_capitalize h
  | kebab => trivial
  | screamingSnake => trivial

/-- An identifier begins as its style says. -/
theorem exists_identifier_eq_cons (style : NamingStyle) (name : String) :
    ∃ c rest, (identifier style name).toList = c :: rest ∧ style.Begins c := by
  rw [identifier, String.toList_ofList]
  cases hstyled : restyle style (clean name.toList) with
  | nil => exact absurd hstyled (restyle_ne_nil style name.toList)
  | cons d tail =>
    rw [guardDigit]
    split
    · -- an underscore in front of a digit is no letter
      refine ⟨'_', d :: tail, rfl, ?_⟩
      cases style <;> first | rfl | trivial
    · exact ⟨d, tail, rfl, begins_of_restyle_eq_cons hstyled⟩

end Naming

namespace Sanitizer

/-- What a sanitizer adds to an identifier stands behind it. -/
theorem exists_append_unique (s : Sanitizer) (name : String) (style : NamingStyle) :
    ∃ behind, (s.unique name style).1 = Naming.identifier style name ++ behind := by
  have hshared : ∃ behind, s.shared name style = Naming.identifier style name ++ behind := by
    unfold shared avoidReserved
    split
    · exact ⟨"_", rfl⟩
    · exact ⟨"", String.append_empty.symm⟩
  obtain ⟨suffix, hsuffix⟩ := hshared
  rcases s.avoidUsed_eq "_" (s.shared name style) with h | ⟨n, h⟩
  · exact ⟨suffix, by rw [unique, h, hsuffix]⟩
  · refine ⟨suffix ++ ("_" ++ toString n), ?_⟩
    rw [unique, h, candidate, if_pos rfl, hsuffix]
    simp only [String.append_assoc]

/-- What a sanitizer hands out begins as the style says. -/
theorem exists_eq_cons_of_mem_identifiers {style : NamingStyle} {s : Sanitizer}
    {names : List String} :
    ∀ id ∈ s.identifiers style names, ∃ c rest, id.toList = c :: rest ∧ style.Begins c := by
  refine forall_mem_handOut (fun used name => ?_) s.used names
  obtain ⟨behind, happend⟩ := exists_append_unique { s with used } name style
  obtain ⟨c, rest, hname, hbegins⟩ := Naming.exists_identifier_eq_cons style name
  exact ⟨c, rest ++ behind.toList, by simp [happend, String.toList_append, hname], hbegins⟩

end Sanitizer

end SchemaStruct
