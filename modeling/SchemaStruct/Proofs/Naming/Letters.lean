import Mathlib
import SchemaStruct.Proofs.Naming.Identifier

/-!
# Letters of Identifiers

A style may change the case of a letter and what stands between words, and nothing else. The steps
of cleaning and restyling cut a name into pieces, bring in and take away connectors, and change the
case of letters; each of them keeps the letters and digits of the name in order. The one exception
is made on purpose: a name without any becomes `field`.

## Main definitions

* `Naming.letters`: the letters and digits of a text, in small letters;
* `Naming.joined`: a text without its connectors, in small letters.

## Main results

* `Naming.letters_clean` and `Naming.letters_restyle`: what cleaning and the styles keep;
* `Sanitizer.shared_keepsLetters`: the identifiers of a name in all styles have its letters and
  digits, and differ from each other in case and connectors only.
-/

namespace SchemaStruct

namespace Naming

/-- The letters and digits of a text, in small letters. -/
def letters (cs : List Char) : List Char := (cs.filter Char.isAlphanum).map Char.toLower

/-- A text without its connectors, in small letters. -/
def joined (cs : List Char) : List Char := (cs.filter (!isConnector ·)).map Char.toLower

variable {c : Char} {cs : List Char}

@[simp]
theorem letters_nil : letters [] = [] := rfl

@[simp]
theorem letters_append (cs ds : List Char) : letters (cs ++ ds) = letters cs ++ letters ds := by
  simp [letters]

/-- What is neither a letter nor a digit does not count. -/
theorem letters_cons_of_not (h : c.isAlphanum = false) (cs : List Char) :
    letters (c :: cs) = letters cs := by
  simp [letters, h]

/-- A connector is neither a letter nor a digit. -/
theorem not_isAlphanum_of_isConnector (h : isConnector c = true) : c.isAlphanum = false := by
  obtain rfl | rfl : c = '_' ∨ c = '-' := by simpa [isConnector] using h
  · decide
  · decide

/-- So an underscore is neither. -/
theorem not_isAlphanum_of_beq (h : (c == '_') = true) : c.isAlphanum = false :=
  not_isAlphanum_of_isConnector (by simp [isConnector, beq_iff_eq.mp h])

/-- Texts that spell the same do so behind a character, too. -/
theorem letters_cons_congr {ds : List Char} (c : Char) (h : letters cs = letters ds) :
    letters (c :: cs) = letters (c :: ds) := by
  rw [← List.singleton_append, letters_append, h, ← letters_append, List.singleton_append]

/-- A text without letters and digits. -/
theorem letters_eq_nil_iff : letters cs = [] ↔ ∀ c ∈ cs, c.isAlphanum = false := by
  simp [letters]

/-- A change of characters that keeps what each of them spells keeps what the text spells. -/
theorem letters_map {f : Char → Char} (h : ∀ c ∈ cs, letters [f c] = letters [c]) :
    letters (cs.map f) = letters cs := by
  induction cs with
  | nil => rfl
  | cons c cs ih =>
    obtain ⟨hc, hcs⟩ := List.forall_mem_cons.mp h
    rw [List.map_cons, ← List.singleton_append, letters_append, hc, ih hcs, ← letters_append,
      List.singleton_append]

@[simp]
theorem letters_map_toLower (cs : List Char) : letters (cs.map Char.toLower) = letters cs :=
  letters_map fun c _ => by cases h : c.isAlphanum <;> simp [letters, h]

@[simp]
theorem letters_map_toUpper (cs : List Char) : letters (cs.map Char.toUpper) = letters cs :=
  letters_map fun c _ => by cases h : c.isAlphanum <;> simp [letters, h]

/-- Leaving out characters that are neither letters nor digits. -/
theorem letters_filter {p : Char → Bool} (h : ∀ c, p c = true → c.isAlphanum = false)
    (cs : List Char) : letters (cs.filter (!p ·)) = letters cs := by
  have hkeeps : ∀ c, (c.isAlphanum && !p c) = c.isAlphanum := by
    intro c
    cases hp : p c with
    | false => simp
    | true => simp [h c hp]
  rw [letters, List.filter_filter, List.filter_congr fun c _ => hkeeps c, letters]

/-- Trimming off such characters. -/
theorem letters_trimWhile {p : Char → Bool} (h : ∀ c, p c = true → c.isAlphanum = false)
    (cs : List Char) : letters (Text.trimWhile p cs) = letters cs := by
  rw [← letters_filter h, Text.filter_trimWhile, letters_filter h]

/-- Splitting at capitals keeps the letters and digits. -/
theorem letters_splitCapitals (cs : List Char) : letters (splitCapitals cs) = letters cs := by
  have hunderscore : ('_').isAlphanum = false := by decide
  fun_induction splitCapitals cs with
  | case1 a b rest h ih =>
    refine letters_cons_congr a ?_
    rw [letters_cons_of_not hunderscore, ih]
  | case2 a b rest h ih => exact letters_cons_congr a ih
  | case3 cs h => rfl

/-- Squeezing keeps them. -/
theorem letters_squeeze (cs : List Char) : letters (squeeze cs) = letters cs := by
  have hunderscore : ('_').isAlphanum = false := by decide
  fun_induction squeeze cs with
  | case1 rest ih => rw [ih, letters_cons_of_not hunderscore ('_' :: rest)]
  | case2 c rest h ih => exact letters_cons_congr c ih
  | case3 => rfl

/-- Replacing foreign characters keeps the letters and digits. -/
theorem letters_replaced (cs : List Char) : letters (replaced cs) = letters cs := by
  refine letters_map fun c _ => ?_
  -- a character that is replaced is neither a letter nor a digit, and so is the underscore
  split
  · rfl
  · next h =>
    rw [Bool.or_eq_true, not_or, Bool.not_eq_true] at h
    rw [letters_cons_of_not h.1]
    decide

/-- Cleaning keeps the letters and digits of a name that has some, and gives `field` to one that has
none. -/
theorem letters_clean (cs : List Char) :
    letters (clean cs) =
      if letters cs = [] then ['f', 'i', 'e', 'l', 'd'] else letters cs := by
  have htrimmed : letters (Text.trimWhile isConnector (replaced cs)) = letters cs := by
    rw [letters_trimWhile fun c => not_isAlphanum_of_isConnector, letters_replaced]
  have hsome : letters (clean cs) ≠ [] := by
    obtain ⟨c, hc, halnum⟩ := exists_mem_clean cs
    exact fun hnil => by simp [letters_eq_nil_iff.mp hnil c hc] at halnum
  rcases clean_cases cs with ⟨hnil, hclean⟩ | ⟨-, hclean⟩
  · rw [hnil] at htrimmed
    rw [hclean, ← htrimmed, if_pos letters_nil]
    decide
  · rw [hclean, htrimmed] at hsome
    rw [hclean, htrimmed, if_neg hsome]

/-- The snake form keeps the letters and digits. -/
theorem letters_snake (cs : List Char) : letters (snake cs) = letters cs := by
  unfold snake
  rw [letters_trimWhile fun c => not_isAlphanum_of_beq, letters_squeeze, letters_map_toLower,
    letters_splitCapitals]
  refine letters_map fun c _ => ?_
  split
  · next h =>
    rw [h]
    decide
  · rfl

/-- The words of a name spell what the name spells. -/
theorem flatMap_letters_words (cs : List Char) : (words cs).flatMap letters = letters cs := by
  have hflatten : letters (words cs).flatten = letters cs := by
    rw [words, Text.flatten_splitOn, ← letters_snake cs]
    exact letters_filter (fun c => not_isAlphanum_of_beq) _
  rw [← hflatten]
  induction words cs with
  | nil => rfl
  | cons word rest ih => rw [List.flatMap_cons, List.flatten_cons, letters_append, ih]

/-- A capital in front is the same letter. -/
theorem letters_capitalize (word : List Char) : letters (capitalize word) = letters word := by
  cases word with
  | nil => rfl
  | cons c rest =>
    have hfirst : letters [c.toUpper] = letters [c] := letters_map_toUpper [c]
    rw [capitalize, ← List.singleton_append, letters_append, hfirst, letters_map_toLower,
      ← letters_append, List.singleton_append]

/-- Capitalized words, one behind the other. -/
theorem letters_flatMap_capitalize (pieces : List (List Char)) :
    letters (pieces.flatMap capitalize) = pieces.flatMap letters := by
  induction pieces with
  | nil => rfl
  | cons word pieces ih =>
    rw [List.flatMap_cons, List.flatMap_cons, letters_append, letters_capitalize, ih]

/-- Every style keeps the letters and digits. -/
theorem letters_restyle (style : NamingStyle) (cs : List Char) :
    letters (restyle style cs) = letters cs := by
  cases style with
  | snake => exact letters_snake cs
  | camel =>
    rw [← flatMap_letters_words cs]
    unfold restyle
    dsimp only
    split
    · next hnil => rw [hnil]; rfl
    · next first rest hwords =>
      rw [hwords, letters_append, letters_map_toLower, letters_flatMap_capitalize,
        List.flatMap_cons]
  | pascal => rw [restyle, letters_flatMap_capitalize, flatMap_letters_words]
  | kebab =>
    rw [← letters_snake cs]
    refine letters_map fun c _ => ?_
    split
    · next h =>
      rw [h]
      decide
    · rfl
  | screamingSnake => rw [restyle, letters_map_toUpper, letters_snake]

/-- A clean name consists of letters, digits and connectors in every style. -/
theorem isAlphanum_or_isConnector {style : NamingStyle} (h : c ∈ restyle style (clean cs)) :
    c.isAlphanum ∨ isConnector c := by
  have hword {d : Char} (hd : IsWordChar d) : d.isAlphanum ∨ isConnector d := by
    rcases hd with hd | rfl
    · exact .inl hd
    · exact .inr (by decide)
  by_cases hstyle : style = .kebab
  · subst hstyle
    obtain ⟨d, hd, rfl⟩ := List.mem_map.mp h
    split
    · exact .inr (by decide)
    · exact hword (mem_snake hd)
  · exact hword (mem_restyle hstyle h)

/-- Without connectors, a text of letters, digits and connectors is its letters and digits. -/
theorem joined_eq_letters (h : ∀ c ∈ cs, c.isAlphanum ∨ isConnector c) :
    joined cs = letters cs := by
  rw [joined, letters]
  congr 1
  refine List.filter_congr fun c hc => ?_
  cases hconnector : isConnector c with
  | true => simp [not_isAlphanum_of_isConnector hconnector]
  | false =>
    have halnum : c.isAlphanum := (h c hc).resolve_right (by simp [hconnector])
    simp [halnum]

end Naming

namespace Sanitizer

open Naming

/-- An identifier for a name is what the style makes of the clean name, possibly with an underscore
in front and one behind. -/
theorem exists_toList_shared (s : Sanitizer) (name : String) (style : NamingStyle) :
    ∃ front back, (s.shared name style).toList =
        front ++ restyle style (clean name.toList) ++ back ∧
      (∀ c ∈ front, c = '_') ∧ ∀ c ∈ back, c = '_' := by
  have hidentifier : ∃ front, (identifier style name).toList =
      front ++ restyle style (clean name.toList) ∧ ∀ c ∈ front, c = '_' := by
    rw [identifier, String.toList_ofList]
    cases restyle style (clean name.toList) with
    | nil => exact ⟨[], rfl, by simp⟩
    | cons c rest =>
      rw [guardDigit]
      split
      · exact ⟨['_'], rfl, by simp⟩
      · exact ⟨[], rfl, by simp⟩
  obtain ⟨front, hfront, hunderscore⟩ := hidentifier
  unfold shared avoidReserved
  split
  · exact ⟨front, ['_'], by rw [String.toList_append, hfront]; rfl, hunderscore, by simp⟩
  · exact ⟨front, [], by rw [hfront, List.append_nil], hunderscore, by simp⟩

/-- No style loses or adds a letter or a digit: in small letters, an identifier for a name has those
of the name, in order, or those of `field` if the name has none. Beside them it has underscores and
hyphens only, so that two styles of one name differ in these and in the case of letters. -/
theorem shared_keepsLetters (s : Sanitizer) (name : String) :
    (∀ style, letters (s.shared name style).toList =
      if letters name.toList = [] then "field".toList else letters name.toList) ∧
    (∀ style, ∀ c ∈ (s.shared name style).toList, c.isAlphanum ∨ c = '_' ∨ c = '-') ∧
    ∀ style other, joined (s.shared name style).toList = joined (s.shared name other).toList := by
  have hunderscores {cs : List Char} (h : ∀ c ∈ cs, c = '_') : letters cs = [] :=
    letters_eq_nil_iff.mpr fun c hc => by rw [h c hc]; decide
  have hletters (style : NamingStyle) : letters (s.shared name style).toList =
      if letters name.toList = [] then "field".toList else letters name.toList := by
    obtain ⟨front, back, hlist, hfront, hback⟩ := s.exists_toList_shared name style
    rw [hlist, letters_append, letters_append, hunderscores hfront, hunderscores hback,
      letters_restyle, letters_clean, List.nil_append, List.append_nil]
    rfl
  have hmem (style : NamingStyle) : ∀ c ∈ (s.shared name style).toList,
      c.isAlphanum ∨ isConnector c := by
    obtain ⟨front, back, hlist, hfront, hback⟩ := s.exists_toList_shared name style
    intro c hc
    rw [hlist, List.mem_append, List.mem_append] at hc
    rcases hc with (hc | hc) | hc
    · exact .inr (by rw [hfront c hc]; decide)
    · exact isAlphanum_or_isConnector hc
    · exact .inr (by rw [hback c hc]; decide)
  refine ⟨hletters, fun style c hc => ?_, fun style other => ?_⟩
  · simpa [isConnector] using hmem style c hc
  · rw [joined_eq_letters (hmem style), joined_eq_letters (hmem other), hletters, hletters]

end Sanitizer

end SchemaStruct
