import Mathlib
import SchemaStruct.Proofs.Naming.Unique
import SchemaStruct.Proofs.Text.Lines

/-!
# Shape of Identifiers

Whatever name a sanitizer starts from, what it makes of it in a style without hyphens is an
identifier: letters, digits and underscores, with no digit in front. Cleaning leaves at least one
letter or digit, no later step loses it, and no step brings in a foreign character.

## Main definitions

* `IsIdentifier`: a letter or an underscore, and then letters, digits and underscores;
* `Naming.replaced`: a name without foreign characters.

## Main results

* `Naming.clean_cases`: what cleaning leaves of a name;
* `Naming.mem_snake` and `Naming.exists_mem_snake`: what the snake form consists of, and that it is
  never blank;
* `Naming.isIdentifier_identifier`: names become identifiers in every style without hyphens.
-/

namespace SchemaStruct

/-- Whether a character may stand inside an identifier. -/
def IsWordChar (c : Char) : Prop := c.isAlphanum ∨ c = '_'

/-- Whether a text is an identifier: a letter or an underscore, and then letters, digits and
underscores, all of ASCII. -/
def IsIdentifier (s : String) : Prop :=
  ∃ c rest, s.toList = c :: rest ∧ (c.isAlpha ∨ c = '_') ∧ ∀ x ∈ rest, IsWordChar x

/-- Small letters stand for letters, and all other characters for themselves. -/
@[simp]
theorem isAlphanum_toLower (c : Char) : c.toLower.isAlphanum = c.isAlphanum := by
  by_cases hupper : c.isUpper
  · simp [Char.isAlphanum, Char.isAlpha, hupper]
  · rw [Char.toLower_eq_of_not_isUpper hupper]

/-- So do capitals. -/
@[simp]
theorem isAlphanum_toUpper (c : Char) : c.toUpper.isAlphanum = c.isAlphanum := by
  by_cases hlower : c.isLower
  · simp [Char.isAlphanum, Char.isAlpha, hlower]
  · rw [Char.toUpper_eq_of_not_isLower hlower]

/-- A letter or digit joins no words. -/
theorem ne_underscore_of_isAlphanum {c : Char} (h : c.isAlphanum) : c ≠ '_' := by
  rintro rfl
  exact absurd h (by decide)

namespace Naming

/-- A name without foreign characters: each of them has become an underscore. -/
def replaced (cs : List Char) : List Char :=
  cs.map fun c => if c.isAlphanum || isConnector c then c else '_'

/-- A clean name is what is left of a name when foreign characters are replaced and connectors at
the ends are gone, or `field` if nothing is left. -/
theorem clean_cases (cs : List Char) :
    Text.trimWhile isConnector (replaced cs) = [] ∧ clean cs = ['f', 'i', 'e', 'l', 'd'] ∨
      Text.trimWhile isConnector (replaced cs) ≠ [] ∧
        clean cs = Text.trimWhile isConnector (replaced cs) := by
  unfold clean
  dsimp only
  split
  · next hnil => exact .inl ⟨hnil, rfl⟩
  · next hne => exact .inr ⟨hne, rfl⟩

/-- A name without foreign characters consists of letters, digits and connectors. -/
theorem mem_replaced {c : Char} {cs : List Char} (h : c ∈ replaced cs) :
    c.isAlphanum ∨ isConnector c := by
  obtain ⟨d, -, rfl⟩ := List.mem_map.mp h
  by_cases hd : d.isAlphanum || isConnector d
  · rw [if_pos hd]
    simpa using hd
  · rw [if_neg hd]
    decide

/-- A clean name consists of letters, digits and connectors. -/
theorem mem_clean {c : Char} {cs : List Char} (h : c ∈ clean cs) :
    c.isAlphanum ∨ isConnector c := by
  rcases clean_cases cs with ⟨-, hclean⟩ | ⟨-, hclean⟩
  · rw [hclean] at h
    simp only [List.mem_cons, List.not_mem_nil, or_false] at h
    rcases h with rfl | rfl | rfl | rfl | rfl <;> decide
  · rw [hclean] at h
    exact mem_replaced (Text.mem_of_mem_trimWhile h)

/-- A clean name has a letter or a digit. -/
theorem exists_mem_clean (cs : List Char) : ∃ c ∈ clean cs, c.isAlphanum := by
  rcases clean_cases cs with ⟨-, hclean⟩ | ⟨hne, hclean⟩
  · exact ⟨'f', by simp [hclean], by decide⟩
  · obtain ⟨c, hc, hconn⟩ := Text.exists_mem_trimWhile hne
    rw [← hclean] at hc
    exact ⟨c, hc, (mem_clean hc).resolve_right hconn⟩

/-- Splitting at capitals brings in underscores only. -/
theorem mem_splitCapitals {c : Char} {cs : List Char} :
    c ∈ splitCapitals cs → c ∈ cs ∨ c = '_' := by
  fun_induction splitCapitals cs with
  | case1 a b rest h ih => grind
  | case2 a b rest h ih => grind
  | case3 cs h => grind

/-- Splitting at capitals loses nothing. -/
theorem mem_splitCapitals_of_mem {c : Char} {cs : List Char} :
    c ∈ cs → c ∈ splitCapitals cs := by
  fun_induction splitCapitals cs with
  | case1 a b rest h ih => grind
  | case2 a b rest h ih => grind
  | case3 cs h => grind

/-- Squeezing neither brings in nor loses a sort of character. -/
theorem mem_squeeze {c : Char} {cs : List Char} : c ∈ squeeze cs ↔ c ∈ cs := by
  fun_induction squeeze cs with
  | case1 rest ih => grind
  | case2 d rest h ih => grind
  | case3 => rfl

/-- The snake form of a clean name consists of letters, digits and underscores. -/
theorem mem_snake {c : Char} {cs : List Char} (h : c ∈ snake (clean cs)) : IsWordChar c := by
  have hlow := mem_squeeze.mp (Text.mem_of_mem_trimWhile h)
  obtain ⟨d, hd, rfl⟩ := List.mem_map.mp hlow
  rcases mem_splitCapitals hd with hd | rfl
  · obtain ⟨e, he, rfl⟩ := List.mem_map.mp hd
    -- of the connectors only the underscore is left, as hyphens have become underscores
    by_cases hhyphen : e = '-'
    · rw [if_pos hhyphen]
      exact Or.inr (by decide)
    · rw [if_neg hhyphen]
      rcases mem_clean he with he | he
      · exact Or.inl ((isAlphanum_toLower e).trans he)
      · obtain rfl : e = '_' := by simpa [isConnector, hhyphen] using he
        exact Or.inr (by decide)
  · exact Or.inr (by decide)

/-- The snake form of a clean name has a letter or a digit. -/
theorem exists_mem_snake (cs : List Char) : ∃ c ∈ snake (clean cs), c.isAlphanum := by
  obtain ⟨c, hc, halnum⟩ := exists_mem_clean cs
  have hlow := (isAlphanum_toLower c).trans halnum
  have hhyphen : c ≠ '-' := by
    rintro rfl
    exact absurd halnum (by decide)
  refine ⟨c.toLower, ?_, hlow⟩
  have hjoined : c ∈ (clean cs).map fun c => if c = '-' then '_' else c :=
    List.mem_map.mpr ⟨c, hc, if_neg hhyphen⟩
  -- a letter or digit is neither squeezed out nor trimmed away
  refine Text.mem_trimWhile_of_not
    (mem_squeeze.mpr (List.mem_map_of_mem (mem_splitCapitals_of_mem hjoined))) ?_
  simpa using ne_underscore_of_isAlphanum hlow

/-- The words of a clean name consist of letters and digits. -/
theorem isAlphanum_of_mem_words {c : Char} {cs word : List Char} (hw : word ∈ words (clean cs))
    (hc : c ∈ word) : c.isAlphanum := by
  obtain ⟨hsnake, hsep⟩ := Text.mem_of_mem_splitOn hw hc
  exact (mem_snake hsnake).resolve_right hsep

/-- One of the words of a clean name is not empty. -/
theorem exists_mem_words (cs : List Char) : ∃ word ∈ words (clean cs), word ≠ [] := by
  obtain ⟨c, hc, halnum⟩ := exists_mem_snake cs
  obtain ⟨word, hw, hcw⟩ := Text.exists_mem_splitOn hc (ne_underscore_of_isAlphanum halnum)
  exact ⟨word, hw, List.ne_nil_of_mem hcw⟩

/-- A capitalized word consists of letters and digits, as the word does. -/
theorem isAlphanum_of_mem_capitalize {c : Char} {word : List Char}
    (hword : ∀ d ∈ word, d.isAlphanum) (h : c ∈ capitalize word) : c.isAlphanum := by
  cases word with
  | nil => simp [capitalize] at h
  | cons d rest =>
    rcases List.mem_cons.mp h with rfl | h
    · exact (isAlphanum_toUpper d).trans (hword d List.mem_cons_self)
    · obtain ⟨e, he, rfl⟩ := List.mem_map.mp h
      exact (isAlphanum_toLower e).trans (hword e (List.mem_cons_of_mem d he))

/-- A word with characters has characters when it is capitalized. -/
theorem capitalize_ne_nil {word : List Char} (h : word ≠ []) : capitalize word ≠ [] := by
  cases word with
  | nil => exact absurd rfl h
  | cons c rest => simp [capitalize]

/-- A clean name consists of letters, digits and underscores in every style without hyphens. -/
theorem mem_restyle {style : NamingStyle} (hstyle : style ≠ .kebab) {c : Char} {cs : List Char}
    (h : c ∈ restyle style (clean cs)) : IsWordChar c := by
  have hcap : ∀ word ∈ words (clean cs), ∀ x ∈ capitalize word, x.isAlphanum :=
    fun word hw x => isAlphanum_of_mem_capitalize fun d => isAlphanum_of_mem_words hw
  cases style with
  | snake => exact mem_snake h
  | camel =>
    refine Or.inl ?_
    unfold restyle at h
    dsimp only at h
    split at h
    · simp at h
    · next first rest hwords =>
      rw [hwords] at hcap
      rcases List.mem_append.mp h with h | h
      · obtain ⟨d, hd, rfl⟩ := List.mem_map.mp h
        have hfirst : first ∈ words (clean cs) := hwords ▸ List.mem_cons_self
        exact (isAlphanum_toLower d).trans (isAlphanum_of_mem_words hfirst hd)
      · obtain ⟨word, hw, hx⟩ := List.mem_flatMap.mp h
        exact hcap word (List.mem_cons_of_mem first hw) c hx
  | pascal =>
    obtain ⟨word, hw, hx⟩ := List.mem_flatMap.mp h
    exact Or.inl (hcap word hw c hx)
  | kebab => exact absurd rfl hstyle
  | screamingSnake =>
    obtain ⟨d, hd, rfl⟩ := List.mem_map.mp h
    rcases mem_snake hd with hd | rfl
    · exact Or.inl ((isAlphanum_toUpper d).trans hd)
    · exact Or.inr (by decide)

/-- A clean name has characters in every style. -/
theorem restyle_ne_nil (style : NamingStyle) (cs : List Char) : restyle style (clean cs) ≠ [] := by
  obtain ⟨c, hc, -⟩ := exists_mem_snake cs
  obtain ⟨word, hw, hne⟩ := exists_mem_words cs
  have hsnake : snake (clean cs) ≠ [] := List.ne_nil_of_mem hc
  cases style with
  | snake => exact hsnake
  | camel =>
    unfold restyle
    dsimp only
    split
    · next hnil => simp [hnil] at hw
    · next first rest hwords =>
      rw [hwords] at hw
      rcases List.mem_cons.mp hw with rfl | hw
      · simp [hne]
      · have : rest.flatMap capitalize ≠ [] := by
          simpa using ⟨word, hw, capitalize_ne_nil hne⟩
        simp [this]
  | pascal => simpa [restyle] using ⟨word, hw, capitalize_ne_nil hne⟩
  | kebab => simpa [restyle] using hsnake
  | screamingSnake => simpa [restyle] using hsnake

/-- A text of letters, digits and underscores is an identifier once it is guarded against a digit in
front. -/
theorem isIdentifier_guardDigit {cs : List Char} (hne : cs ≠ []) (h : ∀ c ∈ cs, IsWordChar c) :
    IsIdentifier (String.ofList (guardDigit cs)) := by
  cases cs with
  | nil => exact absurd rfl hne
  | cons c rest =>
    rw [guardDigit]
    split
    · exact ⟨'_', c :: rest, String.toList_ofList, Or.inr rfl, h⟩
    · next hdigit =>
      refine ⟨c, rest, String.toList_ofList, ?_, fun x hx => h x (List.mem_cons_of_mem c hx)⟩
      refine (h c List.mem_cons_self).imp_left fun halnum => ?_
      rw [Char.isAlphanum, Bool.or_eq_true] at halnum
      exact halnum.resolve_right hdigit

/-- A name becomes an identifier in every style without hyphens. -/
theorem isIdentifier_identifier {style : NamingStyle} (hstyle : style ≠ .kebab) (name : String) :
    IsIdentifier (identifier style name) :=
  isIdentifier_guardDigit (restyle_ne_nil style name.toList) fun _ => mem_restyle hstyle

end Naming

/-- An identifier stays one with word characters behind it. -/
theorem IsIdentifier.append {s t : String} (hs : IsIdentifier s)
    (ht : ∀ c ∈ t.toList, IsWordChar c) : IsIdentifier (s ++ t) := by
  obtain ⟨c, rest, hsplit, hfirst, hrest⟩ := hs
  refine ⟨c, rest ++ t.toList, by simp [String.toList_append, hsplit], hfirst, ?_⟩
  intro x hx
  rcases List.mem_append.mp hx with hx | hx
  · exact hrest x hx
  · exact ht x hx

/-- The suffix of a reserved word is a word character. -/
theorem isWordChar_of_mem_suffix {c : Char} (h : c ∈ "_".toList) : IsWordChar c :=
  Or.inr (by simpa using h)

/-- The digits of a number are word characters. -/
theorem isWordChar_of_mem_number {n : Nat} {c : Char} (h : c ∈ (toString n).toList) :
    IsWordChar c := by
  have h : c ∈ n.repr.toList := h
  rw [Nat.toList_repr] at h
  have hdigit := Nat.isDigit_of_mem_toDigits (by decide) (by decide) h
  exact Or.inl (by simp [Char.isAlphanum, hdigit])

namespace Sanitizer

/-- What a sanitizer makes of a name by itself is an identifier in every style without hyphens. -/
theorem isIdentifier_shared {style : NamingStyle} (hstyle : style ≠ .kebab) (s : Sanitizer)
    (name : String) : IsIdentifier (s.shared name style) := by
  unfold shared avoidReserved
  split
  · exact (Naming.isIdentifier_identifier hstyle name).append fun _ => isWordChar_of_mem_suffix
  · exact Naming.isIdentifier_identifier hstyle name

/-- What a sanitizer hands out for a name is an identifier in every style without hyphens. -/
theorem isIdentifier_unique {style : NamingStyle} (hstyle : style ≠ .kebab) (s : Sanitizer)
    (name : String) : IsIdentifier (s.unique name style).1 := by
  have hshared := isIdentifier_shared hstyle s name
  rcases s.avoidUsed_eq "_" (s.shared name style) with h | ⟨n, h⟩
  · rw [unique, h]
    exact hshared
  · rw [unique, h, candidate, if_pos rfl]
    have hsuffix := hshared.append fun _ => isWordChar_of_mem_suffix
    exact hsuffix.append fun _ => isWordChar_of_mem_number

end Sanitizer

end SchemaStruct
