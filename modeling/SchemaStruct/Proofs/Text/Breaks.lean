import SchemaStruct.Proofs.Naming.Identifier

/-!
# Line Breaks

Lines end at many characters, and a text that is cut into lines and put together again with line
feeds is another text as soon as one of the others is in it. A text without them, in which the line
feed is the only line break and also stands at the end, comes back unchanged.

## Main definitions

* `Text.ConsistsOf`: all characters of a text have a property;
* `Text.IsOrdinary`: a character that is no line break, unless it is the line feed;
* `Text.FeedsOnly`: a text without line breaks but line feeds.

## Main results

* `Text.not_isLineBreak_of_mem_lines`: there are no line breaks in the lines of a text;
* `Text.flatMap_lines`: when the lines of a text give the text back.
-/

namespace SchemaStruct.Text

/-- All characters of the text have the property `p`. -/
def ConsistsOf (p : Char → Prop) (s : String) : Prop := ∀ c ∈ s.toList, p c

instance (p : Char → Prop) [DecidablePred p] (s : String) : Decidable (ConsistsOf p s) :=
  List.decidableBAll p s.toList

section

variable {p : Char → Prop} {s t : String} {cs : List Char}

/-- A text of two parts. -/
@[simp]
theorem consistsOf_append : ConsistsOf p (s ++ t) ↔ ConsistsOf p s ∧ ConsistsOf p t := by
  simp [ConsistsOf, or_imp, forall_and]

/-- The text of some characters. -/
@[simp]
theorem consistsOf_ofList : ConsistsOf p (String.ofList cs) ↔ ∀ c ∈ cs, p c := by
  rw [ConsistsOf, String.toList_ofList]

/-- The empty text has no characters. -/
@[simp]
theorem consistsOf_empty : ConsistsOf p "" := by
  simp [ConsistsOf]

/-- A text of some parts, one behind the other. -/
theorem consistsOf_join {parts : List String} (h : ∀ part ∈ parts, ConsistsOf p part) :
    ConsistsOf p (String.join parts) := by
  intro c hc
  rw [String.toList_join, List.mem_flatMap] at hc
  obtain ⟨part, hpart, hc⟩ := hc
  exact h part hpart c hc

/-- What is joined consists of what the separator and the pieces consist of. -/
theorem mem_of_mem_joinWith {sep : List Char} {pieces : List (List Char)} {c : Char}
    (h : c ∈ joinWith sep pieces) : c ∈ sep ∨ ∃ piece ∈ pieces, c ∈ piece := by
  induction pieces with
  | nil => cases h
  | cons piece pieces ih =>
    cases pieces with
    | nil => exact .inr ⟨piece, List.mem_cons_self, h⟩
    | cons next pieces =>
      have h : c ∈ piece ++ sep ++ joinWith sep (next :: pieces) := h
      rw [List.mem_append, List.mem_append] at h
      rcases h with (h | h) | h
      · exact .inr ⟨piece, List.mem_cons_self, h⟩
      · exact .inl h
      · exact (ih h).imp_right fun ⟨other, hother, hc⟩ =>
          ⟨other, List.mem_cons_of_mem piece hother, hc⟩

end

/-- The character is no line break, unless it is the line feed. -/
def IsOrdinary (c : Char) : Prop := isLineBreak c = true → c = '\n'

instance : DecidablePred IsOrdinary := fun c =>
  inferInstanceAs (Decidable (isLineBreak c = true → c = '\n'))

/-- The character can be printed in ASCII. -/
def IsPrintableAscii (c : Char) : Prop := 32 ≤ c.toNat ∧ c.toNat < 127

instance : DecidablePred IsPrintableAscii := fun c =>
  inferInstanceAs (Decidable (32 ≤ c.toNat ∧ c.toNat < 127))

/-- The characters that end a line. -/
def lineBreaks : List Char :=
  ['\n', '\r', '\x0b', '\x0c', '\x1c', '\x1d', '\x1e', '\u0085', '\u2028', '\u2029']

/-- The text has no line breaks but line feeds. -/
abbrev FeedsOnly (s : String) : Prop := ConsistsOf IsOrdinary s

section

variable {c : Char} {cs : List Char}

/-- What is seen of the ten characters that end a line holds of every line break. -/
theorem of_isLineBreak {p : Char → Bool} (hp : lineBreaks.all p = true)
    (h : isLineBreak c = true) : p c = true := by
  refine List.all_eq_true.mp hp c ?_
  simp only [isLineBreak, Bool.or_eq_true, decide_eq_true_eq, or_assoc] at h
  simpa only [lineBreaks, List.mem_cons, List.not_mem_nil, or_false] using h

/-- Characters that can be printed in ASCII are no line breaks. -/
theorem isLineBreak_of_isPrintableAscii (h : IsPrintableAscii c) : isLineBreak c = false := by
  by_contra hbreak
  have hfar : (!decide (IsPrintableAscii c)) = true :=
    of_isLineBreak (p := fun c => !decide (IsPrintableAscii c)) (by decide) (by simpa using hbreak)
  simp [h] at hfar

/-- A character that is no line break is ordinary. -/
theorem isOrdinary_of_not_isLineBreak (h : isLineBreak c = false) : IsOrdinary c := fun hbreak => by
  rw [h] at hbreak
  cases hbreak

/-- The characters of words are ordinary. -/
theorem isOrdinary_of_isWordChar (h : IsWordChar c) : IsOrdinary c := by
  refine isOrdinary_of_not_isLineBreak ?_
  rcases h with halnum | rfl
  · have hrange : 48 ≤ c.toNat ∧ c.toNat ≤ 122 := by
      simp only [Char.isAlphanum, Char.isAlpha, Char.isUpper, Char.isLower, Char.isDigit,
        Bool.or_eq_true, Bool.and_eq_true, decide_eq_true_eq, UInt32.le_iff_toNat_le] at halnum
      change ((65 ≤ c.toNat ∧ c.toNat ≤ 90) ∨ 97 ≤ c.toNat ∧ c.toNat ≤ 122) ∨
        48 ≤ c.toNat ∧ c.toNat ≤ 57 at halnum
      omega
    exact isLineBreak_of_isPrintableAscii ⟨by omega, by omega⟩
  · decide

/-- The lines of a text have no line breaks in them if the line that they begin with has none. -/
theorem not_isLineBreak_of_mem_linesFrom {line piece : List Char}
    (hline : ∀ c ∈ line, isLineBreak c = false) (h : piece ∈ linesFrom line cs) :
    ∀ c ∈ piece, isLineBreak c = false := by
  fun_induction linesFrom line cs with
  | case1 => cases h
  | case2 line =>
    rw [List.mem_singleton.mp h]
    exact fun c hc => hline c (List.mem_reverse.mp hc)
  | case3 line rest ih | case4 line c rest _ _ ih =>
    -- a break ends the line at hand, and the next one is empty so far
    rcases List.mem_cons.mp h with rfl | h
    · exact fun c hc => hline c (List.mem_reverse.mp hc)
    · exact ih nofun h
  | case5 line c rest _ hbreak ih =>
    exact ih (List.forall_mem_cons.mpr ⟨Bool.eq_false_iff.mpr hbreak, hline⟩) h

/-- The lines of a text have no line breaks in them. -/
theorem not_isLineBreak_of_mem_lines {line : List Char} (h : line ∈ lines cs) :
    ∀ c ∈ line, isLineBreak c = false :=
  not_isLineBreak_of_mem_linesFrom (List.forall_mem_nil _) h

/-- A line that has been begun and the lines of a text of ordinary characters that ends in a line
feed give both back, with a line feed behind each line. -/
theorem flatMap_linesFrom (line : List Char) (hcs : ∀ c ∈ cs, IsOrdinary c)
    (hlast : cs.getLast? = some '\n') :
    (linesFrom line cs).flatMap (· ++ ['\n']) = line.reverse ++ cs := by
  fun_induction linesFrom line cs with
  | case1 | case2 => cases hlast
  | case3 line rest =>
    -- a carriage return is not ordinary
    exact absurd (hcs '\r' List.mem_cons_self) (by decide)
  | case4 line c rest _ hbreak ih =>
    obtain ⟨hc, hrest⟩ := List.forall_mem_cons.mp hcs
    obtain rfl := hc hbreak
    rw [List.flatMap_cons]
    cases rest with
    | nil => exact List.append_nil _
    | cons d rest =>
      rw [List.getLast?_cons_cons] at hlast
      rw [ih hrest hlast]
      simp
  | case5 line c rest _ hbreak ih =>
    obtain ⟨-, hrest⟩ := List.forall_mem_cons.mp hcs
    cases rest with
    | nil =>
      -- the line feed at the end is a break
      obtain rfl := Option.some.inj hlast
      exact absurd rfl hbreak
    | cons d rest =>
      rw [List.getLast?_cons_cons] at hlast
      rw [ih hrest hlast]
      simp

/-- A text of ordinary characters that ends in a line feed is what its lines are with a line feed
behind each of them. -/
theorem flatMap_lines (hcs : ∀ c ∈ cs, IsOrdinary c) (hlast : cs.getLast? = some '\n') :
    (lines cs).flatMap (· ++ ['\n']) = cs :=
  flatMap_linesFrom [] hcs hlast

end

end SchemaStruct.Text
