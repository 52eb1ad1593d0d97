import Mathlib
import SchemaStruct.Proofs.Naming.Initials
import SchemaStruct.Proofs.Text.Breaks
import SchemaStruct.Proofs.Text.Lines
import SchemaStruct.Source.Description

/-!
# Lines of Descriptions

A description is trimmed, cut at its line breaks, and each line is trimmed at its end. All line
breaks are blanks, so trimming leaves no break at either end of the description: the first and the
last of its lines have text. Nothing but blanks is lost, and cutting a second time changes nothing.

## Main definitions

* `Description.IsCut`: what the lines of a description are like.

## Main results

* `Text.lines_joinWith`: lines that are joined by line feeds are cut into the same lines;
* `Text.filter_flatten_linesFrom`: cutting a text into lines loses blanks only;
* `Description.linesOfText_eq_nil_iff`: a description without lines is blank;
* `Description.isCut_linesOfText`: the lines of a description.
-/

namespace SchemaStruct

namespace Text

section

variable {c : Char} {line cs : List Char}

/-- Line breaks are blank. -/
theorem isBlank_of_isLineBreak (h : isLineBreak c = true) : isBlank c = true :=
  of_isLineBreak (by decide) h

/-- A character that is no blank is no line break. -/
theorem not_isLineBreak_of_not_isBlank (h : isBlank c = false) : isLineBreak c = false := by
  by_contra hbreak
  have hblank := isBlank_of_isLineBreak (Bool.eq_true_of_not_eq_false hbreak)
  rw [h] at hblank
  cases hblank

/-- At the end of the text, the line that has been begun is one if there is anything on it. -/
theorem linesFrom_nil (line : List Char) :
    linesFrom line [] = if line.isEmpty then [] else [line.reverse] := rfl

/-- A character that is no line break belongs to the line that has been begun. -/
theorem linesFrom_cons (hc : isLineBreak c = false) (cs : List Char) :
    linesFrom line (c :: cs) = linesFrom (c :: line) cs := by
  rw [linesFrom.eq_def]
  split
  case h_1 h => cases h
  case h_2 h =>
    -- the carriage return in front of a line feed is a line break
    obtain ⟨rfl, -⟩ := List.cons.inj h
    cases hc
  case h_3 h =>
    obtain ⟨rfl, rfl⟩ := List.cons.inj h
    rw [if_neg (by simp [hc])]

/-- A line ends at a line feed. -/
theorem linesFrom_append_feed (hcs : ∀ c ∈ cs, isLineBreak c = false) (rest : List Char) :
    linesFrom line (cs ++ '\n' :: rest) = (line.reverse ++ cs) :: lines rest := by
  induction cs generalizing line with
  | nil =>
    rw [List.append_nil]
    rfl
  | cons c cs ih =>
    obtain ⟨hc, hcs⟩ := List.forall_mem_cons.mp hcs
    rw [List.cons_append, linesFrom_cons hc, ih hcs, List.reverse_cons]
    simp

/-- A text without line breaks is its only line, if there is anything on it. -/
theorem linesFrom_of_unbroken (hcs : ∀ c ∈ cs, isLineBreak c = false)
    (hne : line.reverse ++ cs ≠ []) : linesFrom line cs = [line.reverse ++ cs] := by
  induction cs generalizing line with
  | nil =>
    rw [List.append_nil] at hne ⊢
    rw [linesFrom_nil, if_neg (by simpa using hne)]
  | cons c cs ih =>
    obtain ⟨hc, hcs⟩ := List.forall_mem_cons.mp hcs
    rw [linesFrom_cons hc, ih hcs (by simp)]
    simp

/-- Lines without line breaks that are joined by line feeds are cut into the same lines, if the last
one is not empty. -/
theorem lines_joinWith {pieces : List (List Char)}
    (hpieces : ∀ piece ∈ pieces, ∀ c ∈ piece, isLineBreak c = false)
    (hlast : ∀ piece ∈ pieces.getLast?, piece ≠ []) : lines (joinWith ['\n'] pieces) = pieces := by
  induction pieces with
  | nil => rfl
  | cons piece pieces ih =>
    obtain ⟨hpiece, hpieces⟩ := List.forall_mem_cons.mp hpieces
    cases pieces with
    | nil => exact linesFrom_of_unbroken hpiece (hlast piece rfl)
    | cons next pieces =>
      have hjoin : joinWith ['\n'] (piece :: next :: pieces) =
          piece ++ '\n' :: joinWith ['\n'] (next :: pieces) := by simp [joinWith]
      rw [hjoin, lines, linesFrom_append_feed hpiece, ih hpieces (by simpa using hlast)]
      rfl

/-- Joined pieces begin as the first of them. -/
theorem head?_joinWith {sep more : List Char} {pieces : List (List Char)}
    (h : pieces.head? = some (c :: more)) : (joinWith sep pieces).head? = some c := by
  cases pieces with
  | nil => cases h
  | cons piece pieces =>
    obtain rfl : piece = c :: more := Option.some.inj h
    cases pieces <;> simp [joinWith]

/-- They end as the last of them. -/
theorem getLast?_joinWith {sep front : List Char} {pieces : List (List Char)}
    (h : pieces.getLast? = some (front ++ [c])) : (joinWith sep pieces).getLast? = some c := by
  induction pieces with
  | nil => cases h
  | cons piece pieces ih =>
    cases pieces with
    | nil =>
      obtain rfl := Option.some.inj h
      simp [joinWith]
    | cons next pieces =>
      rw [List.getLast?_cons_cons] at h
      have hjoin : joinWith sep (piece :: next :: pieces) =
          piece ++ sep ++ joinWith sep (next :: pieces) := by simp [joinWith]
      rw [hjoin, List.getLast?_append, ih h]
      rfl

/-- The line that has been begun is the first one, whatever comes behind. -/
theorem exists_linesFrom_eq (hline : line ≠ []) (cs : List Char) :
    ∃ more rest, linesFrom line cs = (line.reverse ++ more) :: rest := by
  fun_induction linesFrom line cs with
  | case1 line hempty => exact absurd (by simpa using hempty) hline
  | case2 line => exact ⟨[], [], by rw [List.append_nil]⟩
  | case3 line rest | case4 line c rest => exact ⟨[], _, by rw [List.append_nil]⟩
  | case5 line c rest _ _ ih =>
    obtain ⟨more, others, h⟩ := ih (by simp)
    exact ⟨c :: more, others, by rw [h]; simp⟩

/-- The last line ends in the last character, if that is no line break. -/
theorem exists_getLast?_linesFrom (hlast : c ∈ cs.getLast?) (hc : isLineBreak c = false) :
    ∃ front, (linesFrom line cs).getLast? = some (front ++ [c]) := by
  have hbehind : ∀ (first : List Char) (others : List (List Char)) (front : List Char),
      others.getLast? = some (front ++ [c]) → (first :: others).getLast? = some (front ++ [c]) := by
    intro first others front h
    rw [List.getLast?_cons, h]
    rfl
  fun_induction linesFrom line cs with
  | case1 | case2 => cases hlast
  | case3 line rest ih =>
    cases rest with
    | nil =>
      obtain rfl := Option.some.inj hlast
      cases hc
    | cons d rest =>
      rw [List.getLast?_cons_cons, List.getLast?_cons_cons] at hlast
      obtain ⟨front, h⟩ := ih hlast
      exact ⟨front, hbehind _ _ _ h⟩
  | case4 line d rest _ hbreak ih =>
    cases rest with
    | nil =>
      obtain rfl : d = c := Option.some.inj hlast
      rw [hc] at hbreak
      cases hbreak
    | cons e rest =>
      rw [List.getLast?_cons_cons] at hlast
      obtain ⟨front, h⟩ := ih hlast
      exact ⟨front, hbehind _ _ _ h⟩
  | case5 line d rest _ _ ih =>
    cases rest with
    | nil =>
      -- the line that has been begun ends here
      obtain rfl : d = c := Option.some.inj hlast
      exact ⟨line.reverse, by simp [linesFrom_nil]⟩
    | cons e rest => exact ih (by rwa [List.getLast?_cons_cons] at hlast)

/-- Cutting a text into lines loses blanks only. -/
theorem filter_flatten_linesFrom (line cs : List Char) :
    (linesFrom line cs).flatten.filter (!isBlank ·) =
      (line.reverse ++ cs).filter (!isBlank ·) := by
  fun_induction linesFrom line cs with
  | case1 line hempty =>
    obtain rfl := List.isEmpty_iff.mp hempty
    rfl
  | case2 line => simp
  | case3 line rest ih =>
    have hreturn : isBlank '\r' = true := by decide
    have hfeed : isBlank '\n' = true := by decide
    simp [ih, hreturn, hfeed]
  | case4 line d rest _ hbreak ih => simp [ih, isBlank_of_isLineBreak hbreak]
  | case5 line d rest _ _ ih => simp [ih]

end

end Text

namespace Description

open Text

/-- What the lines of a description are like. -/
structure IsCut (s : String) (lines : List String) : Prop where
  /-- The first line has text. -/
  first : ∀ line ∈ lines.head?, ∃ c ∈ line.toList, isBlank c = false
  /-- The last line has text. -/
  last : ∀ line ∈ lines.getLast?, ∃ c ∈ line.toList, isBlank c = false
  /-- No line ends in a blank. -/
  ends : ∀ line ∈ lines, ∀ c ∈ line.toList.getLast?, isBlank c = false
  /-- There are no line breaks in the lines. -/
  unbroken : ∀ line ∈ lines, ∀ c ∈ line.toList, isLineBreak c = false
  /-- Joined by line feeds, they are cut into the same lines. -/
  joined : Text.lines (joinWith ['\n'] (lines.map String.toList)) = lines.map String.toList
  /-- The description made of them has the same lines. -/
  settled : linesOfText (String.ofList (joinWith ['\n'] (lines.map String.toList))) = lines
  /-- Without blanks they are the description. -/
  complete : (lines.flatMap String.toList).filter (!isBlank ·) = s.toList.filter (!isBlank ·)

/-- The lines of a description, as lists of characters. -/
def cut (cs : List Char) : List (List Char) := (Text.lines (trim cs)).map trimEnd

/-- The lines of a text are cut from its characters. -/
theorem linesOfText_eq (s : String) : linesOfText s = (cut s.toList).map String.ofList := by
  simp [linesOfText, cut]

/-- The characters of the lines of a text. -/
theorem map_toList_linesOfText (s : String) : (linesOfText s).map String.toList = cut s.toList := by
  rw [linesOfText_eq, List.map_map]
  simp [Function.comp_def]

/-- The characters of a line are a line of the characters. -/
theorem toList_mem_cut {s line : String} (h : line ∈ linesOfText s) :
    line.toList ∈ cut s.toList := by
  rw [← map_toList_linesOfText]
  exact List.mem_map_of_mem h

section

variable {cs piece : List Char}

/-- A line is one of the trimmed text, without the blanks at its end. -/
theorem exists_of_mem_cut (h : piece ∈ cut cs) :
    ∃ line ∈ Text.lines (trim cs), piece = trimEnd line := by
  obtain ⟨line, hline, rfl⟩ := List.mem_map.mp h
  exact ⟨line, hline, rfl⟩

/-- There are no line breaks in the lines. -/
theorem not_isLineBreak_of_mem_cut (h : piece ∈ cut cs) : ∀ c ∈ piece, isLineBreak c = false := by
  obtain ⟨line, hline, rfl⟩ := exists_of_mem_cut h
  exact fun c hc => not_isLineBreak_of_mem_lines hline c (mem_of_mem_trimEnd hc)

/-- Something is left of a text that is not blank. -/
theorem trim_ne_nil (h : ∃ c ∈ cs, isBlank c = false) : trim cs ≠ [] := by
  obtain ⟨c, hc, hblank⟩ := h
  exact List.ne_nil_of_mem (mem_trimWhile_of_not hc (by simp [hblank]))

/-- A text that is not blank begins with a character of the first line, which is no blank. -/
theorem exists_cut_eq (h : ∃ c ∈ cs, isBlank c = false) :
    ∃ c more others, isBlank c = false ∧ cut cs = (c :: more) :: others := by
  cases htrim : trim cs with
  | nil => exact absurd htrim (trim_ne_nil h)
  | cons c rest =>
    have hc : isBlank c = false := not_of_trimWhile_eq_cons htrim
    have hbreak : isLineBreak c = false := not_isLineBreak_of_not_isBlank hc
    have hbegun : [c] ≠ [] := by simp
    obtain ⟨more, others, hlines⟩ := exists_linesFrom_eq hbegun rest
    refine ⟨c, trimEnd more, others.map trimEnd, hc, ?_⟩
    rw [cut, htrim, Text.lines, linesFrom_cons hbreak, hlines]
    change trimEnd (c :: more) :: _ = _
    rw [trimEnd, trimEndWhile_cons hc]
    rfl

/-- It ends with a character of the last line, which is no blank. -/
theorem exists_getLast?_cut (h : ∃ c ∈ cs, isBlank c = false) :
    ∃ front d, isBlank d = false ∧ (cut cs).getLast? = some (front ++ [d]) := by
  obtain ⟨d, hd⟩ := Option.isSome_iff_exists.mp (List.getLast?_isSome.mpr (trim_ne_nil h))
  have hblank : isBlank d = false := not_of_mem_getLast?_trimEndWhile hd
  obtain ⟨front, hfront⟩ := exists_getLast?_linesFrom hd (not_isLineBreak_of_not_isBlank hblank)
  refine ⟨front, d, hblank, ?_⟩
  rw [cut, List.getLast?_map, Text.lines, hfront]
  exact congrArg some (List.rdropWhile_concat_neg isBlank front d (by simp [hblank]))

/-- A text without lines is blank. -/
theorem cut_eq_nil_iff : cut cs = [] ↔ ∀ c ∈ cs, isBlank c = true := by
  constructor
  · intro hnil c hc
    by_contra hblank
    obtain ⟨_, _, _, -, hcut⟩ := exists_cut_eq ⟨c, hc, by simpa using hblank⟩
    rw [hnil] at hcut
    cases hcut
  · intro h
    have htrim : trim cs = [] := by
      by_contra hne
      obtain ⟨c, hc, hblank⟩ := exists_mem_trimWhile hne
      exact hblank (h c (mem_of_mem_trimWhile hc))
    rw [cut, htrim]
    rfl

/-- The first line begins with a character that is no blank. -/
theorem exists_eq_cons_of_mem_head? (h : piece ∈ (cut cs).head?) :
    ∃ c more, isBlank c = false ∧ piece = c :: more := by
  by_cases htext : ∃ c ∈ cs, isBlank c = false
  · obtain ⟨c, more, others, hc, hcut⟩ := exists_cut_eq htext
    rw [hcut] at h
    exact ⟨c, more, hc, (Option.some.inj h).symm⟩
  · rw [cut_eq_nil_iff.mpr (by simpa using htext)] at h
    cases h

/-- The last line ends with a character that is no blank. -/
theorem exists_eq_concat_of_mem_getLast? (h : piece ∈ (cut cs).getLast?) :
    ∃ front d, isBlank d = false ∧ piece = front ++ [d] := by
  by_cases htext : ∃ c ∈ cs, isBlank c = false
  · obtain ⟨front, d, hd, hcut⟩ := exists_getLast?_cut htext
    rw [hcut] at h
    exact ⟨front, d, hd, (Option.some.inj h).symm⟩
  · rw [cut_eq_nil_iff.mpr (by simpa using htext)] at h
    cases h

/-- Joined by line feeds, the lines are cut into the same lines. -/
theorem lines_joinWith_cut (cs : List Char) :
    Text.lines (joinWith ['\n'] (cut cs)) = cut cs := by
  refine lines_joinWith (fun _ => not_isLineBreak_of_mem_cut) fun last hlast => ?_
  obtain ⟨front, d, -, rfl⟩ := exists_eq_concat_of_mem_getLast? hlast
  simp

/-- Cutting a second time changes nothing. -/
theorem cut_joinWith_cut (cs : List Char) : cut (joinWith ['\n'] (cut cs)) = cut cs := by
  have htrim : trim (joinWith ['\n'] (cut cs)) = joinWith ['\n'] (cut cs) := by
    cases hfirst : (cut cs).head? with
    | none =>
      rw [List.head?_eq_none_iff.mp hfirst]
      rfl
    | some first =>
      cases hlast : (cut cs).getLast? with
      | none =>
        rw [List.getLast?_eq_none_iff.mp hlast]
        rfl
      | some last =>
        obtain ⟨c, more, hc, rfl⟩ := exists_eq_cons_of_mem_head? hfirst
        obtain ⟨front, d, hd, rfl⟩ := exists_eq_concat_of_mem_getLast? hlast
        exact trimWhile_eq_self (head?_joinWith hfirst) (getLast?_joinWith hlast) hc hd
  have hends : ∀ line, trimEnd (trimEnd line) = trimEnd line :=
    fun line => List.rdropWhile_idempotent isBlank line
  rw [cut, htrim, lines_joinWith_cut, cut, List.map_map]
  exact List.map_congr_left fun line _ => hends line

/-- Without blanks the lines are the text. -/
theorem filter_flatten_cut (cs : List Char) :
    (cut cs).flatten.filter (!isBlank ·) = cs.filter (!isBlank ·) := by
  have hline : (List.filter (!isBlank ·) ∘ trimEnd) = List.filter (!isBlank ·) :=
    funext fun line => filter_trimEndWhile line
  calc (cut cs).flatten.filter (!isBlank ·)
      = (Text.lines (trim cs)).flatten.filter (!isBlank ·) := by
        rw [cut, List.filter_flatten, List.map_map, hline, ← List.filter_flatten]
    _ = (trim cs).filter (!isBlank ·) := filter_flatten_linesFrom [] (trim cs)
    _ = cs.filter (!isBlank ·) := filter_trimWhile cs

end

/-- A description without lines is blank. -/
theorem linesOfText_eq_nil_iff {s : String} :
    linesOfText s = [] ↔ ∀ c ∈ s.toList, isBlank c = true := by
  rw [linesOfText_eq, List.map_eq_nil_iff, cut_eq_nil_iff]

/-- What the lines of a description are like. -/
theorem isCut_linesOfText (s : String) : IsCut s (linesOfText s) where
  first line hline := by
    have hhead : line.toList ∈ (cut s.toList).head? := by
      rw [← map_toList_linesOfText, List.head?_map]
      exact Option.mem_map_of_mem _ hline
    obtain ⟨c, more, hc, hchars⟩ := exists_eq_cons_of_mem_head? hhead
    exact ⟨c, hchars ▸ List.mem_cons_self, hc⟩
  last line hline := by
    have hlast : line.toList ∈ (cut s.toList).getLast? := by
      rw [← map_toList_linesOfText, List.getLast?_map]
      exact Option.mem_map_of_mem _ hline
    obtain ⟨front, d, hd, hchars⟩ := exists_eq_concat_of_mem_getLast? hlast
    exact ⟨d, hchars ▸ by simp, hd⟩
  ends line hline c hc := by
    obtain ⟨whole, -, hwhole⟩ := exists_of_mem_cut (toList_mem_cut hline)
    rw [hwhole] at hc
    exact not_of_mem_getLast?_trimEndWhile hc
  unbroken line hline := not_isLineBreak_of_mem_cut (toList_mem_cut hline)
  joined := by
    rw [map_toList_linesOfText]
    exact lines_joinWith_cut s.toList
  settled := by
    rw [map_toList_linesOfText, linesOfText_eq, String.toList_ofList, cut_joinWith_cut,
      ← linesOfText_eq]
  complete := by
    rw [List.flatMap_def, map_toList_linesOfText]
    exact filter_flatten_cut s.toList

end Description

end SchemaStruct
