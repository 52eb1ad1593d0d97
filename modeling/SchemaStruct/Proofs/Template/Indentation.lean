import SchemaStruct.Proofs.Faults
import SchemaStruct.Proofs.Text.Lines

/-!
# Indented Texts

The filter that indents a text puts something in front of each of its lines that has text, and
empties the other lines. What stands in front of the lines may be given as a text or as a number of
blanks. As long as it has no line feed in it, the text keeps its lines, so that it can be indented
again: this puts both fronts before its lines at once.

## Main definitions

* `Filter.StandsFor`: a value that stands for a text in front of lines;
* `Filter.indentLine` and `Filter.indented`: a line and a text with something in front.

## Main results

* `Filter.indentLines_eq`: what the filter does;
* `Filter.splitOn_indented`: the lines of an indented text;
* `Filter.indented_indented`: a text that is indented twice.
-/

namespace SchemaStruct.Template.Filter

open Text

/-- What an indentation puts in front of a line, if it can stand there. -/
def Indentation.front? : Indentation → Option (List Char)
  | blanks n => some (List.replicate n ' ')
  | text cs => some cs
  | unfit => none

/-- Whether a value stands for `front` before lines: it is this text, or a number of blanks that
comes to it. -/
def StandsFor (v : Value) (front : List Char) : Prop :=
  ∃ indentation, Indentation.ofValue v = .ok indentation ∧ indentation.front? = some front

/-- A line behind `front`, if it has text. -/
def indentLine (front line : List Char) : List Char := if hasText line then front ++ line else []

/-- A text with each of its lines indented. -/
def indented (front : List Char) (s : String) : String :=
  String.ofList (joinWith ['\n'] ((splitOn '\n' s.toList).map (indentLine front)))

variable {v : Value} {front p q line : List Char}

/-- A text stands for itself. -/
theorem standsFor_ofText (s : String) : StandsFor (.ofText s) s.toList := ⟨_, rfl, rfl⟩

/-- A number of blanks stands for these, unless it is beyond the length of every text. -/
theorem standsFor_int {n : Int} (hlow : -lengthLimit ≤ n) (hhigh : n < memoryLimit) :
    StandsFor (.given (.int n)) (List.replicate n.toNat ' ') := by
  refine ⟨.blanks n.toNat, ?_, rfl⟩
  have hfit : ¬ (decide (n < -lengthLimit) || decide (memoryLimit ≤ n)) = true := by
    simp only [Bool.or_eq_true, decide_eq_true_eq]
    omega
  rw [Indentation.ofValue, if_neg hfit]

/-- A line is put behind what an indentation puts in front. -/
theorem Indentation.before_eq {indentation : Indentation}
    (h : indentation.front? = some front) (line : List Char) :
    indentation.before line = .ok (front ++ line) := by
  cases indentation with
  | blanks n => exact congrArg (fun cs => Except.ok (cs ++ line)) (Option.some.inj h)
  | text cs => exact congrArg (fun cs => Except.ok (cs ++ line)) (Option.some.inj h)
  | unfit => cases h

/-- The filter indents each line. -/
theorem indentLines_eq (h : StandsFor v front) (s : String) :
    indentLines v s = .ok (indented front s) := by
  obtain ⟨indentation, hvalue, hfront⟩ := h
  have hlines : (splitOn '\n' s.toList).mapM
      (fun line => if hasText line then indentation.before line else .ok []) =
        .ok ((splitOn '\n' s.toList).map (indentLine front)) :=
    mapM_eq_ok fun line _ => by
      rw [indentLine, Indentation.before_eq hfront]
      split <;> rfl
  rw [indentLines, hvalue]
  show mapLines _ s = _
  rw [mapLines, hlines]
  rfl

/-- A line with text has it behind a front as well. -/
theorem indentLine_of_hasText (h : hasText line = true) : indentLine front line = front ++ line :=
  if_pos h

/-- A line without text is emptied. -/
theorem indentLine_of_not_hasText (h : hasText line = false) : indentLine front line = [] := by
  rw [indentLine, h]
  rfl

/-- An indented line has text if the line has. -/
theorem hasText_indentLine : hasText (indentLine front line) = hasText line := by
  cases h : hasText line with
  | true => rw [indentLine_of_hasText h, hasText_append, h, Bool.or_true]
  | false => rw [indentLine_of_not_hasText h]; rfl

/-- Indenting a line twice puts both fronts before it. -/
theorem indentLine_indentLine : indentLine p (indentLine q line) = indentLine (p ++ q) line := by
  cases h : hasText line with
  | true =>
    rw [indentLine_of_hasText (hasText_indentLine.trans h), indentLine_of_hasText h,
      indentLine_of_hasText h, List.append_assoc]
  | false =>
    rw [indentLine_of_not_hasText (hasText_indentLine.trans h), indentLine_of_not_hasText h]

/-- An indented line is empty only if the line has no text. -/
theorem indentLine_eq_nil_iff : indentLine front line = [] ↔ hasText line = false := by
  constructor
  · intro h
    have hline : hasText (indentLine front line) = hasText line := hasText_indentLine
    rw [← hline, h]
    rfl
  · exact indentLine_of_not_hasText

/-- A front without a line feed leaves a line in one piece. -/
theorem not_mem_indentLine (hfront : '\n' ∉ front) (hline : '\n' ∉ line) :
    '\n' ∉ indentLine front line := by
  unfold indentLine
  split
  · simp [hfront, hline]
  · exact List.not_mem_nil

/-- The lines of an indented text are the indented lines of the text. -/
theorem splitOn_indented (hfront : '\n' ∉ front) (s : String) :
    splitOn '\n' (indented front s).toList = (splitOn '\n' s.toList).map (indentLine front) := by
  rw [indented, String.toList_ofList]
  refine splitOn_joinWith_of_not_mem (by simp [splitOn_ne_nil]) fun line hline => ?_
  obtain ⟨piece, hpiece, rfl⟩ := List.mem_map.mp hline
  exact not_mem_indentLine hfront (not_mem_of_mem_splitOn hpiece)

/-- A text that is indented twice has both fronts before its lines. -/
theorem indented_indented (hq : '\n' ∉ q) (s : String) :
    indented p (indented q s) = indented (p ++ q) s := by
  rw [indented, splitOn_indented hq, List.map_map, indented]
  congr 3
  funext line
  exact indentLine_indentLine

/-- The lines of an indented text that are not empty are those with text, behind the front. -/
theorem filter_map_indentLine (lines : List (List Char)) :
    (lines.map (indentLine front)).filter (fun line => !line.isEmpty) =
      (lines.filter hasText).map (front ++ ·) := by
  induction lines with
  | nil => rfl
  | cons line lines ih =>
    rw [List.map_cons, List.filter_cons, List.filter_cons, ih]
    cases h : hasText line with
    | false => rw [indentLine_of_not_hasText h]; rfl
    | true =>
      have hne : indentLine front line ≠ [] := fun hnil => by
        simp [indentLine_eq_nil_iff.mp hnil] at h
      rw [if_pos (by simp [hne]), indentLine_of_hasText h]
      rfl

end SchemaStruct.Template.Filter
