import SchemaStruct.Proofs.CSharp.Constructors
import SchemaStruct.Proofs.CSharp.Pieces
import SchemaStruct.Proofs.Source.Descriptions

/-!
# Documentation Comments

A description becomes a documentation comment: a line for each line of the description, between a
line that opens the summary and a line that closes it. What is markup in a comment is escaped in the
lines between, so nothing in a description closes the summary or opens another tag; and a line of a
description has no line breaks, so nothing of it gets out of the comment. Whoever reads the comment
gets the lines back.

## Main definitions

* `CSharp.unescape`: how the text of a comment is read;
* `CSharp.readNote`: how a line of a comment is read.

## Main results

* `CSharp.unescape_escape`: what is written for a text is read as the text;
* `CSharp.Renderer.description_faithful`: the lines of a description, its comment, and what is read
  of it.
-/

namespace SchemaStruct.CSharp

open Renderer (escape escapeChar escapeChar_cases consistsOf_escape)

/-- The text that a text inside a comment stands for. -/
def unescape : List Char → List Char
  | '&' :: 'a' :: 'm' :: 'p' :: ';' :: rest => '&' :: unescape rest
  | '&' :: 'l' :: 't' :: ';' :: rest => '<' :: unescape rest
  | '&' :: 'g' :: 't' :: ';' :: rest => '>' :: unescape rest
  | c :: rest => c :: unescape rest
  | [] => []

/-- The text that a line of a comment stands for, if it is one: what stands behind the three slashes
and a blank, or nothing if nothing stands behind the slashes. -/
def readNote (note : String) : Option String :=
  match note.toList with
  | ['/', '/', '/'] => some ""
  | '/' :: '/' :: '/' :: ' ' :: text => some (String.ofList (unescape text))
  | _ => none

/-- What is written for a text is read as the text. -/
theorem unescape_escape (cs : List Char) : unescape (cs.flatMap escapeChar) = cs := by
  induction cs with
  | nil => rfl
  | cons c cs ih =>
    rw [List.flatMap_cons]
    obtain ⟨hkept, hamp, -⟩ | ⟨rfl, -⟩ | ⟨rfl, -⟩ | ⟨rfl, -⟩ := escapeChar_cases c
    · rw [hkept, List.singleton_append, unescape.eq_4 c _ (fun _ h => absurd h hamp)
        (fun _ h => absurd h hamp) fun _ h => absurd h hamp, ih]
    · exact congrArg (List.cons '&') ih
    · exact congrArg (List.cons '<') ih
    · exact congrArg (List.cons '>') ih

/-- The line of a comment for a line of a description. -/
def noteOf (line : String) : String :=
  if (escape line).isEmpty then "///" else "/// " ++ escape line

/-- A line of a comment is read as the line of the description that it is written for. -/
theorem readNote_noteOf (line : String) : readNote (noteOf line) = some line := by
  have hread : unescape (escape line).toList = line.toList := by
    rw [escape, Text.onChars, String.toList_ofList]
    exact unescape_escape line.toList
  unfold noteOf
  split
  case isTrue hempty =>
    -- nothing is written for the empty line only
    rw [String.isEmpty_iff.mp hempty] at hread
    have hline : line = "" := String.toList_eq_nil_iff.mp hread.symm
    rw [hline]
    rfl
  case isFalse =>
    have hnote : ("/// " ++ escape line).toList =
        '/' :: '/' :: '/' :: ' ' :: (escape line).toList := by simp
    simp only [readNote, hnote, hread, String.ofList_toList]

/-- What looks like an escape once one has been undone is none. -/
example : readNote "/// &lt;b&gt; is &amp;lt;b&amp;gt;" = some "<b> is &lt;b&gt;" := by decide

/-- A line of a comment has neither markup nor line breaks in it. -/
theorem of_mem_noteOf {line : String} (hline : ∀ c ∈ line.toList, Text.isLineBreak c = false) :
    ∀ c ∈ (noteOf line).toList, c ≠ '<' ∧ c ≠ '>' ∧ Text.isLineBreak c = false := by
  have hescape : Text.ConsistsOf (fun c => c ≠ '<' ∧ c ≠ '>' ∧ Text.isLineBreak c = false)
      (escape line) :=
    consistsOf_escape (fun c hc _ hlt hgt => ⟨hlt, hgt, hline c hc⟩) (by decide)
  have hslashes : Text.ConsistsOf (fun c => c ≠ '<' ∧ c ≠ '>' ∧ Text.isLineBreak c = false)
      "/// " := by decide
  unfold noteOf
  split
  · exact fun c hc => hslashes c (List.mem_append_left [' '] hc)
  · exact Text.consistsOf_append.mpr ⟨hslashes, hescape⟩

namespace Renderer

/-- The comment of a description has a line for each of its lines, between two tags. -/
theorem descriptionLines_eq (r : Renderer) (d : Nat) (lines : List String) :
    r.descriptionLines d lines = if lines = [] then [] else
      ("/// <summary>" :: lines.map noteOf ++ ["/// </summary>"]).map (r.printer.indented d) := by
  cases lines with
  | nil => rfl
  | cons line lines => simp [descriptionLines, noteOf]

/-- A description has no lines just if there is nothing but blanks in it. Otherwise the comment that
is written for it has a line for each of its lines, between the two tags of a summary. There is no
other tag in the comment, no line of it is broken, and what is read of the lines between the tags is
the lines of the description. -/
theorem description_faithful (r : Renderer) (s : String) (d : Nat) :
    ∃ lines, Description.lines (.str s) = .ok lines ∧
      (lines = [] ↔ ∀ c ∈ s.toList, Text.isBlank c = true) ∧ Description.IsCut s lines ∧
      ∃ notes,
        Writes (r.description lines) d () (if lines = [] then [] else
          ("/// <summary>" :: notes ++ ["/// </summary>"]).map (r.printer.indented d)) ∧
        notes.map readNote = lines.map some ∧
        ∀ note ∈ notes, ∀ c ∈ note.toList, c ≠ '<' ∧ c ≠ '>' ∧ Text.isLineBreak c = false := by
  have hcut := Description.isCut_linesOfText s
  refine ⟨Description.linesOfText s, rfl, Description.linesOfText_eq_nil_iff, hcut,
    (Description.linesOfText s).map noteOf, ?_, ?_, ?_⟩
  · rw [← descriptionLines_eq]
    exact r.writes_description _ d
  · simp only [List.map_map, Function.comp_def, readNote_noteOf]
  · intro note hnote
    obtain ⟨line, hline, rfl⟩ := List.mem_map.mp hnote
    exact of_mem_noteOf (hcut.unbroken line hline)

end Renderer

end SchemaStruct.CSharp
