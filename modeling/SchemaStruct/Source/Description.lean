import SchemaStruct.Fault
import SchemaStruct.Text.Blank

/-!
# Descriptions

A description of the document becomes the lines of a comment: blanks around the whole text and at
the ends of lines go. A description that is absent or blank has no lines.
-/

namespace SchemaStruct.Description

/-- The lines of a text. -/
def linesOfText (s : String) : List String :=
  (Text.lines (Text.trim s.toList)).map fun line => String.ofList (Text.trimEnd line)

/-- The lines of a description. -/
def lines (description : Json) : Except Fault (List String) :=
  match description with
  | .str s => .ok (linesOfText s)
  | v => if v.truthy then .error (.misfit (.lacks v.kindName "strip")) else .ok []

end SchemaStruct.Description
