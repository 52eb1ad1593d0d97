import SchemaStruct.Naming.Sanitizer
import SchemaStruct.Template.Value

/-!
# Template Filters

The filters that a template can put a value through: three naming styles, an indentation and a
comment mark in front of each line. A value that is missing counts as the empty text.
-/

namespace SchemaStruct.Template

/-- A filter. -/
inductive Filter
  /-- Brings a name into a style. -/
  | style (s : NamingStyle)
  /-- Puts blanks or a text in front of each line that is not blank. -/
  | indent
  /-- Puts a comment mark in front of each line. -/
  | comment
  deriving DecidableEq, Repr, Inhabited

namespace Filter

/-- The filter of a given name. -/
def ofName? : String → Option Filter
  | "snake_case" => some (.style .snake)
  | "camel_case" => some (.style .camel)
  | "pascal_case" => some (.style .pascal)
  | "indent" => some .indent
  | "comment" => some .comment
  | _ => none

/-- The fault of a filter that cannot work on its arguments. -/
def unfillable {α : Type} : Except Fault α := .error (.brokenTemplate .unfillable)

/-- Whether a line has something on it beside blanks. -/
def hasText (line : List Char) : Bool := !line.all Text.isBlank

/-- A text with each of its lines changed. -/
def mapLines (f : List Char → Except Fault (List Char)) (s : String) : Except Fault String := do
  let lines ← (Text.splitOn '\n' s.toList).mapM f
  return String.ofList (Text.joinWith ['\n'] lines)

/-- What stands in front of an indented line. -/
inductive Indentation
  /-- A number of blanks. -/
  | blanks (n : Nat)
  /-- A text as it is. -/
  | text (cs : List Char)
  /-- Something that no line can follow. -/
  | unfit
  deriving DecidableEq, Repr, Inhabited

/-- The indentation that a value stands for. A number beyond the length of every text stands for
none, even if there is no line to indent. -/
def Indentation.ofValue : Value → Except Fault Indentation
  | .given (.int n) =>
    if n < -Text.lengthLimit || Text.memoryLimit ≤ n then unfillable else .ok (.blanks n.toNat)
  | .given (.bool b) => .ok (.blanks (if b then 1 else 0))
  | .given (.str s) => .ok (.text s.toList)
  | _ => .ok .unfit

/-- A line behind an indentation. -/
def Indentation.before (line : List Char) : Indentation → Except Fault (List Char)
  | blanks n => .ok (List.replicate n ' ' ++ line)
  | text cs => .ok (cs ++ line)
  | unfit => unfillable

/-- A text with `front` before each line that is not blank; blank lines become empty. -/
def indentLines (front : Value) (s : String) : Except Fault String := do
  let indentation ← Indentation.ofValue front
  mapLines (fun line => if hasText line then indentation.before line else .ok []) s

/-- A text with a comment mark before each line; on a blank line the mark stands alone, and then it
has to be a text. -/
def commentLines (mark : Value) (s : String) : Except Fault String :=
  mapLines (fun line =>
    if hasText line then .ok (mark.text.toList ++ ' ' :: line)
    else match mark with
      | .given (.str m) => .ok m.toList
      | _ => unfillable) s

/-- The text that a filter makes of a value, given its arguments. -/
def apply (f : Filter) (args : List Value) (v : Value) : Except Fault String :=
  match f, args with
  | .style s, [] => .ok (Sanitizer.shared {} v.text s)
  | .indent, [] => indentLines (.given (.int 4)) v.text
  | .indent, [front] => indentLines front v.text
  | .comment, [] => commentLines (.ofText "//") v.text
  | .comment, [mark] => commentLines mark v.text
  | _, _ => unfillable

end Filter

end SchemaStruct.Template
