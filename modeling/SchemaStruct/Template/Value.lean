import SchemaStruct.Json.Shown

/-!
# Template Values

What a template works with: the values it is filled in from, its literals, and a few names that the
template language provides itself. Those can be shown and passed on, and nothing else.
-/

namespace SchemaStruct.Template

/-- A value that a template meets. -/
inductive Value
  /-- There is no value of that name. -/
  | missing
  /-- A value of the context, a literal, or the text that a filter gave. -/
  | given (v : Json)
  /-- Something that the template language provides, by its text. -/
  | provided (text : String)
  deriving Repr, Inhabited

namespace Value

/-- A text as a value. -/
def ofText (s : String) : Value := given (.str s)

/-- What the template language provides under a name. -/
def ofProvided? : String → Option Value
  | "range" => some (provided "<class 'range'>")
  | "dict" => some (provided "<class 'dict'>")
  | "cycler" => some (provided "<class 'jinja2.utils.Cycler'>")
  | "joiner" => some (provided "<class 'jinja2.utils.Joiner'>")
  | "namespace" => some (provided "<class 'jinja2.utils.Namespace'>")
  | "lipsum" => some (provided "<function generate_lorem_ipsum>")
  | _ => none

/-- A template as a value for itself, by its name if it has one. -/
def ofTemplate (name : Option String) : Value :=
  let shown := match name with
    | some s => Text.quotedText s
    | none => "None"
  provided ("<TemplateReference " ++ shown ++ ">")

/-- The text of a value. -/
def text : Value → String
  | missing => ""
  | given v => v.plain
  | provided s => s

/-- Whether a value counts as true. -/
def isTrue : Value → Bool
  | missing => false
  | given v => v.truthy
  | provided _ => true

/-- A number with a sign in front of it. The truth values count as one and zero. -/
def signed? (negative : Bool) : Value → Option Value
  | given (.int n) => some (given (.int (if negative then -n else n)))
  | given (.bool b) =>
    let n : Int := if b then 1 else 0
    some (given (.int (if negative then -n else n)))
  | given (.float x) => some (given (.float (if negative then x.negate else x)))
  | _ => none

end Value

end SchemaStruct.Template
