import SchemaStruct.Files.Tree
import SchemaStruct.Template.Syntax
import SchemaStruct.Text.Compatible

/-!
# Template Engines

An engine fills in templates, which it finds in a directory or else in its memory. A template whose
name ends in `.html` or `.xml` escapes what it prints. `Engine.render` wraps every fault in one
that names the template.
-/

namespace SchemaStruct.Template

/-- A template, read and known to use existing filters only. -/
structure Compiled where
  /-- The name, unless the template was given as a text. -/
  name : Option String
  /-- The pieces. -/
  pieces : List Piece
  /-- Whether printed values are escaped. -/
  escapes : Bool
  deriving Inhabited

namespace Compiled

/-- Reads a template text. -/
def ofText (name : Option String) (s : String) (escapes : Bool) : Except Fault Compiled :=
  match parse s with
  | none => .error (.brokenTemplate .malformed)
  | some pieces =>
    if (pieces.flatMap Piece.filters).all fun f => (Filter.ofName? f).isSome then
      .ok { name, pieces, escapes }
    else .error (.brokenTemplate .unknownFilter)

/-- A character as it is printed by a template that escapes. -/
def escapeChar (c : Char) : List Char :=
  if c = '&' then "&amp;".toList
  else if c = '<' then "&lt;".toList
  else if c = '>' then "&gt;".toList
  else if c = '"' then "&#34;".toList
  else if c = '\'' then "&#39;".toList
  else [c]

/-- The name of a template for itself. -/
def selfName : String := "self"

/-- The names in a template, each at its first place. The template's name for itself comes before
all others. -/
def names (t : Compiled) : List String :=
  let found := (t.pieces.flatMap Piece.names).eraseDups
  if found.contains selfName then selfName :: found.filter (· != selfName) else found

/-- The value that is found under a name: a member of the context goes before what the language
provides. -/
def find (t : Compiled) (context : List (String × Json)) (s : String) : Value :=
  if s = selfName then .ofTemplate t.name
  else match Json.lookup s context with
    | some v => .given v
    | none => (Value.ofProvided? s).getD .missing

/-- The value of a name. Spellings of one identifier share a value: the one that is found under the
last of them. -/
def valueOf (t : Compiled) (context : List (String × Json)) (s : String) : Value :=
  t.find context (((t.names.filter (Text.areCompatible s)).getLast?).getD s)

/-- The text of a piece. -/
def fillPiece (t : Compiled) (context : List (String × Json)) : Piece → Except Fault String
  | .text s => .ok s
  | .place e => do
    let v ← e.eval (t.valueOf context)
    return if t.escapes then Text.onChars (·.flatMap escapeChar) v.text else v.text

/-- The text of a template, filled in from the members of an object. -/
def fill (t : Compiled) (context : Json) : Except Fault String :=
  match context with
  | .obj members =>
    -- a template's name for itself cannot be given
    if (Json.lookup selfName members).isSome then .error (.brokenTemplate .unfillable)
    else do return String.join (← t.pieces.mapM (t.fillPiece members))
  | _ => .error (.brokenTemplate .unfillable)

end Compiled

/-- Where templates are found. -/
structure Engine where
  /-- The files. -/
  files : FileTree := {}
  /-- The directory with templates, if there is one. -/
  directory : Option Path := none
  /-- The templates in memory, the latest ones first. -/
  memory : List (String × String) := []
  deriving Inhabited

namespace Engine

/-- An engine over a directory; one that does not exist is none. -/
def create (files : FileTree) (directory : Option Path) : Except Fault Engine :=
  match directory with
  | none => .ok { files }
  | some d => do return { files, directory := if ← files.hasEntry d then some d else none }

/-- The engine with a template in memory, in the place of an older one of that name. -/
def add (e : Engine) (name text : String) : Engine := { e with memory := (name, text) :: e.memory }

/-- The path of a template below the directory. A name that leads upwards has none. -/
def pathOf? (e : Engine) (name : String) : Option Path := do
  let d ← e.directory
  -- templates stand below the directory and nowhere else
  let steps := (Text.splitOn '/' name.toList).map String.ofList
  if steps.contains ".." then none
  return ⟨d.root, d.parts ++ steps.filter fun s => s != "" && s != "."⟩

/-- The text of a template file, if there is one. -/
def fileText? (e : Engine) (name : String) : Option (Except Fault String) := do
  let path ← e.pathOf? name
  match e.files.isFile path with
  | .ok true => return e.files.read path
  | _ => none

/-- Whether a template escapes what it prints, by its name. -/
def escapesName (name : String) : Bool :=
  let s := Text.lowerCase name
  s.endsWith ".html" || s.endsWith ".xml"

/-- The template of a name: a file goes before memory. -/
def find (e : Engine) (name : String) : Except Fault Compiled := do
  let text ← match e.fileText? name with
    | some result => result
    | none =>
      match e.memory.lookup name with
      | some s => .ok s
      | none => .error (.missingTemplate name)
  Compiled.ofText (some name) text (escapesName name)

/-- Whether there is a template of a name. One that is there and malformed is a fault. -/
def hasTemplate (e : Engine) (name : String) : Except Fault Bool :=
  match e.find name with
  | .ok _ => .ok true
  | .error (.missingTemplate _) => .ok false
  | .error f => .error f

/-- A result in which a fault tells the template. -/
def rendering {α : Type} (name : Option String) : Except Fault α → Except Fault α
  | .ok a => .ok a
  | .error f => .error (.rendering name f)

/-- The text of a template, filled in from an object. -/
def render (e : Engine) (name : String) (context : Json) : Except Fault String :=
  rendering (some name) do (← e.find name).fill context

/-- The text of a template given as a text, filled in from an object. -/
def renderText (text : String) (context : Json) : Except Fault String :=
  rendering none do (← Compiled.ofText none text false).fill context

end Engine

end SchemaStruct.Template
