import SchemaStruct.CSharp.Options
import SchemaStruct.Json.Written
import SchemaStruct.Source.Description

/-!
# Declarations of Records and Properties

What the two renderers share: the pieces of a property's declaration, the documentation comment,
the attribute with a property's name in documents, and the listing of a record's properties. Which
declaration a property gets is decided by a `PropertyRule`.
-/

namespace SchemaStruct.CSharp

/-- The pieces of a property's declaration. -/
structure Definition where
  /-- What stands in front of the type. -/
  modifier : String
  /-- The type. -/
  type : Fragment
  /-- The name. -/
  name : Name
  /-- The accessors. -/
  accessors : String
  deriving Repr, Inhabited

/-- What a rule makes of a property. -/
inductive Rendered
  /-- A declaration in pieces. -/
  | definition (d : Definition)
  /-- Something else. -/
  | bare (f : Fragment)
  deriving Repr, Inhabited

namespace Definition

/-- The declaration as it is written. -/
def toFragment (d : Definition) : Fragment :=
  .group .square
    [.text d.modifier, .text " ", d.type, .text " ", .name d.name, .text " ", .text d.accessors]

/-- The declaration as it appears in messages. -/
def shown (names : NameTable) (d : Definition) : String :=
  "PropertyDefinition(modifier=" ++ Text.quotedText d.modifier ++ ", type=" ++
    d.type.shown names ++ ", name=" ++ names.shown d.name ++ ", accessors=" ++
    Text.quotedText d.accessors ++ ")"

end Definition

namespace Rendered

/-- The rendering as it is written. -/
def toFragment : Rendered → Fragment
  | definition d => d.toFragment
  | bare f => f

/-- The rendering as it appears in messages. -/
def shown (names : NameTable) : Rendered → String
  | definition d => d.shown names
  | bare f => f.shown names

end Rendered

/-- What a renderer of C# needs to know. -/
structure Renderer where
  /-- The texts of names, and the graph they belong to. -/
  names : NameTable
  /-- The options. -/
  options : Options := {}
  /-- Whether descriptions become comments. -/
  comments : Bool := true
  /-- What a level of depth looks like. -/
  indentUnit : String := "    "

/-- How a property is declared, given its name and the key of its record. -/
abbrev PropertyRule := Renderer → Property → Name → Record → Emit Rendered

namespace Renderer

/-- The printer of a renderer. -/
def printer (r : Renderer) : Printer := ⟨r.names, r.indentUnit⟩

/-- The type of a record key. -/
def recordType (r : Renderer) (key : Option String) : Except Fault Fragment := do
  let record ← match key with
    | some k => r.names.graph.get k
    | none => .error (.schema (.unknownRecord "None"))
  return .name (NameTable.recordName record)

/-- The type of a property; the namespaces that it needs are recorded. -/
def propertyType (r : Renderer) (p : Property) : Emit Fragment := do
  let t ← Emit.ofExcept (CSharpType.ofProperty r.options.choices r.recordType p)
  Emit.need t.usings
  return t.fragment

/-- A character inside a documentation comment. -/
def escapeChar (c : Char) : List Char :=
  if c = '&' then ['&', 'a', 'm', 'p', ';']
  else if c = '<' then ['&', 'l', 't', ';']
  else if c = '>' then ['&', 'g', 't', ';']
  else [c]

/-- A text inside a documentation comment. -/
def escape (s : String) : String := Text.onChars (·.flatMap escapeChar) s

/-- Writes a description as a documentation comment, if it has lines. -/
def description (r : Renderer) (lines : List String) : Emit Unit := do
  unless lines.isEmpty do
    r.printer.comment (lines.map escape) "/// " (some "/// <summary>") (some "/// </summary>")

/-- Writes the attribute that fixes a property's name in documents. -/
def jsonAttribute (r : Renderer) (name : String) : Emit Unit := do
  Emit.need [.serialization]
  r.printer.line
    [.text "[JsonPropertyName(", .text (String.ofList (Json.escapeString name)), .text ")]"]

/-- Writes the head of a record: its description and its declaration line. -/
def head (r : Renderer) (lines : List String) (declaration name : Fragment) (base : Json) :
    Emit Unit := do
  r.description lines
  match base with
  | .null => r.printer.line [declaration, .text " ", name]
  | _ => r.printer.line [declaration, .text " ", name, .text " : ", Fragment.ofJson base]

/-- Writes one property, as the rule declares it. -/
def property (r : Renderer) (rule : PropertyRule) (record : Record) (isFirst : Bool)
    (entry : Name × Property) : Emit Unit := do
  let (name, p) := entry
  -- properties are kept apart by blank lines, whatever stands above the first one
  if !isFirst && r.options.density = .normal then r.printer.line []
  if r.comments then r.description (← Emit.ofExcept (Description.lines p.description))
  if r.options.jsonAttributes then r.jsonAttribute p.name
  let d ← rule r p name record
  r.printer.line [d.toFragment]

/-- Writes the properties of a record, in order. -/
def properties (r : Renderer) (rule : PropertyRule) (record : Record) : Emit Unit :=
  (NameTable.propertyNames record).zipIdx.forM fun (entry, i) =>
    r.property rule record (i == 0) entry

/-- The description of a record, if descriptions become comments. -/
def recordLines (r : Renderer) (record : Record) : Except Fault (List String) :=
  if r.comments then Description.lines record.description else .ok []

end Renderer

end SchemaStruct.CSharp
