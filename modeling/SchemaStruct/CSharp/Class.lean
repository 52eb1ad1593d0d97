import SchemaStruct.CSharp.Definition

/-!
# Classes

The default form of a record: a partial class with a property for each property of the record, open
to reading and writing.
-/

namespace SchemaStruct.CSharp

/-- The keyword of a visibility, with a blank behind it. -/
def accessKeyword : Visibility → String
  | .exported => "public "
  | .internal => "internal "
  | .hidden => "private "
  | .unstated => ""

/-- The declaration of a class. -/
def classDeclaration (v : Visibility) : Fragment :=
  .group .square [.text (accessKeyword v), .text "partial class"]

/-- Declares a property that can be read and written. -/
def writableProperty : PropertyRule := fun r p name _ => do
  return .definition
    { modifier := "public", type := ← r.propertyType p, name, accessors := "\x7b get; set; \x7d" }

namespace Renderer

/-- Writes a record as a class. -/
def classOf (r : Renderer) (record : Record) (name : Name) : Emit Unit := do
  let lines ← Emit.ofExcept (r.recordLines record)
  r.head lines (classDeclaration record.visibility) (.name name) record.baseType
  r.printer.block (r.properties writableProperty record)

/-- Writes all records as classes. -/
def classes (r : Renderer) : Emit Unit := r.printer.eachRecord true r.classOf

end Renderer

end SchemaStruct.CSharp
