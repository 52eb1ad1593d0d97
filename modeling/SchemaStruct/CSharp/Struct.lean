import SchemaStruct.CSharp.Class
import SchemaStruct.CSharp.Names

/-!
# Readonly Structs

The immutable form of a record: a readonly struct whose properties can only be read and are set by
a constructor with one parameter for each of them, in order. It refines a rule for the default
declarations by taking away the setters. The constructor finds the record through the name that it
is given (`RecordIndex`), so records with names of the same text are not mixed up.
-/

namespace SchemaStruct.CSharp

/-- The records of a graph, under the handles of their names. -/
structure RecordIndex where
  /-- The handles and the records. -/
  entries : List (Handle × Record)

namespace RecordIndex

/-- The index of a graph. -/
def ofGraph (g : TypeGraph) : RecordIndex :=
  ⟨g.records.map fun r => ((NameTable.recordName r).handle, r)⟩

/-- The number of records. -/
def size (index : RecordIndex) : Nat := index.entries.length

/-- The record of a handle. -/
def find? (index : RecordIndex) (h : Handle) : Option Record := index.entries.lookup h

/-- The record that a fragment names. -/
def lookup (index : RecordIndex) (names : NameTable) (f : Fragment) : Except Fault Record :=
  let found := match f with
    | .name n => index.find? n.handle
    | _ => none
  match found with
  | some r => .ok r
  | none => .error (.unknownName (f.shown names))

end RecordIndex

/-- The declaration of a struct: visible types become readonly structs, and the others keep the
declaration of a class. -/
def structDeclaration : Visibility → Fragment
  | .exported => .group .square [.text "public ", .text "readonly struct"]
  | .internal => .group .square [.text "internal ", .text "readonly struct"]
  | v => classDeclaration v

/-- Declares a property that can only be read, from what a rule declares: that has to be a
declaration in pieces with accessors. -/
def readOnlyProperty (base : PropertyRule) : PropertyRule := fun r p name record => do
  let declared ← base r p name record
  let refused := Fault.unexpectedShape (record.key ++ "." ++ p.name) (declared.shown r.names)
  match declared with
  | .definition d =>
    if d.accessors.isEmpty then throw refused
    else return .definition { d with accessors := "\x7b get; \x7d" }
  | .bare _ => throw refused

namespace Renderer

/-- The type of a parameter, from the declaration of its property. -/
def parameterType : Rendered → Fragment
  | .definition d => d.type
  | .bare f => f

/-- The parameter and the assignment for each property, as the rule declares it. -/
def constructorParts (r : Renderer) (rule : PropertyRule) (record : Record) :
    Emit (List (Fragment × Fragment)) := do
  let properties := NameTable.propertyNames record
  -- parameters are named after the document's names and not after the assigned ones
  let ids := parameters [] (properties.map (·.2.name))
  (properties.zip ids).mapM fun ((name, p), id) => do
    let d ← rule r p name record
    return (.group .square [parameterType d, .text " ", .text id],
      .group .square [.text "this.", .name name, .text " = ", .text id, .text ";"])

/-- Writes the constructor of the record that a fragment names. -/
def constructor (r : Renderer) (rule : PropertyRule) (name : Fragment) : Emit Unit := do
  let record ← Emit.ofExcept ((RecordIndex.ofGraph r.names.graph).lookup r.names name)
  let parts ← r.constructorParts rule record
  r.printer.line
    [.text "public ", name, .text "(",
      .group .square (Fragment.intersperse (.text ", ") (parts.map (·.1))), .text ")"]
  r.printer.block (parts.forM fun (_, assignment) => r.printer.line [assignment])
  -- the blank line also follows a constructor behind which nothing stands
  r.printer.line []

/-- Writes a record as a struct, where `base` declares its properties by default. -/
def structOf (base : PropertyRule) (r : Renderer) (record : Record) (name : Name) :
    Emit Unit := do
  let rule := readOnlyProperty base
  let lines ← Emit.ofExcept (r.recordLines record)
  r.head lines (structDeclaration record.visibility) (.name name) record.baseType
  r.printer.block do
    r.constructor rule (.name name)
    r.properties rule record

/-- Writes all records as structs. -/
def structs (base : PropertyRule) (r : Renderer) : Emit Unit :=
  r.printer.eachRecord true (structOf base r)

end Renderer

end SchemaStruct.CSharp
