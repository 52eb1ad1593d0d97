import SchemaStruct.Log
import SchemaStruct.Schema.Flatten
import SchemaStruct.Schema.Graph
import SchemaStruct.Schema.TypeName

/-!
# From Documents to Graphs

`Document.toGraph` walks a JSON Schema document and collects its records in the order of their
discovery. The walk keeps a `Builder`: the graph so far, the keys bound to references, the keys in
use and the notices, which survive a fault. Where the walk stands is a `Site`: the name suggested
for what is found there, the reference that led there, and the references being expanded.

A reference that is being expanded and comes back to itself ends in the type that says nothing; a
reference to a record ends in the record, even while the record is being collected. The walk ends
otherwise only where the parts of a schema contain each other, and that is a fault. The fuel of the
walk is larger than any walk without repetition can be long.
-/

namespace SchemaStruct

/-- A document, with what all its records have in common. -/
structure Document where
  /-- The document. -/
  root : Json
  /-- Who may see the records. -/
  visibility : Visibility := .exported
  /-- The type that the records extend, if any. -/
  baseType : Json := .null

/-- What has been collected from a document. -/
structure Builder where
  /-- The records. -/
  graph : TypeGraph := .empty
  /-- The keys bound to references. -/
  bound : List (String × String) := []
  /-- All keys in use. -/
  taken : List String := []
  /-- The notices, in order. -/
  log : List Notice := []

/-- A step of the walk: it may fail, and keeps what was collected in either case. -/
abbrev Build (α : Type) := ExceptT Fault (StateM Builder) α

namespace Builder

/-- The record key that a reference stands for, once its record is in the graph. -/
def record? (b : Builder) (ref : String) : Option String := do
  let key ← b.bound.lookup ref
  if b.graph.contains key then some key else none

end Builder

namespace Build

/-- A result that depends on nothing collected. -/
def ofExcept {α : Type} : Except Fault α → Build α
  | .ok a => pure a
  | .error f => throw f

/-- Reports a notice. -/
def note (n : Notice) : Build Unit := modify fun b => { b with log := b.log ++ [n] }

/-- A key made of a suggested name, different from all keys in use, and in use from now on. -/
def freshKey (hint : Json) : Build String := do
  let base ← ofExcept (TypeName.ofValue hint)
  let key := TypeName.unique (← get).taken base
  modify fun b => { b with taken := key :: b.taken }
  return key

/-- Binds a key to a reference. -/
def bind (ref key : String) : Build Unit :=
  modify fun b => { b with bound := (ref, key) :: b.bound }

/-- Adds a record at the end of the graph. -/
def addRecord (r : Record) : Build Unit := do
  let graph ← ofExcept ((← get).graph.add r)
  modify fun b => { b with graph }

/-- Puts a record in the place of the one of its key. -/
def replaceRecord (r : Record) : Build Unit := modify fun b => { b with graph := b.graph.replace r }

end Build

/-- Where a walk stands. -/
structure Site where
  /-- The name suggested for what is found here: a text, unless a title is something else. -/
  hint : Json
  /-- The reference that led here. -/
  reference : Option String := none
  /-- The references that are being expanded. -/
  pending : List String := []

namespace Site

/-- The suggested name as a text. -/
def hintText (s : Site) : String := s.hint.plain

/-- The place of something inside, with `suffix` behind the suggested name. -/
def inner (s : Site) (suffix : String) : Site :=
  { hint := .str (s.hintText ++ suffix), pending := s.pending }

/-- The same place, reached in another way than by a reference. -/
def anonymous (s : Site) : Site := { s with reference := none }

end Site

/-- A walk from a site on. -/
abbrev Walk := Site → Json → Build TypeRef

namespace Convert

/-- The kinds with a type name of their own that leave nothing to look at. -/
def primitives : List (String × FieldKind) :=
  [("string", .string), ("integer", .integer), ("number", .float), ("boolean", .boolean)]

/-- Whether a value is the name of the type without values. -/
def isNullType (v : Json) : Bool := v == .str "null"

/-- Whether an alternative says that there may be no value. -/
def isNullAlternative (v : Json) : Bool := (v.get? "type").any isNullType

/-- The type of a reference. -/
def reference (document : Json) (walk : Walk) (site : Site) (ref : Json) : Build TypeRef := do
  Build.ofExcept ref.requireHashable
  match ref with
  | .str r =>
    -- a record that is being collected is in the graph already, which ends the recursion
    match (← get).record? r with
    | some key => return .object key
    | none =>
      -- everything else that comes back to itself has no finite type
      if site.pending.contains r then
        Build.note (.recursiveReference r)
        return .any
      else
        let target ← Build.ofExcept (Pointer.resolve document r)
        let title := Json.orNull (target.get? "title")
        let hint := if title.truthy then title else .str (Pointer.lastStep r)
        walk { hint, reference := some r, pending := r :: site.pending } target
  | v => throw (.misfit (.lacks v.kindName "startswith"))

/-- The type of a list of alternatives: a single one beside the one without values is taken. -/
def alternatives (walk : Walk) (site : Site) (listed : Json) : Build TypeRef := do
  let all ← Build.ofExcept listed.walk
  let others := all.filter (!isNullAlternative ·)
  let nullable := others.length != all.length
  match others with
  | [one] => return (← walk site.anonymous one).withNullableIf nullable
  | _ =>
    Build.note (.unionOf others.length site.hintText)
    return TypeRef.any.withNullableIf nullable

/-- The type of a list of allowed values. -/
def enumeration (values : Json) : Except Fault TypeRef :=
  if !values.truthy then .ok .any
  else do
    let vs ← values.walk
    return { kind := if vs.all (·.text?.isSome) then .string else .any }

/-- The key of the record at a site: the one bound to the reference that led there, or a fresh one
made of the title or the suggested name. -/
def recordKey (site : Site) (node : Node) : Build String := do
  let bound := (← get).bound
  match site.reference.bind (bound.lookup ·) with
  | some key => return key
  | none =>
    let title := Json.orNull (node.get? "title")
    let key ← Build.freshKey (if title.truthy then title else site.hint)
    if let some r := site.reference then Build.bind r key
    return key

/-- A property of the record `key`. -/
def property (walk : Walk) (site : Site) (key : String) (required : List String)
    (entry : EntryName × Json) : Build Property := do
  let (name, schema) := entry
  let suffix ← Build.ofExcept (TypeName.ofEntry name)
  let type ← walk { hint := .str (key ++ suffix), pending := site.pending } schema
  let name := name.toJson.plain
  return { name, type
           optional := !required.contains name
           description := Json.orNull (schema.get? "description") }

/-- Collects the record at a site and gives its key. Its place in the graph is taken before its
properties are walked, so that they can refer to it. -/
def record (document : Document) (walk : Walk) (site : Site) (node : Node) : Build String := do
  let key ← recordKey site node
  -- the place is taken with an empty record, which keeps the order of discovery
  Build.addRecord { key, suggestedName := site.hint }
  let required ← Build.ofExcept node.requiredNames
  let properties ← (← Build.ofExcept node.listed).mapM (property walk site key required)
  Build.replaceRecord
    { key, properties
      suggestedName := site.hint
      visibility := document.visibility
      description := Json.orNull (node.get? "description")
      baseType := document.baseType }
  return key

/-- The type of a node whose type is named. -/
def typed (document : Document) (walk : Walk) (site : Site) (node : Node) (type : Json) :
    Build TypeRef := do
  Build.ofExcept type.requireHashable
  match type with
  | .null => return .any
  | .str "null" => return TypeRef.any.withNullable
  | .str "array" =>
    match node.get? "items" with
    | some (.arr _) =>
      Build.note (.tupleItems site.hintText)
      return .array .any
    | items => return .array (← walk (site.inner "Element") (items.getD (.bool true)))
  | .str "object" =>
    if node.hasProperties then return .object (← record document walk site node)
    else match node.get? "additionalProperties" with
      | some (.bool false) => return .map .any
      | values => return .map (← walk (site.inner "Value") (values.getD (.bool true)))
  | .str name =>
    match primitives.lookup name with
    | some .string =>
      let isTime := node.get? "format" == some (.str "date-time")
      return { kind := if isTime then .timestamp else .string }
    | some kind => return { kind }
    | none => throw (.schema (.unsupportedType site.hintText name))
  | v => throw (.schema (.unsupportedType site.hintText v.plain))

/-- The type of a node without parts. -/
def plainNode (document : Document) (walk : Walk) (site : Site) (node : Node) :
    Build TypeRef := do
  match node.get? "enum" with
  | some values => Build.ofExcept (enumeration values)
  | none =>
    match Json.orNull (node.get? "type") with
    | .arr types =>
      -- a list of types is read as its only type beside the one without values
      let named := types.filter (!isNullType ·)
      let nullable := named.length != types.length
      match named with
      | [type] => return (← typed document walk site node type).withNullableIf nullable
      | _ =>
        Build.note (.unionType (.arr types) site.hintText)
        return TypeRef.any.withNullableIf nullable
    | .null => typed document walk site node (if node.hasProperties then .str "object" else .null)
    | type => typed document walk site node type

/-- One step of the walk: what stands at a site, where `walk` goes on inside. -/
def step (document : Document) (walk : Walk) : Walk := fun site node =>
  match node with
  | .bool true => return .any
  | .obj [] => return .any
  | .obj members =>
    match Json.lookup "$ref" members with
    | some ref => reference document.root walk site ref
    | none =>
      match (Json.lookup "anyOf" members).or (Json.lookup "oneOf" members) with
      | some listed => alternatives walk site listed
      | none => do
        let flat ← Build.ofExcept (Node.flatten document.root members)
        plainNode document walk site flat
  | v => throw (.schema (.invalidNode site.hintText v.shown))

/-- The walk, going at most as deep as the fuel says. -/
def walk (document : Document) : Nat → Walk
  | 0 => fun _ _ => throw .endless
  | fuel + 1 => step document (walk document fuel)

mutual

/-- The number of references in a value. -/
def references : Json → Nat
  | .arr items => referencesItems items
  | .obj members => referencesMembers members
  | _ => 0

/-- The number of references in a list of values. -/
def referencesItems : List Json → Nat
  | [] => 0
  | v :: vs => references v + referencesItems vs

/-- The number of references in a list of members. -/
def referencesMembers : List (String × Json) → Nat
  | [] => 0
  | (k, v) :: vs => (if k = "$ref" then 1 else 0) + references v + referencesMembers vs

end

/-- A bound on the depth of a walk without repetition: between two expansions of references every
value of the document is met at most once, and no reference is expanded inside itself. -/
def fuel (document : Json) : Nat := (document.size + 2) * (references document + 2)

end Convert

namespace Document

/-- Collects all records of a document whose own record is to be named `topLevel`. -/
def collect (d : Document) (topLevel : Json) : Build TypeGraph := do
  match d.root with
  | .bool true => throw (.schema .describesAnything)
  | .obj [] => throw (.schema .describesAnything)
  | .obj members =>
    -- the key of the document's own record is bound first, so that nothing else takes it
    let key ← Build.freshKey topLevel
    Build.bind "#" key
    let type ← Convert.walk d (Convert.fuel d.root)
      { hint := topLevel, reference := some "#" } (.obj members)
    if type.kind = .object then return { (← get).graph with topLevel := type.record }
    else throw (.schema (.describesOther type.kind))
  | v => throw (.schema (.notAnObject v.kindName))

/-- The graph of a document, and the notices on the way to it. -/
def toGraph (d : Document) (topLevel : Json) : Except Fault TypeGraph × List Notice :=
  let (result, builder) := (d.collect topLevel).run.run {}
  (result, builder.log)

end Document

end SchemaStruct
