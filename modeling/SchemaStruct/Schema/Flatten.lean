import SchemaStruct.Json.Entries
import SchemaStruct.Schema.Pointer

/-!
# Flattened Schemas

A schema may be put together from parts (`allOf`). `Node.flatten` gathers them into one node: the
properties of all parts with the schema's own ones last, the required names of all parts without
repetition, and the first type that anyone gives. Parts that are references are followed for one
step, and parts of parts are gathered first. Parts that contain each other have no flat form.
-/

namespace SchemaStruct

/-- What has been gathered from the parts of a schema. -/
structure Gathered where
  /-- The properties, each under its first place with its last schema. -/
  properties : Entries
  /-- The names of required properties, without repetition. -/
  required : List Json
  deriving Inhabited

/-- A schema without parts: its keywords, and what was gathered from its parts if it had some.
What was gathered takes the place of the keywords for properties and required names. -/
structure Node where
  /-- The keywords. -/
  keywords : List (String × Json)
  /-- What was gathered from the parts. -/
  gathered : Option Gathered := none
  deriving Inhabited

namespace Node

/-- The value of a keyword. -/
def get? (n : Node) (keyword : String) : Option Json := Json.lookup keyword n.keywords

/-- Whether the schema lists properties. -/
def hasProperties (n : Node) : Bool := n.gathered.isSome || (n.get? "properties").isSome

/-- The properties that the schema contributes to a whole. -/
def contributed (n : Node) : Except Fault Entries :=
  match n.gathered with
  | some g => .ok g.properties
  | none =>
    match n.get? "properties" with
    | some v => v.entries
    | none => .ok []

/-- The properties that the schema lists for a record: they have to be an object. -/
def listed (n : Node) : Except Fault Entries :=
  match n.gathered with
  | some g => .ok g.properties
  | none =>
    match n.get? "properties" with
    | some (.obj members) => .ok (Entries.ofMembers members)
    | some v => .error (.misfit (.lacks v.kindName "items"))
    | none => .ok []

/-- The values that stand for names of required properties. -/
def required (n : Node) : Except Fault (List Json) :=
  match n.gathered with
  | some g => .ok g.required
  | none =>
    match n.get? "required" with
    | some v => v.walk
    | none => .ok []

/-- The names of the required properties. -/
def requiredNames (n : Node) : Except Fault (List String) := do
  let values ← n.required
  values.forM Json.requireHashable
  return values.filterMap Json.text?

end Node

namespace Gathered

/-- Nothing. -/
def empty : Gathered := ⟨[], []⟩

/-- A list of values, extended by the values of another list that it does not hold yet. -/
def extend (values more : List Json) : List Json :=
  more.foldl (fun acc v => if acc.contains v then acc else acc ++ [v]) values

/-- What has been gathered, with what a node contributes. -/
def addNode (g : Gathered) (n : Node) : Except Fault Gathered := do
  let properties ← n.contributed
  let required ← n.required
  return ⟨g.properties.update properties, extend g.required required⟩

end Gathered

namespace Node

/-- The keywords, with the type of a part if none is there yet. -/
def adoptType (keywords : List (String × Json)) (part : Node) : List (String × Json) :=
  match Json.lookup "type" keywords, part.get? "type" with
  | none, some t => keywords ++ [("type", t)]
  | _, _ => keywords

/-- A node under construction, with one more part. Parts that are no objects contribute nothing;
`flat` flattens a part. -/
def addPart (document : Json) (flat : List (String × Json) → Except Fault Node)
    (acc : List (String × Json) × Gathered) (part : Json) :
    Except Fault (List (String × Json) × Gathered) := do
  match part with
  | .obj members =>
    -- a reference is followed for one step; what it points to may have parts again
    let target ← match Json.lookup "$ref" members with
      | some ref => Pointer.resolveValue document ref
      | none => .ok part
    let node ← flat (target.members?.getD [])
    return (adoptType acc.1 node, ← acc.2.addNode node)
  | _ => return acc

/-- The flat form of a schema, where parts are nested at most as deeply as the fuel says. -/
def flattenWith (document : Json) : Nat → List (String × Json) → Except Fault Node
  | 0, _ => .error .endless
  | fuel + 1, members =>
    match Json.lookup "allOf" members with
    | none => .ok { keywords := members }
    | some parts => do
      let parts ← parts.walk
      let start := (members.filter (·.1 != "allOf"), Gathered.empty)
      -- the schema's own properties and required names come behind those of its parts
      let (keywords, gathered) ← parts.foldlM (addPart document (flattenWith document fuel)) start
      let gathered ← gathered.addNode { keywords := members }
      return { keywords, gathered := some gathered }

/-- The flat form of a schema. A nesting of parts deeper than the document has values comes back to
a part that it is inside of. -/
def flatten (document : Json) (members : List (String × Json)) : Except Fault Node :=
  flattenWith document (document.size + 2) members

end Node

end SchemaStruct
