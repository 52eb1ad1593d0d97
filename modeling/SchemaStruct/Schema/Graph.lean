import SchemaStruct.Fault

/-!
# Record Graphs

The record model that a document is turned into and that code is generated from: records with
ordered properties, and a graph that keeps its records in the order of their discovery. The keys
of a graph are distinct by construction, so that `TypeGraph.get?` finds the one record of a key.
-/

namespace SchemaStruct

/-- The type of a property. A record key belongs to the kind `object` and an item type to the kinds
`array` and `map`; a type read from an answer may carry them elsewhere, and they are kept. -/
structure TypeRef where
  /-- What sort of value it is. -/
  kind : FieldKind
  /-- The key of the record of an object. -/
  record : Option String := none
  /-- The type of the items of a list or of the values of a map. -/
  items : Option TypeRef := none
  /-- Whether there may be no value. -/
  nullable : Bool := false
  deriving Repr, Inhabited, BEq

namespace TypeRef

/-- The type that says nothing. -/
def any : TypeRef := { kind := .any }

/-- The type of a record's values. -/
def object (key : String) : TypeRef := { kind := .object, record := some key }

/-- The type of lists. -/
def array (items : TypeRef) : TypeRef := { kind := .array, items := some items }

/-- The type of maps. -/
def map (values : TypeRef) : TypeRef := { kind := .map, items := some values }

/-- The same type, with no value allowed too. -/
def withNullable (t : TypeRef) : TypeRef := { t with nullable := true }

/-- The same type, with no value allowed too if `b` holds. -/
def withNullableIf (b : Bool) (t : TypeRef) : TypeRef := if b then t.withNullable else t

end TypeRef

/-- A property of a record. -/
structure Property where
  /-- The name in the document. -/
  name : String
  /-- The type of its value. -/
  type : TypeRef
  /-- Whether it may be absent. -/
  optional : Bool := false
  /-- What the document says about it; a text, unless the document is careless. -/
  description : Json := .null
  deriving Repr, Inhabited

/-- A record: a named type with ordered properties. -/
structure Record where
  /-- The key of the record in its graph. -/
  key : String
  /-- The name that the document suggests for it. -/
  suggestedName : Json
  /-- The properties, in the order of the document. -/
  properties : List Property := []
  /-- Who may see it. -/
  visibility : Visibility := .exported
  /-- What the document says about it; a text, unless the document is careless. -/
  description : Json := .null
  /-- The type that it extends, if any. -/
  baseType : Json := .null
  deriving Repr, Inhabited

/-- The first property of a given name. -/
def Record.property? (r : Record) (name : String) : Option Property :=
  r.properties.find? (·.name == name)

/-- The records of one document, in the order of their discovery. -/
structure TypeGraph where
  /-- The records. -/
  records : List Record := []
  /-- The key of the record that the document itself describes. -/
  topLevel : Option String := none
  /-- No two records have the same key. -/
  keys_nodup : (records.map Record.key).Nodup := by simp

namespace TypeGraph

instance : Inhabited TypeGraph := ⟨{}⟩

/-- The graph without records. -/
def empty : TypeGraph := {}

/-- The keys, in the order of discovery. -/
def keys (g : TypeGraph) : List String := g.records.map Record.key

/-- The number of records. -/
def size (g : TypeGraph) : Nat := g.records.length

/-- Whether the graph has a record of that key. -/
def contains (g : TypeGraph) (key : String) : Bool := g.records.any (·.key == key)

/-- The record of a key, if there is one. -/
def get? (g : TypeGraph) (key : String) : Option Record := g.records.find? (·.key == key)

/-- The record of a key. -/
def get (g : TypeGraph) (key : String) : Except Fault Record :=
  match g.get? key with
  | some r => .ok r
  | none => .error (.schema (.unknownRecord key))

/-- The graph with one more record at its end. -/
def add (g : TypeGraph) (r : Record) : Except Fault TypeGraph :=
  if h : r.key ∈ g.records.map Record.key then .error (.schema (.duplicateRecord r.key))
  else .ok
    { g with
      records := g.records ++ [r]
      keys_nodup := by
        rw [List.map_append, List.nodup_append]
        refine ⟨g.keys_nodup, by simp, ?_⟩
        intro a ha b hb hab
        simp only [List.map_cons, List.map_nil, List.mem_singleton] at hb
        exact h (hb ▸ hab ▸ ha) }

/-- Replacing a record by one of the same key keeps the keys. -/
theorem map_key_replace (r : Record) (records : List Record) :
    (records.map fun x => if x.key = r.key then r else x).map Record.key =
      records.map Record.key := by
  rw [List.map_map]
  refine List.map_congr_left fun x _ => ?_
  simp only [Function.comp_apply]
  split
  · next h => exact h.symm
  · rfl

/-- The graph with `r` in the place of the record of its key. -/
def replace (g : TypeGraph) (r : Record) : TypeGraph :=
  { g with
    records := g.records.map fun x => if x.key = r.key then r else x
    keys_nodup := by rw [map_key_replace]; exact g.keys_nodup }

/-- The graph of the given records, added in order. -/
def ofRecords (records : List Record) (topLevel : Option String) : Except Fault TypeGraph := do
  let g ← records.foldlM TypeGraph.add TypeGraph.empty
  return { g with topLevel }

/-- The number of properties of all records. -/
def propertyCount (g : TypeGraph) : Nat := (g.records.flatMap Record.properties).length

end TypeGraph

end SchemaStruct
