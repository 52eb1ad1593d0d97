import SchemaStruct.Schema.Graph

/-!
# Layers of Types

A type of the record model has a type inside if it is a list or a map, and that type may have one
inside again. The types on this way are its layers. What a type says about records, it says in its
layers: it refers to the records of those layers that are objects.

## Main definitions

* `TypeRef.layers`: the types at all depths of a type;
* `TypeRef.WellFormed`: objects and no other layers have a record, lists and maps and no other
  layers have items;
* `TypeRef.RefersTo`: a layer is an object of the record;
* `TypeRef.ResolvesIn` and `TypeGraph.Resolved`: all objects among the layers have records of the
  graph.
-/

namespace SchemaStruct

namespace TypeRef

/-- The types at all depths of a type, the outermost one first. -/
def layers : TypeRef → List TypeRef
  | ⟨kind, record, some items, nullable⟩ => ⟨kind, record, some items, nullable⟩ :: layers items
  | ⟨kind, record, none, nullable⟩ => [⟨kind, record, none, nullable⟩]

/-- Every layer has a record if it is an object, and items if it is a list or a map, and otherwise
has none. -/
def WellFormed (t : TypeRef) : Prop :=
  ∀ u ∈ t.layers, (u.kind = .object ↔ u.record.isSome) ∧
    (u.kind = .array ∨ u.kind = .map ↔ u.items.isSome)

/-- A layer is an object of the record of that key. -/
def RefersTo (t : TypeRef) (key : String) : Prop :=
  ∃ u ∈ t.layers, u.kind = .object ∧ u.record = some key

/-- The objects among the layers have records of the graph. -/
def ResolvesIn (t : TypeRef) (g : TypeGraph) : Prop :=
  ∀ u ∈ t.layers, u.kind = .object → ∃ key ∈ g.keys, u.record = some key

instance (t : TypeRef) : Decidable t.WellFormed :=
  inferInstanceAs (Decidable (∀ u ∈ t.layers, (u.kind = .object ↔ u.record.isSome) ∧
    (u.kind = .array ∨ u.kind = .map ↔ u.items.isSome)))

instance (t : TypeRef) (key : String) : Decidable (t.RefersTo key) :=
  inferInstanceAs (Decidable (∃ u ∈ t.layers, u.kind = .object ∧ u.record = some key))

instance (t : TypeRef) (g : TypeGraph) : Decidable (t.ResolvesIn g) :=
  inferInstanceAs (Decidable (∀ u ∈ t.layers, u.kind = .object →
    ∃ key ∈ g.keys, u.record = some key))

/-- A type without items is its only layer. -/
@[simp]
theorem layers_of_none (kind : FieldKind) (record : Option String) (nullable : Bool) :
    layers ⟨kind, record, none, nullable⟩ = [⟨kind, record, none, nullable⟩] :=
  rfl

/-- The layers of a type with items are itself and those of its items. -/
@[simp]
theorem layers_of_some (kind : FieldKind) (record : Option String) (items : TypeRef)
    (nullable : Bool) :
    layers ⟨kind, record, some items, nullable⟩ =
      ⟨kind, record, some items, nullable⟩ :: items.layers :=
  rfl

/-- A type is its own outermost layer. -/
theorem mem_layers_self (t : TypeRef) : t ∈ t.layers := by
  obtain ⟨kind, record, items, nullable⟩ := t
  cases items <;> simp

/-- A well-formed type that refers only to records of a graph resolves in it. -/
theorem WellFormed.resolvesIn {t : TypeRef} (ht : t.WellFormed) {g : TypeGraph}
    (h : ∀ key, t.RefersTo key → key ∈ g.keys) : t.ResolvesIn g := by
  intro u hu hkind
  obtain ⟨key, hkey⟩ := Option.isSome_iff_exists.mp ((ht u hu).1.mp hkind)
  exact ⟨key, h key ⟨u, hu, hkind, hkey⟩, hkey⟩

/-- A well-formed object has nothing inside, so it refers to its own record only. -/
theorem WellFormed.record_eq {t : TypeRef} (ht : t.WellFormed) (hkind : t.kind = .object)
    {key : String} (h : t.RefersTo key) : t.record = some key := by
  obtain ⟨kind, record, items, nullable⟩ := t
  obtain rfl : kind = .object := hkind
  cases items with
  | none =>
    obtain ⟨u, hu, -, hrecord⟩ := h
    obtain rfl := List.mem_singleton.mp hu
    exact hrecord
  | some inside =>
    -- only lists and maps have items
    have hitems := (ht _ (mem_layers_self _)).2.mpr rfl
    simp at hitems

section

variable {kind : FieldKind} {t : TypeRef} {key : String} {b : Bool}

/-- Allowing no value touches the outermost layer only, and no record of it. -/
@[simp]
theorem refersTo_withNullableIf : (t.withNullableIf b).RefersTo key ↔ t.RefersTo key := by
  obtain ⟨kind, record, items, nullable⟩ := t
  cases b <;> cases items <;> simp [RefersTo, withNullableIf, withNullable]

/-- Allowing no value touches no record and no items. -/
@[simp]
theorem wellFormed_withNullableIf : (t.withNullableIf b).WellFormed ↔ t.WellFormed := by
  obtain ⟨kind, record, items, nullable⟩ := t
  cases b <;> cases items <;> simp [WellFormed, withNullableIf, withNullable]

/-- A list refers to what its items refer to. -/
@[simp]
theorem refersTo_array : t.array.RefersTo key ↔ t.RefersTo key := by
  simp [RefersTo, array]

/-- A list is well-formed if its items are. -/
@[simp]
theorem wellFormed_array : t.array.WellFormed ↔ t.WellFormed := by
  simp [WellFormed, array]

/-- A map refers to what its values refer to. -/
@[simp]
theorem refersTo_map : t.map.RefersTo key ↔ t.RefersTo key := by
  simp [RefersTo, map]

/-- A map is well-formed if its values are. -/
@[simp]
theorem wellFormed_map : t.map.WellFormed ↔ t.WellFormed := by
  simp [WellFormed, map]

/-- An object refers to its record. -/
@[simp]
theorem refersTo_object {own : String} : (object own).RefersTo key ↔ own = key := by
  simp [RefersTo, object]

/-- An object is well-formed. -/
@[simp]
theorem wellFormed_object : (object key).WellFormed := by
  simp [WellFormed, object]

/-- A type that is no object refers to no record by itself. -/
theorem not_refersTo_scalar (hkind : kind ≠ .object) : ¬ ({ kind } : TypeRef).RefersTo key := by
  simp [RefersTo, hkind]

/-- A type that is neither an object nor a list nor a map is well-formed by itself. -/
theorem wellFormed_scalar (hkind : kind ≠ .object ∧ kind ≠ .array ∧ kind ≠ .map) :
    ({ kind } : TypeRef).WellFormed := by
  simp [WellFormed, hkind]

end

end TypeRef

namespace TypeGraph

/-- The objects in the types of all properties have records of the graph. -/
def Resolved (g : TypeGraph) : Prop :=
  ∀ r ∈ g.records, ∀ p ∈ r.properties, p.type.ResolvesIn g

instance (g : TypeGraph) : Decidable g.Resolved :=
  inferInstanceAs (Decidable (∀ r ∈ g.records, ∀ p ∈ r.properties, p.type.ResolvesIn g))

section

variable {g : TypeGraph} {key : String}

/-- A graph has the keys of its records. -/
theorem contains_iff_mem_keys : g.contains key = true ↔ key ∈ g.keys := by
  simp [contains, keys]

/-- A key of a graph is the key of one of its records, which is found under it. -/
theorem exists_get?_of_mem_keys (h : key ∈ g.keys) :
    ∃ r ∈ g.records, r.key = key ∧ g.get? key = some r := by
  obtain ⟨r, hr, rfl⟩ := List.mem_map.mp h
  have hsome : (g.get? r.key).isSome := by
    rw [get?, List.find?_isSome]
    exact ⟨r, hr, by simp⟩
  obtain ⟨q, hq⟩ := Option.isSome_iff_exists.mp hsome
  have hkey : q.key = r.key := by simpa using List.find?_some hq
  exact ⟨q, List.mem_of_find?_eq_some hq, hkey, hq⟩

/-- The same where it has to be found. -/
theorem exists_get_of_mem_keys (h : key ∈ g.keys) :
    ∃ r ∈ g.records, r.key = key ∧ g.get key = .ok r := by
  obtain ⟨r, hr, hkey, hget⟩ := exists_get?_of_mem_keys h
  exact ⟨r, hr, hkey, by rw [get, hget]⟩

end

end TypeGraph

end SchemaStruct
