import SchemaStruct.Schema.Convert

/-!
# Forms of Schemas

What a schema describes is decided before anything inside of it is walked, and does not depend on
what has been collected: `Form.of` reads it off the schema.

## Main definitions

* `Shape` and `Form`: what a schema describes, and whether there may be no value;
* `Shape.kind?`: the kind of what it describes;
* `Form.of`: the form of a schema in a document.

## Main results

* `Form.of_ref`, `Form.of_listed` and `Form.of_flat`: the form of a schema with a reference, of one
  with alternatives and of one without either;
* `Form.flatten_of_record`: the schema of a record is an object without either;
* `Form.get?_of_reference`: only a schema with a reference is one.
-/

namespace SchemaStruct

/-- What a schema describes, before anything inside of it is looked at. -/
inductive Shape
  /-- Values that are no objects, lists or maps. -/
  | scalar (kind : FieldKind)
  /-- Lists, with the schema of their items unless these may be anything. -/
  | list (items : Option Json)
  /-- Maps, with the schema of their values unless these may be anything. -/
  | map (values : Option Json)
  /-- Values of a record. -/
  | record (node : Node)
  /-- What a reference points to. -/
  | reference (r : String)
  /-- What the only alternative describes. -/
  | alternative (one : Json)

/-- The kind of what a schema of the shape describes, unless it leaves that to another schema. -/
def Shape.kind? : Shape → Option FieldKind
  | .scalar kind => some kind
  | .list _ => some .array
  | .map _ => some .map
  | .record _ => some .object
  | .reference _ => none
  | .alternative _ => none

/-- What is a scalar by its shape is one by its kind. -/
def Shape.Proper : Shape → Prop
  | .scalar kind => kind ≠ .object ∧ kind ≠ .array ∧ kind ≠ .map
  | _ => True

/-- What a schema describes, and whether it allows that there is no value. -/
structure Form where
  /-- What it describes. -/
  shape : Shape
  /-- Whether there may be no value. -/
  nullable : Bool := false

namespace Form

/-- The same form, with no value allowed too if `b` holds. -/
def withNullableIf (b : Bool) (f : Form) : Form := { f with nullable := f.nullable || b }

/-- The form of a list, given the schema of its items. -/
def ofItems : Option Json → Form
  | some (.arr _) => ⟨.list none, false⟩
  | items => ⟨.list (some (items.getD (.bool true))), false⟩

/-- The form of a map, given the schema of its values. -/
def ofValues : Option Json → Form
  | some (.bool false) => ⟨.map none, false⟩
  | values => ⟨.map (some (values.getD (.bool true))), false⟩

/-- The form of a node whose type is named, if the name is known. -/
def ofTyped (node : Node) : Json → Option Form
  | .null => some ⟨.scalar .any, false⟩
  | .str "null" => some ⟨.scalar .any, true⟩
  | .str "array" => some (ofItems (node.get? "items"))
  | .str "object" =>
    if node.hasProperties then some ⟨.record node, false⟩
    else some (ofValues (node.get? "additionalProperties"))
  | .str name =>
    match Convert.primitives.lookup name with
    | some .string =>
      let isTime := node.get? "format" == some (.str "date-time")
      some ⟨.scalar (if isTime then .timestamp else .string), false⟩
    | some kind => some ⟨.scalar kind, false⟩
    | none => none
  | _ => none

/-- The form of a node with a list of types: that of the only type beside the one without values. -/
def ofTypes (node : Node) (types : List Json) : Option Form :=
  let named := types.filter (!Convert.isNullType ·)
  let nullable := named.length != types.length
  match named with
  | [type] => (ofTyped node type).map (withNullableIf nullable)
  | _ => some ⟨.scalar .any, nullable⟩

/-- The form of a node without parts. -/
def ofFlat (node : Node) : Option Form :=
  match node.get? "enum" with
  | some values => (Convert.enumeration values).toOption.map fun t => ⟨.scalar t.kind, false⟩
  | none =>
    match Json.orNull (node.get? "type") with
    | .arr types => ofTypes node types
    | .null => ofTyped node (if node.hasProperties then .str "object" else .null)
    | type => ofTyped node type

/-- The form of a list of alternatives. -/
def ofAlternatives (all : List Json) : Form :=
  let others := all.filter (!Convert.isNullAlternative ·)
  let nullable := others.length != all.length
  match others with
  | [one] => ⟨.alternative one, nullable⟩
  | _ => ⟨.scalar .any, nullable⟩

/-- The form of a schema in a document, if it has one. -/
def of (document : Json) : Json → Option Form
  | .bool true => some ⟨.scalar .any, false⟩
  | .obj [] => some ⟨.scalar .any, false⟩
  | .obj members =>
    match Json.lookup "$ref" members with
    | some (.str r) => some ⟨.reference r, false⟩
    | some _ => none
    | none =>
      match (Json.lookup "anyOf" members).or (Json.lookup "oneOf" members) with
      | some listed => listed.walk.toOption.map ofAlternatives
      | none => (Node.flatten document members).toOption.bind ofFlat
  | _ => none

section

variable {node : Node} {types : List Json}

/-- A type with a name of its own is what its name says, texts with a format apart. -/
theorem ofTyped_of_primitive {name : String} {kind : FieldKind} (hnull : name = "null" → False)
    (harray : name = "array" → False) (hobject : name = "object" → False)
    (hlookup : Convert.primitives.lookup name = some kind) (hstring : kind = .string → False) :
    ofTyped node (.str name) = some ⟨.scalar kind, false⟩ := by
  rw [ofTyped.eq_5 _ _ hnull harray hobject, hlookup]
  cases kind with
  | string => exact absurd rfl hstring
  | _ => rfl

/-- Of several types beside the one without values nothing is known. -/
theorem ofTypes_of_many
    (h : ∀ type, types.filter (!Convert.isNullType ·) = [type] → False) :
    ofTypes node types = some ⟨.scalar .any,
      (types.filter (!Convert.isNullType ·)).length != types.length⟩ := by
  dsimp only [ofTypes]
  split
  · next type htype => exact absurd htype (h type)
  · rfl

/-- A list of allowed values goes before all types. -/
theorem ofFlat_of_enum {values : Json} (h : node.get? "enum" = some values) :
    ofFlat node =
      (Convert.enumeration values).toOption.map fun t => ⟨.scalar t.kind, false⟩ := by
  simp only [ofFlat, h]

/-- A node may have a list of types. -/
theorem ofFlat_of_types (henum : node.get? "enum" = none)
    (htypes : Json.orNull (node.get? "type") = .arr types) :
    ofFlat node = ofTypes node types := by
  simp only [ofFlat, henum, htypes]

/-- A node without a type describes a record if it has properties. -/
theorem ofFlat_of_null (henum : node.get? "enum" = none)
    (htype : Json.orNull (node.get? "type") = .null) :
    ofFlat node = ofTyped node (if node.hasProperties then .str "object" else .null) := by
  simp only [ofFlat, henum, htype]

/-- A node may have one type. -/
theorem ofFlat_of_type (henum : node.get? "enum" = none)
    (htypes : ∀ types, Json.orNull (node.get? "type") = .arr types → False)
    (hnull : Json.orNull (node.get? "type") = .null → False) :
    ofFlat node = ofTyped node (Json.orNull (node.get? "type")) := by
  rw [ofFlat, henum]
  dsimp only
  split
  · next heq => exact absurd heq (htypes _)
  · next heq => exact absurd heq hnull
  · rfl

end

section

variable {document : Json} {members : List (String × Json)} (hmembers : members = [] → False)

include hmembers

/-- A reference goes before everything else. -/
theorem of_ref {r : String} (href : Json.lookup "$ref" members = some (.str r)) :
    of document (.obj members) = some ⟨.reference r, false⟩ := by
  rw [of.eq_3 _ _ hmembers]
  simp only [href]

/-- Alternatives go before all parts and types. -/
theorem of_listed {listed : Json} (href : Json.lookup "$ref" members = none)
    (hlisted : (Json.lookup "anyOf" members).or (Json.lookup "oneOf" members) = some listed) :
    of document (.obj members) = listed.walk.toOption.map ofAlternatives := by
  rw [of.eq_3 _ _ hmembers]
  simp only [href, hlisted]

/-- A schema without references and alternatives is flattened. -/
theorem of_flat (href : Json.lookup "$ref" members = none)
    (hlisted : (Json.lookup "anyOf" members).or (Json.lookup "oneOf" members) = none) :
    of document (.obj members) = (Node.flatten document members).toOption.bind ofFlat := by
  rw [of.eq_3 _ _ hmembers]
  simp only [href, hlisted]

end

/-- The form of a schema with a reference does not depend on what else stands there. -/
theorem of_reference {document schema : Json} {r : String}
    (h : schema.get? "$ref" = some (.str r)) :
    of document schema = some ⟨.reference r, false⟩ := by
  cases schema with
  | obj members => exact of_ref (fun hnil => by simp [hnil, Json.get?, Json.lookup] at h) h
  | _ => cases h

section

variable {node flat : Node} {nullable : Bool}

/-- A node whose type is named is the schema of no other record than its own. -/
theorem eq_of_ofTyped_record {type : Json}
    (h : ofTyped node type = some ⟨.record flat, nullable⟩) : node = flat := by
  unfold ofTyped at h
  split at h
  · cases h
  · cases h
  · unfold ofItems at h
    split at h <;> cases h
  · split at h
    · cases h
      rfl
    · unfold ofValues at h
      split at h <;> cases h
  · split at h <;> cases h
  · cases h

/-- Neither is a node with a list of types. -/
theorem eq_of_ofTypes_record {types : List Json}
    (h : ofTypes node types = some ⟨.record flat, nullable⟩) : node = flat := by
  dsimp only [ofTypes] at h
  split at h
  · obtain ⟨⟨shape, _⟩, hform, heq⟩ := Option.map_eq_some_iff.mp h
    obtain ⟨rfl, -⟩ := Form.mk.inj heq
    exact eq_of_ofTyped_record hform
  · cases h

/-- Neither is any node without parts. -/
theorem eq_of_ofFlat_record (h : ofFlat node = some ⟨.record flat, nullable⟩) : node = flat := by
  unfold ofFlat at h
  split at h
  · obtain ⟨t, -, heq⟩ := Option.map_eq_some_iff.mp h
    cases heq
  · split at h
    · exact eq_of_ofTypes_record h
    · exact eq_of_ofTyped_record h
    · exact eq_of_ofTyped_record h

/-- The schema of a record is an object, and the record is that of its flat form. -/
theorem flatten_of_record {root schema : Json}
    (h : Form.of root schema = some ⟨.record flat, nullable⟩) :
    ∃ members, schema = .obj members ∧ Node.flatten root members = .ok flat := by
  unfold Form.of at h
  split at h
  · cases h
  · cases h
  · next members _ =>
    refine ⟨members, rfl, ?_⟩
    split at h
    · cases h
    · cases h
    · split at h
      · -- alternatives are none of the schemas that describe the values of a record themselves
        obtain ⟨all, -, heq⟩ := Option.map_eq_some_iff.mp h
        dsimp only [ofAlternatives] at heq
        split at heq <;> cases heq
      · obtain ⟨node, hnode, hform⟩ := Option.bind_eq_some_iff.mp h
        rw [← eq_of_ofFlat_record hform]
        cases hflat : Node.flatten root members with
        | error f => simp [hflat, Except.toOption] at hnode
        | ok n => simpa [hflat, Except.toOption] using hnode
  · cases h

/-- The form of a list does not tell the kind of its items. -/
theorem shape_ofItems (items : Option Json) :
    ∃ schema, ofItems items = ⟨.list schema, false⟩ := by
  unfold ofItems
  split <;> exact ⟨_, rfl⟩

/-- The form of a map does not tell the kind of its values. -/
theorem shape_ofValues (values : Option Json) :
    ∃ schema, ofValues values = ⟨.map schema, false⟩ := by
  unfold ofValues
  split <;> exact ⟨_, rfl⟩

/-- The form of a node whose type is named tells the kind. -/
theorem exists_kind?_of_ofTyped {type : Json} {form : Form} (h : ofTyped node type = some form) :
    ∃ kind, form.shape.kind? = some kind := by
  unfold ofTyped at h
  split at h
  · cases h
    exact ⟨_, rfl⟩
  · cases h
    exact ⟨_, rfl⟩
  · obtain ⟨schema, hitems⟩ := shape_ofItems (node.get? "items")
    rw [hitems] at h
    cases h
    exact ⟨_, rfl⟩
  · split at h
    · cases h
      exact ⟨_, rfl⟩
    · obtain ⟨schema, hvalues⟩ := shape_ofValues (node.get? "additionalProperties")
      rw [hvalues] at h
      cases h
      exact ⟨_, rfl⟩
  · split at h <;> cases h <;> exact ⟨_, rfl⟩
  · cases h

/-- The form of a node without parts tells the kind. -/
theorem exists_kind?_of_ofFlat {form : Form} (h : ofFlat node = some form) :
    ∃ kind, form.shape.kind? = some kind := by
  unfold ofFlat at h
  split at h
  · obtain ⟨t, -, rfl⟩ := Option.map_eq_some_iff.mp h
    exact ⟨_, rfl⟩
  · split at h
    · dsimp only [ofTypes] at h
      split at h
      · obtain ⟨typed, htyped, rfl⟩ := Option.map_eq_some_iff.mp h
        obtain ⟨kind, hkind⟩ := exists_kind?_of_ofTyped htyped
        exact ⟨kind, hkind⟩
      · cases h
        exact ⟨_, rfl⟩
    · exact exists_kind?_of_ofTyped h
    · exact exists_kind?_of_ofTyped h

/-- A node without parts is no reference. -/
theorem ofFlat_ne_reference {r : String} : ofFlat node ≠ some ⟨.reference r, nullable⟩ := by
  intro h
  obtain ⟨kind, hkind⟩ := exists_kind?_of_ofFlat h
  cases hkind

/-- Only a schema with a reference is one. -/
theorem get?_of_reference {root schema : Json} {r : String}
    (h : Form.of root schema = some ⟨.reference r, nullable⟩) :
    schema.get? "$ref" = some (.str r) := by
  unfold Form.of at h
  split at h
  · cases h
  · cases h
  · next members _ =>
    split at h
    · next href =>
      obtain ⟨hr, -⟩ := Form.mk.inj (Option.some.inj h)
      obtain rfl := Shape.reference.inj hr
      exact href
    · cases h
    · split at h
      · obtain ⟨all, -, heq⟩ := Option.map_eq_some_iff.mp h
        dsimp only [ofAlternatives] at heq
        split at heq <;> cases heq
      · obtain ⟨flat, -, hform⟩ := Option.bind_eq_some_iff.mp h
        exact absurd hform ofFlat_ne_reference
  · cases h

end

/-- The types with a name of their own are no objects, lists or maps. -/
theorem primitives_scalar {name : String} {kind : FieldKind}
    (h : Convert.primitives.lookup name = some kind) :
    kind ≠ .object ∧ kind ≠ .array ∧ kind ≠ .map := by
  have hall : ∀ entry ∈ Convert.primitives,
      entry.2 ≠ .object ∧ entry.2 ≠ .array ∧ entry.2 ≠ .map := by decide
  obtain ⟨l₁, l₂, heq, -⟩ := List.lookup_eq_some_iff.mp h
  exact hall (name, kind) (by rw [heq]; simp)

/-- Lists of allowed values describe texts or anything. -/
theorem kind_of_enumeration {values : Json} {t : TypeRef}
    (h : Convert.enumeration values = .ok t) :
    ∃ kind : FieldKind, t = { kind } ∧ kind ≠ .object ∧ kind ≠ .array ∧ kind ≠ .map := by
  unfold Convert.enumeration at h
  split at h
  · exact ⟨.any, (Except.ok.inj h).symm, by decide⟩
  · cases hwalk : values.walk with
    | error f => simp [hwalk, bind, Except.bind] at h
    | ok vs =>
      simp only [hwalk, bind, Except.bind, pure, Except.pure, Except.ok.injEq] at h
      exact ⟨_, h.symm, by split <;> decide⟩

section

variable {node : Node} {form : Form}

/-- The form of a node whose type is named is a proper one. -/
theorem proper_of_ofTyped {type : Json} (h : ofTyped node type = some form) :
    form.shape.Proper := by
  unfold ofTyped at h
  split at h
  · cases h
    exact ⟨by decide, by decide, by decide⟩
  · cases h
    exact ⟨by decide, by decide, by decide⟩
  · obtain ⟨schema, hitems⟩ := shape_ofItems (node.get? "items")
    rw [hitems] at h
    cases h
    trivial
  · split at h
    · cases h
      trivial
    · obtain ⟨schema, hvalues⟩ := shape_ofValues (node.get? "additionalProperties")
      rw [hvalues] at h
      cases h
      trivial
  · split at h
    · cases h
      dsimp only [Shape.Proper]
      split <;> decide
    · next kind hstring hlookup =>
      cases h
      exact primitives_scalar hlookup
    · cases h
  · cases h

/-- The form of a node without parts is a proper one. -/
theorem proper_of_ofFlat (h : ofFlat node = some form) : form.shape.Proper := by
  unfold ofFlat at h
  split at h
  · next values henum =>
    cases hvalues : Convert.enumeration values with
    | error f => simp [hvalues, Except.toOption] at h
    | ok t =>
      obtain ⟨kind, rfl, hkind⟩ := kind_of_enumeration hvalues
      rw [hvalues] at h
      cases h
      exact hkind
  · split at h
    · dsimp only [ofTypes] at h
      split at h
      · obtain ⟨typed, htyped, rfl⟩ := Option.map_eq_some_iff.mp h
        show typed.shape.Proper
        exact proper_of_ofTyped htyped
      · cases h
        exact ⟨by decide, by decide, by decide⟩
    · exact proper_of_ofTyped h
    · exact proper_of_ofTyped h

/-- The form of a schema is a proper one. -/
theorem proper_of {document schema : Json} (h : of document schema = some form) :
    form.shape.Proper := by
  unfold of at h
  split at h
  · cases h
    exact ⟨by decide, by decide, by decide⟩
  · cases h
    exact ⟨by decide, by decide, by decide⟩
  · split at h
    · cases h
      trivial
    · cases h
    · split at h
      · obtain ⟨all, -, rfl⟩ := Option.map_eq_some_iff.mp h
        dsimp only [ofAlternatives]
        split
        · trivial
        · exact ⟨by decide, by decide, by decide⟩
      · obtain ⟨flat, -, hform⟩ := Option.bind_eq_some_iff.mp h
        exact proper_of_ofFlat hform
  · cases h

end

end Form

end SchemaStruct
