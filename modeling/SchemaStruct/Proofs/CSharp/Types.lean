import SchemaStruct.CSharp.Definition
import SchemaStruct.Proofs.Schema.Layers
import SchemaStruct.Proofs.Source.Pages

/-!
# Types Have Texts

The type of a property can be written if the records that it refers to have names. Lists, maps and
question marks are put around a type that has a text, so the text of a type goes layer by layer.

## Main definitions

* `CSharpType.HasText`: a type can be written;
* `NameTable.Assigned`: all records and properties have texts.

## Main results

* `CSharpType.exists_ofRef` and `CSharpType.exists_ofProperty`: a type whose objects have names
  becomes a type with a text;
* `CSharp.Renderer.exists_propertyType`: so does the type of every property of a graph that resolves
  its references.
-/

namespace SchemaStruct

namespace NameTable

/-- All records and properties of the graph have texts, whatever these are. -/
structure Assigned (t : NameTable) : Prop where
  /-- Every record has a text. -/
  record : ∀ r ∈ t.graph.records, ∃ s, t.text? (recordName r) = some s
  /-- Every property has a text. -/
  property : ∀ r ∈ t.graph.records, ∀ entry ∈ propertyNames r, ∃ s, t.text? entry.1 = some s

end NameTable

namespace CSharpType

open CSharp

/-- Whether a type can be written. -/
def HasText (names : NameTable) (t : CSharpType) : Prop :=
  ∃ s, t.fragment.serialize names = .ok s

/-- The type, with no value allowed too if `b` holds. -/
def asNullableIf (b : Bool) (t : CSharpType) : CSharpType := if b then t.asNullable else t

/-- A type of the mapping by its parts, where a list or a map without items is one of anything. -/
theorem ofRef_eq (choices : TypeChoices) (recordName : Option String → Except Fault Fragment)
    (t : TypeRef) :
    ofRef choices recordName t = (do
      let c ← base choices recordName t.kind t.record
        (ofRef choices recordName (t.items.getD .any))
      return c.asNullableIf t.nullable) := by
  obtain ⟨kind, record, items, nullable⟩ := t
  cases items <;> rfl

variable {names : NameTable} {t : CSharpType}

/-- A type with a name of its own can be written. -/
theorem hasText_named (name : String) (isValueType : Bool) :
    (named name isValueType).HasText names :=
  ⟨name, rfl⟩

/-- A type in brackets can be written if the type can. -/
theorem HasText.group (h : t.HasText names) (bracket : Bracket) (before after : String) :
    ∃ s, (Fragment.group bracket [.text before, t.fragment, .text after]).serialize names =
      .ok s := by
  obtain ⟨s, hs⟩ := h
  exact ⟨_, Fragment.serializeAll_eq_join (.cons rfl (.cons hs (.cons rfl .nil)))⟩

/-- A question mark takes no text away. -/
theorem HasText.asNullable (h : t.HasText names) : t.asNullable.HasText names := by
  unfold CSharpType.asNullable
  split
  · exact h
  · obtain ⟨s, hs⟩ := h
    exact ⟨_, Fragment.serializeAll_eq_join (.cons hs (.cons rfl .nil))⟩

/-- So it does if it stands under a condition. -/
theorem HasText.asNullableIf (h : t.HasText names) (b : Bool) : (t.asNullableIf b).HasText names := by
  cases b with
  | false => exact h
  | true => exact h.asNullable

/-- What can be written can be written with a mark under a condition. -/
theorem exists_asNullableIf {r : Except Fault CSharpType} (h : ∃ c, r = .ok c ∧ c.HasText names)
    (b : Bool) : ∃ c, (do
      let c ← r
      return c.asNullableIf b) = .ok c ∧ c.HasText names := by
  obtain ⟨c, rfl, htext⟩ := h
  exact ⟨c.asNullableIf b, rfl, htext.asNullableIf b⟩

/-- Lists of a type can be written if the type can. -/
theorem HasText.listOf (h : t.HasText names) (style : ArrayStyle) :
    (listOf style t).HasText names := by
  cases style with
  | list => exact h.group .round "List<" ">"
  | array =>
    obtain ⟨s, hs⟩ := h
    exact ⟨_, Fragment.serializeAll_eq_join (.cons hs (.cons rfl .nil))⟩

/-- Dictionaries with values of a type can be written if the type can. -/
theorem HasText.mapOf (h : t.HasText names) : (mapOf t).HasText names :=
  h.group .round "Dictionary<string, " ">"

section

variable {recordName : Option String → Except Fault Fragment} (choices : TypeChoices)

/-- A layer can be written if its record has a name and what is inside can be written. -/
theorem exists_base {kind : FieldKind} {record : Option String}
    {items : Except Fault CSharpType}
    (hrecord : kind = .object → ∃ f s, recordName record = .ok f ∧ f.serialize names = .ok s)
    (hitems : ∃ t, items = .ok t ∧ t.HasText names) :
    ∃ t, base choices recordName kind record items = .ok t ∧ t.HasText names := by
  obtain ⟨inside, rfl, hinside⟩ := hitems
  cases kind with
  | string => exact ⟨_, rfl, hasText_named _ _⟩
  | integer => exact ⟨_, rfl, hasText_named _ _⟩
  | float => exact ⟨_, rfl, hasText_named _ _⟩
  | boolean => exact ⟨_, rfl, hasText_named _ _⟩
  | timestamp => exact ⟨_, rfl, choices.timeType.name, rfl⟩
  | object =>
    obtain ⟨f, s, hf, hs⟩ := hrecord rfl
    exact ⟨{ fragment := f, isValueType := true }, by rw [base, hf]; rfl, s, hs⟩
  | array => exact ⟨_, rfl, hinside.listOf _⟩
  | map => exact ⟨_, rfl, hinside.mapOf⟩
  | any => exact ⟨_, rfl, choices.anyType.name, rfl⟩

/-- A type whose objects have names becomes a type that can be written. -/
theorem exists_ofRef {t : TypeRef}
    (h : ∀ u ∈ t.layers, u.kind = .object →
      ∃ f s, recordName u.record = .ok f ∧ f.serialize names = .ok s) :
    ∃ c, ofRef choices recordName t = .ok c ∧ c.HasText names := by
  induction t using TypeRef.layers.induct with
  | case1 kind record items nullable ih =>
    rw [TypeRef.layers_of_some] at h
    have hinside := ih fun u hu => h u (List.mem_cons_of_mem _ hu)
    rw [ofRef_eq]
    exact exists_asNullableIf (exists_base choices (h _ List.mem_cons_self) hinside) nullable
  | case2 kind record nullable =>
    have hinside : ∃ c, ofRef choices recordName .any = .ok c ∧ c.HasText names :=
      ⟨_, rfl, choices.anyType.name, rfl⟩
    rw [ofRef_eq]
    exact exists_asNullableIf (exists_base choices (h _ List.mem_cons_self) hinside) nullable

/-- A property whose type has names for its objects has a type that can be written. -/
theorem exists_ofProperty {p : Property}
    (h : ∀ u ∈ p.type.layers, u.kind = .object →
      ∃ f s, recordName u.record = .ok f ∧ f.serialize names = .ok s) :
    ∃ c, ofProperty choices recordName p = .ok c ∧ c.HasText names := by
  exact exists_asNullableIf (exists_ofRef choices h) _

end

end CSharpType

namespace CSharp.Renderer

variable {r : Renderer} (hassigned : r.names.Assigned)

include hassigned

/-- The key of a record of the graph has the name of that record, which has a text. -/
theorem exists_recordType {key : String} (h : key ∈ r.names.graph.keys) :
    ∃ f s, r.recordType (some key) = .ok f ∧ f.serialize r.names = .ok s := by
  obtain ⟨record, hrecord, -, hget⟩ := TypeGraph.exists_get_of_mem_keys h
  obtain ⟨s, hs⟩ := hassigned.record record hrecord
  refine ⟨.name (NameTable.recordName record), s, ?_, Fragment.serialize_name hs⟩
  simp [recordType, hget, bind, Except.bind, pure, Except.pure]

/-- A property whose type resolves in the graph becomes a type that can be written. -/
theorem exists_typeOf {p : Property} (h : p.type.ResolvesIn r.names.graph) :
    ∃ c, CSharpType.ofProperty r.options.choices r.recordType p = .ok c ∧ c.HasText r.names := by
  refine CSharpType.exists_ofProperty r.options.choices fun u hu hkind => ?_
  obtain ⟨key, hkey, hrecord⟩ := h u hu hkind
  rw [hrecord]
  exact exists_recordType hassigned hkey

/-- A property whose type resolves in the graph has a type with a text, the same at all times. -/
theorem exists_propertyType {p : Property} (h : p.type.ResolvesIn r.names.graph) :
    ∃ f s, f.serialize r.names = .ok s ∧ ∀ d, Writes (r.propertyType p) d f [] := by
  obtain ⟨c, hc, s, hs⟩ := exists_typeOf hassigned h
  refine ⟨c.fragment, s, hs, fun d => ?_⟩
  exact (Writes.ofExcept hc d).bind ((Writes.need c.usings d).bind (Writes.pure _ d))

end CSharp.Renderer

end SchemaStruct
