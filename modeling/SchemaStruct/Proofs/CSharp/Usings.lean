import SchemaStruct.Proofs.CSharp.Layout
import SchemaStruct.Proofs.CSharp.Refinement
import SchemaStruct.Proofs.CSharp.TypeTexts

/-!
# Namespaces and Hints of Types

Which namespaces the code for a graph puts to use, and what a reader is told about a type, read off
the types of the properties. Only some levels of a type are written with a name of a library: lists
that can grow and dictionaries, which belong to the collections, and points in time at the innermost
level, which are basic. Unknown values at the innermost level give a hint. A type of C# carries its
namespaces and hints with it, so every step of the mapping has to hand on those of what is inside.

## Main definitions

* `CSharp.IsCollection`: a level that is written with a name of the collections;
* `CSharp.TypeNeeds` and `CSharp.hintsOf`: the namespaces and hints, by the levels of a type;
* `CSharpType.Describes`: a type of C# carries these.

## Main results

* `CSharpType.describes_of_base_innermost` and `CSharpType.describes_of_base_container`: one level
  carries what it calls for, and hands on what is inside;
* `CSharpType.describes_ofProperty`: the type of a property carries what its levels call for;
* `CSharp.Renderer.render_usings`: both renderings list the namespaces that the types of the
  properties call for, and that of the attributes if there are any.
-/

namespace SchemaStruct

namespace CSharp

/-- Whether a level is a dictionary or a list that can grow. -/
def IsCollection (choices : TypeChoices) (t : TypeRef) : Prop :=
  t.kind = .map ∨ t.kind = .array ∧ choices.arrayStyle = .list

instance (choices : TypeChoices) (t : TypeRef) : Decidable (IsCollection choices t) :=
  inferInstanceAs (Decidable (t.kind = .map ∨ t.kind = .array ∧ choices.arrayStyle = .list))

/-- The namespaces that a type calls for. -/
def TypeNeeds (choices : TypeChoices) (t : TypeRef) : Using → Prop
  | .system => t.innermost.kind = .timestamp ∧ choices.timeType ≠ .string
  | .collections => ∃ level ∈ t.levels, IsCollection choices level
  | .serialization => False

/-- The hints that a type calls for. -/
def hintsOf (choices : TypeChoices) (t : TypeRef) : List String :=
  if t.innermost.kind = .any then ["Untyped value mapped to " ++ choices.anyType.name] else []

section

variable {choices : TypeChoices} {t : TypeRef}

/-- A list or a map needs what its items need, and the collections if it is one of these. -/
theorem typeNeeds_iff_of_isContainer (h : t.kind.isContainer = true) (u : Using) :
    TypeNeeds choices t u ↔
      u = .collections ∧ IsCollection choices t ∨ TypeNeeds choices (t.items.getD .any) u := by
  cases u <;>
    simp [TypeNeeds, TypeRef.levels_of_isContainer h, TypeRef.innermost_of_isContainer h]

/-- Other types need the basic types only, and only if they are points in time. -/
theorem typeNeeds_iff_of_not_isContainer (h : t.kind.isContainer = false) (u : Using) :
    TypeNeeds choices t u ↔
      u = .system ∧ t.kind = .timestamp ∧ choices.timeType ≠ .string := by
  have hcollection : ¬ IsCollection choices t := by
    rintro (hkind | ⟨hkind, -⟩) <;> rw [hkind] at h <;> cases h
  cases u <;> simp [TypeNeeds, TypeRef.levels_of_not_isContainer h,
    TypeRef.innermost_of_not_isContainer h, hcollection]

end

end CSharp

namespace CSharpType

open CSharp

variable {choices : TypeChoices} {recordName : Option String → Except Fault Fragment}
  {inside : Except Fault CSharpType} {t : TypeRef} {c : CSharpType}

/-- A type of C# carries the namespaces and hints that a type calls for. -/
structure Describes (choices : TypeChoices) (t : TypeRef) (c : CSharpType) : Prop where
  /-- The namespaces. -/
  mem_usings : ∀ u, u ∈ c.usings ↔ TypeNeeds choices t u
  /-- The hints. -/
  hints : c.hints = hintsOf choices t

/-- A mark changes neither namespaces nor hints. -/
theorem Describes.asNullableIf (h : Describes choices t c) (b : Bool) :
    Describes choices t (c.asNullableIf b) := by
  have hmark : Describes choices t c.asNullable := by
    unfold asNullable
    split
    · exact h
    · exact ⟨h.mem_usings, h.hints⟩
  cases b with
  | false => exact h
  | true => exact hmark

/-- A level with nothing inside carries what it calls for. -/
theorem describes_of_base_innermost (hkind : t.kind.isContainer = false)
    (h : base choices recordName t.kind t.record inside = .ok c) : Describes choices t c := by
  -- only points in time and unknown values carry anything
  have hdescribes : (∀ u, u ∈ c.usings ↔
      u = .system ∧ t.kind = .timestamp ∧ choices.timeType ≠ .string) ∧
      c.hints = if t.kind = .any then ["Untyped value mapped to " ++ choices.anyType.name]
        else [] := by
    cases hk : t.kind <;> rw [hk] at h hkind
    case string | integer | float | boolean =>
      obtain rfl := Except.ok.inj h
      simp [named]
    case any =>
      obtain rfl := Except.ok.inj h
      simp [ofAny, named, withHint]
    case timestamp =>
      obtain rfl := Except.ok.inj h
      cases htime : choices.timeType <;> simp [ofTime, named, TimeType.isSystem]
    case object =>
      obtain ⟨f, -, h⟩ := ok_of_bind h
      obtain rfl := Except.ok.inj h
      simp
    case array | map => cases hkind
  refine ⟨fun u => ?_, ?_⟩
  · rw [hdescribes.1, typeNeeds_iff_of_not_isContainer hkind]
  · rw [hdescribes.2, hintsOf, TypeRef.innermost_of_not_isContainer hkind]

/-- A list or a map hands on what its items carry. -/
theorem describes_of_base_container (hkind : t.kind.isContainer = true)
    (hinside : ∀ c, inside = .ok c → Describes choices (t.items.getD .any) c)
    (h : base choices recordName t.kind t.record inside = .ok c) : Describes choices t c := by
  have hdescribes : ∃ item, inside = .ok item ∧
      (∀ u, u ∈ c.usings ↔ u = .collections ∧ IsCollection choices t ∨ u ∈ item.usings) ∧
      c.hints = item.hints := by
    unfold IsCollection
    cases hk : t.kind <;> rw [hk] at h hkind
    case array =>
      obtain ⟨item, hitem, h⟩ := ok_of_bind h
      obtain rfl := Except.ok.inj h
      cases harray : choices.arrayStyle <;> exact ⟨item, hitem, by simp [listOf], rfl⟩
    case map =>
      obtain ⟨item, hitem, h⟩ := ok_of_bind h
      obtain rfl := Except.ok.inj h
      exact ⟨item, hitem, by simp [mapOf], rfl⟩
    all_goals cases hkind
  obtain ⟨item, hitem, husings, hhints⟩ := hdescribes
  have hitem := hinside item hitem
  refine ⟨fun u => ?_, ?_⟩
  · rw [husings, hitem.mem_usings, typeNeeds_iff_of_isContainer hkind]
  · rw [hhints, hitem.hints, hintsOf, hintsOf, TypeRef.innermost_of_isContainer hkind]

/-- The mapping gives types that carry what their levels call for. -/
theorem describes_ofRef (h : ofRef choices recordName t = .ok c) : Describes choices t c := by
  induction t using TypeRef.induction_levels generalizing c with
  | innermost t hkind =>
    rw [ofRef_eq] at h
    obtain ⟨bare, hbare, h⟩ := ok_of_bind h
    obtain rfl := Except.ok.inj h
    exact (describes_of_base_innermost hkind hbare).asNullableIf t.nullable
  | container t hkind ih =>
    rw [ofRef_eq] at h
    obtain ⟨bare, hbare, h⟩ := ok_of_bind h
    obtain rfl := Except.ok.inj h
    exact (describes_of_base_container hkind (fun _ => ih) hbare).asNullableIf t.nullable

/-- The type of a property carries what its levels call for. -/
theorem describes_ofProperty {p : Property} (h : ofProperty choices recordName p = .ok c) :
    Describes choices p.type c := by
  obtain ⟨bare, hbare, h⟩ := ok_of_bind h
  obtain rfl := Except.ok.inj h
  exact (describes_ofRef hbare).asNullableIf _

end CSharpType

namespace CSharp.Renderer

open NameTable

variable {r : Renderer}

/-- Some property of a record of the graph is like that. -/
def HasProperty (r : Renderer) (P : Property → Prop) : Prop :=
  ∃ record ∈ r.names.graph.records, ∃ p ∈ record.properties, P p

instance (r : Renderer) (P : Property → Prop) [DecidablePred P] : Decidable (r.HasProperty P) :=
  inferInstanceAs (Decidable (∃ record ∈ r.names.graph.records, ∃ p ∈ record.properties, P p))

/-- The namespaces of all records, by their properties. -/
theorem mem_usings {u : Using} :
    u ∈ r.usings ↔ r.HasProperty fun p => u ∈ r.attributeUsings ∨ u ∈ r.typeUsings p := by
  simp only [usings, recordUsings, HasProperty, List.mem_flatMap, List.mem_append]

/-- Only attributes need their namespace. -/
theorem mem_attributeUsings {u : Using} :
    u ∈ r.attributeUsings ↔ u = .serialization ∧ r.options.jsonAttributes = true := by
  unfold attributeUsings
  cases r.options.jsonAttributes <;> simp

section

variable (hassigned : r.names.Assigned) (hgraph : r.names.graph.Resolved)

include hassigned hgraph

/-- The types of the properties carry what their levels call for. -/
theorem exists_describes {record : Record} (hrecord : record ∈ r.names.graph.records) {p : Property}
    (hp : p ∈ record.properties) :
    ∃ t, CSharpType.ofProperty r.options.choices r.recordType p = .ok t ∧
      t.Describes r.options.choices p.type := by
  obtain ⟨t, ht, -⟩ := exists_typeOf hassigned (hgraph record hrecord p hp)
  exact ⟨t, ht, CSharpType.describes_ofProperty ht⟩

/-- The namespaces of all records are those of the attributes and those that the types of the
properties call for. -/
theorem mem_usings_iff {u : Using} :
    u ∈ r.usings ↔ r.HasProperty fun p =>
      u = .serialization ∧ r.options.jsonAttributes = true ∨
        TypeNeeds r.options.choices p.type u := by
  rw [mem_usings]
  refine exists_congr fun record => and_congr_right fun hrecord => exists_congr fun p =>
    and_congr_right fun hp => or_congr mem_attributeUsings ?_
  obtain ⟨t, ht, hdescribes⟩ := exists_describes hassigned hgraph hrecord hp
  rw [typeUsings, ht]
  exact hdescribes.mem_usings u

/-- The names of the namespaces that are listed. -/
theorem mem_names_iff (s : String) :
    s ∈ (Using.sorted r.usings).map Using.name ↔
      s = "System" ∧ r.HasProperty (fun p =>
        p.type.innermost.kind = .timestamp ∧ r.options.choices.timeType ≠ .string) ∨
      s = "System.Collections.Generic" ∧ r.HasProperty (fun p =>
        ∃ level ∈ p.type.levels, IsCollection r.options.choices level) ∨
      s = "System.Text.Json.Serialization" ∧ r.HasProperty fun _ =>
        r.options.jsonAttributes = true := by
  have hname (u : Using) : u ∈ Using.sorted r.usings ↔ r.HasProperty fun p =>
      u = .serialization ∧ r.options.jsonAttributes = true ∨
        TypeNeeds r.options.choices p.type u :=
    Using.mem_sorted.trans (mem_usings_iff hassigned hgraph)
  -- there are three namespaces, with three names
  have hnames : s ∈ (Using.sorted r.usings).map Using.name ↔
      (s = "System" ∧ Using.system ∈ Using.sorted r.usings) ∨
      (s = "System.Collections.Generic" ∧ Using.collections ∈ Using.sorted r.usings) ∨
      (s = "System.Text.Json.Serialization" ∧ Using.serialization ∈ Using.sorted r.usings) := by
    rw [List.mem_map]
    constructor
    · rintro ⟨u, hu, rfl⟩
      cases u with
      | system => exact .inl ⟨rfl, hu⟩
      | collections => exact .inr (.inl ⟨rfl, hu⟩)
      | serialization => exact .inr (.inr ⟨rfl, hu⟩)
    · rintro (⟨rfl, hu⟩ | ⟨rfl, hu⟩ | ⟨rfl, hu⟩)
      · exact ⟨_, hu, rfl⟩
      · exact ⟨_, hu, rfl⟩
      · exact ⟨_, hu, rfl⟩
  -- no type needs the namespace of the attributes, and attributes need no other one
  rw [hnames, hname, hname, hname]
  simp [TypeNeeds]

/-- The type of a property has one hint if its innermost type is that of unknown values, and none
otherwise, whatever records are called; and every property of a graph that resolves its references
has a type. Structs and classes are both written and list the same namespaces, unless both fail on a
text that is none: the basic types if there are points in time that are no texts, the collections if
some type is at any depth a map, or a list if lists are to grow, and the attributes if they are
wanted and there is a property to have one. Whatever was on the pages before does not matter. -/
theorem render_usings (old old' : Page) :
    (∀ recordName p t, CSharpType.ofProperty r.options.choices recordName p = .ok t →
      t.hints = if p.type.innermost.kind = .any then
        ["Untyped value mapped to " ++ r.options.choices.anyType.name] else []) ∧
    (∀ record ∈ r.names.graph.records, ∀ p ∈ record.properties, ∃ t,
      CSharpType.ofProperty r.options.choices r.recordType p = .ok t) ∧
    ((∃ f, r.names.graph.records.forM r.check = .error f ∧
        (Printer.render (r.structs writableProperty) old).1 = .error f ∧
        (Printer.render r.classes old').1 = .error f) ∨
      ∃ lines lines' usings,
        (Printer.render (r.structs writableProperty) old).1 = .ok (lines, usings) ∧
        (Printer.render r.classes old').1 = .ok (lines', usings) ∧
        ∀ s, s ∈ usings.map Using.name ↔
          s = "System" ∧ r.HasProperty (fun p =>
            p.type.innermost.kind = .timestamp ∧ r.options.choices.timeType ≠ .string) ∨
          s = "System.Collections.Generic" ∧ r.HasProperty (fun p =>
            ∃ level ∈ p.type.levels, IsCollection r.options.choices level) ∨
          s = "System.Text.Json.Serialization" ∧ r.HasProperty fun _ =>
            r.options.jsonAttributes = true) := by
  refine ⟨fun _ _ _ ht => (CSharpType.describes_ofProperty ht).hints,
    fun record hrecord p hp => ?types, ?usings⟩
  case types =>
    obtain ⟨t, ht, -⟩ := exists_describes hassigned hgraph hrecord hp
    exact ⟨t, ht⟩
  case usings =>
    cases hcheck : r.names.graph.records.forM r.check with
    | error f =>
      obtain ⟨hstructs, hclasses⟩ := render_of_check hassigned hgraph hcheck old old'
      exact .inl ⟨f, rfl, hstructs, hclasses⟩
    | ok _ =>
      obtain ⟨_, -, hstructs, hclasses⟩ := exists_sections hassigned hgraph hcheck old old'
      exact .inr ⟨_, _, _, hstructs, hclasses, mem_names_iff hassigned hgraph⟩

end

/-- The harbour with points in time that are texts, and without attributes. -/
def plainHarbour : Renderer where
  names := assignNames harbour .pascal .pascal
  options := { choices := { timeType := .string }, jsonAttributes := false }

/-- The theorem at that renderer: of the namespaces only that of the map is used, though there are
points in time, and the lists with nothing said about their items have the one hint. -/
theorem render_usings_plainHarbour :
    plainHarbour.names.Assigned ∧ plainHarbour.names.graph.Resolved ∧
      (∃ record ∈ plainHarbour.names.graph.records, ∃ p ∈ record.properties, p.name = "notes" ∧
        ∃ t, CSharpType.ofProperty plainHarbour.options.choices plainHarbour.recordType p = .ok t ∧
          t.hints = ["Untyped value mapped to object"]) ∧
      ∃ lines lines' usings,
        (Printer.render (plainHarbour.structs writableProperty) {}).1 = .ok (lines, usings) ∧
        (Printer.render plainHarbour.classes {}).1 = .ok (lines', usings) ∧
        ∀ s, s ∈ usings.map Using.name ↔ s = "System.Collections.Generic" := by
  have hassigned : plainHarbour.names.Assigned := assigned_assignNames harbour .pascal .pascal
  have hgraph : plainHarbour.names.graph = harbour := graph_assignNames harbour .pascal .pascal
  have hresolved : plainHarbour.names.graph.Resolved := by
    rw [hgraph]
    decide
  obtain ⟨hhints, htypes, husings⟩ := render_usings hassigned hresolved {} {}
  refine ⟨hassigned, hresolved, ?hint, ?names⟩
  case hint =>
    have hrecord : harbour.records.head (by decide) ∈ plainHarbour.names.graph.records := by
      rw [hgraph]
      exact List.head_mem _
    have hnotes : ⟨"notes", { kind := .array }, false, .null⟩ ∈
        (harbour.records.head (by decide)).properties := by simp [harbour]
    obtain ⟨t, ht⟩ := htypes _ hrecord _ hnotes
    exact ⟨_, hrecord, _, hnotes, rfl, t, ht, hhints _ _ t ht⟩
  case names =>
    have hcheck : (plainHarbour.names.graph.records.forM plainHarbour.check).toOption.isSome := by
      decide
    rcases husings with ⟨f, hf, -⟩ | ⟨lines, lines', usings, hstructs, hclasses, hnames⟩
    · rw [hf] at hcheck
      cases hcheck
    · refine ⟨lines, lines', usings, hstructs, hclasses, fun s => (hnames s).trans ?_⟩
      have hsystem : ¬ plainHarbour.HasProperty fun p => p.type.innermost.kind = .timestamp ∧
          plainHarbour.options.choices.timeType ≠ .string := by decide
      have hcollections : plainHarbour.HasProperty fun p =>
          ∃ level ∈ p.type.levels, IsCollection plainHarbour.options.choices level := by decide
      have hserialization : ¬ plainHarbour.HasProperty fun _ =>
          plainHarbour.options.jsonAttributes = true := by decide
      simp only [hsystem, hcollections, hserialization, and_false, and_true, false_or, or_false]

end CSharp.Renderer

end SchemaStruct
