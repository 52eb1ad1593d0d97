import SchemaStruct.Proofs.CSharp.Sections

/-!
# Structs and Classes

A readonly struct refines the class of the same record. What holds for one record holds for all
records of a graph: the sections are written one behind the other, with blank lines between them,
and the first record that cannot be written is the fault of both renderings. The namespaces are
those that the types and attributes of the properties need. A constructor needs none that its
properties do not need, so both renderings have the same.

## Main results

* `Renderer.requires_structOf` and `Renderer.requires_classOf`: the namespaces that a record needs;
* `Renderer.exists_sections` and `Renderer.render_of_check`: the lines of all records, or the fault;
* `Renderer.classes_eq_structs_asClass`: classes are structs without constructors and with other
  words.
-/

namespace SchemaStruct.CSharp

open NameTable

/-- A relation to each item of a list gives a related list. -/
theorem exists_forall₂ {α β : Type} {R : α → β → Prop} {xs : List α}
    (h : ∀ x ∈ xs, ∃ y, R x y) : ∃ ys, List.Forall₂ R xs ys := by
  induction xs with
  | nil => exact ⟨[], .nil⟩
  | cons x xs ih =>
    obtain ⟨hx, hxs⟩ := List.forall_mem_cons.mp h
    obtain ⟨y, hy⟩ := hx
    obtain ⟨ys, hys⟩ := ih hxs
    exact ⟨y :: ys, .cons hy hys⟩

/-- What is made of related items is related to them. -/
theorem forall₂_zipWith {α β γ : Type} {R : α → β → Prop} {S : α → γ → Prop} {g : α → β → γ}
    (hg : ∀ x y, R x y → S x (g x y)) {xs : List α} {ys : List β} (h : List.Forall₂ R xs ys) :
    List.Forall₂ S xs (List.zipWith g xs ys) := by
  induction h with
  | nil => exact .nil
  | cons hxy _ ih => exact .cons (hg _ _ hxy) ih

/-- The lines of several records, with a blank line between neighbours. -/
def sourceLines (sections : List Section) : List String :=
  [""].intercalate (sections.map Section.lines)

namespace Renderer

variable {r : Renderer} {record : Record} {rule : PropertyRule} {f : Fault}

/-- The namespaces that the attribute of a property needs. -/
def attributeUsings (r : Renderer) : List Using :=
  if r.options.jsonAttributes then [.serialization] else []

/-- The namespaces that the type of a property needs. -/
def typeUsings (r : Renderer) (p : Property) : List Using :=
  match CSharpType.ofProperty r.options.choices r.recordType p with
  | .ok t => t.usings
  | .error _ => []

/-- The namespaces that the properties of a record need. -/
def recordUsings (r : Renderer) (record : Record) : List Using :=
  record.properties.flatMap fun p => r.attributeUsings ++ r.typeUsings p

/-- The type of a property needs its namespaces. -/
theorem requires_propertyType (r : Renderer) (p : Property) :
    Requires (r.propertyType p) (r.typeUsings p) := by
  have hneed : Requires (r.propertyType p) ([] ++ r.typeUsings p) := by
    refine (Requires.ofExcept _).bind fun t _ _ ht => ?_
    obtain ⟨ht, -⟩ := returns_emit_iff.mp ht
    have husings : r.typeUsings p = t.usings := by rw [typeUsings, ht]
    rw [husings]
    exact (Requires.need t.usings).bind_nil fun _ => .pure _
  exact hneed

/-- A rule needs what the types of properties need. -/
def Needs (r : Renderer) (rule : PropertyRule) : Prop :=
  ∀ record p name, Requires (rule r p name record) (r.typeUsings p)

/-- The properties of classes need the namespaces of their types. -/
theorem needs_writable (r : Renderer) : r.Needs writableProperty := fun _ p _ =>
  (r.requires_propertyType p).bind_nil fun _ => .pure _

/-- So do the properties of structs. -/
theorem needs_readOnly (r : Renderer) : r.Needs readOnlyRule := by
  intro record p name
  refine (r.needs_writable record p name).bind_nil fun declared => ?_
  dsimp only
  split
  · split
    · exact .throw _
    · exact .pure _
  · exact .throw _

/-- A description needs nothing. -/
theorem requires_description (r : Renderer) (lines : List String) :
    Requires (r.description lines) [] := by
  unfold description
  split
  · exact .pure _
  · exact Printer.requires_comment _ _ _ _

/-- Above a property only the attribute needs something. -/
theorem requires_above (r : Renderer) (isFirst : Bool) (p : Property) :
    Requires (r.above isFirst p) r.attributeUsings := by
  have hgap : Requires (r.gap isFirst) [] := by
    unfold gap
    split
    · exact Printer.requires_line _
    · exact .pure ()
  have hattribute : Requires (r.attributeOf p) r.attributeUsings := by
    unfold attributeOf attributeUsings
    split
    · exact (Requires.need _).bind_nil fun _ => Printer.requires_line _
    · exact .pure ()
  exact hgap.bind fun _ _ _ _ => (Requires.ofExcept _).bind fun lines _ _ _ =>
    (r.requires_description lines).bind fun _ _ _ _ => hattribute

/-- The properties of a record need the same by any rule that needs what their types need. -/
theorem requires_properties (hrule : r.Needs rule) (record : Record) :
    Requires (r.properties rule record) (r.recordUsings record) := by
  have hproperty : ∀ x ∈ (propertyNames record).zipIdx,
      Requires (r.property rule record (x.2 == 0) x.1)
        (r.attributeUsings ++ r.typeUsings x.1.2) := by
    rintro ⟨entry, i⟩ -
    rw [property_eq]
    refine (r.requires_above (i == 0) entry.2).bind fun _ _ _ _ => ?_
    exact (hrule record entry.2 entry.1).bind_nil fun _ => Printer.requires_line _
  refine (Requires.forM _ hproperty).congr fun u => ?_
  rw [recordUsings, ← map_snd_propertyNames, List.flatMap_map,
    ← List.zipIdx_map_fst 0 (propertyNames record), List.flatMap_map, List.zipIdx_map_fst]

/-- The constructor of a record needs nothing that its properties do not need. -/
theorem exists_requires_constructor (hrecord : record ∈ r.names.graph.records) :
    ∃ usings, Requires (r.constructor readOnlyRule (.name (recordName record))) usings ∧
      usings ⊆ r.recordUsings record := by
  let entries := (propertyNames record).zip
    (CSharp.parameters [] ((propertyNames record).map (·.2.name)))
  refine ⟨entries.flatMap fun x => r.typeUsings x.1.2, ?_, ?_⟩
  · have hparts : Requires (r.constructorParts readOnlyRule record)
        (entries.flatMap fun x => r.typeUsings x.1.2) := by
      refine Requires.mapM entries fun x _ => ?_
      exact (r.needs_readOnly record x.1.2 x.1.1).bind_nil fun _ => .pure _
    refine (Requires.ofExcept _).bind fun found _ _ hfound => ?_
    -- the record that is looked up is the record itself
    obtain ⟨hfound, -⟩ := returns_emit_iff.mp hfound
    rw [RecordIndex.lookup_ofGraph hrecord] at hfound
    obtain rfl := Except.ok.inj hfound
    refine hparts.bind_nil fun parts => ?_
    have hblock : Requires (parts.forM fun part => r.printer.line [part.2]) [] :=
      (Requires.forM parts fun part _ => Printer.requires_line _).congr (by simp)
    exact (Printer.requires_line _).bind fun _ _ _ _ =>
      (Printer.requires_block hblock).bind fun _ _ _ _ => Printer.requires_line _
  · intro u hu
    obtain ⟨⟨entry, id⟩, hx, hu⟩ := List.mem_flatMap.mp hu
    have hentry := mem_of_mem_propertyNames (List.of_mem_zip hx).1
    exact List.mem_flatMap.mpr ⟨entry.2, hentry, List.mem_append_right _ hu⟩

/-- A record needs what its body needs. -/
theorem requires_recordAs {usings : List Using} {body : Emit Unit} (h : Requires body usings)
    (declaration : Fragment) (record : Record) :
    Requires (r.recordAs declaration body record (recordName record)) usings := by
  unfold recordAs
  simp only [head_eq]
  exact (Requires.ofExcept _).bind fun lines _ _ _ => Requires.bind
    ((r.requires_description lines).bind fun _ _ _ _ => Printer.requires_line _) fun _ _ _ _ =>
      Printer.requires_block h

/-- A class needs what its properties need. -/
theorem requires_classOf (r : Renderer) (record : Record) :
    Requires (r.classOf record (recordName record)) (r.recordUsings record) :=
  requires_recordAs (requires_properties r.needs_writable record) _ record

/-- A struct needs the same. -/
theorem requires_structOf (hrecord : record ∈ r.names.graph.records) :
    Requires (structOf writableProperty r record (recordName record)) (r.recordUsings record) := by
  obtain ⟨usings, hconstructor, hsubset⟩ := exists_requires_constructor hrecord
  refine requires_recordAs ((hconstructor.bind fun _ _ _ _ =>
    requires_properties r.needs_readOnly record).congr fun u => ?_) _ record
  rw [List.mem_append]
  exact ⟨fun h => h.elim (@hsubset u) id, .inr⟩

/-- The namespaces that all records need. -/
def usings (r : Renderer) : List Using := r.names.graph.records.flatMap r.recordUsings

section

variable (hassigned : r.names.Assigned) (hgraph : r.names.graph.Resolved)

include hassigned hgraph

/-- If all texts are there, then all records are written as structs, in parts, and as the classes
that are read off them. -/
theorem exists_sections (hcheck : r.names.graph.records.forM r.check = .ok ()) (old old' : Page) :
    ∃ sections, List.Forall₂ r.IsSection r.names.graph.records sections ∧
      (Printer.render (r.structs writableProperty) old).1 =
        .ok (sourceLines sections, Using.sorted r.usings) ∧
      (Printer.render r.classes old').1 =
        .ok (sourceLines (List.zipWith (fun record s => s.asClass record.visibility)
          r.names.graph.records sections), Using.sorted r.usings) := by
  obtain ⟨sections, hsections⟩ := exists_forall₂ fun record hrecord =>
    exists_section hassigned hgraph hrecord (forM_eq_ok_iff.mp hcheck record hrecord)
  have hends (sections : List Section) :
      ∀ lines ∈ sections.map Section.lines, EndsInText lines := by
    intro lines hlines
    obtain ⟨s, -, rfl⟩ := List.mem_map.mp hlines
    exact s.endsInText_lines
  refine ⟨sections, hsections.imp fun _ _ h => h.1, ?_, ?_⟩
  · refine Printer.render_eachRecord old ?_ (hends sections)
      (Printer.requires_eachRecord true fun record hrecord => requires_structOf hrecord)
    rw [List.forall₂_map_right_iff]
    exact hsections.imp fun _ _ h => h.1.lines
  · refine Printer.render_eachRecord old' ?_ (hends _)
      (Printer.requires_eachRecord true fun record _ => r.requires_classOf record)
    rw [List.forall₂_map_right_iff]
    exact forall₂_zipWith (fun _ _ h => h.2) hsections

/-- If one of the texts is not there, then both renderings fail alike. -/
theorem render_of_check (hcheck : r.names.graph.records.forM r.check = .error f)
    (old old' : Page) :
    (Printer.render (r.structs writableProperty) old).1 = .error f ∧
      (Printer.render r.classes old').1 = .error f := by
  have hok : ∀ record ∈ r.names.graph.records, r.check record = .ok () →
      Passes (structOf writableProperty r record (recordName record)) 0 ∧
        Passes (r.classOf record (recordName record)) 0 := by
    intro record hrecord hcheck
    obtain ⟨s, hstruct, hclass⟩ := exists_section hassigned hgraph hrecord hcheck
    exact ⟨hstruct.lines.passes, hclass.passes⟩
  have herror : ∀ record ∈ r.names.graph.records, ∀ f, r.check record = .error f →
      Fails (structOf writableProperty r record (recordName record)) 0 f ∧
        Fails (r.classOf record (recordName record)) 0 f :=
    fun record hrecord f h => fails_of_check hassigned hgraph hrecord h
  constructor
  · exact Printer.render_of_fails (Printer.fails_eachRecord true
      (fun record hrecord h => (hok record hrecord h).1)
      (fun record hrecord f h => (herror record hrecord f h).1) hcheck) old
  · exact Printer.render_of_fails (Printer.fails_eachRecord true
      (fun record hrecord h => (hok record hrecord h).2)
      (fun record hrecord f h => (herror record hrecord f h).2) hcheck) old'

end

/-- Classes are structs without constructors and with other words: deleting the constructor of
each record, putting a setter into each property and declaring visible types as classes makes the
lines of the one rendering those of the other, with the same namespaces, unless both fail alike on
a text that is none. -/
theorem classes_eq_structs_asClass (r : Renderer) (hassigned : r.names.Assigned)
    (hgraph : r.names.graph.Resolved) (old old' : Page) :
    (∃ f, r.names.graph.records.forM r.check = .error f ∧
      (Printer.render (r.structs writableProperty) old).1 = .error f ∧
      (Printer.render r.classes old').1 = .error f) ∨
    ∃ sections usings, List.Forall₂ r.IsSection r.names.graph.records sections ∧
      (Printer.render (r.structs writableProperty) old).1 = .ok (sourceLines sections, usings) ∧
      (Printer.render r.classes old').1 =
        .ok (sourceLines (List.zipWith (fun record s => s.asClass record.visibility)
          r.names.graph.records sections), usings) := by
  cases hcheck : r.names.graph.records.forM r.check with
  | error f =>
    obtain ⟨hstructs, hclasses⟩ := render_of_check hassigned hgraph hcheck old old'
    exact .inl ⟨f, rfl, hstructs, hclasses⟩
  | ok _ =>
    obtain ⟨sections, hsections, hstructs, hclasses⟩ :=
      exists_sections hassigned hgraph hcheck old old'
    exact .inr ⟨sections, Using.sorted r.usings, hsections, hstructs, hclasses⟩

end Renderer

/-- Two records, one of them with descriptions, the other one hidden and with a type to extend. -/
def ledger : TypeGraph where
  records :=
    [{ key := "Ledger", suggestedName := .str "Ledger", visibility := .internal,
       description := .str "Debit & credit",
       properties := [⟨"entries", .array (.object "Entry"), false, .null⟩,
         ⟨"closed", { kind := .timestamp }, true, .str "When?"⟩] },
      { key := "Entry", suggestedName := .str "Entry", visibility := .hidden,
        baseType := .str "Row" }]
  keys_nodup := by decide

/-- The renderer of that graph, with names assigned. -/
def ledgerRenderer : Renderer where
  names := assignNames ledger .pascal .pascal
  indentUnit := "  "

/-- The theorem at two records, with the lines of both renderings. -/
theorem classes_eq_structs_asClass_ledger :
    ledgerRenderer.names.Assigned ∧ ledgerRenderer.names.graph.Resolved ∧
      (∃ sections usings,
        List.Forall₂ ledgerRenderer.IsSection ledgerRenderer.names.graph.records sections ∧
        (Printer.render (ledgerRenderer.structs writableProperty) {}).1 =
          .ok (sourceLines sections, usings) ∧
        (Printer.render ledgerRenderer.classes {}).1 =
          .ok (sourceLines (List.zipWith (fun record s => s.asClass record.visibility)
            ledgerRenderer.names.graph.records sections), usings)) ∧
      (Printer.render (ledgerRenderer.structs writableProperty) {}).1.toOption =
        some (["/// <summary>", "/// Debit &amp; credit", "/// </summary>",
          "internal readonly struct Ledger", "\x7b",
          "  public Ledger(Entry[] entries, DateTimeOffset? closed)", "  \x7b",
          "    this.Entries = entries;", "    this.Closed = closed;", "  \x7d", "",
          "  [JsonPropertyName(\"entries\")]", "  public Entry[] Entries \x7b get; \x7d", "",
          "  /// <summary>", "  /// When?", "  /// </summary>",
          "  [JsonPropertyName(\"closed\")]", "  public DateTimeOffset? Closed \x7b get; \x7d",
          "\x7d", "", "private partial class Entry : Row", "\x7b", "  public Entry()", "  \x7b",
          "  \x7d", "", "\x7d"], [.system, .serialization]) ∧
      (Printer.render ledgerRenderer.classes {}).1.toOption =
        some (["/// <summary>", "/// Debit &amp; credit", "/// </summary>",
          "internal partial class Ledger", "\x7b",
          "  [JsonPropertyName(\"entries\")]", "  public Entry[] Entries \x7b get; set; \x7d", "",
          "  /// <summary>", "  /// When?", "  /// </summary>",
          "  [JsonPropertyName(\"closed\")]", "  public DateTimeOffset? Closed \x7b get; set; \x7d",
          "\x7d", "", "private partial class Entry : Row", "\x7b", "\x7d"],
          [.system, .serialization]) := by
  have hassigned : ledgerRenderer.names.Assigned := assigned_assignNames ledger .pascal .pascal
  have hgraph : ledgerRenderer.names.graph = ledger := graph_assignNames ledger .pascal .pascal
  have hresolved : ledgerRenderer.names.graph.Resolved := by
    rw [hgraph]
    decide
  have hcheck : (ledgerRenderer.names.graph.records.forM ledgerRenderer.check).toOption.isSome := by
    decide
  refine ⟨hassigned, hresolved, ?_, by decide +kernel, by decide +kernel⟩
  rcases ledgerRenderer.classes_eq_structs_asClass hassigned hresolved {} {} with
    ⟨f, hf, -⟩ | hsections
  · rw [hf] at hcheck
    cases hcheck
  · exact hsections

end SchemaStruct.CSharp
