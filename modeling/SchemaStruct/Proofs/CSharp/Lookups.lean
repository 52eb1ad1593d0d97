import SchemaStruct.Proofs.CSharp.Substances

/-!
# Lookups of Records

The constructor of a struct is told the name of its record and finds the record by it. What counts
is the handle of the name: texts may be missing or the same for several records, a name that is no
name of a record leads nowhere even if its text is that of a record, and so does what is no name at
all. So the lookup can be left out: in every rendering the constructor between the brackets of a
record is the one of that record.

## Main definitions

* `RecordIndex.IsStranger`: fragments that name no record;
* `RecordIndex.Identifies`: an index finds the records of a graph, and nothing else;
* `Renderer.constructorOf`: the constructor of a record that is known;
* `Renderer.ConstructsOwn`: the constructors of a rendering are those of their records.

## Main results

* `RecordIndex.lookup_eq_ok_iff`: what an index finds;
* `Renderer.structs_eq`: the rendering without lookups;
* `Renderer.identifies_and_constructsOwn`: records are found, and have their own constructors.
-/

namespace SchemaStruct.CSharp

open NameTable

namespace RecordIndex

variable {g : TypeGraph} {t : NameTable} {f : Fragment} {record : Record}

/-- What is no name of a record, whatever texts there are. -/
inductive IsStranger : Fragment → Prop
  /-- Nothing is not a name. -/
  | empty : IsStranger .empty
  /-- A text is not a name, even if it is the text of one. -/
  | text (s : String) : IsStranger (.text s)
  /-- Neither are fragments in a group. -/
  | group (bracket : Bracket) (parts : List Fragment) : IsStranger (.group bracket parts)
  /-- Neither are values without source text. -/
  | value (v : Json) : IsStranger (.value v)
  /-- The name of a property names no record. -/
  | property {record : Record} {entry : Name × Property} (h : entry ∈ propertyNames record) :
    IsStranger (.name entry.1)
  /-- A name from outside of the graph names none, whatever text was proposed for it. -/
  | loose (t : NameTable) (proposed : String) : IsStranger (.name (t.loose proposed).1)

/-- A stranger has the handle of no record. -/
theorem IsStranger.handle_ne (h : IsStranger f) (record : Record) {n : Name} (hname : f = .name n) :
    n.handle ≠ (recordName record).handle := by
  cases h with
  | property h =>
    obtain rfl := Fragment.name.inj hname
    obtain ⟨i, hi⟩ := handle_of_mem_propertyNames h
    rw [hi]
    exact Handle.noConfusion
  | loose t proposed =>
    obtain rfl := Fragment.name.inj hname
    exact Handle.noConfusion
  -- the others are no names at all
  | empty => cases hname
  | text s => cases hname
  | group bracket parts => cases hname
  | value v => cases hname

/-- What is found under a handle is a record of the graph that has it. -/
theorem of_find?_eq_some {h : Handle} (hfind : (ofGraph g).find? h = some record) :
    record ∈ g.records ∧ h = (recordName record).handle := by
  obtain ⟨front, back, hentries, -⟩ := List.lookup_eq_some_iff.mp hfind
  have hmem : (h, record) ∈ (ofGraph g).entries := by
    rw [hentries]
    simp
  obtain ⟨other, hother, heq⟩ := List.mem_map.mp hmem
  obtain ⟨rfl, rfl⟩ := Prod.mk.inj heq
  exact ⟨hother, rfl⟩

/-- An index finds a record of the graph by a name with its handle, and finds nothing else. -/
theorem lookup_eq_ok_iff : (ofGraph g).lookup t f = .ok record ↔
    record ∈ g.records ∧ ∃ n, f = .name n ∧ n.handle = (recordName record).handle := by
  constructor
  · intro h
    cases f with
    | name n =>
      cases hfind : (ofGraph g).find? n.handle with
      | none => simp [lookup, hfind] at h
      | some found =>
        obtain rfl : found = record := by simpa [lookup, hfind] using h
        obtain ⟨hmem, hhandle⟩ := of_find?_eq_some hfind
        exact ⟨hmem, n, rfl, hhandle⟩
    | empty => cases h
    | text s => cases h
    | group bracket parts => cases h
    | value v => cases h
  · rintro ⟨hmem, n, rfl, hhandle⟩
    simp only [lookup, hhandle, find?_ofGraph hmem]

/-- Whatever does not have the handle of a record is refused. -/
theorem lookup_eq_error (h : ∀ record ∈ g.records, ∀ n, f = .name n →
    n.handle ≠ (recordName record).handle) :
    (ofGraph g).lookup t f = .error (.unknownName (f.shown t)) := by
  cases hlookup : (ofGraph g).lookup t f with
  | ok record =>
    obtain ⟨hmem, n, hname, hhandle⟩ := lookup_eq_ok_iff.mp hlookup
    exact absurd hhandle (h record hmem n hname)
  | error fault =>
    -- the only fault of a lookup shows what was looked up
    unfold lookup at hlookup
    dsimp only at hlookup
    split at hlookup
    · cases hlookup
    · exact hlookup.symm

/-- No two records of a graph have the same handle. -/
theorem nodup_handles (g : TypeGraph) : ((ofGraph g).entries.map Prod.fst).Nodup := by
  have hhandles : (ofGraph g).entries.map Prod.fst = (g.records.map Record.key).map .record := by
    simp [ofGraph, recordName, Function.comp_def]
  rw [hhandles]
  exact g.keys_nodup.map fun _ _ => Handle.record.inj

/-- An index finds the records of a graph by their names, whatever texts are assigned to these, and
finds nothing by anything else. -/
structure Identifies (index : RecordIndex) (g : TypeGraph) : Prop where
  /-- The entries are the records, in order. -/
  records : index.entries.map Prod.snd = g.records
  /-- So there is one entry for each record. -/
  size : index.size = g.records.length
  /-- No two of them have the same handle. -/
  handles : (index.entries.map Prod.fst).Nodup
  /-- The name of a record leads to that record. -/
  record : ∀ t, ∀ record ∈ g.records, index.lookup t (.name (recordName record)) = .ok record
  /-- A fragment leads to a record only if it is a name with the handle of that record. -/
  handle : ∀ t f record, index.lookup t f = .ok record →
    record ∈ g.records ∧ ∃ n, f = .name n ∧ n.handle = (recordName record).handle
  /-- Everything else is refused with a fault that shows it. -/
  refuses : ∀ t f, (∀ record ∈ g.records, ∀ n, f = .name n →
    n.handle ≠ (recordName record).handle) → index.lookup t f = .error (.unknownName (f.shown t))
  /-- Strangers are refused. -/
  stranger : ∀ t f, IsStranger f → index.lookup t f = .error (.unknownName (f.shown t))

/-- The index of a graph finds its records. -/
theorem identifies_ofGraph (g : TypeGraph) : (ofGraph g).Identifies g where
  records := by simp [ofGraph, Function.comp_def]
  size := by simp [ofGraph, size]
  handles := nodup_handles g
  record _ record hrecord := lookup_eq_ok_iff.mpr ⟨hrecord, recordName record, rfl, rfl⟩
  handle _ _ _ := lookup_eq_ok_iff.mp
  refuses _ _ := lookup_eq_error
  stranger _ _ hf := lookup_eq_error fun record _ _ => hf.handle_ne record

end RecordIndex

namespace Renderer

variable {r : Renderer} {rule : PropertyRule} {record : Record}

/-- Writes the constructor of a record that is known. -/
def constructorOf (r : Renderer) (rule : PropertyRule) (record : Record) : Emit Unit := do
  let parts ← r.constructorParts rule record
  r.printer.line
    [.text "public ", .name (recordName record), .text "(",
      .group .square (Fragment.intersperse (.text ", ") (parts.map (·.1))), .text ")"]
  r.printer.block (parts.forM fun (_, assignment) => r.printer.line [assignment])
  r.printer.line []

/-- Writes a record as a struct with the constructor of that record between its brackets. -/
def ownStructOf (base : PropertyRule) (r : Renderer) (record : Record) : Emit Unit := do
  let rule := readOnlyProperty base
  let lines ← Emit.ofExcept (r.recordLines record)
  r.head lines (structDeclaration record.visibility) (.name (recordName record)) record.baseType
  r.printer.block do
    r.constructorOf rule record
    r.properties rule record

/-- The lookup for the name of a record gives the constructor of that record. -/
theorem constructor_eq (rule : PropertyRule) (hrecord : record ∈ r.names.graph.records) :
    r.constructor rule (.name (recordName record)) = r.constructorOf rule record := by
  unfold constructor constructorOf
  rw [RecordIndex.lookup_ofGraph hrecord]
  rfl

/-- There is no constructor for a stranger. -/
theorem fails_constructor (rule : PropertyRule) {f : Fragment} (hf : RecordIndex.IsStranger f)
    (d : Nat) : Fails (r.constructor rule f) d (.unknownName (f.shown r.names)) :=
  (Fails.ofExcept (RecordIndex.lookup_eq_error fun record _ _ => hf.handle_ne record) d).bind

/-- Of what is written for each record only what is written for the records of the graph counts. -/
theorem eachRecord_congr {pr : Printer} {blankLines : Bool} {body body' : Record → Name → Emit Unit}
    (h : ∀ record ∈ pr.names.graph.records,
      body record (recordName record) = body' record (recordName record)) :
    pr.eachRecord blankLines body = pr.eachRecord blankLines body' := by
  unfold Printer.eachRecord
  refine forM_congr fun x hx => ?_
  have hbody := h x.1 (List.fst_mem_of_mem_zipIdx hx)
  dsimp only
  rw [hbody]

/-- A rendering does the same without lookups: each record is written with its own constructor. -/
theorem structs_eq (r : Renderer) (base : PropertyRule) :
    r.structs base = r.printer.eachRecord true fun record _ => ownStructOf base r record := by
  refine eachRecord_congr fun record hrecord => ?_
  rw [structOf, ownStructOf, constructor_eq _ hrecord]

/-- Each record has the constructor of its own in every rendering, whatever texts are assigned to
the names and whether they differ or not. -/
structure ConstructsOwn (r : Renderer) : Prop where
  /-- By the name of a record its own constructor is written, whatever rule declares properties. -/
  constructor : ∀ rule, ∀ record ∈ r.names.graph.records,
    r.constructor rule (.name (recordName record)) = r.constructorOf rule record
  /-- By anything else none is. -/
  stranger : ∀ rule f, RecordIndex.IsStranger f →
    ∀ d, Fails (r.constructor rule f) d (.unknownName (f.shown r.names))
  /-- Each record is written with its own constructor between its brackets. -/
  structs : ∀ base, r.structs base =
    r.printer.eachRecord true fun record _ => ownStructOf base r record
  /-- The lines of a rendering that comes to its end are those of the records in order, each with
  the constructor that its name, its own properties and their names in the document make. -/
  lines : ∀ old lines usings,
    (Printer.render (r.structs writableProperty) old).1 = .ok (lines, usings) →
      ∃ ts, List.Forall₂ r.HasSubstance r.names.graph.records ts ∧
        List.Forall₂ r.IsSection r.names.graph.records
          (List.zipWith r.sectionOf r.names.graph.records ts) ∧
        lines = sourceLines (List.zipWith r.sectionOf r.names.graph.records ts)

/-- Records are told apart by the handles of their names and by nothing else: an index finds every
record of a graph by its name, and nothing by anything that is no name of a record, at any time of
the assignment of texts. So every record is written with the constructor for its own properties,
even if several records are displayed alike. -/
theorem identifies_and_constructsOwn (r : Renderer) :
    (RecordIndex.ofGraph r.names.graph).Identifies r.names.graph ∧ r.ConstructsOwn where
  left := RecordIndex.identifies_ofGraph r.names.graph
  right :=
    { constructor := fun rule _ => constructor_eq rule
      stranger := fun rule _ => fails_constructor rule
      structs := r.structs_eq
      lines := fun _ _ _ => exists_substances_of_render }

end Renderer

/-- A graph of two records with a property each. -/
def twins : TypeGraph where
  records :=
    [{ key := "A", suggestedName := .str "A"
       properties := [⟨"x", { kind := .string }, false, .null⟩] },
     { key := "B", suggestedName := .str "B"
       properties := [⟨"y", { kind := .integer }, false, .null⟩] }]
  keys_nodup := by decide

/-- The renderer of that graph, with one text assigned to all of its names. -/
def twinsRenderer : Renderer where
  names :=
    { graph := twins
      texts := [(.record "A", "Same"), (.property "A" 0, "Same"), (.record "B", "Same"),
        (.property "B" 0, "Same")] }

/-- The theorem at two records that nothing but their handles tells apart, with the lines that are
written about them. -/
theorem identifies_and_constructsOwn_twins :
    ((RecordIndex.ofGraph twins).Identifies twins ∧ twinsRenderer.ConstructsOwn) ∧
      (∀ record ∈ twins.records, twinsRenderer.names.text? (recordName record) = some "Same") ∧
      (Printer.render (twinsRenderer.structs writableProperty) {}).1.toOption =
        some (["public readonly struct Same", "\x7b", "    public Same(string x)", "    \x7b",
          "        this.Same = x;", "    \x7d", "", "    [JsonPropertyName(\"x\")]",
          "    public string Same \x7b get; \x7d", "\x7d", "",
          "public readonly struct Same", "\x7b", "    public Same(int y)", "    \x7b",
          "        this.Same = y;", "    \x7d", "", "    [JsonPropertyName(\"y\")]",
          "    public int Same \x7b get; \x7d", "\x7d"], [.serialization]) :=
  ⟨twinsRenderer.identifies_and_constructsOwn, by decide, by decide +kernel⟩

end SchemaStruct.CSharp
