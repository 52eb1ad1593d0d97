import SchemaStruct.Proofs.CSharp.Constructors

/-!
# Names in Growing Graphs

Names are handed out one after the other, and what is handed out depends on the names in front of it
alone. So nothing that comes later reaches back: a graph that grows at its end, or in which records
grow at their ends, keeps all names that it had. The same holds of the parameters of a constructor.

The records go through one sanitizer, and each record has a sanitizer for its properties that begins
with the record's own name. For the properties of a record to keep their names, that name has to be
the same as before; the first pass has seen to it when the second one begins.

## Main definitions

* `Record.GrowsTo` and `TypeGraph.GrowsTo`: growth at the end of records and of the graph;
* `CSharp.parameterNames`: the parameters of the constructor of a record.

## Main results

* `handOut_append`: names for a longer list begin with those for the list in front;
* `CSharp.text?_recordName_of_growsTo` and `CSharp.text?_propertyName_of_growsTo`: the names that a
  graph keeps;
* `CSharp.assignNames_stable`: records, properties and parameters together.
-/

namespace SchemaStruct

/-! ### Names that are handed out -/

section

variable {pick : List String → String → String} {used names longer : List String}

/-- Names that are handed out behind others are handed out as if these had been in use before. -/
theorem handOut_append (pick : List String → String → String) (used names more : List String) :
    handOut pick used (names ++ more) =
      handOut pick used names ++ handOut pick ((handOut pick used names).reverse ++ used) more := by
  induction names generalizing used with
  | nil => rfl
  | cons name names ih =>
    -- the first name is in use for all others, as the last one that the reversed list puts in use
    rw [List.cons_append, handOut, ih, handOut, List.reverse_cons, List.append_assoc]
    rfl

/-- What is handed out for some names does not depend on the names behind them. -/
theorem handOut_isPrefix (h : names <+: longer) :
    handOut pick used names <+: handOut pick used longer := by
  obtain ⟨more, rfl⟩ := h
  exact ⟨_, (handOut_append pick used names more).symm⟩

/-- What is handed out for the first names of a list comes first. -/
theorem take_handOut (pick : List String → String → String) (used names : List String) (n : Nat) :
    (handOut pick used names).take n = handOut pick used (names.take n) := by
  have hprefix : handOut pick used (names.take n) <+: handOut pick used names :=
    handOut_isPrefix (List.take_prefix n names)
  -- a name is handed out for each name, so the length tells how far the prefix goes
  rw [List.prefix_iff_eq_take.mp hprefix, length_handOut, List.length_take, List.take_eq_take_iff,
    length_handOut]
  omega

end

/-! ### Growth -/

/-- A record grows by properties at its end. -/
def Record.GrowsTo (r s : Record) : Prop :=
  ∃ more, s = { r with properties := r.properties ++ more }

/-- A graph grows by records at its end, and by properties at the ends of its records. -/
def TypeGraph.GrowsTo (g h : TypeGraph) : Prop :=
  ∃ front more, h.records = front ++ more ∧ List.Forall₂ Record.GrowsTo g.records front

namespace Record.GrowsTo

open NameTable

variable {r s : Record}

/-- A record keeps its handle. -/
theorem recordName_eq (h : r.GrowsTo s) : recordName s = recordName r := by
  obtain ⟨more, rfl⟩ := h
  rfl

/-- The properties that were there keep their handles. -/
theorem propertyNames_isPrefix (h : r.GrowsTo s) : propertyNames r <+: propertyNames s := by
  obtain ⟨more, rfl⟩ := h
  simp only [propertyNames, List.zipIdx_append, List.map_append]
  exact List.prefix_append _ _

/-- The properties that were there keep their names in the document. -/
theorem names_isPrefix (h : r.GrowsTo s) :
    r.properties.map Property.name <+: s.properties.map Property.name := by
  obtain ⟨more, rfl⟩ := h
  rw [List.map_append]
  exact List.prefix_append _ _

end Record.GrowsTo

/-- An item of a list is related to an item of every related list. -/
theorem exists_mem_of_forall₂ {α β : Type} {R : α → β → Prop} {xs : List α} {ys : List β}
    (h : List.Forall₂ R xs ys) : ∀ x ∈ xs, ∃ y ∈ ys, R x y := by
  induction h with
  | nil => simp
  | @cons x y xs ys hxy _ ih =>
    intro z hz
    rcases List.mem_cons.mp hz with rfl | hz
    · exact ⟨y, List.mem_cons_self, hxy⟩
    · obtain ⟨w, hw, hzw⟩ := ih z hz
      exact ⟨w, List.mem_cons_of_mem y hw, hzw⟩

namespace TypeGraph.GrowsTo

open NameTable

variable {g h : TypeGraph}

/-- The handles of the records of a graph that grows stay where they are. -/
theorem recordNames_isPrefix (hgrows : g.GrowsTo h) :
    g.records.map recordName <+: h.records.map recordName := by
  obtain ⟨front, more, hrecords, hfront⟩ := hgrows
  have hhandles : g.records.map recordName = front.map recordName := by
    rw [← List.forall₂_eq_eq_eq, List.forall₂_map_left_iff, List.forall₂_map_right_iff]
    exact hfront.imp fun _ _ hgrows => hgrows.recordName_eq.symm
  rw [hrecords, List.map_append, hhandles]
  exact List.prefix_append _ _

/-- So do the keys. -/
theorem keys_isPrefix (hgrows : g.GrowsTo h) : g.keys <+: h.keys := by
  have hproposed := hgrows.recordNames_isPrefix.map Name.proposed
  rwa [List.map_map, List.map_map] at hproposed

/-- Every record is still there, perhaps with more properties. -/
theorem exists_of_mem (hgrows : g.GrowsTo h) {r : Record} (hr : r ∈ g.records) :
    ∃ s ∈ h.records, r.GrowsTo s := by
  obtain ⟨front, more, hrecords, hfront⟩ := hgrows
  obtain ⟨s, hs, hrs⟩ := exists_mem_of_forall₂ hfront r hr
  exact ⟨s, hrecords ▸ List.mem_append_left more hs, hrs⟩

end TypeGraph.GrowsTo

namespace CSharp

open NameTable

/-! ### Names of records and properties -/

/-- Two functions that take the same items to beginnings of one list agree at all of them. -/
theorem eq_of_isPrefix_map_some {α : Type} {xs : List α} {k l : α → Option String}
    {all : List (Option String)} (hk : xs.map k <+: all) (hl : xs.map l <+: all) :
    ∀ x ∈ xs, k x = l x := by
  have hequal : xs.map k = xs.map l := by
    refine (List.prefix_of_prefix_length_le hk hl ?_).eq_of_length ?_ <;> simp
  exact List.map_inj_left.mp hequal

section

variable {g h : TypeGraph} {r : Record} (hgrows : g.GrowsTo h) (typeStyle fieldStyle : NamingStyle)

include hgrows

/-- A record of a graph that grows keeps its name. -/
theorem text?_recordName_of_growsTo (hr : r ∈ g.records) :
    (assignNames h typeStyle fieldStyle).text? (recordName r) =
      (assignNames g typeStyle fieldStyle).text? (recordName r) := by
  let ids := (sanitizer.identifiers typeStyle h.keys).map some
  have hsmall : (g.records.map fun r =>
      (assignNames g typeStyle fieldStyle).text? (recordName r)) <+: ids := by
    rw [map_text?_records]
    exact (handOut_isPrefix hgrows.keys_isPrefix).map some
  have hlarge : (g.records.map fun r =>
      (assignNames h typeStyle fieldStyle).text? (recordName r)) <+: ids := by
    have hall := map_text?_records h typeStyle fieldStyle
    -- the records that were there are asked for by the handles that they have kept
    have hkept := hgrows.recordNames_isPrefix.map (assignNames h typeStyle fieldStyle).text?
    rw [List.map_map, List.map_map] at hkept
    exact hkept.trans (hall ▸ List.prefix_rfl)
  exact eq_of_isPrefix_map_some hlarge hsmall r hr

/-- A property of a record of a graph that grows keeps its name. -/
theorem text?_propertyName_of_growsTo (hr : r ∈ g.records) {entry : Name × Property}
    (hentry : entry ∈ propertyNames r) :
    (assignNames h typeStyle fieldStyle).text? entry.1 =
      (assignNames g typeStyle fieldStyle).text? entry.1 := by
  obtain ⟨s, hs, hrs⟩ := hgrows.exists_of_mem hr
  obtain ⟨own, -, hown⟩ := exists_text?_record typeStyle fieldStyle hr
  have howner : (assignNames h typeStyle fieldStyle).text? (recordName s) = some own := by
    rw [hrs.recordName_eq, text?_recordName_of_growsTo hgrows typeStyle fieldStyle hr, hown]
  -- both records have the name `own` in use before any property, so they go the same way
  let ids := ((sanitizer.addUsed own).identifiers fieldStyle (s.properties.map (·.name))).map some
  have hsmall : ((propertyNames r).map fun entry =>
      (assignNames g typeStyle fieldStyle).text? entry.1) <+: ids := by
    rw [map_text?_properties hr hown]
    exact (handOut_isPrefix hrs.names_isPrefix).map some
  have hlarge : ((propertyNames r).map fun entry =>
      (assignNames h typeStyle fieldStyle).text? entry.1) <+: ids := by
    have hall := map_text?_properties hs howner
    exact (hrs.propertyNames_isPrefix.map _).trans (hall ▸ List.prefix_rfl)
  exact eq_of_isPrefix_map_some hlarge hsmall entry hentry

end

/-! ### Names of parameters -/

/-- The names of the parameters of a record's constructor, in order. -/
def parameterNames (record : Record) : List String :=
  parameters [] ((propertyNames record).map (·.2.name))

/-- A record that grows keeps the names of its parameters. -/
theorem parameterNames_isPrefix {r s : Record} (hrs : r.GrowsTo s) :
    parameterNames r <+: parameterNames s := by
  rw [parameterNames, parameterNames, map_name_propertyNames, map_name_propertyNames,
    parameters_eq_handOut, parameters_eq_handOut]
  exact handOut_isPrefix hrs.names_isPrefix

/-- The parameters of the first properties of a record are those of a record that has no others. -/
theorem parameterNames_take (record : Record) (n : Nat) :
    parameterNames { record with properties := record.properties.take n } =
      (parameterNames record).take n := by
  simp only [parameterNames, map_name_propertyNames, parameters_eq_handOut, take_handOut,
    List.map_take]

/-- Whether a part of a constructor declares and assigns the parameter of a name. -/
def IsPartOf (part : Fragment × Fragment) (id : String) : Prop :=
  ∃ type name,
    part = (.group .square [type, .text " ", .text id],
      .group .square [.text "this.", .name name, .text " = ", .text id, .text ";"])

/-- However the properties of a record are declared, the parts of its constructor are about the
parameters that belong to the record. -/
theorem isPartOf_of_returns {r : Renderer} {rule : PropertyRule} {record : Record} {p q : Page}
    {parts : List (Fragment × Fragment)}
    (h : Returns (r.constructorParts rule record) p parts q) :
    List.Forall₂ IsPartOf parts (parameterNames record) := by
  have hlength : (parameterNames record).length = (propertyNames record).length := by
    simp [parameterNames]
  simp only [Renderer.constructorParts] at h
  rw [← parameterNames] at h
  generalize propertyNames record = entries at h hlength
  generalize parameterNames record = ids at h hlength ⊢
  induction entries generalizing ids parts p with
  | nil =>
    obtain rfl := List.length_eq_zero_iff.mp hlength
    obtain ⟨rfl, -⟩ := returns_mapM_nil_iff.mp h
    exact .nil
  | cons entry entries ih =>
    obtain ⟨id, ids, rfl⟩ := List.exists_cons_of_length_eq_add_one hlength
    obtain ⟨part, u, rest, hpart, hrest, rfl⟩ := returns_mapM_cons_iff.mp h
    obtain ⟨declared, v, -, hpart⟩ := returns_bind_iff.mp hpart
    obtain ⟨rfl, -⟩ := returns_pure_iff.mp hpart
    exact .cons ⟨_, _, rfl⟩ (ih ids hrest (by simpa using hlength))

/-- Names are stable: in a graph that has grown, every record and every property that was there has
the name that it had, in every pair of styles, and every parameter of a constructor has its own.
These are the parameters that the parts of the constructor declare and assign, and those of the
first properties of a record do not depend on the properties behind. -/
theorem assignNames_stable {g h : TypeGraph} (hgrows : g.GrowsTo h)
    (typeStyle fieldStyle : NamingStyle) :
    (∀ r ∈ g.records,
      (∃ s ∈ h.records, recordName s = recordName r ∧ propertyNames r <+: propertyNames s ∧
        parameterNames r <+: parameterNames s) ∧
      (∃ own, (assignNames g typeStyle fieldStyle).text? (recordName r) = some own ∧
        (assignNames h typeStyle fieldStyle).text? (recordName r) = some own) ∧
      ∀ entry ∈ propertyNames r, ∃ name,
        (assignNames g typeStyle fieldStyle).text? entry.1 = some name ∧
          (assignNames h typeStyle fieldStyle).text? entry.1 = some name) ∧
    ∀ (record : Record) (n : Nat),
      parameterNames { record with properties := record.properties.take n } =
        (parameterNames record).take n ∧
      ∀ (r : Renderer) rule p parts q, Returns (r.constructorParts rule record) p parts q →
        List.Forall₂ IsPartOf parts (parameterNames record) := by
  refine ⟨fun r hr => ⟨?_, ?_, fun entry hentry => ?_⟩, fun record n =>
    ⟨parameterNames_take record n, fun _ _ _ _ _ h => isPartOf_of_returns h⟩⟩
  · obtain ⟨s, hs, hrs⟩ := hgrows.exists_of_mem hr
    exact ⟨s, hs, hrs.recordName_eq, hrs.propertyNames_isPrefix, parameterNames_isPrefix hrs⟩
  · obtain ⟨own, -, hown⟩ := exists_text?_record typeStyle fieldStyle hr
    exact ⟨own, hown, by rw [text?_recordName_of_growsTo hgrows typeStyle fieldStyle hr, hown]⟩
  · obtain ⟨own, -, hown⟩ := exists_text?_record typeStyle fieldStyle hr
    obtain ⟨name, -, hname⟩ := exists_text?_property hr hown hentry
    refine ⟨name, hname, ?_⟩
    rw [text?_propertyName_of_growsTo hgrows typeStyle fieldStyle hr hentry, hname]

/-- The graph whose names clash, grown at all ends: a property that clashes with others of the first
record, one of the second record, and a record whose key becomes the same keyword. -/
def clashingMore : TypeGraph where
  records :=
    [{ key := "class", suggestedName := .null,
       properties := [⟨"class", .any, false, .null⟩, ⟨"", .any, false, .null⟩,
         ⟨"2nd été", .any, false, .null⟩, ⟨"2nd---t", .any, false, .null⟩,
         ⟨"Class", .any, true, .null⟩] },
      { key := "Class_", suggestedName := .null, properties := [⟨"class", .any, false, .null⟩] },
      { key := "CLASS", suggestedName := .null }]
  keys_nodup := by decide

/-- The theorem at that graph, with the names that its records and the parameters of their
constructors have before and after. -/
theorem assignNames_stable_clashing :
    clashing.GrowsTo clashingMore ∧
      (∀ r ∈ clashing.records, ∃ own,
        (assignNames clashing .snake .camel).text? (recordName r) = some own ∧
          (assignNames clashingMore .snake .camel).text? (recordName r) = some own) ∧
      clashing.records.map (fun r => (assignNames clashing .snake .camel).text? (recordName r)) =
        [some "class_", some "class__1"] ∧
      clashingMore.records.map
          (fun r => (assignNames clashingMore .snake .camel).text? (recordName r)) =
        [some "class_", some "class__1", some "class__2"] ∧
      clashing.records.map parameterNames = [["@class", "field", "_2ndT", "_2ndT2"], []] ∧
      clashingMore.records.map parameterNames =
        [["@class", "field", "_2ndT", "_2ndT2", "Class"], ["@class"], []] := by
  have hgrows : clashing.GrowsTo clashingMore := by
    refine ⟨clashingMore.records.take 2, clashingMore.records.drop 2, rfl, ?_⟩
    exact .cons ⟨[⟨"Class", .any, true, .null⟩], rfl⟩
      (.cons ⟨[⟨"class", .any, false, .null⟩], rfl⟩ .nil)
  obtain ⟨hnames, -⟩ := assignNames_stable hgrows .snake .camel
  exact ⟨hgrows, fun r hr => (hnames r hr).2.1, by decide, by decide, by decide, by decide⟩

end CSharp

end SchemaStruct
