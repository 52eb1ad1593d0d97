import Mathlib
import SchemaStruct.Proofs.Naming.Identifier

/-!
# Assigned Names

After `assignNames` every record and every property of a graph has a text. The texts are those that
the sanitizers hand out: one sanitizer for all records, and for the properties of each record one
that begins with the record's own name in use. Hence the names are legal in C#, the names of records
are pairwise different, and so are those of the properties of a record and the record's own.

## Main definitions

* `CSharp.IsLegalName`: identifiers that are no keywords;
* `NameTable.Legal`: tables whose names can stand in code.

## Main results

* `CSharp.map_text?_records` and `CSharp.map_text?_properties`: the texts that are assigned;
* `CSharp.assignNames_legal`: the table of a graph is legal.
-/

namespace SchemaStruct

namespace NameTable

/-- The table with texts assigned to some names, one after the other. -/
def assignAll (t : NameTable) (pairs : List (Name × String)) : NameTable :=
  pairs.foldl (fun t pair => t.assign pair.1 pair.2) t

/-- Assignments leave the graph alone. -/
@[simp]
theorem graph_assignAll (t : NameTable) (pairs : List (Name × String)) :
    (t.assignAll pairs).graph = t.graph := by
  induction pairs generalizing t with
  | nil => rfl
  | cons pair pairs ih => exact ih (t.assign pair.1 pair.2)

/-- Assignments leave the texts of other names alone. -/
theorem text?_assignAll_of_ne {n : Name} {pairs : List (Name × String)}
    (h : ∀ pair ∈ pairs, n.handle ≠ pair.1.handle) (t : NameTable) :
    (t.assignAll pairs).text? n = t.text? n := by
  induction pairs generalizing t with
  | nil => rfl
  | cons pair pairs ih =>
    rw [assignAll, List.foldl_cons, ← assignAll,
      ih (fun p hp => h p (List.mem_cons_of_mem pair hp)),
      text?_assign_of_ne t pair.2 (h pair List.mem_cons_self)]

/-- Names of different entities get the texts that are assigned to them. -/
theorem map_text?_assignAll {names : List Name} {texts : List String}
    (hlength : names.length = texts.length) (hnodup : (names.map Name.handle).Nodup)
    (t : NameTable) :
    names.map (t.assignAll (names.zip texts)).text? = texts.map some := by
  induction names generalizing texts t with
  | nil =>
    cases texts with
    | nil => rfl
    | cons s texts => simp at hlength
  | cons n names ih =>
    cases texts with
    | nil => simp at hlength
    | cons s texts =>
      rw [List.map_cons, List.nodup_cons] at hnodup
      have hfirst : ((t.assign n s).assignAll (names.zip texts)).text? n = some s := by
        rw [text?_assignAll_of_ne, text?_assign_self]
        -- the first name does not occur again
        intro pair hpair heq
        exact hnodup.1 (heq ▸ List.mem_map_of_mem (List.of_mem_zip hpair).1)
      rw [List.map_cons, List.map_cons, List.zip_cons_cons, assignAll, List.foldl_cons,
        ← assignAll, hfirst, ih (by simpa using hlength) hnodup.2]

/-- The handle of a property of a record says so. -/
theorem handle_of_mem_propertyNames {r : Record} {entry : Name × Property}
    (h : entry ∈ propertyNames r) : ∃ i, entry.1.handle = .property r.key i := by
  obtain ⟨⟨p, i⟩, -, rfl⟩ := List.mem_map.mp h
  exact ⟨i, rfl⟩

/-- The properties of a record are different entities. -/
theorem nodup_handles_propertyNames (r : Record) :
    (((propertyNames r).map Prod.fst).map Name.handle).Nodup := by
  have hindices : (((propertyNames r).map Prod.fst).map Name.handle) =
      (List.range' 0 r.properties.length).map (Handle.property r.key) := by
    rw [propertyNames, List.map_map, List.map_map, ← List.zipIdx_map_snd 0 r.properties,
      List.map_map]
    rfl
  rw [hindices]
  exact List.Nodup.map (fun i j hij => by simpa using hij) List.nodup_range'

/-- There is one name for each property. -/
@[simp]
theorem length_propertyNames (r : Record) : (propertyNames r).length = r.properties.length := by
  simp [propertyNames]

/-- The names in the document of the properties of a record. -/
@[simp]
theorem map_name_propertyNames (r : Record) :
    (propertyNames r).map (·.2.name) = r.properties.map (·.name) := by
  rw [propertyNames, List.map_map]
  conv_rhs => rw [← List.zipIdx_map_fst 0 r.properties, List.map_map]
  rfl

end NameTable

namespace CSharp

open NameTable

/-- Assigning identifiers to records is assigning what the sanitizer hands out for their keys. -/
theorem assignRecords_eq (style : NamingStyle) (rs : List Record) (s : Sanitizer)
    (t : NameTable) :
    assignRecords style rs s t =
      t.assignAll ((rs.map recordName).zip (s.identifiers style (rs.map Record.key))) := by
  induction rs generalizing s t with
  | nil => rfl
  | cons r rs ih =>
    exact ih (s.unique r.key style).2 (t.assign (recordName r) (s.unique r.key style).1)

/-- Assigning identifiers to properties is assigning what the sanitizer hands out for their
names. -/
theorem assignProperties_eq (style : NamingStyle) (ps : List (Name × Property)) (s : Sanitizer)
    (t : NameTable) :
    assignProperties style ps s t =
      t.assignAll ((ps.map Prod.fst).zip (s.identifiers style (ps.map (·.2.name)))) := by
  induction ps generalizing s t with
  | nil => rfl
  | cons entry ps ih =>
    obtain ⟨n, p⟩ := entry
    exact ih (s.unique p.name style).2 (t.assign n (s.unique p.name style).1)

/-- Assigning identifiers to the properties of a record leaves other names alone. -/
theorem text?_assignProperties_of_ne {r : Record} {n : Name}
    (h : ∀ i, n.handle ≠ .property r.key i) (style : NamingStyle) (s : Sanitizer)
    (t : NameTable) :
    (assignProperties style (propertyNames r) s t).text? n = t.text? n := by
  rw [assignProperties_eq]
  refine text?_assignAll_of_ne (fun pair hpair heq => ?_) t
  obtain ⟨entry, hentry, hname⟩ := List.mem_map.mp (List.of_mem_zip hpair).1
  obtain ⟨i, hi⟩ := handle_of_mem_propertyNames hentry
  exact h i (by rw [heq, ← hname, hi])

/-- Assigning identifiers to the properties of some records leaves other names alone. -/
theorem text?_assignMembers_of_ne {rs : List Record} {n : Name}
    (h : ∀ r ∈ rs, ∀ i, n.handle ≠ .property r.key i) (style : NamingStyle) (t : NameTable) :
    (assignMembers style rs t).text? n = t.text? n := by
  induction rs generalizing t with
  | nil => rfl
  | cons r rs ih =>
    rw [assignMembers, ih fun q hq => h q (List.mem_cons_of_mem r hq),
      text?_assignProperties_of_ne (h r List.mem_cons_self)]

/-- The properties of a record get what a sanitizer hands out that has the record's own name in
use. -/
theorem map_text?_assignMembers {rs : List Record} (hkeys : (rs.map Record.key).Nodup)
    {r : Record} (hr : r ∈ rs) (style : NamingStyle) (t : NameTable) :
    (propertyNames r).map (fun entry => (assignMembers style rs t).text? entry.1) =
      ((sanitizer.addUsed ((t.text? (recordName r)).getD "")).identifiers style
        (r.properties.map (·.name))).map some := by
  induction rs generalizing t with
  | nil => simp at hr
  | cons q rs ih =>
    rw [List.map_cons, List.nodup_cons] at hkeys
    rw [assignMembers]
    rcases List.mem_cons.mp hr with rfl | hr
    · -- the properties of the records behind are others
      have hlater : ∀ entry ∈ propertyNames r, ∀ q ∈ rs, ∀ i,
          entry.1.handle ≠ .property q.key i := by
        intro entry hentry q hq i heq
        obtain ⟨j, hj⟩ := handle_of_mem_propertyNames hentry
        have hkey : r.key = q.key := by
          rw [hj] at heq
          exact (Handle.property.inj heq).1
        exact hkeys.1 (hkey ▸ List.mem_map_of_mem hq)
      rw [List.map_congr_left fun entry hentry =>
        text?_assignMembers_of_ne (hlater entry hentry) style _]
      have hlength : ((propertyNames r).map Prod.fst).length =
          ((sanitizer.addUsed ((t.text? (recordName r)).getD "")).identifiers style
            ((propertyNames r).map (·.2.name))).length := by simp
      have hown := map_text?_assignAll hlength (nodup_handles_propertyNames r) t
      rw [List.map_map] at hown
      rw [assignProperties_eq, ← map_name_propertyNames]
      exact hown
    · rw [ih hkeys.2 hr, text?_assignProperties_of_ne]
      -- the name of a record is the name of no property
      simp [recordName]

/-- The texts of the records are what one sanitizer hands out for their keys. -/
theorem map_text?_records (g : TypeGraph) (typeStyle fieldStyle : NamingStyle) :
    g.records.map (fun r => (assignNames g typeStyle fieldStyle).text? (recordName r)) =
      (sanitizer.identifiers typeStyle g.keys).map some := by
  have hrecords : ∀ r ∈ g.records, ∀ q ∈ g.records, ∀ i,
      (recordName r).handle ≠ .property q.key i := by
    simp [recordName]
  rw [assignNames, List.map_congr_left fun r hr =>
    text?_assignMembers_of_ne (hrecords r hr) fieldStyle _, assignRecords_eq]
  have hnodup : ((g.records.map recordName).map Name.handle).Nodup := by
    have := g.keys_nodup.map (f := Handle.record) fun a b hab => by simpa using hab
    rwa [List.map_map] at this ⊢
  rw [← map_text?_assignAll (by simp [TypeGraph.keys]) hnodup (NameTable.ofGraph g),
    List.map_map]
  rfl

/-- The texts of the properties of a record are what a sanitizer hands out for their names that has
the record's own name in use. -/
theorem map_text?_properties {g : TypeGraph} {typeStyle fieldStyle : NamingStyle} {r : Record}
    (hr : r ∈ g.records) {own : String}
    (hown : (assignNames g typeStyle fieldStyle).text? (recordName r) = some own) :
    (propertyNames r).map (fun entry => (assignNames g typeStyle fieldStyle).text? entry.1) =
      ((sanitizer.addUsed own).identifiers fieldStyle (r.properties.map (·.name))).map some := by
  rw [assignNames, text?_assignMembers_of_ne (by simp [recordName])] at hown
  rw [assignNames, map_text?_assignMembers g.keys_nodup hr, hown]
  rfl

/-- Every record has one of the texts that the sanitizer hands out. -/
theorem exists_text?_record {g : TypeGraph} (typeStyle fieldStyle : NamingStyle) {r : Record}
    (hr : r ∈ g.records) :
    ∃ s ∈ sanitizer.identifiers typeStyle g.keys,
      (assignNames g typeStyle fieldStyle).text? (recordName r) = some s := by
  have hmem := List.mem_map_of_mem
    (f := fun r => (assignNames g typeStyle fieldStyle).text? (recordName r)) hr
  rw [map_text?_records] at hmem
  obtain ⟨s, hs, heq⟩ := List.mem_map.mp hmem
  exact ⟨s, hs, heq.symm⟩

/-- Every property has one of the texts that the sanitizer of its record hands out. -/
theorem exists_text?_property {g : TypeGraph} {typeStyle fieldStyle : NamingStyle} {r : Record}
    (hr : r ∈ g.records) {own : String}
    (hown : (assignNames g typeStyle fieldStyle).text? (recordName r) = some own)
    {entry : Name × Property} (hentry : entry ∈ propertyNames r) :
    ∃ s ∈ (sanitizer.addUsed own).identifiers fieldStyle (r.properties.map (·.name)),
      (assignNames g typeStyle fieldStyle).text? entry.1 = some s := by
  have hmem := List.mem_map_of_mem
    (f := fun entry => (assignNames g typeStyle fieldStyle).text? entry.1) hentry
  rw [map_text?_properties hr hown] at hmem
  obtain ⟨s, hs, heq⟩ := List.mem_map.mp hmem
  exact ⟨s, hs, heq.symm⟩

/-- Assigning names leaves the graph alone. -/
@[simp]
theorem graph_assignNames (g : TypeGraph) (typeStyle fieldStyle : NamingStyle) :
    (assignNames g typeStyle fieldStyle).graph = g := by
  have hmembers : ∀ (rs : List Record) (t : NameTable),
      (assignMembers fieldStyle rs t).graph = t.graph := by
    intro rs
    induction rs with
    | nil => exact fun t => rfl
    | cons r rs ih => intro t; rw [assignMembers, ih, assignProperties_eq, graph_assignAll]
  rw [assignNames, hmembers, assignRecords_eq, graph_assignAll]
  rfl

/-- Whether a text can stand as a name in code: an identifier that is no keyword. -/
def IsLegalName (s : String) : Prop := IsIdentifier s ∧ s ∉ keywords

/-- No keyword has an underscore. -/
theorem not_mem_keywords_of_underscore {s : String} (h : '_' ∈ s.toList) : s ∉ keywords := by
  have hnone : ∀ k ∈ keywords, '_' ∉ k.toList := by decide
  exact fun hs => hnone s hs h

/-- What the sanitizer of C# makes of a name by itself is legal in every style without hyphens. -/
theorem isLegalName_shared {style : NamingStyle} (hstyle : style ≠ .kebab) (used : List String)
    (name : String) : IsLegalName ({ sanitizer with used }.shared name style) := by
  refine ⟨Sanitizer.isIdentifier_shared hstyle _ name, ?_⟩
  unfold Sanitizer.shared Sanitizer.avoidReserved
  split
  · exact not_mem_keywords_of_underscore (by simp [String.toList_append])
  · next h => simpa [Sanitizer.isReserved, sanitizer] using h

/-- The sanitizer of C# makes legal names in every style without hyphens, whatever is in use. -/
theorem isLegalName_unique {style : NamingStyle} (hstyle : style ≠ .kebab) (used : List String)
    (name : String) : IsLegalName ({ sanitizer with used }.unique name style).1 := by
  refine ⟨Sanitizer.isIdentifier_unique hstyle _ name, ?_⟩
  have hshared := (isLegalName_shared hstyle used name).2
  rw [Sanitizer.unique]
  rcases Sanitizer.avoidUsed_eq { sanitizer with used } "_"
    ({ sanitizer with used }.shared name style) with h | ⟨n, h⟩
  · rwa [h]
  · -- a number is set apart by an underscore, which no keyword has
    rw [h, Sanitizer.candidate, if_pos rfl]
    exact not_mem_keywords_of_underscore (by simp [String.toList_append])

/-- All identifiers that the sanitizer of C# hands out are legal names. -/
theorem isLegalName_of_mem_identifiers {style : NamingStyle} (hstyle : style ≠ .kebab)
    {used names : List String} :
    ∀ id ∈ { sanitizer with used }.identifiers style names, IsLegalName id :=
  forall_mem_handOut (isLegalName_unique hstyle) used names

end CSharp

namespace NameTable

/-- Whether the names of a table can stand in code: all records and properties have legal names, the
names of records are pairwise different, and so are those of the properties of a record and the
record's own. -/
structure Legal (t : NameTable) : Prop where
  /-- Every record has a legal name. -/
  record : ∀ r ∈ t.graph.records, ∃ s, t.text? (recordName r) = some s ∧ CSharp.IsLegalName s
  /-- No two records have the same name. -/
  records_nodup : (t.graph.records.map fun r => t.text? (recordName r)).Nodup
  /-- Every property has a legal name, which is not the name of its record. -/
  property : ∀ r ∈ t.graph.records, ∀ entry ∈ propertyNames r,
    ∃ s, t.text? entry.1 = some s ∧ CSharp.IsLegalName s ∧ t.text? (recordName r) ≠ some s
  /-- No two properties of a record have the same name. -/
  properties_nodup : ∀ r ∈ t.graph.records,
    ((propertyNames r).map fun entry => t.text? entry.1).Nodup

end NameTable

namespace CSharp

open NameTable

/-- In every pair of styles without hyphens, the names assigned to a graph are legal, and no two
names that meet in one scope are the same. -/
theorem assignNames_legal (g : TypeGraph) {typeStyle fieldStyle : NamingStyle}
    (htype : typeStyle ≠ .kebab) (hfield : fieldStyle ≠ .kebab) :
    (assignNames g typeStyle fieldStyle).graph = g ∧
      (assignNames g typeStyle fieldStyle).Legal := by
  refine ⟨graph_assignNames g typeStyle fieldStyle, ?_, ?_, ?_, ?_⟩
  · intro r hr
    rw [graph_assignNames] at hr
    obtain ⟨s, hs, heq⟩ := exists_text?_record typeStyle fieldStyle hr
    exact ⟨s, heq, isLegalName_of_mem_identifiers htype s hs⟩
  · rw [graph_assignNames, map_text?_records]
    exact (Sanitizer.nodup_identifiers _ _ _).map (Option.some_injective _)
  · intro r hr entry hentry
    rw [graph_assignNames] at hr
    obtain ⟨own, -, hown⟩ := exists_text?_record typeStyle fieldStyle hr
    obtain ⟨s, hs, heq⟩ := exists_text?_property hr hown hentry
    refine ⟨s, heq, isLegalName_of_mem_identifiers hfield s hs, ?_⟩
    -- the record's own name was in use from the beginning
    rw [hown]
    rintro ⟨rfl⟩
    exact Sanitizer.not_mem_used_of_mem_identifiers hs List.mem_cons_self
  · intro r hr
    rw [graph_assignNames] at hr
    obtain ⟨own, -, hown⟩ := exists_text?_record typeStyle fieldStyle hr
    rw [map_text?_properties hr hown]
    exact (Sanitizer.nodup_identifiers _ _ _).map (Option.some_injective _)

/-- A graph whose names clash with keywords and with each other: both record keys become the same
keyword, and so does the name of a property of the first one; another property has no name. -/
def clashing : TypeGraph where
  records :=
    [{ key := "class", suggestedName := .null,
       properties := [⟨"class", .any, false, .null⟩, ⟨"", .any, false, .null⟩,
         ⟨"2nd été", .any, false, .null⟩, ⟨"2nd---t", .any, false, .null⟩] },
      { key := "Class_", suggestedName := .null }]
  keys_nodup := by decide

/-- The theorem at a graph whose names clash, with the texts that its records get. -/
theorem assignNames_legal_clashing :
    NamingStyle.snake ≠ .kebab ∧ NamingStyle.camel ≠ .kebab ∧
      (assignNames clashing .snake .camel).graph = clashing ∧
      (assignNames clashing .snake .camel).Legal ∧
      clashing.records.map (fun r => (assignNames clashing .snake .camel).text? (recordName r)) =
        [some "class_", some "class__1"] :=
  have htype : NamingStyle.snake ≠ .kebab := by decide
  have hfield : NamingStyle.camel ≠ .kebab := by decide
  have hlegal := assignNames_legal clashing htype hfield
  ⟨htype, hfield, hlegal.1, hlegal.2, by decide⟩

end CSharp

end SchemaStruct
