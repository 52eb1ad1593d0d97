import SchemaStruct.Proofs.Schema.Refusals
import SchemaStruct.Proofs.Schema.References

/-!
# Complete Records

The place of a record is taken by an empty record, which is replaced when the properties have been
found. In between other records are added and places are filled, so it has to be shown that no
empty record is left: every record of a graph has been collected at a call of the conversion, and
says what the flat form of the schema there says.

The names of the properties are texts. What a schema with parts gathers may have other names at
first, but these are values that can be looked up in a set, and no such value except a text makes
part of a key.

## Main definitions

* `Record.IsOf`: a record says what a flat schema says;
* `Convert.DescribesRecord`: the schema that stands at a call is that of a record;
* `Convert.Collects`: a call collects a record from the schema that stands there;
* `Builder.Adds`: all records that have been put behind the others are of one sort.

## Main results

* `Node.hashable_of_flattenWith`: the names of what a flat schema has gathered;
* `Convert.step_adds` and `Convert.walk_collects`: all new records are collected at calls;
* `Document.toGraph_complete`: so are all records of the graph of a document.
-/

namespace SchemaStruct

/-- The names can be looked up in a set. -/
def Entries.Hashable (entries : Entries) : Prop :=
  ∀ entry ∈ entries, entry.1.toJson.isHashable = true

namespace Entries

variable {entries more : Entries}

/-- The names of the members of an object are texts. -/
theorem hashable_ofMembers (members : List (String × Json)) : (ofMembers members).Hashable := by
  intro entry hentry
  obtain ⟨member, -, rfl⟩ := List.mem_map.mp hentry
  rfl

/-- Only a value that can be looked up in a set becomes the name of a pair. -/
theorem hashable_ofPair {index : Nat} {v : Json} {entry : EntryName × Json}
    (h : ofPair index v = .ok entry) : entry.1.toJson.isHashable = true := by
  unfold ofPair at h
  split at h
  · cases h
  · obtain rfl := Except.ok.inj h
    rfl
  · next name value _ =>
    obtain ⟨_, hname, h⟩ := ok_of_bind h
    obtain rfl := Except.ok.inj h
    unfold Json.requireHashable at hname
    split at hname
    · assumption
    · cases hname
  · cases h

/-- The same for a list of pairs. -/
theorem hashable_ofPairs {index : Nat} {vs : List Json} (h : ofPairs index vs = .ok entries) :
    entries.Hashable := by
  induction vs generalizing index entries with
  | nil =>
    obtain rfl := Except.ok.inj h
    simp [Hashable]
  | cons v vs ih =>
    obtain ⟨entry, hentry, h⟩ := ok_of_bind h
    obtain ⟨rest, hrest, h⟩ := ok_of_bind h
    obtain rfl := Except.ok.inj h
    exact List.forall_mem_cons.mpr ⟨hashable_ofPair hentry, ih hrest⟩

/-- One more entry, in an old place or at the end. -/
theorem Hashable.set (h : entries.Hashable) {name : EntryName}
    (hname : name.toJson.isHashable = true) (value : Json) :
    Hashable (Entries.set name value entries) := by
  induction entries with
  | nil =>
    unfold Entries.set
    exact List.forall_mem_singleton.mpr hname
  | cons entry entries ih =>
    obtain ⟨hentry, hentries⟩ := List.forall_mem_cons.mp h
    unfold Entries.set
    split
    · exact List.forall_mem_cons.mpr ⟨hentry, hentries⟩
    · exact List.forall_mem_cons.mpr ⟨hentry, ih hentries⟩

/-- Some more entries. -/
theorem Hashable.update (h : entries.Hashable) (hmore : more.Hashable) :
    Hashable (entries.update more) := by
  unfold Entries.update
  induction more generalizing entries with
  | nil => exact h
  | cons entry more ih =>
    obtain ⟨hentry, hmore⟩ := List.forall_mem_cons.mp hmore
    exact ih (h.set hentry entry.2) hmore

end Entries

/-- The names of the entries that a value contributes. -/
theorem Json.hashable_of_entries {v : Json} {entries : Entries} (h : v.entries = .ok entries) :
    entries.Hashable := by
  unfold Json.entries at h
  split at h
  · obtain rfl := Except.ok.inj h
    exact Entries.hashable_ofMembers _
  · obtain ⟨items, -, h⟩ := ok_of_bind h
    exact Entries.hashable_ofPairs h

namespace Node

variable {n : Node} {root : Json} {members : List (String × Json)}

/-- The names of the properties that have been gathered can be looked up in a set. -/
def Hashable (n : Node) : Prop := ∀ g, n.gathered = some g → g.properties.Hashable

/-- The names of the properties that a node contributes. -/
theorem Hashable.contributed (h : n.Hashable) {entries : Entries}
    (hentries : n.contributed = .ok entries) : entries.Hashable := by
  unfold Node.contributed at hentries
  split at hentries
  · next g hg =>
    obtain rfl := Except.ok.inj hentries
    exact h g hg
  · split at hentries
    · exact Json.hashable_of_entries hentries
    · obtain rfl := Except.ok.inj hentries
      simp [Entries.Hashable]

/-- The names of the properties that a node lists. -/
theorem Hashable.listed (h : n.Hashable) {entries : Entries} (hentries : n.listed = .ok entries) :
    entries.Hashable := by
  unfold Node.listed at hentries
  split at hentries
  · next g hg =>
    obtain rfl := Except.ok.inj hentries
    exact h g hg
  · split at hentries
    · obtain rfl := Except.ok.inj hentries
      exact Entries.hashable_ofMembers _
    · cases hentries
    · obtain rfl := Except.ok.inj hentries
      simp [Entries.Hashable]

/-- Gathering goes on with names that can be looked up in a set. -/
theorem Hashable.addNode (h : n.Hashable) {g g' : Gathered} (hg : g.properties.Hashable)
    (hadd : g.addNode n = .ok g') : g'.properties.Hashable := by
  obtain ⟨properties, hproperties, hadd⟩ := ok_of_bind hadd
  obtain ⟨required, -, hadd⟩ := ok_of_bind hadd
  obtain rfl := Except.ok.inj hadd
  exact hg.update (h.contributed hproperties)

/-- So does gathering from one more part. -/
theorem hashable_of_addPart {part : Json} {flat : List (String × Json) → Except Fault Node}
    (hflat : ∀ members n, flat members = .ok n → n.Hashable)
    {acc acc' : List (String × Json) × Gathered} (hacc : acc.2.properties.Hashable)
    (h : addPart root flat acc part = .ok acc') : acc'.2.properties.Hashable := by
  have hadded : ∀ members, (flat members >>= fun node =>
      acc.2.addNode node >>= fun gathered => pure (adoptType acc.1 node, gathered)) =
        .ok acc' → acc'.2.properties.Hashable := by
    intro members h
    obtain ⟨node, hnode, h⟩ := ok_of_bind h
    obtain ⟨g, hg, h⟩ := ok_of_bind h
    obtain rfl := Except.ok.inj h
    exact (hflat _ node hnode).addNode hacc hg
  unfold addPart at h
  split at h
  · dsimp only at h
    split at h
    · obtain ⟨target, -, h⟩ := ok_of_bind h
      exact hadded _ h
    · exact hadded _ h
  · obtain rfl := Except.ok.inj h
    exact hacc

/-- The names of what a flat schema has gathered can be looked up in a set. -/
theorem hashable_of_flattenWith {fuel : Nat} (h : flattenWith root fuel members = .ok n) :
    n.Hashable := by
  induction fuel generalizing members n with
  | zero => cases h
  | succ fuel ih =>
    unfold flattenWith at h
    split at h
    · obtain rfl := Except.ok.inj h
      simp [Hashable]
    · obtain ⟨parts, -, h⟩ := ok_of_bind h
      obtain ⟨⟨keywords, gathered⟩, hparts, h⟩ := ok_of_bind h
      obtain ⟨g, hg, h⟩ := ok_of_bind h
      obtain rfl := Except.ok.inj h
      -- the own properties of the schema come behind those of its parts
      have hgathered : gathered.properties.Hashable :=
        of_foldlM_ok (P := fun acc => acc.2.properties.Hashable) hparts
          (by simp [Gathered.empty, Entries.Hashable])
          fun acc part _ acc' hacc hpart => hashable_of_addPart (fun _ _ h => ih h) hacc hpart
      have hown : Hashable { keywords := members } := by simp [Hashable]
      intro g' hg'
      obtain rfl := Option.some.inj hg'
      exact hown.addNode hgathered hg

/-- What can be looked up in the set of required names is a required text. -/
theorem mem_requiredNames {names : List String} (h : n.requiredNames = .ok names) :
    ∃ values, n.required = .ok values ∧ ∀ name, name ∈ names ↔ Json.str name ∈ values := by
  obtain ⟨values, hvalues, h⟩ := ok_of_bind h
  obtain ⟨_, -, h⟩ := ok_of_bind h
  obtain rfl := Except.ok.inj h
  refine ⟨values, hvalues, fun name => ?_⟩
  rw [List.mem_filterMap]
  constructor
  · rintro ⟨v, hv, hname⟩
    cases v with
    | str s =>
      obtain rfl := Option.some.inj hname
      exact hv
    | _ => cases hname
  · exact fun hname => ⟨_, hname, rfl⟩

end Node

/-- Among the values that can be looked up in a set only texts make part of a key. -/
theorem TypeName.exists_str_of_ofEntry {name : EntryName} {suffix : String}
    (h : TypeName.ofEntry name = .ok suffix) (hname : name.toJson.isHashable = true) :
    ∃ s, name.toJson = .str s := by
  cases name with
  | text s => exact ⟨s, rfl⟩
  | other v =>
    cases v with
    | str s => exact ⟨s, rfl⟩
    | arr items => cases hname
    | obj members => cases hname
    | _ => cases h

/-- The property says what the schema of its entry says, where some names are required. -/
structure Property.IsOf (required : List Json) (entry : EntryName × Json) (p : Property) :
    Prop where
  /-- It has the name of the entry. -/
  name : entry.1.toJson = .str p.name
  /-- It may be absent if it is not required. -/
  optional : p.optional = true ↔ .str p.name ∉ required
  /-- It has the description of its own schema. -/
  description : p.description = Json.orNull (entry.2.get? "description")

/-- The record says what the flat schema `flat` says. -/
structure Record.IsOf (d : Document) (flat : Node) (r : Record) : Prop where
  /-- Those may see it who may see all records of the document. -/
  visibility : r.visibility = d.visibility
  /-- It extends what all records of the document extend. -/
  baseType : r.baseType = d.baseType
  /-- It has the description of the schema. -/
  description : r.description = Json.orNull (flat.get? "description")
  /-- It has a property for each entry of the schema's properties, in their order. -/
  properties : ∃ entries required, flat.listed = .ok entries ∧ flat.required = .ok required ∧
    List.Forall₂ (Property.IsOf required) entries r.properties

/-- All records that `b'` has behind those of `b` are of the sort `sort`. -/
def Builder.Adds (sort : Record → Prop) (b b' : Builder) : Prop :=
  ∃ new, b'.graph.records = b.graph.records ++ new ∧ ∀ r ∈ new, sort r

namespace Builder.Adds

variable {sort : Record → Prop} {b b₁ b₂ : Builder}

/-- No record is added if the graph stays the same. -/
theorem of_eq (h : b₁.graph = b.graph) : b.Adds sort b₁ :=
  ⟨[], by simp [h], by simp⟩

/-- What is added later stands behind what is added before. -/
theorem trans (h : b.Adds sort b₁) (h' : b₁.Adds sort b₂) : b.Adds sort b₂ := by
  obtain ⟨new, hrecords, hnew⟩ := h
  obtain ⟨later, hrecords', hlater⟩ := h'
  refine ⟨new ++ later, by rw [hrecords', hrecords, List.append_assoc], fun r hr => ?_⟩
  rcases List.mem_append.mp hr with hr | hr
  · exact hnew r hr
  · exact hlater r hr

/-- A place that was taken before other records were added is filled. -/
theorem replace {r placeholder : Record}
    (hopen : b₁.graph.records = b.graph.records ++ [placeholder]) (hkey : placeholder.key = r.key)
    (h : b₁.Adds sort b₂) (hr : sort r) :
    b.Adds sort { b₂ with graph := b₂.graph.replace r } := by
  obtain ⟨new, hrecords, hnew⟩ := h
  have hplace : b₂.graph.records = b.graph.records ++ placeholder :: new := by
    rw [hrecords, hopen, List.append_assoc, List.singleton_append]
  exact ⟨r :: new, TypeGraph.records_replace hplace hkey, List.forall_mem_cons.mpr ⟨hr, hnew⟩⟩

end Builder.Adds

namespace Convert

/-- The schema that stands at the call describes the values of a record, and its flat form is
`flat`. -/
def DescribesRecord (d : Document) (c : Call) (flat : Node) : Prop :=
  (∃ members, c.node = .obj members ∧ Node.flatten d.root members = .ok flat) ∧
    ∃ nullable, Form.of d.root c.node = some ⟨.record flat, nullable⟩

/-- The call, which has the fuel `n`, collects the record from the schema that stands there: its
result is an object of the record, and the record says what the flat form of the schema says. -/
def Collects (d : Document) (n : Nat) (c : Call) (r : Record) : Prop :=
  (∃ t, (c.run (walk d n)).1 = .ok t ∧ t.kind = .object ∧ t.record = some r.key) ∧
    r.suggestedName = c.site.hint ∧ ∃ flat, DescribesRecord d c flat ∧ r.IsOf d flat

section

variable {d : Document} {w : Walk} {site : Site} {b b' : Builder} {c : Call}

/-- The properties of a record are those of its entries. -/
theorem properties_isOf {key : String} {required : List String} {values : List Json}
    (hrequired : ∀ name, name ∈ required ↔ Json.str name ∈ values) {entries : Entries}
    (hentries : entries.Hashable) {properties : List Property}
    (h : Returns (entries.mapM (property w site key required)) b properties b') :
    List.Forall₂ (Property.IsOf values) entries properties := by
  induction entries generalizing b properties with
  | nil =>
    obtain ⟨rfl, -⟩ := returns_mapM_nil_iff.mp h
    exact .nil
  | cons entry entries ih =>
    obtain ⟨hentry, hentries⟩ := List.forall_mem_cons.mp hentries
    obtain ⟨p, b₁, rest, hp, hrest, rfl⟩ := returns_mapM_cons_iff.mp h
    obtain ⟨suffix, t, hsuffix, -, rfl⟩ := returns_property_iff.mp hp
    obtain ⟨name, hname⟩ := TypeName.exists_str_of_ofEntry hsuffix hentry
    refine .cons ⟨?_, ?_, rfl⟩ (ih hentries hrest)
    · rw [hname]
      rfl
    · rw [hname]
      simp [Json.plain, hrequired]

/-- The properties of a record add what their calls add. -/
theorem properties_add {sort : Record → Prop} {key : String} {required : List String}
    {entries : Entries} {properties : List Property}
    (hcalls : ∀ c ∈ propertyCalls w site key entries b, ∀ t after,
      Returns (w c.site c.node) c.before t after → c.before.Adds sort after)
    (h : Returns (entries.mapM (property w site key required)) b properties b') :
    b.Adds sort b' := by
  induction entries generalizing b properties with
  | nil =>
    obtain ⟨-, rfl⟩ := returns_mapM_nil_iff.mp h
    exact .of_eq rfl
  | cons entry entries ih =>
    obtain ⟨name, schema⟩ := entry
    obtain ⟨p, b₁, rest, hp, hrest, -⟩ := returns_mapM_cons_iff.mp h
    obtain ⟨suffix, t, hsuffix, hwalk, -⟩ := returns_property_iff.mp hp
    have hrun : (Call.mk { hint := .str (key ++ suffix), pending := site.pending } schema b).run
        w = (.ok t, b₁) := hwalk
    simp only [propertyCalls, hsuffix, hrun] at hcalls
    have hfirst := hcalls _ List.mem_cons_self t b₁ hwalk
    exact hfirst.trans (ih (fun c hc => hcalls c (List.mem_cons_of_mem _ hc)) hrest)

/-- A step adds what its calls add, and at the schema of a record that record in front of them. -/
theorem step_adds {sort : Record → Prop} {t : TypeRef}
    (hcalls : ∀ c' ∈ calls d w c, ∀ t after,
      Returns (w c'.site c'.node) c'.before t after → c'.before.Adds sort after)
    (hown : ∀ r flat, DescribesRecord d c flat → r.IsOf d flat → r.suggestedName = c.site.hint →
      t.kind = .object → t.record = some r.key → sort r)
    (h : Returns (step d w c.site c.node) c.before t b') : c.before.Adds sort b' := by
  obtain ⟨⟨shape, nullable⟩, u, hform, hgives, rfl⟩ := returns_step h
  simp only [calls, hform] at hcalls
  cases hgives with
  | scalar notices hkind => exact .of_eq rfl
  | listOfAny notices => exact .of_eq rfl
  | list h => exact hcalls _ List.mem_cons_self _ _ h
  | mapOfAny => exact .of_eq rfl
  | map h => exact hcalls _ List.mem_cons_self _ _ h
  | @record flat key _ h =>
    obtain ⟨members, hnode, hflat⟩ := Form.flatten_of_record hform
    obtain ⟨b₁, names, entries, properties, b₂, hopen, hnames, hlisted, hproperties, rfl⟩ :=
      returns_record h
    obtain ⟨values, hvalues, hrequired⟩ := Node.mem_requiredNames hnames
    have hentries := (Node.hashable_of_flattenWith hflat).listed hlisted
    have hisOf : (recordOf d c.site flat key properties).IsOf d flat :=
      ⟨rfl, rfl, rfl, entries, values, hlisted, hvalues,
        properties_isOf hrequired hentries hproperties⟩
    have hrun : (openRecord c.site flat).run.run c.before = (.ok key, b₁) := hopen
    simp only [shapeCalls, recordCalls, hrun, hnames, hlisted] at hcalls
    refine .replace (returns_openRecord hopen).records rfl (properties_add hcalls hproperties) ?_
    exact hown _ flat ⟨⟨members, hnode, hflat⟩, nullable, hform⟩ hisOf rfl
      (by cases nullable <;> rfl) (by cases nullable <;> rfl)
  | known hknown => exact .of_eq rfl
  | cut hknown hpending => exact .of_eq rfl
  | target hknown hpending hresolve h =>
    simp only [shapeCalls, hknown, hresolve] at hcalls
    rw [if_neg (by simpa using hpending)] at hcalls
    exact hcalls _ List.mem_cons_self _ _ h
  | alternative h => exact hcalls _ List.mem_cons_self _ _ h

/-- All records that a walk adds are collected at its calls. -/
theorem walk_collects {n : Nat} {t : TypeRef}
    (h : Returns (walk d n c.site c.node) c.before t b') :
    c.before.Adds (fun r => ∃ m c', (m, c') ∈ met d n c ∧ Collects d m c' r) b' := by
  induction n generalizing c t b' with
  | zero => exact absurd h (not_returns_throw _)
  | succ n ih =>
    refine step_adds (w := walk d n) (t := t) ?_ ?_ h
    · intro c' hc' t' after h'
      obtain ⟨new, hrecords, hnew⟩ := ih h'
      refine ⟨new, hrecords, fun r hr => ?_⟩
      obtain ⟨m, c'', hmem, hcollects⟩ := hnew r hr
      exact ⟨m, c'', List.mem_cons_of_mem _ (List.mem_flatMap.mpr ⟨c', hc', hmem⟩), hcollects⟩
    · intro r flat hdescribes hisOf hhint hkind hrecord
      refine ⟨n + 1, c, List.mem_cons_self, ⟨t, ?_, hkind, hrecord⟩, hhint, flat, hdescribes, hisOf⟩
      exact congrArg Prod.fst h

end

end Convert

namespace Document

/-- Every record of the graph of a document is collected at a call. -/
theorem exists_collects {d : Document} {topLevel : Json} {g : TypeGraph}
    (h : (d.toGraph topLevel).1 = .ok g) {r : Record} (hr : r ∈ g.records) :
    ∃ n c, (n, c) ∈ d.met topLevel ∧ Convert.Collects d n c r := by
  obtain ⟨key, t, b, hkey, hwalk, -, rfl⟩ := returns_toGraph h
  obtain ⟨new, hrecords, hnew⟩ :=
    Convert.walk_collects (c := d.openingCall topLevel key) hwalk
  -- there are no records before the walk
  have hr : r ∈ new := by
    have hempty : (d.openingCall topLevel key).before.graph.records = [] := rfl
    rw [hempty, List.nil_append] at hrecords
    exact hrecords ▸ hr
  rw [met, hkey]
  exact hnew r hr

/-- Every record of the graph of a document is complete, no two of them share a key, and no document
is refused because a record is there already. -/
theorem toGraph_complete (d : Document) (topLevel : Json) :
    (∀ key, (d.toGraph topLevel).1 ≠ .error (.schema (.duplicateRecord key))) ∧
      ∀ g, (d.toGraph topLevel).1 = .ok g → g.keys.Nodup ∧
        ∀ r ∈ g.records, ∃ n c, (n, c) ∈ d.met topLevel ∧ Convert.Collects d n c r := by
  refine ⟨fun key h => ?_, fun g hg => ⟨g.keys_nodup, fun r hr => exists_collects hg hr⟩⟩
  cases refusal_of_toGraph h with
  | schema hduplicate hunknown => exact hduplicate key rfl

/-- A document with a schema that is put together from parts, and with values that are required or
described. -/
def catalog : Document where
  root := .obj
    [("description", .str "All items."), ("required", .arr [.str "items", .int 1]),
      ("properties", .obj
        [("items", .obj [("type", .str "array"), ("items", refNode "#/definitions/book")]),
          ("owner", .obj [("description", .str "Whose?"), ("type", .str "string")])]),
      ("definitions", .obj
        [("item", .obj [("required", .arr [.str "title"]),
            ("properties", .obj [("title", .obj [("type", .str "string")])])]),
          ("book", .obj [("allOf", .arr [refNode "#/definitions/item"]),
            ("properties", .obj [("sequel", refNode "#/definitions/book")])])])]
  visibility := .internal
  baseType := .str "Entity"

/-- The theorem at a document whose records are put together from parts, with the names of their
properties. -/
theorem toGraph_complete_catalog :
    ∃ g, (catalog.toGraph (.str "Catalog")).1 = .ok g ∧
      g.records.map (fun r => (r.key, r.properties.map fun p => (p.name, p.optional))) =
        [("Catalog", [("items", false), ("owner", true)]),
          ("Book", [("title", false), ("sequel", true)])] ∧
      g.keys.Nodup ∧
      ∀ r ∈ g.records, ∃ n c, (n, c) ∈ catalog.met (.str "Catalog") ∧
        Convert.Collects catalog n c r := by
  have hrecords : (catalog.toGraph (.str "Catalog")).1.toOption.map (fun g => g.records.map
      fun r => (r.key, r.properties.map fun p => (p.name, p.optional))) =
        some [("Catalog", [("items", false), ("owner", true)]),
          ("Book", [("title", false), ("sequel", true)])] := by decide
  obtain ⟨g, hg, hrecords⟩ := Option.map_eq_some_iff.mp hrecords
  have hgraph := toGraph_of_toOption hg
  exact ⟨g, hgraph, hrecords, (toGraph_complete catalog (.str "Catalog")).2 g hgraph⟩

end Document

end SchemaStruct
