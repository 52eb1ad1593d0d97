import SchemaStruct.Proofs.Schema.Steps

/-!
# The Graph of a Document Is Closed

A walk puts new records behind those that are there. What it finds refers to these and to older
records only, and each new record is found through the result of the walk or through a new record in
front of it. Lists, maps, alternatives and references pass this on; a record takes its place first,
and the records of its properties stand behind it.

## Main definitions

* `Extends`: the new records of a walk, and how they are referred to;
* `Finds`: what a walk finds.

## Main results

* `Convert.walk_finds`: every walk that returns finds a type and its records;
* `Document.toGraph_closed`: the graph of a document is closed.
-/

namespace SchemaStruct

/-- The records `new` have been put behind those of `b`; they and `refers` name records of the graph
only, and each of them is named by `refers` or by one of them in front of it. -/
structure Extends (refers : String → Prop) (b : Builder) (new : List Record) (b' : Builder) :
    Prop where
  /-- The old records are still there, in front of the new ones. -/
  records : b'.graph.records = b.graph.records ++ new
  /-- The types of the new records have records and items where they need them. -/
  wellFormed : ∀ r ∈ new, ∀ p ∈ r.properties, p.type.WellFormed
  /-- What is referred to is there. -/
  resolved : ∀ key, (refers key ∨ ∃ r ∈ new, r.RefersTo key) → key ∈ b'.graph.keys
  /-- What is new is referred to from the outside or from a new record in front. -/
  discovered : ∀ pre r post, new = pre ++ r :: post → refers r.key ∨ ∃ q ∈ pre, q.RefersTo r.key

namespace Extends

variable {refers more : String → Prop} {b b₁ b₂ : Builder} {new later : List Record}

/-- The old keys are still there. -/
theorem mem_keys (h : Extends refers b new b₁) {key : String} (hkey : key ∈ b.graph.keys) :
    key ∈ b₁.graph.keys := by
  rw [TypeGraph.keys, h.records, List.map_append]
  exact List.mem_append_left _ hkey

/-- Nothing new, if only what is there is referred to. -/
theorem refl (hgraph : b₁.graph = b.graph) (h : ∀ key, refers key → key ∈ b.graph.keys) :
    Extends refers b [] b₁ where
  records := by rw [hgraph, List.append_nil]
  wellFormed := by simp
  resolved := by
    rintro key (hkey | ⟨r, hr, -⟩)
    · exact hgraph ▸ h key hkey
    · simp at hr
  discovered := by simp

/-- The references from the outside may be said in another way. -/
theorem congr (h : Extends refers b new b₁) (hiff : ∀ key, more key ↔ refers key) :
    Extends more b new b₁ := by
  obtain rfl : more = refers := funext fun key => propext (hiff key)
  exact h

/-- What is found later stands behind what is found before. -/
theorem trans (h : Extends refers b new b₁) (hmore : Extends more b₁ later b₂) :
    Extends (fun key => refers key ∨ more key) b (new ++ later) b₂ where
  records := by rw [hmore.records, h.records, List.append_assoc]
  wellFormed := by
    intro r hr
    rcases List.mem_append.mp hr with hr | hr
    · exact h.wellFormed r hr
    · exact hmore.wellFormed r hr
  resolved := by
    rintro key ((hkey | hkey) | ⟨r, hr, hkey⟩)
    · exact hmore.mem_keys (h.resolved key (.inl hkey))
    · exact hmore.resolved key (.inl hkey)
    · rcases List.mem_append.mp hr with hr | hr
      · exact hmore.mem_keys (h.resolved key (.inr ⟨r, hr, hkey⟩))
      · exact hmore.resolved key (.inr ⟨r, hr, hkey⟩)
  discovered := by
    intro pre r post hsplit
    -- the record is one of the later ones, or one of those found before
    rcases List.append_eq_append_iff.mp hsplit with ⟨mid, rfl, hlater⟩ | ⟨mid, rfl, hmid⟩
    · rcases hmore.discovered mid r post hlater with hkey | ⟨q, hq, hkey⟩
      · exact .inl (.inr hkey)
      · exact .inr ⟨q, List.mem_append_right _ hq, hkey⟩
    · cases mid with
      | nil =>
        rcases hmore.discovered [] r post (by simpa using hmid.symm) with hkey | ⟨q, hq, -⟩
        · exact .inl (.inr hkey)
        · simp at hq
      | cons x mid =>
        obtain ⟨rfl, -⟩ := List.cons.inj hmid
        rcases h.discovered pre r mid rfl with hkey | ⟨q, hq, hkey⟩
        · exact .inl (.inl hkey)
        · exact .inr ⟨q, hq, hkey⟩

/-- A record whose place was taken before its properties were found stands in front of what they
refer to. -/
theorem record {r placeholder : Record}
    (hopen : b₁.graph.records = b.graph.records ++ [placeholder])
    (hkey : placeholder.key = r.key) (htypes : ∀ p ∈ r.properties, p.type.WellFormed)
    (h : Extends r.RefersTo b₁ new b₂) :
    Extends (fun key => r.key = key) b (r :: new)
      { b₂ with graph := b₂.graph.replace r } := by
  have hplace : b₂.graph.records = b.graph.records ++ placeholder :: new := by
    rw [h.records, hopen, List.append_assoc, List.singleton_append]
  -- filling the place moves nothing
  have hrecords := TypeGraph.records_replace hplace hkey
  have hkeys : (b₂.graph.replace r).keys = b₂.graph.keys := TypeGraph.map_key_replace r _
  refine ⟨hrecords, ?_, ?_, ?_⟩
  · intro q hq
    rcases List.mem_cons.mp hq with rfl | hq
    · exact htypes
    · exact h.wellFormed q hq
  · rintro key (rfl | ⟨q, hq, hrefers⟩)
    · show r.key ∈ (b₂.graph.replace r).keys
      rw [TypeGraph.keys, hrecords]
      simp
    · show key ∈ (b₂.graph.replace r).keys
      rw [hkeys]
      rcases List.mem_cons.mp hq with rfl | hq
      · exact h.resolved key (.inl hrefers)
      · exact h.resolved key (.inr ⟨q, hq, hrefers⟩)
  · intro pre q post hsplit
    -- the record itself is named from the outside, the others by what it refers to
    cases pre with
    | nil =>
      obtain ⟨rfl, -⟩ := List.cons.inj hsplit
      exact .inl rfl
    | cons x pre =>
      obtain ⟨rfl, hnew⟩ := List.cons.inj hsplit
      rcases h.discovered pre q post hnew with hrefers | ⟨x', hx', hrefers⟩
      · exact .inr ⟨_, List.mem_cons_self, hrefers⟩
      · exact .inr ⟨x', List.mem_cons_of_mem _ hx', hrefers⟩

end Extends

/-- What a walk finds: a type, and the records behind those of `b` that it leads to. -/
structure Finds (b : Builder) (t : TypeRef) (new : List Record) (b' : Builder) : Prop where
  /-- The type has records and items where it needs them. -/
  wellFormed : t.WellFormed
  /-- The new records are those that the type leads to. -/
  leads : Extends t.RefersTo b new b'
  /-- The record of an object is an old one or the first of the new ones. -/
  first : t.kind = .object → ∃ key, t.record = some key ∧
    (key ∈ b.graph.keys ∨ (new.map Record.key).head? = some key)

namespace Finds

variable {b b' : Builder} {t : TypeRef} {new : List Record}

/-- Allowing no value changes nothing about the records. -/
theorem withNullableIf (h : Finds b t new b') (nullable : Bool) :
    Finds b (t.withNullableIf nullable) new b' where
  wellFormed := TypeRef.wellFormed_withNullableIf.mpr h.wellFormed
  leads := h.leads.congr fun _ => TypeRef.refersTo_withNullableIf
  first := by
    cases nullable with
    | false => exact h.first
    | true => exact h.first

/-- A list finds what its items find. -/
theorem array (h : Finds b t new b') : Finds b t.array new b' where
  wellFormed := TypeRef.wellFormed_array.mpr h.wellFormed
  leads := h.leads.congr fun _ => TypeRef.refersTo_array
  first := by simp [TypeRef.array]

/-- A map finds what its values find. -/
theorem map (h : Finds b t new b') : Finds b t.map new b' where
  wellFormed := TypeRef.wellFormed_map.mpr h.wellFormed
  leads := h.leads.congr fun _ => TypeRef.refersTo_map
  first := by simp [TypeRef.map]

/-- A type that is neither an object nor a list nor a map finds nothing. -/
theorem scalar {kind : FieldKind} (hkind : kind ≠ .object ∧ kind ≠ .array ∧ kind ≠ .map)
    (hgraph : b'.graph = b.graph) : Finds b { kind } [] b' where
  wellFormed := TypeRef.wellFormed_scalar hkind
  leads := .refl hgraph fun _ h => absurd h (TypeRef.not_refersTo_scalar hkind.1)
  first := fun h => absurd h hkind.1

/-- The type that says nothing finds nothing. -/
theorem anything (hgraph : b'.graph = b.graph) : Finds b .any [] b' :=
  scalar (by decide) hgraph

/-- An object of an old record finds nothing new. -/
theorem known {key : String} (h : key ∈ b.graph.keys) : Finds b (.object key) [] b where
  wellFormed := TypeRef.wellFormed_object
  leads := .refl rfl fun _ h' => TypeRef.refersTo_object.mp h' ▸ h
  first := fun _ => ⟨key, rfl, .inl h⟩

end Finds

namespace Convert

variable {d : Document} {w : Walk}

/-- Whether all walks of `w` that return find a type and its records. -/
def FindsAll (w : Walk) : Prop :=
  ∀ {site node b t b'}, Returns (w site node) b t b' → ∃ new, Finds b t new b'

/-- The properties of a record find what their types find, one after the other. -/
theorem properties_extend (hw : FindsAll w) {site : Site} {key : String}
    {required : List String} {entries : List (EntryName × Json)} {b b' : Builder}
    {properties : List Property}
    (h : Returns (entries.mapM (property w site key required)) b properties b') :
    (∀ p ∈ properties, p.type.WellFormed) ∧
      ∃ new, Extends (fun key => ∃ p ∈ properties, p.type.RefersTo key) b new b' := by
  induction entries generalizing b properties with
  | nil =>
    obtain ⟨rfl, rfl⟩ := returns_mapM_nil_iff.mp h
    exact ⟨by simp, [], .refl rfl (by simp)⟩
  | cons entry entries ih =>
    obtain ⟨p, b₁, rest, hp, hrest, rfl⟩ := returns_mapM_cons_iff.mp h
    obtain ⟨suffix, t, -, hwalk, rfl⟩ := returns_property_iff.mp hp
    obtain ⟨new, hfinds⟩ := hw hwalk
    obtain ⟨hwell, later, hlater⟩ := ih hrest
    refine ⟨?_, new ++ later, (hfinds.leads.trans hlater).congr ?_⟩
    · intro p hp
      rcases List.mem_cons.mp hp with rfl | hp
      · exact hfinds.wellFormed
      · exact hwell p hp
    · simp

/-- A record finds its own place and what its properties find. -/
theorem record_finds (hw : FindsAll w) {site : Site} {node : Node} {b b' : Builder}
    {key : String} (h : Returns (record d w site node) b key b') :
    ∃ new, Finds b (.object key) new b' := by
  obtain ⟨b₁, required, entries, properties, b₂, hopen, -, -, hproperties, rfl⟩ :=
    returns_record h
  obtain ⟨hwell, new, hnew⟩ := properties_extend hw hproperties
  have hrecord := Extends.record (r := recordOf d site node key properties)
    (returns_openRecord hopen).records rfl hwell hnew
  refine ⟨_, TypeRef.wellFormed_object, hrecord.congr fun _ => TypeRef.refersTo_object, ?_⟩
  exact fun _ => ⟨key, rfl, .inr rfl⟩

/-- What a step gives is what it finds, if the walks inside find what they give. -/
theorem finds_of_gives (hw : FindsAll w) {site : Site} {b b' : Builder}
    {shape : Shape} {t : TypeRef} (h : Gives d w site b shape t b') :
    ∃ new, Finds b t new b' := by
  cases h with
  | scalar notices hkind => exact ⟨[], .scalar hkind rfl⟩
  | listOfAny notices => exact ⟨[], .array (.anything (Builder.graph_noted b notices))⟩
  | list h =>
    obtain ⟨new, hnew⟩ := hw h
    exact ⟨new, hnew.array⟩
  | mapOfAny => exact ⟨[], (Finds.anything rfl).map⟩
  | map h =>
    obtain ⟨new, hnew⟩ := hw h
    exact ⟨new, hnew.map⟩
  | record h => exact record_finds hw h
  | known hknown => exact ⟨[], .known (Builder.record?_eq_some_iff.mp hknown).2⟩
  | cut hknown hpending => exact ⟨[], .anything rfl⟩
  | target hknown hpending hresolve h => exact hw h
  | alternative h => exact hw h

/-- Every walk that returns finds a type and its records. -/
theorem walk_finds (d : Document) (n : Nat) : FindsAll (walk d n) := by
  -- induction on the fuel, which the walks inside have less of
  induction n with
  | zero => exact fun h => absurd h (not_returns_throw _)
  | succ n ih =>
    intro site node b t b' h
    obtain ⟨form, u, -, hgives, rfl⟩ := returns_step h
    obtain ⟨new, hnew⟩ := finds_of_gives ih hgives
    exact ⟨new, hnew.withNullableIf form.nullable⟩

end Convert

namespace Document

/-- All objects in the types of a document's records have records. -/
theorem resolved_of_toGraph {d : Document} {topLevel : Json} {g : TypeGraph}
    (h : (d.toGraph topLevel).1 = .ok g) : g.Resolved := by
  obtain ⟨own, t, b, -, hwalk, -, rfl⟩ := returns_toGraph h
  obtain ⟨new, hnew⟩ := Convert.walk_finds d _ hwalk
  have hrecords : b.graph.records = new := by
    simpa [Builder.opening, TypeGraph.empty] using hnew.leads.records
  intro r hr p hp
  have hr : r ∈ new := hrecords ▸ hr
  refine (hnew.leads.wellFormed r hr p hp).resolvesIn fun key hkey => ?_
  exact hnew.leads.resolved key (.inr ⟨r, hr, p, hp, hkey⟩)

/-- The graph of every document is closed: it has the records that its types refer to, and those
only, each of them behind one that refers to it. -/
theorem toGraph_closed {d : Document} {topLevel : Json} {g : TypeGraph}
    (h : (d.toGraph topLevel).1 = .ok g) :
    g.Closed ∧ ∀ key, key ∈ g.keys ↔ g.Reachable key := by
  obtain ⟨own, t, b, -, hwalk, hkind, rfl⟩ := returns_toGraph h
  obtain ⟨new, hnew⟩ := Convert.walk_finds d _ hwalk
  obtain ⟨key, hkey, hfirst⟩ := hnew.first hkind
  -- there are no records before the walk, so the object is the first of the new ones
  replace hfirst : (new.map Record.key).head? = some key := by
    rcases hfirst with hold | hfirst
    · simp [Builder.opening, TypeGraph.keys, TypeGraph.empty] at hold
    · exact hfirst
  have hrecords : b.graph.records = new := by
    simpa [Builder.opening, TypeGraph.empty] using hnew.leads.records
  have hclosed : ({ b.graph with topLevel := t.record } : TypeGraph).Closed := by
    refine ⟨?_, ?_, ⟨key, hkey, ?_⟩, ?_⟩
    · exact hrecords ▸ hnew.leads.wellFormed
    · intro r hr p hp
      have hr : r ∈ new := hrecords ▸ hr
      refine (hnew.leads.wellFormed r hr p hp).resolvesIn fun key hkey => ?_
      exact hnew.leads.resolved key (.inr ⟨r, hr, p, hp, hkey⟩)
    · rw [← hfirst, ← hrecords]
      rfl
    · intro pre r post hsplit hpre
      have hsplit : new = pre ++ r :: post := hrecords ▸ hsplit
      rcases hnew.leads.discovered pre r post hsplit with hrefers | hrefers
      · -- the object refers to the first record only, and no key occurs twice
        have hsame : key = r.key :=
          Option.some.inj (hkey.symm.trans (hnew.wellFormed.record_eq hkind hrefers))
        obtain ⟨q, pre, rfl⟩ := List.exists_cons_of_ne_nil hpre
        have hq : q.key = r.key := by simpa [hsplit, hsame] using hfirst
        have hnodup := b.graph.keys_nodup
        rw [hrecords, hsplit, List.cons_append, List.map_cons, List.nodup_cons] at hnodup
        refine absurd ?_ hnodup.1
        rw [hq]
        exact List.mem_map_of_mem (List.mem_append_right _ List.mem_cons_self)
      · exact hrefers
  exact ⟨hclosed, hclosed.mem_keys_iff⟩

/-- A document whose records refer to themselves and to each other, through lists, maps, parts and
alternatives. -/
def family : Document where
  root := .obj
    [("properties", .obj
      [("children", .obj [("type", .str "array"), ("items", .obj [("$ref", .str "#")])]),
        ("pets", .obj [("additionalProperties", .obj [("$ref", .str "#/definitions/pet")]),
          ("type", .str "object")]),
        ("home", .obj [("oneOf", .arr
          [.obj [("type", .str "null")], .obj [("properties", .obj [])]])])]),
      ("definitions", .obj
        [("pet", .obj [("allOf", .arr [.obj [("properties", .obj
            [("owner", .obj [("$ref", .str "#")]),
              ("friend", .obj [("$ref", .str "#/definitions/pet")])])]]),
            ("type", .str "object")])])]

/-- The theorem at a document with recursive records, with the keys of its graph. -/
theorem toGraph_closed_family :
    ∃ g, (family.toGraph (.str "Person")).1 = .ok g ∧ g.keys = ["Person", "Pet", "PersonHome"] ∧
      g.Closed ∧ ∀ key, key ∈ g.keys ↔ g.Reachable key := by
  have hkeys : (family.toGraph (.str "Person")).1.toOption.map TypeGraph.keys =
      some ["Person", "Pet", "PersonHome"] := by decide
  obtain ⟨g, hg, hkeys⟩ := Option.map_eq_some_iff.mp hkeys
  have hgraph := toGraph_of_toOption hg
  exact ⟨g, hgraph, hkeys, toGraph_closed hgraph⟩

end Document

end SchemaStruct
