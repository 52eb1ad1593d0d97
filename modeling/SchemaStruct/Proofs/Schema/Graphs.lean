import SchemaStruct.Proofs.Schema.Layers

/-!
# References between Records

A record refers to the records of its properties' types. The records that can be reached from the
document's own record by such references are those that generated code needs.

## Main definitions

* `Record.RefersTo`: a property has a type that refers to the record;
* `TypeGraph.Reachable`: a chain of references leads from the document's own record to the record;
* `TypeGraph.Closed`: the graph has all records that its types refer to, and no others.

## Main results

* `TypeGraph.records_add` and `TypeGraph.records_replace`: taking a place and filling it;
* `TypeGraph.Closed.mem_keys_iff`: the keys of a closed graph are those that can be reached.
-/

namespace SchemaStruct

/-- A property of the record has a type that refers to the record of that key. -/
def Record.RefersTo (r : Record) (key : String) : Prop :=
  ∃ p ∈ r.properties, p.type.RefersTo key

namespace TypeGraph

/-- Only a record whose key is not there can be added, and it stands behind all others. -/
theorem records_add {g g' : TypeGraph} {r : Record} (h : g.add r = .ok g') :
    r.key ∉ g.keys ∧ g'.records = g.records ++ [r] := by
  unfold add at h
  split at h
  · cases h
  · next hnot =>
    obtain rfl := Except.ok.inj h
    exact ⟨hnot, rfl⟩

/-- Filling the place of a record leaves all other places alone. -/
theorem records_replace {g : TypeGraph} {pre post : List Record} {q r : Record}
    (h : g.records = pre ++ q :: post) (hkey : q.key = r.key) :
    (g.replace r).records = pre ++ r :: post := by
  have hnodup := g.keys_nodup
  rw [h, List.map_append, List.map_cons, List.nodup_append] at hnodup
  obtain ⟨-, hpost, hpre⟩ := hnodup
  have hother : ∀ x ∈ pre ++ post, x.key ≠ r.key := by
    intro x hx heq
    rcases List.mem_append.mp hx with hx | hx
    · exact hpre x.key (List.mem_map_of_mem hx) q.key List.mem_cons_self (heq.trans hkey.symm)
    · exact (List.nodup_cons.mp hpost).1 (hkey ▸ heq ▸ List.mem_map_of_mem hx)
  have hsame : ∀ l : List Record, l ⊆ pre ++ post →
      l.map (fun x => if x.key = r.key then r else x) = l := by
    intro l hl
    refine (List.map_congr_left fun x hx => ?_).trans (List.map_id l)
    exact if_neg (hother x (hl hx))
  show g.records.map (fun x => if x.key = r.key then r else x) = _
  rw [h, List.map_append, List.map_cons, if_pos hkey, hsame pre (List.subset_append_left _ _),
    hsame post (List.subset_append_right _ _)]

/-- A chain of references leads from the document's own record to the record of that key. -/
inductive Reachable (g : TypeGraph) : String → Prop
  | top {key : String} (h : g.topLevel = some key) : Reachable g key
  | step {r : Record} {key : String} (h : Reachable g r.key) (hr : r ∈ g.records)
      (hkey : r.RefersTo key) : Reachable g key

/-- The graph has all records that its types refer to, the document's own one first, and every
other record behind one that refers to it. -/
structure Closed (g : TypeGraph) : Prop where
  /-- The types of all properties have records and items where they need them. -/
  wellFormed : ∀ r ∈ g.records, ∀ p ∈ r.properties, p.type.WellFormed
  /-- All objects in the types of properties have records of the graph. -/
  resolved : g.Resolved
  /-- The document's own record is the first one. -/
  first : ∃ key, g.topLevel = some key ∧ g.keys.head? = some key
  /-- Every other record stands behind a record that refers to it. -/
  discovered : ∀ pre r post, g.records = pre ++ r :: post → pre ≠ [] →
    ∃ q ∈ pre, q.RefersTo r.key

/-- The keys of a closed graph are those that can be reached. -/
theorem Closed.mem_keys_iff {g : TypeGraph} (hg : g.Closed) (key : String) :
    key ∈ g.keys ↔ g.Reachable key := by
  obtain ⟨own, htop, hfirst⟩ := hg.first
  constructor
  · intro hkey
    obtain ⟨r, hr, rfl⟩ := List.mem_map.mp hkey
    obtain ⟨pre, post, hsplit⟩ := List.append_of_mem hr
    -- the records in front of a record are reached before it
    induction hlength : pre.length using Nat.strongRecOn generalizing pre r post with
    | ind n ih =>
      by_cases hpre : pre = []
      · subst hpre
        have : own = r.key := by
          rw [keys, hsplit] at hfirst
          simpa using hfirst.symm
        exact .top (this ▸ htop)
      · obtain ⟨q, hq, hrefers⟩ := hg.discovered pre r post hsplit hpre
        obtain ⟨pre', post', rfl⟩ := List.append_of_mem hq
        have hqrecords : q ∈ g.records := by
          rw [hsplit]
          exact List.mem_append_left _ hq
        refine .step (ih pre'.length ?_ q hqrecords (List.mem_map_of_mem hqrecords) pre'
          (post' ++ r :: post) ?_ rfl) hqrecords hrefers
        · rw [← hlength]
          simp
        · simpa using hsplit
  · intro h
    induction h with
    | top h =>
      obtain rfl : own = _ := Option.some.inj (htop.symm.trans h)
      exact List.mem_of_head? hfirst
    | @step r key _ hr hkey _ =>
      obtain ⟨p, hp, u, hu, hkind, hrecord⟩ := hkey
      obtain ⟨key', hmem, hrecord'⟩ := hg.resolved r hr p hp u hu hkind
      obtain rfl : key' = key := Option.some.inj (hrecord'.symm.trans hrecord)
      exact hmem

end TypeGraph

end SchemaStruct
