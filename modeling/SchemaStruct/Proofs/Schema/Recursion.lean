import SchemaStruct.Proofs.Schema.References

/-!
# Recursive References

A reference that is met inside of its own expansion has no finite type unless a record stands for
it. What stands for a reference is a record if the reference points to the schema of that record,
and nothing else: whether some other record has been opened since the expansion began makes no
difference. So a cycle of references through a record is cut wherever it is entered by a reference
that points to something around the record, such as a list of its values.

## Main definitions

* `Visit`: a call, with the calls that it is made inside of;
* `Visit.cut?`: the reference that the walk does not follow at a visit;
* `Visit.since`: the calls since the expansion of a reference began;
* `Document.CutsRecordFree`: no record has been opened since the expansion of a reference began that
  is not followed.

## Main results

* `Convert.map_visits`: the visits are those of the calls of a walk;
* `Convert.entered_of_mem_visits`: a reference that is being expanded led to a call around;
* `Document.cut_iff_not_isRecordRef`: which references are not followed, and what they give;
* `Document.not_cutsRecordFree_braid`: one of them may come back through a record.
-/

namespace SchemaStruct

open Document

/-- A call of the conversion, where it stands among the others. -/
structure Visit where
  /-- The fuel that the call has. -/
  fuel : Nat
  /-- The call. -/
  call : Call
  /-- The calls that it is made inside of, the innermost one first. -/
  outer : List Call

/-- Whether the schema that stands at the call describes the values of a record, which is opened
before anything inside is walked. -/
def Call.opensRecord (d : Document) (c : Call) : Bool :=
  match Form.of d.root c.node with
  | some ⟨.record _, _⟩ => true
  | _ => false

namespace Visit

/-- The reference that is not followed because it is being expanded: no record stands for it. -/
def cut? (d : Document) (v : Visit) : Option String :=
  match Form.of d.root v.call.node with
  | some ⟨.reference r, _⟩ =>
    if (v.call.before.record? r).isNone ∧ r ∈ v.call.site.pending then some r else none
  | _ => none

/-- The call and those around it, up to the one that the reference led to. -/
def since (v : Visit) (r : String) : List Call :=
  let path := v.call :: v.outer
  path.take (path.findIdx (·.site.reference = some r) + 1)

end Visit

namespace Convert

/-- All calls of a walk that is made inside of the calls `outer`. -/
def visits (d : Document) : Nat → List Call → Call → List Visit
  | 0, _, _ => []
  | n + 1, outer, c =>
    ⟨n + 1, c, outer⟩ :: (calls d (walk d n) c).flatMap (visits d n (c :: outer))

variable {d : Document} {w : Walk} {n : Nat} {outer : List Call} {c c' : Call} {v : Visit}

/-- The visits of a walk are those of its calls. -/
theorem map_visits (d : Document) (n : Nat) (outer : List Call) (c : Call) :
    (visits d n outer c).map (fun v => (v.fuel, v.call)) = met d n c := by
  induction n generalizing outer c with
  | zero => rfl
  | succ n ih => simp only [visits, met, List.map_cons, List.map_flatMap, ih]

/-- The references that are being expanded have led to a call or to one around it. -/
def Entered (root : Json) (outer : List Call) (c : Call) : Prop :=
  ∀ r ∈ c.site.pending, ∃ e ∈ c :: outer, e.site.reference = some r ∧
    Pointer.resolve root r = .ok e.node

/-- The properties of a record are walked inside of the same expansions. -/
theorem pending_of_mem_propertyCalls {site : Site} {key : String}
    {entries : List (EntryName × Json)} {b : Builder}
    (h : c' ∈ propertyCalls w site key entries b) : c'.site.pending = site.pending := by
  induction entries generalizing b with
  | nil => simp [propertyCalls] at h
  | cons entry entries ih =>
    obtain ⟨name, schema⟩ := entry
    unfold propertyCalls at h
    split at h
    · simp at h
    · rcases List.mem_cons.mp h with rfl | h
      · rfl
      · split at h
        · exact ih h
        · simp at h

/-- A call is made inside of the same expansions, or of one more that leads to it. -/
theorem pending_of_mem_calls (h : c' ∈ calls d w c) :
    c'.site.pending = c.site.pending ∨ ∃ r, c'.site.pending = r :: c.site.pending ∧
      c'.site.reference = some r ∧ Pointer.resolve d.root r = .ok c'.node := by
  unfold calls at h
  split at h
  · next form _ =>
    obtain ⟨shape, nullable⟩ := form
    cases shape with
    | scalar kind => simp [shapeCalls] at h
    | list items =>
      cases items with
      | none => simp [shapeCalls] at h
      | some items =>
        obtain rfl := List.mem_singleton.mp h
        exact .inl rfl
    | map values =>
      cases values with
      | none => simp [shapeCalls] at h
      | some values =>
        obtain rfl := List.mem_singleton.mp h
        exact .inl rfl
    | record node =>
      simp only [shapeCalls, recordCalls] at h
      split at h
      · exact .inl (pending_of_mem_propertyCalls h)
      · simp at h
    | reference r =>
      simp only [shapeCalls] at h
      split at h
      · simp at h
      · split at h
        · next target hresolve =>
          obtain rfl := List.mem_singleton.mp h
          exact .inr ⟨r, rfl, rfl, hresolve⟩
        · simp at h
    | alternative one =>
      obtain rfl := List.mem_singleton.mp h
      exact .inl rfl
  · simp at h

/-- A call inside has been entered by the references that are being expanded there. -/
theorem Entered.call (h : Entered d.root outer c) (hc : c' ∈ calls d w c) :
    Entered d.root (c :: outer) c' := by
  intro r hr
  rcases pending_of_mem_calls hc with heq | ⟨s, heq, hreference, hresolve⟩
  · obtain ⟨e, he, hled⟩ := h r (heq ▸ hr)
    exact ⟨e, List.mem_cons_of_mem _ he, hled⟩
  · rw [heq] at hr
    rcases List.mem_cons.mp hr with rfl | hr
    · exact ⟨c', List.mem_cons_self, hreference, hresolve⟩
    · obtain ⟨e, he, hled⟩ := h r hr
      exact ⟨e, List.mem_cons_of_mem _ he, hled⟩

/-- So has every visit of a walk. -/
theorem entered_of_mem_visits (h : Entered d.root outer c) (hv : v ∈ visits d n outer c) :
    Entered d.root v.outer v.call := by
  induction n generalizing outer c with
  | zero => simp [visits] at hv
  | succ n ih =>
    rcases List.mem_cons.mp hv with rfl | hv
    · exact h
    · obtain ⟨c', hc', hv⟩ := List.mem_flatMap.mp hv
      exact ih (h.call hc') hv

/-- What the walk makes of a reference inside of its own expansion: an object if a record stands for
it, and else the type that says nothing. -/
theorem returns_walk_of_mem_pending {r : String} {t : TypeRef} {b' : Builder} {nullable : Bool}
    (h : Returns (walk d n c.site c.node) c.before t b')
    (hform : Form.of d.root c.node = some ⟨.reference r, nullable⟩)
    (hpending : r ∈ c.site.pending) :
    (c.before.record? r = none ∧ t = TypeRef.any.withNullableIf nullable ∧
        b' = c.before.noted [.recursiveReference r]) ∨
      ∃ key, c.before.record? r = some key ∧ t = (TypeRef.object key).withNullableIf nullable ∧
        b' = c.before := by
  obtain ⟨m, rfl, form, u, hform', hgives, rfl⟩ := returns_walk h
  obtain rfl := Option.some.inj (hform.symm.trans hform')
  cases hgives with
  | known hknown => exact .inr ⟨_, hknown, rfl, rfl⟩
  | cut hknown _ => exact .inl ⟨hknown, rfl, rfl⟩
  | target _ hnot _ _ => exact absurd hpending hnot

end Convert

namespace Document

/-- All calls of the conversion of a document, each with the calls that it is made inside of. -/
def visits (d : Document) (topLevel : Json) : List Visit :=
  match TypeName.ofValue topLevel with
  | .ok key => Convert.visits d (Convert.fuel d.root) [] (d.openingCall topLevel key)
  | .error _ => []

variable {d : Document} {topLevel : Json} {g : TypeGraph} {v : Visit} {r : String}

/-- The visits of a conversion are those of its calls. -/
theorem map_visits (d : Document) (topLevel : Json) :
    (d.visits topLevel).map (fun v => (v.fuel, v.call)) = d.met topLevel := by
  unfold visits met
  cases TypeName.ofValue topLevel with
  | error f => rfl
  | ok key => exact Convert.map_visits d _ [] _

/-- A reference that is being expanded at a visit has led to a call around it, or to itself. -/
theorem entered_of_mem_visits (hv : v ∈ d.visits topLevel) :
    Convert.Entered d.root v.outer v.call := by
  unfold visits at hv
  split at hv
  · refine Convert.entered_of_mem_visits ?_ hv
    intro r hr
    simp [openingCall, Site.opening] at hr
  · simp at hv

/-- A reference inside of its own expansion is not followed if it points to something else than the
schema of a record, and gives the type that says nothing, whatever has been opened since the
expansion began. If it points to the schema of a record, then it gives an object of that record. -/
theorem cut_iff_not_isRecordRef (hg : (d.toGraph topLevel).1 = .ok g)
    (hv : v ∈ d.visits topLevel) (hr : v.call.node.get? "$ref" = some (.str r))
    (hpending : r ∈ v.call.site.pending) :
    (v.cut? d = some r ↔ ¬ IsRecordRef d.root r) ∧
      (∃ e ∈ v.call :: v.outer, e.site.reference = some r ∧
        Pointer.resolve d.root r = .ok e.node) ∧
      (¬ IsRecordRef d.root r → v.call.run (Convert.walk d v.fuel) =
        (.ok .any, v.call.before.noted [.recursiveReference r])) ∧
      (IsRecordRef d.root r → ∃ key, v.call.before.record? r = some key ∧
        v.call.run (Convert.walk d v.fuel) = (.ok (.object key), v.call.before)) := by
  have hmet : (v.fuel, v.call) ∈ d.met topLevel := by
    rw [← map_visits]
    exact List.mem_map_of_mem hv
  obtain ⟨b, hall⟩ := exists_returns_of_mem_met hg
  obtain ⟨⟨hb, hsite⟩, t, after, hreturns, -⟩ := hall _ _ hmet
  have hform : Form.of d.root v.call.node = some ⟨.reference r, false⟩ := Form.of_reference hr
  -- the record of a reference that is being expanded is there already
  have hopened : v.call.site.Opened d.root v.call.before := hsite.opened hform (by simp)
  have hknown : (∃ key, v.call.before.record? r = some key) ↔ IsRecordRef d.root r :=
    ⟨fun ⟨key, hkey⟩ => hb.isRecordRef r key hkey, hopened r hpending⟩
  have hcut : v.cut? d = some r ↔ v.call.before.record? r = none := by
    simp [Visit.cut?, hform, hpending]
  refine ⟨?_, entered_of_mem_visits hv r hpending, fun hrecord => ?_, fun hrecord => ?_⟩
  · rw [hcut, ← hknown, ← Option.isSome_iff_exists, Option.not_isSome_iff_eq_none]
  · rcases Convert.returns_walk_of_mem_pending hreturns hform hpending with
      ⟨-, rfl, rfl⟩ | ⟨key, hkey, -, -⟩
    · exact hreturns
    · exact absurd (hknown.mp ⟨key, hkey⟩) hrecord
  · rcases Convert.returns_walk_of_mem_pending hreturns hform hpending with
      ⟨hnone, -, -⟩ | ⟨key, hkey, rfl, rfl⟩
    · obtain ⟨key, hkey⟩ := hknown.mpr hrecord
      rw [hnone] at hkey
      cases hkey
    · exact ⟨key, hkey, hreturns⟩

/-- Whether no record has been opened since the expansion of a reference began that is not
followed. -/
def CutsRecordFree (d : Document) (topLevel : Json) : Prop :=
  ∀ v ∈ d.visits topLevel,
    (v.cut? d).all fun r => (v.since r).all fun c => !c.opensRecord d

instance (d : Document) (topLevel : Json) : Decidable (d.CutsRecordFree topLevel) :=
  inferInstanceAs (Decidable (∀ v ∈ d.visits topLevel,
    (v.cut? d).all fun r => (v.since r).all fun c => !c.opensRecord d))

/-- A document with a list of records that refer to the list and to themselves. -/
def braid : Document where
  root := .obj
    [("properties", .obj [("a", refNode "#/definitions/loop")]),
      ("definitions", .obj
        [("loop", .obj [("type", .str "array"), ("items", refNode "#/definitions/node")]),
          ("node", .obj [("properties", .obj
            [("next", refNode "#/definitions/loop"),
              ("twin", refNode "#/definitions/node")])])])]

/-- The theorem at a reference to a list inside of that list, and at one to a record inside of that
record. -/
theorem cut_iff_not_isRecordRef_braid :
    ∃ g, (braid.toGraph (.str "Root")).1 = .ok g ∧
      (∃ v ∈ braid.visits (.str "Root"), v.cut? braid = some "#/definitions/loop" ∧
        "#/definitions/loop" ∈ v.call.site.pending ∧
        v.call.run (Convert.walk braid v.fuel) =
          (.ok .any, v.call.before.noted [.recursiveReference "#/definitions/loop"])) ∧
      ∃ v ∈ braid.visits (.str "Root"), "#/definitions/node" ∈ v.call.site.pending ∧
        ∃ key, v.call.before.record? "#/definitions/node" = some key ∧
          v.call.run (Convert.walk braid v.fuel) = (.ok (.object key), v.call.before) := by
  have hsome : (braid.toGraph (.str "Root")).1.toOption.isSome := by decide
  obtain ⟨g, hg⟩ := Option.isSome_iff_exists.mp hsome
  have hgraph := toGraph_of_toOption hg
  have hvisit : ∀ r ∈ ["#/definitions/loop", "#/definitions/node"],
      ∃ v ∈ braid.visits (.str "Root"),
        (v.call.node.get? "$ref").bind Json.text? = some r ∧ r ∈ v.call.site.pending := by decide
  have href {v : Visit} {r : String} (h : (v.call.node.get? "$ref").bind Json.text? = some r) :
      v.call.node.get? "$ref" = some (.str r) := by
    obtain ⟨ref, href, htext⟩ := Option.bind_eq_some_iff.mp h
    cases ref with
    | str s => exact Option.some.inj htext ▸ href
    | _ => cases htext
  -- the one points to the schema of a list, the other to that of a record
  have hloop : ¬ IsRecordRef braid.root "#/definitions/loop" := by
    rintro ⟨target, flat, nullable, hresolve, hform⟩
    obtain rfl := Except.ok.inj hresolve
    cases hform
  have hnode : IsRecordRef braid.root "#/definitions/node" := ⟨_, _, _, rfl, rfl⟩
  obtain ⟨v, hv, hr, hpending⟩ := hvisit "#/definitions/loop" (by simp)
  obtain ⟨v', hv', hr', hpending'⟩ := hvisit "#/definitions/node" (by simp)
  obtain ⟨hcut, -, hany, -⟩ := cut_iff_not_isRecordRef hgraph hv (href hr) hpending
  obtain ⟨-, -, -, hobject⟩ := cut_iff_not_isRecordRef hgraph hv' (href hr') hpending'
  exact ⟨g, hgraph, ⟨v, hv, hcut.mpr hloop, hpending, hany hloop⟩,
    v', hv', hpending', hobject hnode⟩

/-- A reference that comes back to itself through a record is not followed either, and the record's
property has a type that says nothing. -/
theorem not_cutsRecordFree_braid :
    (braid.toGraph (.str "Root")).1.toOption.map (fun g => g.records.map fun r =>
        (r.key, r.properties.map fun p => (p.name, p.type.kind))) =
      some [("Root", [("a", .array)]), ("Node", [("next", .any), ("twin", .object)])] ∧
      ¬ braid.CutsRecordFree (.str "Root") :=
  ⟨by decide, by decide⟩

end Document

end SchemaStruct
