import SchemaStruct.Proofs.Schema.Termination

/-!
# Stray Faults

A document that cannot be converted is refused. But some values are used before anything checks
them: a reference that is no text is asked how it begins, a list of types is looked up, parts are
walked through whatever stands there. Such a value stops the conversion with a fault that is no
refusal, and so do schemas and parts that contain each other.

A stray fault belongs to one call: it is that of the schema which stands there, or that of the
record which the schema describes. So the conversion ends in a stray fault exactly if one of its
calls has it, or if the calls have no end; in all other cases there is a graph or a refusal.

## Main definitions

* `Fault.IsStray`: a fault that is no refusal;
* `Document.Strays`: the stray faults of a document;
* `Json.IsCareful`: a schema that no stray fault stops.

## Main results

* `Convert.callStops_walk_iff`: a walk stops at one of its calls or for want of fuel;
* `Document.returnsOrRefuses_iff`: the conversion ends in a graph or in a refusal unless it strays;
* `Document.returnsOrRefuses_of_careful`: it does so if all schemas that it gets to are careful;
* `Document.not_returnsOrRefuses_hook`: two documents for which it does not.
-/

namespace SchemaStruct

open Document Relation

/-- A fault that is no refusal of a document. -/
def Fault.IsStray (f : Fault) : Prop := ∀ cause, f ≠ .schema cause

/-- The value of a title, if there is one, is a text unless it counts as none. -/
def Document.IsTitle (title : Option Json) : Prop :=
  (Json.orNull title).truthy = true → ∃ s, Json.orNull title = .str s

/-- What a record needs of a node. -/
structure Node.IsCareful (n : Node) : Prop where
  /-- The title is a text. -/
  title : IsTitle (n.get? "title")
  /-- The required names can be looked up in a set. -/
  required : ∃ names, n.requiredNames = .ok names
  /-- The properties are those of an object, and their names make part of a key. -/
  listed : ∃ entries, n.listed = .ok entries ∧
    ∀ entry ∈ entries, ∃ suffix, TypeName.ofEntry entry.1 = .ok suffix

/-- A schema that can be read or is refused, and that describes no record that is stopped. -/
structure Json.IsCareful (root node : Json) : Prop where
  /-- The schema can be read or is refused, whatever it is said to describe. -/
  read : ∀ hint f, f.IsStray → Form.read root hint node ≠ .error f
  /-- The title is a text. -/
  title : IsTitle (node.get? "title")
  /-- What a record needs is there. -/
  record : ∀ {flat nullable}, Form.of root node = some ⟨.record flat, nullable⟩ → flat.IsCareful

namespace Convert

variable {d : Document} {w : Walk} {site : Site} {b : Builder} {f : Fault}

/-- The calls of a walk are its first one and those inside. -/
theorem exists_met_succ_iff {P : Nat → Call → Prop} {n : Nat} {c : Call} :
    (∃ m c', (m + 1, c') ∈ met d (n + 1) c ∧ P m c') ↔
      P n c ∨ ∃ c' ∈ calls d (walk d n) c, ∃ m c'', (m + 1, c'') ∈ met d n c' ∧ P m c'' := by
  constructor
  · rintro ⟨m, c', hmem, h⟩
    rcases List.mem_cons.mp hmem with heq | hmem
    · obtain ⟨hm, rfl⟩ := Prod.mk.inj heq
      obtain rfl := Nat.succ.inj hm
      exact .inl h
    · obtain ⟨c₁, hc₁, hmem⟩ := List.mem_flatMap.mp hmem
      exact .inr ⟨c₁, hc₁, m, c', hmem, h⟩
  · rintro (h | ⟨c₁, hc₁, m, c', hmem, h⟩)
    · exact ⟨n, c, List.mem_cons_self, h⟩
    · exact ⟨m, c', List.mem_cons_of_mem _ (List.mem_flatMap.mpr ⟨c₁, hc₁, hmem⟩), h⟩

/-- A walk stops at one of its calls, or where it runs out of fuel. -/
theorem callStops_walk_iff {n : Nat} {c : Call} (hc : c.Sound d.root) (hopen : c.Open) :
    CallStops (walk d n) f c ↔
      (∃ m c', (m + 1, c') ∈ met d n c ∧ CallTrips d (walk d m) c' f) ∨
        f = .endless ∧ ¬ Fits d n c := by
  -- the calls inside have less fuel, and they are sound and open in turn
  induction n generalizing c with
  | zero => simp [CallStops, walk, met, Fits]
  | succ n ih =>
    have hcalls : (∃ c' ∈ calls d (walk d n) c, CallStops (walk d n) f c') ↔
        ∃ c' ∈ calls d (walk d n) c,
          ((∃ m c'', (m + 1, c'') ∈ met d n c' ∧ CallTrips d (walk d m) c'' f) ∨
            f = .endless ∧ ¬ Fits d n c') := by
      refine exists_congr fun c' => and_congr_right fun hc' => ?_
      exact ih (sound_of_mem_calls (walk_sound d n) hc hc') (open_of_mem_calls hc')
    rw [walk, callStops_step_iff hc.1.keys_taken hopen, hcalls,
      exists_met_succ_iff (P := fun m c => CallTrips d (walk d m) c f), or_assoc]
    refine or_congr_right ?_
    simp only [and_or_left, exists_or, Fits, not_forall, and_left_comm, exists_and_left,
      exists_prop]

/-- A reference that leads nowhere is refused. -/
theorem resolve_ne_error (hf : f.IsStray) {root : Json} {r : String} :
    Pointer.resolve root r ≠ .error f := by
  unfold Pointer.resolve
  intro h
  split at h
  · cases h
  · split at h
    · cases h
      exact hf _ rfl
    · split at h
      · cases h
        exact hf _ rfl
      · cases h
      · cases h
        exact hf _ rfl

/-- No careful record is stopped where a text is suggested for its name. -/
theorem not_recordTrips {node : Node} (hnode : node.IsCareful) (hhint : ∃ s, site.hint = .str s) :
    ¬ RecordTrips w site b node f := by
  obtain ⟨names, hnames⟩ := hnode.required
  obtain ⟨entries, hentries, hkeys⟩ := hnode.listed
  intro h
  cases h with
  | name _ h =>
    obtain ⟨s, hs⟩ : ∃ s, nameSource (node.get? "title") site.hint = .str s := by
      unfold nameSource
      split
      · next htitle => exact hnode.title htitle
      · exact hhint
    rw [hs] at h
    cases h
  | required _ h =>
    rw [hnames] at h
    cases h
  | listed _ _ h =>
    rw [hentries] at h
    cases h
  | entry _ _ hlisted h =>
    obtain rfl := Except.ok.inj (hentries.symm.trans hlisted)
    obtain ⟨entry, hentry, h⟩ := h.exists_mem
    obtain ⟨suffix, hsuffix⟩ := hkeys entry hentry
    rw [h] at hsuffix
    cases hsuffix

/-- No careful schema is stopped by a stray fault where a text is suggested for a name. -/
theorem not_callTrips {c : Call} (hf : f.IsStray) (hnode : Json.IsCareful d.root c.node)
    (hhint : ∃ s, c.site.hint = .str s) : ¬ CallTrips d w c f := by
  intro h
  cases h with
  | schema h => exact hnode.read _ f hf h
  | @shape form hform h =>
    obtain ⟨shape, nullable⟩ := form
    cases shape with
    | record flat => exact not_recordTrips (hnode.record hform) hhint h
    | reference r => exact resolve_ne_error hf h.2.2
    | _ => exact h

/-- A text is suggested for a name at all calls if the titles of references are texts. -/
theorem hint_of_mem_calls {c c' : Call} (h : c' ∈ calls d w c)
    (htitle : IsTitle (c'.node.get? "title")) (hhint : ∃ s, c.site.hint = .str s) :
    ∃ s, c'.site.hint = .str s := by
  cases makes_of_mem_calls h with
  | inside _ _ _ hsuggested =>
    rcases hsuggested with htext | ⟨hsame, -⟩
    · exact htext
    · exact hsame ▸ hhint
  | property _ _ _ _ hcall =>
    obtain ⟨-, s, hsite⟩ := mem_of_mem_propertyCalls hcall
    exact ⟨s, by rw [hsite]⟩
  | target _ _ _ _ =>
    dsimp only [Site.target]
    split
    · next htruthy => exact htitle htruthy
    · exact ⟨_, rfl⟩

end Convert

namespace Document

variable {d : Document} {topLevel : String} {f : Fault}

/-- The conversion of a document ends in a stray fault where the walk does. -/
theorem toGraph_stops_iff (hf : f.IsStray) :
    (d.toGraph (.str topLevel)).1 = .error f ↔
      Convert.CallStops (Convert.walk d (Convert.fuel d.root)) f
        (d.openingCall (.str topLevel) (TypeName.ofText topLevel)) := by
  rw [toGraph_eq_error_iff_stops]
  by_cases hroot : ∃ member members, d.root = .obj (member :: members)
  · obtain ⟨member, members, hroot⟩ := hroot
    have hkey : TypeName.ofValue (.str topLevel) = .ok (TypeName.ofText topLevel) := rfl
    simp [stops_collect_iff hroot, hkey, hf _]
  · -- a document that is not walked is refused by the walk too
    have hroot : ∀ member members, d.root ≠ .obj (member :: members) := by simpa using hroot
    refine iff_of_false (fun h => ?_) (fun h => ?_)
    · obtain ⟨cause, rfl, -⟩ := schema_of_stops_collect hroot h
      exact hf cause rfl
    · obtain ⟨n, hn⟩ : ∃ n, Convert.fuel d.root = n + 1 :=
        Nat.exists_eq_succ_of_ne_zero (by simp [Convert.fuel])
      simp only [hn, Convert.CallStops, Convert.walk, Convert.step, openingCall] at h
      split at h
      · exact not_stops_pure h
      · exact not_stops_pure h
      · next members hmembers heq =>
        cases members with
        | nil => exact hmembers rfl
        | cons member members => exact hroot member members heq
      · exact hf _ (stops_throw_iff.mp h)

/-- Whether the conversion of the document ends in a graph or is refused. -/
def ReturnsOrRefuses (d : Document) (topLevel : String) : Prop :=
  (∃ g, (d.toGraph (.str topLevel)).1 = .ok g) ∨
    ∃ cause, (d.toGraph (.str topLevel)).1 = .error (.schema cause)

/-- What the conversion of a document strays into: the fault of a call by itself, or no end. -/
inductive Strays (d : Document) (topLevel : String) : Fault → Prop
  | call {n : Nat} {c : Call} {f : Fault} (hmet : (n + 1, c) ∈ d.met (.str topLevel))
      (h : Convert.CallTrips d (Convert.walk d n) c f) : Strays d topLevel f
  | endless (h : ¬ Convert.Fits d (Convert.fuel d.root)
      (d.openingCall (.str topLevel) (TypeName.ofText topLevel))) : Strays d topLevel .endless

/-- A fault of the conversion that is no refusal is that of a call by itself, or there is no end. -/
theorem toGraph_eq_error_iff (hf : f.IsStray) :
    (d.toGraph (.str topLevel)).1 = .error f ↔ d.Strays topLevel f := by
  rw [toGraph_stops_iff hf, Convert.callStops_walk_iff (d.sound_openingCall _ _)
    (d.open_openingCall _ _)]
  constructor
  · rintro (⟨n, c, hmet, h⟩ | ⟨rfl, h⟩)
    · exact .call hmet h
    · exact .endless h
  · intro h
    cases h with
    | call hmet h => exact .inl ⟨_, _, hmet, h⟩
    | endless h => exact .inr ⟨rfl, h⟩

/-- The conversion of a document ends in a graph or is refused unless it strays, and if it does then
the fault is what it ends in. -/
theorem returnsOrRefuses_iff (d : Document) (topLevel : String) :
    (d.ReturnsOrRefuses topLevel ↔ ∀ f, f.IsStray → ¬ d.Strays topLevel f) ∧
      ∀ f, f.IsStray → ((d.toGraph (.str topLevel)).1 = .error f ↔ d.Strays topLevel f) := by
  refine ⟨?_, fun f hf => toGraph_eq_error_iff hf⟩
  constructor
  · rintro (⟨g, hg⟩ | ⟨cause, hcause⟩) f hf hstrays
    · rw [← toGraph_eq_error_iff hf, hg] at hstrays
      cases hstrays
    · rw [← toGraph_eq_error_iff hf, hcause] at hstrays
      cases hstrays
      exact hf _ rfl
  · intro h
    cases hresult : (d.toGraph (.str topLevel)).1 with
    | ok g => exact .inl ⟨g, hresult⟩
    | error f =>
      by_cases hf : f.IsStray
      · exact absurd ((toGraph_eq_error_iff hf).mp hresult) (h f hf)
      · obtain ⟨cause, rfl⟩ : ∃ cause, f = .schema cause := by simpa [Fault.IsStray] using hf
        exact .inr ⟨cause, hresult⟩

/-- The conversion of a careful document ends in a graph or is refused: nothing stops a schema that
the walk gets to, and none is inside of itself. -/
theorem returnsOrRefuses_of_careful
    (hcareful : ∀ node, Reaches d.root node → Json.IsCareful d.root node)
    (hacyclic : ∀ node, Reaches d.root node → ¬ TransGen (Holds d.root) node node) :
    d.ReturnsOrRefuses topLevel := by
  refine (returnsOrRefuses_iff d topLevel).1.mpr fun f hf hstrays => ?_
  cases hstrays with
  | @call n c _ hmet h =>
    -- the walk gets to the schema of the call, and a text is suggested there
    obtain ⟨hwithin, hhint⟩ : Convert.Within d.root c ∧ ∃ s, c.site.hint = .str s := by
      refine Convert.of_mem_met (P := fun c => Convert.Within d.root c ∧ ∃ s, c.site.hint = .str s)
        (fun _ c c' hc hc' => ?_) ⟨d.within_openingCall _ _, topLevel, rfl⟩ hmet
      have hwithin := hc.1.call hc'
      exact ⟨hwithin, Convert.hint_of_mem_calls hc' (hcareful _ hwithin.reaches).title hc.2⟩
    exact Convert.not_callTrips hf (hcareful _ hwithin.reaches) hhint h
  | endless h => exact h (Convert.fits_of_within hacyclic (d.within_openingCall _ _))

/-- A document with a reference that is a number. -/
def hook : Document where
  root := .obj [("properties", .obj [("a", .obj [("$ref", .int 5)])])]

/-- A document that is a part of itself. -/
def knot : Document where
  root := .obj [("allOf", .arr [refNode "#"])]

/-- Neither does a careless value end in a refusal, nor does a part that contains itself. -/
theorem not_returnsOrRefuses_hook :
    (hook.toGraph (.str "Root")).1 = .error (.misfit (.lacks "int" "startswith")) ∧
      (knot.toGraph (.str "Root")).1 = .error .endless ∧
      ¬ hook.ReturnsOrRefuses "Root" ∧ ¬ knot.ReturnsOrRefuses "Root" := by
  have hhook : (hook.toGraph (.str "Root")).1 = .error (.misfit (.lacks "int" "startswith")) := by
    rfl
  have hknot : (knot.toGraph (.str "Root")).1 = .error .endless := by
    rfl
  refine ⟨hhook, hknot, ?_, ?_⟩
  · simp [ReturnsOrRefuses, hhook]
  · simp [ReturnsOrRefuses, hknot]

end Document

end SchemaStruct
