import SchemaStruct.Proofs.Schema.Inside
import SchemaStruct.Proofs.Schema.Stops

/-!
# What Documents Are Refused For

A document may be careless: values stand where others belong, references lead nowhere, parts
contain each other. Every fault of the conversion is one of these. A second record of one key is
none of them, since the place of a record can always be taken.

What a call checks by itself hardly depends on what has been collected, so `Call.RefusedBy` is
about the schema and the place where it stands. A walk ends in the faults that its calls are refused
for, and in no others.

## Main definitions

* `Document.Misuse` and `Document.Refusal`: the faults of careless values and of careless documents;
* `Call.RefusedBy`: what a call checks by itself is refused for faults of one sort.

## Main results

* `Convert.CallTrips.sort`: what stops a call by itself is what the call is refused for;
* `Convert.step_failsBy_of_calls`: a step fails by what its call is refused for, or where a walk
  inside does;
* `Convert.walk_failsBy_of_calls`: a walk fails by what its calls are refused for;
* `Convert.walk_failsBy`: all faults of a walk are refusals;
* `Document.refusal_of_toGraph`: so are all faults of the conversion of a document.
-/

namespace SchemaStruct

/-- The faults of careless values: a value does not fit, an entry is no pair, or a schema is none or
refers to none. -/
inductive Document.Misuse : Fault → Prop
  | misfit (cause : Misfit) : Misuse (.misfit cause)
  | pairLength (index length : Nat) : Misuse (.value (.pairLength index length))
  | schema {cause : SchemaFault} (hduplicate : ∀ key, cause ≠ .duplicateRecord key)
      (hunknown : ∀ key, cause ≠ .unknownRecord key) : Misuse (.schema cause)

/-- The faults of careless documents: a value does not fit, an entry is no pair, a schema is none or
refers to none, or parts contain each other. -/
inductive Document.Refusal : Fault → Prop
  | misfit (cause : Misfit) : Refusal (.misfit cause)
  | pairLength (index length : Nat) : Refusal (.value (.pairLength index length))
  | schema {cause : SchemaFault} (hduplicate : ∀ key, cause ≠ .duplicateRecord key)
      (hunknown : ∀ key, cause ≠ .unknownRecord key) : Refusal (.schema cause)
  | endless : Refusal .endless

open Document

/-- Careless values make careless documents. -/
theorem Document.Misuse.refusal {f : Fault} (h : Misuse f) : Refusal f := by
  cases h with
  | misfit cause => exact .misfit cause
  | pairLength index length => exact .pairLength index length
  | schema hduplicate hunknown => exact .schema hduplicate hunknown

section

variable {f : Fault} {v : Json}

/-- Values that cannot be walked through are misfits. -/
theorem Json.misuse_of_walk (h : v.walk = .error f) : Misuse f := by
  unfold Json.walk at h
  split at h
  · cases h
  · cases h
    exact .misfit _

/-- Values that cannot be looked up in a set are misfits. -/
theorem Json.misuse_of_requireHashable (h : v.requireHashable = .error f) : Misuse f := by
  unfold Json.requireHashable at h
  split at h
  · cases h
  · cases h
    exact .misfit _

namespace Entries

/-- What a pair is refused for. -/
theorem misuse_of_ofPair {index : Nat} (h : ofPair index v = .error f) : Misuse f := by
  unfold ofPair at h
  split at h
  · cases h
    exact .misfit _
  · cases h
  · next name value _ =>
    rcases error_of_bind h with h | ⟨_, -, h⟩
    · exact Json.misuse_of_requireHashable h
    · cases h
  · cases h
    exact .pairLength _ _

/-- What a list of pairs is refused for. -/
theorem misuse_of_ofPairs {index : Nat} {vs : List Json} (h : ofPairs index vs = .error f) :
    Misuse f := by
  induction vs generalizing index with
  | nil => cases h
  | cons v vs ih =>
    rcases error_of_bind h with h | ⟨entry, -, h⟩
    · exact misuse_of_ofPair h
    · rcases error_of_bind h with h | ⟨rest, -, h⟩
      · exact ih h
      · cases h

end Entries

/-- What a value that stands for entries is refused for. -/
theorem Json.misuse_of_entries (h : v.entries = .error f) : Misuse f := by
  unfold Json.entries at h
  split at h
  · cases h
  · rcases error_of_bind h with h | ⟨items, -, h⟩
    · exact Json.misuse_of_walk h
    · exact Entries.misuse_of_ofPairs h

namespace Pointer

/-- What a reference is refused for. -/
theorem misuse_of_resolve {ref : String} (h : resolve v ref = .error f) : Misuse f := by
  unfold resolve at h
  split at h
  · cases h
  · split at h
    · cases h
      exact .schema (by simp) (by simp)
    · split at h
      · cases h
        exact .schema (by simp) (by simp)
      · cases h
      · cases h
        exact .schema (by simp) (by simp)

/-- What a value that stands for a reference is refused for. -/
theorem misuse_of_resolveValue {ref : Json} (h : resolveValue v ref = .error f) :
    Misuse f := by
  unfold resolveValue at h
  split at h
  · exact misuse_of_resolve h
  · cases h
    exact .misfit _

end Pointer

namespace TypeName

/-- What a value that stands for a name is refused for. -/
theorem misuse_of_ofValue (h : ofValue v = .error f) : Misuse f := by
  unfold ofValue at h
  split at h
  · cases h
  · rcases error_of_bind h with h | ⟨items, -, h⟩
    · exact Json.misuse_of_walk h
    · rcases error_of_bind h with h | ⟨parts, -, h⟩
      · obtain ⟨item, -, h⟩ := error_of_mapM h
        split at h
        · cases h
        · cases h
          exact .misfit _
      · cases h

/-- What the name of an entry is refused for. -/
theorem misuse_of_ofEntry {name : EntryName} (h : ofEntry name = .error f) : Misuse f := by
  cases name with
  | text s => cases h
  | other v => exact misuse_of_ofValue h

end TypeName

namespace Node

variable {n : Node}

/-- What the properties of a part are refused for. -/
theorem misuse_of_contributed (h : n.contributed = .error f) : Misuse f := by
  unfold contributed at h
  split at h
  · cases h
  · split at h
    · exact Json.misuse_of_entries h
    · cases h

/-- What the properties of a record are refused for. -/
theorem misuse_of_listed (h : n.listed = .error f) : Misuse f := by
  unfold listed at h
  split at h
  · cases h
  · split at h
    · cases h
    · cases h
      exact .misfit _
    · cases h

/-- What the required names are refused for. -/
theorem misuse_of_required (h : n.required = .error f) : Misuse f := by
  unfold required at h
  split at h
  · cases h
  · split at h
    · exact Json.misuse_of_walk h
    · cases h

/-- What the required names of a record are refused for. -/
theorem misuse_of_requiredNames (h : n.requiredNames = .error f) : Misuse f := by
  rcases error_of_bind h with h | ⟨values, -, h⟩
  · exact misuse_of_required h
  · rcases error_of_bind h with h | ⟨_, -, h⟩
    · obtain ⟨value, -, h⟩ := error_of_forM h
      exact Json.misuse_of_requireHashable h
    · cases h

/-- What a node is refused for where it contributes to a whole. -/
theorem misuse_of_addNode {g : Gathered} (h : g.addNode n = .error f) : Misuse f := by
  rcases error_of_bind h with h | ⟨properties, -, h⟩
  · exact misuse_of_contributed h
  · rcases error_of_bind h with h | ⟨required, -, h⟩
    · exact misuse_of_required h
    · cases h

/-- What a part stands for is refused for. -/
theorem misuse_of_partTarget {root : Json} {own : List (String × Json)}
    (h : partTarget root own = .error f) : Misuse f := by
  unfold partTarget at h
  split at h
  · exact Pointer.misuse_of_resolveValue h
  · cases h

/-- A part is misused, or the schema that it stands for has no flat form. -/
theorem misuse_of_addPart {document part : Json}
    {flat : List (String × Json) → Except Fault Node} {acc : List (String × Json) × Gathered}
    (h : addPart document flat acc part = .error f) :
    Misuse f ∨ ∃ own target, part = .obj own ∧ partTarget document own = .ok target ∧
      flat (target.members?.getD []) = .error f := by
  cases part with
  | obj own =>
    rw [addPart_obj] at h
    rcases error_of_bind h with h | ⟨target, htarget, h⟩
    · exact .inl (misuse_of_partTarget h)
    · rcases error_of_bind h with h | ⟨node, -, h⟩
      · exact .inr ⟨own, target, rfl, htarget, h⟩
      · rcases error_of_bind h with h | ⟨gathered, -, h⟩
        · exact .inl (misuse_of_addNode h)
        · cases h
  | _ => cases h

/-- The members of a schema with parts are misused, or one of the parts has no flat form. -/
theorem misuse_of_flattenWith {document : Json} {fuel : Nat} {members : List (String × Json)}
    (h : flattenWith document (fuel + 1) members = .error f) :
    Misuse f ∨ ∃ part, Merges document (.obj members) part ∧
      flattenWith document fuel (part.members?.getD []) = .error f := by
  unfold flattenWith at h
  split at h
  · cases h
  · next listed hlisted =>
    rcases error_of_bind h with h | ⟨items, hitems, h⟩
    · exact .inl (Json.misuse_of_walk h)
    · rcases error_of_bind h with h | ⟨acc, -, h⟩
      · obtain ⟨part, hpart, acc, h⟩ := error_of_foldlM h
        refine (misuse_of_addPart h).imp_right ?_
        rintro ⟨own, target, rfl, htarget, h⟩
        exact ⟨target, ⟨listed, items, own, hlisted, hitems, hpart, htarget⟩, h⟩
      · rcases error_of_bind h with h | ⟨gathered, -, h⟩
        · exact .inl (misuse_of_addNode h)
        · cases h

/-- What a schema with parts is refused for. -/
theorem refusal_of_flattenWith {document : Json} {fuel : Nat} {members : List (String × Json)}
    (h : flattenWith document fuel members = .error f) : Refusal f := by
  -- parts of parts have less fuel
  induction fuel generalizing members with
  | zero =>
    cases h
    exact .endless
  | succ fuel ih =>
    rcases misuse_of_flattenWith h with hmisuse | ⟨part, -, h⟩
    · exact hmisuse.refusal
    · exact ih h

end Node

/-- What a list of allowed values is refused for. -/
theorem Convert.misuse_of_enumeration (h : Convert.enumeration v = .error f) : Misuse f := by
  unfold Convert.enumeration at h
  split at h
  · cases h
  · rcases error_of_bind h with h | ⟨vs, -, h⟩
    · exact Json.misuse_of_walk h
    · cases h

namespace Form

variable {hint : String} {node : Node}

/-- What a node whose type is named is refused for. -/
theorem misuse_of_readTyped {type : Json} (h : readTyped hint node type = .error f) :
    Misuse f := by
  rcases error_of_bind h with h | ⟨_, -, h⟩
  · exact Json.misuse_of_requireHashable h
  · split at h
    · cases h
    · cases h
      exact .schema (by simp) (by simp)

/-- What a node without parts is refused for. -/
theorem misuse_of_readFlat (h : readFlat hint node = .error f) : Misuse f := by
  unfold readFlat at h
  split at h
  · rcases error_of_bind h with h | ⟨_, -, h⟩
    · exact Convert.misuse_of_enumeration h
    · cases h
  · split at h
    · dsimp only at h
      split at h
      · exact misuse_of_readTyped (error_of_map h)
      · cases h
    · exact misuse_of_readTyped h
    · exact misuse_of_readTyped h

/-- What a schema with a reference is refused for. -/
theorem misuse_of_readReference {ref : Json} (h : readReference ref = .error f) : Misuse f := by
  rcases error_of_bind h with h | ⟨_, -, h⟩
  · exact Json.misuse_of_requireHashable h
  · split at h
    · cases h
    · cases h
      exact .misfit _

/-- A schema that cannot be read is misused, or its parts have no flat form. -/
theorem misuse_of_read {root schema : Json} (h : read root hint schema = .error f) :
    Misuse f ∨ ∃ members, schema = .obj members ∧ schema.isMerged = true ∧
      Node.flatten root members = .error f := by
  unfold read at h
  split at h
  · cases h
  · cases h
  · next members _ =>
    split at h
    · exact .inl (misuse_of_readReference h)
    · next href =>
      split at h
      · exact .inl (Json.misuse_of_walk (error_of_map h))
      · next hlisted =>
        rcases error_of_bind h with h | ⟨flat, -, h⟩
        · exact .inr ⟨members, rfl, Json.isMerged_obj_iff.mpr ⟨href, hlisted⟩, h⟩
        · exact .inl (misuse_of_readFlat h)
  · cases h
    exact .inl (.schema (by simp) (by simp))

end Form

end

/-- What is checked about a record at a site is refused for faults of the sort only. -/
structure Node.RefusedBy (sort : Fault → Prop) (site : Site) (b : Builder) (n : Node) : Prop where
  /-- The value that the record is named after. -/
  name : site.reference.bind (b.bound.lookup ·) = none → ∀ f,
    TypeName.ofValue (nameSource (n.get? "title") site.hint) = .error f → sort f
  /-- The names of the required properties. -/
  required : ∀ f, n.requiredNames = .error f → sort f
  /-- The properties. -/
  listed : ∀ f, n.listed = .error f → sort f
  /-- The names of the properties. -/
  entries : ∀ es, n.listed = .ok es → ∀ entry ∈ es, ∀ f,
    TypeName.ofEntry entry.1 = .error f → sort f

/-- What a call checks by itself is refused for faults of the sort only. -/
structure Call.RefusedBy (sort : Fault → Prop) (root : Json) (c : Call) : Prop where
  /-- A schema that describes nothing. -/
  schema : Form.of root c.node = none → ∀ f, Misuse f → sort f
  /-- The parts of the schema. -/
  parts : ∀ members f, c.node = .obj members → c.node.isMerged = true →
    Node.flatten root members = .error f → sort f
  /-- The reference in the schema. -/
  reference : ∀ r nullable f, Form.of root c.node = some ⟨.reference r, nullable⟩ →
    Pointer.resolve root r = .error f → sort f
  /-- The record that the schema describes. -/
  record : ∀ flat nullable, Form.of root c.node = some ⟨.record flat, nullable⟩ →
    flat.RefusedBy sort c.site c.before

/-- All checks are refused for misuse, except for parts. -/
theorem Call.refusedBy_of_misuse {sort : Fault → Prop} (hsort : ∀ f, Misuse f → sort f)
    {root : Json} {c : Call}
    (hparts : ∀ members f, c.node = .obj members → c.node.isMerged = true →
      Node.flatten root members = .error f → sort f) : c.RefusedBy sort root where
  schema _ := hsort
  parts := hparts
  reference _ _ f _ h := hsort f (Pointer.misuse_of_resolve h)
  record _ _ _ :=
    { name := fun _ f h => hsort f (TypeName.misuse_of_ofValue h)
      required := fun f h => hsort f (Node.misuse_of_requiredNames h)
      listed := fun f h => hsort f (Node.misuse_of_listed h)
      entries := fun _ _ _ _ f h => hsort f (TypeName.misuse_of_ofEntry h) }

/-- The parts of a schema that describes something are gathered. -/
theorem Form.exists_flatten {root : Json} {members : List (String × Json)} {form : Form}
    (hform : Form.of root (.obj members) = some form)
    (hmerged : (Json.obj members).isMerged = true) :
    ∃ flat, Node.flatten root members = .ok flat := by
  by_cases hmembers : members = []
  · subst hmembers
    exact ⟨_, rfl⟩
  · obtain ⟨href, hlisted⟩ := Json.isMerged_obj_iff.mp hmerged
    rw [Form.of_flat hmembers href hlisted] at hform
    obtain ⟨flat, hflat, -⟩ := Option.bind_eq_some_iff.mp hform
    exact ⟨flat, ok_of_toOption hflat⟩

/-- A schema that describes something is refused for its reference or for its record only. -/
theorem Call.refusedBy_of_form {sort : Fault → Prop} {root : Json} {c : Call} {form : Form}
    (hform : Form.of root c.node = some form)
    (hreference : ∀ r, form.shape = .reference r → ∃ target, Pointer.resolve root r = .ok target)
    (hrecord : ∀ flat, form.shape = .record flat → flat.RefusedBy sort c.site c.before) :
    c.RefusedBy sort root where
  schema hnone := by
    rw [hform] at hnone
    cases hnone
  parts members f hnode hmerged h := by
    obtain ⟨flat, hflat⟩ := Form.exists_flatten (hnode ▸ hform) (hnode ▸ hmerged)
    rw [hflat] at h
    cases h
  reference r nullable f hr h := by
    obtain ⟨target, hresolve⟩ := hreference r (by rw [Option.some.inj (hform.symm.trans hr)])
    rw [hresolve] at h
    cases h
  record flat nullable hflat := hrecord flat (by rw [Option.some.inj (hform.symm.trans hflat)])

namespace Convert

section

variable {d : Document} {w : Walk}

/-- The calls for the properties of a record are sound if the record's place is taken. -/
theorem sound_of_mem_propertyCalls {root : Json} (hw : Keeps root w) {site : Site} {key : String}
    {entries : List (EntryName × Json)} {b : Builder} {c : Call} (hb : b.Sound root)
    (hopened : site.Opened root b) (h : c ∈ propertyCalls w site key entries b) :
    c.Sound root := by
  induction entries generalizing b with
  | nil => simp [propertyCalls] at h
  | cons entry entries ih =>
    obtain ⟨name, schema⟩ := entry
    unfold propertyCalls at h
    split at h
    · simp at h
    · next suffix _ =>
      dsimp only at h
      have hsite := hopened.sound (.str (key ++ suffix)) schema
      rcases List.mem_cons.mp h with rfl | h
      · exact ⟨hb, hsite⟩
      · -- the next property is found only behind one that returns
        split at h
        · next t after hrun =>
          obtain ⟨hb', hgrows⟩ := hw hrun hb hsite
          exact ih hb' (hopened.grows hgrows) h
        · simp at h

/-- The calls of a step are open. -/
theorem open_of_mem_calls {c c' : Call} (h : c' ∈ calls d w c) : c'.Open := by
  cases makes_of_mem_calls h with
  | inside _ _ _ _ => exact Call.open_of_none rfl
  | property _ _ _ _ hcall =>
    obtain ⟨-, s, hsite⟩ := mem_of_mem_propertyCalls hcall
    exact Call.open_of_none (by rw [hsite])
  | target _ hknown _ _ =>
    -- only a reference that does not stand for a record is expanded
    intro s hs
    obtain rfl := Option.some.inj hs
    exact hknown

/-- The calls of a step are sound, whether or not it returns. -/
theorem sound_of_mem_calls (hw : Keeps d.root w) {c c' : Call} (hc : c.Sound d.root)
    (h : c' ∈ calls d w c) : c'.Sound d.root := by
  obtain ⟨hb, hsite⟩ := hc
  cases makes_of_mem_calls h with
  | inside hform _ hrecord _ => exact ⟨hb, (hsite.opened hform hrecord).sound _ _⟩
  | property hform hopen _ _ hcall =>
    obtain ⟨hb', -, hopened, -⟩ := opened_sound hb (returns_openRecord hopen) hsite hform
    exact sound_of_mem_propertyCalls hw hb' hopened hcall
  | target hform _ _ hresolve => exact ⟨hb, (hsite.opened hform (by simp)).target hresolve⟩

/-- What stops a record by itself is what it is refused for. -/
theorem RecordTrips.sort {sort : Fault → Prop} {site : Site} {b : Builder} {node : Node} {f : Fault}
    (h : RecordTrips w site b node f) (hrefused : node.RefusedBy sort site b) : sort f := by
  cases h with
  | name hbound h => exact hrefused.name hbound f h
  | required _ h => exact hrefused.required f h
  | listed _ _ h => exact hrefused.listed f h
  | entry _ _ hlisted h =>
    obtain ⟨entry, hentry, h⟩ := h.exists_mem
    exact hrefused.entries _ hlisted entry hentry f h

/-- What stops a call by itself is what it is refused for. -/
theorem CallTrips.sort {sort : Fault → Prop} {c : Call} {f : Fault} (h : CallTrips d w c f)
    (hrefused : c.RefusedBy sort d.root) : sort f := by
  cases h with
  | schema h =>
    rcases Form.misuse_of_read h with hmisuse | ⟨members, hnode, hmerged, hflat⟩
    · refine hrefused.schema ?_ f hmisuse
      rw [← Form.toOption_read d.root c.site.hintText, h]
      rfl
    · exact hrefused.parts members f hnode hmerged hflat
  | @shape form hform h =>
    obtain ⟨shape, nullable⟩ := form
    cases shape with
    | record flat => exact RecordTrips.sort h (hrefused.record flat nullable hform)
    | reference r => exact hrefused.reference r nullable f hform h.2.2
    | _ => exact h.elim

/-- A step is refused for what its call is, or fails where one of the calls that it makes does. -/
theorem step_failsBy_of_calls {sort : Fault → Prop} {c : Call}
    (hrefused : c.RefusedBy sort d.root)
    (htaken : ∀ key ∈ c.before.graph.keys, key ∈ c.before.taken) (hopen : c.Open)
    (hcalls : ∀ c' ∈ calls d w c, FailsBy sort (w c'.site c'.node) c'.before) :
    FailsBy sort (step d w c.site c.node) c.before := by
  intro f t hthrows
  rcases (callStops_step_iff htaken hopen).mp ⟨t, hthrows⟩ with htrips | ⟨c', hc', t', h⟩
  · exact htrips.sort hrefused
  · exact hcalls c' hc' f t' h

/-- A walk fails by what its calls are refused for: what holds of the call, and is passed on to the
calls that it makes, has to keep them open and has to bound the faults. -/
theorem walk_failsBy_of_calls {sort : Fault → Prop} {P : Nat → Call → Prop}
    (hzero : ∀ c, P 0 c → sort .endless)
    (hcall : ∀ n c, P (n + 1) c → c.RefusedBy sort d.root ∧
      (∀ key ∈ c.before.graph.keys, key ∈ c.before.taken) ∧ c.Open)
    (hcalls : ∀ n c, P (n + 1) c → ∀ c' ∈ calls d (walk d n) c, P n c') {n : Nat} {c : Call}
    (h : P n c) : FailsBy sort (walk d n c.site c.node) c.before := by
  -- the fuel that is left goes down with each step, and `P` goes along
  induction n generalizing c with
  | zero => exact .throw (hzero c h) _
  | succ n ih =>
    obtain ⟨hrefused, htaken, hopen⟩ := hcall n c h
    exact step_failsBy_of_calls hrefused htaken hopen fun c' hc' => ih (hcalls n c h c' hc')

/-- All faults of a walk are refusals. -/
theorem walk_failsBy (d : Document) (n : Nat) {c : Call} (hc : c.Sound d.root)
    (hopen : c.Open) : FailsBy Refusal (walk d n c.site c.node) c.before := by
  refine walk_failsBy_of_calls (P := fun _ c => c.Sound d.root ∧ c.Open) (fun _ _ => .endless)
    (fun n c h => ⟨?_, h.1.1.keys_taken, h.2⟩) (fun n c h c' hc' => ?_) ⟨hc, hopen⟩
  · exact Call.refusedBy_of_misuse (fun _ => Misuse.refusal)
      fun _ _ _ _ => Node.refusal_of_flattenWith
  · exact ⟨sound_of_mem_calls (walk_sound d n) h.1 hc', open_of_mem_calls hc'⟩

end

end Convert

namespace Document

/-- The conversion begins openly: no reference stands for a record. -/
theorem open_openingCall (d : Document) (topLevel : Json) (key : String) :
    (d.openingCall topLevel key).Open := by
  intro r _
  simp [openingCall, Builder.opening, Builder.record?, TypeGraph.contains, TypeGraph.empty]

/-- The conversion of a document fails by misuse, or where the walk does. -/
theorem failsBy_of_walk {sort : Fault → Prop} (hsort : ∀ f, Misuse f → sort f) {d : Document}
    {topLevel : Json} (hwalk : ∀ key, TypeName.ofValue topLevel = .ok key →
      FailsBy sort (Convert.walk d (Convert.fuel d.root) (.opening topLevel) d.root)
        (.opening key)) {f : Fault} (h : (d.toGraph topLevel).1 = .error f) : sort f := by
  rw [toGraph_eq_error_iff_stops] at h
  by_cases hroot : ∃ member members, d.root = .obj (member :: members)
  · obtain ⟨member, members, hroot⟩ := hroot
    rcases (stops_collect_iff hroot).mp h with hname | ⟨key, hkey, ⟨b, hstops⟩ | ⟨t, b, -, -, rfl⟩⟩
    · exact hsort f (TypeName.misuse_of_ofValue hname)
    · exact hwalk key hkey f b hstops
    · exact hsort _ (.schema (by simp) (by simp))
  · obtain ⟨cause, rfl, hduplicate, hunknown⟩ := schema_of_stops_collect (by simpa using hroot) h
    exact hsort _ (.schema hduplicate hunknown)

/-- All faults of the conversion of a document are refusals. -/
theorem refusal_of_toGraph {d : Document} {topLevel : Json} {f : Fault}
    (h : (d.toGraph topLevel).1 = .error f) : Refusal f :=
  failsBy_of_walk (fun _ => Misuse.refusal) (fun key _ => Convert.walk_failsBy d _
    (c := d.openingCall topLevel key) (d.sound_openingCall topLevel key)
    (open_openingCall d topLevel key)) h

end Document

end SchemaStruct
