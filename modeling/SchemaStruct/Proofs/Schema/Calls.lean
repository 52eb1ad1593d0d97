import SchemaStruct.Proofs.Faults
import SchemaStruct.Proofs.Schema.Bindings

/-!
# The Walks inside a Walk

A walk goes on inside of a schema by further walks: one for the items of a list, for the values of a
map, for a single alternative or for what a reference points to, and one for each property of a
record. A `Call` is where such a walk begins and what has been collected by then. All calls of a
walk can be listed, with the fuel that each of them has left.

## Main definitions

* `Call`: a walk that is made;
* `Convert.calls`: the calls that a step makes;
* `Convert.met`: all calls of a walk, itself included;
* `Document.met`: all calls of the conversion of a document.

## Main results

* `Convert.step_congr`: a step depends on the walks inside through its calls only;
* `Convert.returns_of_mem_met`: if a walk returns, then so do all its calls, and what they have
  collected is kept.
-/

namespace SchemaStruct

/-- A walk that is made: where it begins, the schema that stands there, and what has been collected
by then. -/
structure Call where
  /-- Where the walk begins. -/
  site : Site
  /-- The schema that stands there. -/
  node : Json
  /-- What has been collected by then. -/
  before : Builder

namespace Call

/-- What comes out of the call if `w` makes it, and what has been collected then. -/
def run (c : Call) (w : Walk) : Except Fault TypeRef × Builder :=
  (w c.site c.node).run.run c.before

/-- What holds of every call. -/
def Sound (root : Json) (c : Call) : Prop :=
  c.before.Sound root ∧ c.site.Sound root c.before c.node

end Call

namespace Convert

/-- The calls for the properties of a record, each of them after those in front of it. -/
def propertyCalls (w : Walk) (site : Site) (key : String) :
    List (EntryName × Json) → Builder → List Call
  | [], _ => []
  | (name, schema) :: entries, b =>
    match TypeName.ofEntry name with
    | .error _ => []
    | .ok suffix =>
      let c : Call := ⟨{ hint := .str (key ++ suffix), pending := site.pending }, schema, b⟩
      c :: match c.run w with
        | (.ok _, after) => propertyCalls w site key entries after
        | (.error _, _) => []

/-- The calls for a record, whose place is taken first. -/
def recordCalls (w : Walk) (site : Site) (node : Node) (b : Builder) : List Call :=
  match (openRecord site node).run.run b, node.requiredNames, node.listed with
  | (.ok key, opened), .ok _, .ok entries => propertyCalls w site key entries opened
  | _, _, _ => []

/-- The calls for a shape. -/
def shapeCalls (d : Document) (w : Walk) (site : Site) (b : Builder) : Shape → List Call
  | .scalar _ => []
  | .list none => []
  | .list (some items) => [⟨site.inner "Element", items, b⟩]
  | .map none => []
  | .map (some values) => [⟨site.inner "Value", values, b⟩]
  | .record node => recordCalls w site node b
  | .reference r =>
    if (b.record? r).isSome || site.pending.contains r then []
    else match Pointer.resolve d.root r with
      | .ok target => [⟨site.target r target, target, b⟩]
      | .error _ => []
  | .alternative one => [⟨site.anonymous, one, b⟩]

/-- The calls that a step makes. -/
def calls (d : Document) (w : Walk) (c : Call) : List Call :=
  match Form.of d.root c.node with
  | some form => shapeCalls d w c.site c.before form.shape
  | none => []

/-- All calls of a walk, itself included, each with the fuel that it has. -/
def met (d : Document) : Nat → Call → List (Nat × Call)
  | 0, _ => []
  | n + 1, c => (n + 1, c) :: (calls d (walk d n) c).flatMap (met d n)

section

variable {d : Document} {w : Walk} {c c' : Call} {t : TypeRef} {b b' : Builder}

section

variable {site : Site} {key suffix : String} {name : EntryName} {schema : Json} {entries : Entries}
  (hsuffix : TypeName.ofEntry name = .ok suffix)

include hsuffix

/-- Behind the call for a property that returns, those for the others are made. -/
theorem propertyCalls_of_returns
    (h : Returns (w { hint := .str (key ++ suffix), pending := site.pending } schema) b t b') :
    propertyCalls w site key ((name, schema) :: entries) b =
      ⟨{ hint := .str (key ++ suffix), pending := site.pending }, schema, b⟩ ::
        propertyCalls w site key entries b' := by
  have hrun : Call.run ⟨{ hint := .str (key ++ suffix), pending := site.pending }, schema, b⟩ w =
      (.ok t, b') := h
  simp only [propertyCalls, hsuffix, hrun]

/-- Behind the call for a property that fails, none is made. -/
theorem propertyCalls_of_throws {f : Fault}
    (h : Throws (w { hint := .str (key ++ suffix), pending := site.pending } schema) b f b') :
    propertyCalls w site key ((name, schema) :: entries) b =
      [⟨{ hint := .str (key ++ suffix), pending := site.pending }, schema, b⟩] := by
  have hrun : Call.run ⟨{ hint := .str (key ++ suffix), pending := site.pending }, schema, b⟩ w =
      (.error f, b') := h
  simp only [propertyCalls, hsuffix, hrun]

end

/-- If the properties of a record are found, then each of their calls returns, and what it has
collected is kept. -/
theorem returns_of_mem_propertyCalls {root : Json} (hw : Keeps root w) {site : Site}
    {key : String} {required : List String} {entries : List (EntryName × Json)}
    {properties : List Property}
    (h : Returns (entries.mapM (property w site key required)) b properties b')
    (hb : b.Sound root) (hopened : site.Opened root b)
    (hmem : c' ∈ propertyCalls w site key entries b) :
    c'.Sound root ∧ ∃ t after, Returns (w c'.site c'.node) c'.before t after ∧
      after.Grows b' := by
  induction entries generalizing b properties with
  | nil => simp [propertyCalls] at hmem
  | cons entry entries ih =>
    obtain ⟨name, schema⟩ := entry
    obtain ⟨p, b₁, rest, hp, hrest, -⟩ := returns_mapM_cons_iff.mp h
    obtain ⟨suffix, t, hsuffix, hwalk, -⟩ := returns_property_iff.mp hp
    have hsite := hopened.sound (.str (key ++ suffix)) schema
    obtain ⟨hb₁, hgrows⟩ := hw hwalk hb hsite
    have hopened₁ := hopened.grows hgrows
    rw [propertyCalls_of_returns hsuffix hwalk] at hmem
    rcases List.mem_cons.mp hmem with rfl | hmem
    · -- what the first property has collected is kept by the others
      exact ⟨⟨hb, hsite⟩, t, b₁, hwalk, (properties_sound hw hrest hb₁ hopened₁).2⟩
    · exact ih hrest hb₁ hopened₁ hmem

/-- If a step returns, then each of its calls does, and what it has collected is kept. -/
theorem returns_of_mem_calls (hw : Keeps d.root w)
    (h : Returns (step d w c.site c.node) c.before t b') (hc : c.Sound d.root)
    (hmem : c' ∈ calls d w c) :
    c'.Sound d.root ∧ ∃ t' after, Returns (w c'.site c'.node) c'.before t' after ∧
      after.Grows b' := by
  obtain ⟨hb, hsite⟩ := hc
  obtain ⟨⟨shape, nullable⟩, u, hform, hgives, -⟩ := returns_step h
  have hopened : (∀ flat, shape ≠ .record flat) → c.site.Opened d.root c.before :=
    hsite.opened hform
  simp only [calls, hform] at hmem
  cases hgives with
  | scalar notices hkind => simp [shapeCalls] at hmem
  | listOfAny notices => simp [shapeCalls] at hmem
  | list h =>
    obtain rfl := List.mem_singleton.mp hmem
    exact ⟨⟨hb, (hopened (by simp)).sound _ _⟩, _, _, h, .refl _⟩
  | mapOfAny => simp [shapeCalls] at hmem
  | map h =>
    obtain rfl := List.mem_singleton.mp hmem
    exact ⟨⟨hb, (hopened (by simp)).sound _ _⟩, _, _, h, .refl _⟩
  | record h =>
    obtain ⟨b₁, required, entries, properties, b₂, hopen, hrequired, hlisted, hproperties, rfl⟩ :=
      returns_record h
    obtain ⟨hb₁, -, hopened₁, -⟩ := opened_sound hb (returns_openRecord hopen) hsite hform
    have hrun : (openRecord c.site _).run.run c.before = (.ok _, b₁) := hopen
    simp only [shapeCalls, recordCalls, hrun, hrequired, hlisted] at hmem
    obtain ⟨hc', t', after, hreturns, hgrows⟩ :=
      returns_of_mem_propertyCalls hw hproperties hb₁ hopened₁ hmem
    -- filling the place of the record keeps what the properties have collected
    have hb₂ := (properties_sound hw hproperties hb₁ hopened₁).1
    exact ⟨hc', t', after, hreturns, hgrows.trans (replaced_sound hb₂ _).2⟩
  | known hknown => simp [shapeCalls, hknown] at hmem
  | cut hknown hpending => simp [shapeCalls, hpending] at hmem
  | target hknown hpending hresolve h =>
    simp only [shapeCalls, hknown, hresolve] at hmem
    rw [if_neg (by simpa using hpending)] at hmem
    obtain rfl := List.mem_singleton.mp hmem
    exact ⟨⟨hb, (hopened (by simp)).target hresolve⟩, _, _, h, .refl _⟩
  | alternative h =>
    obtain rfl := List.mem_singleton.mp hmem
    exact ⟨⟨hb, (hopened (by simp)).sound _ _⟩, _, _, h, .refl _⟩

/-- If a walk returns, then so do all its calls, and what they have collected is kept. -/
theorem returns_of_mem_met {n m : Nat}
    (h : Returns (walk d n c.site c.node) c.before t b') (hc : c.Sound d.root)
    (hmem : (m, c') ∈ met d n c) :
    c'.Sound d.root ∧ ∃ t' after, Returns (walk d m c'.site c'.node) c'.before t' after ∧
      after.Grows b' := by
  induction n generalizing c t b' with
  | zero => simp [met] at hmem
  | succ n ih =>
    -- the call is the walk itself, or is met inside of one of the calls of its first step
    rcases List.mem_cons.mp hmem with heq | hmem
    · obtain ⟨rfl, rfl⟩ := Prod.mk.inj heq
      exact ⟨hc, t, b', h, .refl _⟩
    · obtain ⟨c₁, hc₁, hmem⟩ := List.mem_flatMap.mp hmem
      obtain ⟨hsound, t₁, after₁, hreturns, hgrows⟩ :=
        returns_of_mem_calls (walk_sound d n) h hc hc₁
      obtain ⟨hsound', t', after, hreturns', hgrows'⟩ := ih hreturns hsound hmem
      exact ⟨hsound', t', after, hreturns', hgrows'.trans hgrows⟩

end

section

variable {d : Document} {w w' : Walk} {site : Site} {b : Builder}

/-- Whether two walks make the same of some calls. -/
def AgreeOn (w w' : Walk) (cs : List Call) : Prop := ∀ c ∈ cs, c.run w = c.run w'

/-- A step behind another one is made only where the other one ends. -/
theorem run_bind_congr {α β : Type} {m m' : Build α} {f f' : α → Build β}
    (hm : m.run.run b = m'.run.run b)
    (hf : ∀ a u, Returns m b a u → (f a).run.run u = (f' a).run.run u) :
    (m >>= f).run.run b = (m' >>= f').run.run b := by
  rw [run_bind, run_bind, ← hm]
  rcases hrun : m.run.run b with ⟨result, u⟩
  cases result with
  | error e => rfl
  | ok a => exact hf a u hrun

/-- The properties of a record depend on the walks inside through their calls. -/
theorem properties_congr {key : String} {required : List String}
    {entries : List (EntryName × Json)} (h : AgreeOn w w' (propertyCalls w site key entries b)) :
    (entries.mapM (property w site key required)).run.run b =
      (entries.mapM (property w' site key required)).run.run b := by
  induction entries generalizing b with
  | nil => rfl
  | cons entry entries ih =>
    obtain ⟨name, schema⟩ := entry
    rw [List.mapM_cons, List.mapM_cons]
    have hfirst : (property w site key required (name, schema)).run.run b =
        (property w' site key required (name, schema)).run.run b := by
      unfold property
      refine run_bind_congr rfl fun suffix u hentry => ?_
      obtain ⟨hsuffix, rfl⟩ := returns_build_iff.mp hentry
      simp only [propertyCalls, hsuffix] at h
      exact run_bind_congr (h _ List.mem_cons_self) fun t u _ => rfl
    refine run_bind_congr hfirst fun p u hp => ?_
    obtain ⟨suffix, t, hsuffix, hwalk, -⟩ := returns_property_iff.mp hp
    have hrun : (Call.mk { hint := .str (key ++ suffix), pending := site.pending } schema b).run
        w = (.ok t, u) := hwalk
    simp only [propertyCalls, hsuffix, hrun] at h
    exact run_bind_congr (ih fun c hc => h c (List.mem_cons_of_mem _ hc)) fun _ _ _ => rfl

/-- Collecting a record depends on the walks inside through its calls. -/
theorem record_congr {node : Node} (h : AgreeOn w w' (recordCalls w site node b)) :
    (record d w site node).run.run b = (record d w' site node).run.run b := by
  unfold record
  refine run_bind_congr rfl fun key b₀ hkey => ?_
  refine run_bind_congr rfl fun _ b₁ hadd => ?_
  have hopen : (openRecord site node).run.run b = (.ok key, b₁) := by
    have : Returns (openRecord site node) b key b₁ := by
      simp only [openRecord, returns_bind_iff, returns_pure_iff]
      exact ⟨key, b₀, hkey, _, b₁, hadd, rfl, rfl⟩
    exact this
  refine run_bind_congr rfl fun required b₂ hnames => ?_
  obtain ⟨hrequired, rfl⟩ := returns_build_iff.mp hnames
  refine run_bind_congr rfl fun entries b₂ hentries => ?_
  obtain ⟨hlisted, rfl⟩ := returns_build_iff.mp hentries
  simp only [recordCalls, hopen, hrequired, hlisted] at h
  exact run_bind_congr (properties_congr h) fun _ _ _ => rfl

/-- A reference depends on the walks inside through its calls. -/
theorem reference_congr {r : String}
    (h : AgreeOn w w' (shapeCalls d w site b (.reference r))) :
    (reference d.root w site (.str r)).run.run b =
      (reference d.root w' site (.str r)).run.run b := by
  unfold reference
  refine run_bind_congr rfl fun _ u hhash => ?_
  obtain ⟨-, rfl⟩ := returns_build_iff.mp hhash
  refine run_bind_congr rfl fun b₁ u hget => ?_
  obtain ⟨rfl, rfl⟩ := returns_get_iff.mp hget
  split
  · rfl
  · next hknown =>
    split
    · rfl
    · next hpending =>
      refine run_bind_congr rfl fun target u htarget => ?_
      obtain ⟨hresolve, rfl⟩ := returns_build_iff.mp htarget
      simp only [shapeCalls, hknown, hpending, hresolve] at h
      exact h _ List.mem_cons_self

/-- Performing a shape depends on the walks inside through its calls. -/
theorem perform_congr {notices : List Notice} {shape : Shape}
    (h : AgreeOn w w' (shapeCalls d w site b shape)) :
    (perform d w site notices shape).run.run b = (perform d w' site notices shape).run.run b := by
  cases shape with
  | scalar kind => rfl
  | list items =>
    cases items with
    | none => rfl
    | some items => exact run_bind_congr (h _ List.mem_cons_self) fun _ _ _ => rfl
  | map values =>
    cases values with
    | none => rfl
    | some values => exact run_bind_congr (h _ List.mem_cons_self) fun _ _ _ => rfl
  | record node => exact run_bind_congr (record_congr h) fun _ _ _ => rfl
  | reference r => exact reference_congr h
  | alternative one => exact h _ List.mem_cons_self

/-- A step depends on the walks inside through its calls. -/
theorem step_congr {c : Call} (h : AgreeOn w w' (calls d w c)) :
    c.run (step d w) = c.run (step d w') := by
  obtain ⟨notices, hstep⟩ := exists_step_eq d c.site c.node
  have hform := Form.toOption_read d.root c.site.hintText c.node
  rw [Call.run, Call.run, hstep, hstep]
  cases hread : Form.read d.root c.site.hintText c.node with
  | error f => rfl
  | ok form =>
    rw [hread] at hform
    simp only [calls, ← hform, Except.toOption] at h
    rw [performForm_ok, performForm_ok]
    exact run_bind_congr (perform_congr h) fun _ _ _ => rfl

end

end Convert

namespace Document

/-- The walk that the conversion of a document makes, if its record is to be named by the key. -/
def openingCall (d : Document) (topLevel : Json) (key : String) : Call :=
  ⟨.opening topLevel, d.root, .opening key⟩

/-- All calls of the conversion of a document, each with the fuel that it has. -/
def met (d : Document) (topLevel : Json) : List (Nat × Call) :=
  match TypeName.ofValue topLevel with
  | .ok key => Convert.met d (Convert.fuel d.root) (d.openingCall topLevel key)
  | .error _ => []

/-- The conversion begins soundly: only the document's own key is in use. -/
theorem sound_openingCall (d : Document) (topLevel : Json) (key : String) :
    (d.openingCall topLevel key).Sound d.root := by
  have hlookup : ∀ r k, (Builder.opening key).bound.lookup r = some k → r = "#" ∧ k = key :=
    fun _ _ => Builder.lookup_opening_iff.mp
  refine ⟨⟨?_, ?_, ?_, ?_⟩, ?_, ?_⟩
  · simp [openingCall, Builder.opening, TypeGraph.keys, TypeGraph.empty]
  · intro r k h
    obtain ⟨-, rfl⟩ := hlookup r k h
    exact List.mem_cons_self
  · intro r r' k h h'
    rw [(hlookup r k h).1, (hlookup r' k h').1]
  · intro r k h
    have hmem := (Builder.record?_eq_some_iff.mp h).2
    simp [openingCall, Builder.opening, TypeGraph.keys, TypeGraph.empty] at hmem
  · intro r h
    obtain rfl : "#" = r := Option.some.inj h
    rfl
  · simp [openingCall, Site.opening]

end Document

end SchemaStruct
