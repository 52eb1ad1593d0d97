import SchemaStruct.Proofs.Schema.Inside
import SchemaStruct.Proofs.Schema.References

/-!
# What the Conversion Gets to

If a document has a graph, then the conversion has walked every schema that can be reached from the
top, through schemas inside and through references. A reference that is not followed, because it
stands for a record or is being expanded, has been followed at some other call. So every schema that
can be reached describes something, none of them is inside of itself, and none of the parts that are
gathered is a part of itself.

## Main definitions

* `Convert.Invariant`: what holds of all that is collected if it holds at the beginning;
* `Builder.Settled`: the keys are in use, and every key that is bound belongs to a record.

## Main results

* `Convert.Invariant.walk`: an invariant holds at every call of a walk, and behind it;
* `Convert.reference_of_mem_met`: where the references that led to calls or are being expanded were
  followed;
* `Document.exists_met_of_reaches`: every schema that can be reached is walked;
* `Document.not_holds_self` and `Document.not_merges_self`: none of them has itself inside, or as a
  part.
-/

namespace SchemaStruct

open Document Relation

/-- Nothing is below itself in what has only finitely much below. -/
theorem not_transGen_self {α : Type} {r : α → α → Prop} {a b : α}
    (h : Acc (fun below above => r above below) a) (hb : ReflTransGen r a b) :
    ¬ TransGen r b b := by
  have hacc : Acc (fun below above => r above below) b := by
    induction hb with
    | refl => exact h
    | tail _ hstep ih => exact ih.inv hstep
  clear h hb
  induction hacc with
  | intro b _ ih =>
    intro hcycle
    -- the first step below leads to something that is below itself too
    obtain ⟨c, hbc, hcb⟩ := TransGen.head'_iff.mp hcycle
    exact ih c hbc (TransGen.tail' hcb hbc)

namespace Convert

/-- What is collected at the calls of a sort has the property, if it is there at the beginning:
notices and filled places do not matter, and taking the place of a record keeps it. -/
structure Invariant (d : Document) (sort : Call → Prop) (I : Builder → Prop) : Prop where
  /-- Notices do not matter. -/
  noted : ∀ {b} (notices : List Notice), I b → I (b.noted notices)
  /-- What stands in the places does not matter. -/
  replace : ∀ {b} (r : Record), I b → I { b with graph := b.graph.replace r }
  /-- Taking the place of a record keeps the property. -/
  opens : ∀ {c : Call} {flat : Node} {nullable : Bool} {key : String} {b' : Builder}, sort c →
    Form.of d.root c.node = some ⟨.record flat, nullable⟩ → Opens c.site c.before key b' →
    I c.before → I b'

variable {d : Document} {w : Walk} {c c' : Call} {n : Nat}

/-- A walk with a call has fuel, so it is a call of its own. -/
theorem self_mem_met {x : Nat × Call} (h : x ∈ met d n c) : (n, c) ∈ met d n c := by
  cases n with
  | zero => cases h
  | succ n => exact List.mem_cons_self

/-- All calls of a call that a walk makes are calls of the walk. -/
theorem met_subset_of_mem_met {m : Nat} (h : (m, c') ∈ met d n c) :
    met d m c' ⊆ met d n c := by
  induction n generalizing c with
  | zero => cases h
  | succ n ih =>
    rcases List.mem_cons.mp h with heq | h
    · obtain ⟨rfl, rfl⟩ := Prod.mk.inj heq
      exact List.Subset.refl _
    · obtain ⟨c₁, hc₁, h⟩ := List.mem_flatMap.mp h
      intro x hx
      exact List.mem_cons_of_mem _ (List.mem_flatMap.mpr ⟨c₁, hc₁, ih h hx⟩)

namespace Invariant

variable {sort : Call → Prop} {I : Builder → Prop}

/-- A property that the calls for some properties keep holds at all of them, and behind them. -/
theorem properties {site : Site} {key : String} {entries : Entries} {b : Builder} (hb : I b)
    (hw : ∀ c ∈ propertyCalls w site key entries b, I c.before → ∀ t after,
      Returns (w c.site c.node) c.before t after → I after) :
    (∀ c ∈ propertyCalls w site key entries b, I c.before) ∧ ∀ required found b',
      Returns (entries.mapM (property w site key required)) b found b' → I b' := by
  induction entries generalizing b with
  | nil =>
    refine ⟨by simp [propertyCalls], fun required found b' h => ?_⟩
    obtain ⟨-, rfl⟩ := returns_mapM_nil_iff.mp h
    exact hb
  | cons entry entries ih =>
    obtain ⟨name, schema⟩ := entry
    cases hsuffix : TypeName.ofEntry name with
    | error f =>
      refine ⟨by simp [propertyCalls, hsuffix], fun required found b' h => ?_⟩
      obtain ⟨p, b₁, rest, hp, -, -⟩ := returns_mapM_cons_iff.mp h
      obtain ⟨suffix, _, hok, -⟩ := returns_property_iff.mp hp
      rw [hsuffix] at hok
      cases hok
    | ok suffix =>
      have hfound : ∀ required found b', Returns
          (((name, schema) :: entries).mapM (property w site key required)) b found b' →
          ∃ t b₁ rest, Returns (w { hint := .str (key ++ suffix), pending := site.pending } schema)
            b t b₁ ∧ Returns (entries.mapM (property w site key required)) b₁ rest b' := by
        intro required found b' h
        obtain ⟨p, b₁, rest, hp, hrest, -⟩ := returns_mapM_cons_iff.mp h
        obtain ⟨suffix', t, hok, hwalk, -⟩ := returns_property_iff.mp hp
        obtain rfl := Except.ok.inj (hsuffix.symm.trans hok)
        exact ⟨t, b₁, rest, hwalk, hrest⟩
      rcases hrun : (w { hint := .str (key ++ suffix), pending := site.pending } schema).run.run b
        with ⟨result, after⟩
      cases result with
      | ok t =>
        rw [propertyCalls_of_returns hsuffix hrun] at hw ⊢
        obtain ⟨hfirst, hothers⟩ := List.forall_mem_cons.mp hw
        obtain ⟨hcalls, hreturns⟩ := ih (hfirst hb t after hrun) hothers
        refine ⟨List.forall_mem_cons.mpr ⟨hb, hcalls⟩, fun required found b' h => ?_⟩
        obtain ⟨t', b₁, rest, hwalk, hrest⟩ := hfound required found b' h
        obtain ⟨-, rfl⟩ := Prod.mk.inj (hrun.symm.trans hwalk)
        exact hreturns required rest b' hrest
      | error f =>
        rw [propertyCalls_of_throws hsuffix hrun]
        refine ⟨List.forall_mem_singleton.mpr hb, fun required found b' h => ?_⟩
        obtain ⟨t', b₁, rest, hwalk, -⟩ := hfound required found b' h
        cases hrun.symm.trans hwalk

variable (hI : Invariant d sort I)

include hI

/-- An invariant that the calls of a step keep holds at all of them, and behind the step. -/
theorem step (hc : sort c) (hb : I c.before)
    (hw : ∀ c' ∈ calls d w c, I c'.before → ∀ t after,
      Returns (w c'.site c'.node) c'.before t after → I after) :
    (∀ c' ∈ calls d w c, I c'.before) ∧ ∀ t b',
      Returns (step d w c.site c.node) c.before t b' → I b' := by
  refine ⟨fun c' hc' => ?_, fun t b' h => ?_⟩
  · cases makes_of_mem_calls hc' with
    | inside _ _ _ _ => exact hb
    | property hform hopen hrequired hlisted hcall =>
      rw [calls_of_record hform hopen hrequired hlisted] at hw
      have hopened := hI.opens hc hform (returns_openRecord hopen) hb
      exact (properties hopened hw).1 c' hcall
    | target _ _ _ _ => exact hb
  · obtain ⟨⟨shape, nullable⟩, u, hform, hgives, -⟩ := returns_step h
    cases hgives with
    | scalar notices _ => exact hI.noted notices hb
    | listOfAny notices => exact hI.noted notices hb
    | list hwalk => exact hw _ (mem_calls_of_shape hform rfl) hb _ _ hwalk
    | mapOfAny => exact hb
    | map hwalk => exact hw _ (mem_calls_of_shape hform rfl) hb _ _ hwalk
    | record hrecord =>
      obtain ⟨b₁, required, entries, found, b₂, hopen, hrequired, hlisted, hproperties, rfl⟩ :=
        returns_record hrecord
      rw [calls_of_record hform hopen hrequired hlisted] at hw
      have hopened := hI.opens hc hform (returns_openRecord hopen) hb
      exact hI.replace _ ((properties hopened hw).2 _ _ _ hproperties)
    | known _ => exact hb
    | cut _ _ => exact hI.noted _ hb
    | target hknown hpending hresolve hwalk =>
      have hcall := shapeCalls_target (w := w) hknown hpending hresolve
      exact hw _ (mem_calls_of_shape hform hcall) hb _ _ hwalk
    | alternative hwalk => exact hw _ (mem_calls_of_shape hform rfl) hb _ _ hwalk

/-- An invariant holds at every call of a walk, and behind the walk. -/
theorem walk (hsort : ∀ m c', (m, c') ∈ met d n c → sort c') (hb : I c.before) :
    (∀ m c', (m, c') ∈ met d n c → I c'.before) ∧ ∀ t b',
      Returns (walk d n c.site c.node) c.before t b' → I b' := by
  induction n generalizing c with
  | zero =>
    refine ⟨fun m c' h => ?_, fun t b' h => absurd h (not_returns_throw _)⟩
    cases h
  | succ n ih =>
    have hinner : ∀ c' ∈ calls d (Convert.walk d n) c, ∀ m c'', (m, c'') ∈ met d n c' → sort c'' :=
      fun c' hc' m c'' h =>
        hsort m c'' (List.mem_cons_of_mem _ (List.mem_flatMap.mpr ⟨c', hc', h⟩))
    obtain ⟨hcalls, hreturns⟩ := hI.step (hsort _ c List.mem_cons_self) hb
      fun c' hc' hc'b => (ih (hinner c' hc') hc'b).2
    refine ⟨fun m c' h => ?_, hreturns⟩
    rcases List.mem_cons.mp h with heq | h
    · obtain ⟨rfl, rfl⟩ := Prod.mk.inj heq
      exact hb
    · obtain ⟨c₁, hc₁, h⟩ := List.mem_flatMap.mp h
      exact (ih (hinner c₁ hc₁) (hcalls c₁ hc₁)).1 m c' h

end Invariant

/-- What a call passes on to the calls that it makes holds of all calls of a walk. -/
theorem of_mem_met {P : Call → Prop} (hstep : ∀ k e e', P e → e' ∈ calls d (walk d k) e → P e')
    {m : Nat} (hc : P c) (h : (m, c') ∈ met d n c) : P c' := by
  induction n generalizing c with
  | zero => cases h
  | succ n ih =>
    rcases List.mem_cons.mp h with heq | h
    · obtain ⟨-, rfl⟩ := Prod.mk.inj heq
      exact hc
    · obtain ⟨c₁, hc₁, h⟩ := List.mem_flatMap.mp h
      exact ih (hstep n c c₁ hc hc₁) h

/-- A reference that led to a call, or is being expanded there, has been followed at a call of the
walk, unless it was given at the beginning. -/
theorem reference_of_mem_met {m : Nat} (h : (m, c') ∈ met d n c) :
    (∀ r, c'.site.reference = some r → c' = c ∨
      ∃ site : Site, c'.site = site.target r c'.node ∧ Pointer.resolve d.root r = .ok c'.node) ∧
    ∀ r ∈ c'.site.pending, r ∈ c.site.pending ∨ ∃ k e, (k, e) ∈ met d n c ∧
      ∃ site : Site, e.site = site.target r e.node ∧ Pointer.resolve d.root r = .ok e.node := by
  induction n generalizing c with
  | zero => cases h
  | succ n ih =>
    rcases List.mem_cons.mp h with heq | h
    · obtain ⟨rfl, rfl⟩ := Prod.mk.inj heq
      exact ⟨fun r _ => .inl rfl, fun r hr => .inl hr⟩
    · obtain ⟨c₁, hc₁, h⟩ := List.mem_flatMap.mp h
      have hinner : ∀ x ∈ met d n c₁, x ∈ met d (n + 1) c := fun x hx =>
        List.mem_cons_of_mem _ (List.mem_flatMap.mpr ⟨c₁, hc₁, hx⟩)
      obtain ⟨hreference, hpending⟩ := ih h
      -- the first call inside of the walk is at a schema inside, or at the end of a reference
      rcases holds_or_target_of_mem_calls hc₁ with
        ⟨-, hsame, hnone⟩ | ⟨s, nullable, hform, hresolve, hnew, hsite⟩
      · refine ⟨fun r hr => ?_, fun r hr => ?_⟩
        · rcases hreference r hr with rfl | htarget
          · rw [hnone] at hr
            cases hr
          · exact .inr htarget
        · rcases hpending r hr with hold | ⟨k, e, he, htarget⟩
          · exact .inl (hsame ▸ hold)
          · exact .inr ⟨k, e, hinner _ he, htarget⟩
      · refine ⟨fun r hr => ?_, fun r hr => ?_⟩
        · rcases hreference r hr with rfl | htarget
          · rw [hsite] at hr
            obtain rfl := Option.some.inj hr
            exact .inr ⟨c.site, hsite, hresolve⟩
          · exact .inr htarget
        · rcases hpending r hr with hold | ⟨k, e, he, htarget⟩
          · rw [hsite] at hold
            rcases List.mem_cons.mp hold with rfl | hold
            · exact .inr ⟨n, c₁, hinner _ (self_mem_met h), c.site, hsite, hresolve⟩
            · exact .inl hold
          · exact .inr ⟨k, e, hinner _ he, htarget⟩

end Convert

/-- The keys of records and those bound to references are in use, one is bound to the whole
document, and every other one that is bound belongs to a record. -/
structure Builder.Settled (b : Builder) : Prop where
  /-- The keys of the graph are in use. -/
  keys_taken : ∀ key ∈ b.graph.keys, key ∈ b.taken
  /-- The keys bound to references are in use. -/
  bound_taken : ∀ r key, b.bound.lookup r = some key → key ∈ b.taken
  /-- A key is bound where the place of its record is taken. -/
  bound_known : ∀ r key, b.bound.lookup r = some key → r = "#" ∨ key ∈ b.graph.keys
  /-- The key of the document's own record is bound before anything is walked. -/
  top_bound : ∃ key, b.bound.lookup "#" = some key

/-- Whatever is walked, what is collected stays settled. -/
theorem Convert.invariant_settled (d : Document) :
    Invariant d (fun _ => True) Builder.Settled where
  noted notices h := ⟨h.keys_taken, h.bound_taken, h.bound_known, h.top_bound⟩
  replace {b} r h := by
    have hkeys : (b.graph.replace r).keys = b.graph.keys := TypeGraph.map_key_replace r _
    refine ⟨?_, h.bound_taken, ?_, h.top_bound⟩
    · rw [hkeys]
      exact h.keys_taken
    · rw [hkeys]
      exact h.bound_known
  opens {c flat nullable key b'} _ _ hopen h := by
    refine ⟨fun k hk => ?_, fun r k hk => ?_, fun r k hk => ?_, ?_⟩
    · exact hopen.mem_taken h.bound_taken ((hopen.mem_keys_iff.mp hk).imp_left (h.keys_taken k))
    · exact hopen.mem_taken h.bound_taken
        ((hopen.lookup_iff.mp hk).imp (h.bound_taken r k) And.right)
    · rcases hopen.lookup_iff.mp hk with hold | ⟨-, rfl⟩
      · exact (h.bound_known r k hold).imp_right fun hmem => hopen.mem_keys_iff.mpr (.inl hmem)
      · exact .inr (hopen.mem_keys_iff.mpr (.inr rfl))
    · obtain ⟨own, hown⟩ := h.top_bound
      exact ⟨own, hopen.lookup_iff.mpr (.inl hown)⟩

/-- What is collected by the calls inside is settled too. -/
theorem Convert.settled_of_mem_calls {d : Document} {n : Nat} {c c' : Call}
    (hb : c.before.Settled) (h : c' ∈ calls d (walk d n) c) : c'.before.Settled := by
  have hwalk : ∀ e ∈ calls d (walk d n) c, e.before.Settled → ∀ t after,
      Returns (walk d n e.site e.node) e.before t after → after.Settled :=
    fun e _ he => ((invariant_settled d).walk (fun _ _ _ => trivial) he).2
  exact ((invariant_settled d).step trivial hb hwalk).1 c' h

namespace Document

variable {d : Document} {topLevel : Json} {g : TypeGraph} {c : Call} {n : Nat} {r : String}

/-- The conversion begins settled. -/
theorem settled_opening (key : String) : (Builder.opening key).Settled := by
  refine ⟨?_, fun r k h => ?_, fun r k h => .inl (Builder.lookup_opening_iff.mp h).1,
    key, Builder.lookup_opening_iff.mpr ⟨rfl, rfl⟩⟩
  · simp [Builder.opening, TypeGraph.keys, TypeGraph.empty]
  · obtain ⟨-, rfl⟩ := Builder.lookup_opening_iff.mp h
    exact List.mem_cons_self

section

variable (hmet : (n, c) ∈ d.met topLevel)

include hmet

/-- The conversion of a document that is walked begins at one call, which makes all others. -/
theorem exists_openingCall : ∃ key, TypeName.ofValue topLevel = .ok key ∧
    (n, c) ∈ Convert.met d (Convert.fuel d.root) (d.openingCall topLevel key) ∧
    d.met topLevel = Convert.met d (Convert.fuel d.root) (d.openingCall topLevel key) := by
  unfold met at hmet ⊢
  split at hmet
  · next key hkey => exact ⟨key, hkey, hmet, rfl⟩
  · cases hmet

/-- What has been collected at every call of the conversion is settled. -/
theorem settled_of_met : c.before.Settled := by
  obtain ⟨key, -, hmem, -⟩ := exists_openingCall hmet
  exact ((Convert.invariant_settled d).walk (fun _ _ _ => trivial) (settled_opening key)).1 n c hmem

/-- A reference other than that to the whole document is bound only where it has been followed. -/
theorem exists_reference_of_bound {key : String} (hbound : c.before.bound.lookup r = some key) :
    r = "#" ∨ ∃ m e, (m, e) ∈ d.met topLevel ∧ e.site.reference = some r := by
  obtain ⟨own, -, hmem, heq⟩ := exists_openingCall hmet
  have hinvariant : Convert.Invariant d (fun e => ∃ m, (m, e) ∈ d.met topLevel) fun b =>
      ∀ r key, b.bound.lookup r = some key →
        r = "#" ∨ ∃ m e, (m, e) ∈ d.met topLevel ∧ e.site.reference = some r :=
    { noted := fun _ h => h
      replace := fun _ h => h
      opens := by
        rintro e flat nullable key b' ⟨m, he⟩ - hopen h r k hk
        rcases hopen.lookup_iff.mp hk with hold | ⟨hr, -⟩
        · exact h r k hold
        · exact .inr ⟨m, e, he, hr⟩ }
  refine (hinvariant.walk (fun m e he => ⟨m, heq ▸ he⟩) ?_).1 n c hmem r key hbound
  exact fun r k h => (settled_opening own).bound_known r k h |>.imp_right fun hkey => by
    simp [Builder.opening, TypeGraph.keys, TypeGraph.empty] at hkey

end

variable (hg : (d.toGraph topLevel).1 = .ok g)

include hg

/-- The conversion begins at the whole document. -/
theorem exists_opening_met : ∃ m key, (m, d.openingCall topLevel key) ∈ d.met topLevel := by
  obtain ⟨key, t, b, hkey, hwalk, -, -⟩ := returns_toGraph hg
  obtain ⟨m, hfuel, -⟩ := Convert.returns_walk hwalk
  refine ⟨m + 1, key, ?_⟩
  rw [met, hkey]
  show (m + 1, d.openingCall topLevel key) ∈
    Convert.met d (Convert.fuel d.root) (d.openingCall topLevel key)
  rw [hfuel]
  exact List.mem_cons_self

section

variable (hmet : (n, c) ∈ d.met topLevel)

include hmet

/-- The call has fuel, and its step returns. Calls of the step that return are calls of the
conversion. -/
theorem exists_step_of_met : ∃ m t b', n = m + 1 ∧ c.Sound d.root ∧
    Returns (Convert.step d (Convert.walk d m) c.site c.node) c.before t b' ∧
    ∀ c' ∈ Convert.calls d (Convert.walk d m) c, ∀ t' after,
      Returns (Convert.walk d m c'.site c'.node) c'.before t' after → (m, c') ∈ d.met topLevel := by
  obtain ⟨b, hall⟩ := exists_returns_of_mem_met hg
  obtain ⟨hsound, t, b', hwalk, -⟩ := hall n c hmet
  obtain ⟨m, rfl, -⟩ := Convert.returns_walk hwalk
  refine ⟨m, t, b', rfl, hsound, hwalk, fun c' hc' t' after hreturns => ?_⟩
  obtain ⟨key, -, hmem, heq⟩ := exists_openingCall hmet
  obtain ⟨k, rfl, -⟩ := Convert.returns_walk hreturns
  rw [heq]
  exact Convert.met_subset_of_mem_met hmem
    (List.mem_cons_of_mem _ (List.mem_flatMap.mpr ⟨c', hc', List.mem_cons_self⟩))

/-- Every schema inside of one that is walked is walked. -/
theorem exists_met_of_holds {child : Json} (hchild : Holds d.root c.node child) :
    ∃ m e, (m, e) ∈ d.met topLevel ∧ e.node = child ∧
      ∃ hint, e.site = { hint, pending := c.site.pending } ∧ ∀ one nullable,
        Form.of d.root c.node = some ⟨.alternative one, nullable⟩ → hint = c.site.hint := by
  obtain ⟨m, t, b', rfl, -, hstep, hcalls⟩ := exists_step_of_met hg hmet
  obtain ⟨e, he, hnode, hsite, t', after, hreturns⟩ := Convert.exists_call_of_holds hstep hchild
  exact ⟨m, e, hcalls e he t' after hreturns, hnode, hsite⟩

/-- What a reference points to is walked, at a call that the reference led to, or as the document's
own record where the walk begins. -/
theorem exists_met_of_reference {nullable : Bool}
    (hform : Form.of d.root c.node = some ⟨.reference r, nullable⟩) :
    ∃ m e, (m, e) ∈ d.met topLevel ∧ Pointer.resolve d.root r = .ok e.node ∧
      ((∃ site : Site, e.site = site.target r e.node) ∨
        r = "#" ∧ e.site.reference = some "#" ∧ IsRecordRef d.root r) := by
  obtain ⟨m, t, b', rfl, ⟨hb, -⟩, hstep, hcalls⟩ := exists_step_of_met hg hmet
  obtain ⟨own, -, hmem, heq⟩ := exists_openingCall hmet
  obtain ⟨form, u, hform', hgives, -⟩ := Convert.returns_step hstep
  obtain rfl := Option.some.inj (hform.symm.trans hform')
  cases hgives with
  | known hknown =>
    have hrecord := hb.isRecordRef r _ hknown
    rcases exists_reference_of_bound hmet (Builder.record?_eq_some_iff.mp hknown).1 with
      rfl | ⟨k, e, he, hreference⟩
    · obtain ⟨k, key, hopening⟩ := exists_opening_met hg
      exact ⟨k, _, hopening, rfl, .inr ⟨rfl, rfl, hrecord⟩⟩
    · rcases (Convert.reference_of_mem_met (heq ▸ he)).1 r hreference with
        rfl | ⟨site, hsite, hresolve⟩
      · obtain rfl := Option.some.inj hreference
        exact ⟨k, _, he, rfl, .inr ⟨rfl, rfl, hrecord⟩⟩
      · exact ⟨k, e, he, hresolve, .inl ⟨site, hsite⟩⟩
  | cut _ hpending =>
    -- no reference is being expanded at the beginning
    rcases (Convert.reference_of_mem_met hmem).2 r hpending with
      hopening | ⟨k, e, he, site, hsite, hresolve⟩
    · cases hopening
    · exact ⟨k, e, heq ▸ he, hresolve, .inl ⟨site, hsite⟩⟩
  | target hknown hpending hresolve hwalk =>
    have hcall := Convert.shapeCalls_target (w := Convert.walk d m) hknown hpending hresolve
    exact ⟨m, _, hcalls _ (Convert.mem_calls_of_shape hform hcall) _ _ hwalk, hresolve,
      .inl ⟨c.site, rfl⟩⟩

end

/-- Every schema that can be reached from the top is walked. -/
theorem exists_met_of_reaches {node : Json} (h : Reaches d.root node) :
    ∃ m e, (m, e) ∈ d.met topLevel ∧ e.node = node := by
  induction h with
  | top =>
    obtain ⟨m, key, hopening⟩ := exists_opening_met hg
    exact ⟨m, _, hopening, rfl⟩
  | inner _ hinner ih =>
    obtain ⟨m, c, hc, rfl⟩ := ih
    obtain ⟨k, e, he, hnode, -⟩ := exists_met_of_holds hg hc hinner
    exact ⟨k, e, he, hnode⟩
  | target _ hform hresolve ih =>
    obtain ⟨m, c, hc, rfl⟩ := ih
    obtain ⟨k, e, he, hresolve', -⟩ := exists_met_of_reference hg hc hform
    exact ⟨k, e, he, Except.ok.inj (hresolve'.symm.trans hresolve)⟩

/-- If a document has a graph, then no schema that can be reached is inside of itself. -/
theorem not_holds_self {node : Json} (h : Reaches d.root node) :
    ¬ TransGen (Holds d.root) node node := by
  obtain ⟨m, c, hc, rfl⟩ := exists_met_of_reaches hg h
  obtain ⟨b, hall⟩ := exists_returns_of_mem_met hg
  obtain ⟨-, t, after, hreturns, -⟩ := hall m c hc
  exact not_transGen_self (Convert.acc_of_returns hreturns) .refl

/-- If a document has a graph, then no part that is gathered is a part of itself. -/
theorem not_merges_self {node part : Json} (h : Reaches d.root node)
    (hmerged : node.isMerged = true) (hpart : ReflTransGen (Merges d.root) node part) :
    ¬ TransGen (Merges d.root) part part := by
  obtain ⟨m, c, hc, rfl⟩ := exists_met_of_reaches hg h
  obtain ⟨m, t, b', -, -, hstep, -⟩ := exists_step_of_met hg hc
  exact not_transGen_self (Convert.acc_merges_of_returns hstep hmerged) hpart

end Document

end SchemaStruct
