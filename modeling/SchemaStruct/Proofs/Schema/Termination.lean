import SchemaStruct.Proofs.Schema.Reached
import SchemaStruct.Proofs.Schema.Refusals

/-!
# Termination of the Conversion

The fuel of the walk is enough for every document in which no schema is inside of itself and no part
is a part of itself. Between two expansions of references the walk goes from a schema to one inside
of it, so the schemas that it meets are pairwise different values of the document; and no reference
is expanded inside of itself, whatever it comes back through. Hence the depth of the walk is bounded
by the number of values times the number of references. More fuel than that changes nothing.

That no part is a part of itself is not enough. A property that has the whole document as its part
describes a record of the same property, which is inside of itself: no reference leads there, so
nothing shows that the record is known, and the conversion has no end.

## Main definitions

* `Convert.Fits`: a walk has enough fuel for all of its calls;
* `Convert.Within`: a call is made within the document.

## Main results

* `Node.misuse_of_chain`: a schema that is no part of itself has a flat form, unless something in it
  is misused;
* `Convert.run_of_fits`: more fuel than enough changes nothing;
* `Convert.fits_of_chain` and `Convert.fits_of_within`: how much is enough;
* `Document.toGraph_terminates`: the conversion ends in a graph or in a fault of misuse;
* `Document.not_terminates_mirror`: a conversion without end.
-/

namespace SchemaStruct

open Document Relation

namespace Node

variable {root : Json} {f : Fault}

/-- A schema that is no part of itself has a flat form, unless something in it is misused: parts of
parts are pairwise different values of the document. -/
theorem misuse_of_chain (fuel : Nat) (chain : List Json) {node : Json}
    (hacyclic : ∀ part, ReflTransGen (Merges root) node part → ¬ TransGen (Merges root) part part)
    (hnode : node ∈ root.values) (hchain : ∀ outer ∈ chain, TransGen (Merges root) outer node)
    (hnodup : chain.Nodup) (hvalues : chain ⊆ root.values)
    (hfuel : root.size + 1 ≤ fuel + chain.length)
    (h : flattenWith root fuel (node.members?.getD []) = .error f) : Misuse f := by
  have hlength : chain.length ≤ root.size :=
    root.length_values ▸ hnodup.length_le_of_subset hvalues
  induction fuel generalizing node chain with
  | zero => omega
  | succ fuel ih =>
    cases node with
    | obj members =>
      rcases misuse_of_flattenWith h with hmisuse | ⟨part, hpart, h⟩
      · exact hmisuse
      · -- the part is one value more, since the chain does not come back to the whole
        have hmem : Json.obj members ∉ chain := fun hmem => hacyclic _ .refl (hchain _ hmem)
        have hnodup' : (Json.obj members :: chain).Nodup := List.nodup_cons.mpr ⟨hmem, hnodup⟩
        have hvalues' : Json.obj members :: chain ⊆ root.values :=
          List.cons_subset.mpr ⟨hnode, hvalues⟩
        have hchain' : ∀ outer ∈ Json.obj members :: chain, TransGen (Merges root) outer part := by
          intro outer houter
          rcases List.mem_cons.mp houter with rfl | houter
          · exact .single hpart
          · exact (hchain outer houter).tail hpart
        refine ih _ (fun p hp => hacyclic p (.head hpart hp)) (mem_values_of_merges hnode hpart)
          hchain' hnodup' hvalues' ?_ h ?_
        · rw [List.length_cons]
          omega
        · exact root.length_values ▸ hnodup'.length_le_of_subset hvalues'
    | _ => cases h

end Node

namespace Convert

variable {d : Document} {w w' : Walk} {c : Call} {n : Nat}

/-- The walk has enough fuel at the call, and at all calls inside. -/
def Fits (d : Document) : Nat → Call → Prop
  | 0, _ => False
  | n + 1, c => ∀ c' ∈ calls d (walk d n) c, Fits d n c'

/-- The calls for the properties of a record depend on the walk at these calls only. -/
theorem propertyCalls_congr {site : Site} {key : String} {entries : Entries} {b : Builder}
    (h : AgreeOn w w' (propertyCalls w site key entries b)) :
    propertyCalls w' site key entries b = propertyCalls w site key entries b := by
  induction entries generalizing b with
  | nil => rfl
  | cons entry entries ih =>
    obtain ⟨name, schema⟩ := entry
    unfold propertyCalls at h ⊢
    split
    · rfl
    · next suffix hsuffix =>
      rw [hsuffix] at h
      dsimp only at h ⊢
      obtain ⟨hfirst, hrest⟩ := List.forall_mem_cons.mp h
      rw [← hfirst]
      split
      · next after hrun =>
        rw [hrun] at hrest
        rw [ih hrest]
      · rfl

/-- The calls of a step depend on the walk at these calls only. -/
theorem calls_congr (h : AgreeOn w w' (calls d w c)) : calls d w' c = calls d w c := by
  unfold calls at h ⊢
  split
  · next form hform =>
    simp only [hform] at h
    obtain ⟨shape, nullable⟩ := form
    cases shape with
    | record node =>
      simp only [shapeCalls, recordCalls] at h ⊢
      split
      · next hrun hrequired hlisted =>
        rw [hrun, hrequired, hlisted] at h
        exact propertyCalls_congr h
      · rfl
    | list items => cases items <;> rfl
    | map values => cases values <;> rfl
    | _ => rfl
  · rfl

/-- One unit of fuel more changes nothing where the walk has enough. -/
theorem run_succ_of_fits (h : Fits d n c) :
    c.run (walk d (n + 1)) = c.run (walk d n) ∧ Fits d (n + 1) c := by
  induction n generalizing c with
  | zero => exact h.elim
  | succ n ih =>
    have hagree : AgreeOn (walk d n) (walk d (n + 1)) (calls d (walk d n) c) :=
      fun c' hc' => (ih (h c' hc')).1.symm
    refine ⟨(step_congr hagree).symm, fun c' hc' => ?_⟩
    rw [calls_congr hagree] at hc'
    exact (ih (h c' hc')).2

/-- More fuel than enough changes nothing. -/
theorem run_of_fits (h : Fits d n c) {m : Nat} (hm : n ≤ m) :
    c.run (walk d m) = c.run (walk d n) ∧ Fits d m c := by
  induction m, hm using Nat.le_induction with
  | base => exact ⟨rfl, h⟩
  | succ m _ ih =>
    obtain ⟨hrun, hfits⟩ := run_succ_of_fits ih.2
    exact ⟨hrun.trans ih.1, hfits⟩

/-- A call is made within the document if the walk gets to its schema, and if the references that
are being expanded around it are different ones of the document. -/
structure Within (root : Json) (c : Call) : Prop where
  /-- The walk gets to the schema. -/
  reaches : Reaches root c.node
  /-- No reference is expanded twice. -/
  nodup : c.site.pending.Nodup
  /-- The references are those of the document. -/
  references : c.site.pending ⊆ root.references

/-- The calls that are made within the document make their calls there. -/
theorem Within.call {c' : Call} (hc : Within d.root c) (h : c' ∈ calls d w c) :
    Within d.root c' := by
  rcases holds_or_target_of_mem_calls h with
    ⟨hholds, hsame, -⟩ | ⟨r, nullable, hform, hresolve, hnew, hsite⟩
  · exact ⟨hc.reaches.inner hholds, hsame ▸ hc.nodup, hsame ▸ hc.references⟩
  · have hpending : c'.site.pending = r :: c.site.pending := by rw [hsite]; rfl
    refine ⟨hc.reaches.target hform hresolve, ?_, ?_⟩
    · rw [hpending]
      exact List.nodup_cons.mpr ⟨hnew, hc.nodup⟩
    · rw [hpending]
      exact List.cons_subset.mpr ⟨Form.mem_references hc.reaches.covers hform, hc.references⟩

/-- There are no more references that are being expanded than the document has. -/
theorem Within.length_le (hc : Within d.root c) :
    c.site.pending.length ≤ Convert.references d.root :=
  (hc.nodup.length_le_of_subset hc.references).trans d.root.length_references_le

/-- A walk needs less fuel than there are values for the way from a schema to those inside, and as
much again for every reference that is not expanded yet. -/
theorem fits_of_chain (chain : List Json)
    (hacyclic : ∀ node, Reaches d.root node → ¬ TransGen (Holds d.root) node node)
    (hc : Within d.root c) (hchain : ∀ outer ∈ chain, TransGen (Holds d.root) outer c.node)
    (hnodup : chain.Nodup) (hvalues : chain ⊆ d.root.values)
    (hfuel : (references d.root - c.site.pending.length) * (d.root.size + 2) +
      (d.root.size + 1 - chain.length) ≤ n) : Fits d n c := by
  have hlength : chain.length ≤ d.root.size :=
    d.root.length_values ▸ hnodup.length_le_of_subset hvalues
  induction n generalizing c chain with
  | zero => omega
  | succ n ih =>
    intro c' hc'
    have hwithin := hc.call hc'
    rcases holds_or_target_of_mem_calls hc' with
      ⟨hholds, hsame, -⟩ | ⟨r, nullable, hform, hresolve, hnew, hsite⟩
    · -- inside of the schema: one value more
      have hmem : c.node ∉ chain := fun hmem => hacyclic _ hc.reaches (hchain _ hmem)
      have hnodup' : (c.node :: chain).Nodup := List.nodup_cons.mpr ⟨hmem, hnodup⟩
      have hvalues' : c.node :: chain ⊆ d.root.values :=
        List.cons_subset.mpr ⟨Holds.mem_values hholds hc.reaches.covers, hvalues⟩
      have hchain' : ∀ outer ∈ c.node :: chain, TransGen (Holds d.root) outer c'.node := by
        intro outer houter
        rcases List.mem_cons.mp houter with rfl | houter
        · exact .single hholds
        · exact (hchain outer houter).tail hholds
      refine ih _ hwithin hchain' hnodup' hvalues' ?_ ?_
      · rw [hsame, List.length_cons]
        omega
      · exact d.root.length_values ▸ hnodup'.length_le_of_subset hvalues'
    · -- at the end of a reference: one reference less to expand
      refine ih [] hwithin (by simp) List.nodup_nil (by simp) ?_ (Nat.zero_le _)
      have hpending : c'.site.pending.length = c.site.pending.length + 1 := by rw [hsite]; rfl
      have hcount : c.site.pending.length + 1 ≤ references d.root := hpending ▸ hwithin.length_le
      obtain ⟨k, hk⟩ : ∃ k, references d.root = c.site.pending.length + 1 + k :=
        ⟨_, (Nat.add_sub_cancel' hcount).symm⟩
      have hleft : c.site.pending.length + 1 + k - c.site.pending.length = k + 1 := by omega
      have hright : c.site.pending.length + 1 + k - (c.site.pending.length + 1) = k := by omega
      rw [hk, hleft, Nat.succ_mul] at hfuel
      rw [hk, hpending, hright, List.length_nil]
      omega

/-- The fuel of the conversion is enough for every call that is made within the document. -/
theorem fits_of_within
    (hacyclic : ∀ node, Reaches d.root node → ¬ TransGen (Holds d.root) node node)
    (hc : Within d.root c) : Fits d (fuel d.root) c := by
  refine fits_of_chain [] hacyclic hc (by simp) List.nodup_nil (by simp) ?_
  have hfuel : fuel d.root =
      references d.root * (d.root.size + 2) + 2 * (d.root.size + 2) := by
    rw [fuel, Nat.mul_comm, Nat.add_mul]
  have hle : (references d.root - c.site.pending.length) * (d.root.size + 2) ≤
      references d.root * (d.root.size + 2) := Nat.mul_le_mul_right _ (Nat.sub_le _ _)
  rw [List.length_nil]
  omega

/-- A walk with enough fuel fails by misuse only, if no part is a part of itself. -/
theorem walk_failsBy_of_fits
    (hparts : ∀ node, Reaches d.root node → node.isMerged = true →
      ∀ part, ReflTransGen (Merges d.root) node part → ¬ TransGen (Merges d.root) part part)
    (hfits : Fits d n c) (hwithin : Within d.root c) (hc : c.Sound d.root) (hopen : c.Open) :
    FailsBy Misuse (walk d n c.site c.node) c.before := by
  refine walk_failsBy_of_calls (P := fun n c => Fits d n c ∧ Within d.root c ∧
    c.Sound d.root ∧ c.Open) (fun _ h => h.1.elim) ?_ ?_ ⟨hfits, hwithin, hc, hopen⟩
  · rintro n c ⟨-, ⟨hreaches, -, -⟩, hc, hopen⟩
    refine ⟨Call.refusedBy_of_misuse (fun _ => id) ?_, hc.1.keys_taken, hopen⟩
    intro members f hnode hmerged hflat
    have hvalue : c.node ∈ d.root.values := by
      rw [hnode]
      exact (hnode ▸ hreaches.covers).mem_values_of_obj
    refine Node.misuse_of_chain (d.root.size + 2) [] (hparts c.node hreaches hmerged) hvalue
      (by simp) List.nodup_nil (by simp) (by simp) ?_
    rw [hnode]
    exact hflat
  · rintro n c ⟨hfits, hwithin, hc, -⟩ c' hc'
    exact ⟨hfits c' hc', hwithin.call hc', sound_of_mem_calls (walk_sound d n) hc hc',
      open_of_mem_calls hc'⟩

end Convert

namespace Document

/-- The conversion begins within the document. -/
theorem within_openingCall (d : Document) (topLevel : Json) (key : String) :
    Convert.Within d.root (d.openingCall topLevel key) :=
  ⟨.top, List.nodup_nil, List.nil_subset _⟩

/-- The conversion of a document ends in a graph or in a fault of misuse, whatever references come
back to whatever, if no part is a part of itself and no schema that the walk gets to is inside of
itself. The fuel is enough for it: with more of it the walk does the same. -/
theorem toGraph_terminates {d : Document} {topLevel : Json}
    (hparts : ∀ node, Reaches d.root node → node.isMerged = true →
      ∀ part, ReflTransGen (Merges d.root) node part → ¬ TransGen (Merges d.root) part part)
    (hacyclic : ∀ node, Reaches d.root node → ¬ TransGen (Holds d.root) node node) :
    ((∃ g, (d.toGraph topLevel).1 = .ok g) ∨
      ∃ f, Misuse f ∧ (d.toGraph topLevel).1 = .error f) ∧
    ∀ key n, Convert.fuel d.root ≤ n →
      (d.openingCall topLevel key).run (Convert.walk d n) =
        (d.openingCall topLevel key).run (Convert.walk d (Convert.fuel d.root)) := by
  have hwithin := fun key => within_openingCall d topLevel key
  have hfits := fun key => Convert.fits_of_within hacyclic (hwithin key)
  refine ⟨?_, fun key n hn => (Convert.run_of_fits (hfits key) hn).1⟩
  cases h : (d.toGraph topLevel).1 with
  | ok g => exact .inl ⟨g, rfl⟩
  | error f =>
    refine .inr ⟨f, failsBy_of_walk (fun _ => id) (fun key _ => ?_) h, rfl⟩
    exact Convert.walk_failsBy_of_fits (c := d.openingCall topLevel key) hparts (hfits key)
      (hwithin key) (d.sound_openingCall topLevel key) (open_openingCall d topLevel key)

/-- A document whose references come back through a record, a list, a map, an alternative and other
references, and to the whole of which a part belongs. -/
def tangle : Document where
  root := .obj
    [("properties", .obj
      [("next", .obj [("$ref", .str "#")]),
        ("loop", .obj [("$ref", .str "#/definitions/list")]),
        ("twin", .obj [("allOf", .arr [.obj [("$ref", .str "#/definitions/base")]])])]),
      ("definitions", .obj
        [("list", .obj
          [("type", .str "array"), ("items", .obj [("$ref", .str "#/definitions/table")])]),
        ("table", .obj
          [("type", .str "object"),
            ("additionalProperties", .obj [("$ref", .str "#/definitions/choice")])]),
        ("choice", .obj
          [("anyOf", .arr
            [.obj [("$ref", .str "#/definitions/again")], .obj [("type", .str "null")]])]),
        ("again", .obj [("$ref", .str "#/definitions/list")]),
        ("base", .obj
          [("properties", .obj [("self", .obj [("$ref", .str "#/definitions/base")])])])])]

/-- The theorem at a document with references that come back in all these ways. -/
theorem toGraph_terminates_tangle :
    (∀ node, Reaches tangle.root node → node.isMerged = true →
      ∀ part, ReflTransGen (Merges tangle.root) node part →
        ¬ TransGen (Merges tangle.root) part part) ∧
    (∀ node, Reaches tangle.root node → ¬ TransGen (Holds tangle.root) node node) ∧
    ((∃ g, (tangle.toGraph (.str "Root")).1 = .ok g) ∨
      ∃ f, Misuse f ∧ (tangle.toGraph (.str "Root")).1 = .error f) ∧
    ∀ key n, Convert.fuel tangle.root ≤ n →
      (tangle.openingCall (.str "Root") key).run (Convert.walk tangle n) =
        (tangle.openingCall (.str "Root") key).run
          (Convert.walk tangle (Convert.fuel tangle.root)) := by
  -- it has a graph, so nothing in it is inside of itself
  have hsome : (tangle.toGraph (.str "Root")).1.toOption.isSome := by decide +kernel
  obtain ⟨g, hg⟩ := Option.isSome_iff_exists.mp hsome
  have hgraph := toGraph_of_toOption hg
  have hparts : ∀ node, Reaches tangle.root node → node.isMerged = true →
      ∀ part, ReflTransGen (Merges tangle.root) node part →
        ¬ TransGen (Merges tangle.root) part part :=
    fun _ hnode hmerged _ hpart => not_merges_self hgraph hnode hmerged hpart
  have hacyclic : ∀ node, Reaches tangle.root node → ¬ TransGen (Holds tangle.root) node node :=
    fun _ hnode => not_holds_self hgraph hnode
  exact ⟨hparts, hacyclic, toGraph_terminates hparts hacyclic⟩

/-- The schema of a property that has the whole document as its part. -/
def reflection : Json := .obj [("allOf", .arr [.obj [("$ref", .str "#")]])]

/-- A document whose only property has the document as its part. -/
def mirror : Document where
  root := .obj [("properties", .obj [("next", reflection)])]

/-- The document and its property both describe a record of that property. -/
theorem exists_form_mirror {node : Json} (h : node = mirror.root ∨ node = reflection) :
    ∃ flat, Form.of mirror.root node = some ⟨.record flat, false⟩ ∧
      flat.get? "title" = none ∧ flat.requiredNames = .ok [] ∧
      flat.listed = .ok [(.text "next", reflection)] := by
  rcases h with rfl | rfl
  · exact ⟨_, rfl, rfl, rfl, rfl⟩
  · exact ⟨_, rfl, rfl, rfl, rfl⟩

/-- Only the property is inside of the document, and of itself. -/
theorem holds_mirror_iff {node child : Json} (h : node = mirror.root ∨ node = reflection) :
    Holds mirror.root node child ↔ child = reflection := by
  obtain ⟨flat, hform, -, -, hlisted⟩ := exists_form_mirror h
  have hinner : (Shape.record flat).inner = [reflection] := by
    rw [Shape.inner, hlisted]
    rfl
  constructor
  · rintro ⟨form, hform', hchild⟩
    obtain rfl := Option.some.inj (hform.symm.trans hform')
    exact List.mem_singleton.mp (hinner ▸ hchild)
  · rintro rfl
    exact ⟨_, hform, hinner ▸ List.mem_singleton_self _⟩

/-- The walk gets to the document and to its property. -/
theorem eq_of_reaches_mirror {node : Json} (h : Reaches mirror.root node) :
    node = mirror.root ∨ node = reflection := by
  induction h with
  | top => exact .inl rfl
  | inner _ hinner ih => exact .inr ((holds_mirror_iff ih).mp hinner)
  | target _ hform _ ih =>
    obtain ⟨flat, hflat, -⟩ := exists_form_mirror ih
    rw [hflat] at hform
    cases hform

/-- A walk that begins at the document or at its property returns with no fuel at all. -/
theorem not_returns_mirror {n : Nat} {c : Call} (h : c.node = mirror.root ∨ c.node = reflection)
    {t : TypeRef} {b : Builder} :
    ¬ Returns (Convert.walk mirror n c.site c.node) c.before t b := by
  intro hreturns
  -- there is a schema inside that has itself inside
  have hinner : Holds mirror.root c.node reflection := (holds_mirror_iff h).mpr rfl
  have hself : Holds mirror.root reflection reflection := (holds_mirror_iff (.inr rfl)).mpr rfl
  exact not_transGen_self (Convert.acc_of_returns hreturns) (.single hinner) (.single hself)

/-- A walk that begins at the document or at its property fails for want of fuel only. -/
theorem walk_failsBy_mirror {n : Nat} {c : Call} (h : c.node = mirror.root ∨ c.node = reflection)
    {hint : String} (hhint : c.site.hint = .str hint) (hb : c.before.Settled) (hopen : c.Open) :
    FailsBy (· = .endless) (Convert.walk mirror n c.site c.node) c.before := by
  refine Convert.walk_failsBy_of_calls (P := fun _ c =>
    (c.node = mirror.root ∨ c.node = reflection) ∧ (∃ hint, c.site.hint = .str hint) ∧
      c.before.Settled ∧ c.Open) ?_ ?_ ?_ ⟨h, ⟨hint, hhint⟩, hb, hopen⟩
  · exact fun _ _ => rfl
  · rintro n c ⟨h, ⟨hint, hhint⟩, hb, hopen⟩
    obtain ⟨flat, hform, htitle, hrequired, hlisted⟩ := exists_form_mirror h
    refine ⟨Call.refusedBy_of_form hform (by simp) fun flat' hflat => ?_, hb.keys_taken, hopen⟩
    obtain rfl := Shape.record.inj hflat
    refine ⟨fun _ f hname => ?_, fun f h => ?_, fun f h => ?_, fun es h entry hentry f hname => ?_⟩
    · rw [htitle, hhint] at hname
      cases hname
    · rw [hrequired] at h
      cases h
    · rw [hlisted] at h
      cases h
    · obtain rfl := Except.ok.inj (hlisted.symm.trans h)
      obtain rfl := List.mem_singleton.mp hentry
      cases hname
  · rintro n c ⟨h, -, hb, -⟩ c' hc'
    obtain ⟨flat, hform, -, -, hlisted⟩ := exists_form_mirror h
    obtain ⟨hmem, hint, hsite⟩ := Convert.mem_of_mem_calls_record hform hlisted hc'
    exact ⟨.inr (List.mem_singleton.mp hmem), ⟨hint, by rw [hsite]⟩,
      Convert.settled_of_mem_calls hb hc', Convert.open_of_mem_calls hc'⟩

/-- If the walk from the beginning fails, then so does the conversion. -/
theorem toGraph_of_throws {d : Document} {topLevel : Json} {key : String} {f : Fault} {b : Builder}
    {member : String × Json} {members : List (String × Json)}
    (hroot : d.root = .obj (member :: members))
    (hkey : TypeName.ofValue topLevel = .ok key)
    (h : Throws (Convert.walk d (Convert.fuel d.root) (.opening topLevel) d.root) (.opening key) f
      b) : (d.toGraph topLevel).1 = .error f := by
  rw [toGraph_eq_error_iff_stops, stops_collect_iff hroot]
  exact .inr ⟨key, hkey, .inl ⟨b, h⟩⟩

/-- No part is a part of itself in the document, and yet its conversion has no end: it fails for
want of fuel, however much there is. -/
theorem not_terminates_mirror :
    (∀ node, Reaches mirror.root node → node.isMerged = true →
      ∀ part, ReflTransGen (Merges mirror.root) node part →
        ¬ TransGen (Merges mirror.root) part part) ∧
    (∀ n, ((mirror.openingCall (.str "Root") "Root").run (Convert.walk mirror n)).1 =
      .error .endless) ∧
    (mirror.toGraph (.str "Root")).1 = .error .endless := by
  have hendless : ∀ n, ∃ after, Throws (Convert.walk mirror n (.opening (.str "Root")) mirror.root)
      (.opening "Root") .endless after := by
    intro n
    let c := mirror.openingCall (.str "Root") "Root"
    rcases hrun : c.run (Convert.walk mirror n) with ⟨result, after⟩
    cases result with
    | ok t => exact absurd hrun (not_returns_mirror (c := c) (.inl rfl))
    | error f =>
      have hfault : f = .endless := walk_failsBy_mirror (c := c) (.inl rfl) rfl
        (settled_opening "Root") (open_openingCall mirror _ _) f after hrun
      exact ⟨after, hfault ▸ hrun⟩
  refine ⟨fun node hnode _ part hpart => ?_, fun n => ?_, ?_⟩
  · have hflat : ∃ flat, Node.flatten mirror.root (node.members?.getD []) = .ok flat := by
      rcases eq_of_reaches_mirror hnode with rfl | rfl
      · exact ⟨_, rfl⟩
      · exact ⟨_, rfl⟩
    obtain ⟨flat, hflat⟩ := hflat
    exact not_transGen_self (Node.acc_of_flattenWith hflat) hpart
  · obtain ⟨after, h⟩ := hendless n
    exact congrArg Prod.fst h
  · obtain ⟨after, h⟩ := hendless (Convert.fuel mirror.root)
    exact toGraph_of_throws rfl rfl h

end Document

end SchemaStruct
