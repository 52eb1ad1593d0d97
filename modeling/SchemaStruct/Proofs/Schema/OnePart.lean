import SchemaStruct.Proofs.Schema.Parts
import SchemaStruct.Proofs.Schema.Repeated

/-!
# Schemas with One Part

A schema that only has one part can stand in the place of the part exactly if the schema that the
part stands for says by its type alone what the part is converted to: then it is converted to values
of the same kind, and allows that there is none if the part does. A schema without a type counts as
that of a record. So records can always be parts, and among what has no list of allowed values all
but points in time, maps and schemas with neither a type nor properties. Of lists the whole forgets
the items.

That its conversion returns does not follow from that of the part. The record of the part may be
known already, and the whole collects the same properties as a record of its own, which has another
name. So the schemas of the properties are walked again, and a name has to be suggested for the
record, because the whole does not take over the title of the part.

A reference that is being expanded already stands for anything, and one that stands for a known
record does not say any more that there may be none. What the part describes is what it is converted
to only if it is no such reference.

## Main definitions

* `Call.onePart`: the call for a schema with one part in the place of the part;
* `Document.StandsIn`: a schema with one part is converted to what the part is converted to;
* `Document.Follows`: a reference at a call is followed, or stands for a record.

## Main results

* `Document.part_cases`: a part is converted to what the schema that it stands for describes, or it
  is a reference that is not followed;
* `Document.exists_returns_onePart`: the conversion of a schema with one part returns;
* `Document.standsIn_iff`: the parts in whose place it can stand;
* `Document.not_transparent_medley`: parts in whose place it cannot.
-/

namespace SchemaStruct

open Document Relation

/-- The call at the same place for a schema that has the schema of the call as its only part. -/
def Call.onePart (c : Call) : Call := { c with node := c.node.onePart }

/-- An object with one member that is a text is known from the name and the text. -/
theorem Json.eq_of_member {node : Json} {name s : String}
    (hkeys : node.members?.map (·.map (·.1)) = some [name])
    (htext : (node.get? name).bind Json.text? = some s) : node = .obj [(name, .str s)] := by
  cases node with
  | obj own =>
    obtain ⟨⟨_, v⟩, rfl, rfl⟩ := List.map_eq_singleton_iff.mp (Option.some.inj hkeys)
    rw [Json.get?, Json.lookup, if_pos rfl] at htext
    cases v with
    | str s' =>
      obtain rfl := Option.some.inj htext
      rfl
    | _ => cases htext
  | _ => cases hkeys

namespace Form

variable {root : Json} {members own : List (String × Json)} {flat : Node}

/-- A schema without references and alternatives describes what its flat form does. -/
theorem of_merged (hmerged : (Json.obj members).isMerged = true)
    (hflat : Node.flatten root members = .ok flat) : of root (.obj members) = ofFlat flat := by
  by_cases hmembers : members = []
  · subst hmembers
    obtain rfl := Except.ok.inj hflat
    rfl
  · obtain ⟨href, hlisted⟩ := Json.isMerged_obj_iff.mp hmerged
    rw [of_flat hmembers href hlisted, hflat]
    rfl

/-- A schema with one part describes what is taken over from the part. -/
theorem of_onePart (hpart : partTarget root own = .ok (.obj members))
    (hflat : Node.flattenWith root (root.size + 1) members = .ok flat) :
    of root (Json.onePart (.obj own)) = flat.kept.toOption.bind ofFlat := by
  have hwhole : Node.flatten root [("allOf", .arr [.obj own])] = flat.kept := by
    rw [Node.flatten, Node.flattenWith_onePart, hpart]
    show (Node.flattenWith root (root.size + 1) members >>= _) = _
    rw [hflat]
    rfl
  rw [Json.onePart, of_flat (by simp) rfl rfl, hwhole]

/-- A schema that describes something may have a reference that is a text. -/
theorem eq_of_lookup_ref {form : Form} {ref : Json} (href : Json.lookup "$ref" own = some ref)
    (hform : of root (.obj own) = some form) :
    ∃ r, ref = .str r ∧ form = ⟨.reference r, false⟩ := by
  have hown : own = [] → False := by
    rintro rfl
    cases href
  rw [of.eq_3 _ _ hown, href] at hform
  cases ref with
  | str r => exact ⟨r, rfl, (Option.some.inj hform).symm⟩
  | _ => cases hform

end Form

namespace Convert

variable {d : Document} {w : Walk} {site : Site} {b b' : Builder} {t : TypeRef} {n : Nat}

/-- What a step gives of a shape is of the kind that the shape says. -/
theorem kind_of_gives {shape : Shape} {kind : FieldKind} (h : Gives d w site b shape t b')
    (hkind : shape.kind? = some kind) : t.kind = kind ∧ t.nullable = false := by
  cases h with
  | known _ => cases hkind
  | cut _ _ => cases hkind
  | target _ _ _ _ => cases hkind
  | alternative _ => cases hkind
  | _ => exact ⟨Option.some.inj hkind, rfl⟩

/-- What the walk gives is of the kind that the form of the schema says. -/
theorem kind_of_walk {node : Json} {form : Form} {kind : FieldKind}
    (h : Returns (walk d n site node) b t b') (hform : Form.of d.root node = some form)
    (hkind : form.shape.kind? = some kind) : t.kind = kind ∧ t.nullable = form.nullable := by
  obtain ⟨m, rfl, form', u, hform', hgives, rfl⟩ := returns_walk h
  obtain rfl := Option.some.inj (hform.symm.trans hform')
  obtain ⟨hu, hnullable⟩ := kind_of_gives hgives hkind
  refine ⟨by rw [TypeRef.kind_withNullableIf, hu], ?_⟩
  cases form.nullable with
  | false => exact hnullable
  | true => rfl

/-- Only records are objects. -/
theorem record_of_gives {shape : Shape} (h : Gives d w site b shape t b')
    (hkind : shape.kind? = some .object) : ∃ flat, shape = .record flat := by
  cases h with
  | scalar _ hother => exact absurd (Option.some.inj hkind) hother.1
  | record _ => exact ⟨_, rfl⟩
  | _ => cases hkind

/-- Of lists, a schema with one part forgets the items. -/
theorem items_of_walk {node : Json} {flat kept : Node} (hkept : flat.kept = .ok kept)
    (hform : Form.of d.root node = Form.ofFlat kept)
    (h : Returns (walk d n site node) b t b') :
    t.items = if t.kind = .array then some .any else none := by
  obtain ⟨m, rfl, ⟨shape, nullable⟩, u, hform', hgives, rfl⟩ := returns_walk h
  rw [TypeRef.items_withNullableIf, TypeRef.kind_withNullableIf]
  rcases Form.shape_of_kept hkept (hform ▸ hform') with ⟨kind, rfl⟩ | rfl | rfl
  · cases hgives with
    | scalar notices hother => exact (if_neg hother.2.1).symm
  · cases hgives with
    | list hitems =>
      -- the items may be anything
      obtain ⟨k, rfl, -⟩ := returns_walk hitems
      obtain ⟨rfl, -⟩ := returns_pure_iff.mp hitems
      rfl
  · cases hgives with
    | record _ => rfl

/-- A schema with one part makes calls for its properties, or where anything is described. -/
theorem mem_of_mem_calls_onePart {c c' : Call} {flat kept : Node} {form : Form}
    (hkept : flat.kept = .ok kept) (hof : Form.ofFlat kept = some form)
    (hform : Form.of d.root c.node = some form) (h : c' ∈ calls d w c) :
    c'.node = .bool true ∨ form.shape = .record kept ∧ c'.node ∈ (Shape.record kept).inner ∧
      ∃ s, c'.site = { hint := .str s, pending := c.site.pending } := by
  obtain ⟨shape, nullable⟩ := form
  rcases Form.shape_of_kept hkept hof with ⟨kind, rfl⟩ | rfl | rfl
  · simp [calls, hform, shapeCalls] at h
  · simp only [calls, hform, shapeCalls, List.mem_singleton] at h
    exact .inl (h ▸ rfl)
  · obtain ⟨entries, -, hlisted⟩ := Node.exists_listed_of_kept hkept
    obtain ⟨hmem, hsite⟩ := mem_of_mem_calls_record hform hlisted h
    exact .inr ⟨rfl, by simpa only [Shape.inner, hlisted] using hmem, hsite⟩

end Convert

/-- If nothing that is checked about a record is refused, then neither is what is taken over from
it, where a usable name is suggested. -/
theorem Node.RefusedBy.kept {site site' : Site} {b b' : Builder} {flat kept : Node} {name : String}
    (h : flat.RefusedBy (fun _ => False) site b) (hkept : flat.kept = .ok kept)
    (hname : TypeName.ofValue site'.hint = .ok name) :
    kept.RefusedBy (fun _ => False) site' b' := by
  obtain ⟨entries, names, hentries, hnames, hkept'⟩ := Node.eq_of_kept hkept
  have hlisted : flat.listed = .ok entries := by
    cases hlisted : flat.listed with
    | error f => exact (h.listed f hlisted).elim
    | ok es => exact (Node.contributed_of_listed hlisted).symm.trans hentries
  have hhashable : ∀ v ∈ names, v.requireHashable = .ok () := by
    cases hrequired : flat.requiredNames with
    | error f => exact (h.required f hrequired).elim
    | ok required =>
      obtain ⟨values, hvalues, hrequired⟩ := ok_of_bind hrequired
      obtain ⟨_, hcheck, -⟩ := ok_of_bind hrequired
      obtain rfl := Except.ok.inj (hnames.symm.trans hvalues)
      exact forM_eq_ok_iff.mp hcheck
  refine ⟨fun _ f hf => ?_, fun f hf => ?_, fun f hf => ?_, fun es hes entry hentry f hf => ?_⟩
  · -- the title is not taken over
    rw [Node.get?_of_kept hkept (by decide)] at hf
    cases hname.symm.trans hf
  · rw [hkept'] at hf
    rcases error_of_bind hf with hf | ⟨values, hvalues, hf⟩
    · cases hf
    · obtain rfl := Except.ok.inj hvalues
      rcases error_of_bind hf with hf | ⟨_, -, hf⟩
      · obtain ⟨v, hv, hf⟩ := error_of_forM hf
        have hmem := (Gathered.mem_of_mem_extend hv).resolve_left List.not_mem_nil
        cases (hhashable v hmem).symm.trans hf
      · cases hf
  · rw [hkept'] at hf
    cases hf
  · rw [hkept'] at hes
    obtain rfl := Except.ok.inj hes
    have hnames := fun e he => h.entries entries hlisted e he f
    exact (Entries.forall_mem_update (p := fun name => TypeName.ofEntry name = .error f → False)
      (q := fun _ => True) (by simp) (fun e he => ⟨hnames e he, trivial⟩) entry hentry).1 hf

/-- Nothing is refused about a record without properties, where a usable name is suggested. -/
theorem Node.refusedBy_kept_of_empty {site : Site} {b : Builder} {flat kept : Node} {name : String}
    (hlisted : flat.contributed = .ok []) (hrequired : flat.required = .ok [])
    (hkept : flat.kept = .ok kept) (hname : TypeName.ofValue site.hint = .ok name) :
    kept.RefusedBy (fun _ => False) site b ∧ (Shape.record kept).inner = [] := by
  obtain ⟨entries, names, hentries, hnames, hkept'⟩ := Node.eq_of_kept hkept
  obtain rfl := Except.ok.inj (hlisted.symm.trans hentries)
  obtain rfl := Except.ok.inj (hrequired.symm.trans hnames)
  have hnone : kept.listed = .ok [] := by
    rw [hkept']
    rfl
  refine ⟨⟨fun _ f hf => ?_, fun f hf => ?_, fun f hf => ?_, fun es hes => ?_⟩, ?_⟩
  · rw [Node.get?_of_kept hkept (by decide)] at hf
    cases hname.symm.trans hf
  · rw [hkept'] at hf
    cases hf
  · cases hnone.symm.trans hf
  · obtain rfl := Except.ok.inj (hnone.symm.trans hes)
    simp
  · rw [Shape.inner, hnone]
    rfl

namespace Document

variable {d : Document} {topLevel : Json} {g : TypeGraph} {c : Call} {n : Nat}

/-- A call of the conversion is made within the document. -/
theorem within_of_met (hmet : (n, c) ∈ d.met topLevel) : Convert.Within d.root c := by
  obtain ⟨key, -, hmem, -⟩ := exists_openingCall hmet
  exact Convert.of_mem_met (fun _ _ _ hc hcall => hc.call hcall)
    (within_openingCall d topLevel key) hmem

/-- A call of the conversion is open. -/
theorem open_of_met (hmet : (n, c) ∈ d.met topLevel) : c.Open := by
  obtain ⟨key, -, hmem, -⟩ := exists_openingCall hmet
  exact Convert.of_mem_met (P := Call.Open) (fun _ _ _ _ hcall => Convert.open_of_mem_calls hcall)
    (open_openingCall d topLevel key) hmem

/-- A schema with one part stands in the place of the part, which is converted to a type at a call:
it is converted there to a type of the same kind that allows that there is no value if the other
does. The items of lists may be anything. -/
def StandsIn (d : Document) (c : Call) (t : TypeRef) : Prop :=
  ∃ t' after, (∀ m, Convert.fuel d.root < m →
      Returns (Convert.walk d m c.site c.node.onePart) c.before t' after) ∧
    t'.kind = t.kind ∧ t'.nullable = t.nullable ∧
    t'.items = if t.kind = .array then some .any else none

/-- A reference at the call is followed, or stands for a record that is not missing. -/
def Follows (d : Document) (c : Call) : Prop :=
  ∀ r, c.node.get? "$ref" = some (.str r) →
    c.before.record? r = none ∧ r ∉ c.site.pending ∨
      (c.before.record? r).isSome ∧ ∀ target form, Pointer.resolve d.root r = .ok target →
        Form.of d.root target = some form → form.nullable = false

section

variable (hg : (d.toGraph topLevel).1 = .ok g) (hmet : (n, c) ∈ d.met topLevel)
  {t : TypeRef} {after : Builder} {own members : List (String × Json)} {target : Json}

include hg hmet

/-- What a part stands for has been walked. -/
theorem exists_met_of_part (hnode : c.node = .obj own)
    (hpart : partTarget d.root own = .ok target) : ∃ m e, (m, e) ∈ d.met topLevel ∧
      e.node = target := by
  cases href : Json.lookup "$ref" own with
  | none =>
    rw [partTarget, href] at hpart
    exact ⟨n, c, hmet, hnode.trans (Except.ok.inj hpart)⟩
  | some ref =>
    obtain ⟨m, t, b', -, -, hstep, -⟩ := exists_step_of_met hg hmet
    obtain ⟨form, u, hform, -, -⟩ := Convert.returns_step hstep
    obtain ⟨r, rfl, rfl⟩ := Form.eq_of_lookup_ref href (hnode ▸ hform)
    obtain ⟨k, e, he, hresolve, -⟩ := exists_met_of_reference hg hmet hform
    rw [partTarget, href] at hpart
    exact ⟨k, e, he, Except.ok.inj (hresolve.symm.trans hpart)⟩

/-- A part is converted to what the schema that it stands for describes, unless it is a reference
that stands for a known record or one that is being expanded. -/
theorem part_cases (ht : Returns (Convert.walk d n c.site c.node) c.before t after)
    (hnode : c.node = .obj own) (hpart : partTarget d.root own = .ok target) {form : Form}
    {kind : FieldKind} (hform : Form.of d.root target = some form)
    (hkind : form.shape.kind? = some kind) :
    (t.kind = kind ∧ t.nullable = form.nullable) ∨
      (∃ r, c.node.get? "$ref" = some (.str r) ∧ (c.before.record? r).isSome ∧
        Pointer.resolve d.root r = .ok target ∧ kind = .object ∧
        t.kind = .object ∧ t.nullable = false) ∨
      ∃ r, c.node.get? "$ref" = some (.str r) ∧ c.before.record? r = none ∧ r ∈ c.site.pending ∧
        t.kind = .any := by
  cases href : Json.lookup "$ref" own with
  | none =>
    rw [partTarget, href] at hpart
    have hself : c.node = target := hnode.trans (Except.ok.inj hpart)
    exact .inl (Convert.kind_of_walk ht (hself ▸ hform) hkind)
  | some ref =>
    obtain ⟨m, rfl, form₀, u, hform₀, hgives, rfl⟩ := Convert.returns_walk ht
    obtain ⟨r, rfl, rfl⟩ := Form.eq_of_lookup_ref href (hnode ▸ hform₀)
    have hresolve : Pointer.resolve d.root r = .ok target := by
      rw [partTarget, href] at hpart
      exact hpart
    have hr : c.node.get? "$ref" = some (.str r) := hnode ▸ href
    rw [TypeRef.withNullableIf_false]
    cases hgives with
    | known hknown =>
      -- what the reference points to describes a record
      obtain ⟨-, -, -, -, ⟨hb, -⟩, -⟩ := exists_step_of_met hg hmet
      obtain ⟨target', flat, nullable, hresolve', hrecord⟩ := hb.isRecordRef r _ hknown
      obtain rfl := Except.ok.inj (hresolve.symm.trans hresolve')
      obtain rfl := Option.some.inj (hform.symm.trans hrecord)
      exact .inr (.inl
        ⟨r, hr, by rw [hknown]; rfl, hresolve, (Option.some.inj hkind).symm, rfl, rfl⟩)
    | cut hknown hpending => exact .inr (.inr ⟨r, hr, hknown, hpending, rfl⟩)
    | target _ _ hresolve' hwalk =>
      obtain rfl := Except.ok.inj (hresolve.symm.trans hresolve')
      exact .inl (Convert.kind_of_walk hwalk hform hkind)

/-- A part whose reference is followed is converted to what it stands for. -/
theorem kind_of_part (ht : Returns (Convert.walk d n c.site c.node) c.before t after)
    (hnode : c.node = .obj own) (hpart : partTarget d.root own = .ok target)
    (hfollows : d.Follows c) {form : Form} {kind : FieldKind}
    (hform : Form.of d.root target = some form) (hkind : form.shape.kind? = some kind) :
    t.kind = kind ∧ t.nullable = form.nullable := by
  rcases part_cases hg hmet ht hnode hpart hform hkind with
    h | ⟨r, hr, hknown, hresolve, rfl, hobject, hpresent⟩ | ⟨r, hr, hknown, hpending, -⟩
  · exact h
  · rcases hfollows r hr with ⟨hnone, -⟩ | ⟨-, hnullable⟩
    · rw [hnone] at hknown
      cases hknown
    · exact ⟨hobject, hpresent.trans (hnullable target form hresolve hform).symm⟩
  · rcases hfollows r hr with ⟨-, hnew⟩ | ⟨hsome, -⟩
    · exact absurd hpending hnew
    · rw [hknown] at hsome
      cases hsome

/-- A part that is converted to a record stands for the schema of one. -/
theorem kind?_of_part (ht : Returns (Convert.walk d n c.site c.node) c.before t after)
    (hnode : c.node = .obj own) (hpart : partTarget d.root own = .ok target) {form : Form}
    {kind : FieldKind} (hform : Form.of d.root target = some form)
    (hkind : form.shape.kind? = some kind) (hobject : t.kind = .object) : kind = .object := by
  rcases part_cases hg hmet ht hnode hpart hform hkind with
    ⟨hsame, -⟩ | ⟨_, -, -, -, hrecord, -⟩ | ⟨_, -, -, -, hany⟩
  · exact hsame.symm.trans hobject
  · exact hrecord
  · exact nomatch hobject.symm.trans hany

/-- The conversion of a schema with one part returns if it can be named, as far as it is a record,
and if the schemas of the properties that are taken over have been walked. -/
theorem exists_returns_onePart {flat kept : Node} {form : Form}
    (hnode : c.node = .obj own) (hpart : partTarget d.root own = .ok (.obj members))
    (hflat : Node.flattenWith d.root (d.root.size + 1) members = .ok flat)
    (hkept : flat.kept = .ok kept) (hof : Form.ofFlat kept = some form)
    (hrecord : form.shape = .record kept → kept.RefusedBy (fun _ => False) c.site c.before ∧
      ∀ child ∈ (Shape.record kept).inner, ∃ m e, (m, e) ∈ d.met topLevel ∧
        Holds d.root e.node child) :
    ∃ t' after', ∀ m, Convert.fuel d.root < m →
      Returns (Convert.walk d m c.site c.node.onePart) c.before t' after' := by
  have hform : Form.of d.root c.onePart.node = some form := by
    rw [Call.onePart, hnode, Form.of_onePart hpart hflat, hkept]
    exact hof
  have hb := settled_of_met hmet
  have hopen : c.Open := open_of_met hmet
  obtain ⟨k, hk⟩ : ∃ k, Convert.fuel d.root = k + 1 :=
    ⟨_, (Nat.sub_add_cancel (Nat.mul_pos (Nat.succ_pos _) (Nat.succ_pos _))).symm⟩
  -- the whole asks for anything, or for the properties of a record: those have been walked where
  -- the part was met, and are repeated here under other names
  have hcalls : ∀ c' ∈ Convert.calls d (Convert.walk d (k + 1)) c.onePart,
      Convert.Fits d (k + 1) c' ∧
        FailsBy (fun _ => False) (Convert.walk d (k + 1) c'.site c'.node) c'.before := by
    intro c' hc'
    rcases Convert.mem_of_mem_calls_onePart hkept hof hform hc' with
      htrue | ⟨hshape, hmem, s, hs⟩
    · refine ⟨fun c'' hc'' => ?_, ?_⟩
      · simp [Convert.calls, htrue, Form.of, Convert.shapeCalls] at hc''
      · rw [htrue]
        exact .pure _ _
    · obtain ⟨m, e, he, hholds⟩ := (hrecord hshape).2 _ hmem
      obtain ⟨m', e', he', hnode', hint', hsite, -⟩ := exists_met_of_holds hg he hholds
      have hrepeats : d.Repeats topLevel e' c' :=
        ⟨⟨m', he'⟩, hnode', by rw [hsite, hs], .inl ⟨s, by rw [hs]⟩⟩
      have hwithin : Convert.Within d.root c' := by
        obtain ⟨-, hnodup, hreferences⟩ := within_of_met hmet
        exact ⟨(within_of_met he).reaches.inner hholds, by rw [hs]; exact hnodup,
          by rw [hs]; exact hreferences⟩
      have hfits := hk ▸ Convert.fits_of_within (fun _ hnode => not_holds_self hg hnode) hwithin
      exact ⟨hfits, hrepeats.failsBy hg hfits (Convert.settled_of_mem_calls (c := c.onePart) hb hc')
        (Convert.open_of_mem_calls hc')⟩
  have hshape := Form.shape_of_kept hkept hof
  have hfails : FailsBy (fun _ => False)
      (Convert.walk d (k + 2) c.onePart.site c.onePart.node) c.onePart.before := by
    refine Convert.step_failsBy_of_calls (Call.refusedBy_of_form hform (fun r hr => ?_)
      fun whole hwhole => ?_) hb.keys_taken hopen fun c' hc' => (hcalls c' hc').2
    · rw [hr] at hshape
      simp at hshape
    · rw [hwhole] at hshape
      obtain rfl : whole = kept := by simpa using hshape
      exact (hrecord hwhole).1
  obtain ⟨t', after', hreturns⟩ := hfails.exists_returns
  have hfits : Convert.Fits d (k + 2) c.onePart := fun c' hc' => (hcalls c' hc').1
  refine ⟨t', after', fun m hm => ?_⟩
  exact (Convert.run_of_fits hfits (hk ▸ hm : k + 1 < m)).1.trans hreturns

/-- The schema that a part stands for describes what its flat form does, which is found with less
fuel than that of the whole. -/
theorem exists_flattenWith_of_part {flat : Node} (hnode : c.node = .obj own)
    (hpart : partTarget d.root own = .ok (.obj members))
    (hmerged : (Json.obj members).isMerged = true)
    (hflat : Node.flatten d.root members = .ok flat) : ∃ form,
      Node.flattenWith d.root (d.root.size + 1) members = .ok flat ∧
      Form.of d.root (.obj members) = some form ∧ Form.ofFlat flat = some form := by
  obtain ⟨k, e, he, hnode'⟩ := exists_met_of_part hg hmet hnode hpart
  have hreaches : Reaches d.root (.obj members) := hnode' ▸ (within_of_met he).reaches
  obtain ⟨m, t, b', -, -, hstep, -⟩ := exists_step_of_met hg he
  obtain ⟨form, u, hform, -, -⟩ := Convert.returns_step hstep
  rw [hnode'] at hform
  have hless := Node.flattenWith_of_flatten (fun part hp => not_merges_self hg hreaches hmerged hp)
    hreaches.covers.mem_values_of_obj hflat
  exact ⟨form, hless, hform, (Form.of_merged hmerged hflat).symm.trans hform⟩

/-- The record that a part stands for is collected without a refusal at a call for its schema. -/
theorem exists_refusedBy_of_part {flat : Node} {form : Form} (hnode : c.node = .obj own)
    (hpart : partTarget d.root own = .ok (.obj members))
    (hform : Form.of d.root (.obj members) = some form) (hof : Form.ofFlat flat = some form)
    (hkind : form.shape.kind? = some .object) :
    form.shape = .record flat ∧ ∃ k e, (k, e) ∈ d.met topLevel ∧
      Form.of d.root e.node = some form ∧ flat.RefusedBy (fun _ => False) e.site e.before := by
  obtain ⟨k, e, he, hnode'⟩ := exists_met_of_part hg hmet hnode hpart
  obtain ⟨m, t, b', -, -, hstep, -⟩ := exists_step_of_met hg he
  obtain ⟨form', u, hform', hgives, -⟩ := Convert.returns_step hstep
  obtain rfl := Option.some.inj (hform.symm.trans (hnode' ▸ hform'))
  obtain ⟨shape, nullable⟩ := form
  obtain ⟨flat', rfl⟩ := Convert.record_of_gives hgives hkind
  obtain rfl := Form.eq_of_ofFlat_record hof
  exact ⟨rfl, k, e, he, hform',
    ((repeats_self he).refusedBy hg (settled_of_met he)).record flat nullable hform'⟩

/-- The record that a part stands for is taken over without a refusal, and the schemas inside of it
have been walked. -/
theorem refusedBy_of_part {flat kept : Node} {form : Form} {name : String}
    (hnode : c.node = .obj own) (hpart : partTarget d.root own = .ok (.obj members))
    (hform : Form.of d.root (.obj members) = some form) (hof : Form.ofFlat flat = some form)
    (hkind : form.shape.kind? = some .object) (hkept : flat.kept = .ok kept)
    (hname : TypeName.ofValue c.site.hint = .ok name) :
    kept.RefusedBy (fun _ => False) c.site c.before ∧
      ∀ child ∈ (Shape.record kept).inner, ∃ m e, (m, e) ∈ d.met topLevel ∧
        Holds d.root e.node child := by
  obtain ⟨hshape, k, e, he, hform', hrefused⟩ :=
    exists_refusedBy_of_part hg hmet hnode hpart hform hof hkind
  refine ⟨hrefused.kept hkept hname, fun child hchild => ?_⟩
  cases hlisted : flat.listed with
  | error f => exact (hrefused.listed f hlisted).elim
  | ok entries =>
    exact ⟨k, e, he, form, hform', by rw [hshape]; exact Node.inner_kept hkept hlisted hchild⟩

section

variable {flat : Node} (hnode : c.node = .obj own)
  (hpart : partTarget d.root own = .ok (.obj members))
  (hflat : Node.flatten d.root members = .ok flat)

include hnode hpart hflat

/-- What a part stands for is flattened with less fuel than the whole, if it is converted by its own
keywords or has no parts itself. -/
theorem flattenWith_of_part
    (h : (Json.obj members).isMerged = true ∨ Json.lookup "allOf" members = none) :
    Node.flattenWith d.root (d.root.size + 1) members = .ok flat := by
  rcases h with hmerged | hall
  · obtain ⟨form, hless, -⟩ := exists_flattenWith_of_part hg hmet hnode hpart hmerged hflat
    exact hless
  · rw [← hflat, Node.flatten, Node.flattenWith, Node.flattenWith, hall]

/-- What is taken over from a part is collected without a refusal if the part is converted to a
record: either it is the record of the part, or it has no properties. -/
theorem refusedBy_onePart (ht : Returns (Convert.walk d n c.site c.node) c.before t after)
    {kept : Node} {name : String}
    (hreads : (Json.obj members).isMerged = true ∨ Json.lookup "allOf" members = none ∧
      Json.lookup "properties" members = none ∧ Json.lookup "required" members = none)
    (hobject : t.kind = .object) (hkept : flat.kept = .ok kept)
    (hname : TypeName.ofValue c.site.hint = .ok name) :
    kept.RefusedBy (fun _ => False) c.site c.before ∧
      ∀ child ∈ (Shape.record kept).inner, ∃ m e, (m, e) ∈ d.met topLevel ∧
        Holds d.root e.node child := by
  rcases hreads with hmerged | ⟨hall, hproperties, hrequired⟩
  · obtain ⟨form, -, hform, hof⟩ :=
      exists_flattenWith_of_part hg hmet hnode hpart hmerged hflat
    obtain ⟨kind, hkind⟩ := Form.exists_kind?_of_ofFlat hof
    obtain rfl := kind?_of_part hg hmet ht hnode hpart hform hkind hobject
    exact refusedBy_of_part hg hmet hnode hpart hform hof hkind hkept hname
  · -- a reference or an alternative has led to the record, so nothing of it is taken over
    rw [Node.flatten, Node.flattenWith, hall] at hflat
    obtain rfl := Except.ok.inj hflat
    obtain ⟨hrefused, hinner⟩ := Node.refusedBy_kept_of_empty (b := c.before)
      (by simp [Node.contributed, Node.get?, hproperties])
      (by simp [Node.required, Node.get?, hrequired]) hkept hname
    exact ⟨hrefused, by simp [hinner]⟩

/-- What a schema with one part describes is what the type of the part says by itself. -/
theorem form_onePart_iff
    (h : (Json.obj members).isMerged = true ∨ Json.lookup "allOf" members = none)
    {kind : FieldKind} {nullable : Bool} :
    (∃ kept form, flat.kept = .ok kept ∧ Form.ofFlat kept = some form ∧
      Form.of d.root c.node.onePart = some form ∧
      form.shape.kind? = some kind ∧ form.nullable = nullable) ↔
      flat.Gathers ∧ flat.typeKind? = some (kind, nullable) := by
  have hwhole : Form.of d.root c.node.onePart = flat.kept.toOption.bind Form.ofFlat := by
    rw [hnode, Form.of_onePart hpart (flattenWith_of_part hg hmet hnode hpart hflat h)]
  rw [← Node.exists_kept_iff]
  constructor
  · rintro ⟨kept, form, hkept, hof, -, hkind, hnullable⟩
    refine ⟨⟨kept, hkept⟩, ?_⟩
    rw [← Form.summary?_ofFlat_kept hkept, hof]
    exact Form.summary?_eq_some_iff.mpr ⟨hkind, hnullable⟩
  · rintro ⟨⟨kept, hkept⟩, hsaid⟩
    rw [← Form.summary?_ofFlat_kept hkept] at hsaid
    obtain ⟨form, hof, hsaid⟩ := Option.bind_eq_some_iff.mp hsaid
    exact ⟨kept, form, hkept, hof, by rw [hwhole, hkept]; exact hof,
      Form.summary?_eq_some_iff.mp hsaid⟩

/-- A schema stands in the place of its only part exactly if its type says by itself what the part
is converted to. -/
theorem standsIn_iff_typeKind? (ht : Returns (Convert.walk d n c.site c.node) c.before t after)
    (hreads : (Json.obj members).isMerged = true ∨
      Json.lookup "allOf" members = none ∧ (t.kind = .object →
        Json.lookup "properties" members = none ∧ Json.lookup "required" members = none))
    (hname : t.kind = .object → ∃ name, TypeName.ofValue c.site.hint = .ok name) :
    d.StandsIn c t ↔ flat.Gathers ∧ flat.typeKind? = some (t.kind, t.nullable) := by
  have hall := hreads.imp_right And.left
  rw [← form_onePart_iff hg hmet hnode hpart hflat hall]
  constructor
  · -- what the whole is converted to shows what it describes
    rintro ⟨t', after', hreturns, hsame, hsame', -⟩
    have hreturns := hreturns _ (Nat.lt_succ_self _)
    obtain ⟨m, -, form, u, hform, -, -⟩ := Convert.returns_walk hreturns
    have hwhole := hform
    rw [hnode, Form.of_onePart hpart (flattenWith_of_part hg hmet hnode hpart hflat hall)] at hwhole
    obtain ⟨kept, hkept, hof⟩ := Option.bind_eq_some_iff.mp hwhole
    obtain ⟨kind, hkind⟩ := Form.exists_kind?_of_ofFlat hof
    obtain ⟨hkind', hnullable⟩ := Convert.kind_of_walk hreturns hform hkind
    exact ⟨kept, form, ok_of_toOption hkept, hof, hform,
      by rw [hkind, ← hkind', hsame], by rw [← hnullable, hsame']⟩
  · -- what the whole describes is converted, as a record under the name that is suggested
    rintro ⟨kept, form, hkept, hof, hform, hkind, hnullable⟩
    have hless := flattenWith_of_part hg hmet hnode hpart hflat hall
    obtain ⟨t', after', hreturns⟩ := exists_returns_onePart hg hmet hnode hpart hless hkept hof
      fun hrecord => by
        have hobject : t.kind = .object := by
          rw [hrecord] at hkind
          exact (Option.some.inj hkind).symm
        obtain ⟨name, hname⟩ := hname hobject
        exact refusedBy_onePart hg hmet hnode hpart hflat ht
          (hreads.imp_right fun h => ⟨h.1, h.2 hobject⟩) hobject hkept hname
    have hwalk := hreturns _ (Nat.lt_succ_self _)
    obtain ⟨hkind', hnullable'⟩ := Convert.kind_of_walk hwalk hform hkind
    refine ⟨t', after', hreturns, hkind', hnullable'.trans hnullable, ?_⟩
    rw [← hkind']
    exact Convert.items_of_walk hkept (hform.trans hof.symm) hwalk

end

/-- The record that a part stands for is taken over, and its type says by itself that it is one. -/
theorem gathers_and_typeKind?_of_part {flat : Node} {form : Form} (hnode : c.node = .obj own)
    (hpart : partTarget d.root own = .ok (.obj members))
    (hform : Form.of d.root (.obj members) = some form) (hof : Form.ofFlat flat = some form)
    (hkind : form.shape.kind? = some .object) :
    flat.Gathers ∧ flat.typeKind? = some (.object, form.nullable) := by
  obtain ⟨hshape, k, e, -, -, hrefused⟩ :=
    exists_refusedBy_of_part hg hmet hnode hpart hform hof hkind
  obtain ⟨shape, nullable⟩ := form
  obtain rfl := hshape
  refine ⟨?_, Node.typeKind?_of_record hof⟩
  cases hlisted : flat.listed with
  | error f => exact (hrefused.listed f hlisted).elim
  | ok entries =>
    cases hrequired : flat.requiredNames with
    | error f => exact (hrefused.required f hrequired).elim
    | ok names => exact Node.gathers_of_record hlisted hrequired

/-- A schema stands in the place of its only part exactly if there is something to take over from
what the part stands for, and its type says by itself what the part is converted to. Records are
such parts, and without a list of allowed values so is all but points in time, maps and schemas with
neither a type nor properties. -/
theorem standsIn_iff {flat : Node}
    (ht : Returns (Convert.walk d n c.site c.node) c.before t after) (hnode : c.node = .obj own)
    (hpart : partTarget d.root own = .ok (.obj members))
    (hflat : Node.flatten d.root members = .ok flat)
    (hreads : (Json.obj members).isMerged = true ∨
      Json.lookup "allOf" members = none ∧ (t.kind = .object →
        Json.lookup "properties" members = none ∧ Json.lookup "required" members = none))
    (hname : t.kind = .object → ∃ name, TypeName.ofValue c.site.hint = .ok name) :
    (d.StandsIn c t ↔ flat.Gathers ∧ flat.typeKind? = some (t.kind, t.nullable)) ∧
      ((Json.obj members).isMerged = true → d.Follows c →
        (t.kind = .object → d.StandsIn c t) ∧
        (flat.get? "enum" = none → (d.StandsIn c t ↔ flat.Gathers ∧
          t.kind ≠ .timestamp ∧ t.kind ≠ .map ∧
          (Json.orNull (flat.get? "type") = .null → flat.hasProperties = true)))) := by
  have hiff := standsIn_iff_typeKind? hg hmet hnode hpart hflat ht hreads hname
  refine ⟨hiff, fun hmerged hfollows => ?_⟩
  obtain ⟨form, -, hform, hof⟩ := exists_flattenWith_of_part hg hmet hnode hpart hmerged hflat
  obtain ⟨kind, hkind⟩ := Form.exists_kind?_of_ofFlat hof
  obtain ⟨rfl, hnullable⟩ := kind_of_part hg hmet ht hnode hpart hfollows hform hkind
  rw [hiff, hnullable]
  refine ⟨fun hobject => ?_, fun henum => and_congr_right fun _ =>
    Node.typeKind?_eq_iff henum hof hkind⟩
  rw [hobject] at hkind ⊢
  exact gathers_and_typeKind?_of_part hg hmet hnode hpart hform hof hkind

end

/-- What the call gives when it is made in the document: the kind, whether there may be no value,
and the kind of the items. -/
def summary (d : Document) (n : Nat) (c : Call) : Option (FieldKind × Bool × Option FieldKind) :=
  (c.run (Convert.walk d n)).1.toOption.map fun t => (t.kind, t.nullable, t.items.map (·.kind))

/-- The summary of a call says of which kind the result of the walk is. -/
theorem kind_of_summary {d : Document} {n : Nat} {c : Call} {t : TypeRef} {after : Builder}
    {kind : FieldKind} {nullable : Bool} {items : Option FieldKind}
    (h : Returns (Convert.walk d n c.site c.node) c.before t after)
    (hsummary : d.summary n c = some (kind, nullable, items)) : t.kind = kind := by
  rw [summary, show (c.run (Convert.walk d n)).1 = .ok t from congrArg Prod.fst h] at hsummary
  exact congrArg Prod.fst (Option.some.inj hsummary)

/-- A document with a record of points that refer to points, and with a length by way of another
reference. -/
def sketch : Document where
  root := .obj
    [("properties", .obj
      [("start", .obj [("$ref", .str "#/definitions/point")]),
        ("way", .obj
          [("type", .str "array"), ("items", .obj [("$ref", .str "#/definitions/point")])]),
        ("size", .obj [("$ref", .str "#/definitions/length")])]),
      ("definitions", .obj
        [("point", .obj
          [("properties", .obj
            [("x", .obj [("type", .str "number")]),
              ("next", .obj [("$ref", .str "#/definitions/point")])])]),
          ("length", .obj [("$ref", .str "#/definitions/measure")]),
          ("measure", .obj [("type", .str "number")])])]

/-- The theorem at three parts: a reference to a record that is known, a number, and a reference to
a reference. The last one has no type to be taken over. -/
theorem standsIn_iff_sketch :
    ∃ g, (sketch.toGraph (.str "Root")).1 = .ok g ∧
      (∃ n c t after, (n, c) ∈ sketch.met (.str "Root") ∧
        c.node = .obj [("$ref", .str "#/definitions/point")] ∧
        (c.before.record? "#/definitions/point").isSome ∧
        Returns (Convert.walk sketch n c.site c.node) c.before t after ∧ t.kind = .object ∧
        sketch.StandsIn c t) ∧
      (∃ n c t after, (n, c) ∈ sketch.met (.str "Root") ∧
        c.node = .obj [("type", .str "number")] ∧
        Returns (Convert.walk sketch n c.site c.node) c.before t after ∧ t.kind = .float ∧
        sketch.StandsIn c t) ∧
      ∃ n c t after, (n, c) ∈ sketch.met (.str "Root") ∧
        c.node = .obj [("$ref", .str "#/definitions/length")] ∧
        Returns (Convert.walk sketch n c.site c.node) c.before t after ∧ t.kind = .float ∧
        ¬ sketch.StandsIn c t := by
  have hsome : (sketch.toGraph (.str "Root")).1.toOption.isSome := by decide +kernel
  obtain ⟨g, hg⟩ := Option.isSome_iff_exists.mp hsome
  have hgraph := toGraph_of_toOption hg
  obtain ⟨b, hall⟩ := exists_returns_of_mem_met hgraph
  refine ⟨g, hgraph, ?_, ?_, ?_⟩
  · obtain ⟨⟨n, c⟩, hmet, hkeys, htext, hknown, hhint, hsummary⟩ : ∃ x ∈ sketch.met (.str "Root"),
        x.2.node.members?.map (·.map (·.1)) = some ["$ref"] ∧
          (x.2.node.get? "$ref").bind Json.text? = some "#/definitions/point" ∧
          (x.2.before.record? "#/definitions/point").isSome ∧ x.2.site.hint.text?.isSome ∧
          sketch.summary x.1 x.2 = some (.object, false, none) := by
      decide +kernel
    obtain ⟨-, t, after, ht, -⟩ := hall n c hmet
    have hkind : t.kind = .object := kind_of_summary ht hsummary
    have hname : ∃ name, TypeName.ofValue c.site.hint = .ok name := by
      cases hint : c.site.hint with
      | str s => exact ⟨_, rfl⟩
      | _ =>
        rw [hint] at hhint
        cases hhint
    have hnode := Json.eq_of_member hkeys htext
    have href : c.node.get? "$ref" = some (.str "#/definitions/point") := by
      rw [hnode]
      rfl
    -- the reference points to the schema of a record, which is always present
    have hfollows : sketch.Follows c := by
      intro r hr
      obtain rfl := Json.str.inj (Option.some.inj (href.symm.trans hr))
      refine .inr ⟨hknown, fun target form hresolve hform => ?_⟩
      obtain rfl := Except.ok.inj hresolve
      obtain rfl := Option.some.inj hform
      rfl
    obtain ⟨-, hrecord⟩ :=
      standsIn_iff hgraph hmet ht hnode rfl rfl (.inl rfl) fun _ => hname
    exact ⟨n, c, t, after, hmet, hnode, hknown, ht, hkind, (hrecord rfl hfollows).1 hkind⟩
  · obtain ⟨⟨n, c⟩, hmet, hkeys, htext, hsummary⟩ : ∃ x ∈ sketch.met (.str "Root"),
        x.2.node.members?.map (·.map (·.1)) = some ["type"] ∧
          (x.2.node.get? "type").bind Json.text? = some "number" ∧
          sketch.summary x.1 x.2 = some (.float, false, none) := by
      decide +kernel
    obtain ⟨-, t, after, ht, -⟩ := hall n c hmet
    have hkind : t.kind = .float := kind_of_summary ht hsummary
    have hnode := Json.eq_of_member hkeys htext
    have hfollows : sketch.Follows c := by
      intro r hr
      rw [hnode] at hr
      cases hr
    obtain ⟨-, hplain⟩ := standsIn_iff hgraph hmet ht hnode rfl rfl (.inl rfl)
      fun hobject => absurd (hobject.symm.trans hkind) (by decide)
    refine ⟨n, c, t, after, hmet, hnode, ht, hkind, ((hplain rfl hfollows).2 rfl).mpr ?_⟩
    refine ⟨⟨⟨_, rfl⟩, _, rfl⟩, ?_, ?_, fun hnull => Json.noConfusion hnull⟩
    · rw [hkind]
      decide
    · rw [hkind]
      decide
  · obtain ⟨⟨n, c⟩, hmet, hkeys, htext, hsummary⟩ : ∃ x ∈ sketch.met (.str "Root"),
        x.2.node.members?.map (·.map (·.1)) = some ["$ref"] ∧
          (x.2.node.get? "$ref").bind Json.text? = some "#/definitions/length" ∧
          sketch.summary x.1 x.2 = some (.float, false, none) := by
      decide +kernel
    obtain ⟨-, t, after, ht, -⟩ := hall n c hmet
    have hkind : t.kind = .float := kind_of_summary ht hsummary
    have hnode := Json.eq_of_member hkeys htext
    -- what it points to is a reference without a type, so the whole is a record
    obtain ⟨hiff, -⟩ := standsIn_iff hgraph hmet ht hnode rfl rfl
      (.inr ⟨rfl, fun _ => ⟨rfl, rfl⟩⟩) fun hobject => absurd (hobject.symm.trans hkind) (by decide)
    refine ⟨n, c, t, after, hmet, hnode, ht, hkind, fun hstands => ?_⟩
    have hsaid : some (.object, false) = some (t.kind, t.nullable) := (hiff.mp hstands).2
    rw [hkind] at hsaid
    cases hsaid

/-- A document with parts that lose something: a point in time, a list of allowed values, a list of
texts, a map, a reference to a reference, an alternative to none and a schema that says nothing. -/
def medley : Document where
  root := .obj
    [("properties", .obj
      [("time", .obj [("type", .str "string"), ("format", .str "date-time")]),
        ("mode", .obj [("enum", .arr [.str "on", .str "off"])]),
        ("names", .obj [("type", .str "array"), ("items", .obj [("type", .str "string")])]),
        ("table", .obj
          [("type", .str "object"), ("additionalProperties", .obj [("type", .str "integer")])]),
        ("chain", .obj [("$ref", .str "#/definitions/again")]),
        ("maybe", .obj
          [("anyOf", .arr [.obj [("type", .str "string")], .obj [("type", .str "null")]])]),
        ("other", .obj [])]),
      ("definitions", .obj
        [("again", .obj [("$ref", .str "#/definitions/count")]),
          ("count", .obj [("type", .str "integer")])])]

/-- What the properties of the document are converted to, and what they are converted to if their
schemas are the only parts of schemas in their places: of no property is it the same. -/
theorem not_transparent_medley :
    (medley.toGraph (.str "Root")).1.toOption.isSome ∧
      ∀ row ∈
        [("RootTime", (.timestamp, false, none), (.string, false, none)),
          ("RootMode", (.string, false, none), (.object, false, none)),
          ("RootNames", (.array, false, some .string), (.array, false, some .any)),
          ("RootTable", (.map, false, some .integer), (.object, false, none)),
          ("RootChain", (.integer, false, none), (.object, false, none)),
          ("RootMaybe", (.string, true, none), (.object, false, none)),
          ("RootOther", (.any, false, none), (.object, false, none))],
        row.2.1 ≠ row.2.2 ∧ ∃ x ∈ medley.met (.str "Root"), x.2.site.hint.text? = some row.1 ∧
          medley.summary x.1 x.2 = some row.2.1 ∧ medley.summary x.1 x.2.onePart = some row.2.2 :=
  ⟨by decide +kernel, by decide +kernel⟩

end Document

end SchemaStruct
