import SchemaStruct.Proofs.Schema.Termination

/-!
# Walking a Schema Again

If a document has a graph, then every schema that its conversion has walked can be walked again, at
another place and with something else collected. What a call checks by itself depends on its schema
and on the name that is suggested there, the calls that it makes are made at schemas that have been
walked as well, and no schema is inside of itself. The walk may collect other records, and under
other names, but it returns.

The name that is suggested matters only where it is none: a title that is no text is handed on to
what a schema has as its single alternative.

## Main definitions

* `Document.Repeats`: a call is made at the schema of a call of the conversion.

## Main results

* `Document.Repeats.call`: so are the calls that it makes;
* `Document.Repeats.refusedBy`: nothing that it checks is refused;
* `Document.Repeats.failsBy` and `Document.Repeats.exists_returns`: it returns.
-/

namespace SchemaStruct

open Document Relation

/-- If the properties of a record are found, then all their names can be made into type names. -/
theorem Convert.exists_ofEntry {w : Walk} {site : Site} {key : String} {required : List String}
    {entries : Entries} {b b' : Builder} {found : List Property}
    (h : Returns (entries.mapM (property w site key required)) b found b') :
    ∀ entry ∈ entries, ∃ suffix, TypeName.ofEntry entry.1 = .ok suffix := by
  induction entries generalizing b found with
  | nil => simp
  | cons entry entries ih =>
    obtain ⟨p, b₁, rest, hp, hrest, -⟩ := returns_mapM_cons_iff.mp h
    obtain ⟨suffix, t, hsuffix, -, -⟩ := returns_property_iff.mp hp
    exact List.forall_mem_cons.mpr ⟨⟨suffix, hsuffix⟩, ih hrest⟩

/-- Where the place of a record has been taken, the record can be named, unless it is the document's
own one, which has its name. -/
theorem Convert.exists_name {site : Site} {flat : Node} {key : String} {b b' : Builder}
    (h : Returns (openRecord site flat) b key b') (hb : b.Settled) :
    site.reference = some "#" ∨
      ∃ base, TypeName.ofValue (nameSource (flat.get? "title") site.hint) = .ok base := by
  have hfresh := (returns_openRecord h).fresh
  simp only [openRecord, returns_bind_iff, returns_pure_iff] at h
  obtain ⟨_, _, hkey, _, _, -, rfl, -⟩ := h
  rcases returns_recordKey hkey with ⟨r, hr, hlookup, -⟩ | ⟨-, base, hbase, -, -⟩
  · -- a key that is bound to another reference belongs to a record
    rcases hb.bound_known r _ hlookup with rfl | hmem
    · exact .inl hr
    · exact absurd hmem hfresh
  · exact .inr ⟨base, hbase⟩

namespace Document

/-- The call `c` is made at the schema of the call `e` of the conversion, where the same reference
has led to, and a name is suggested there: a text or the same name, unless the schema is that of the
document's own record, which has its name. -/
structure Repeats (d : Document) (topLevel : Json) (e c : Call) : Prop where
  /-- The call that is repeated is one of the conversion. -/
  met : ∃ m, (m, e) ∈ d.met topLevel
  /-- The schema is the same. -/
  node : e.node = c.node
  /-- The reference is the same. -/
  reference : e.site.reference = c.site.reference
  /-- A name is suggested. -/
  hint : (∃ s, c.site.hint = .str s) ∨ c.site.hint = e.site.hint ∨
    c.site.reference = some "#" ∧
      ∃ flat nullable, Form.of d.root c.node = some ⟨.record flat, nullable⟩

variable {d : Document} {topLevel : Json} {g : TypeGraph} {e c : Call} {n : Nat}

/-- A call of the conversion repeats itself. -/
theorem repeats_self {m : Nat} (h : (m, c) ∈ d.met topLevel) : d.Repeats topLevel c c :=
  ⟨⟨m, h⟩, rfl, rfl, .inr (.inl rfl)⟩

namespace Repeats

variable (hg : (d.toGraph topLevel).1 = .ok g) (h : d.Repeats topLevel e c)

include hg h

/-- The calls that are made at a repeated call are repeated ones. -/
theorem call {w : Walk} {c' : Call} (hcall : c' ∈ Convert.calls d w c) :
    ∃ e', d.Repeats topLevel e' c' := by
  obtain ⟨⟨m, hmet⟩, hnode, hreference, hhint⟩ := h
  cases Convert.makes_of_mem_calls hcall with
  | @inside shape nullable hint child hform hinner _ hsuggested =>
    have hchild : Holds d.root e.node child := by
      rw [hnode]
      exact ⟨_, hform, hinner ▸ List.mem_cons_self⟩
    obtain ⟨k, e', he', hnode', hint', hsite, hsame⟩ := exists_met_of_holds hg hmet hchild
    refine ⟨e', ⟨k, he'⟩, hnode', by rw [hsite], ?_⟩
    rcases hsuggested with htext | ⟨rfl, rfl⟩
    · exact .inl htext
    · -- a single alternative has the name that is suggested for the whole
      have hint_eq : e'.site.hint = e.site.hint := by
        rw [hsite]
        exact hsame child nullable (hnode ▸ hform)
      rcases hhint with htext | heq | ⟨-, flat, _, hrecord⟩
      · exact .inl htext
      · exact .inr (.inl (heq.trans hint_eq.symm))
      · rw [hform] at hrecord
        cases hrecord
  | property hform _ _ hlisted hproperty =>
    obtain ⟨hmem, s, hsite⟩ := Convert.mem_of_mem_propertyCalls hproperty
    have hchild : Holds d.root e.node c'.node := by
      rw [hnode]
      exact ⟨_, hform, by simpa only [Shape.inner, hlisted] using hmem⟩
    obtain ⟨k, e', he', hnode', hint', hsite', -⟩ := exists_met_of_holds hg hmet hchild
    exact ⟨e', ⟨k, he'⟩, hnode', by rw [hsite', hsite], .inl ⟨s, by rw [hsite]⟩⟩
  | @target r nullable target hform _ _ hresolve =>
    obtain ⟨k, e', he', hresolve', hled⟩ := exists_met_of_reference hg hmet (hnode ▸ hform)
    have hnode' : e'.node = target := Except.ok.inj (hresolve'.symm.trans hresolve)
    rcases hled with ⟨site, hsite⟩ | ⟨rfl, htop, target', flat, nullable', hrecord, hflat⟩
    · -- what a reference leads to is named after the reference or after itself
      refine ⟨e', ⟨k, he'⟩, hnode', by rw [hsite]; rfl, .inr (.inl ?_)⟩
      rw [hsite, hnode']
      rfl
    · obtain rfl := Except.ok.inj (hrecord.symm.trans hresolve)
      exact ⟨e', ⟨k, he'⟩, hnode', htop, .inr (.inr ⟨rfl, flat, nullable', hflat⟩)⟩

/-- Nothing that is checked at a repeated call is refused. -/
theorem refusedBy (hb : c.before.Settled) : c.RefusedBy (fun _ => False) d.root := by
  obtain ⟨⟨m, hmet⟩, hnode, hreference, hhint⟩ := h
  obtain ⟨m, t, b', -, -, hstep, -⟩ := exists_step_of_met hg hmet
  obtain ⟨⟨shape, nullable⟩, u, hform, hgives, -⟩ := Convert.returns_step hstep
  refine Call.refusedBy_of_form (hnode ▸ hform) (fun r hr => ?_) fun flat hflat => ?_
  · obtain rfl : shape = .reference r := hr
    obtain ⟨k, e', -, hresolve, -⟩ := exists_met_of_reference hg hmet hform
    exact ⟨_, hresolve⟩
  · obtain rfl : shape = .record flat := hflat
    cases hgives with
    | record hrecord =>
      obtain ⟨b₁, required, entries, found, b₂, hopen, hrequired, hlisted, hproperties, -⟩ :=
        Convert.returns_record hrecord
      refine ⟨fun hunbound f hname => ?_, fun f hf => ?_, fun f hf => ?_,
        fun es hes entry hentry f hf => ?_⟩
      · have hother : c.site.reference ≠ some "#" := by
          intro htop
          obtain ⟨own, hown⟩ := hb.top_bound
          rw [htop] at hunbound
          cases hunbound.symm.trans hown
        have hnamed := Convert.exists_name hopen (settled_of_met hmet)
        obtain ⟨base, hbase⟩ := hnamed.resolve_left (hreference ▸ hother)
        -- the record has a title, or the name is the one that is suggested
        by_cases htitle : (Json.orNull (flat.get? "title")).truthy
        · rw [nameSource, if_pos htitle] at hname hbase
          cases hname.symm.trans hbase
        · rw [nameSource, if_neg htitle] at hname hbase
          rcases hhint with ⟨s, hs⟩ | hsame | ⟨htop, -⟩
          · rw [hs] at hname
            cases hname
          · rw [hsame] at hname
            cases hname.symm.trans hbase
          · exact hother htop
      · rw [hrequired] at hf
        cases hf
      · rw [hlisted] at hf
        cases hf
      · obtain rfl := Except.ok.inj (hlisted.symm.trans hes)
        obtain ⟨suffix, hsuffix⟩ := Convert.exists_ofEntry hproperties entry hentry
        rw [hsuffix] at hf
        cases hf

/-- A repeated call has no fault, if there is fuel enough and its reference is not known. -/
theorem failsBy (hfits : Convert.Fits d n c) (hb : c.before.Settled) (hopen : c.Open) :
    FailsBy (fun _ => False) (Convert.walk d n c.site c.node) c.before := by
  refine Convert.walk_failsBy_of_calls (P := fun n c => Convert.Fits d n c ∧
    (∃ e, d.Repeats topLevel e c) ∧ c.before.Settled ∧ c.Open) (fun _ h => h.1) ?_ ?_
    ⟨hfits, ⟨e, h⟩, hb, hopen⟩
  · rintro n c ⟨-, ⟨e, h⟩, hb, hopen⟩
    exact ⟨h.refusedBy hg hb, hb.keys_taken, hopen⟩
  · rintro n c ⟨hfits, ⟨e, h⟩, hb, -⟩ c' hc'
    exact ⟨hfits c' hc', h.call hg hc', Convert.settled_of_mem_calls hb hc',
      Convert.open_of_mem_calls hc'⟩

/-- A repeated call within the document returns. -/
theorem exists_returns (hwithin : Convert.Within d.root c) (hb : c.before.Settled)
    (hopen : c.Open) : ∃ t after,
      Returns (Convert.walk d (Convert.fuel d.root) c.site c.node) c.before t after :=
  have hfits := Convert.fits_of_within (fun _ hnode => not_holds_self hg hnode) hwithin
  (h.failsBy hg hfits hb hopen).exists_returns

end Repeats

end Document

end SchemaStruct
