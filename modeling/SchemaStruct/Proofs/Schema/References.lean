import SchemaStruct.Proofs.Schema.Calls

/-!
# Occurrences of a Reference

One reference may occur at many places of a document, and is expanded anew at each of them unless it
points to a record that is there already. What an occurrence gives can be read off the document: the
reference is followed through further references and single alternatives until something else
stands there, a record that references point to, or a reference that is being expanded. Hence two
occurrences give the same as far as they are met inside of the same expansions, where those of
references to records do not count.

There are exceptions. If the schema of a record allows that there is no value, then so does the
occurrence that collects the record, but none of the later ones. A record that stands behind a
single alternative belongs to the occurrence, and every one of them collects its own.

## Main definitions

* `Leads`: the references that a schema leads to;
* `Outline` and `Outlines`: what a schema gives, as far as it can be read off the document;
* `Conforms`: a type is as its outline says;
* `Document.occurrences`: the references that the conversion of a document meets, with the types
  that they give.

## Main results

* `Convert.walk_outlines`: what a walk gives conforms to an outline of the schema;
* `Outlines.unique`: a schema has the same outline inside of the same expansions;
* `Document.mem_occurrences_of_met`: no occurrence is left out;
* `Document.occurrences_agree`: two occurrences of a reference give the same;
* `Document.not_occurrencesAgree_loops`: what the exceptions look like.
-/

namespace SchemaStruct

open Document

/-- A schema leads to a reference, itself or through what it refers to or through its only
alternative. -/
inductive Leads (root : Json) : Json → String → Prop
  | here {node : Json} {r : String} {nullable : Bool}
      (hform : Form.of root node = some ⟨.reference r, nullable⟩) : Leads root node r
  | target {node target : Json} {r s : String} {nullable : Bool}
      (hform : Form.of root node = some ⟨.reference r, nullable⟩)
      (hresolve : Pointer.resolve root r = .ok target) (h : Leads root target s) :
      Leads root node s
  | alternative {node one : Json} {s : String} {nullable : Bool}
      (hform : Form.of root node = some ⟨.alternative one, nullable⟩) (h : Leads root one s) :
      Leads root node s

/-- What can be read off a document about the type that a schema gives. -/
structure Outline where
  /-- What sort of value it is. -/
  kind : FieldKind
  /-- Whether there may be no value, if this is certain. -/
  nullable : Option Bool
  /-- The reference that points to the record, if there is one. -/
  reference : Option String := none

/-- The same outline, with no value allowed too if `b` holds. -/
def Outline.withNullableIf (b : Bool) (o : Outline) : Outline :=
  if b then { o with nullable := some true } else o

namespace Outline

/-- Allowing no value leaves the kind alone. -/
@[simp]
theorem kind_withNullableIf (b : Bool) (o : Outline) : (o.withNullableIf b).kind = o.kind := by
  cases b <;> rfl

/-- Allowing no value leaves the record alone. -/
@[simp]
theorem reference_withNullableIf (b : Bool) (o : Outline) :
    (o.withNullableIf b).reference = o.reference := by
  cases b <;> rfl

/-- Allowing no value makes certain that it is allowed. -/
theorem nullable_of_withNullableIf {b : Bool} {o : Outline}
    (h : (o.withNullableIf b).nullable = none) : o.nullable = none := by
  cases b with
  | false => exact h
  | true => cases h

end Outline

/-- The outline of a schema, where the references of `pending` are being expanded. -/
inductive Outlines (root : Json) : List String → Json → Outline → Prop
  | scalar {pending : List String} {node : Json} {kind : FieldKind} {nullable : Bool}
      (hform : Form.of root node = some ⟨.scalar kind, nullable⟩) :
      Outlines root pending node ⟨kind, some nullable, none⟩
  | list {pending : List String} {node : Json} {items : Option Json} {nullable : Bool}
      (hform : Form.of root node = some ⟨.list items, nullable⟩) :
      Outlines root pending node ⟨.array, some nullable, none⟩
  | map {pending : List String} {node : Json} {values : Option Json} {nullable : Bool}
      (hform : Form.of root node = some ⟨.map values, nullable⟩) :
      Outlines root pending node ⟨.map, some nullable, none⟩
  | record {pending : List String} {node : Json} {flat : Node} {nullable : Bool}
      (hform : Form.of root node = some ⟨.record flat, nullable⟩) :
      Outlines root pending node ⟨.object, some nullable, none⟩
  | alternative {pending : List String} {node one : Json} {nullable : Bool} {o : Outline}
      (hform : Form.of root node = some ⟨.alternative one, nullable⟩)
      (h : Outlines root pending one o) :
      Outlines root pending node (o.withNullableIf nullable)
  | known {pending : List String} {node target : Json} {r : String} {flat : Node}
      {nullable atRecord : Bool}
      (hform : Form.of root node = some ⟨.reference r, nullable⟩)
      (hresolve : Pointer.resolve root r = .ok target)
      (htarget : Form.of root target = some ⟨.record flat, atRecord⟩) :
      -- only the occurrence that collects the record knows that there may be no value
      Outlines root pending node
        (Outline.withNullableIf nullable
          ⟨.object, if atRecord then none else some false, some r⟩)
  | cut {pending : List String} {node : Json} {r : String} {nullable : Bool}
      (hform : Form.of root node = some ⟨.reference r, nullable⟩)
      (hrecord : ¬ IsRecordRef root r) (hpending : r ∈ pending) :
      Outlines root pending node (Outline.withNullableIf nullable ⟨.any, some false, none⟩)
  | target {pending : List String} {node target : Json} {r : String} {nullable : Bool}
      {o : Outline} (hform : Form.of root node = some ⟨.reference r, nullable⟩)
      (hrecord : ¬ IsRecordRef root r) (hpending : r ∉ pending)
      (hresolve : Pointer.resolve root r = .ok target)
      (h : Outlines root (r :: pending) target o) :
      Outlines root pending node (o.withNullableIf nullable)

/-- A type is as the outline says, where `b` has the keys that are bound to references. -/
structure Conforms (b : Builder) (t : TypeRef) (o : Outline) : Prop where
  /-- It is of that kind. -/
  kind : t.kind = o.kind
  /-- It allows no value if the outline says so. -/
  nullable : ∀ nullable, o.nullable = some nullable → t.nullable = nullable
  /-- Its record is the one of the reference. -/
  record : ∀ r, o.reference = some r → ∃ key, t.record = some key ∧
    b.bound.lookup r = some key

section

variable {b b' : Builder} {t t' : TypeRef} {o : Outline}

/-- Bindings are kept. -/
theorem Conforms.grows (h : Conforms b t o) (hb : b.Grows b') : Conforms b' t o where
  kind := h.kind
  nullable := h.nullable
  record := by
    intro r hr
    obtain ⟨key, hkey, hbound⟩ := h.record r hr
    exact ⟨key, hkey, hb.bound r key hbound⟩

/-- Allowing no value goes with the outline. -/
theorem Conforms.withNullableIf (h : Conforms b t o) (nullable : Bool) :
    Conforms b (t.withNullableIf nullable) (o.withNullableIf nullable) := by
  cases nullable with
  | false => exact h
  | true => exact ⟨h.kind, fun _ h' => Option.some.inj h', h.record⟩

/-- Two types of one outline have the same record if a reference points to it. -/
theorem Conforms.record_eq (h : Conforms b t o) (h' : Conforms b t' o) {r : String}
    (hr : o.reference = some r) : t.record = t'.record := by
  obtain ⟨key, hkey, hbound⟩ := h.record r hr
  obtain ⟨key', hkey', hbound'⟩ := h'.record r hr
  rw [hkey, hkey', ← hbound, ← hbound']

end

/-- Inside of the same expansions, as far as a schema leads to them, it has one outline. Expansions
of references to records do not count, since such a reference stands for its record anywhere. -/
theorem Outlines.unique {root : Json} {pending pending' : List String} {node node' : Json}
    {o o' : Outline} (h : Outlines root pending node o) (h' : Outlines root pending' node' o')
    (hsame : Form.of root node = Form.of root node')
    (hpending : ∀ s, Leads root node s → ¬ IsRecordRef root s → (s ∈ pending ↔ s ∈ pending')) :
    o = o' := by
  -- along the first outline: the form decides which outline the other one can be
  induction h generalizing pending' node' o' with
  | scalar hform => cases h' <;> simp_all
  | list hform => cases h' <;> simp_all
  | map hform => cases h' <;> simp_all
  | record hform => cases h' <;> simp_all
  | alternative hform h ih =>
    cases h' with
    | alternative hform' h' =>
      rw [hform, hform'] at hsame
      cases hsame
      rw [ih h' rfl fun s hs hnot => hpending s (.alternative hform hs) hnot]
    | _ => simp_all
  | @known pending node target r flat nullable atRecord hform hresolve htarget =>
    have hrecord : IsRecordRef root r := ⟨target, flat, atRecord, hresolve, htarget⟩
    cases h' with
    | known hform' hresolve' htarget' => simp_all
    | cut hform' hrecord' => simp_all
    | target hform' hrecord' => simp_all
    | _ => simp_all
  | cut hform hrecord hmem =>
    have hmem' := (hpending _ (.here hform) hrecord).mp hmem
    cases h' with
    | known hform' hresolve' htarget' =>
      rw [hform, hform'] at hsame
      cases hsame
      exact absurd ⟨_, _, _, hresolve', htarget'⟩ hrecord
    | _ => simp_all
  | target hform hrecord hmem hresolve h ih =>
    have hmem' := fun hr => hmem ((hpending _ (.here hform) hrecord).mpr hr)
    cases h' with
    | known hform' hresolve' htarget' =>
      rw [hform, hform'] at hsame
      cases hsame
      exact absurd ⟨_, _, _, hresolve', htarget'⟩ hrecord
    | target hform' hrecord' hmem' hresolve' h' =>
      rw [hform, hform'] at hsame
      cases hsame
      obtain rfl := Except.ok.inj (hresolve.symm.trans hresolve')
      rw [ih h' rfl fun s hs hnot => ?_]
      -- the reference itself is being expanded now in both cases
      rw [List.mem_cons, List.mem_cons, hpending s (.target hform hresolve hs) hnot]
    | _ => simp_all

namespace Convert

variable {d : Document} {site : Site} {b b' : Builder} {t : TypeRef}

/-- Where a reference leads to the schema of a record, the record that is collected is bound to the
reference. -/
theorem conforms_of_record {n : Nat} {node : Json} {flat : Node} {nullable : Bool}
    (h : Returns (walk d n site node) b t b') (hb : b.Sound d.root)
    (hsite : site.Sound d.root b node)
    (hform : Form.of d.root node = some ⟨.record flat, nullable⟩) {r : String}
    (hreference : site.reference = some r) :
    Conforms b' t ⟨.object, if nullable then none else some false, some r⟩ := by
  obtain ⟨m, rfl, form, u, hform', hgives, rfl⟩ := returns_walk h
  obtain rfl := Option.some.inj (hform.symm.trans hform')
  cases hgives with
  | @record _ key _ hrecord =>
    have hown := (record_sound (walk_sound d m) hrecord hb hsite hform).2.2 r hreference
    refine ⟨?_, ?_, ?_⟩
    · cases nullable <;> rfl
    · cases nullable <;> simp [TypeRef.object]
    · intro r' hr'
      obtain rfl := Option.some.inj hr'
      exact ⟨key, by cases nullable <;> rfl, (Builder.record?_eq_some_iff.mp hown).1⟩

/-- What a walk gives conforms to an outline of the schema. -/
theorem walk_outlines {n : Nat} {node : Json} (h : Returns (walk d n site node) b t b')
    (hb : b.Sound d.root) (hsite : site.Sound d.root b node) :
    ∃ o, Outlines d.root site.pending node o ∧ Conforms b' t o := by
  induction n generalizing site node b t b' with
  | zero => exact absurd h (not_returns_throw _)
  | succ n ih =>
    obtain ⟨⟨shape, nullable⟩, u, hform, hgives, rfl⟩ := returns_step h
    have hopened : (∀ flat, shape ≠ .record flat) → site.Opened d.root b :=
      hsite.opened hform
    have hplain (kind : FieldKind) (u : TypeRef) (hkind : u.kind = kind)
        (hnullable : u.nullable = false) :
        Conforms b' (u.withNullableIf nullable) ⟨kind, some nullable, none⟩ := by
      cases nullable with
      | false => exact ⟨hkind, fun _ h => hnullable.trans (Option.some.inj h), by simp⟩
      | true => exact ⟨hkind, fun _ h => Option.some.inj h, by simp⟩
    cases hgives with
    | scalar notices hkind => exact ⟨_, .scalar hform, hplain _ _ rfl rfl⟩
    | listOfAny notices => exact ⟨_, .list hform, hplain _ _ rfl rfl⟩
    | list h => exact ⟨_, .list hform, hplain _ _ rfl rfl⟩
    | mapOfAny => exact ⟨_, .map hform, hplain _ _ rfl rfl⟩
    | map h => exact ⟨_, .map hform, hplain _ _ rfl rfl⟩
    | record h => exact ⟨_, .record hform, hplain _ _ rfl rfl⟩
    | @known r key hknown =>
      obtain ⟨target, flat, atRecord, hresolve, htarget⟩ := hb.isRecordRef r key hknown
      refine ⟨_, .known hform hresolve htarget, Conforms.withNullableIf ⟨rfl, ?_, ?_⟩ nullable⟩
      · cases atRecord <;> simp [TypeRef.object]
      · intro r' hr'
        obtain rfl := Option.some.inj hr'
        exact ⟨key, rfl, (Builder.record?_eq_some_iff.mp hknown).1⟩
    | @cut r hknown hpending =>
      -- the record of a reference that is being expanded would be there
      have hrecord : ¬ IsRecordRef d.root r := by
        intro hrecord
        obtain ⟨key, hkey⟩ := hopened (by simp) r hpending hrecord
        simp [hknown] at hkey
      refine ⟨_, .cut hform hrecord hpending, Conforms.withNullableIf ⟨rfl, ?_, ?_⟩ nullable⟩
      · simp [TypeRef.any]
      · simp
    | @target r target _ _ hknown hpending hresolve h =>
      have hsite' := (hopened (by simp)).target hresolve
      -- a record that is collected now is bound to the reference from now on
      by_cases hrecord : IsRecordRef d.root r
      · obtain ⟨target', flat, atRecord, hresolve', htarget⟩ := hrecord
        obtain rfl := Except.ok.inj (hresolve.symm.trans hresolve')
        have hconforms := conforms_of_record h hb hsite' htarget (r := r) rfl
        exact ⟨_, .known hform hresolve htarget, hconforms.withNullableIf nullable⟩
      · obtain ⟨o, ho, hconforms⟩ := ih h hb hsite'
        exact ⟨_, .target hform hrecord hpending hresolve ho, hconforms.withNullableIf nullable⟩
    | alternative h =>
      obtain ⟨o, ho, hconforms⟩ := ih h hb ((hopened (by simp)).sound _ _)
      exact ⟨_, .alternative hform ho, hconforms.withNullableIf nullable⟩

end Convert

/-- A schema that describes the values of a record leads to no reference. -/
theorem not_leads_of_record {root target : Json} {flat : Node} {nullable : Bool} {s : String}
    (h : Form.of root target = some ⟨.record flat, nullable⟩) : ¬ Leads root target s := by
  intro hleads
  cases hleads <;> simp_all

/-- A single alternative leads to what the schema leads to. -/
theorem Leads.of_alternative {root node one : Json} {nullable : Bool} {s : String}
    (h : Leads root node s) (hform : Form.of root node = some ⟨.alternative one, nullable⟩) :
    Leads root one s := by
  cases h with
  | here hform' => simp_all
  | target hform' => simp_all
  | alternative hform' hs =>
    cases Option.some.inj (hform.symm.trans hform')
    exact hs

/-- A reference leads to itself and to what the schema leads to that it points to. -/
theorem Leads.of_reference {root node : Json} {nullable : Bool} {r s : String}
    (h : Leads root node s) (hform : Form.of root node = some ⟨.reference r, nullable⟩) :
    s = r ∨ ∃ target, Pointer.resolve root r = .ok target ∧ Leads root target s := by
  cases h with
  | here hform' =>
    cases Option.some.inj (hform.symm.trans hform')
    exact .inl rfl
  | target hform' hresolve hs =>
    cases Option.some.inj (hform.symm.trans hform')
    exact .inr ⟨_, hresolve, hs⟩
  | alternative hform' => simp_all

/-- The reference points to a schema that describes the values of a record and allows that there is
no value. -/
def Document.IsNullableRecordRef (root : Json) (r : String) : Prop :=
  ∃ target node, Pointer.resolve root r = .ok target ∧
    Form.of root target = some ⟨.record node, true⟩

namespace Outlines

variable {root : Json} {pending : List String} {node : Json} {o : Outline}

/-- Whether there may be no value is certain, except for objects whose record says so and has a
schema that a reference points to. -/
theorem exists_leads_of_nullable (h : Outlines root pending node o) (hnone : o.nullable = none) :
    o.kind = .object ∧ ∃ s, Leads root node s ∧ IsNullableRecordRef root s := by
  induction h with
  | scalar hform => cases hnone
  | list hform => cases hnone
  | map hform => cases hnone
  | record hform => cases hnone
  | alternative hform h ih =>
    obtain ⟨hkind, s, hs, hrecord⟩ := ih (Outline.nullable_of_withNullableIf hnone)
    rw [Outline.kind_withNullableIf]
    exact ⟨hkind, s, .alternative hform hs, hrecord⟩
  | @known _ _ target r flat _ atRecord hform hresolve htarget =>
    rw [Outline.kind_withNullableIf]
    cases atRecord with
    | false => cases Outline.nullable_of_withNullableIf hnone
    | true => exact ⟨rfl, r, .here hform, target, flat, hresolve, htarget⟩
  | cut hform hrecord hpending => cases Outline.nullable_of_withNullableIf hnone
  | target hform hrecord hpending hresolve h ih =>
    obtain ⟨hkind, s, hs, hrecord⟩ := ih (Outline.nullable_of_withNullableIf hnone)
    rw [Outline.kind_withNullableIf]
    exact ⟨hkind, s, .target hform hresolve hs, hrecord⟩

/-- A reference that points to the schema of a record says which record an object has that leads
to it. -/
theorem reference_of_leads (h : Outlines root pending node o) (hkind : o.kind = .object)
    {s : String} (hs : Leads root node s) (hrecord : IsRecordRef root s) :
    o.reference = some s := by
  induction h with
  | scalar hform => cases hs <;> simp_all
  | list hform => cases hkind
  | map hform => cases hkind
  | record hform => exact absurd hs (not_leads_of_record hform)
  | alternative hform h ih =>
    rw [Outline.kind_withNullableIf] at hkind
    rw [Outline.reference_withNullableIf]
    exact ih hkind (hs.of_alternative hform)
  | known hform hresolve htarget =>
    rw [Outline.reference_withNullableIf]
    rcases hs.of_reference hform with rfl | ⟨target, hresolve', hs⟩
    · rfl
    · obtain rfl := Except.ok.inj (hresolve.symm.trans hresolve')
      exact absurd hs (not_leads_of_record htarget)
  | cut hform hnot hpending =>
    rw [Outline.kind_withNullableIf] at hkind
    cases hkind
  | target hform hnot hpending hresolve h ih =>
    rw [Outline.kind_withNullableIf] at hkind
    rw [Outline.reference_withNullableIf]
    rcases hs.of_reference hform with rfl | ⟨target, hresolve', hs⟩
    · exact absurd hrecord hnot
    · obtain rfl := Except.ok.inj (hresolve.symm.trans hresolve')
      exact ih hkind hs

end Outlines

/-- Schemas of one form have the same outlines. -/
theorem Outlines.congr {root node node' : Json} {pending : List String} {o : Outline}
    (h : Outlines root pending node o) (hform : Form.of root node = Form.of root node') :
    Outlines root pending node' o := by
  cases h with
  | scalar h => exact .scalar (hform ▸ h)
  | list h => exact .list (hform ▸ h)
  | map h => exact .map (hform ▸ h)
  | record h => exact .record (hform ▸ h)
  | alternative h ho => exact .alternative (hform ▸ h) ho
  | known h hresolve htarget => exact .known (hform ▸ h) hresolve htarget
  | cut h hrecord hpending => exact .cut (hform ▸ h) hrecord hpending
  | target h hrecord hpending hresolve ho =>
    exact .target (hform ▸ h) hrecord hpending hresolve ho

/-- A reference as it stands in a document. -/
def refNode (r : String) : Json := .obj [("$ref", .str r)]

/-- A place where a reference was met, with the type that it gave. -/
structure Occurrence where
  /-- The reference. -/
  reference : String
  /-- The references that were being expanded. -/
  pending : List String
  /-- The type that it gave. -/
  type : TypeRef

/-- All occurrences of references that the conversion of a document meets. -/
def Document.occurrences (d : Document) (topLevel : Json) : List Occurrence :=
  (d.met topLevel).filterMap fun (n, c) =>
    match c.node.get? "$ref", (c.run (Convert.walk d n)).1 with
    | some (.str r), .ok type => some ⟨r, c.site.pending, type⟩
    | _, _ => none

namespace Document

variable {d : Document} {topLevel : Json} {g : TypeGraph}

/-- If a document has a graph, then every call of the conversion returns. -/
theorem exists_returns_of_mem_met (hg : (d.toGraph topLevel).1 = .ok g) :
    ∃ b : Builder, ∀ n c, (n, c) ∈ d.met topLevel → c.Sound d.root ∧
      ∃ t after, Returns (Convert.walk d n c.site c.node) c.before t after ∧ after.Grows b := by
  obtain ⟨key, t, b, hkey, hwalk, -, -⟩ := returns_toGraph hg
  refine ⟨b, fun n c hmem => ?_⟩
  rw [met, hkey] at hmem
  exact Convert.returns_of_mem_met (c := d.openingCall topLevel key) hwalk
    (d.sound_openingCall topLevel key) hmem

/-- If a document has a graph, then no occurrence of a reference is left out. -/
theorem mem_occurrences_of_met (hg : (d.toGraph topLevel).1 = .ok g) {n : Nat} {c : Call}
    (hmem : (n, c) ∈ d.met topLevel) {r : String} (hr : c.node.get? "$ref" = some (.str r)) :
    ∃ t, ⟨r, c.site.pending, t⟩ ∈ d.occurrences topLevel := by
  obtain ⟨b, hall⟩ := exists_returns_of_mem_met hg
  obtain ⟨-, t, after, hreturns, -⟩ := hall n c hmem
  refine ⟨t, List.mem_filterMap.mpr ⟨(n, c), hmem, ?_⟩⟩
  have hrun : c.run (Convert.walk d n) = (.ok t, after) := hreturns
  simp [hr, hrun]

/-- What all occurrences give conforms to their outlines, with the same records bound to the
references. -/
theorem exists_conforms (hg : (d.toGraph topLevel).1 = .ok g) :
    ∃ b : Builder, ∀ o ∈ d.occurrences topLevel, ∃ outline,
      Outlines d.root o.pending (refNode o.reference) outline ∧ Conforms b o.type outline := by
  obtain ⟨b, hall⟩ := exists_returns_of_mem_met hg
  refine ⟨b, fun o ho => ?_⟩
  obtain ⟨⟨n, c⟩, hmem, ho⟩ := List.mem_filterMap.mp ho
  obtain ⟨⟨hb, hsite⟩, t, after, hreturns, hgrows⟩ := hall n c hmem
  have hrun : c.run (Convert.walk d n) = (.ok t, after) := hreturns
  simp only [hrun] at ho
  split at ho
  · next r t' hr ht =>
    obtain rfl := Except.ok.inj ht
    obtain rfl := Option.some.inj ho
    obtain ⟨outline, houtline, hconforms⟩ := Convert.walk_outlines hreturns hb hsite
    have hform : Form.of d.root c.node = Form.of d.root (refNode r) :=
      (Form.of_reference hr).trans (Form.of_reference rfl).symm
    exact ⟨outline, houtline.congr hform, hconforms.grows hgrows⟩
  · cases ho

/-- Two occurrences of one reference give the same if they lie inside of the same expansions of the
references that it leads to, those to records not counted: the same kind of value, the same record
if a reference points to the record's schema, and no value is allowed by both or none, unless that
is said by a record's schema. -/
theorem occurrences_agree (hg : (d.toGraph topLevel).1 = .ok g) {o o' : Occurrence}
    (ho : o ∈ d.occurrences topLevel) (ho' : o' ∈ d.occurrences topLevel)
    (href : o.reference = o'.reference)
    (hpending : ∀ s, Leads d.root (refNode o.reference) s → ¬ IsRecordRef d.root s →
      (s ∈ o.pending ↔ s ∈ o'.pending)) :
    o.type.kind = o'.type.kind ∧
      ((o.type.kind = .object →
          ∀ s, Leads d.root (refNode o.reference) s → ¬ IsNullableRecordRef d.root s) →
        o.type.nullable = o'.type.nullable) ∧
      (o.type.kind = .object →
        (∃ s, Leads d.root (refNode o.reference) s ∧ IsRecordRef d.root s) →
          ∃ key, o.type.record = some key ∧ o'.type.record = some key) := by
  obtain ⟨b, hall⟩ := exists_conforms hg
  obtain ⟨outline, houtline, hconforms⟩ := hall o ho
  obtain ⟨outline', houtline', hconforms'⟩ := hall o' ho'
  -- both conform to the one outline that the reference has inside of these expansions
  obtain rfl : outline = outline' := by
    rw [← href] at houtline'
    exact houtline.unique houtline' rfl hpending
  refine ⟨hconforms.kind.trans hconforms'.kind.symm, ?_, ?_⟩
  · intro hnone
    cases hnullable : outline.nullable with
    | none =>
      obtain ⟨hkind, s, hs, hrecord⟩ := houtline.exists_leads_of_nullable hnullable
      exact absurd hrecord (hnone (hconforms.kind.trans hkind) s hs)
    | some nullable =>
      rw [hconforms.nullable nullable hnullable, hconforms'.nullable nullable hnullable]
  · rintro hkind ⟨s, hs, hrecord⟩
    have hreference := houtline.reference_of_leads (hconforms.kind ▸ hkind) hs hrecord
    obtain ⟨key, hkey, -⟩ := hconforms.record s hreference
    exact ⟨key, hkey, hconforms.record_eq hconforms' hreference ▸ hkey⟩

end Document

/-- Whether all occurrences of a reference that do not lie inside of an expansion of that reference
give the same kind of value, with or without no value, and the same record. -/
def Document.OccurrencesAgree (d : Document) (topLevel : Json) : Prop :=
  ∀ o ∈ d.occurrences topLevel, ∀ o' ∈ d.occurrences topLevel,
    o.reference = o'.reference → o.reference ∉ o.pending → o'.reference ∉ o'.pending →
      o.type.kind = o'.type.kind ∧ o.type.nullable = o'.type.nullable ∧
        (o.type.kind = .object → o.type.record = o'.type.record)

instance (d : Document) (topLevel : Json) : Decidable (d.OccurrencesAgree topLevel) :=
  inferInstanceAs (Decidable (∀ o ∈ d.occurrences topLevel, ∀ o' ∈ d.occurrences topLevel,
    o.reference = o'.reference → o.reference ∉ o.pending → o'.reference ∉ o'.pending →
      o.type.kind = o'.type.kind ∧ o.type.nullable = o'.type.nullable ∧
        (o.type.kind = .object → o.type.record = o'.type.record)))

namespace Document

/-- A document with a list that contains itself by two references, a record that allows that there
is no value, and a record behind a single alternative. -/
def loops : Document where
  root := .obj
    [("properties", .obj
      [("a", refNode "#/definitions/loop"), ("b", refNode "#/definitions/again"),
        ("c", refNode "#/definitions/maybe"), ("d", refNode "#/definitions/maybe"),
        ("e", refNode "#/definitions/either"), ("f", refNode "#/definitions/either")]),
      ("definitions", .obj
        [("again", refNode "#/definitions/loop"),
          ("loop", .obj [("type", .str "array"), ("items", refNode "#/definitions/again")]),
          ("maybe", .obj [("type", .arr [.str "object", .str "null"]), ("properties", .obj [])]),
          ("either", .obj
            [("anyOf", .arr [.obj [("type", .str "object"), ("properties", .obj [])]])])])]

/-- Not to lie inside of an expansion of the same reference is not enough to give the same: the
kinds differ where one occurrence lies inside of an expansion of another reference, a record
allows no value only where it is collected, and is collected twice behind a single alternative. -/
theorem not_occurrencesAgree_loops :
    (∃ g, (loops.toGraph (.str "Root")).1 = .ok g) ∧ ¬ loops.OccurrencesAgree (.str "Root") ∧
      ((loops.occurrences (.str "Root")).filter (fun o => o.reference ∉ o.pending)).map
        (fun o => (o.reference, o.type.kind, o.type.nullable, o.type.record)) =
        [("#/definitions/loop", .array, false, none),
          ("#/definitions/again", .any, false, none),
          ("#/definitions/again", .array, false, none),
          ("#/definitions/loop", .array, false, none),
          ("#/definitions/maybe", .object, true, some "Maybe"),
          ("#/definitions/maybe", .object, false, some "Maybe"),
          ("#/definitions/either", .object, false, some "Either"),
          ("#/definitions/either", .object, false, some "Either2")] := by
  have hsome : (loops.toGraph (.str "Root")).1.toOption.isSome := by decide
  obtain ⟨g, hg⟩ := Option.isSome_iff_exists.mp hsome
  exact ⟨⟨g, toGraph_of_toOption hg⟩, by decide, by decide⟩

/-- The schema of a record with a place in it. -/
def address : Json :=
  .obj [("properties", .obj [("street", .bool true), ("near", refNode "#/definitions/place")])]

/-- The schema of a record, by a reference, or of no value. -/
def place : Json :=
  .obj [("oneOf", .arr [refNode "#/definitions/address", .obj [("type", .str "null")]])]

/-- A document with two references to one schema, which refers to a record. One of them stands in
the record, which is collected first. -/
def chain : Document where
  root := .obj
    [("properties", .obj
      [("home", refNode "#/definitions/address"),
        ("work", .obj [("description", .str "Where?"), ("$ref", .str "#/definitions/place")])]),
      ("definitions", .obj [("place", place), ("address", address)])]

/-- A reference to the place leads to the record in it, and to nothing else. -/
theorem leads_chain {s : String} (h : Leads chain.root (refNode "#/definitions/place") s) :
    s = "#/definitions/place" ∨ s = "#/definitions/address" := by
  rcases h.of_reference (Form.of_reference rfl) with hs | ⟨target, hresolve, h⟩
  · exact .inl hs
  · obtain rfl : place = target := Except.ok.inj hresolve
    have halternative : Leads chain.root (refNode "#/definitions/address") s :=
      h.of_alternative rfl
    rcases halternative.of_reference (Form.of_reference rfl) with hs | ⟨target, hresolve, h⟩
    · exact .inr hs
    · obtain rfl : address = target := Except.ok.inj hresolve
      exact absurd h (not_leads_of_record rfl)

/-- The theorem at a reference that leads to a record through an alternative and another reference,
inside of the expansion of that record and outside. -/
theorem occurrences_agree_chain :
    ∃ g, (chain.toGraph (.str "Root")).1 = .ok g ∧
      ∃ o ∈ chain.occurrences (.str "Root"), ∃ o' ∈ chain.occurrences (.str "Root"),
        o.reference = o'.reference ∧ o.pending = ["#/definitions/address"] ∧ o'.pending = [] ∧
          (∀ s, Leads chain.root (refNode o.reference) s → ¬ IsRecordRef chain.root s →
            (s ∈ o.pending ↔ s ∈ o'.pending)) ∧
          o.type.kind = o'.type.kind ∧ o.type.nullable = o'.type.nullable ∧
          ∃ key, o.type.record = some key ∧ o'.type.record = some key := by
  have hsome : (chain.toGraph (.str "Root")).1.toOption.isSome := by decide
  obtain ⟨g, hg⟩ := Option.isSome_iff_exists.mp hsome
  have hgraph := toGraph_of_toOption hg
  obtain ⟨o, ho, o', ho', href, href', hpending, hpending', hkind⟩ :
      ∃ o ∈ chain.occurrences (.str "Root"), ∃ o' ∈ chain.occurrences (.str "Root"),
        o.reference = "#/definitions/place" ∧ o'.reference = "#/definitions/place" ∧
          o.pending = ["#/definitions/address"] ∧ o'.pending = [] ∧ o.type.kind = .object := by
    decide
  have haddress : IsRecordRef chain.root "#/definitions/address" := ⟨address, _, _, rfl, rfl⟩
  have hsame : ∀ s, Leads chain.root (refNode o.reference) s → ¬ IsRecordRef chain.root s →
      (s ∈ o.pending ↔ s ∈ o'.pending) := by
    intro s hs hnot
    -- of what the reference leads to, only the record is being expanded at one of the two
    rw [href] at hs
    rcases leads_chain hs with rfl | rfl
    · simp [hpending, hpending']
    · exact absurd haddress hnot
  have hagree := occurrences_agree hgraph ho ho' (href.trans href'.symm) hsame
  have hplain : ∀ s, Leads chain.root (refNode o.reference) s →
      ¬ IsNullableRecordRef chain.root s := by
    rintro s hs ⟨target, flat, hresolve, hform⟩
    rw [href] at hs
    rcases leads_chain hs with rfl | rfl
    · obtain rfl : place = target := Except.ok.inj hresolve
      cases Option.some.inj hform
    · obtain rfl : address = target := Except.ok.inj hresolve
      cases Option.some.inj hform
  have hrecord : ∃ s, Leads chain.root (refNode o.reference) s ∧ IsRecordRef chain.root s := by
    have halternative : Form.of chain.root place =
        some ⟨.alternative (refNode "#/definitions/address"), true⟩ := rfl
    rw [href]
    exact ⟨"#/definitions/address",
      .target (Form.of_reference rfl) rfl (.alternative halternative
        (.here (Form.of_reference rfl))), haddress⟩
  exact ⟨g, hgraph, o, ho, o', ho', href.trans href'.symm, hpending, hpending', hsame, hagree.1,
    hagree.2.1 fun _ => hplain, hagree.2.2 hkind hrecord⟩

end Document

end SchemaStruct
