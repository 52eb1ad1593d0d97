import SchemaStruct.Proofs.Schema.Steps

/-!
# Keys Bound to References

During a walk records are only added, and a key stays bound to its reference. A reference whose key
belongs to a record is one that points to the schema of that record, and no two references share a
key. While such a reference is being expanded its record is in the graph already, except at the
schema that it points to, where the walk is about to take the place.

## Main definitions

* `Builder.Grows`: records and bindings are kept;
* `Document.IsRecordRef`: a reference points to the schema of a record;
* `Builder.Sound` and `Site.Sound`: what holds of what has been collected, and of where a walk
  stands.

## Main results

* `Convert.opened_sound`: taking the place of a record keeps everything sound;
* `Convert.walk_sound`: so does every walk.
-/

namespace SchemaStruct

namespace Builder

/-- Records and bindings of `b` are kept in `b'`. -/
structure Grows (b b' : Builder) : Prop where
  /-- A key of the graph stays one. -/
  keys : ∀ key ∈ b.graph.keys, key ∈ b'.graph.keys
  /-- A key stays bound to its reference. -/
  bound : ∀ r key, b.bound.lookup r = some key → b'.bound.lookup r = some key

namespace Grows

variable {b b₁ b₂ : Builder}

/-- Everything is kept if nothing changes. -/
theorem refl (b : Builder) : b.Grows b :=
  ⟨fun _ h => h, fun _ _ h => h⟩

/-- What is kept twice is kept. -/
theorem trans (h : b.Grows b₁) (h' : b₁.Grows b₂) : b.Grows b₂ :=
  ⟨fun key hkey => h'.keys key (h.keys key hkey),
    fun r key hkey => h'.bound r key (h.bound r key hkey)⟩

/-- A reference goes on to stand for its record. -/
theorem record? (h : b.Grows b₁) {r key : String} (hkey : b.record? r = some key) :
    b₁.record? r = some key := by
  rw [record?_eq_some_iff] at hkey ⊢
  exact ⟨h.bound r key hkey.1, h.keys key hkey.2⟩

end Grows

end Builder

/-- The reference points to a schema that describes the values of a record. -/
def Document.IsRecordRef (root : Json) (r : String) : Prop :=
  ∃ target node nullable, Pointer.resolve root r = .ok target ∧
    Form.of root target = some ⟨.record node, nullable⟩

open Document

/-- What holds of everything that is collected from a document. -/
structure Builder.Sound (root : Json) (b : Builder) : Prop where
  /-- The keys of the graph are in use. -/
  keys_taken : ∀ key ∈ b.graph.keys, key ∈ b.taken
  /-- The keys bound to references are in use. -/
  bound_taken : ∀ r key, b.bound.lookup r = some key → key ∈ b.taken
  /-- No two references share a key. -/
  bound_injective : ∀ r r' key, b.bound.lookup r = some key → b.bound.lookup r' = some key →
    r = r'
  /-- A reference that stands for a record points to the schema of a record. -/
  isRecordRef : ∀ r key, b.record? r = some key → IsRecordRef root r

/-- What holds of the places where a walk stands. -/
structure Site.Sound (root : Json) (b : Builder) (site : Site) (node : Json) : Prop where
  /-- The reference that led here points here. -/
  reference : ∀ r, site.reference = some r → Pointer.resolve root r = .ok node
  /-- The record of a reference that is being expanded is there already, unless it is here. -/
  pending : ∀ r ∈ site.pending, IsRecordRef root r →
    (∃ key, b.record? r = some key) ∨ site.reference = some r

/-- Whether the records of all references that are being expanded are there already. -/
def Site.Opened (root : Json) (b : Builder) (site : Site) : Prop :=
  ∀ r ∈ site.pending, IsRecordRef root r → ∃ key, b.record? r = some key

namespace Site

variable {root : Json} {b b' : Builder} {site : Site} {node : Json}

/-- The records are still there later. -/
theorem Opened.grows (h : site.Opened root b) (hb : b.Grows b') : site.Opened root b' := by
  intro r hr hrecord
  obtain ⟨key, hkey⟩ := h r hr hrecord
  exact ⟨key, hb.record? hkey⟩

/-- At a schema that does not describe the values of a record itself, the records of all references
that are being expanded are there. -/
theorem Sound.opened (h : site.Sound root b node) {form : Form}
    (hform : Form.of root node = some form) (hshape : ∀ flat, form.shape ≠ .record flat) :
    site.Opened root b := by
  intro r hr hrecord
  rcases h.pending r hr hrecord with hkey | hreference
  · exact hkey
  · -- the reference that led here would point to the schema of a record
    obtain ⟨target, flat, nullable, hresolve, hflat⟩ := hrecord
    obtain rfl := Except.ok.inj (hresolve.symm.trans (h.reference r hreference))
    rw [hform] at hflat
    exact absurd (congrArg Form.shape (Option.some.inj hflat)) (hshape flat)

/-- A place that no reference led to is sound if the records of the references that are being
expanded are there. -/
theorem Opened.sound (h : site.Opened root b) (hint : Json) (node : Json) :
    Site.Sound root b { hint, pending := site.pending } node :=
  ⟨by simp, fun r hr hrecord => .inl (h r hr hrecord)⟩

/-- The place that a reference points to is sound. -/
theorem Opened.target (h : site.Opened root b) {r : String}
    (hresolve : Pointer.resolve root r = .ok node) : (site.target r node).Sound root b node := by
  refine ⟨?_, ?_⟩
  · intro r' hr'
    obtain rfl := Option.some.inj hr'
    exact hresolve
  · intro r' hr' hrecord
    rcases List.mem_cons.mp hr' with rfl | hr'
    · exact .inr rfl
    · exact .inl (h r' hr' hrecord)

end Site

namespace Convert

variable {d : Document} {w : Walk} {site : Site} {b b' : Builder}

section

variable {root : Json} {key : String} (hb : b.Sound root) (hopen : Opens site b key b')

include hopen in
/-- A key of the graph is an old one, or that of the record whose place was taken. -/
theorem Opens.mem_keys_iff {k : String} :
    k ∈ b'.graph.keys ↔ k ∈ b.graph.keys ∨ k = key := by
  rw [TypeGraph.keys, hopen.records]
  simp [TypeGraph.keys]

include hopen in
/-- A binding is an old one, or that of the record whose place was taken. -/
theorem Opens.lookup_iff {r k : String} :
    b'.bound.lookup r = some k ↔
      b.bound.lookup r = some k ∨ (site.reference = some r ∧ k = key) := by
  rcases hopen.key with ⟨r₀, hreference, hlookup, -, hbound⟩ | ⟨hnone, -, -, hbound⟩
  · rw [hbound]
    constructor
    · exact .inl
    · rintro (h | ⟨hr, rfl⟩)
      · exact h
      · obtain rfl := Option.some.inj (hreference.symm.trans hr)
        exact hlookup
  · rw [hbound]
    cases hreference : site.reference with
    | none => simp
    | some r₀ =>
      have hr₀ := hnone r₀ hreference
      rw [Option.map_some, Option.toList_some, List.singleton_append, List.lookup_cons]
      by_cases heq : r = r₀
      · subst heq
        simp [hr₀, eq_comm]
      · have hne : (r == r₀) = false := by simpa using heq
        simp [hne, Ne.symm heq]

include hopen in
/-- The keys in use stay so, and the key of the record is one of them, if those that are bound
are. -/
theorem Opens.mem_taken (hbound : ∀ r k, b.bound.lookup r = some k → k ∈ b.taken) {k : String}
    (h : k ∈ b.taken ∨ k = key) : k ∈ b'.taken := by
  rcases hopen.key with ⟨r₀, -, hlookup, htaken, -⟩ | ⟨-, -, htaken, -⟩
  · rw [htaken]
    rcases h with h | rfl
    · exact h
    · exact hbound r₀ k hlookup
  · rw [htaken]
    rcases h with h | rfl
    · exact List.mem_cons_of_mem _ h
    · exact List.mem_cons_self

include hb hopen

/-- A key that was bound already is that of the reference that led here. -/
theorem Opens.reference_of_lookup {r : String} (h : b.bound.lookup r = some key) :
    site.reference = some r := by
  rcases hopen.key with ⟨r₀, hreference, hlookup, -, -⟩ | ⟨-, htaken, -, -⟩
  · rwa [hb.bound_injective r r₀ key h hlookup]
  · exact absurd (hb.bound_taken r key h) htaken

/-- Taking the place of a record that a schema describes keeps everything sound. Its reference
stands for it from then on, so that the records of all references that are being expanded are
there. -/
theorem opened_sound {node : Json} {flat : Node} {nullable : Bool}
    (hsite : site.Sound root b node)
    (hform : Form.of root node = some ⟨.record flat, nullable⟩) :
    b'.Sound root ∧ b.Grows b' ∧ site.Opened root b' ∧
      ∀ r, site.reference = some r → b'.record? r = some key := by
  have hrecordRef : ∀ r, site.reference = some r → IsRecordRef root r :=
    fun r hr => ⟨node, flat, nullable, hsite.reference r hr, hform⟩
  have hgrows : b.Grows b' :=
    ⟨fun k hk => hopen.mem_keys_iff.mpr (.inl hk),
      fun r k hk => hopen.lookup_iff.mpr (.inl hk)⟩
  have hown : ∀ r, site.reference = some r → b'.record? r = some key := fun r hr =>
    Builder.record?_eq_some_iff.mpr
      ⟨hopen.lookup_iff.mpr (.inr ⟨hr, rfl⟩), hopen.mem_keys_iff.mpr (.inr rfl)⟩
  refine ⟨⟨?_, ?_, ?_, ?_⟩, hgrows, ?_, hown⟩
  · intro k hk
    exact hopen.mem_taken hb.bound_taken ((hopen.mem_keys_iff.mp hk).imp_left (hb.keys_taken k))
  · intro r k hk
    exact hopen.mem_taken hb.bound_taken ((hopen.lookup_iff.mp hk).imp (hb.bound_taken r k) And.right)
  · intro r r' k hk hk'
    -- a binding that shares its key with the new one is that of the same reference
    rcases hopen.lookup_iff.mp hk with hold | ⟨hr, heq⟩ <;>
      rcases hopen.lookup_iff.mp hk' with hold' | ⟨hr', heq'⟩
    · exact hb.bound_injective r r' k hold hold'
    · have hr := hopen.reference_of_lookup hb (heq' ▸ hold)
      exact Option.some.inj (hr.symm.trans hr')
    · have hr' := hopen.reference_of_lookup hb (heq ▸ hold')
      exact Option.some.inj (hr.symm.trans hr')
    · exact Option.some.inj (hr.symm.trans hr')
  · intro r k hk
    obtain ⟨hlookup, hmem⟩ := Builder.record?_eq_some_iff.mp hk
    rcases hopen.lookup_iff.mp hlookup with hold | ⟨hr, -⟩
    · -- an old binding stands for an old record, or for the one whose place was taken
      rcases hopen.mem_keys_iff.mp hmem with hmem | rfl
      · exact hb.isRecordRef r k (Builder.record?_eq_some_iff.mpr ⟨hold, hmem⟩)
      · exact hrecordRef r (hopen.reference_of_lookup hb hold)
    · exact hrecordRef r hr
  · intro r hr hrecord
    -- the one record that was missing is the one whose place was taken
    rcases hsite.pending r hr hrecord with ⟨k, hk⟩ | hreference
    · exact ⟨k, hgrows.record? hk⟩
    · exact ⟨key, hown r hreference⟩

end

/-- Whether all walks of `w` that return keep everything sound. -/
def Keeps (root : Json) (w : Walk) : Prop :=
  ∀ {site node b t b'}, Returns (w site node) b t b' → b.Sound root →
    site.Sound root b node → b'.Sound root ∧ b.Grows b'

/-- The properties of a record keep everything sound. -/
theorem properties_sound {root : Json} (hw : Keeps root w) {key : String}
    {required : List String} {entries : List (EntryName × Json)} {properties : List Property}
    (h : Returns (entries.mapM (property w site key required)) b properties b')
    (hb : b.Sound root) (hopened : site.Opened root b) : b'.Sound root ∧ b.Grows b' := by
  induction entries generalizing b properties with
  | nil =>
    obtain ⟨-, rfl⟩ := returns_mapM_nil_iff.mp h
    exact ⟨hb, .refl _⟩
  | cons entry entries ih =>
    obtain ⟨p, b₁, rest, hp, hrest, -⟩ := returns_mapM_cons_iff.mp h
    obtain ⟨suffix, t, -, hwalk, -⟩ := returns_property_iff.mp hp
    obtain ⟨hb₁, hgrows⟩ := hw hwalk hb (hopened.sound _ _)
    obtain ⟨hb', hgrows'⟩ := ih hrest hb₁ (hopened.grows hgrows)
    exact ⟨hb', hgrows.trans hgrows'⟩

/-- Filling the place of a record changes no key. -/
theorem replaced_sound {root : Json} (hb : b.Sound root) (r : Record) :
    Builder.Sound root { b with graph := b.graph.replace r } ∧
      b.Grows { b with graph := b.graph.replace r } := by
  have hkeys : (b.graph.replace r).keys = b.graph.keys := TypeGraph.map_key_replace r _
  refine ⟨⟨?_, hb.bound_taken, hb.bound_injective, ?_⟩, ?_, fun _ _ h => h⟩
  · rw [hkeys]
    exact hb.keys_taken
  · intro r' k hk
    rw [Builder.record?_eq_some_iff, hkeys] at hk
    exact hb.isRecordRef r' k (Builder.record?_eq_some_iff.mpr hk)
  · rw [hkeys]
    exact fun _ h => h

/-- Collecting a record keeps everything sound. -/
theorem record_sound {root : Json} (hw : Keeps root w) {node : Json} {flat : Node}
    {nullable : Bool} {key : String} (h : Returns (record d w site flat) b key b')
    (hb : b.Sound root) (hsite : site.Sound root b node)
    (hform : Form.of root node = some ⟨.record flat, nullable⟩) :
    b'.Sound root ∧ b.Grows b' ∧ ∀ r, site.reference = some r → b'.record? r = some key := by
  obtain ⟨b₁, required, entries, properties, b₂, hopen, -, -, hproperties, rfl⟩ :=
    returns_record h
  obtain ⟨hb₁, hgrows₁, hopened, hown⟩ :=
    opened_sound hb (returns_openRecord hopen) hsite hform
  obtain ⟨hb₂, hgrows₂⟩ := properties_sound hw hproperties hb₁ hopened
  obtain ⟨hb', hgrows'⟩ := replaced_sound hb₂ (recordOf d site flat key properties)
  have hgrows := hgrows₂.trans hgrows'
  exact ⟨hb', hgrows₁.trans hgrows, fun r hr => hgrows.record? (hown r hr)⟩

/-- What a step gives keeps everything sound if the walks inside do. -/
theorem gives_sound (hw : Keeps d.root w) {node : Json} {form : Form} {t : TypeRef}
    (h : Gives d w site b form.shape t b') (hb : b.Sound d.root)
    (hsite : site.Sound d.root b node) (hform : Form.of d.root node = some form) :
    b'.Sound d.root ∧ b.Grows b' := by
  -- notices are kept beside what is sound
  have hnoted (notices : List Notice) :
      (b.noted notices).Sound d.root ∧ b.Grows (b.noted notices) :=
    ⟨⟨hb.1, hb.2, hb.3, hb.4⟩, fun _ h => h, fun _ _ h => h⟩
  have hopened : (∀ flat, form.shape ≠ .record flat) → site.Opened d.root b :=
    hsite.opened hform
  obtain ⟨shape, nullable⟩ := form
  cases h with
  | scalar notices hkind => exact hnoted notices
  | listOfAny notices => exact hnoted notices
  | list h => exact hw h hb ((hopened (by simp)).sound _ _)
  | mapOfAny => exact ⟨hb, .refl b⟩
  | map h => exact hw h hb ((hopened (by simp)).sound _ _)
  | record h =>
    obtain ⟨hb', hgrows, -⟩ := record_sound hw h hb hsite hform
    exact ⟨hb', hgrows⟩
  | known hknown => exact ⟨hb, .refl b⟩
  | cut hknown hpending => exact hnoted _
  | target hknown hpending hresolve h => exact hw h hb ((hopened (by simp)).target hresolve)
  | alternative h => exact hw h hb ((hopened (by simp)).sound _ _)

/-- Every walk that returns keeps everything sound. -/
theorem walk_sound (d : Document) (n : Nat) : Keeps d.root (walk d n) := by
  induction n with
  | zero => exact fun h => absurd h (not_returns_throw _)
  | succ n ih =>
    intro site node b t b' h hb hsite
    obtain ⟨form, u, hform, hgives, -⟩ := returns_step h
    exact gives_sound ih hgives hb hsite hform

end Convert

end SchemaStruct
