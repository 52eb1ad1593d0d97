import SchemaStruct.Proofs.Naming.Unique
import SchemaStruct.Proofs.Schema.Graphs
import SchemaStruct.Proofs.Schema.Readings

/-!
# Steps of the Walk

A step of the walk does what the form of the schema says, with at most one walk inside, or one for
each property of a record. Later proofs go through the forms and never open a step.

## Main definitions

* `Gives`: what a step makes of a shape;
* `Convert.Opens`: the place of a record has been taken.

## Main results

* `Convert.returns_step` and `Convert.returns_walk`: a step gives what the form of the schema says;
* `Convert.returns_record`, `Convert.returns_openRecord` and `Convert.returns_property_iff`: what
  collecting a record is made of;
* `Document.returns_toGraph`: the walk that the graph of a document comes from.
-/

namespace SchemaStruct

/-- What a record is named after: a title if there is one, or else a suggested name. -/
def Document.nameSource (title : Option Json) (hint : Json) : Json :=
  if (Json.orNull title).truthy then Json.orNull title else hint

/-- The place of what a reference points to. -/
def Site.target (s : Site) (r : String) (node : Json) : Site where
  hint :=
    let title := Json.orNull (node.get? "title")
    if title.truthy then title else .str (Pointer.lastStep r)
  reference := some r
  pending := r :: s.pending

/-- What a step makes of a shape at a site: the type that it gives and the builder that it ends in,
where `w` goes on inside. -/
inductive Gives (d : Document) (w : Walk) (site : Site) (b : Builder) :
    Shape → TypeRef → Builder → Prop
  | scalar {kind : FieldKind} (notices : List Notice)
      (hkind : kind ≠ .object ∧ kind ≠ .array ∧ kind ≠ .map) :
      Gives d w site b (.scalar kind) { kind } (b.noted notices)
  | listOfAny (notices : List Notice) :
      Gives d w site b (.list none) (.array .any) (b.noted notices)
  | list {items : Json} {t : TypeRef} {b' : Builder}
      (h : Returns (w (site.inner "Element") items) b t b') :
      Gives d w site b (.list (some items)) (.array t) b'
  | mapOfAny : Gives d w site b (.map none) (.map .any) b
  | map {values : Json} {t : TypeRef} {b' : Builder}
      (h : Returns (w (site.inner "Value") values) b t b') :
      Gives d w site b (.map (some values)) (.map t) b'
  | record {node : Node} {key : String} {b' : Builder}
      (h : Returns (Convert.record d w site node) b key b') :
      Gives d w site b (.record node) (.object key) b'
  | known {r key : String} (hknown : b.record? r = some key) :
      Gives d w site b (.reference r) (.object key) b
  | cut {r : String} (hknown : b.record? r = none) (hpending : r ∈ site.pending) :
      Gives d w site b (.reference r) .any (b.noted [.recursiveReference r])
  | target {r : String} {node : Json} {t : TypeRef} {b' : Builder} (hknown : b.record? r = none)
      (hpending : r ∉ site.pending) (hresolve : Pointer.resolve d.root r = .ok node)
      (h : Returns (w (site.target r node) node) b t b') :
      Gives d w site b (.reference r) t b'
  | alternative {one : Json} {t : TypeRef} {b' : Builder}
      (h : Returns (w site.anonymous one) b t b') :
      Gives d w site b (.alternative one) t b'

/-- A reference stands for the key that is bound to it if the graph has a record of that key. -/
theorem Builder.record?_eq_some_iff {b : Builder} {r key : String} :
    b.record? r = some key ↔ b.bound.lookup r = some key ∧ key ∈ b.graph.keys := by
  simp only [Builder.record?, Option.bind_eq_bind, Option.bind_eq_some_iff]
  constructor
  · rintro ⟨k, hk, h⟩
    by_cases hmem : b.graph.contains k
    · rw [if_pos hmem] at h
      obtain rfl := Option.some.inj h
      exact ⟨hk, TypeGraph.contains_iff_mem_keys.mp hmem⟩
    · simp [hmem] at h
  · rintro ⟨hk, hmem⟩
    exact ⟨key, hk, if_pos (TypeGraph.contains_iff_mem_keys.mpr hmem)⟩

/-- Allowing no value leaves the kind alone. -/
@[simp]
theorem TypeRef.kind_withNullableIf (b : Bool) (t : TypeRef) :
    (t.withNullableIf b).kind = t.kind := by
  cases b <;> rfl

/-- Allowing no value leaves the record alone. -/
@[simp]
theorem TypeRef.record_withNullableIf (b : Bool) (t : TypeRef) :
    (t.withNullableIf b).record = t.record := by
  cases b <;> rfl

/-- Allowing no value leaves the items alone. -/
@[simp]
theorem TypeRef.items_withNullableIf (b : Bool) (t : TypeRef) :
    (t.withNullableIf b).items = t.items := by
  cases b <;> rfl

namespace Convert

variable {d : Document} {w : Walk} {site : Site} {b b' : Builder} {t : TypeRef}

/-- What a node gives of the form that is read off it. -/
def GivesForm (d : Document) (w : Walk) (site : Site) (form : Option Form) (b : Builder)
    (t : TypeRef) (b' : Builder) : Prop :=
  ∃ f u, form = some f ∧ Gives d w site b f.shape u b' ∧ t = u.withNullableIf f.nullable

/-- Reporting notices changes nothing else. -/
@[simp]
theorem returns_tell_iff {notices : List Notice} {u : Unit} :
    Returns (tell notices) b u b' ↔ b' = b.noted notices :=
  returns_modify_iff

/-- What a reference gives. -/
theorem returns_reference {r : String}
    (h : Returns (reference d.root w site (.str r)) b t b') :
    Gives d w site b (.reference r) t b' := by
  have hhash : (Json.str r).requireHashable = .ok () := rfl
  simp only [reference, hhash, returns_bind_iff, returns_build_iff, returns_get_iff] at h
  obtain ⟨_, _, ⟨-, rfl⟩, _, _, ⟨rfl, rfl⟩, h⟩ := h
  split at h
  · next key hknown =>
    obtain ⟨rfl, rfl⟩ := returns_pure_iff.mp h
    exact .known hknown
  · next hknown =>
    split at h
    · next hpending =>
      simp only [returns_bind_iff, Build.note, returns_modify_iff, returns_pure_iff] at h
      obtain ⟨_, _, rfl, rfl, rfl⟩ := h
      exact .cut hknown (by simpa using hpending)
    · next hpending =>
      simp only [returns_bind_iff, returns_build_iff] at h
      obtain ⟨node, _, ⟨hresolve, rfl⟩, h⟩ := h
      exact .target hknown (by simpa using hpending) hresolve h

/-- What performing a shape gives. -/
theorem returns_perform {notices : List Notice} {shape : Shape} (hproper : shape.Proper)
    (h : Returns (perform d w site notices shape) b t b') : Gives d w site b shape t b' := by
  cases shape with
  | scalar kind =>
    simp only [perform, returns_bind_iff, returns_tell_iff, returns_pure_iff] at h
    obtain ⟨_, _, rfl, rfl, rfl⟩ := h
    exact .scalar notices hproper
  | list items =>
    cases items with
    | none =>
      simp only [perform, returns_bind_iff, returns_tell_iff, returns_pure_iff] at h
      obtain ⟨_, _, rfl, rfl, rfl⟩ := h
      exact .listOfAny notices
    | some items =>
      simp only [perform, returns_bind_iff, returns_pure_iff] at h
      obtain ⟨u, _, hwalk, rfl, rfl⟩ := h
      exact .list hwalk
  | map values =>
    cases values with
    | none =>
      obtain ⟨rfl, rfl⟩ := returns_pure_iff.mp h
      exact .mapOfAny
    | some values =>
      simp only [perform, returns_bind_iff, returns_pure_iff] at h
      obtain ⟨u, _, hwalk, rfl, rfl⟩ := h
      exact .map hwalk
  | record node =>
    simp only [perform, returns_bind_iff, returns_pure_iff] at h
    obtain ⟨key, _, hrecord, rfl, rfl⟩ := h
    exact .record hrecord
  | reference r => exact returns_reference h
  | alternative one => exact .alternative h

/-- A step gives what the form of the schema says. -/
theorem returns_step {node : Json} (h : Returns (step d w site node) b t b') :
    GivesForm d w site (Form.of d.root node) b t b' := by
  obtain ⟨notices, hstep⟩ := exists_step_eq d site node
  rw [hstep] at h
  rw [← Form.toOption_read d.root site.hintText]
  cases hread : Form.read d.root site.hintText node with
  | error f =>
    rw [hread] at h
    exact absurd h (not_returns_throw f)
  | ok form =>
    simp only [hread, performForm_ok, returns_bind_iff, returns_pure_iff] at h
    obtain ⟨u, _, hperform, rfl, rfl⟩ := h
    exact ⟨form, u, rfl, returns_perform (Form.proper_of_read hread) hperform, rfl⟩

/-- A walk that returns has fuel, and its first step gives what the form of the schema says. -/
theorem returns_walk {n : Nat} {node : Json} (h : Returns (walk d n site node) b t b') :
    ∃ m, n = m + 1 ∧ GivesForm d (walk d m) site (Form.of d.root node) b t b' := by
  cases n with
  | zero => exact absurd h (not_returns_throw _)
  | succ m => exact ⟨m, rfl, returns_step h⟩

/-- The builder with a key in use, which is bound to the reference of a site if there is one. -/
def keyed (site : Site) (key : String) (b : Builder) : Builder :=
  { b with
    taken := key :: b.taken
    bound := (site.reference.map fun r => (r, key)).toList ++ b.bound }

/-- The key of a record is the one bound to its reference, or a fresh one made of what the record is
named after. -/
theorem returns_recordKey {node : Node} {key : String}
    (h : Returns (recordKey site node) b key b') :
    (∃ r, site.reference = some r ∧ b.bound.lookup r = some key ∧ b' = b) ∨
      ((∀ r, site.reference = some r → b.bound.lookup r = none) ∧ ∃ base,
        TypeName.ofValue (Document.nameSource (node.get? "title") site.hint) = .ok base ∧
          key = TypeName.unique b.taken base ∧ b' = keyed site key b) := by
  unfold recordKey at h
  simp only [returns_bind_iff, returns_get_iff] at h
  obtain ⟨_, _, ⟨rfl, rfl⟩, h⟩ := h
  split at h
  · next key' hkey =>
    obtain ⟨rfl, rfl⟩ := returns_pure_iff.mp h
    obtain ⟨r, hr, hlookup⟩ := Option.bind_eq_some_iff.mp hkey
    exact .inl ⟨r, hr, hlookup, rfl⟩
  · next hkey =>
    simp only [Build.freshKey, returns_bind_iff, returns_build_iff, returns_get_iff,
      returns_modify_iff, returns_pure_iff] at h
    obtain ⟨key', _, ⟨base, _, ⟨hbase, rfl⟩, _, _, ⟨rfl, rfl⟩, _, _, rfl, rfl, rfl⟩, h⟩ := h
    -- only a site with a reference leaves a binding behind
    cases hreference : site.reference with
    | none =>
      simp only [hreference, returns_pure_iff] at h
      obtain ⟨rfl, rfl⟩ := h
      exact .inr ⟨by simp, base, hbase, rfl, by simp [keyed, hreference]⟩
    | some r =>
      simp only [hreference, Build.bind, returns_bind_iff, returns_modify_iff,
        returns_pure_iff] at h
      obtain ⟨_, _, rfl, rfl, rfl⟩ := h
      refine .inr ⟨?_, base, hbase, rfl, by simp [keyed, hreference]⟩
      simpa [hreference] using hkey

/-- The key of a record whose reference is not bound is made of what the record is named after. -/
theorem key_of_unbound {node : Node} {key : String}
    (h : Returns (recordKey site node) b key b')
    (hbound : ∀ r, site.reference = some r → b.bound.lookup r = none) :
    ∃ base, TypeName.ofValue (Document.nameSource (node.get? "title") site.hint) = .ok base ∧
      key = TypeName.unique b.taken base := by
  rcases returns_recordKey h with ⟨r, hr, hlookup, -⟩ | ⟨-, base, hbase, hkey, -⟩
  · rw [hbound r hr] at hlookup
    cases hlookup
  · exact ⟨base, hbase, hkey⟩

/-- Finds the key of a record and takes its place in the graph. -/
def openRecord (site : Site) (node : Node) : Build String := do
  let key ← recordKey site node
  Build.addRecord { key, suggestedName := site.hint }
  return key

/-- The place of a record has been taken: its key, which no record had, is the one bound to its
reference or a fresh one, and an empty record stands at the end of the graph. -/
structure Opens (site : Site) (b : Builder) (key : String) (b' : Builder) : Prop where
  /-- No record had the key. -/
  fresh : key ∉ b.graph.keys
  /-- The empty record stands behind the others. -/
  records : b'.graph.records = b.graph.records ++ [{ key, suggestedName := site.hint }]
  /-- The key was bound already, or it is in use from now on and bound to the reference. -/
  key : (∃ r, site.reference = some r ∧ b.bound.lookup r = some key ∧ b'.taken = b.taken ∧
      b'.bound = b.bound) ∨
    ((∀ r, site.reference = some r → b.bound.lookup r = none) ∧ key ∉ b.taken ∧
      b'.taken = key :: b.taken ∧
      b'.bound = (site.reference.map fun r => (r, key)).toList ++ b.bound)

/-- Finding the key of a record and taking its place does just that. -/
theorem returns_openRecord {node : Node} {key : String}
    (h : Returns (openRecord site node) b key b') : Opens site b key b' := by
  simp only [openRecord, Build.addRecord, returns_bind_iff, returns_build_iff, returns_get_iff,
    returns_modify_iff, returns_pure_iff] at h
  obtain ⟨_, b₁, hkey, _, _, ⟨_, _, ⟨rfl, rfl⟩, g, _, ⟨hadd, rfl⟩, rfl⟩, rfl, rfl⟩ := h
  obtain ⟨hfresh, hrecords⟩ := TypeGraph.records_add hadd
  rcases returns_recordKey hkey with ⟨r, hr, hlookup, rfl⟩ | ⟨hnone, base, -, rfl, rfl⟩
  · exact ⟨hfresh, hrecords, .inl ⟨r, hr, hlookup, rfl, rfl⟩⟩
  · have htaken := TypeName.unique_not_mem b.taken base
    exact ⟨hfresh, hrecords, .inr ⟨hnone, htaken, rfl, rfl⟩⟩

/-- A property has the type that the walk gives. -/
theorem returns_property_iff {key : String} {required : List String} {entry : EntryName × Json}
    {p : Property} :
    Returns (property w site key required entry) b p b' ↔
      ∃ suffix t, TypeName.ofEntry entry.1 = .ok suffix ∧
        Returns (w { hint := .str (key ++ suffix), pending := site.pending } entry.2) b t b' ∧
        p = { name := entry.1.toJson.plain, type := t,
              optional := !required.contains entry.1.toJson.plain,
              description := Json.orNull (entry.2.get? "description") } := by
  obtain ⟨name, schema⟩ := entry
  simp only [property, returns_bind_iff, returns_build_iff, returns_pure_iff]
  constructor
  · rintro ⟨suffix, _, ⟨hsuffix, rfl⟩, t, _, hwalk, rfl, rfl⟩
    exact ⟨suffix, t, hsuffix, hwalk, rfl⟩
  · rintro ⟨suffix, t, hsuffix, hwalk, rfl⟩
    exact ⟨suffix, b, ⟨hsuffix, rfl⟩, t, b', hwalk, rfl, rfl⟩

/-- The record of a node, given its key and its properties. -/
def recordOf (d : Document) (site : Site) (node : Node) (key : String)
    (properties : List Property) : Record where
  key := key
  suggestedName := site.hint
  properties := properties
  visibility := d.visibility
  description := Json.orNull (node.get? "description")
  baseType := d.baseType

/-- Collecting a record finds its key, takes its place in the graph, collects the properties and
fills the place. -/
theorem returns_record {node : Node} {key : String}
    (h : Returns (record d w site node) b key b') :
    ∃ b₁ required entries properties b₂, Returns (openRecord site node) b key b₁ ∧
      node.requiredNames = .ok required ∧ node.listed = .ok entries ∧
      Returns (entries.mapM (property w site key required)) b₁ properties b₂ ∧
      b' = { b₂ with graph := b₂.graph.replace (recordOf d site node key properties) } := by
  simp only [record, Build.replaceRecord, returns_bind_iff, returns_build_iff,
    returns_modify_iff, returns_pure_iff] at h
  obtain ⟨_, _, hkey, _, b₁, hadd, required, _, ⟨hrequired, rfl⟩, entries, _, ⟨hlisted, rfl⟩,
    properties, b₂, hproperties, _, _, rfl, rfl, rfl⟩ := h
  refine ⟨_, required, entries, properties, b₂, ?_, hrequired, hlisted, hproperties, rfl⟩
  simp only [openRecord, returns_bind_iff, returns_pure_iff]
  exact ⟨_, _, hkey, (), _, hadd, rfl, rfl⟩

end Convert

/-- What has been collected when the walk begins: the key of the document's own record. -/
def Builder.opening (key : String) : Builder := { bound := [("#", key)], taken := [key] }

/-- Only the reference to the whole document is bound at the beginning. -/
theorem Builder.lookup_opening_iff {own r key : String} :
    (Builder.opening own).bound.lookup r = some key ↔ r = "#" ∧ key = own := by
  rw [Builder.opening, List.lookup_cons]
  by_cases hr : r = "#"
  · simp [hr, eq_comm]
  · have hne : (r == "#") = false := by simpa using hr
    simp [hne, hr]

/-- The place where the walk begins. -/
def Site.opening (topLevel : Json) : Site := { hint := topLevel, reference := some "#" }

/-- The graph of a document that has one. -/
theorem Document.toGraph_of_toOption {d : Document} {topLevel : Json} {g : TypeGraph}
    (h : (d.toGraph topLevel).1.toOption = some g) : (d.toGraph topLevel).1 = .ok g := by
  cases hresult : (d.toGraph topLevel).1 with
  | error f => simp [hresult, Except.toOption] at h
  | ok g' => simpa [hresult, Except.toOption] using h

/-- A document has a graph if the walk from its beginning ends in an object. -/
theorem Document.returns_toGraph {d : Document} {topLevel : Json} {g : TypeGraph}
    (h : (d.toGraph topLevel).1 = .ok g) :
    ∃ key t b, TypeName.ofValue topLevel = .ok key ∧
      Returns (Convert.walk d (Convert.fuel d.root) (.opening topLevel) d.root)
        (.opening key) t b ∧
      t.kind = .object ∧ g = { b.graph with topLevel := t.record } := by
  have hcollect : Returns (d.collect topLevel) {} g ((d.collect topLevel).run.run {}).2 :=
    Prod.ext h rfl
  generalize ((d.collect topLevel).run.run {}).2 = b' at hcollect
  -- only an object with members is walked at all
  unfold Document.collect at hcollect
  split at hcollect
  · exact absurd hcollect (not_returns_throw _)
  · exact absurd hcollect (not_returns_throw _)
  · next members hmembers hroot =>
    simp only [Build.freshKey, Build.bind, returns_bind_iff, returns_build_iff, returns_get_iff,
      returns_modify_iff, returns_pure_iff] at hcollect
    obtain ⟨_, _, ⟨_, _, ⟨hbase, rfl⟩, _, _, ⟨rfl, rfl⟩, _, _, rfl, rfl, rfl⟩, _, _, rfl, t,
      b, hwalk, hcollect⟩ := hcollect
    split at hcollect
    · next hkind =>
      simp only [returns_bind_iff, returns_get_iff, returns_pure_iff] at hcollect
      obtain ⟨_, _, ⟨rfl, rfl⟩, rfl, -⟩ := hcollect
      rw [← hroot] at hwalk
      exact ⟨_, t, _, hbase, hwalk, hkind, rfl⟩
    · exact absurd hcollect (not_returns_throw _)
  · exact absurd hcollect (not_returns_throw _)

end SchemaStruct
