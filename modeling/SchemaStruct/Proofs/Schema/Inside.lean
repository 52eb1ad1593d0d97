import Mathlib.Logic.Relation
import SchemaStruct.Proofs.Json.Values
import SchemaStruct.Proofs.Schema.Calls

/-!
# What Is inside of a Schema

The walk goes on at the schemas that a schema holds, and at what it refers to. The schemas that it
holds are read off its flat form, so they may stand somewhere else in the document: the properties
of a part that is a reference are held by the whole. Nothing guards the walk there. A schema that is
held by itself, through its parts, has no end, although no part is a part of itself, and although
the cycle leads through records.

## Main definitions

* `Shape.inner` and `Holds`: the schemas inside of a schema;
* `Merges`: the parts of a schema;
* `Reaches`: the schemas that the walk gets to from the top of a document;
* `Convert.Makes`: the calls that a step makes, by what they are made for.

## Main results

* `Convert.makes_of_mem_calls` and `Convert.holds_or_target_of_mem_calls`: a call is made at a
  schema inside, or at what a reference points to;
* `Convert.exists_call_of_holds`: where a step returns, there is a call at every schema inside;
* `Form.covers_of_mem_inner`: the schemas inside are values of the document;
* `Convert.acc_of_returns` and `Node.acc_of_flattenWith`: where the walk returns, no schema is
  inside of itself, and no part is a part of itself.
-/

namespace SchemaStruct

/-- The schemas inside of a schema with the shape. -/
def Shape.inner : Shape → List Json
  | .scalar _ => []
  | .list none => []
  | .list (some items) => [items]
  | .map none => []
  | .map (some values) => [values]
  | .record node =>
    match node.listed with
    | .ok entries => entries.map (·.2)
    | .error _ => []
  | .reference _ => []
  | .alternative one => [one]

/-- The schema `child` is inside of the schema `node`. -/
def Holds (root node child : Json) : Prop :=
  ∃ form, Form.of root node = some form ∧ child ∈ form.shape.inner

/-- The schema that a part stands for: what it refers to, or itself. -/
def partTarget (root : Json) (own : List (String × Json)) : Except Fault Json :=
  match Json.lookup "$ref" own with
  | some ref => Pointer.resolveValue root ref
  | none => .ok (.obj own)

/-- The schema `part` is a part of the schema `node`. -/
def Merges (root node part : Json) : Prop :=
  ∃ listed items own, node.get? "allOf" = some listed ∧ listed.walk = .ok items ∧
    .obj own ∈ items ∧ partTarget root own = .ok part

/-- Whether the parts of a schema are gathered: references and alternatives go before them. -/
def Json.isMerged (node : Json) : Bool :=
  (node.get? "$ref").isNone && (node.get? "anyOf").isNone && (node.get? "oneOf").isNone

/-- The walk gets to the schema from the top of the document. -/
inductive Reaches (root : Json) : Json → Prop
  | top : Reaches root root
  | inner {node child : Json} (h : Reaches root node) (hinner : Holds root node child) :
      Reaches root child
  | target {node target : Json} {r : String} {nullable : Bool} (h : Reaches root node)
      (hform : Form.of root node = some ⟨.reference r, nullable⟩)
      (hresolve : Pointer.resolve root r = .ok target) : Reaches root target

/-- The keywords that an object without references and alternatives does not have. -/
theorem Json.isMerged_obj_iff {members : List (String × Json)} :
    (Json.obj members).isMerged = true ↔ Json.lookup "$ref" members = none ∧
      (Json.lookup "anyOf" members).or (Json.lookup "oneOf" members) = none := by
  simp [Json.isMerged, Json.get?, and_assoc]

/-- The keywords of the node and the properties that it has gathered are covered. -/
structure Node.Covered (root : Json) (n : Node) : Prop where
  /-- The keywords. -/
  keywords : ∀ m ∈ n.keywords, root.Covers m.2
  /-- The properties. -/
  properties : ∀ g, n.gathered = some g → g.properties.Covered root

namespace Node

variable {root : Json} {n : Node}

/-- The value of a keyword is covered. -/
theorem Covered.get? (h : n.Covered root) {keyword : String} {v : Json}
    (hv : n.get? keyword = some v) : root.Covers v :=
  h.keywords _ (Json.mem_of_lookup hv)

/-- The properties that the node contributes to a whole are covered. -/
theorem Covered.contributed (h : n.Covered root) {entries : Entries}
    (hentries : n.contributed = .ok entries) : entries.Covered root := by
  unfold Node.contributed at hentries
  split at hentries
  · next g hg => exact Except.ok.inj hentries ▸ h.properties g hg
  · split at hentries
    · next v hv => exact (h.get? hv).entries hentries
    · obtain rfl := Except.ok.inj hentries
      simp [Entries.Covered]

/-- A record lists what the node contributes to a whole. -/
theorem contributed_of_listed {entries : Entries} (h : n.listed = .ok entries) :
    n.contributed = .ok entries := by
  unfold listed at h
  unfold contributed
  split at h
  · exact h
  · split at h
    · next hv =>
      rw [hv]
      exact h
    · cases h
    · next hv =>
      rw [hv]
      exact h

/-- The keywords stay covered with the type of a part. -/
theorem covered_adoptType {keywords : List (String × Json)} {part : Node}
    (h : ∀ m ∈ keywords, root.Covers m.2) (hpart : part.Covered root) :
    ∀ m ∈ adoptType keywords part, root.Covers m.2 := by
  unfold adoptType
  split
  · next t _ ht =>
    intro m hm
    rcases List.mem_append.mp hm with hm | hm
    · exact h m hm
    · obtain rfl := List.mem_singleton.mp hm
      exact hpart.get? ht
  · exact h

/-- Gathering goes on with covered properties. -/
theorem Covered.addNode (h : n.Covered root) {g g' : Gathered} (hg : g.properties.Covered root)
    (hadd : g.addNode n = .ok g') : g'.properties.Covered root := by
  obtain ⟨properties, hproperties, hadd⟩ := ok_of_bind hadd
  obtain ⟨required, -, hadd⟩ := ok_of_bind hadd
  obtain rfl := Except.ok.inj hadd
  exact hg.update (h.contributed hproperties)

/-- An object adds the flat form of the schema that it stands for. -/
theorem addPart_obj {flat : List (String × Json) → Except Fault Node} {own : List (String × Json)}
    {acc : List (String × Json) × Gathered} :
    addPart root flat acc (.obj own) = (do
      let target ← partTarget root own
      let node ← flat (target.members?.getD [])
      let gathered ← acc.2.addNode node
      return (adoptType acc.1 node, gathered)) := by
  simp only [addPart, partTarget]
  cases Json.lookup "$ref" own <;> rfl

/-- What a part adds: the flat form of the schema that it stands for, unless it is no object. -/
theorem eq_of_addPart {flat : List (String × Json) → Except Fault Node} {part : Json}
    {acc acc' : List (String × Json) × Gathered} (h : addPart root flat acc part = .ok acc') :
    ((∀ own, part ≠ .obj own) ∧ acc' = acc) ∨ ∃ own target node gathered, part = .obj own ∧
      partTarget root own = .ok target ∧ flat (target.members?.getD []) = .ok node ∧
      acc.2.addNode node = .ok gathered ∧ acc' = (adoptType acc.1 node, gathered) := by
  cases part with
  | obj own =>
    rw [addPart_obj] at h
    obtain ⟨target, htarget, h⟩ := ok_of_bind h
    obtain ⟨node, hnode, h⟩ := ok_of_bind h
    obtain ⟨gathered, hgathered, h⟩ := ok_of_bind h
    exact .inr ⟨own, target, node, gathered, rfl, htarget, hnode, hgathered,
      (Except.ok.inj h).symm⟩
  | _ => exact .inl ⟨by simp, (Except.ok.inj h).symm⟩

/-- The schema that a covered part stands for is one of the values. -/
theorem mem_values_of_partTarget {own : List (String × Json)} {target : Json}
    (h : partTarget root own = .ok target) (hown : root.Covers (.obj own)) :
    target ∈ root.values := by
  unfold partTarget at h
  split at h
  · exact Pointer.mem_values_of_resolveValue h
  · exact Except.ok.inj h ▸ hown.mem_values_of_obj

/-- A part of one of the values stands for one of the values. -/
theorem mem_values_of_merges {node part : Json} (hnode : node ∈ root.values)
    (h : Merges root node part) : part ∈ root.values := by
  obtain ⟨listed, items, own, hlisted, hitems, hmem, htarget⟩ := h
  have hcovers : root.Covers listed := .inl (Json.mem_values_of_get? hnode hlisted)
  exact mem_values_of_partTarget htarget (hcovers.walk hitems _ hmem)

/-- The members of one of the values are covered. -/
theorem covers_of_mem_members {v : Json} (hv : v ∈ root.values) :
    ∀ m ∈ v.members?.getD [], root.Covers m.2 := by
  intro m hm
  cases v with
  | obj members => exact .inl (Json.mem_values_of_mem_members hv hm)
  | _ => cases hm

/-- A flat form is covered if the members are. -/
theorem covered_of_flattenWith {fuel : Nat} {members : List (String × Json)}
    (h : flattenWith root fuel members = .ok n) (hmembers : ∀ m ∈ members, root.Covers m.2) :
    n.Covered root := by
  induction fuel generalizing members n with
  | zero => cases h
  | succ fuel ih =>
    have hown : Covered root { keywords := members } := ⟨hmembers, by simp⟩
    unfold flattenWith at h
    split at h
    · obtain rfl := Except.ok.inj h
      exact hown
    · next listed hlisted =>
      obtain ⟨items, hitems, h⟩ := ok_of_bind h
      obtain ⟨⟨keywords, gathered⟩, hfold, h⟩ := ok_of_bind h
      obtain ⟨g, hg, h⟩ := ok_of_bind h
      obtain rfl := Except.ok.inj h
      have hcovers := (hmembers _ (Json.mem_of_lookup hlisted)).walk hitems
      -- what is gathered stays covered from part to part
      have hgathered : (∀ m ∈ keywords, root.Covers m.2) ∧ gathered.properties.Covered root := by
        refine of_foldlM_ok (P := fun acc : List (String × Json) × Gathered =>
          (∀ m ∈ acc.1, root.Covers m.2) ∧ acc.2.properties.Covered root) hfold ⟨?_, ?_⟩ ?_
        · exact fun m hm => hmembers m (List.mem_filter.mp hm).1
        · simp [Gathered.empty, Entries.Covered]
        · rintro acc part hpart acc' ⟨hkeywords, hproperties⟩ hadd
          rcases eq_of_addPart hadd with
            ⟨-, rfl⟩ | ⟨own, target, node, g, rfl, htarget, hnode, hg, rfl⟩
          · exact ⟨hkeywords, hproperties⟩
          · have htarget := mem_values_of_partTarget htarget (hcovers _ hpart)
            have hflat := ih hnode (covers_of_mem_members htarget)
            exact ⟨covered_adoptType hkeywords hflat, hflat.addNode hproperties hg⟩
      refine ⟨hgathered.1, fun g' hg' => ?_⟩
      obtain rfl := Option.some.inj hg'
      exact hown.addNode hgathered.2 hg

/-- Where a flat form is found, so is that of every part, with less fuel. -/
theorem exists_flattenWith_of_merges {fuel : Nat} {node part : Json}
    (h : flattenWith root (fuel + 1) (node.members?.getD []) = .ok n)
    (hpart : Merges root node part) :
    ∃ n', flattenWith root fuel (part.members?.getD []) = .ok n' := by
  obtain ⟨listed, items, own, hlisted, hitems, hmem, htarget⟩ := hpart
  cases node with
  | obj members =>
    have hlookup : Json.lookup "allOf" members = some listed := hlisted
    simp only [Json.members?, Option.getD_some, flattenWith, hlookup] at h
    obtain ⟨_, hwalk, h⟩ := ok_of_bind h
    obtain rfl := Except.ok.inj (hitems.symm.trans hwalk)
    obtain ⟨_, hfold, -⟩ := ok_of_bind h
    obtain ⟨acc, acc', hadd⟩ := ok_of_foldlM hfold _ hmem
    rcases eq_of_addPart hadd with
      ⟨hnone, -⟩ | ⟨own', target', node, g, heq, htarget', hnode, -, -⟩
    · exact absurd rfl (hnone own)
    · obtain rfl := Json.obj.inj heq
      obtain rfl := Except.ok.inj (htarget.symm.trans htarget')
      exact ⟨node, hnode⟩
  | _ => cases hlisted

/-- A schema that has a flat form is no part of itself, and neither is any of its parts. -/
theorem acc_of_flattenWith {fuel : Nat} {node : Json}
    (h : flattenWith root fuel (node.members?.getD []) = .ok n) :
    Acc (fun part whole => Merges root whole part) node := by
  induction fuel generalizing node n with
  | zero => cases h
  | succ fuel ih =>
    refine ⟨_, fun part hpart => ?_⟩
    obtain ⟨n', hn'⟩ := exists_flattenWith_of_merges h hpart
    exact ih hn'

end Node

namespace Form

variable {root : Json} {node : Node} {form : Form} {child : Json}

/-- The schema of the items of a list is covered. -/
theorem covers_of_mem_ofItems {items : Option Json} (hitems : ∀ v, items = some v → root.Covers v)
    (h : child ∈ (ofItems items).shape.inner) : root.Covers child := by
  unfold ofItems at h
  split at h
  · exact absurd h List.not_mem_nil
  · obtain rfl := List.mem_singleton.mp h
    cases items with
    | none => exact .inr rfl
    | some v => exact hitems v rfl

/-- The schema of the values of a map is covered. -/
theorem covers_of_mem_ofValues {values : Option Json}
    (hvalues : ∀ v, values = some v → root.Covers v)
    (h : child ∈ (ofValues values).shape.inner) : root.Covers child := by
  unfold ofValues at h
  split at h
  · exact absurd h List.not_mem_nil
  · obtain rfl := List.mem_singleton.mp h
    cases values with
    | none => exact .inr rfl
    | some v => exact hvalues v rfl

/-- The schemas inside of a node whose type is named are covered. -/
theorem covers_of_mem_ofTyped (hnode : node.Covered root) {type : Json}
    (hform : ofTyped node type = some form) (h : child ∈ form.shape.inner) : root.Covers child := by
  unfold ofTyped at hform
  split at hform
  · cases hform
    exact absurd h List.not_mem_nil
  · cases hform
    exact absurd h List.not_mem_nil
  · cases hform
    exact covers_of_mem_ofItems (fun v hv => hnode.get? hv) h
  · split at hform
    · cases hform
      -- the properties of the record
      simp only [Shape.inner] at h
      split at h
      · next entries hlisted =>
        obtain ⟨entry, hentry, rfl⟩ := List.mem_map.mp h
        exact hnode.contributed (Node.contributed_of_listed hlisted) entry hentry
      · exact absurd h List.not_mem_nil
    · cases hform
      exact covers_of_mem_ofValues (fun v hv => hnode.get? hv) h
  · split at hform <;> cases hform <;> exact absurd h List.not_mem_nil
  · cases hform

/-- The schemas inside of a node without parts are covered. -/
theorem covers_of_mem_ofFlat (hnode : node.Covered root) (hform : ofFlat node = some form)
    (h : child ∈ form.shape.inner) : root.Covers child := by
  unfold ofFlat at hform
  split at hform
  · obtain ⟨t, -, rfl⟩ := Option.map_eq_some_iff.mp hform
    exact absurd h List.not_mem_nil
  · split at hform
    · dsimp only [ofTypes] at hform
      split at hform
      · obtain ⟨typed, htyped, rfl⟩ := Option.map_eq_some_iff.mp hform
        exact covers_of_mem_ofTyped hnode htyped h
      · cases hform
        exact absurd h List.not_mem_nil
    · exact covers_of_mem_ofTyped hnode hform h
    · exact covers_of_mem_ofTyped hnode hform h

/-- The schemas inside of a covered schema are covered. -/
theorem covers_of_mem_inner {schema : Json} (hschema : root.Covers schema)
    (hform : Form.of root schema = some form) (h : child ∈ form.shape.inner) :
    root.Covers child := by
  unfold Form.of at hform
  split at hform
  · cases hform
    exact absurd h List.not_mem_nil
  · cases hform
    exact absurd h List.not_mem_nil
  · next members _ =>
    have hmembers := Node.covers_of_mem_members hschema.mem_values_of_obj
    split at hform
    · cases hform
      exact absurd h List.not_mem_nil
    · cases hform
    · split at hform
      · next listed hlisted =>
        obtain ⟨all, hall, rfl⟩ := Option.map_eq_some_iff.mp hform
        have hcovers : root.Covers listed := by
          rcases Option.or_eq_some_iff.mp hlisted with hany | ⟨-, hone⟩
          · exact hmembers _ (Json.mem_of_lookup hany)
          · exact hmembers _ (Json.mem_of_lookup hone)
        dsimp only [ofAlternatives] at h
        split at h
        · next one hone =>
          obtain rfl := List.mem_singleton.mp h
          have hmem : child ∈ all := by
            have : child ∈ all.filter (!Convert.isNullAlternative ·) :=
              hone ▸ List.mem_singleton_self child
            exact (List.mem_filter.mp this).1
          exact hcovers.walk (ok_of_toOption hall) child hmem
        · exact absurd h List.not_mem_nil
      · obtain ⟨flat, hflat, hform⟩ := Option.bind_eq_some_iff.mp hform
        have hflat := Node.covered_of_flattenWith (ok_of_toOption hflat) hmembers
        exact covers_of_mem_ofFlat hflat hform h
  · cases hform

end Form

/-- A covered schema with something inside is one of the values. -/
theorem Holds.mem_values {root node child : Json} (h : Holds root node child)
    (hnode : root.Covers node) : node ∈ root.values := by
  obtain ⟨form, hform, hmem⟩ := h
  refine hnode.resolve_right fun hatom => ?_
  -- a truth value may describe anything, which has nothing inside
  unfold Form.of at hform
  split at hform
  · cases hform
    cases hmem
  · cases hatom
  · cases hatom
  · cases hform

/-- The reference in a covered schema is one of the references. -/
theorem Form.mem_references {root node : Json} {r : String} {nullable : Bool}
    (hnode : root.Covers node) (h : Form.of root node = some ⟨.reference r, nullable⟩) :
    r ∈ root.references := by
  have href := Form.get?_of_reference h
  cases node with
  | obj members =>
    exact List.mem_filterMap.mpr ⟨_, hnode.mem_values_of_obj, by rw [Json.reference?, href]; rfl⟩
  | _ => cases href

/-- What the walk gets to is covered. -/
theorem Reaches.covers {root node : Json} (h : Reaches root node) : root.Covers node := by
  induction h with
  | top => exact .inl root.self_mem_values
  | inner h hinner ih =>
    obtain ⟨form, hform, hmem⟩ := hinner
    exact Form.covers_of_mem_inner ih hform hmem
  | target h hform hresolve ih => exact .inl (Pointer.mem_values_of_resolve hresolve)

namespace Convert

variable {d : Document} {w : Walk} {c c' : Call} {site : Site} {b b' : Builder} {t : TypeRef}
  {child : Json}

/-- The calls that a step makes: at the only schema inside, at the properties of a record whose
place has been taken, or at what a reference points to that is neither known nor being expanded. -/
inductive Makes (d : Document) (w : Walk) (c : Call) : Call → Prop
  | inside {shape : Shape} {nullable : Bool} {hint child : Json}
      (hform : Form.of d.root c.node = some ⟨shape, nullable⟩) (hinner : shape.inner = [child])
      (hrecord : ∀ flat, shape ≠ .record flat)
      (hhint : (∃ s, hint = .str s) ∨ hint = c.site.hint ∧ shape = .alternative child) :
      Makes d w c ⟨{ hint, pending := c.site.pending }, child, c.before⟩
  | property {flat : Node} {nullable : Bool} {key : String} {opened : Builder}
      {required : List String} {entries : Entries} {c' : Call}
      (hform : Form.of d.root c.node = some ⟨.record flat, nullable⟩)
      (hopen : Returns (openRecord c.site flat) c.before key opened)
      (hrequired : flat.requiredNames = .ok required) (hlisted : flat.listed = .ok entries)
      (hcall : c' ∈ propertyCalls w c.site key entries opened) : Makes d w c c'
  | target {r : String} {nullable : Bool} {target : Json}
      (hform : Form.of d.root c.node = some ⟨.reference r, nullable⟩)
      (hknown : c.before.record? r = none) (hpending : r ∉ c.site.pending)
      (hresolve : Pointer.resolve d.root r = .ok target) :
      Makes d w c ⟨c.site.target r target, target, c.before⟩

/-- The calls for the properties of a record are made at the schemas of its entries, where a text is
suggested for a name. -/
theorem mem_of_mem_propertyCalls {key : String} {entries : Entries}
    (h : c' ∈ propertyCalls w site key entries b) :
    c'.node ∈ entries.map (·.2) ∧ ∃ s, c'.site = { hint := .str s, pending := site.pending } := by
  induction entries generalizing b with
  | nil => simp [propertyCalls] at h
  | cons entry entries ih =>
    obtain ⟨name, schema⟩ := entry
    unfold propertyCalls at h
    split at h
    · simp at h
    · rcases List.mem_cons.mp h with rfl | h
      · exact ⟨List.mem_cons_self, _, rfl⟩
      · split at h
        · obtain ⟨hmem, hsite⟩ := ih h
          exact ⟨List.mem_cons_of_mem _ hmem, hsite⟩
        · simp at h

/-- The calls of a step at the schema of a record are those for its properties. -/
theorem calls_of_record {flat : Node} {nullable : Bool} {key : String} {opened : Builder}
    {required : List String} {entries : Entries}
    (hform : Form.of d.root c.node = some ⟨.record flat, nullable⟩)
    (hopen : Returns (openRecord c.site flat) c.before key opened)
    (hrequired : flat.requiredNames = .ok required) (hlisted : flat.listed = .ok entries) :
    calls d w c = propertyCalls w c.site key entries opened := by
  have hrun : (openRecord c.site flat).run.run c.before = (.ok key, opened) := hopen
  simp only [calls, hform, shapeCalls, recordCalls, hrun, hrequired, hlisted]

/-- The only call for a shape is a call of the step. -/
theorem mem_calls_of_shape {shape : Shape} {nullable : Bool}
    (hform : Form.of d.root c.node = some ⟨shape, nullable⟩)
    (h : shapeCalls d w c.site c.before shape = [c']) : c' ∈ calls d w c := by
  simp only [calls, hform, h]
  exact List.mem_cons_self

/-- There is one call for a reference that is neither known nor being expanded. -/
theorem shapeCalls_target {r : String} {target : Json} (hknown : c.before.record? r = none)
    (hpending : r ∉ c.site.pending) (hresolve : Pointer.resolve d.root r = .ok target) :
    shapeCalls d w c.site c.before (.reference r) =
      [⟨c.site.target r target, target, c.before⟩] := by
  simp [shapeCalls, hknown, hpending, hresolve]

/-- Every call of a step is one of these. -/
theorem makes_of_mem_calls (h : c' ∈ calls d w c) : Makes d w c c' := by
  unfold calls at h
  split at h
  · next form hform =>
    obtain ⟨shape, nullable⟩ := form
    cases shape with
    | scalar kind => simp [shapeCalls] at h
    | list items =>
      cases items with
      | none => simp [shapeCalls] at h
      | some items =>
        obtain rfl := List.mem_singleton.mp h
        exact .inside hform rfl (by simp) (.inl ⟨_, rfl⟩)
    | map values =>
      cases values with
      | none => simp [shapeCalls] at h
      | some values =>
        obtain rfl := List.mem_singleton.mp h
        exact .inside hform rfl (by simp) (.inl ⟨_, rfl⟩)
    | record node =>
      simp only [shapeCalls, recordCalls] at h
      split at h
      · next key b₁ _ entries hrun hrequired hlisted =>
        exact .property hform hrun hrequired hlisted h
      · simp at h
    | reference r =>
      simp only [shapeCalls] at h
      split at h
      · simp at h
      · next hexpand =>
        split at h
        · next target hresolve =>
          obtain rfl := List.mem_singleton.mp h
          have hnew : c.before.record? r = none ∧ r ∉ c.site.pending := by simpa using hexpand
          exact .target hform hnew.1 hnew.2 hresolve
        · simp at h
    | alternative one =>
      obtain rfl := List.mem_singleton.mp h
      exact .inside hform rfl (by simp) (.inr ⟨rfl, rfl⟩)
  · simp at h

/-- The calls at the schema of a record are made at the schemas of its properties, where a text is
suggested for a name. -/
theorem mem_of_mem_calls_record {flat : Node} {nullable : Bool} {entries : Entries}
    (hform : Form.of d.root c.node = some ⟨.record flat, nullable⟩)
    (hlisted : flat.listed = .ok entries) (h : c' ∈ calls d w c) :
    c'.node ∈ entries.map (·.2) ∧ ∃ s, c'.site = { hint := .str s, pending := c.site.pending } := by
  cases makes_of_mem_calls h with
  | inside hform' _ hrecord _ =>
    obtain ⟨rfl, -⟩ := Form.mk.inj (Option.some.inj (hform.symm.trans hform'))
    exact absurd rfl (hrecord flat)
  | property hform' _ _ hlisted' hcall =>
    obtain ⟨hflat, -⟩ := Form.mk.inj (Option.some.inj (hform.symm.trans hform'))
    obtain rfl := Shape.record.inj hflat
    obtain rfl := Except.ok.inj (hlisted.symm.trans hlisted')
    exact mem_of_mem_propertyCalls hcall
  | target hform' _ _ _ =>
    rw [hform] at hform'
    cases hform'

/-- A call is made at a schema inside, or at what a reference points to that is not expanded yet. -/
theorem holds_or_target_of_mem_calls (h : c' ∈ calls d w c) :
    (Holds d.root c.node c'.node ∧ c'.site.pending = c.site.pending ∧ c'.site.reference = none) ∨
      ∃ r nullable, Form.of d.root c.node = some ⟨.reference r, nullable⟩ ∧
        Pointer.resolve d.root r = .ok c'.node ∧ r ∉ c.site.pending ∧
        c'.site = c.site.target r c'.node := by
  cases makes_of_mem_calls h with
  | inside hform hinner _ _ => exact .inl ⟨⟨_, hform, hinner ▸ List.mem_cons_self⟩, rfl, rfl⟩
  | property hform _ _ hlisted hcall =>
    obtain ⟨hmem, s, hsite⟩ := mem_of_mem_propertyCalls hcall
    exact .inl ⟨⟨_, hform, by simpa only [Shape.inner, hlisted] using hmem⟩, by simp [hsite]⟩
  | target hform _ hpending hresolve => exact .inr ⟨_, _, hform, hresolve, hpending, rfl⟩

/-- If the properties of a record are found, then there is a call at the schema of each entry, and
it returns. -/
theorem exists_call_of_mem_entries {key : String} {required : List String} {entries : Entries}
    {properties : List Property}
    (h : Returns (entries.mapM (property w site key required)) b properties b')
    (hchild : child ∈ entries.map (·.2)) :
    ∃ c' ∈ propertyCalls w site key entries b, c'.node = child ∧
      (∃ s, c'.site = { hint := .str s, pending := site.pending }) ∧
      ∃ t after, Returns (w c'.site c'.node) c'.before t after := by
  induction entries generalizing b properties with
  | nil => cases hchild
  | cons entry entries ih =>
    obtain ⟨name, schema⟩ := entry
    obtain ⟨p, b₁, rest, hp, hrest, -⟩ := returns_mapM_cons_iff.mp h
    obtain ⟨suffix, t, hsuffix, hwalk, -⟩ := returns_property_iff.mp hp
    rw [propertyCalls_of_returns hsuffix hwalk]
    rcases List.mem_cons.mp hchild with rfl | hchild
    · exact ⟨_, List.mem_cons_self, rfl, ⟨_, rfl⟩, t, b₁, hwalk⟩
    · obtain ⟨c', hc', hcall⟩ := ih hrest hchild
      exact ⟨c', List.mem_cons_of_mem _ hc', hcall⟩

/-- If a step returns, then there is a call at every schema inside, and it returns. For a single
alternative the suggested name is the same. -/
theorem exists_call_of_holds (h : Returns (step d w c.site c.node) c.before t b')
    (hchild : Holds d.root c.node child) :
    ∃ c' ∈ calls d w c, c'.node = child ∧
      (∃ hint, c'.site = { hint, pending := c.site.pending } ∧ ∀ one nullable,
        Form.of d.root c.node = some ⟨.alternative one, nullable⟩ → hint = c.site.hint) ∧
      ∃ t' after, Returns (w c'.site c'.node) c'.before t' after := by
  obtain ⟨form, hform, hmem⟩ := hchild
  obtain ⟨form', u, hform', hgives, -⟩ := returns_step h
  obtain rfl := Option.some.inj (hform.symm.trans hform')
  obtain ⟨shape, nullable⟩ := form
  have hother (hshape : ∀ one, shape ≠ .alternative one) {hint : Json} : ∀ one nullable,
      Form.of d.root c.node = some ⟨.alternative one, nullable⟩ → hint = c.site.hint := by
    intro one nullable' halternative
    obtain ⟨heq, -⟩ := Form.mk.inj (Option.some.inj (hform.symm.trans halternative))
    exact absurd heq (hshape one)
  cases hgives with
  | scalar notices hkind => cases hmem
  | listOfAny notices => cases hmem
  | list h =>
    obtain rfl := List.mem_singleton.mp hmem
    exact ⟨_, mem_calls_of_shape hform rfl, rfl, ⟨_, rfl, hother (by simp)⟩, _, _, h⟩
  | mapOfAny => cases hmem
  | map h =>
    obtain rfl := List.mem_singleton.mp hmem
    exact ⟨_, mem_calls_of_shape hform rfl, rfl, ⟨_, rfl, hother (by simp)⟩, _, _, h⟩
  | record h =>
    obtain ⟨b₁, required, entries, properties, b₂, hopen, hrequired, hlisted, hproperties, -⟩ :=
      returns_record h
    simp only [Shape.inner, hlisted] at hmem
    obtain ⟨c', hc', hnode, ⟨s, hsite⟩, hreturns⟩ := exists_call_of_mem_entries hproperties hmem
    rw [calls_of_record hform hopen hrequired hlisted]
    exact ⟨c', hc', hnode, ⟨.str s, hsite, hother (by simp)⟩, hreturns⟩
  | known hknown => cases hmem
  | cut hknown hpending => cases hmem
  | target hknown hpending hresolve h => cases hmem
  | alternative h =>
    obtain rfl := List.mem_singleton.mp hmem
    exact ⟨_, mem_calls_of_shape hform rfl, rfl, ⟨_, rfl, fun _ _ _ => rfl⟩, _, _, h⟩

/-- Where the walk returns, no schema is inside of itself. -/
theorem acc_of_returns {n : Nat} (h : Returns (walk d n c.site c.node) c.before t b') :
    Acc (fun child whole => Holds d.root whole child) c.node := by
  -- the walk has less fuel at a schema inside
  induction n generalizing c t b' with
  | zero => exact absurd h (not_returns_throw _)
  | succ n ih =>
    refine ⟨_, fun child hchild => ?_⟩
    obtain ⟨c', -, rfl, -, t', after, hreturns⟩ := exists_call_of_holds h hchild
    exact ih hreturns

/-- Where a step returns, no part is a part of itself, unless the schema is a reference or has
alternatives, which go before parts. -/
theorem acc_merges_of_returns {node : Json} (h : Returns (step d w site node) b t b')
    (hmerged : node.isMerged = true) : Acc (fun part whole => Merges d.root whole part) node := by
  obtain ⟨form, u, hform, -, -⟩ := returns_step h
  cases node with
  | obj members =>
    by_cases hmembers : members = []
    · -- a schema that says nothing has no parts
      subst hmembers
      refine ⟨_, fun part hpart => ?_⟩
      obtain ⟨listed, _, _, hlisted, -⟩ := hpart
      cases hlisted
    · obtain ⟨href, hlisted⟩ := Json.isMerged_obj_iff.mp hmerged
      rw [Form.of_flat hmembers href hlisted] at hform
      obtain ⟨flat, hflat, -⟩ := Option.bind_eq_some_iff.mp hform
      exact Node.acc_of_flattenWith (ok_of_toOption hflat : Node.flatten d.root members = .ok flat)
  | _ =>
    refine ⟨_, fun part hpart => ?_⟩
    obtain ⟨listed, _, _, hlisted, -⟩ := hpart
    cases hlisted

end Convert

end SchemaStruct
