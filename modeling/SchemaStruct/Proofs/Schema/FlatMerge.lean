import Mathlib.Data.Fintype.Card
import Mathlib.Data.Set.Finite.List
import Mathlib.Logic.Relation
import SchemaStruct.Proofs.Json.Overrides
import SchemaStruct.Proofs.Schema.Parts

/-!
# Nested Parts in One Merge

A schema with parts, the parts of which may have parts again, is flattened from the inside out: the
parts of a part are gathered before the part is. It comes to the same to write down all of these
schemas in a row, each one behind its parts, and to merge the row at once. A property then stands
where it came up first and has the schema that it was given last, and a required name stands where
it came up first. The type is not looked for in this row but in the one that has each schema before
its parts: the first type that comes up there counts.

No schema of the row may be a part of itself. There are only finitely many schemas that parts can
stand for, those of the document and those inside of the schema, so the row is finite then.

## Main definitions

* `Node.partSchemas`: the schemas that the parts of a schema stand for;
* `Expansion` and `Node.Expands`: a schema with its parts, and the parts of its parts, in two rows;
* `Node.Mergeable`: properties, required names and references are what they are to be;
* `Expansion.IsFlatMerge`: a node is what the merge of the rows comes to.

## Main results

* `Node.exists_expands`: a schema that is no part of itself has a finite expansion;
* `Node.foldlM_addPart`: gathering some parts appends their rows;
* `Node.flattenWith_of_expands`: the flat form of a schema, by its expansion;
* `Node.flatten_isFlatMerge`: the flat form of a schema with parts is the merge of its rows.
-/

namespace SchemaStruct

open Relation

/-- A schema together with its parts, the parts of its parts and so on, in two orders. -/
structure Expansion where
  /-- The schema. -/
  schema : List (String × Json)
  /-- All schemas, each one before its parts. -/
  heads : List (List (String × Json))
  /-- All schemas, each one behind its parts. -/
  layers : List (List (String × Json))

namespace Node

/-- The properties that stand in a schema. -/
def ownProperties (members : List (String × Json)) : List (String × Json) :=
  match Json.lookup "properties" members with
  | some (.obj properties) => properties
  | _ => []

/-- The required names that stand in a schema. -/
def ownRequired (members : List (String × Json)) : List String :=
  match Json.lookup "required" members with
  | some (.arr names) => names.filterMap Json.text?
  | _ => []

/-- The schema that a part stands for, if both are objects: a reference is followed for one step. -/
def partSchema? (root : Json) : Json → Option (List (String × Json))
  | .obj own => (partTarget root own).toOption.bind Json.members?
  | _ => none

/-- The schemas that the parts of a schema stand for, in order. -/
def partSchemas (root : Json) (members : List (String × Json)) : List (List (String × Json)) :=
  match Json.lookup "allOf" members with
  | some listed => (listed.walk?.getD []).filterMap (partSchema? root)
  | none => []

/-- An expansion consists of a schema and of the expansions of its parts. -/
inductive Expands (root : Json) : Expansion → Prop
  | intro {members : List (String × Json)} (parts : List Expansion)
      (hschemas : parts.map Expansion.schema = partSchemas root members)
      (hparts : ∀ part ∈ parts, Expands root part) :
      Expands root
        { schema := members
          heads := members :: parts.flatMap Expansion.heads
          layers := parts.flatMap Expansion.layers ++ [members] }

/-- A schema lists its properties in an object and its required names in a list of texts, its parts
can be walked through, and the references among them point to something. -/
structure Mergeable (root : Json) (members : List (String × Json)) : Prop where
  /-- The properties. -/
  properties : ∀ v, Json.lookup "properties" members = some v → ∃ properties, v = .obj properties
  /-- The required names. -/
  required : ∀ v, Json.lookup "required" members = some v →
    ∃ names : List String, v = .arr (names.map .str)
  /-- The parts. -/
  parts : ∀ listed, Json.lookup "allOf" members = some listed → ∃ items,
    listed.walk? = some items ∧ ∀ own, .obj own ∈ items → ∃ target, partTarget root own = .ok target

end Node

namespace Expansion

/-- The properties in all schemas. -/
def properties (e : Expansion) : List (String × Json) := e.layers.flatMap Node.ownProperties

/-- The required names in all schemas. -/
def required (e : Expansion) : List String := e.layers.flatMap Node.ownRequired

/-- The first type. -/
def type (e : Expansion) : Option Json := e.heads.findSome? (Json.lookup "type")

/-- A node has the properties, the required names and the type of all schemas, and the other
keywords of the outermost one. -/
structure IsFlatMerge (e : Expansion) (n : Node) : Prop where
  /-- A property stands where it came up first and has the schema that it was given last. -/
  properties : ∃ merged, n.listed = .ok (Entries.ofMembers merged) ∧
    merged.map (·.1) = (e.properties.map (·.1)).eraseDups ∧
    ∀ name, Json.lookup name merged = Json.lookup name e.properties.reverse
  /-- There are properties, if only none. -/
  hasProperties : n.hasProperties = true
  /-- A required name stands where it came up first. -/
  required : n.required = .ok (e.required.eraseDups.map .str)
  /-- The first type is that of the node. -/
  type : n.get? "type" = e.type
  /-- There are no parts left. -/
  parts : n.get? "allOf" = none
  /-- The other keywords are those of the schema. -/
  others : ∀ keyword ∉ ["properties", "required", "type", "allOf"],
    n.get? keyword = Json.lookup keyword e.schema

end Expansion

/-- If each item of a list is the image of something, then the list is that of a list. -/
theorem exists_map_eq {α β : Type} {P : α → Prop} {f : α → β} {ys : List β}
    (h : ∀ y ∈ ys, ∃ x, P x ∧ f x = y) : ∃ xs : List α, xs.map f = ys ∧ ∀ x ∈ xs, P x := by
  induction ys with
  | nil => exact ⟨[], rfl, by simp⟩
  | cons y ys ih =>
    obtain ⟨hy, hys⟩ := List.forall_mem_cons.mp h
    obtain ⟨x, hx, rfl⟩ := hy
    obtain ⟨xs, rfl, hxs⟩ := ih hys
    exact ⟨x :: xs, rfl, List.forall_mem_cons.mpr ⟨hx, hxs⟩⟩

/-- What holds of each item of a list from some number on holds of all items from some number on. -/
theorem exists_forall_ge {α : Type} {P : α → Nat → Prop} {xs : List α}
    (h : ∀ x ∈ xs, ∃ enough, ∀ n ≥ enough, P x n) : ∃ enough, ∀ n ≥ enough, ∀ x ∈ xs, P x n := by
  induction xs with
  | nil => exact ⟨0, by simp⟩
  | cons x xs ih =>
    obtain ⟨hx, hxs⟩ := List.forall_mem_cons.mp h
    obtain ⟨enough, hx⟩ := hx
    obtain ⟨enough', hxs⟩ := ih hxs
    refine ⟨max enough enough', fun n hn => List.forall_mem_cons.mpr ⟨hx n ?_, hxs n ?_⟩⟩ <;> omega

namespace Node

variable {root : Json} {members : List (String × Json)}

/-- The schemas that the parts of a schema stand for are its parts. -/
theorem mem_partSchemas_iff {part : List (String × Json)} :
    part ∈ partSchemas root members ↔ Merges root (.obj members) (.obj part) := by
  have hpart (own : List (String × Json)) :
      partSchema? root (.obj own) = some part ↔ partTarget root own = .ok (.obj part) := by
    show (partTarget root own).toOption.bind Json.members? = some part ↔ _
    cases partTarget root own with
    | error f => simp [Except.toOption]
    | ok target => cases target <;> simp [Except.toOption, Json.members?]
  constructor
  · intro h
    unfold partSchemas at h
    split at h
    · next listed hlisted =>
      obtain ⟨item, hitem, hschema⟩ := List.mem_filterMap.mp h
      cases hwalk : listed.walk? with
      | none => simp [hwalk] at hitem
      | some items =>
        rw [hwalk, Option.getD_some] at hitem
        cases item with
        | obj own =>
          refine ⟨listed, items, own, hlisted, ?_, hitem, (hpart own).mp hschema⟩
          rw [Json.walk, hwalk]
        | _ => cases hschema
    · cases h
  · rintro ⟨listed, items, own, hlisted, hitems, hmem, htarget⟩
    have hwalk : listed.walk? = some items := by
      unfold Json.walk at hitems
      split at hitems
      · next h => rw [h, Except.ok.inj hitems]
      · cases hitems
    rw [partSchemas, show Json.lookup "allOf" members = some listed from hlisted]
    exact List.mem_filterMap.mpr ⟨_, by rw [hwalk]; exact hmem, (hpart own).mpr htarget⟩

section

variable {node : Json}

/-- The parts of what is inside of a schema or of the document are inside of one of the two. -/
theorem mem_values_or_of_merges {v part : Json} (hv : v ∈ node.values ∨ v ∈ root.values)
    (h : Merges root v part) : part ∈ node.values ∨ part ∈ root.values := by
  rcases hv with hv | hv
  · obtain ⟨listed, items, own, hlisted, hitems, hmem, htarget⟩ := h
    have hcovers : node.Covers listed := .inl (Json.mem_values_of_get? hv hlisted)
    unfold partTarget at htarget
    split at htarget
    · exact .inr (Pointer.mem_values_of_resolveValue htarget)
    · obtain rfl := Except.ok.inj htarget
      exact .inl (hcovers.walk hitems _ hmem).mem_values_of_obj
  · exact .inr (mem_values_of_merges hv h)

/-- There are finitely many schemas that the parts of a schema stand for. -/
theorem finite_reachable (root node : Json) :
    Finite { part // ReflTransGen (Merges root) node part } := by
  refine ((node.values ++ root.values).finite_toSet.subset fun part hpart => ?_).to_subtype
  show part ∈ node.values ++ root.values
  rw [List.mem_append]
  induction (hpart : ReflTransGen (Merges root) node part) with
  | refl => exact .inl node.self_mem_values
  | tail _ h ih => exact mem_values_or_of_merges ih h

end

/-- A schema has an expansion if neither it nor one of its parts is a part of itself. -/
theorem exists_expands
    (hacyclic : ∀ part, ReflTransGen (Merges root) (.obj members) part →
      ¬ TransGen (Merges root) part part) :
    ∃ e, Expands root e ∧ e.schema = members := by
  have := finite_reachable root (.obj members)
  -- the order of the schemas that can be got to: parts come before the whole
  let inside (x y : { part // ReflTransGen (Merges root) (.obj members) part }) : Prop :=
    TransGen (Merges root) y.1 x.1
  have : IsTrans _ inside := ⟨fun _ _ _ hxy hyz => TransGen.trans hyz hxy⟩
  have : Std.Irrefl inside := ⟨fun x hx => hacyclic x.1 x.2 hx⟩
  have hwf : WellFounded inside := Finite.wellFounded_of_trans_of_irrefl inside
  -- what can be got to may also be no object, which has no parts
  suffices hall : ∀ x : { part // ReflTransGen (Merges root) (.obj members) part },
      ∀ own, x.1 = .obj own → ∃ e, Expands root e ∧ e.schema = own from
    hall ⟨_, .refl⟩ members rfl
  intro x
  induction x using hwf.induction with
  | _ x ih =>
    rintro own hown
    have hparts : ∀ part ∈ partSchemas root own, ∃ e, Expands root e ∧ e.schema = part := by
      intro part hpart
      have hmerges : Merges root x.1 (.obj part) := hown ▸ mem_partSchemas_iff.mp hpart
      exact ih ⟨.obj part, x.2.tail hmerges⟩ (.single hmerges) part rfl
    obtain ⟨parts, hschemas, hexpands⟩ := exists_map_eq hparts
    exact ⟨_, .intro parts hschemas hexpands, rfl⟩

end Node

namespace Gathered

/-- What has been gathered from some schemas. -/
def ofLayers (layers : List (List (String × Json))) : Gathered where
  properties := Entries.ofMembers (Json.overridden (layers.flatMap Node.ownProperties))
  required := (layers.flatMap Node.ownRequired).eraseDups.map .str

/-- Texts are added to texts that are there without repetition. -/
theorem extend_map_str (xs ys : List String) :
    extend (xs.eraseDups.map .str) (ys.map .str) = (xs ++ ys).eraseDups.map .str := by
  induction ys generalizing xs with
  | nil => rw [List.append_nil]; rfl
  | cons y ys ih =>
    have hcontains : (xs.eraseDups.map Json.str).contains (.str y) = xs.contains y := by
      have hbeq (x : String) : (Json.str y == Json.str x) = (y == x) := by
        simp [BEq.beq, Json.beq]
      rw [Bool.eq_iff_iff, List.contains_map, List.contains_iff_mem]
      simp [List.any_eq_true, hbeq]
    have hextend : extend (xs.eraseDups.map .str) ((y :: ys).map .str) =
        extend ((xs ++ [y]).eraseDups.map .str) (ys.map .str) := by
      rw [List.map_cons, extend, List.foldl_cons, hcontains, eraseDups_concat]
      by_cases hy : y ∈ xs
      · simp [hy, extend]
      · simp [hy, extend]
    rw [hextend, ih, List.append_assoc]
    rfl

end Gathered

namespace Node

variable {root : Json} {members : List (String × Json)} {n : Node}

/-- A node contributes to a whole what some schemas contribute one after the other, whatever has
been gathered before. -/
structure Contributes (layers : List (List (String × Json))) (n : Node) : Prop where
  /-- The properties. -/
  properties : ∃ own, n.contributed = .ok (Entries.ofMembers own) ∧ ∀ before,
    Json.overridden (before ++ own) = Json.overridden (before ++ layers.flatMap ownProperties)
  /-- The required names. -/
  required : ∃ names : List String, n.required = .ok (names.map .str) ∧ ∀ before : List String,
    (before ++ names).eraseDups = (before ++ layers.flatMap ownRequired).eraseDups

/-- A node that contributes what some schemas do is added to what has been gathered from schemas in
front of them. -/
theorem Contributes.addNode {before layers : List (List (String × Json))}
    (h : Contributes layers n) :
    (Gathered.ofLayers before).addNode n = .ok (Gathered.ofLayers (before ++ layers)) := by
  obtain ⟨own, hown, hproperties⟩ := h.properties
  obtain ⟨names, hnames, hrequired⟩ := h.required
  rw [Gathered.addNode, hown, hnames]
  show Except.ok _ = Except.ok _
  rw [Gathered.ofLayers, Entries.update_overridden, Gathered.extend_map_str, hproperties, hrequired,
    Gathered.ofLayers, List.flatMap_append, List.flatMap_append]

/-- A schema without parts contributes its own properties and required names. -/
theorem Mergeable.contributes (h : Mergeable root members) :
    Contributes [members] { keywords := members } := by
  constructor
  · refine ⟨ownProperties members, ?_, by simp⟩
    cases hproperties : Json.lookup "properties" members with
    | none => simp [contributed, get?, ownProperties, hproperties, Entries.ofMembers]
    | some v =>
      obtain ⟨properties, rfl⟩ := h.properties v hproperties
      simp [contributed, get?, ownProperties, hproperties, Json.entries]
  · refine ⟨ownRequired members, ?_, by simp⟩
    cases hrequired : Json.lookup "required" members with
    | none => simp [Node.required, get?, ownRequired, hrequired]
    | some v =>
      obtain ⟨names, rfl⟩ := h.required v hrequired
      have hnames : (names.map Json.str).filterMap Json.text? = names := by
        rw [List.filterMap_map]
        exact List.filterMap_some
      simp [Node.required, get?, ownRequired, hrequired, Json.walk, Json.walk?, hnames]

/-- A schema with parts contributes what has been gathered. -/
theorem contributes_of_gathered {layers : List (List (String × Json))}
    (h : n.gathered = some (Gathered.ofLayers layers)) : Contributes layers n := by
  constructor
  · refine ⟨Json.overridden (layers.flatMap ownProperties), by rw [contributed, h]; rfl, ?_⟩
    exact fun before => Json.overridden_append_overridden before _
  · refine ⟨(layers.flatMap ownRequired).eraseDups, by rw [required, h]; rfl, ?_⟩
    exact fun before => eraseDups_append_eraseDups before _

/-- The keywords, with a type if there is one and none is there yet. -/
def typed (keywords : List (String × Json)) (type : Option Json) : List (String × Json) :=
  match Json.lookup "type" keywords, type with
  | none, some t => keywords ++ [("type", t)]
  | _, _ => keywords

section

variable {keywords : List (String × Json)} {type type' : Option Json}

/-- The type is the one that is there, or else the one that is added. -/
theorem lookup_type_typed :
    Json.lookup "type" (typed keywords type) = (Json.lookup "type" keywords).or type := by
  unfold typed
  cases h : Json.lookup "type" keywords with
  | some t => cases type <;> simp [h]
  | none => cases type <;> simp [h, Json.lookup_append, Json.lookup]

/-- Other keywords are as they were. -/
theorem lookup_typed {keyword : String} (h : keyword ≠ "type") :
    Json.lookup keyword (typed keywords type) = Json.lookup keyword keywords := by
  unfold typed
  split
  · simp [Json.lookup_append, Json.lookup, Ne.symm h]
  · rfl

/-- Of two types the first one is added. -/
theorem typed_typed : typed (typed keywords type) type' = typed keywords (type.or type') := by
  unfold typed
  cases h : Json.lookup "type" keywords with
  | some t => cases type <;> cases type' <;> simp [h]
  | none => cases type <;> cases type' <;> simp [h, Json.lookup_append, Json.lookup]

end

/-- A node stands for an expansion where its schema is a part. -/
structure Summarizes (e : Expansion) (n : Node) : Prop where
  /-- It contributes what the schemas do. -/
  contributes : Contributes e.layers n
  /-- It has their first type. -/
  type : n.get? "type" = e.type

/-- What is there while parts are gathered: the keywords with the first type, and what has been
gathered. -/
def gatheredSoFar (keywords : List (String × Json)) (heads layers : List (List (String × Json))) :
    List (String × Json) × Gathered :=
  (typed keywords (heads.findSome? (Json.lookup "type")), .ofLayers layers)

section

variable {flat : List (String × Json) → Except Fault Node} {keywords : List (String × Json)}
  {heads layers : List (List (String × Json))} {part : Json}

/-- An object among the parts appends the rows that its flat form stands for. -/
theorem addPart_of_contributes {own : List (String × Json)} {target : Json}
    {heads' layers' : List (List (String × Json))} (htarget : partTarget root own = .ok target)
    (hflat : flat (target.members?.getD []) = .ok n) (h : Contributes layers' n)
    (htype : n.get? "type" = heads'.findSome? (Json.lookup "type")) :
    addPart root flat (gatheredSoFar keywords heads layers) (.obj own) =
      .ok (gatheredSoFar keywords (heads ++ heads') (layers ++ layers')) := by
  have hadopt (keywords : List (String × Json)) :
      adoptType keywords n = typed keywords (heads'.findSome? (Json.lookup "type")) := by
    rw [← htype]
    rfl
  calc addPart root flat (gatheredSoFar keywords heads layers) (.obj own)
      = (Gathered.ofLayers layers).addNode n >>= fun gathered => .ok
          (adoptType (typed keywords (heads.findSome? (Json.lookup "type"))) n, gathered) := by
        rw [addPart_obj, htarget]
        show (flat (target.members?.getD []) >>= _) = _
        rw [hflat]
        rfl
    _ = .ok (gatheredSoFar keywords (heads ++ heads') (layers ++ layers')) := by
        rw [h.addNode, hadopt, typed_typed, ← List.findSome?_append]
        rfl

/-- A part that stands for an object appends the rows of its expansion. -/
theorem addPart_of_summarizes {e : Expansion} (hpart : partSchema? root part = some e.schema)
    (hflat : flat e.schema = .ok n) (h : Summarizes e n) :
    addPart root flat (gatheredSoFar keywords heads layers) part =
      .ok (gatheredSoFar keywords (heads ++ e.heads) (layers ++ e.layers)) := by
  cases part with
  | obj own =>
    obtain ⟨target, htarget, hmembers⟩ := Option.bind_eq_some_iff.mp hpart
    exact addPart_of_contributes (ok_of_toOption htarget) (by rw [hmembers]; exact hflat)
      h.contributes h.type
  | _ => cases hpart

/-- A part that stands for something else changes nothing. -/
theorem addPart_of_none (hpart : partSchema? root part = none)
    (hresolves : ∀ own, part = .obj own → ∃ target, partTarget root own = .ok target)
    (hempty : flat [] = .ok { keywords := [] }) :
    addPart root flat (gatheredSoFar keywords heads layers) part =
      .ok (gatheredSoFar keywords heads layers) := by
  cases part with
  | obj own =>
    obtain ⟨target, htarget⟩ := hresolves own rfl
    have hmembers : target.members? = none := by
      simpa [partSchema?, htarget, Except.toOption] using hpart
    -- it is taken for a schema without keywords
    have hcontributes : Contributes [] { keywords := [] } :=
      ⟨⟨[], rfl, by simp⟩, ⟨[], rfl, by simp⟩⟩
    have hadd : addPart root flat (gatheredSoFar keywords heads layers) (.obj own) =
        .ok (gatheredSoFar keywords (heads ++ []) (layers ++ [])) :=
      addPart_of_contributes htarget (by rw [hmembers]; exact hempty) hcontributes rfl
    rwa [List.append_nil, List.append_nil] at hadd
  | _ => rfl

/-- Gathering some parts appends their rows one after the other. -/
theorem foldlM_addPart {items : List Json} {parts : List Expansion}
    (hparts : items.filterMap (partSchema? root) = parts.map Expansion.schema)
    (hresolves : ∀ own, .obj own ∈ items → ∃ target, partTarget root own = .ok target)
    (hflat : ∀ e ∈ parts, ∃ n, flat e.schema = .ok n ∧ Summarizes e n)
    (hempty : flat [] = .ok { keywords := [] }) :
    items.foldlM (addPart root flat) (gatheredSoFar keywords heads layers) =
      .ok (gatheredSoFar keywords (heads ++ parts.flatMap Expansion.heads)
        (layers ++ parts.flatMap Expansion.layers)) := by
  -- the rows in front are any rows, since they grow from part to part
  induction items generalizing parts heads layers with
  | nil =>
    obtain rfl := List.map_eq_nil_iff.mp hparts.symm
    simp [pure, Except.pure]
  | cons item items ih =>
    have hitems : ∀ own, .obj own ∈ items → ∃ target, partTarget root own = .ok target :=
      fun own hown => hresolves own (List.mem_cons_of_mem _ hown)
    rw [List.foldlM_cons]
    cases hpart : partSchema? root item with
    | none =>
      rw [addPart_of_none hpart (fun own hown => hresolves own (hown ▸ List.mem_cons_self)) hempty]
      rw [List.filterMap_cons_none hpart] at hparts
      exact ih hparts hitems hflat
    | some schema =>
      rw [List.filterMap_cons_some hpart] at hparts
      obtain ⟨e, rest, rfl, rfl, hrest⟩ := List.map_eq_cons_iff.mp hparts.symm
      obtain ⟨⟨n, hn, hsummarizes⟩, hflat⟩ := List.forall_mem_cons.mp hflat
      rw [addPart_of_summarizes hpart hn hsummarizes, List.flatMap_cons, List.flatMap_cons,
        ← List.append_assoc, ← List.append_assoc]
      exact ih hrest.symm hitems hflat

end

/-- Without the parts, the other keywords are as they were. -/
theorem lookup_filter_allOf {keyword : String} : Json.lookup keyword
      (members.filter (·.1 != "allOf")) =
    if keyword = "allOf" then none else Json.lookup keyword members := by
  induction members with
  | nil => simp [Json.lookup]
  | cons m members ih =>
    obtain ⟨k, v⟩ := m
    by_cases hk : k = "allOf"
    · rw [List.filter_cons_of_neg (by simp [hk]), ih, Json.lookup]
      by_cases hkeyword : keyword = "allOf"
      · simp [hkeyword]
      · rw [if_neg hkeyword, if_neg hkeyword, if_neg fun h => hkeyword (h.symm.trans hk)]
    · rw [List.filter_cons_of_pos (by simp [hk]), Json.lookup, ih, Json.lookup]
      by_cases hkeyword : keyword = "allOf"
      · simp [hkeyword, hk]
      · simp [hkeyword]

end Node

namespace Expansion

/-- What the rows of an expansion come to. -/
def flat (e : Expansion) : Node :=
  if (Json.lookup "allOf" e.schema).isSome then
    { keywords := Node.typed (e.schema.filter (·.1 != "allOf")) e.type
      gathered := some (.ofLayers e.layers) }
  else { keywords := e.schema }

end Expansion

namespace Node

variable {root : Json} {e : Expansion}

/-- The first schema of an expansion is the outermost one, so its type goes before all others. -/
theorem Expands.or_type (h : Expands root e) :
    (Json.lookup "type" e.schema).or e.type = e.type := by
  obtain ⟨parts, -, -⟩ := h
  rw [Expansion.type, List.findSome?_cons]
  cases Json.lookup "type" _ <;> rfl

/-- A schema without parts is its own expansion. -/
theorem Expands.eq_of_none (h : Expands root e) (hnone : Json.lookup "allOf" e.schema = none) :
    e.heads = [e.schema] ∧ e.layers = [e.schema] := by
  obtain ⟨parts, hschemas, -⟩ := h
  rw [partSchemas, hnone] at hschemas
  obtain rfl := List.map_eq_nil_iff.mp hschemas
  exact ⟨rfl, rfl⟩

/-- The flat form of an expansion stands for it where its schema is a part. -/
theorem Expands.summarizes (h : Expands root e) (hmergeable : Mergeable root e.schema) :
    Summarizes e e.flat := by
  unfold Expansion.flat
  cases hlisted : Json.lookup "allOf" e.schema with
  | none =>
    obtain ⟨hheads, hlayers⟩ := h.eq_of_none hlisted
    refine ⟨hlayers ▸ hmergeable.contributes, ?_⟩
    rw [Expansion.type, hheads, List.findSome?_cons]
    cases hown : Json.lookup "type" e.schema <;> simpa [get?] using hown
  | some listed =>
    refine ⟨contributes_of_gathered rfl, ?_⟩
    show Json.lookup "type" (typed _ _) = _
    rw [lookup_type_typed, lookup_filter_allOf, if_neg (by decide), h.or_type]

/-- The flat form of a schema with parts merges the rows of its expansion. -/
theorem Expands.isFlatMerge (h : Expands root e) (hsome : (Json.lookup "allOf" e.schema).isSome) :
    e.IsFlatMerge e.flat := by
  rw [Expansion.flat, if_pos hsome]
  refine ⟨?properties, rfl, rfl, ?type, ?parts, ?others⟩
  case properties =>
    exact ⟨_, rfl, Json.map_fst_overridden _, fun name => Json.lookup_overridden name _⟩
  case type =>
    show Json.lookup "type" (typed _ _) = _
    rw [lookup_type_typed, lookup_filter_allOf, if_neg (by decide), h.or_type]
  case parts =>
    show Json.lookup "allOf" (typed _ _) = _
    rw [lookup_typed (by decide), lookup_filter_allOf, if_pos rfl]
  case others =>
    intro keyword hkeyword
    show Json.lookup keyword (typed _ _) = _
    rw [lookup_typed (by simp_all), lookup_filter_allOf, if_neg (by simp_all)]

/-- A schema of which the parts have flat forms that stand for their expansions is flattened to the
flat form of its own. -/
theorem flattenWith_of_parts {fuel : Nat} {members : List (String × Json)} {parts : List Expansion}
    (hmergeable : Mergeable root members)
    (hschemas : parts.map Expansion.schema = partSchemas root members)
    (hflat : ∀ e ∈ parts, ∃ n, flattenWith root (fuel + 1) e.schema = .ok n ∧ Summarizes e n) :
    flattenWith root (fuel + 2) members = .ok (Expansion.flat
      { schema := members
        heads := members :: parts.flatMap Expansion.heads
        layers := parts.flatMap Expansion.layers ++ [members] }) := by
  rw [flattenWith.eq_2, Expansion.flat]
  cases hlisted : Json.lookup "allOf" members with
  | none => rfl
  | some listed =>
    obtain ⟨items, hitems, hresolves⟩ := hmergeable.parts listed hlisted
    let keywords := members.filter (·.1 != "allOf")
    have hwalk : listed.walk = .ok items := by rw [Json.walk, hitems]
    -- the type of the schema itself is there already
    have hstart : (keywords, Gathered.empty) = gatheredSoFar keywords [members] [] := by
      have htype : Json.lookup "type" keywords = Json.lookup "type" members := by
        rw [lookup_filter_allOf, if_neg (by decide)]
      have hkeywords : typed keywords (Json.lookup "type" members) = keywords := by
        unfold typed
        rw [htype]
        cases Json.lookup "type" members <;> rfl
      rw [gatheredSoFar, List.findSome?_singleton, hkeywords]
      rfl
    have hfold : items.foldlM (addPart root (flattenWith root (fuel + 1)))
        (keywords, Gathered.empty) = .ok (gatheredSoFar keywords
          (members :: parts.flatMap Expansion.heads) (parts.flatMap Expansion.layers)) := by
      rw [hstart]
      refine foldlM_addPart ?_ hresolves hflat rfl
      simp [hschemas, partSchemas, hlisted, hitems]
    dsimp only
    rw [hwalk]
    show (items.foldlM (addPart root (flattenWith root (fuel + 1)))
      (keywords, Gathered.empty) >>= _) = _
    rw [hfold]
    show ((Gathered.ofLayers _).addNode { keywords := members } >>= _) = _
    rw [hmergeable.contributes.addNode]
    rfl

/-- With enough fuel, a schema is flattened to the flat form of its expansion, if the schemas in it
can be merged. -/
theorem flattenWith_of_expands (h : Expands root e)
    (hmergeable : ∀ part, ReflTransGen (Merges root) (.obj e.schema) (.obj part) →
      Mergeable root part) :
    ∃ enough, ∀ fuel ≥ enough, flattenWith root fuel e.schema = .ok e.flat := by
  -- by the expansion: what is enough for all parts is enough for the whole with one unit more, and
  -- another one for parts that stand for no object
  induction h with
  | @intro members parts hschemas hparts ih =>
    have hinner : ∀ e ∈ parts, ∀ part, ReflTransGen (Merges root) (.obj e.schema) (.obj part) →
        Mergeable root part := by
      intro e he part hpart
      have hmem : e.schema ∈ partSchemas root members := hschemas ▸ List.mem_map_of_mem he
      exact hmergeable part (.head (mem_partSchemas_iff.mp hmem) hpart)
    obtain ⟨enough, henough⟩ := exists_forall_ge fun e he => ih e he (hinner e he)
    refine ⟨enough + 2, fun fuel hfuel => ?_⟩
    obtain ⟨fuel, rfl⟩ : ∃ k, fuel = k + 2 := ⟨fuel - 2, by omega⟩
    exact flattenWith_of_parts (hmergeable members .refl) hschemas fun e he =>
      ⟨e.flat, henough _ (by omega) e he, (hparts e he).summarizes (hinner e he _ .refl)⟩

/-- More fuel changes nothing either. -/
theorem flattenWith_of_le {fuel fuel' : Nat} {members : List (String × Json)} (hle : fuel ≤ fuel')
    (h : flattenWith root fuel members ≠ .error .endless) :
    flattenWith root fuel' members = flattenWith root fuel members := by
  induction hle with
  | refl => rfl
  | step _ ih => rw [flattenWith_succ (by rw [ih]; exact h), ih]

/-- The flat form of a schema of the document is found with the fuel that the document has, if no
part is a part of itself. -/
theorem flatten_of_enough {members : List (String × Json)} {n : Node}
    (hacyclic : ∀ part, ReflTransGen (Merges root) (.obj members) part →
      ¬ TransGen (Merges root) part part)
    (hvalue : .obj members ∈ root.values)
    (h : ∃ enough, ∀ fuel ≥ enough, flattenWith root fuel members = .ok n) :
    flatten root members = .ok n := by
  have hne : flattenWith root (root.size + 2) members ≠ .error .endless := by
    intro hendless
    have hmisuse := misuse_of_chain (root.size + 2) [] hacyclic hvalue (by simp) List.nodup_nil
      (by simp) (by simp) hendless
    cases hmisuse
  obtain ⟨enough, henough⟩ := h
  rw [← henough (max enough (root.size + 2)) (Nat.le_max_left _ _)]
  exact (flattenWith_of_le (Nat.le_max_right _ _) hne).symm

/-- A schema with parts has a flat form, if the schemas that are merged list properties and required
names as they are to, their references point to something, and none of them is a part of itself. The
schema has an expansion then, and the flat form is the merge of it: a property stands where it came
up first and has the schema that it was given last, where each schema stands behind its parts; the
required names are there once each; the type is the first one, where each schema stands before its
parts; and the other keywords are those of the schema itself. -/
theorem flatten_isFlatMerge {members : List (String × Json)} {listed : Json}
    (hlisted : Json.lookup "allOf" members = some listed)
    (hmergeable : ∀ part, ReflTransGen (Merges root) (.obj members) (.obj part) →
      Mergeable root part)
    (hacyclic : ∀ part, ReflTransGen (Merges root) (.obj members) part →
      ¬ TransGen (Merges root) part part) :
    ∃ flat, (∃ enough, ∀ fuel ≥ enough, flattenWith root fuel members = .ok flat) ∧
      (.obj members ∈ root.values → flatten root members = .ok flat) ∧
      (∃ e, Expands root e ∧ e.schema = members) ∧
      ∀ e, Expands root e → e.schema = members → e.IsFlatMerge flat := by
  obtain ⟨e, he, rfl⟩ := exists_expands hacyclic
  have henough := flattenWith_of_expands he hmergeable
  refine ⟨e.flat, henough, fun hvalue => flatten_of_enough hacyclic hvalue henough, ⟨e, he, rfl⟩,
    fun e' he' hschema => ?_⟩
  -- another expansion leads to the same flat form, as there is fuel that is enough for both
  obtain ⟨enough, henough⟩ := henough
  obtain ⟨enough', henough'⟩ := flattenWith_of_expands he' (hschema ▸ hmergeable)
  have hflat : e'.flat = e.flat := by
    have h := henough (max enough enough') (Nat.le_max_left _ _)
    have h' := henough' (max enough enough') (Nat.le_max_right _ _)
    rw [hschema] at h'
    exact Except.ok.inj (h'.symm.trans h)
  rw [← hflat]
  exact he'.isFlatMerge (by rw [hschema, hlisted]; rfl)

/-- A schema with an identifier and a note. -/
def entryMembers : List (String × Json) :=
  [("type", .str "object"),
    ("properties", .obj [("id", .obj [("type", .str "string")]), ("note", .bool true)]),
    ("required", .arr [.str "id"])]

/-- A schema that has the first one for a part, and another identifier. -/
def stampedMembers : List (String × Json) :=
  [("allOf", .arr [.obj [("$ref", .str "#/definitions/entry")], .bool true]),
    ("properties", .obj [("id", .obj [("type", .str "integer")]), ("at", .bool true)]),
    ("required", .arr [.str "at", .str "id"])]

/-- A schema that says what a note is. -/
def notedMembers : List (String × Json) :=
  [("type", .str "array"), ("title", .str "Noted"),
    ("properties", .obj [("note", .obj [("type", .str "string")])]),
    ("required", .arr [.str "note"])]

/-- A document with a schema that has both of these for parts. -/
def journalMembers : List (String × Json) :=
  [("title", .str "Journal"),
    ("allOf", .arr [.obj [("$ref", .str "#/definitions/stamped")], .obj notedMembers]),
    ("properties", .obj [("at", .obj [("type", .str "number")])]),
    ("required", .arr [.str "id", .str "note"]),
    ("definitions", .obj [("entry", .obj entryMembers), ("stamped", .obj stampedMembers)])]

/-- The schemas that are merged in this document. -/
theorem mem_of_reachable_journal {part : Json}
    (h : ReflTransGen (Merges (.obj journalMembers)) (.obj journalMembers) part) :
    part ∈ [.obj journalMembers, .obj stampedMembers, .obj notedMembers, .obj entryMembers] := by
  induction h with
  | refl => exact List.mem_cons_self
  | tail _ hmerges ih =>
    obtain ⟨listed, items, own, hlisted, hitems, hmem, htarget⟩ := hmerges
    simp only [List.mem_cons, List.not_mem_nil, or_false] at ih
    rcases ih with rfl | rfl | rfl | rfl
    · obtain rfl := Option.some.inj hlisted
      obtain rfl := Except.ok.inj hitems
      simp only [List.mem_cons, List.not_mem_nil, or_false, Json.obj.injEq] at hmem
      rcases hmem with rfl | rfl
      · obtain rfl := Except.ok.inj htarget
        exact List.mem_cons_of_mem _ List.mem_cons_self
      · obtain rfl := Except.ok.inj htarget
        simp
    · obtain rfl := Option.some.inj hlisted
      obtain rfl := Except.ok.inj hitems
      simp only [List.mem_cons, List.not_mem_nil, or_false, Json.obj.injEq, reduceCtorEq] at hmem
      obtain rfl := hmem
      obtain rfl := Except.ok.inj htarget
      simp
    · cases hlisted
    · cases hlisted

/-- All of them can be merged. -/
theorem mergeable_of_reachable_journal {part : List (String × Json)}
    (h : ReflTransGen (Merges (.obj journalMembers)) (.obj journalMembers) (.obj part)) :
    Mergeable (.obj journalMembers) part := by
  have hmem := mem_of_reachable_journal h
  simp only [List.mem_cons, List.not_mem_nil, or_false, Json.obj.injEq] at hmem
  rcases hmem with rfl | rfl | rfl | rfl
  · refine ⟨fun v hv => ⟨_, (Option.some.inj hv).symm⟩,
      fun v hv => ⟨["id", "note"], (Option.some.inj hv).symm⟩, fun listed hlisted => ?_⟩
    obtain rfl := Option.some.inj hlisted
    refine ⟨_, rfl, fun own hown => ?_⟩
    simp only [List.mem_cons, List.not_mem_nil, or_false, Json.obj.injEq] at hown
    rcases hown with rfl | rfl
    · exact ⟨_, rfl⟩
    · exact ⟨_, rfl⟩
  · refine ⟨fun v hv => ⟨_, (Option.some.inj hv).symm⟩,
      fun v hv => ⟨["at", "id"], (Option.some.inj hv).symm⟩, fun listed hlisted => ?_⟩
    obtain rfl := Option.some.inj hlisted
    refine ⟨_, rfl, fun own hown => ?_⟩
    simp only [List.mem_cons, List.not_mem_nil, or_false, Json.obj.injEq, reduceCtorEq] at hown
    obtain rfl := hown
    exact ⟨_, rfl⟩
  · exact ⟨fun v hv => ⟨_, (Option.some.inj hv).symm⟩,
      fun v hv => ⟨["note"], (Option.some.inj hv).symm⟩, fun listed hlisted => nomatch hlisted⟩
  · exact ⟨fun v hv => ⟨_, (Option.some.inj hv).symm⟩,
      fun v hv => ⟨["id"], (Option.some.inj hv).symm⟩, fun listed hlisted => nomatch hlisted⟩

/-- The expansion of the document. -/
def journal : Expansion where
  schema := journalMembers
  heads := [journalMembers, stampedMembers, entryMembers, notedMembers]
  layers := [entryMembers, stampedMembers, notedMembers, journalMembers]

/-- The theorem at the document: the identifier stands first and is that of the second schema, the
type is that of the part of the first part, and the required names come in the order of the rows. -/
theorem flatten_isFlatMerge_journal :
    (Json.lookup "allOf" journalMembers).isSome ∧
    (∀ part, ReflTransGen (Merges (.obj journalMembers)) (.obj journalMembers) (.obj part) →
      Mergeable (.obj journalMembers) part) ∧
    (∀ part, ReflTransGen (Merges (.obj journalMembers)) (.obj journalMembers) part →
      ¬ TransGen (Merges (.obj journalMembers)) part part) ∧
    ∃ flat, flatten (.obj journalMembers) journalMembers = .ok flat ∧
      Expands (.obj journalMembers) journal ∧ journal.IsFlatMerge flat ∧
      flat.get? "type" = some (.str "object") ∧ flat.get? "title" = some (.str "Journal") ∧
      flat.required = .ok [.str "id", .str "at", .str "note"] ∧
      ∃ merged, flat.listed = .ok (Entries.ofMembers merged) ∧
        merged.map (·.1) = ["id", "note", "at"] ∧
        Json.lookup "id" merged = some (.obj [("type", .str "integer")]) := by
  have hacyclic : ∀ part,
      ReflTransGen (Merges (.obj journalMembers)) (.obj journalMembers) part →
        ¬ TransGen (Merges (.obj journalMembers)) part part := by
    intro part hpart
    have hflat : ∃ flat, flattenWith (.obj journalMembers) 4 journalMembers = .ok flat := ⟨_, rfl⟩
    obtain ⟨flat, hflat⟩ := hflat
    have hacc : Acc (fun part whole => Merges (.obj journalMembers) whole part)
        (.obj journalMembers) := acc_of_flattenWith hflat
    exact not_transGen_self hacc hpart
  have hexpands : Expands (.obj journalMembers) journal := by
    let entry : Expansion := ⟨entryMembers, [entryMembers], [entryMembers]⟩
    let noted : Expansion := ⟨notedMembers, [notedMembers], [notedMembers]⟩
    let stamped : Expansion :=
      ⟨stampedMembers, [stampedMembers, entryMembers], [entryMembers, stampedMembers]⟩
    have hentry : Expands (.obj journalMembers) entry := .intro [] rfl (by simp)
    have hnoted : Expands (.obj journalMembers) noted := .intro [] rfl (by simp)
    have hstamped : Expands (.obj journalMembers) stamped :=
      .intro [entry] rfl (List.forall_mem_singleton.mpr hentry)
    exact .intro [stamped, noted] rfl
      (List.forall_mem_cons.mpr ⟨hstamped, List.forall_mem_singleton.mpr hnoted⟩)
  obtain ⟨flat, -, hflat, -, hmerge⟩ :=
    flatten_isFlatMerge rfl (fun _ => mergeable_of_reachable_journal) hacyclic
  have hmerge := hmerge journal hexpands rfl
  obtain ⟨merged, hlisted, hnames, hvalues⟩ := hmerge.properties
  exact ⟨rfl, fun _ => mergeable_of_reachable_journal, hacyclic, flat,
    hflat (Json.self_mem_values _), hexpands, hmerge,
    hmerge.type, hmerge.others "title" (by decide), hmerge.required, merged, hlisted, hnames,
    hvalues "id"⟩

end Node

end SchemaStruct
