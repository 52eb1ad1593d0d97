import SchemaStruct.Proofs.Schema.Termination

/-!
# What a Whole Takes over from a Part

From each of its parts a schema takes over the type, the properties and the names of required
properties, and nothing else; a part that is a reference is followed for one step. So a schema with
one part describes what the type of the part says by itself, and a record if there is no type.
Records say by these keywords what they describe, and so do lists and the types with a name of their
own; maps, points in time, most lists of allowed values and schemas that say nothing do not.

## Main definitions

* `Json.onePart`: a schema with one part;
* `Node.kept`: what it takes over from the part;
* `Node.Gathers`: there is something to take over;
* `Node.typeKind?`: what the type of a schema says by itself.

## Main results

* `Node.flattenWith_succ`: more fuel changes nothing where the parts of a schema are gathered;
* `Node.flattenWith_onePart`: what a schema with one part is flattened to;
* `Form.summary?_ofFlat_kept`: what is taken over describes what the type says by itself;
* `Node.gathers_of_record`: records are taken over;
* `Node.typeKind?_eq_iff`: which schemas without a list of allowed values say by their type what
  they describe.
-/

namespace SchemaStruct

open Document Relation

/-- A schema with one part. -/
def Json.onePart (part : Json) : Json := .obj [("allOf", .arr [part])]

/-- What a schema with one part takes over from the part. -/
def Node.kept (n : Node) : Except Fault Node := do
  let gathered ← Gathered.empty.addNode n
  return { keywords := adoptType [] n, gathered := some gathered }

/-- The properties and the names of required properties of a schema can be taken over. -/
def Node.Gathers (n : Node) : Prop :=
  (∃ entries, n.contributed = .ok entries) ∧ ∃ names, n.required = .ok names

/-- What the name of a type says by itself: the kind of the values, and whether there may be
none. -/
def Json.namedKind? : Json → Option (FieldKind × Bool)
  | .null => some (.any, false)
  | .str "null" => some (.any, true)
  | .str "array" => some (.array, false)
  | .str "object" => some (.object, false)
  | .str name => (Convert.primitives.lookup name).map (·, false)
  | _ => none

/-- What a list of types says by itself: what its only type beside the one without values says. -/
def Json.listedKind? (types : List Json) : Option (FieldKind × Bool) :=
  let named := types.filter (!Convert.isNullType ·)
  let nullable := named.length != types.length
  match named with
  | [type] => type.namedKind?.map fun (kind, b) => (kind, b || nullable)
  | _ => some (.any, nullable)

/-- What the type of a schema says by itself: the kind of the values, and whether there may be none.
A schema without a type counts as that of a record. -/
def Node.typeKind? (n : Node) : Option (FieldKind × Bool) :=
  match Json.orNull (n.get? "type") with
  | .null => some (.object, false)
  | .arr types => Json.listedKind? types
  | type => type.namedKind?

/-- What a form says about the values: their kind, and whether there may be none. -/
def Form.summary? (form : Form) : Option (FieldKind × Bool) :=
  form.shape.kind?.map (·, form.nullable)

/-- Going through a list with something that grows does not depend on what a step does where it ends
in a fault that the whole does not end in. -/
theorem foldlM_congr {α β : Type} {f : Fault} {k k' : β → α → Except Fault β} {xs : List α} {b : β}
    (h : xs.foldlM k b ≠ .error f)
    (hk : ∀ acc, ∀ x ∈ xs, k acc x ≠ .error f → k' acc x = k acc x) :
    xs.foldlM k' b = xs.foldlM k b := by
  induction xs generalizing b with
  | nil => rfl
  | cons x xs ih =>
    rw [List.foldlM_cons] at h
    rw [List.foldlM_cons, List.foldlM_cons]
    have hx : k b x ≠ .error f := by
      intro hx
      rw [hx] at h
      exact h rfl
    rw [hk b x List.mem_cons_self hx]
    cases hb : k b x with
    | error e => rfl
    | ok acc =>
      rw [hb] at h
      exact ih h fun acc y hy => hk acc y (List.mem_cons_of_mem x hy)

/-- The values that a list is extended by are the old and the new ones. -/
theorem Gathered.mem_of_mem_extend {values more : List Json} {v : Json}
    (h : v ∈ extend values more) : v ∈ values ∨ v ∈ more := by
  unfold extend at h
  induction more generalizing values with
  | nil => exact .inl h
  | cons new more ih =>
    rcases ih h with hmem | hmem
    · dsimp only at hmem
      split at hmem
      · exact .inl hmem
      · rcases List.mem_append.mp hmem with hmem | hmem
        · exact .inl hmem
        · obtain rfl := List.mem_singleton.mp hmem
          exact .inr List.mem_cons_self
    · exact .inr (List.mem_cons_of_mem _ hmem)

namespace Node

variable {root : Json} {n kept : Node}

/-- A part is added alike by what flattens the schema that it stands for alike. -/
theorem addPart_congr {flat flat' : List (String × Json) → Except Fault Node} {f : Fault}
    {part : Json} {acc : List (String × Json) × Gathered}
    (h : addPart root flat acc part ≠ .error f)
    (hflat : ∀ members, flat members ≠ .error f → flat' members = flat members) :
    addPart root flat' acc part = addPart root flat acc part := by
  cases part with
  | obj own =>
    rw [addPart_obj] at h
    rw [addPart_obj, addPart_obj]
    cases htarget : partTarget root own with
    | error e => rfl
    | ok target =>
      rw [htarget] at h
      have hsame : flat' (target.members?.getD []) = flat (target.members?.getD []) := by
        refine hflat _ fun heq => h ?_
        show (flat (target.members?.getD []) >>= _) = _
        rw [heq]
        rfl
      show (flat' (target.members?.getD []) >>= _) = (flat (target.members?.getD []) >>= _)
      rw [hsame]
  | _ => rfl

/-- More fuel changes nothing where the parts of a schema can be gathered, or where a value among
them is misused. -/
theorem flattenWith_succ {fuel : Nat} {members : List (String × Json)}
    (h : flattenWith root fuel members ≠ .error .endless) :
    flattenWith root (fuel + 1) members = flattenWith root fuel members := by
  induction fuel generalizing members with
  | zero => exact absurd rfl h
  | succ fuel ih =>
    rw [flattenWith.eq_2] at h ⊢
    rw [flattenWith.eq_2]
    split
    · rfl
    · next listed hlisted =>
      rw [hlisted] at h
      dsimp only at h
      cases hitems : listed.walk with
      | error e => rfl
      | ok items =>
        rw [hitems] at h
        have hfold : items.foldlM (addPart root (flattenWith root fuel))
            (members.filter (·.1 != "allOf"), Gathered.empty) ≠ .error .endless := by
          intro hfold
          refine h ?_
          show (items.foldlM (addPart root (flattenWith root fuel)) _ >>= _) = _
          rw [hfold]
          rfl
        have hsame : items.foldlM (addPart root (flattenWith root (fuel + 1))) _ =
            items.foldlM (addPart root (flattenWith root fuel)) _ :=
          foldlM_congr hfold fun acc part _ hpart => addPart_congr hpart fun members => ih
        show (items.foldlM (addPart root (flattenWith root (fuel + 1))) _ >>= _) =
          (items.foldlM (addPart root (flattenWith root fuel)) _ >>= _)
        rw [hsame]

/-- What a schema with one part is flattened to is what it takes over from the flat form of the
schema that the part stands for. -/
theorem flattenWith_onePart {fuel : Nat} {own : List (String × Json)} :
    flattenWith root (fuel + 1) [("allOf", .arr [.obj own])] = (do
      let target ← partTarget root own
      let flat ← flattenWith root fuel (target.members?.getD [])
      flat.kept) := by
  have hfold : [Json.obj own].foldlM (addPart root (flattenWith root fuel)) ([], Gathered.empty) =
      addPart root (flattenWith root fuel) ([], Gathered.empty) (.obj own) := by
    rw [List.foldlM_cons]
    cases addPart root (flattenWith root fuel) ([], Gathered.empty) (.obj own) <;> rfl
  show ([Json.obj own].foldlM (addPart root (flattenWith root fuel)) ([], Gathered.empty) >>= _) = _
  rw [hfold, addPart_obj]
  cases partTarget root own with
  | error e => rfl
  | ok target =>
    show ((flattenWith root fuel (target.members?.getD []) >>= _) >>= _) =
      (flattenWith root fuel (target.members?.getD []) >>= _)
    cases flattenWith root fuel (target.members?.getD []) with
    | error e => rfl
    | ok flat =>
      show ((Gathered.empty.addNode flat >>= _) >>= _) = (Gathered.empty.addNode flat >>= _)
      -- the whole has no properties and required names of its own
      cases Gathered.empty.addNode flat <;> rfl

/-- The flat form of a schema that is no part of itself is found with less fuel than a document has,
so with that of a schema around it. -/
theorem flattenWith_of_flatten {members : List (String × Json)}
    (hacyclic : ∀ part, ReflTransGen (Merges root) (.obj members) part →
      ¬ TransGen (Merges root) part part)
    (hvalue : .obj members ∈ root.values) (h : flatten root members = .ok n) :
    flattenWith root (root.size + 1) members = .ok n := by
  have hsucc : flattenWith root (root.size + 1) members ≠ .error .endless →
      flattenWith root (root.size + 1) members = .ok n :=
    fun hne => (flattenWith_succ hne).symm.trans h
  cases hflat : flattenWith root (root.size + 1) members with
  | ok n' => exact hflat ▸ hsucc (by rw [hflat]; simp)
  | error f =>
    have hmisuse := misuse_of_chain (root.size + 1) [] hacyclic hvalue (by simp) List.nodup_nil
      (by simp) (by simp) hflat
    have hne : f ≠ .endless := by
      rintro rfl
      cases hmisuse
    exact hflat ▸ hsucc (by rw [hflat]; simpa using hne)

/-- Something is taken over exactly where the properties and the required names can be. -/
theorem exists_kept_iff : (∃ kept, n.kept = .ok kept) ↔ n.Gathers := by
  rw [Node.kept, Gathered.addNode, Gathers]
  cases n.contributed <;> cases n.required <;> simp [bind, Except.bind, pure, Except.pure]

section

variable (h : n.kept = .ok kept)

include h

/-- What is taken over: the type, and the properties and the required names, each once. -/
theorem eq_of_kept : ∃ entries names, n.contributed = .ok entries ∧ n.required = .ok names ∧
    kept = { keywords := adoptType [] n
             gathered := some ⟨Entries.update [] entries, Gathered.extend [] names⟩ } := by
  obtain ⟨gathered, hgathered, h⟩ := ok_of_bind h
  obtain ⟨entries, hentries, hgathered⟩ := ok_of_bind hgathered
  obtain ⟨names, hnames, hgathered⟩ := ok_of_bind hgathered
  obtain rfl := Except.ok.inj hgathered
  exact ⟨entries, names, hentries, hnames, (Except.ok.inj h).symm⟩

/-- The type is taken over. -/
theorem get?_type_of_kept : kept.get? "type" = n.get? "type" := by
  obtain ⟨entries, names, -, -, rfl⟩ := eq_of_kept h
  show Json.lookup "type" (adoptType [] n) = n.get? "type"
  cases htype : n.get? "type" with
  | none => simp only [adoptType, htype]; rfl
  | some t => simp only [adoptType, htype]; rfl

/-- No other keyword is. -/
theorem get?_of_kept {keyword : String} (hkeyword : keyword ≠ "type") :
    kept.get? keyword = none := by
  obtain ⟨entries, names, -, -, rfl⟩ := eq_of_kept h
  show Json.lookup keyword (adoptType [] n) = none
  cases htype : n.get? "type" with
  | none => simp only [adoptType, htype]; rfl
  | some t =>
    simp only [adoptType, htype]
    simp [Json.lookup, Ne.symm hkeyword]

/-- The whole has properties, if only none. -/
theorem hasProperties_of_kept : kept.hasProperties = true := by
  obtain ⟨entries, names, -, -, rfl⟩ := eq_of_kept h
  rfl

/-- The whole lists the properties that are taken over. -/
theorem exists_listed_of_kept : ∃ entries, n.contributed = .ok entries ∧
    kept.listed = .ok (Entries.update [] entries) := by
  obtain ⟨entries, names, hentries, -, rfl⟩ := eq_of_kept h
  exact ⟨entries, hentries, rfl⟩

/-- The schemas inside of what is taken over from a record are inside of the record. -/
theorem inner_kept {entries : Entries} (hlisted : n.listed = .ok entries) :
    (Shape.record kept).inner ⊆ (Shape.record n).inner := by
  obtain ⟨entries', hentries, hkept⟩ := exists_listed_of_kept h
  obtain rfl := Except.ok.inj ((contributed_of_listed hlisted).symm.trans hentries)
  have hall : ∀ e ∈ Entries.update [] entries, True ∧ e.2 ∈ entries.map (·.2) :=
    Entries.forall_mem_update (p := fun _ => True) (by simp)
      fun e he => ⟨trivial, List.mem_map_of_mem he⟩
  rw [Shape.inner, Shape.inner, hkept, hlisted]
  intro child hchild
  obtain ⟨entry, hentry, rfl⟩ := List.mem_map.mp hchild
  exact (hall entry hentry).2

end

end Node

namespace Form

variable {n kept : Node} {form : Form} {type : Json}

/-- A form says something about the values if its shape tells the kind. -/
theorem summary?_eq_some_iff {kind : FieldKind} {nullable : Bool} :
    form.summary? = some (kind, nullable) ↔
      form.shape.kind? = some kind ∧ form.nullable = nullable := by
  rw [summary?, Option.map_eq_some_iff]
  simp

/-- Allowing no value does not change the kind. -/
theorem summary?_withNullableIf (b : Bool) (form : Form) :
    (form.withNullableIf b).summary? = form.summary?.map fun (kind, c) => (kind, c || b) := by
  rw [summary?, summary?, Option.map_map]
  rfl

/-- What is taken over describes, where its type is named, what the name says by itself. -/
theorem summary?_ofTyped_kept (h : n.kept = .ok kept) (type : Json) :
    (ofTyped kept type).bind summary? = type.namedKind? := by
  unfold ofTyped
  split
  · rfl
  · rfl
  · -- the items are not taken over
    rw [Node.get?_of_kept h (by decide)]
    rfl
  · rw [if_pos (Node.hasProperties_of_kept h)]
    rfl
  · next name hnull harray hobject =>
    rw [Json.namedKind?.eq_5 name hnull harray hobject, Node.get?_of_kept h (by decide)]
    split
    · next hlookup => rw [hlookup]; rfl
    · next hlookup => rw [hlookup]; rfl
    · next hlookup => rw [hlookup]; rfl
  · next hnull hnamed harray hobject hname =>
    rw [Json.namedKind?.eq_6 type hnull hnamed harray hobject hname]
    rfl

/-- What is taken over describes, where types are listed, what the list says by itself. -/
theorem summary?_ofTypes_kept (h : n.kept = .ok kept) (types : List Json) :
    (ofTypes kept types).bind summary? = Json.listedKind? types := by
  dsimp only [ofTypes, Json.listedKind?]
  generalize types.filter (!Convert.isNullType ·) = named
  match named with
  | [type] =>
    dsimp only
    rw [Option.bind_map, ← summary?_ofTyped_kept h type, Option.map_bind]
    exact congrArg _ (funext fun form => summary?_withNullableIf _ form)
  | [] | _ :: _ :: _ => rfl

/-- What is taken over describes what the type says by itself. -/
theorem summary?_ofFlat_kept (h : n.kept = .ok kept) :
    (ofFlat kept).bind summary? = n.typeKind? := by
  have henum : kept.get? "enum" = none := Node.get?_of_kept h (by decide)
  rw [ofFlat, henum, Node.get?_type_of_kept h, Node.typeKind?]
  cases Json.orNull (n.get? "type") with
  | null =>
    -- the whole always has properties, and so it is one of a record
    dsimp only
    rw [if_pos (Node.hasProperties_of_kept h), summary?_ofTyped_kept h]
    rfl
  | arr types => exact summary?_ofTypes_kept h types
  | _ => exact summary?_ofTyped_kept h _

/-- Where the type is named, only points in time and maps are not what the name says by itself. -/
theorem exists_namedKind?_eq {kind : FieldKind} (hform : ofTyped n type = some form)
    (hkind : form.shape.kind? = some kind) :
    ∃ kind', type.namedKind? = some (kind', form.nullable) ∧
      (kind' = kind ↔ kind ≠ .timestamp ∧ kind ≠ .map) := by
  -- the kind depends on more than the name in two cases: an object may have no properties, and a
  -- string may have a format
  unfold ofTyped at hform
  split at hform
  · obtain rfl := Option.some.inj hform
    obtain rfl := Option.some.inj hkind
    exact ⟨_, rfl, by decide⟩
  · obtain rfl := Option.some.inj hform
    obtain rfl := Option.some.inj hkind
    exact ⟨_, rfl, by decide⟩
  · obtain rfl := Option.some.inj hform
    obtain ⟨items, hitems⟩ := shape_ofItems (n.get? "items")
    rw [hitems] at hkind ⊢
    obtain rfl := Option.some.inj hkind
    exact ⟨_, rfl, by decide⟩
  · split at hform
    · obtain rfl := Option.some.inj hform
      obtain rfl := Option.some.inj hkind
      exact ⟨_, rfl, by decide⟩
    · obtain rfl := Option.some.inj hform
      obtain ⟨values, hvalues⟩ := shape_ofValues (n.get? "additionalProperties")
      rw [hvalues] at hkind ⊢
      obtain rfl := Option.some.inj hkind
      exact ⟨_, rfl, by decide⟩
  · next name hnull harray hobject =>
    rw [Json.namedKind?.eq_5 name hnull harray hobject]
    split at hform
    · next hlookup =>
      obtain rfl := Option.some.inj hform
      obtain rfl := Option.some.inj hkind
      rw [hlookup]
      refine ⟨_, rfl, ?_⟩
      split <;> decide
    · next found hstring hlookup =>
      obtain rfl := Option.some.inj hform
      obtain rfl := Option.some.inj hkind
      rw [hlookup]
      refine ⟨_, rfl, iff_of_true rfl ?_⟩
      -- points in time have a format and no name of their own
      have hall : ∀ entry ∈ Convert.primitives, entry.2 ≠ .timestamp ∧ entry.2 ≠ .map := by decide
      obtain ⟨l₁, l₂, heq, -⟩ := List.lookup_eq_some_iff.mp hlookup
      exact hall (name, found) (by rw [heq]; simp)
    · cases hform
  · cases hform

/-- So it is where types are listed. -/
theorem exists_listedKind?_eq {kind : FieldKind} {types : List Json}
    (hform : ofTypes n types = some form) (hkind : form.shape.kind? = some kind) :
    ∃ kind', Json.listedKind? types = some (kind', form.nullable) ∧
      (kind' = kind ↔ kind ≠ .timestamp ∧ kind ≠ .map) := by
  dsimp only [ofTypes] at hform
  dsimp only [Json.listedKind?]
  generalize types.filter (!Convert.isNullType ·) = named at hform ⊢
  match named with
  | [type] =>
    obtain ⟨typed, htyped, rfl⟩ := Option.map_eq_some_iff.mp hform
    obtain ⟨kind', hkind', hiff⟩ := exists_namedKind?_eq htyped hkind
    exact ⟨kind', by dsimp only; rw [hkind']; rfl, hiff⟩
  | [] | _ :: _ :: _ =>
    obtain rfl := Option.some.inj hform
    obtain rfl := Option.some.inj hkind
    exact ⟨_, rfl, by decide⟩

/-- A schema with one part describes what has no schemas inside, lists of anything or records. -/
theorem shape_of_kept (h : n.kept = .ok kept) (hform : ofFlat kept = some form) :
    (∃ kind, form.shape = .scalar kind) ∨ form.shape = .list (some (.bool true)) ∨
      form.shape = .record kept := by
  have htyped : ∀ type form, ofTyped kept type = some form → (∃ kind, form.shape = .scalar kind) ∨
      form.shape = .list (some (.bool true)) ∨ form.shape = .record kept := by
    intro type form hform
    unfold ofTyped at hform
    split at hform
    · obtain rfl := Option.some.inj hform
      exact .inl ⟨_, rfl⟩
    · obtain rfl := Option.some.inj hform
      exact .inl ⟨_, rfl⟩
    · rw [Node.get?_of_kept h (by decide)] at hform
      obtain rfl := Option.some.inj hform
      exact .inr (.inl rfl)
    · rw [if_pos (Node.hasProperties_of_kept h)] at hform
      obtain rfl := Option.some.inj hform
      exact .inr (.inr rfl)
    · split at hform
      · obtain rfl := Option.some.inj hform
        exact .inl ⟨_, rfl⟩
      · obtain rfl := Option.some.inj hform
        exact .inl ⟨_, rfl⟩
      · cases hform
    · cases hform
  have henum : kept.get? "enum" = none := Node.get?_of_kept h (by decide)
  unfold ofFlat at hform
  rw [henum] at hform
  dsimp only at hform
  split at hform
  · dsimp only [ofTypes] at hform
    split at hform
    · obtain ⟨typed, htyped', rfl⟩ := Option.map_eq_some_iff.mp hform
      exact htyped _ typed htyped'
    · obtain rfl := Option.some.inj hform
      exact .inl ⟨_, rfl⟩
  · exact htyped _ form hform
  · exact htyped _ form hform

end Form

namespace Node

variable {n kept : Node} {form : Form}

/-- Without a list of allowed values, the type of a schema says by itself what the schema describes,
unless the schema describes points in time or maps, or has neither a type nor properties. -/
theorem typeKind?_eq_iff {kind : FieldKind} (henum : n.get? "enum" = none)
    (hform : Form.ofFlat n = some form) (hkind : form.shape.kind? = some kind) :
    n.typeKind? = some (kind, form.nullable) ↔ kind ≠ .timestamp ∧ kind ≠ .map ∧
      (Json.orNull (n.get? "type") = .null → n.hasProperties = true) := by
  -- where there is a type, it is about the kind alone
  have htyped : ∀ kind', n.typeKind? = some (kind', form.nullable) →
      (kind' = kind ↔ kind ≠ .timestamp ∧ kind ≠ .map) → Json.orNull (n.get? "type") ≠ .null →
      (n.typeKind? = some (kind, form.nullable) ↔ kind ≠ .timestamp ∧ kind ≠ .map ∧
        (Json.orNull (n.get? "type") = .null → n.hasProperties = true)) := by
    intro kind' hkind' hiff hnull
    rw [hkind', ← and_assoc, ← hiff]
    simp [hnull]
  cases htype : Json.orNull (n.get? "type") with
  | null =>
    rw [Form.ofFlat_of_null henum htype] at hform
    by_cases hproperties : n.hasProperties = true
    · have hrecord : Form.ofTyped n (.str "object") = some ⟨.record n, false⟩ := if_pos hproperties
      rw [if_pos hproperties, hrecord] at hform
      obtain rfl := Option.some.inj hform
      obtain rfl := Option.some.inj hkind
      simp [typeKind?, htype, hproperties]
    · rw [if_neg hproperties] at hform
      obtain rfl := Option.some.inj hform
      obtain rfl := Option.some.inj hkind
      simp [typeKind?, htype, hproperties]
  | arr types =>
    rw [Form.ofFlat_of_types henum htype] at hform
    obtain ⟨kind', hkind', hiff⟩ := Form.exists_listedKind?_eq hform hkind
    exact htype ▸ htyped kind' (by simp only [typeKind?, htype, hkind']) hiff (by simp [htype])
  | _ =>
    rw [Form.ofFlat_of_type henum (by simp [htype]) (by simp [htype]), htype] at hform
    obtain ⟨kind', hkind', hiff⟩ := Form.exists_namedKind?_eq hform hkind
    exact htype ▸ htyped kind' (by simp only [typeKind?, htype, hkind']) hiff (by simp [htype])

/-- The schema of a record has no list of allowed values. -/
theorem get?_enum_of_record {flat : Node} {nullable : Bool}
    (hform : Form.ofFlat n = some ⟨.record flat, nullable⟩) : n.get? "enum" = none := by
  cases henum : n.get? "enum" with
  | none => rfl
  | some allowed =>
    rw [Form.ofFlat_of_enum henum] at hform
    obtain ⟨t, -, ht⟩ := Option.map_eq_some_iff.mp hform
    cases ht

/-- The type of a record says by itself that it is one. -/
theorem typeKind?_of_record {flat : Node} {nullable : Bool}
    (hform : Form.ofFlat n = some ⟨.record flat, nullable⟩) :
    n.typeKind? = some (.object, nullable) := by
  have henum := get?_enum_of_record hform
  refine (typeKind?_eq_iff henum hform rfl).mpr ⟨by decide, by decide, fun hnull => ?_⟩
  by_contra hproperties
  rw [Form.ofFlat_of_null henum hnull, if_neg hproperties] at hform
  cases hform

/-- A record that can be collected is taken over. -/
theorem gathers_of_record {entries : Entries} {names : List String}
    (hlisted : n.listed = .ok entries) (hrequired : n.requiredNames = .ok names) : n.Gathers := by
  obtain ⟨values, hvalues, -⟩ := ok_of_bind hrequired
  exact ⟨⟨entries, contributed_of_listed hlisted⟩, values, hvalues⟩

end Node

end SchemaStruct
