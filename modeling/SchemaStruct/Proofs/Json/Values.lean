import Mathlib.Data.List.Basic
import SchemaStruct.Proofs.Faults
import SchemaStruct.Schema.Convert

/-!
# Values inside of Values

All values that a value consists of, itself included. What is read in a document is one of its
values or has nothing inside: the items of a list, the entries of an object, what a reference points
to, the schema under a keyword. The texts that come up on the way, such as names and characters, are
no values of the document, but neither lists nor objects.

## Main definitions

* `Json.values`: the values in a value;
* `Json.references`: the references in a value;
* `Json.Covers`: something is one of the values, or has nothing inside.

## Main results

* `Json.length_values` and `Json.length_references_le`: how many there are at most;
* `Json.values_subset`: the values in one of the values;
* `Json.Covers.walk`, `Json.Covers.entries` and `Pointer.mem_values_of_resolve`: what is read inside
  of a value is covered;
* `Entries.forall_mem_update`: what holds of all entries still holds when entries are added.
-/

namespace SchemaStruct

namespace Json

mutual

/-- The values in a value, itself included. -/
def values : Json → List Json
  | arr items => arr items :: valuesItems items
  | obj members => obj members :: valuesMembers members
  | v => [v]

/-- The values in a list of values. -/
def valuesItems : List Json → List Json
  | [] => []
  | v :: vs => values v ++ valuesItems vs

/-- The values in a list of members. -/
def valuesMembers : List (String × Json) → List Json
  | [] => []
  | (_, v) :: rest => values v ++ valuesMembers rest

end

/-- The reference that stands in an object, if there is one. -/
def reference? (v : Json) : Option String := (v.get? "$ref").bind text?

/-- The references in a value. -/
def references (v : Json) : List String := v.values.filterMap reference?

mutual

/-- There are as many values as the size says. -/
theorem length_values : (v : Json) → v.values.length = v.size
  | arr items => by rw [values, size, List.length_cons, length_valuesItems items, Nat.add_comm]
  | obj members => by
    rw [values, size, List.length_cons, length_valuesMembers members, Nat.add_comm]
  | null | bool _ | int _ | float _ | str _ => rfl

/-- The same for a list of values. -/
theorem length_valuesItems : (items : List Json) → (valuesItems items).length = sizeItems items
  | [] => rfl
  | v :: vs => by
    rw [valuesItems, sizeItems, List.length_append, length_values v, length_valuesItems vs]

/-- The same for a list of members. -/
theorem length_valuesMembers :
    (members : List (String × Json)) → (valuesMembers members).length = sizeMembers members
  | [] => rfl
  | (_, v) :: rest => by
    rw [valuesMembers, sizeMembers, List.length_append, length_values v,
      length_valuesMembers rest]

end

/-- A value is one of its values. -/
theorem self_mem_values (v : Json) : v ∈ v.values := by
  cases v <;> simp [values]

/-- The values in a list are those in its items. -/
theorem mem_valuesItems_iff {v : Json} {items : List Json} :
    v ∈ valuesItems items ↔ ∃ item ∈ items, v ∈ item.values := by
  induction items with
  | nil => simp [valuesItems]
  | cons item items ih => simp [valuesItems, ih]

/-- The values in a list of members are those in its values. -/
theorem mem_valuesMembers_iff {v : Json} {members : List (String × Json)} :
    v ∈ valuesMembers members ↔ ∃ m ∈ members, v ∈ m.2.values := by
  induction members with
  | nil => simp [valuesMembers]
  | cons m members ih => simp [valuesMembers, ih]

mutual

/-- The values in one of the values are values of the whole. -/
theorem values_subset {u : Json} : (v : Json) → u ∈ v.values → u.values ⊆ v.values
  | arr items, h => by
    rw [values] at h ⊢
    rcases List.mem_cons.mp h with rfl | h
    · rw [values]
      exact List.Subset.refl _
    · exact List.Subset.trans (values_subset_items items h) (List.subset_cons_self _ _)
  | obj members, h => by
    rw [values] at h ⊢
    rcases List.mem_cons.mp h with rfl | h
    · rw [values]
      exact List.Subset.refl _
    · exact List.Subset.trans (values_subset_members members h) (List.subset_cons_self _ _)
  | null, h | bool _, h | int _, h | float _, h | str _, h =>
    List.mem_singleton.mp h ▸ List.Subset.refl _

/-- The same for a list of values. -/
theorem values_subset_items {u : Json} :
    (items : List Json) → u ∈ valuesItems items → u.values ⊆ valuesItems items
  | v :: vs, h => by
    rw [valuesItems] at h ⊢
    rcases List.mem_append.mp h with h | h
    · exact List.Subset.trans (values_subset v h) (List.subset_append_left _ _)
    · exact List.Subset.trans (values_subset_items vs h) (List.subset_append_right _ _)

/-- The same for a list of members. -/
theorem values_subset_members {u : Json} :
    (members : List (String × Json)) → u ∈ valuesMembers members →
      u.values ⊆ valuesMembers members
  | (_, v) :: rest, h => by
    rw [valuesMembers] at h ⊢
    rcases List.mem_append.mp h with h | h
    · exact List.Subset.trans (values_subset v h) (List.subset_append_left _ _)
    · exact List.Subset.trans (values_subset_members rest h) (List.subset_append_right _ _)

end

mutual

/-- There are at most as many references as members for them. -/
theorem length_references_le : (v : Json) → v.references.length ≤ Convert.references v
  | arr items => by
    have h : (arr items).references = (valuesItems items).filterMap reference? := rfl
    rw [h, Convert.references]
    exact length_references_items_le items
  | obj members => by
    have h := length_references_members_le members
    rw [references, values, List.filterMap_cons, Convert.references]
    cases href : reference? (obj members) with
    | none => exact Nat.le_trans (Nat.le_add_left _ _) h
    | some r =>
      rw [href] at h
      simpa [Nat.add_comm] using h
  | null | bool _ | int _ | float _ | str _ => by
    rw [Convert.references] <;> first | exact Nat.le_refl 0 | nofun

/-- The same for a list of values. -/
theorem length_references_items_le : (items : List Json) →
    ((valuesItems items).filterMap reference?).length ≤ Convert.referencesItems items
  | [] => Nat.le_refl 0
  | v :: vs => by
    rw [valuesItems, Convert.referencesItems, List.filterMap_append, List.length_append]
    exact Nat.add_le_add (length_references_le v) (length_references_items_le vs)

/-- The same for a list of members, with the reference in an object of these members. -/
theorem length_references_members_le : (members : List (String × Json)) →
    (reference? (obj members)).toList.length +
      ((valuesMembers members).filterMap reference?).length ≤ Convert.referencesMembers members
  | [] => Nat.le_refl 0
  | (k, v) :: rest => by
    have hv : (v.values.filterMap reference?).length ≤ Convert.references v :=
      length_references_le v
    have hrest := length_references_members_le rest
    rw [valuesMembers, Convert.referencesMembers, List.filterMap_append, List.length_append]
    by_cases hk : k = "$ref"
    · -- the reference is the one of this member, and counts once
      have hone : (reference? (obj ((k, v) :: rest))).toList.length ≤ 1 := by
        cases reference? (obj ((k, v) :: rest)) <;> simp
      rw [if_pos hk]
      omega
    · have hsame : reference? (obj ((k, v) :: rest)) = reference? (obj rest) := by
        simp [reference?, get?, lookup, hk]
      rw [if_neg hk, hsame]
      omega

end

/-- The value is one of the values of the root, or it has nothing inside. -/
def Covers (root v : Json) : Prop := v ∈ root.values ∨ v.isHashable = true

section

variable {root v : Json}

/-- An item of one of the values is one of the values. -/
theorem mem_values_of_mem_items {items : List Json} (h : arr items ∈ root.values)
    (hv : v ∈ items) : v ∈ root.values := by
  refine values_subset root h ?_
  rw [values]
  exact List.mem_cons_of_mem _ (mem_valuesItems_iff.mpr ⟨v, hv, self_mem_values v⟩)

/-- A member of one of the values is one of the values. -/
theorem mem_values_of_mem_members {members : List (String × Json)} {name : String}
    (h : obj members ∈ root.values) (hv : (name, v) ∈ members) : v ∈ root.values := by
  refine values_subset root h ?_
  rw [values]
  exact List.mem_cons_of_mem _ (mem_valuesMembers_iff.mpr ⟨_, hv, self_mem_values v⟩)

/-- What is looked up in members is one of them. -/
theorem mem_of_lookup {members : List (String × Json)} {name : String}
    (h : lookup name members = some v) : (name, v) ∈ members := by
  induction members with
  | nil => cases h
  | cons m members ih =>
    obtain ⟨k, w⟩ := m
    rw [lookup] at h
    split at h
    · next hk =>
      rw [Option.some.inj h, hk]
      exact List.mem_cons_self
    · exact List.mem_cons_of_mem _ (ih h)

/-- What an object has under a name is one of the values. -/
theorem mem_values_of_get? {name : String} {u : Json} (h : u ∈ root.values)
    (hv : u.get? name = some v) : v ∈ root.values := by
  cases u with
  | obj members => exact mem_values_of_mem_members h (mem_of_lookup hv)
  | _ => cases hv

/-- An object that is covered is one of the values. -/
theorem Covers.mem_values_of_obj {members : List (String × Json)}
    (h : root.Covers (obj members)) : obj members ∈ root.values :=
  h.resolve_right (by simp [isHashable])

/-- What one meets when walking through a covered value is covered. -/
theorem Covers.walk? (h : root.Covers v) {vs : List Json} (hvs : v.walk? = some vs) :
    ∀ u ∈ vs, root.Covers u := by
  intro u hu
  cases v with
  | arr items =>
    obtain rfl := Option.some.inj hvs
    exact .inl (mem_values_of_mem_items (h.resolve_right (by simp [isHashable])) hu)
  | str s =>
    obtain rfl := Option.some.inj hvs
    obtain ⟨c, -, rfl⟩ := List.mem_map.mp hu
    exact .inr rfl
  | obj members =>
    obtain rfl := Option.some.inj hvs
    obtain ⟨m, -, rfl⟩ := List.mem_map.mp hu
    exact .inr rfl
  | _ => cases hvs

/-- The same for a value that has to be walked through. -/
theorem Covers.walk (h : root.Covers v) {vs : List Json} (hvs : v.walk = .ok vs) :
    ∀ u ∈ vs, root.Covers u := by
  unfold Json.walk at hvs
  split at hvs
  · next hwalk =>
    obtain rfl := Except.ok.inj hvs
    exact h.walk? hwalk
  · cases hvs

end

end Json

namespace Entries

variable {root : Json} {entries more : Entries}

/-- The values of all entries are covered. -/
def Covered (root : Json) (entries : Entries) : Prop := ∀ entry ∈ entries, root.Covers entry.2

/-- The value of a pair is covered if the pair is. -/
theorem covers_of_ofPair {index : Nat} {v : Json} {entry : EntryName × Json}
    (hv : root.Covers v) (h : ofPair index v = .ok entry) : root.Covers entry.2 := by
  unfold ofPair at h
  split at h
  · cases h
  · next name value hwalk =>
    obtain rfl := Except.ok.inj h
    exact hv.walk? hwalk value (by simp)
  · next name value _ hwalk =>
    obtain ⟨_, -, h⟩ := ok_of_bind h
    obtain rfl := Except.ok.inj h
    exact hv.walk? hwalk value (by simp)
  · cases h

/-- The values of some pairs are covered if the pairs are. -/
theorem covered_of_ofPairs {index : Nat} {vs : List Json} (hvs : ∀ v ∈ vs, root.Covers v)
    (h : ofPairs index vs = .ok entries) : entries.Covered root := by
  induction vs generalizing index entries with
  | nil =>
    obtain rfl := Except.ok.inj h
    simp [Covered]
  | cons v vs ih =>
    obtain ⟨hv, hvs⟩ := List.forall_mem_cons.mp hvs
    obtain ⟨entry, hentry, h⟩ := ok_of_bind h
    obtain ⟨rest, hrest, h⟩ := ok_of_bind h
    obtain rfl := Except.ok.inj h
    exact List.forall_mem_cons.mpr ⟨covers_of_ofPair hv hentry, ih hvs hrest⟩

/-- Every entry among old and new ones has the name of one of them, and the value of one of them. -/
theorem mem_set {name : EntryName} {value : Json} {entry : EntryName × Json}
    (h : entry ∈ Entries.set name value entries) :
    entry ∈ entries ∨ entry.2 = value ∧
      (entry.1 = name ∨ ∃ v, (entry.1, v) ∈ entries) := by
  induction entries with
  | nil =>
    obtain rfl := List.mem_singleton.mp h
    exact .inr ⟨rfl, .inl rfl⟩
  | cons first rest ih =>
    obtain ⟨k, v⟩ := first
    unfold Entries.set at h
    split at h
    · rcases List.mem_cons.mp h with rfl | h
      · exact .inr ⟨rfl, .inr ⟨v, List.mem_cons_self⟩⟩
      · exact .inl (List.mem_cons_of_mem _ h)
    · rcases List.mem_cons.mp h with rfl | h
      · exact .inl List.mem_cons_self
      · rcases ih h with h | ⟨hvalue, hname⟩
        · exact .inl (List.mem_cons_of_mem _ h)
        · refine .inr ⟨hvalue, hname.imp_right ?_⟩
          rintro ⟨w, hw⟩
          exact ⟨w, List.mem_cons_of_mem _ hw⟩

/-- What holds of the names and of the values of all entries still holds when entries are added. -/
theorem forall_mem_update {p : EntryName → Prop} {q : Json → Prop}
    (hentries : ∀ entry ∈ entries, p entry.1 ∧ q entry.2)
    (hmore : ∀ entry ∈ more, p entry.1 ∧ q entry.2) :
    ∀ entry ∈ entries.update more, p entry.1 ∧ q entry.2 := by
  unfold Entries.update
  induction more generalizing entries with
  | nil => exact hentries
  | cons new more ih =>
    obtain ⟨hnew, hmore⟩ := List.forall_mem_cons.mp hmore
    refine ih (fun entry hentry => ?_) hmore
    rcases mem_set hentry with h | ⟨hvalue, hname | ⟨v, hv⟩⟩
    · exact hentries entry h
    · exact ⟨hname ▸ hnew.1, hvalue ▸ hnew.2⟩
    · exact ⟨(hentries _ hv).1, hvalue ▸ hnew.2⟩

/-- Entries are covered if old and new ones are. -/
theorem Covered.update (h : entries.Covered root) (hmore : more.Covered root) :
    Covered root (entries.update more) := fun entry hentry =>
  (forall_mem_update (p := fun _ => True) (fun e he => ⟨trivial, h e he⟩)
    (fun e he => ⟨trivial, hmore e he⟩) entry hentry).2

end Entries

/-- The entries of a covered value are covered. -/
theorem Json.Covers.entries {root v : Json} (h : root.Covers v) {es : Entries}
    (hes : v.entries = .ok es) : es.Covered root := by
  unfold Json.entries at hes
  split at hes
  · next members =>
    obtain rfl := Except.ok.inj hes
    intro entry hentry
    obtain ⟨⟨k, w⟩, hmem, rfl⟩ := List.mem_map.mp hentry
    exact .inl (mem_values_of_mem_members h.mem_values_of_obj hmem)
  · obtain ⟨items, hitems, hes⟩ := ok_of_bind hes
    exact Entries.covered_of_ofPairs (h.walk hitems) hes

namespace Pointer

variable {root v : Json}

/-- What one gets to along names is one of the values. -/
theorem mem_values_of_follow {names : List String} {u : Json} (hu : u ∈ root.values)
    (h : follow names u = some v) : v ∈ root.values := by
  induction names generalizing u with
  | nil => exact Option.some.inj h ▸ hu
  | cons name names ih =>
    obtain ⟨w, hw, h⟩ := Option.bind_eq_some_iff.mp h
    exact ih (Json.mem_values_of_get? hu hw) h

/-- What a reference points to is one of the values. -/
theorem mem_values_of_resolve {ref : String} (h : resolve root ref = .ok v) :
    v ∈ root.values := by
  unfold resolve at h
  split at h
  · exact Except.ok.inj h ▸ root.self_mem_values
  · split at h
    · cases h
    · split at h
      · cases h
      · next members hfollow =>
        exact Except.ok.inj h ▸ mem_values_of_follow root.self_mem_values hfollow
      · cases h

/-- The same for whatever stands for a reference. -/
theorem mem_values_of_resolveValue {ref : Json} (h : resolveValue root ref = .ok v) :
    v ∈ root.values := by
  unfold resolveValue at h
  split at h
  · exact mem_values_of_resolve h
  · cases h

end Pointer

end SchemaStruct
