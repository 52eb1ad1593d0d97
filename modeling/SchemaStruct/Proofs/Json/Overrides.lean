import Mathlib.Data.List.Induction
import Mathlib.Data.List.Nodup
import SchemaStruct.Json.Entries

/-!
# Overridden Members

Members that are set one after the other: a name stands where it came up first and has the value
that it was given last. Lists of members may be put together before or after the repeated names in
them are settled, so settling them is an associative way to combine lists.

## Main definitions

* `Json.overridden`: members with every name at its first place and with its last value.

## Main results

* `eraseDups_append_eraseDups`: repetitions may be left out of a part first;
* `Json.map_fst_overridden` and `Json.lookup_overridden`: the names and the values;
* `Entries.update_overridden`: what setting members one after the other comes to;
* `Json.overridden_append_overridden`: names may be settled in a part first.
-/

namespace SchemaStruct

section

variable {α : Type} [BEq α] [LawfulBEq α]

/-- Without repetition, an item at the end is left out if it is there already. -/
theorem eraseDups_concat (xs : List α) (x : α) [Decidable (x ∈ xs)] :
    (xs ++ [x]).eraseDups = if x ∈ xs then xs.eraseDups else xs.eraseDups ++ [x] := by
  rw [List.eraseDups_append]
  split
  · next h => simp [List.removeAll, h]
  · next h => simp [List.removeAll, h, List.eraseDups_cons]

/-- Nothing is repeated any more. -/
theorem nodup_eraseDups (xs : List α) : xs.eraseDups.Nodup := by
  induction xs using List.reverseRecOn with
  | nil => exact List.nodup_nil
  | append_singleton xs x ih =>
    rw [eraseDups_concat]
    split
    · exact ih
    · next h => exact List.concat_eq_append ▸ ih.concat fun hx => h (List.mem_eraseDups.mp hx)

/-- Repetitions in the later part may be left out first. -/
theorem eraseDups_append_eraseDups (xs ys : List α) :
    (xs ++ ys.eraseDups).eraseDups = (xs ++ ys).eraseDups := by
  -- from the end of the list, since an item is left out for what stands in front of it
  induction ys using List.reverseRecOn with
  | nil => rfl
  | append_singleton ys y ih =>
    rw [eraseDups_concat, ← List.append_assoc, eraseDups_concat]
    by_cases hys : y ∈ ys
    · rw [if_pos hys, if_pos (List.mem_append_right xs hys), ih]
    · have hmem : y ∈ xs ++ ys.eraseDups ↔ y ∈ xs ++ ys := by simp
      rw [if_neg hys, ← List.append_assoc, eraseDups_concat, ih]
      simp only [hmem]

end

namespace Json

/-- Members with every name at its first place and with its last value. -/
def overridden (members : List (String × Json)) : List (String × Json) :=
  -- a name that comes up has a last value
  (members.map (·.1)).eraseDups.map fun k => (k, (lookup k members.reverse).getD .null)

variable {members more : List (String × Json)} {k : String} {v : Json}

/-- What is looked up in two lists is looked up in the first one, then in the second one. -/
theorem lookup_append :
    lookup k (members ++ more) = (lookup k members).or (lookup k more) := by
  induction members with
  | nil => rfl
  | cons m members ih =>
    obtain ⟨k', v⟩ := m
    rw [List.cons_append, lookup, lookup]
    split
    · rfl
    · exact ih

/-- A name is found if it comes up. -/
theorem isSome_lookup_iff : (lookup k members).isSome = true ↔ k ∈ members.map (·.1) := by
  induction members with
  | nil => simp [lookup]
  | cons m members ih =>
    obtain ⟨k', v⟩ := m
    rw [lookup]
    split
    · next h => simp [h]
    · next h => simp [ih, Ne.symm h]

/-- What is looked up in members that are made of names. -/
theorem lookup_map {ks : List String} {f : String → Json} :
    lookup k (ks.map fun x => (x, f x)) = if k ∈ ks then some (f k) else none := by
  induction ks with
  | nil => rfl
  | cons x ks ih =>
    rw [List.map_cons, lookup, ih]
    by_cases h : x = k
    · simp [h]
    · simp [h, Ne.symm h]

/-- A member is set among members that are made of names: another value, or another name. -/
theorem setMember_map {ks : List String} {f : String → Json} (h : ks.Nodup) :
    setMember k v (ks.map fun x => (x, f x)) =
      (if k ∈ ks then ks else ks ++ [k]).map fun x => (x, if x = k then v else f x) := by
  induction ks with
  | nil => simp [setMember]
  | cons x ks ih =>
    obtain ⟨hx, hks⟩ := List.nodup_cons.mp h
    rw [List.map_cons, setMember]
    by_cases hxk : x = k
    · -- the names behind it are others
      have hrest : ∀ y ∈ ks, y ≠ k := fun y hy hyk => hx (hxk ▸ hyk ▸ hy)
      rw [if_pos hxk, if_pos (hxk ▸ List.mem_cons_self), List.map_cons, if_pos hxk]
      congr 1
      exact List.map_congr_left fun y hy => by rw [if_neg (hrest y hy)]
    · rw [if_neg hxk, ih hks]
      by_cases hk : k ∈ ks
      · simp [hk, hxk]
      · simp [hk, hxk, Ne.symm hxk]

/-- Every name comes up once, in the order of the first places. -/
theorem map_fst_overridden (members : List (String × Json)) :
    (overridden members).map (·.1) = (members.map (·.1)).eraseDups := by
  rw [overridden, List.map_map]
  exact List.map_id _

/-- The value of a name is the last one. -/
theorem lookup_overridden (k : String) (members : List (String × Json)) :
    lookup k (overridden members) = lookup k members.reverse := by
  rw [overridden, lookup_map]
  cases h : lookup k members.reverse with
  | some v =>
    have hk : k ∈ members.reverse.map (·.1) := isSome_lookup_iff.mp (by rw [h]; rfl)
    rw [if_pos (by simpa using hk), Option.getD_some]
  | none =>
    have hk : k ∉ members.reverse.map (·.1) := fun hk => by
      simpa [h] using isSome_lookup_iff.mpr hk
    rw [if_neg (by simpa using hk)]

/-- The last value of a name is also found from the other end, since the name comes up once. -/
theorem lookup_reverse_overridden (k : String) (members : List (String × Json)) :
    lookup k (overridden members).reverse = lookup k members.reverse := by
  rw [← lookup_overridden k members, overridden, ← List.map_reverse, lookup_map, lookup_map]
  simp only [List.mem_reverse]

/-- To set a member is to put it at the end. -/
theorem setMember_overridden :
    setMember k v (overridden members) = overridden (members ++ [(k, v)]) := by
  rw [overridden, setMember_map (nodup_eraseDups _), overridden, List.map_append]
  simp only [List.map_cons, List.map_nil, eraseDups_concat, List.mem_eraseDups]
  refine List.map_congr_left fun x _ => ?_
  rw [List.reverse_append, lookup_append]
  by_cases hx : x = k
  · simp [lookup, hx]
  · simp [lookup, hx, Ne.symm hx]

/-- Names may be settled in the later part first. -/
theorem overridden_append_overridden (members more : List (String × Json)) :
    overridden (members ++ overridden more) = overridden (members ++ more) := by
  have hnames : ((members ++ overridden more).map (·.1)).eraseDups =
      ((members ++ more).map (·.1)).eraseDups := by
    rw [List.map_append, map_fst_overridden, eraseDups_append_eraseDups, List.map_append]
  have hvalues (k : String) : lookup k (members ++ overridden more).reverse =
      lookup k (members ++ more).reverse := by
    rw [List.reverse_append, lookup_append, lookup_reverse_overridden, List.reverse_append,
      lookup_append]
  rw [overridden, hnames]
  exact List.map_congr_left fun k _ => by rw [hvalues]

end Json

namespace Entries

variable {members more : List (String × Json)}

/-- An entry of an object is set as a member is. -/
theorem set_ofMembers (k : String) (v : Json) :
    Entries.set (.text k) v (ofMembers members) = ofMembers (Json.setMember k v members) := by
  induction members with
  | nil => rfl
  | cons m members ih =>
    obtain ⟨k', v'⟩ := m
    have hbeq : (EntryName.text k' == EntryName.text k) = (k' == k) := rfl
    show (if (EntryName.text k' == EntryName.text k) = true then _ else _) = _
    rw [Json.setMember, hbeq]
    by_cases h : k' = k
    · rw [if_pos (beq_iff_eq.mpr h), if_pos h]
      rfl
    · rw [if_neg (fun hbeq => h (beq_iff_eq.mp hbeq)), if_neg h]
      exact congrArg _ ih

/-- To set members one after the other is to put them at the end. -/
theorem update_overridden :
    Entries.update (ofMembers (Json.overridden members)) (ofMembers more) =
      ofMembers (Json.overridden (members ++ more)) := by
  induction more generalizing members with
  | nil => rw [List.append_nil]; rfl
  | cons m more ih =>
    obtain ⟨k, v⟩ := m
    have hset : Entries.update (ofMembers (Json.overridden members)) (ofMembers ((k, v) :: more)) =
        Entries.update (Entries.set (.text k) v (ofMembers (Json.overridden members)))
          (ofMembers more) := rfl
    rw [hset, set_ofMembers, Json.setMember_overridden, ih, List.append_assoc]
    rfl

end Entries

end SchemaStruct
