import Mathlib
import SchemaStruct.CSharp.Names
import SchemaStruct.Schema.TypeName

/-!
# Unique Names

The search for a free name always finds one: the candidates are pairwise different, and one more of
them is tried than there are taken names. Names that are handed out one after the other, each one
avoiding those in use, are then pairwise different. Sanitizers and the parameters of constructors
hand out their names in this way.

## Main definitions

* `handOut pick used names`: the names that `pick` hands out for `names`, with `used` in use before;
* `Sanitizer.identifiers`: the identifiers that a sanitizer hands out for some names.

## Main results

* `fresh_not_mem`: the name found by a search is not taken;
* `nodup_handOut` and `not_mem_of_mem_handOut`: names handed out are pairwise different, and
  different from those in use before, if `pick` avoids the names in use;
* `Sanitizer.nodup_identifiers`, `Sanitizer.not_mem_used_of_mem_identifiers` and
  `CSharp.nodup_parameters`: the same for the two allocators.
-/

namespace SchemaStruct

/-- A search that ends in a taken name has met taken names only. -/
theorem mem_of_firstFree_mem {taken : List String} {candidate : Nat → String} {tries n : Nat}
    (h : firstFree taken candidate tries n ∈ taken) :
    ∀ k ≤ tries, candidate (n + k) ∈ taken := by
  induction tries generalizing n with
  | zero =>
    intro k hk
    obtain rfl : k = 0 := by omega
    exact h
  | succ tries ih =>
    intro k hk
    rw [firstFree] at h
    by_cases hn : taken.contains (candidate n)
    · rw [if_pos hn] at h
      cases k with
      | zero => simpa using hn
      | succ k =>
        have := ih h k (by omega)
        rwa [show n + (k + 1) = n + 1 + k by omega]
    · rw [if_neg hn] at h
      exact absurd h (by simpa using hn)

/-- A search among pairwise different candidates finds a name that is not taken. -/
theorem fresh_not_mem (taken : List String) {candidate : Nat → String}
    (hinj : Function.Injective candidate) (start : Nat) :
    fresh taken candidate start ∉ taken := by
  intro h
  have hall := mem_of_firstFree_mem h
  -- one more candidate than there are taken names would be taken
  let tried := (List.range (taken.length + 1)).map fun k => candidate (start + k)
  have hnodup : tried.Nodup := by
    refine List.Nodup.map (fun a b hab => ?_) List.nodup_range
    have := hinj hab
    omega
  have hsub : tried ⊆ taken := by
    intro s hs
    obtain ⟨k, hk, rfl⟩ := List.mem_map.mp hs
    exact hall k (by have := List.mem_range.mp hk; omega)
  have hle := hnodup.length_le_of_subset hsub
  simp only [tried, List.length_map, List.length_range] at hle
  omega

/-- Different numbers behind a text give different texts. -/
theorem append_number_injective (s : String) :
    Function.Injective fun n : Nat => s ++ toString n := by
  intro m n h
  have : toString m = toString n := by simpa using h
  exact Nat.repr_injective this

/-- The name made unique is not taken. -/
theorem TypeName.unique_not_mem (taken : List String) (base : String) :
    unique taken base ∉ taken := by
  unfold unique
  split
  · exact fresh_not_mem taken (append_number_injective base) 2
  · next h => simpa using h

/-- The names that `pick` hands out for some names, one after the other: each of them is in use from
then on. -/
def handOut (pick : List String → String → String) : List String → List String → List String
  | _, [] => []
  | used, name :: names => pick used name :: handOut pick (pick used name :: used) names

/-- One name is handed out for each name. -/
@[simp]
theorem length_handOut (pick : List String → String → String) (used names : List String) :
    (handOut pick used names).length = names.length := by
  induction names generalizing used with
  | nil => rfl
  | cons name names ih => simp [handOut, ih]

/-- What holds of every name that `pick` gives holds of the names handed out. -/
theorem forall_mem_handOut {pick : List String → String → String} {p : String → Prop}
    (hp : ∀ used name, p (pick used name)) (used names : List String) :
    ∀ id ∈ handOut pick used names, p id := by
  induction names generalizing used with
  | nil => simp [handOut]
  | cons name names ih =>
    intro id h
    rcases List.mem_cons.mp h with rfl | h
    · exact hp used name
    · exact ih _ id h

section

variable {pick : List String → String → String} (hpick : ∀ used name, pick used name ∉ used)

include hpick

/-- If `pick` avoids the names in use, then nothing is handed out that was in use before. -/
theorem not_mem_of_mem_handOut {used names : List String} {id : String}
    (h : id ∈ handOut pick used names) : id ∉ used := by
  induction names generalizing used with
  | nil => simp [handOut] at h
  | cons name names ih =>
    rcases List.mem_cons.mp h with rfl | h
    · exact hpick used name
    · -- what is in use now is in use later too
      exact fun hused => ih h (List.mem_cons_of_mem _ hused)

/-- If `pick` avoids the names in use, then no name is handed out twice. -/
theorem nodup_handOut (used names : List String) : (handOut pick used names).Nodup := by
  induction names generalizing used with
  | nil => exact List.nodup_nil
  | cons name names ih =>
    rw [handOut, List.nodup_cons]
    refine ⟨fun h => ?_, ih _⟩
    exact not_mem_of_mem_handOut hpick h List.mem_cons_self

end

namespace Sanitizer

/-- The candidates beside an identifier are pairwise different. -/
theorem candidate_injective (suffix name : String) :
    Function.Injective (candidate suffix name) := by
  unfold candidate
  split
  · exact append_number_injective (name ++ suffix)
  · exact append_number_injective name

/-- What stands in for an identifier in use is not in use. -/
theorem avoidUsed_not_mem (s : Sanitizer) (suffix name : String) :
    s.avoidUsed suffix name ∉ s.used := by
  unfold avoidUsed
  split
  · exact fresh_not_mem s.used (candidate_injective suffix name) 1
  · next h => simpa using h

/-- What stands in for an identifier is the identifier itself or one of the candidates beside it. -/
theorem avoidUsed_eq (s : Sanitizer) (suffix name : String) :
    s.avoidUsed suffix name = name ∨ ∃ n, s.avoidUsed suffix name = candidate suffix name n := by
  unfold avoidUsed
  split
  · obtain ⟨k, -, h, -⟩ := firstFree_eq_candidate s.used (candidate suffix name) s.used.length 1
    exact Or.inr ⟨k, h⟩
  · exact Or.inl rfl

/-- The identifiers that a sanitizer hands out for some names, one after the other. -/
def identifiers (style : NamingStyle) (s : Sanitizer) (names : List String) : List String :=
  handOut (fun used name => ({ s with used }.unique name style).1) s.used names

/-- One identifier is handed out for each name. -/
@[simp]
theorem length_identifiers (style : NamingStyle) (s : Sanitizer) (names : List String) :
    (s.identifiers style names).length = names.length :=
  length_handOut _ _ names

/-- An identifier handed out was not in use before. -/
theorem not_mem_used_of_mem_identifiers {style : NamingStyle} {s : Sanitizer}
    {names : List String} {id : String} (h : id ∈ s.identifiers style names) : id ∉ s.used :=
  not_mem_of_mem_handOut (fun _ _ => avoidUsed_not_mem _ _ _) h

/-- No identifier is handed out twice. -/
theorem nodup_identifiers (style : NamingStyle) (s : Sanitizer) (names : List String) :
    (s.identifiers style names).Nodup :=
  nodup_handOut (fun _ _ => avoidUsed_not_mem _ _ _) s.used names

end Sanitizer

namespace CSharp

/-- The identifier of a parameter is not in use before. -/
theorem parameter_not_mem (used : List String) (name : String) : parameter used name ∉ used := by
  unfold parameter
  dsimp only
  split
  · exact fresh_not_mem used (append_number_injective (parameterBase name)) 2
  · next h => simpa using h

/-- Parameters are handed out one after the other. -/
theorem parameters_eq_handOut (used names : List String) :
    parameters used names = handOut parameter used names := by
  induction names generalizing used with
  | nil => rfl
  | cons name names ih => simp [parameters, handOut, ih]

/-- There is one parameter for each name. -/
@[simp]
theorem length_parameters (used names : List String) :
    (parameters used names).length = names.length := by
  rw [parameters_eq_handOut, length_handOut]

/-- The parameters of a constructor are pairwise different. -/
theorem nodup_parameters (used names : List String) : (parameters used names).Nodup := by
  rw [parameters_eq_handOut]
  exact nodup_handOut parameter_not_mem used names

end CSharp

end SchemaStruct
