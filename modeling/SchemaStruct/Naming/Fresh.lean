/-!
# Fresh Names

The search for a name that is not taken yet: candidates are tried in the order of their numbers,
and the first free one wins. With distinct candidates there are always enough tries: if as many
candidates as there are taken names are taken, no name is left for the next one.
-/

namespace SchemaStruct

/-- The first candidate from number `n` on that is not taken, among at most `tries`; the candidate
behind them if all of these are taken. -/
def firstFree (taken : List String) (candidate : Nat → String) : Nat → Nat → String
  | 0, n => candidate n
  | tries + 1, n =>
    if taken.contains (candidate n) then firstFree taken candidate tries (n + 1) else candidate n

/-- The first candidate, counted from `start`, that is not taken. -/
def fresh (taken : List String) (candidate : Nat → String) (start : Nat) : String :=
  firstFree taken candidate taken.length start

/-- The name found by a search is one of the candidates, and all those in front of it are taken. -/
theorem firstFree_eq_candidate (taken : List String) (candidate : Nat → String) (tries n : Nat) :
    ∃ k, n ≤ k ∧ firstFree taken candidate tries n = candidate k ∧
      ∀ m, n ≤ m → m < k → candidate m ∈ taken := by
  induction tries generalizing n with
  | zero => exact ⟨n, Nat.le_refl n, rfl, fun m _ _ => by omega⟩
  | succ tries ih =>
    rw [firstFree]
    split
    · next hn =>
      obtain ⟨k, hk, h, htaken⟩ := ih (n + 1)
      refine ⟨k, by omega, h, fun m hm hmk => ?_⟩
      -- the candidate of number `n` was refused here, the later ones by the rest of the search
      rcases Nat.eq_or_lt_of_le hm with rfl | hm
      · simpa using hn
      · exact htaken m hm hmk
    · exact ⟨n, Nat.le_refl n, rfl, fun m _ _ => by omega⟩

end SchemaStruct
