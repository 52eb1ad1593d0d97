import Mathlib
import SchemaStruct.CSharp.Audit
import SchemaStruct.Proofs.Schema.Layers

/-!
# Records That Contain Themselves

A record holds another one by value if one of its properties is an object of it. Whether a record
comes back to itself in this way is found by a search: what the record holds is laid on a stack, and
of every record that is taken from the stack for the first time, what it holds goes onto the stack
too. The search ends when the record itself is taken, or when nothing is left.

The rounds of the search are a relation here, in which any entry of the stack may be taken next and
entries may be laid down anywhere. In whatever order it goes, it lays down at most as many entries
as there are properties, so it ends by itself. What it has looked at is held by the record, directly
or not; and what is held by something looked at has been looked at or waits on the stack. The first
shows that a record that is found contains itself, the second that one that is not found does not.

## Main definitions

* `TypeGraph.HoldsByValue`: a record holds values of another one;
* `CSharp.Search` and `CSharp.Search.Step`: the state of a search, and its rounds;
* `CSharp.Search.Ends`: a search comes to an end, with a result.

## Main results

* `CSharp.Search.weight_of_step` and `CSharp.Search.length_le_weight`: how many rounds there are;
* `CSharp.Search.ends_reaches`: the fuel of the search is enough;
* `CSharp.Search.Exact.step`: a round keeps what is known of the records looked at;
* `CSharp.isCyclic_iff`: a record is found if and only if it contains itself;
* `CSharp.cycleFindings_exact`: the findings about records that contain themselves.
-/

namespace SchemaStruct

open Relation

/-- The record of the key `a` has a property that is an object of the record of the key `b`, which
is in the graph. -/
def TypeGraph.HoldsByValue (g : TypeGraph) (a b : String) : Prop :=
  ∃ r ∈ g.records, r.key = a ∧
    ∃ p ∈ r.properties, p.type.kind = .object ∧ p.type.record = some b ∧ b ∈ g.keys

namespace CSharp

variable {g : TypeGraph} {start : String}

/-- What a record holds. -/
theorem mem_heldBy_iff {r : Record} {key : String} :
    key ∈ heldBy g r ↔ ∃ p ∈ r.properties, p.type.kind = .object ∧ p.type.record = some key ∧
      key ∈ g.keys := by
  rw [heldBy, List.mem_filterMap]
  refine exists_congr fun p => and_congr_right fun _ => ?_
  by_cases hkind : p.type.kind = .object
  · simp [hkind, Option.filter_eq_some_iff, TypeGraph.contains_iff_mem_keys]
  · simp [hkind]

/-- The record of a key of a graph is found under it. -/
theorem get?_of_mem {r : Record} (hr : r ∈ g.records) : g.get? r.key = some r := by
  obtain ⟨q, hq, hkey, hget⟩ := TypeGraph.exists_get?_of_mem_keys (List.mem_map_of_mem hr)
  rw [hget, List.inj_on_of_nodup_map g.keys_nodup hq hr hkey]

/-- What the record of a key holds. -/
theorem mem_held_iff {a b : String} : b ∈ held g a ↔ g.HoldsByValue a b := by
  constructor
  · intro h
    cases hget : g.get? a with
    | none => simp [held, hget] at h
    | some r =>
      have hkey : r.key = a := by simpa using List.find?_some hget
      rw [held, hget] at h
      exact ⟨r, List.mem_of_find?_eq_some hget, hkey, mem_heldBy_iff.mp h⟩
  · rintro ⟨r, hr, rfl, hp⟩
    rw [held, get?_of_mem hr]
    exact mem_heldBy_iff.mpr hp

/-- The state of a search. -/
structure Search where
  /-- The keys of the records that are done with. -/
  seen : List String
  /-- The keys that are to be looked at. -/
  stack : List String

namespace Search

/-- The search for a record in what it holds. -/
def opening (g : TypeGraph) (start : String) : Search := ⟨[], held g start⟩

/-- A round of the search for `start` that does not end it, with any entry of the stack. -/
inductive Step (g : TypeGraph) (start : String) : Search → Search → Prop
  /-- Nothing is done about a record that is done with. -/
  | skip {seen stack rest : List String} {key : String} (htake : stack.Perm (key :: rest))
      (hne : key ≠ start) (hseen : key ∈ seen) : Step g start ⟨seen, stack⟩ ⟨seen, rest⟩
  /-- What a record holds goes onto the stack. -/
  | enter {seen stack rest after : List String} {key : String} (htake : stack.Perm (key :: rest))
      (hne : key ≠ start) (hseen : key ∉ seen) (hafter : after.Perm (held g key ++ rest)) :
      Step g start ⟨seen, stack⟩ ⟨key :: seen, after⟩

/-- From the state `s` on, the search comes to an end: with the record that is searched for, or with
nothing left to look at. -/
def Ends (g : TypeGraph) (start : String) (s : Search) (found : Bool) : Prop :=
  ∃ t, ReflTransGen (Step g start) s t ∧ if found then start ∈ t.stack else t.stack = []

/-- The number of entries that the record may still lay onto the stack. -/
def cost (g : TypeGraph) (start : String) (seen : List String) (r : Record) : Nat :=
  if r.key = start ∨ r.key ∈ seen then 0 else (heldBy g r).length

/-- The number of entries on the stack, and of those that may still come. -/
def weight (g : TypeGraph) (start : String) (s : Search) : Nat :=
  s.stack.length + (g.records.map (cost g start s.seen)).sum

/-- The entries that a record lays onto the stack, counted record by record. -/
theorem length_held (g : TypeGraph) (key : String) : (held g key).length =
    (g.records.map fun r => if r.key = key then (heldBy g r).length else 0).sum := by
  unfold held TypeGraph.get?
  have hnodup := g.keys_nodup
  generalize g.records = records at hnodup
  induction records with
  | nil => rfl
  | cons r records ih =>
    obtain ⟨hfresh, hnodup⟩ := List.nodup_cons.mp hnodup
    by_cases hkey : r.key = key
    · -- no other record has that key
      have hrest : (records.map fun q => if q.key = key then (heldBy g q).length else 0).sum =
          0 := by
        refine List.sum_eq_zero fun n hn => ?_
        obtain ⟨q, hq, rfl⟩ := List.mem_map.mp hn
        exact if_neg fun h => hfresh (List.mem_map.mpr ⟨q, hq, h.trans hkey.symm⟩)
      simp [hkey, hrest]
    · simp [hkey, ih hnodup]

/-- Looking at a record for the first time takes its entries from those that may still come. -/
theorem sum_cost_cons {seen : List String} {key : String} (hne : key ≠ start)
    (hseen : key ∉ seen) :
    (held g key).length + (g.records.map (cost g start (key :: seen))).sum =
      (g.records.map (cost g start seen)).sum := by
  rw [length_held, ← List.sum_map_add]
  refine congrArg List.sum (List.map_congr_left fun r _ => ?_)
  unfold cost
  by_cases hkey : r.key = key
  · simp [hkey, hne, hseen]
  · simp [hkey]

/-- A round takes one entry from those that there are and may still come. -/
theorem weight_of_step {s t : Search} (h : Step g start s t) :
    weight g start t + 1 = weight g start s := by
  cases h with
  | skip htake _ _ =>
    have hlength := htake.length_eq
    simp only [weight, List.length_cons] at hlength ⊢
    omega
  | enter htake hne hseen hafter =>
    have hlength := htake.length_eq
    have hmore := hafter.length_eq
    have hcost := sum_cost_cons (g := g) hne hseen
    simp only [weight, List.length_cons, List.length_append] at hlength hmore ⊢
    omega

/-- There are no more rounds than entries. -/
theorem length_le_weight {s : Search} {run : List Search}
    (h : List.IsChain (Step g start) (s :: run)) : run.length ≤ weight g start s := by
  induction run generalizing s with
  | nil => exact Nat.zero_le _
  | cons t run ih =>
    obtain ⟨hstep, hrun⟩ := List.isChain_cons_cons.mp h
    have hweight := weight_of_step hstep
    have hlength := ih hrun
    rw [List.length_cons]
    omega

/-- There are no more entries than properties. -/
theorem weight_opening_le (g : TypeGraph) (start : String) :
    weight g start (opening g start) ≤ g.propertyCount := by
  have hsum : weight g start (opening g start) =
      (g.records.map fun r => (heldBy g r).length).sum := by
    rw [weight, opening, length_held, ← List.sum_map_add]
    refine congrArg List.sum (List.map_congr_left fun r _ => ?_)
    by_cases hkey : r.key = start <;> simp [cost, hkey]
  rw [hsum, TypeGraph.propertyCount, List.length_flatMap]
  exact List.sum_le_sum fun r _ => List.length_filterMap_le _ _

/-- With more fuel than there are entries, the search ends by itself, and with the result that is
given. -/
theorem ends_reaches {fuel : Nat} {s : Search} (hfuel : weight g start s < fuel) :
    Ends g start s (reaches g start fuel s.seen s.stack) := by
  induction fuel generalizing s with
  | zero => omega
  | succ fuel ih =>
    obtain ⟨seen, stack⟩ := s
    cases stack with
    | nil => exact ⟨_, .refl, rfl⟩
    | cons key stack =>
      by_cases hkey : key = start
      · exact ⟨_, .refl, by simp [reaches, hkey]⟩
      have hround {t : Search} (hstep : Step g start ⟨seen, key :: stack⟩ t) :
          Ends g start ⟨seen, key :: stack⟩ (reaches g start fuel t.seen t.stack) := by
        have hweight := weight_of_step hstep
        obtain ⟨last, hruns, hlast⟩ := ih (s := t) (by omega)
        exact ⟨last, .head hstep hruns, hlast⟩
      by_cases hseen : key ∈ seen
      · simpa [reaches, hkey, hseen] using hround (.skip (.refl _) hkey hseen)
      · simpa [reaches, hkey, hseen] using hround (.enter (.refl _) hkey hseen (.refl _))

/-- What is known in a state of the search. -/
structure Exact (g : TypeGraph) (start : String) (s : Search) : Prop where
  /-- What is to be looked at is held by the record that is searched for, directly or not. -/
  reached : ∀ key ∈ s.stack, TransGen g.HoldsByValue start key
  /-- What is held by something done with is done with or to be looked at. -/
  closed : ∀ key ∈ start :: s.seen, ∀ inner, g.HoldsByValue key inner →
    inner ∈ s.seen ∨ inner ∈ s.stack
  /-- The record that is searched for has not been found. -/
  fresh : start ∉ s.seen

/-- It is known at the beginning. -/
theorem exact_opening (g : TypeGraph) (start : String) : Exact g start (opening g start) where
  reached _ h := .single (mem_held_iff.mp h)
  closed key hkey inner h := by
    obtain rfl : key = start := by simpa [opening] using hkey
    exact .inr (mem_held_iff.mpr h)
  fresh := by simp [opening]

/-- It stays known from round to round. -/
theorem Exact.step {s t : Search} (hs : Exact g start s) (h : Step g start s t) :
    Exact g start t := by
  cases h with
  | @skip seen stack rest key htake hne hseen =>
    refine ⟨fun k hk => hs.reached k (htake.mem_iff.mpr (List.mem_cons_of_mem _ hk)), ?_, hs.fresh⟩
    intro k hk inner hinner
    rcases hs.closed k hk inner hinner with h | h
    · exact .inl h
    · rcases List.mem_cons.mp (htake.mem_iff.mp h) with rfl | h
      · exact .inl hseen
      · exact .inr h
  | @enter seen stack rest after key htake hne hseen hafter =>
    have hkey := hs.reached key (htake.mem_iff.mpr List.mem_cons_self)
    refine ⟨fun k hk => ?_, fun k hk inner hinner => ?_, ?_⟩
    · rcases List.mem_append.mp (hafter.mem_iff.mp hk) with hk | hk
      · exact hkey.tail (mem_held_iff.mp hk)
      · exact hs.reached k (htake.mem_iff.mpr (List.mem_cons_of_mem _ hk))
    · by_cases hsame : k = key
      · -- what the record holds is on the stack now
        subst hsame
        exact .inr (hafter.mem_iff.mpr (List.mem_append_left _ (mem_held_iff.mpr hinner)))
      · have hbefore : k ∈ start :: seen := by simpa [hsame] using hk
        rcases hs.closed k hbefore inner hinner with h | h
        · exact .inl (List.mem_cons_of_mem _ h)
        · rcases List.mem_cons.mp (htake.mem_iff.mp h) with rfl | h
          · exact .inl List.mem_cons_self
          · exact .inr (hafter.mem_iff.mpr (List.mem_append_right _ h))
    · simpa [Ne.symm hne] using hs.fresh

/-- It is known in every state of the search. -/
theorem exact_of_runs {s : Search} (h : ReflTransGen (Step g start) (opening g start) s) :
    Exact g start s := by
  induction h with
  | refl => exact exact_opening g start
  | tail _ hstep ih => exact ih.step hstep

/-- If nothing is left to look at, then everything that the record holds is done with. -/
theorem Exact.mem_seen {s : Search} (hs : Exact g start s) (hempty : s.stack = []) {key : String}
    (h : TransGen g.HoldsByValue start key) : key ∈ s.seen := by
  have hinside : ∀ k ∈ start :: s.seen, ∀ inner, g.HoldsByValue k inner → inner ∈ s.seen :=
    fun k hk inner hinner => (hs.closed k hk inner hinner).resolve_right (by simp [hempty])
  induction h with
  | single h => exact hinside _ List.mem_cons_self _ h
  | tail _ h ih => exact hinside _ (List.mem_cons_of_mem _ ih) _ h

/-- In whatever order the search goes, its result says whether the record contains itself. -/
theorem Ends.eq_true_iff {found : Bool} (h : Ends g start (opening g start) found) :
    found = true ↔ TransGen g.HoldsByValue start start := by
  obtain ⟨t, hruns, hend⟩ := h
  have ht := exact_of_runs hruns
  cases found with
  | true => exact ⟨fun _ => ht.reached start hend, fun _ => rfl⟩
  | false =>
    refine ⟨nofun, fun hcycle => ?_⟩
    exact absurd (ht.mem_seen hend hcycle) ht.fresh

end Search

/-- The search for a record ends by itself. -/
theorem ends_isCyclic (g : TypeGraph) (start : String) :
    Search.Ends g start (.opening g start) (isCyclic g start) :=
  Search.ends_reaches (Nat.lt_succ_of_le (Search.weight_opening_le g start))

/-- A record is found if and only if it contains itself. -/
theorem isCyclic_iff (g : TypeGraph) (key : String) :
    isCyclic g key = true ↔ TransGen g.HoldsByValue key key :=
  (ends_isCyclic g key).eq_true_iff

/-- Every search for a record that contains itself ends by itself, after at most as many rounds as
there are properties, in whatever order it goes; and the findings are about those records, each of
them once and in the order of the graph, that come back to themselves through properties that are
objects of records of the graph. -/
theorem cycleFindings_exact (g : TypeGraph) :
    (∀ key, Search.Ends g key (.opening g key) (isCyclic g key) ∧
      ∀ run, List.IsChain (Search.Step g key) (.opening g key :: run) →
        run.length ≤ g.propertyCount) ∧
    ∃ cyclic : List String,
      cycleFindings g = cyclic.map (fun key =>
        "Record " ++ key ++ " contains itself by value - C# rejects struct layout cycles") ∧
      cyclic.Sublist g.keys ∧ cyclic.Nodup ∧
      ∀ key, key ∈ cyclic ↔ TransGen g.HoldsByValue key key := by
  refine ⟨fun key => ⟨ends_isCyclic g key, fun run hrun => ?_⟩,
    g.keys.filter (isCyclic g), rfl, List.filter_sublist, g.keys_nodup.filter _, fun key => ?_⟩
  · exact (Search.length_le_weight hrun).trans (Search.weight_opening_le g key)
  · rw [List.mem_filter, isCyclic_iff]
    refine ⟨And.right, fun h => ⟨?_, h⟩⟩
    -- a record that is held is in the graph
    obtain ⟨_, -, _, -, -, _, -, -, -, hkey⟩ := TransGen.tail'_iff.mp h
    exact hkey

/-- Two records that hold each other, one that holds them, and one with a list of itself. -/
def rings : TypeGraph where
  records :=
    [{ key := "Outside", suggestedName := .null,
       properties := [⟨"inner", .object "Left", false, .null⟩] },
      { key := "Left", suggestedName := .null,
        properties := [⟨"right", (TypeRef.object "Right").withNullable, true, .null⟩] },
      { key := "Right", suggestedName := .null,
        properties := [⟨"left", .object "Left", false, .null⟩] },
      { key := "Tree", suggestedName := .null,
        properties := [⟨"children", .array (.object "Tree"), false, .null⟩] }]
  keys_nodup := by decide

example : rings.keys.filter (isCyclic rings) = ["Left", "Right"] := by decide

end CSharp

end SchemaStruct
