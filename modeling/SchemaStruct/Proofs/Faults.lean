import SchemaStruct.Proofs.Returns

/-!
# Steps That Fail

A step that gives no value ends in a fault. `Throws m s f t` says that the step `m`, begun in the
state `s`, ends in the fault `f` and the state `t`. The first fault on the way is the one that a
program ends in, so the faults of a program are those of the steps that it is made of.

## Main definitions

* `Throws` and `Stops`: a step ends in a fault, in some state or whatever the state;
* `FailsBy`: all faults that a step ends in are of one sort.

## Main results

* `throws_bind_iff` and `stops_bind_iff`: one step behind another;
* `stops_build_bind_iff`: a step behind a result that depends on nothing collected;
* `error_of_bind`, `error_of_mapM` and `error_of_foldlM`: the same for results that depend on no
  state.
-/

namespace SchemaStruct

section

variable {α β : Type} {f : Fault}

/-- The result behind another one that is there. -/
theorem ok_of_bind {r : Except Fault α} {k : α → Except Fault β} {b : β}
    (h : r >>= k = .ok b) : ∃ a, r = .ok a ∧ k a = .ok b := by
  cases r with
  | error f => cases h
  | ok a => exact ⟨a, rfl, h⟩

/-- A result that is there is the one that is kept of it. -/
theorem ok_of_toOption {r : Except Fault α} {a : α} (h : r.toOption = some a) : r = .ok a := by
  cases r with
  | error f => cases h
  | ok b => exact congrArg Except.ok (Option.some.inj h)

/-- A result that is made of another one fails where the other one does, or behind it. -/
theorem error_of_bind {r : Except Fault α} {k : α → Except Fault β} (h : r >>= k = .error f) :
    r = .error f ∨ ∃ a, r = .ok a ∧ k a = .error f := by
  cases r with
  | error e => exact .inl (congrArg Except.error (Except.error.inj h))
  | ok a => exact .inr ⟨a, rfl, h⟩

/-- Something made of the value of a result. -/
theorem error_of_map {r : Except Fault α} {g : α → β} (h : g <$> r = .error f) :
    r = .error f := by
  cases r with
  | error e => exact congrArg Except.error (Except.error.inj h)
  | ok a => cases h

/-- A result for each item of a list fails at one of the items. -/
theorem error_of_mapM {k : α → Except Fault β} {xs : List α} (h : xs.mapM k = .error f) :
    ∃ x ∈ xs, k x = .error f := by
  induction xs with
  | nil => cases h
  | cons x xs ih =>
    rw [List.mapM_cons] at h
    rcases error_of_bind h with hx | ⟨b, -, h⟩
    · exact ⟨x, List.mem_cons_self, hx⟩
    · rcases error_of_bind h with hxs | ⟨bs, -, h⟩
      · obtain ⟨y, hy, hfault⟩ := ih hxs
        exact ⟨y, List.mem_cons_of_mem x hy, hfault⟩
      · cases h

/-- A result for each item of a list is there if it is there at all items. -/
theorem exists_mapM {k : α → Except Fault β} {xs : List α} (h : ∀ x ∈ xs, ∃ b, k x = .ok b) :
    ∃ bs, xs.mapM k = .ok bs := by
  cases hxs : xs.mapM k with
  | ok bs => exact ⟨bs, rfl⟩
  | error f =>
    obtain ⟨x, hx, hfault⟩ := error_of_mapM hxs
    obtain ⟨b, hb⟩ := h x hx
    rw [hb] at hfault
    cases hfault

/-- The results for the items of a list, where each of them is known. -/
theorem mapM_eq_ok {k : α → Except Fault β} {g : α → β} {xs : List α}
    (h : ∀ x ∈ xs, k x = .ok (g x)) : xs.mapM k = .ok (xs.map g) := by
  induction xs with
  | nil => rfl
  | cons x xs ih =>
    obtain ⟨hx, hxs⟩ := List.forall_mem_cons.mp h
    rw [List.mapM_cons, hx, ih hxs]
    rfl

/-- A check of each item of a list fails at one of the items. -/
theorem error_of_forM {k : α → Except Fault Unit} {xs : List α} (h : xs.forM k = .error f) :
    ∃ x ∈ xs, k x = .error f := by
  induction xs with
  | nil => cases h
  | cons x xs ih =>
    rcases error_of_bind (h : (k x >>= fun _ => xs.forM k) = .error f) with hx | ⟨_, -, hxs⟩
    · exact ⟨x, List.mem_cons_self, hx⟩
    · obtain ⟨y, hy, hfault⟩ := ih hxs
      exact ⟨y, List.mem_cons_of_mem x hy, hfault⟩

/-- A check of each item of a list succeeds if it does so at all items. -/
theorem forM_eq_ok_iff {k : α → Except Fault Unit} {xs : List α} :
    xs.forM k = .ok () ↔ ∀ x ∈ xs, k x = .ok () := by
  induction xs with
  | nil => exact ⟨fun _ => by simp, fun _ => rfl⟩
  | cons x xs ih =>
    rw [List.forall_mem_cons, ← ih]
    constructor
    · intro h
      obtain ⟨_, hx, hxs⟩ := ok_of_bind (h : (k x >>= fun _ => xs.forM k) = .ok ())
      exact ⟨hx, hxs⟩
    · rintro ⟨hx, hxs⟩
      show (k x >>= fun _ => xs.forM k) = .ok ()
      rw [hx]
      exact hxs

/-- Going through a list with something that grows keeps what every step keeps. -/
theorem of_foldlM_ok {P : β → Prop} {k : β → α → Except Fault β} {xs : List α}
    {b b' : β} (h : xs.foldlM k b = .ok b') (hb : P b)
    (hstep : ∀ acc, ∀ x ∈ xs, ∀ acc', P acc → k acc x = .ok acc' → P acc') : P b' := by
  induction xs generalizing b with
  | nil =>
    obtain rfl := Except.ok.inj h
    exact hb
  | cons x xs ih =>
    rw [List.foldlM_cons] at h
    obtain ⟨acc, hx, h⟩ := ok_of_bind h
    have hacc := hstep b x List.mem_cons_self acc hb hx
    exact ih h hacc fun acc y hy => hstep acc y (List.mem_cons_of_mem x hy)

/-- Going through a list with something that grows succeeds at every item. -/
theorem ok_of_foldlM {k : β → α → Except Fault β} {xs : List α} {b b' : β}
    (h : xs.foldlM k b = .ok b') : ∀ x ∈ xs, ∃ acc acc', k acc x = .ok acc' := by
  induction xs generalizing b with
  | nil => simp
  | cons x xs ih =>
    rw [List.foldlM_cons] at h
    obtain ⟨acc, hx, h⟩ := ok_of_bind h
    exact List.forall_mem_cons.mpr ⟨⟨b, acc, hx⟩, ih h⟩

/-- Going through a list with something that grows fails at one of the items. -/
theorem error_of_foldlM {k : β → α → Except Fault β} {xs : List α} {b : β}
    (h : xs.foldlM k b = .error f) : ∃ x ∈ xs, ∃ acc, k acc x = .error f := by
  induction xs generalizing b with
  | nil => cases h
  | cons x xs ih =>
    rw [List.foldlM_cons] at h
    rcases error_of_bind h with hx | ⟨acc, -, hxs⟩
    · exact ⟨x, List.mem_cons_self, b, hx⟩
    · obtain ⟨y, hy, hfault⟩ := ih hxs
      exact ⟨y, List.mem_cons_of_mem x hy, hfault⟩

end

variable {σ α β : Type} {s t : σ} {f : Fault}

/-- The step `m`, begun in the state `s`, ends in the fault `f` and the state `t`. -/
def Throws (m : ExceptT Fault (StateM σ) α) (s : σ) (f : Fault) (t : σ) : Prop :=
  m.run.run s = (.error f, t)

/-- A value by itself is no fault. -/
@[simp]
theorem not_throws_pure {a : α} : ¬ Throws (pure a : ExceptT Fault (StateM σ) α) s f t := by
  intro h
  have : (Except.ok (ε := Fault) a, s) = (Except.error f, t) := h
  simp at this

/-- A fault by itself is thrown in any state. -/
@[simp]
theorem throws_throw_iff {f' : Fault} :
    Throws (throw f' : ExceptT Fault (StateM σ) α) s f t ↔ f = f' ∧ t = s := by
  constructor
  · intro h
    have : (Except.error (α := α) f', s) = (Except.error f, t) := h
    simp_all
  · rintro ⟨rfl, rfl⟩
    rfl

/-- A step behind another one fails where the other one does, or by itself behind it. -/
@[simp]
theorem throws_bind_iff {m : ExceptT Fault (StateM σ) α} {k : α → ExceptT Fault (StateM σ) β} :
    Throws (m >>= k) s f t ↔ Throws m s f t ∨ ∃ a u, Returns m s a u ∧ Throws (k a) u f t := by
  rw [Throws, run_bind]
  constructor
  · intro h
    rcases hm : m.run.run s with ⟨r, u⟩
    rw [hm] at h
    cases r with
    | error e =>
      have heq : (Except.error (α := β) e, u) = (.error f, t) := h
      obtain ⟨rfl, rfl⟩ : e = f ∧ u = t := by simpa using heq
      exact .inl hm
    | ok a => exact .inr ⟨a, u, hm, h⟩
  · rintro (h | ⟨a, u, hm, hk⟩)
    · rw [show m.run.run s = (.error f, t) from h]
    · rw [show m.run.run s = (.ok a, u) from hm]
      exact hk

/-- Reading the state cannot fail. -/
@[simp]
theorem not_throws_get : ¬ Throws (get : ExceptT Fault (StateM σ) σ) s f t := by
  intro h
  have : (Except.ok (ε := Fault) s, s) = (Except.error f, t) := h
  simp at this

/-- Changing the state cannot fail. -/
@[simp]
theorem not_throws_modify {g : σ → σ} :
    ¬ Throws (modify g : ExceptT Fault (StateM σ) PUnit) s f t := by
  intro h
  have : (Except.ok (ε := Fault) PUnit.unit, g s) = (Except.error f, t) := h
  simp at this

/-- A result of writing that depends on nothing written. -/
@[simp]
theorem throws_emit_iff {p q : Page} {r : Except Fault α} :
    Throws (Emit.ofExcept r) p f q ↔ r = .error f ∧ q = p := by
  cases r with
  | error e => simp [Emit.ofExcept, eq_comm]
  | ok a => simp [Emit.ofExcept]

/-- What fails one level deeper fails on a page one level deeper, and then the depth is put back. -/
theorem throws_indented_iff {p q : Page} {body : Emit α} :
    Throws (Emit.indented body) p f q ↔
      ∃ u, Throws body { p with depth := p.depth + 1 } f u ∧ q = { u with depth := p.depth } := by
  rw [Throws, show (Emit.indented body).run.run p =
    ((body.run.run { p with depth := p.depth + 1 }).1,
      { (body.run.run { p with depth := p.depth + 1 }).2 with depth := p.depth }) from rfl]
  constructor
  · intro h
    obtain ⟨hresult, rfl⟩ := Prod.mk.inj h
    exact ⟨_, Prod.ext hresult rfl, rfl⟩
  · rintro ⟨u, hbody, rfl⟩
    rw [show body.run.run { p with depth := p.depth + 1 } = (.error f, u) from hbody]

/-- A result of collecting that depends on nothing collected. -/
@[simp]
theorem throws_build_iff {b c : Builder} {r : Except Fault α} :
    Throws (Build.ofExcept r) b f c ↔ r = .error f ∧ c = b := by
  cases r with
  | error e => simp [Build.ofExcept, eq_comm]
  | ok a => simp [Build.ofExcept]

/-- A step gives a value or ends in a fault. -/
theorem returns_or_throws (m : ExceptT Fault (StateM σ) α) (s : σ) :
    (∃ a t, Returns m s a t) ∨ ∃ f t, Throws m s f t := by
  rcases hm : m.run.run s with ⟨r, t⟩
  cases r with
  | error f => exact .inr ⟨f, t, hm⟩
  | ok a => exact .inl ⟨a, t, hm⟩

/-- The step `m`, begun in the state `s`, ends in the fault `f`. -/
def Stops (m : ExceptT Fault (StateM σ) α) (s : σ) (f : Fault) : Prop := ∃ t, Throws m s f t

@[simp]
theorem not_stops_pure {a : α} : ¬ Stops (pure a : ExceptT Fault (StateM σ) α) s f := by
  simp [Stops]

@[simp]
theorem stops_throw_iff {g : Fault} :
    Stops (throw g : ExceptT Fault (StateM σ) α) s f ↔ f = g := by
  simp [Stops]

@[simp]
theorem not_stops_get : ¬ Stops (get : ExceptT Fault (StateM σ) σ) s f := by
  simp [Stops]

@[simp]
theorem not_stops_modify {g : σ → σ} :
    ¬ Stops (modify g : ExceptT Fault (StateM σ) PUnit) s f := by
  simp [Stops]

/-- A step that fails gives no value. -/
theorem Throws.not_returns {m : ExceptT Fault (StateM σ) α} {a : α} {t u : σ}
    (h : Throws m s f t) : ¬ Returns m s a u := by
  intro hreturns
  have heq : (Except.error f, t) = (Except.ok a, u) := h.symm.trans hreturns
  simp at heq

/-- A step that gives a value does not stop. -/
theorem Returns.not_stops {m : ExceptT Fault (StateM σ) α} {a : α} {t : σ}
    (h : Returns m s a t) : ¬ Stops m s f :=
  fun ⟨_, hthrows⟩ => hthrows.not_returns h

/-- A step gives one value. -/
theorem Returns.iff_eq {m : ExceptT Fault (StateM σ) α} {a a' : α} {t t' : σ}
    (h : Returns m s a t) : Returns m s a' t' ↔ a' = a ∧ t' = t := by
  constructor
  · intro h'
    have heq : (Except.ok (ε := Fault) a', t') = (Except.ok a, t) := h'.symm.trans h
    simpa using heq
  · rintro ⟨rfl, rfl⟩
    exact h

/-- A step behind another one stops where the other one does, or by itself behind it. -/
@[simp]
theorem stops_bind_iff {m : ExceptT Fault (StateM σ) α} {k : α → ExceptT Fault (StateM σ) β} :
    Stops (m >>= k) s f ↔ Stops m s f ∨ ∃ a u, Returns m s a u ∧ Stops (k a) u f := by
  simp only [Stops, throws_bind_iff]
  constructor
  · rintro ⟨t, h | ⟨a, u, hm, hk⟩⟩
    · exact .inl ⟨t, h⟩
    · exact .inr ⟨a, u, hm, t, hk⟩
  · rintro (⟨t, h⟩ | ⟨a, u, hm, t, hk⟩)
    · exact ⟨t, .inl h⟩
    · exact ⟨t, .inr ⟨a, u, hm, hk⟩⟩

/-- Something made of the value of a step. -/
@[simp]
theorem stops_map_iff {m : ExceptT Fault (StateM σ) α} {g : α → β} :
    Stops (g <$> m) s f ↔ Stops m s f := by
  rw [← bind_pure_comp, stops_bind_iff]
  simp

/-- A result that depends on nothing collected stops a step if it is a fault. -/
@[simp]
theorem stops_build_iff {b : Builder} {r : Except Fault α} :
    Stops (Build.ofExcept r) b f ↔ r = .error f := by
  simp [Stops]

/-- A step behind such a result. -/
theorem stops_build_bind_iff {b : Builder} {r : Except Fault α} {k : α → Build β} :
    Stops (Build.ofExcept r >>= k) b f ↔ r = .error f ∨ ∃ a, r = .ok a ∧ Stops (k a) b f := by
  simp only [stops_bind_iff, stops_build_iff, returns_build_iff]
  refine or_congr_right ?_
  constructor
  · rintro ⟨a, u, ⟨hr, rfl⟩, hk⟩
    exact ⟨a, hr, hk⟩
  · rintro ⟨a, hr, hk⟩
    exact ⟨a, b, ⟨hr, rfl⟩, hk⟩

/-- Reporting a notice stops nothing. -/
@[simp]
theorem not_stops_note {b : Builder} {n : Notice} : ¬ Stops (Build.note n) b f :=
  not_stops_modify

/-- Whether all faults that the step `m`, begun in the state `s`, can end in are of the sort
`sort`. -/
def FailsBy (sort : Fault → Prop) (m : ExceptT Fault (StateM σ) α) (s : σ) : Prop :=
  ∀ f t, Throws m s f t → sort f

namespace FailsBy

variable {sort : Fault → Prop}

/-- A value by itself is no fault. -/
theorem pure (a : α) (s : σ) : FailsBy sort (pure a : ExceptT Fault (StateM σ) α) s :=
  fun _ _ h => absurd h not_throws_pure

/-- A fault of the sort may be thrown. -/
theorem throw (h : sort f) (s : σ) : FailsBy sort (throw f : ExceptT Fault (StateM σ) α) s :=
  fun _ _ hf => (throws_throw_iff.mp hf).1 ▸ h

/-- A step without faults gives a value. -/
theorem exists_returns {m : ExceptT Fault (StateM σ) α} (h : FailsBy (fun _ => False) m s) :
    ∃ a t, Returns m s a t := by
  refine (returns_or_throws m s).resolve_right ?_
  rintro ⟨f, t, hthrows⟩
  exact h f t hthrows

end FailsBy

end SchemaStruct
