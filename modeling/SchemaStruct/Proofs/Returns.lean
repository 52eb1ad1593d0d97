import SchemaStruct.Schema.Convert
import SchemaStruct.Source.Page

/-!
# Steps That Return

Writing a page and collecting a graph are steps of one kind: they read and change a state, and may
fail. `Returns m s a t` says that the step `m`, begun in the state `s`, gives the value `a` and ends
in the state `t`. The rules below take a step apart into the steps that it is made of, so that later
proofs never open the two effects.

## Main results

* `returns_bind_iff`: one step behind another;
* `returns_mapM_nil_iff` and `returns_mapM_cons_iff`: a step for each item of a list;
* `returns_emit_iff` and `returns_build_iff`: results that depend on no state;
* `returns_indented_iff`: a step one level deeper.
-/

namespace SchemaStruct

variable {σ α β : Type} {s t : σ} {a : α} {b : β}

/-- The step `m`, begun in the state `s`, gives the value `a` and ends in the state `t`. -/
def Returns (m : ExceptT Fault (StateM σ) α) (s : σ) (a : α) (t : σ) : Prop :=
  m.run.run s = (.ok a, t)

/-- A value by itself is given in any state. -/
@[simp]
theorem returns_pure_iff {a' : α} :
    Returns (pure a' : ExceptT Fault (StateM σ) α) s a t ↔ a = a' ∧ t = s := by
  constructor
  · intro h
    have : (Except.ok a', s) = (Except.ok (ε := Fault) a, t) := h
    simp_all
  · rintro ⟨rfl, rfl⟩
    rfl

/-- A fault gives no value. -/
@[simp]
theorem not_returns_throw (f : Fault) :
    ¬ Returns (throw f : ExceptT Fault (StateM σ) α) s a t := by
  intro h
  have : (Except.error (α := α) f, s) = (Except.ok a, t) := h
  simp at this

/-- A step behind another one is made if the other one gives a value. -/
theorem run_bind {m : ExceptT Fault (StateM σ) α} {f : α → ExceptT Fault (StateM σ) β} :
    (m >>= f).run.run s = match m.run.run s with
      | (.ok a, u) => (f a).run.run u
      | (.error e, u) => (.error e, u) := by
  rw [ExceptT.run_bind, StateT.run_bind]
  rcases m.run.run s with ⟨r, u⟩
  cases r <;> rfl

/-- A step behind another one begins where the other one ends. -/
@[simp]
theorem returns_bind_iff {m : ExceptT Fault (StateM σ) α} {f : α → ExceptT Fault (StateM σ) β} :
    Returns (m >>= f) s b t ↔ ∃ a u, Returns m s a u ∧ Returns (f a) u b t := by
  rw [Returns, run_bind]
  constructor
  · intro h
    rcases hm : m.run.run s with ⟨r, u⟩
    rw [hm] at h
    cases r with
    | error e =>
      have : (Except.error (α := β) e, u) = (Except.ok b, t) := h
      simp at this
    | ok a => exact ⟨a, u, hm, h⟩
  · rintro ⟨a, u, hm, hf⟩
    rw [show m.run.run s = (.ok a, u) from hm]
    exact hf

/-- Reading the state changes nothing. -/
@[simp]
theorem returns_get_iff {s' : σ} :
    Returns (get : ExceptT Fault (StateM σ) σ) s s' t ↔ s' = s ∧ t = s := by
  constructor
  · intro h
    have : (Except.ok s, s) = (Except.ok (ε := Fault) s', t) := h
    simpa [eq_comm] using this
  · rintro ⟨rfl, rfl⟩
    rfl

/-- Changing the state gives nothing. -/
@[simp]
theorem returns_modify_iff {f : σ → σ} {u : PUnit} :
    Returns (modify f : ExceptT Fault (StateM σ) PUnit) s u t ↔ t = f s := by
  constructor
  · intro h
    have : (Except.ok PUnit.unit, f s) = (Except.ok (ε := Fault) u, t) := h
    simp_all
  · rintro rfl
    rfl

section

variable {m : α → ExceptT Fault (StateM σ) β} {x : α} {xs : List α}

/-- Nothing to do gives an empty list. -/
theorem returns_mapM_nil_iff {bs : List β} :
    Returns (([] : List α).mapM m) s bs t ↔ bs = [] ∧ t = s := by
  simp

/-- The items of a list are dealt with from the first one on. -/
theorem returns_mapM_cons_iff {bs : List β} :
    Returns ((x :: xs).mapM m) s bs t ↔
      ∃ b u rest, Returns (m x) s b u ∧ Returns (xs.mapM m) u rest t ∧ bs = b :: rest := by
  simp only [List.mapM_cons, returns_bind_iff, returns_pure_iff]
  constructor
  · rintro ⟨b, u, hx, rest, v, hxs, rfl, rfl⟩
    exact ⟨b, u, rest, hx, hxs, rfl⟩
  · rintro ⟨b, u, rest, hx, hxs, rfl⟩
    exact ⟨b, u, hx, rest, t, hxs, rfl, rfl⟩

end

/-- A result of writing that depends on nothing written. -/
@[simp]
theorem returns_emit_iff {p q : Page} {r : Except Fault α} :
    Returns (Emit.ofExcept r) p a q ↔ r = .ok a ∧ q = p := by
  cases r with
  | error f => simp [Emit.ofExcept]
  | ok a' => simp [Emit.ofExcept, eq_comm]

/-- What is written one level deeper is written on a page one level deeper, and then the depth is
put back. -/
theorem returns_indented_iff {p q : Page} {body : Emit α} :
    Returns (Emit.indented body) p a q ↔
      ∃ u, Returns body { p with depth := p.depth + 1 } a u ∧ q = { u with depth := p.depth } := by
  -- the depth is put back whether the body fails or not, so the run has to be opened
  rw [Returns, show (Emit.indented body).run.run p =
    ((body.run.run { p with depth := p.depth + 1 }).1,
      { (body.run.run { p with depth := p.depth + 1 }).2 with depth := p.depth }) from rfl]
  constructor
  · intro h
    obtain ⟨hresult, rfl⟩ := Prod.mk.inj h
    exact ⟨_, Prod.ext hresult rfl, rfl⟩
  · rintro ⟨u, hbody, rfl⟩
    rw [show body.run.run { p with depth := p.depth + 1 } = (.ok a, u) from hbody]

/-- A result of collecting that depends on nothing collected. -/
@[simp]
theorem returns_build_iff {p q : Builder} {r : Except Fault α} :
    Returns (Build.ofExcept r) p a q ↔ r = .ok a ∧ q = p := by
  cases r with
  | error f => simp [Build.ofExcept]
  | ok a' => simp [Build.ofExcept, eq_comm]

end SchemaStruct
