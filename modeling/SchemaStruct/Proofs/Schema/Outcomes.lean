import SchemaStruct.Proofs.Schema.Stops

/-!
# Outcomes of a Walk

A walk goes as deep as the schemas that it meets, and its fuel is a bound on that depth. Once it has
not run out, more fuel changes nothing: the walk comes to one outcome at all depths from there on. A
walk that runs out at every depth has no end, and this is its outcome. So each call comes to just
one outcome, and two calls can be compared without saying how deep either of them goes.

## Main definitions

* `Call.outcome`: what comes out of a call, the notices apart;
* `Convert.ComesTo`: the outcome of a call at all sufficient depths.

## Main results

* `Convert.stops_of_mem_calls`: a step stops where one of its calls does;
* `Convert.outcome_of_le`: more fuel changes nothing once the walk has not run out;
* `Convert.exists_comesTo` and `Convert.ComesTo.unique`: a call comes to just one outcome.
-/

namespace SchemaStruct

/-- What has been collected, without the notices. -/
def Builder.silent (b : Builder) : Builder := { b with log := [] }

namespace Build

/-- What comes out of a step: the type and what has been collected, or a fault. -/
abbrev Outcome := Except Fault (TypeRef × Builder)

namespace Outcome

/-- What comes out if no value is allowed too. -/
def nullable (o : Outcome) : Outcome := o.map fun (t, b) => (t.withNullable, b)

end Outcome

/-- What comes out of a step, the notices apart. -/
def outcome (m : Build TypeRef) (b : Builder) : Outcome :=
  match m.run.run b with
  | (.ok t, after) => .ok (t, after.silent)
  | (.error f, _) => .error f

variable {m : Build TypeRef} {b after : Builder} {t : TypeRef} {f : Fault}

/-- What comes out of a step that returns. -/
theorem outcome_of_returns (h : Returns m b t after) : m.outcome b = .ok (t, after.silent) := by
  rw [outcome, show m.run.run b = (.ok t, after) from h]

/-- A fault comes out of a step just if the step stops with it. -/
theorem outcome_eq_error_iff : m.outcome b = .error f ↔ Stops m b f := by
  rw [outcome]
  constructor
  · intro h
    rcases hrun : m.run.run b with ⟨r, after⟩
    rw [hrun] at h
    cases r with
    | ok t => cases h
    | error g =>
      obtain rfl : g = f := Except.error.inj h
      exact ⟨after, hrun⟩
  · rintro ⟨after, h⟩
    rw [show m.run.run b = (.error f, after) from h]

/-- What comes out of a step whose type is made to allow no value. -/
theorem outcome_withNullable (m : Build TypeRef) (b : Builder) :
    outcome (do return (← m).withNullableIf true) b = (m.outcome b).nullable := by
  rw [outcome, outcome, run_bind]
  rcases m.run.run b with ⟨r, after⟩
  cases r <;> rfl

end Build

/-- What comes out of a call that `w` makes, the notices apart. -/
def Call.outcome (c : Call) (w : Walk) : Build.Outcome := (w c.site c.node).outcome c.before

namespace Convert

variable {d : Document} {w w' : Walk} {c c' : Call} {f : Fault} {o o' : Build.Outcome} {n m : Nat}

/-- What comes out of a call depends on the run of the call. -/
theorem outcome_congr (h : c.run w = c.run w') : c.outcome w = c.outcome w' := by
  have hrun : (w c.site c.node).run.run c.before = (w' c.site c.node).run.run c.before := h
  rw [Call.outcome, Call.outcome, Build.outcome, Build.outcome, hrun]

/-- A step stops where one of its calls does, whatever has been collected. -/
theorem stops_of_mem_calls (hc : c' ∈ calls d w c) (h : CallStops w f c') :
    CallStops (step d w) f c := by
  obtain ⟨notices, hstep⟩ := exists_step_eq d c.site c.node
  rw [calls, ← Form.toOption_read d.root c.site.hintText] at hc
  rw [CallStops, hstep]
  cases hread : Form.read d.root c.site.hintText c.node with
  | error g => simp [hread, Except.toOption] at hc
  | ok form =>
    simp only [hread, Except.toOption] at hc
    rw [performForm_ok, stops_bind_iff]
    refine .inl ?_
    -- all shapes but records and references make one call, if any
    cases hshape : form.shape with
    | record node =>
      rw [hshape] at hc
      obtain ⟨key, opened, hopen, required, hrequired, entries, hlisted, hcall⟩ :=
        exists_recordCalls_iff.mp ⟨c', hc, h⟩
      have hrecord : Stops (record d w c.site node) c.before f :=
        stops_record_iff_openRecord.mpr (.inr
          ⟨key, opened, hopen, .inr ⟨required, hrequired, .inr ⟨entries, hlisted, .inr hcall⟩⟩⟩)
      exact stops_bind_iff.mpr (.inl hrecord)
    | reference r =>
      rw [hshape] at hc
      exact stops_reference_iff.mpr (.inr ⟨c', hc, h⟩)
    | list items => cases items <;> simp_all [shapeCalls, perform, CallStops]
    | map values => cases values <;> simp_all [shapeCalls, perform, CallStops]
    | scalar kind => simp [hshape, shapeCalls] at hc
    | alternative one => simp_all [shapeCalls, perform, CallStops]

/-- One unit of fuel more changes nothing if the walk has not run out. -/
theorem run_succ_of_not_stops (h : ¬ CallStops (walk d n) .endless c) :
    c.run (walk d (n + 1)) = c.run (walk d n) := by
  induction n generalizing c with
  | zero => exact (h ⟨c.before, rfl⟩).elim
  | succ n ih =>
    -- no call inside has run out either, since it would have stopped the step
    have hagree : AgreeOn (walk d n) (walk d (n + 1)) (calls d (walk d n) c) :=
      fun c' hc' => (ih fun hstops => h (stops_of_mem_calls hc' hstops)).symm
    exact (step_congr hagree).symm

/-- More fuel changes nothing once the walk has not run out. -/
theorem outcome_of_le (h : c.outcome (walk d n) ≠ .error .endless) (hle : n ≤ m) :
    c.outcome (walk d m) = c.outcome (walk d n) := by
  induction m, hle using Nat.le_induction with
  | base => rfl
  | succ m _ ih =>
    have hstops : ¬ CallStops (walk d m) .endless c := by
      intro hstops
      exact h (ih ▸ Build.outcome_eq_error_iff.mpr hstops)
    rw [outcome_congr (run_succ_of_not_stops hstops), ih]

/-- The outcome of a call at all depths from some depth on. -/
def ComesTo (d : Document) (c : Call) (o : Build.Outcome) : Prop :=
  ∃ depth, ∀ n ≥ depth, c.outcome (walk d n) = o

/-- A call comes to what comes out of it at some depth, unless it runs out of fuel there. -/
theorem comesTo_of_outcome (h : c.outcome (walk d n) = o) (ho : o ≠ .error .endless) :
    ComesTo d c o :=
  ⟨n, fun _ hm => (outcome_of_le (h ▸ ho) hm).trans h⟩

/-- Every call comes to some outcome. -/
theorem exists_comesTo (d : Document) (c : Call) : ∃ o, ComesTo d c o := by
  by_cases hends : ∃ n, c.outcome (walk d n) ≠ .error .endless
  · obtain ⟨n, h⟩ := hends
    exact ⟨_, comesTo_of_outcome rfl h⟩
  · -- the walk runs out of fuel at every depth
    exact ⟨.error .endless, 0, fun n _ => not_not.mp fun h => hends ⟨n, h⟩⟩

/-- A call comes to one outcome only. -/
theorem ComesTo.unique (h : ComesTo d c o) (h' : ComesTo d c o') : o = o' := by
  obtain ⟨depth, hdepth⟩ := h
  obtain ⟨depth', hdepth'⟩ := h'
  exact (hdepth _ (Nat.le_max_left depth depth')).symm.trans
    (hdepth' _ (Nat.le_max_right depth depth'))

/-- What a call comes to is found out by steps. -/
theorem comesTo_of_step (h : ∀ n, (step d (walk d n) c.site c.node).outcome c.before = o) :
    ComesTo d c o := by
  refine ⟨1, fun n hn => ?_⟩
  obtain ⟨n, rfl⟩ := Nat.exists_eq_add_of_le' hn
  exact h n

end Convert

end SchemaStruct
