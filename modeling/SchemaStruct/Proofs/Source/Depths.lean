import SchemaStruct.Proofs.Source.Printed

/-!
# Depths of Pages

The depth of a page is a counter that every indented part moves. `Balanced m` says that the step `m`
leaves the counter where it was, whether it returns or ends in a fault. All that is printed is
balanced, so a fault at any depth cannot leave the counter displaced.

An indented part can be thought of in two ways: the depth is set back to what it was
(`Emit.indented`), or it is counted up before and down afterwards (`Emit.counted`). For balanced
bodies these are the same.

## Main definitions

* `Balanced`: a step that leaves the depth of the page as it was;
* `Emit.counted`: a step one level deeper, by counting;
* `Command.runAllCounted`: a layout program that counts.

## Main results

* `Balanced.bind`: one step behind another one;
* `Printed.balanced`: all that is printed;
* `Balanced.indented_eq_counted` and `Command.runAllCounted_eq_runAll`: setting the depth back is
  counting.
-/

namespace SchemaStruct

variable {α β : Type}

namespace Emit

/-- Writes one level deeper: the depth is counted up before, and down afterwards, also after a
fault. -/
def counted (body : Emit α) : Emit α := do
  modify fun p => { p with depth := p.depth + 1 }
  try body finally modify fun p => { p with depth := p.depth - 1 }

/-- What comes last is done on the page that the body leaves, and then the body's result is given
again. -/
theorem run_tryFinally (body : Emit α) (g : Page → Page) (p : Page) :
    (tryFinally body (modify g : Emit Unit)).run.run p =
      ((body.run.run p).1, g (body.run.run p).2) := by
  unfold ExceptT.run StateT.run
  simp only [tryFinally, tryFinally', Functor.map, ExceptT.map, ExceptT.mk, bind, StateT.bind]
  -- a value and a fault of the body go different ways through what comes last
  rcases body p with ⟨_ | _, q⟩ <;> rfl

/-- What counting does, whether the body returns or not. -/
theorem run_counted (body : Emit α) (p : Page) :
    (counted body).run.run p =
      let (result, after) := body.run.run { p with depth := p.depth + 1 }
      (result, { after with depth := after.depth - 1 }) :=
  run_tryFinally body (fun p => { p with depth := p.depth - 1 }) { p with depth := p.depth + 1 }

end Emit

/-- The step `m` leaves the depth of any page as it was, whether it returns or not. -/
def Balanced (m : Emit α) : Prop := ∀ p : Page, (m.run.run p).2.depth = p.depth

namespace Balanced

variable {m : Emit α}

/-- One step behind another one, which gives some values only. -/
theorem bind {k : α → Emit β} (hm : Balanced m)
    (hk : ∀ p a q, Returns m p a q → Balanced (k a)) : Balanced (m >>= k) := by
  intro p
  have hdepth := hm p
  rw [run_bind]
  rcases hrun : m.run.run p with ⟨r, q⟩
  rw [hrun] at hdepth
  cases r with
  | error f => exact hdepth
  | ok a => exact (hk p a q hrun q).trans hdepth

/-- What is written one level deeper, whatever it does to the depth itself. -/
theorem indented (body : Emit α) : Balanced (Emit.indented body) := fun _ => rfl

/-- Counting up and down again takes a balanced body back to where it began. -/
theorem indented_eq_counted (h : Balanced m) : Emit.indented m = Emit.counted m := by
  funext p
  have hdepth := h { p with depth := p.depth + 1 }
  have hcounted := Emit.run_counted m p
  rcases hrun : m.run.run { p with depth := p.depth + 1 } with ⟨r, q⟩
  rw [hrun] at hdepth hcounted
  have hindented : (Emit.indented m).run.run p = (r, { q with depth := p.depth }) := by
    show ((m.run.run { p with depth := p.depth + 1 }).1,
      { (m.run.run { p with depth := p.depth + 1 }).2 with depth := p.depth }) = _
    rw [hrun]
  -- the body leaves the depth one higher than it was, so one down is what was there before
  have hback : q.depth - 1 = p.depth := by rw [hdepth, Nat.add_sub_cancel]
  calc (Emit.indented m).run.run p = (r, { q with depth := p.depth }) := hindented
    _ = (r, { q with depth := q.depth - 1 }) := by rw [hback]
    _ = (Emit.counted m).run.run p := hcounted.symm

end Balanced

/-- All that is printed leaves the depth as it was. Indented parts do so by themselves, whatever is
in them. -/
theorem Printed.balanced {pr : Printer} {P : List Fragment → Prop} {m : Emit α} {Q : α → Prop}
    (h : Printed pr P m Q) : Balanced m := by
  induction h with
  | pure _ | throw _ | need _ => exact fun _ => rfl
  | @line parts _ =>
    intro p
    unfold Printer.line
    cases Fragment.serializeAll pr.names parts <;> rfl
  | separate =>
    intro p
    rw [Printer.run_separate]
    split <;> rfl
  | indented _ _ => exact .indented _
  | bind hprinted _ hm hk => exact hm.bind fun p a q ha => hk a (hprinted.value ha)

namespace Command

mutual

/-- Carries out a command with a counter for the depth, which is moved at both ends of every
indented part. -/
def runCounted (pr : Printer) : Command → Emit Unit
  | indent body => Emit.counted (runAllCounted pr body)
  | block body opening closing => do
    pr.line [opening]
    Emit.counted (runAllCounted pr body)
    pr.line [closing]
  | c => run pr c

/-- Carries out some commands with a counter for the depth. -/
def runAllCounted (pr : Printer) : List Command → Emit Unit
  | [] => pure ()
  | c :: cs => do
    runCounted pr c
    runAllCounted pr cs

end

mutual

/-- Counting the depth is as good as setting it back, at every depth of a command. -/
theorem runCounted_eq_run (pr : Printer) : (c : Command) → runCounted pr c = run pr c
  | indent body => by
    rw [runCounted, runAllCounted_eq_runAll pr body, run,
      (printed_runAll pr body).balanced.indented_eq_counted]
  | block body opening closing => by
    rw [runCounted, runAllCounted_eq_runAll pr body, run, Printer.block,
      (printed_runAll pr body).balanced.indented_eq_counted]
  | line _ | comment _ _ _ _ | description _ | separate | records _ => rfl

/-- The same for some commands. -/
theorem runAllCounted_eq_runAll (pr : Printer) :
    (program : List Command) → runAllCounted pr program = runAll pr program
  | [] => rfl
  | c :: cs => by
    rw [runAllCounted, runCounted_eq_run pr c, runAllCounted_eq_runAll pr cs, runAll]

end

end Command

end SchemaStruct
