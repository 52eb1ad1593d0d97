import Mathlib.Data.List.Basic
import SchemaStruct.Proofs.Source.Pages
import SchemaStruct.Source.Command

/-!
# What Printers Are Made Of

A printer writes with a handful of steps: lines, blank lines that separate, namespaces that are
noted, faults, and parts one level deeper. `Printed pr P m Q` says that the step `m` is put together
from these and from nothing else, where the parts of its lines have the property `P` and its value
has the property `Q`; in particular it looks at the page nowhere else. What holds of the handful and
passes on to steps that are put together holds of everything that is printed, by one induction.

## Main definitions

* `Printed`: a step that a printer makes.

## Main results

* `Printed.value` and `Printed.forall_mem_lines`: the value and the lines of such a step;
* `Printed.forM` and `Printed.mapM`: a step for each item of a list;
* `Printed.block`, `Printed.comment` and `Printed.eachRecord`: what else printers write;
* `Command.printed_runAll`: all layout programs.
-/

namespace SchemaStruct

/-- A separator looks at the page once, and then is a blank line or nothing. -/
theorem Printer.run_separate (pr : Printer) (p : Page) :
    pr.separate.run.run p = (if p.wantsBlank then pr.line [] else pure ()).run.run p := by
  rw [separate, run_bind]
  rfl

/-- A step that a printer makes. The parts of its lines have the property `P`, and its value, if
there is one, has the property `Q`. -/
inductive Printed (pr : Printer) (P : List Fragment → Prop) :
    {α : Type} → Emit α → (α → Prop) → Prop
  /-- A value by itself. -/
  | pure {α : Type} {Q : α → Prop} {a : α} (h : Q a) : Printed pr P (pure a : Emit α) Q
  /-- A fault by itself. -/
  | throw {α : Type} {Q : α → Prop} (f : Fault) : Printed pr P (throw f : Emit α) Q
  /-- Noting namespaces. -/
  | need (usings : List Using) : Printed pr P (Emit.need usings) fun _ => True
  /-- A line. -/
  | line {parts : List Fragment} (h : P parts) : Printed pr P (pr.line parts) fun _ => True
  /-- A blank line, if there is one. -/
  | separate : Printed pr P pr.separate fun _ => True
  /-- What is written one level deeper. -/
  | indented {α : Type} {m : Emit α} {Q : α → Prop} :
      Printed pr P m Q → Printed pr P (Emit.indented m) Q
  /-- One step behind another one. -/
  | bind {α β : Type} {m : Emit α} {k : α → Emit β} {Q : α → Prop} {R : β → Prop} :
      Printed pr P m Q → (∀ a, Q a → Printed pr P (k a) R) → Printed pr P (m >>= k) R

namespace Printed

variable {α β : Type} {pr : Printer} {P : List Fragment → Prop} {Q : α → Prop} {R : β → Prop}

/-- A step that is printed returns a value with the property that is said of it. -/
theorem value {m : Emit α} (h : Printed pr P m Q) {p q : Page} {a : α} (hm : Returns m p a q) :
    Q a := by
  induction h generalizing p q with
  | pure h => exact (returns_pure_iff.mp hm).1 ▸ h
  | throw f => exact absurd hm (not_returns_throw f)
  | need | line | separate => trivial
  | indented _ ih =>
    obtain ⟨u, hbody, -⟩ := returns_indented_iff.mp hm
    exact ih hbody
  | bind _ _ ihm ihk =>
    obtain ⟨b, u, hfirst, hrest⟩ := returns_bind_iff.mp hm
    exact ihk b (ihm hfirst) hrest

/-- A result that depends on nothing written. -/
theorem ofExcept {r : Except Fault α} (h : ∀ a, r = .ok a → Q a) :
    Printed pr P (Emit.ofExcept r) Q := by
  cases r with
  | error f => exact throw f
  | ok a => exact pure (h a rfl)

/-- A step for each item of a list. -/
theorem forM {m : α → Emit Unit} {xs : List α}
    (h : ∀ x ∈ xs, Printed pr P (m x) fun _ => True) : Printed pr P (xs.forM m) fun _ => True := by
  induction xs with
  | nil => exact pure trivial
  | cons x xs ih =>
    obtain ⟨hx, hxs⟩ := List.forall_mem_cons.mp h
    exact hx.bind fun _ _ => ih hxs

/-- A value for each item of a list. -/
theorem mapM {m : α → Emit β} {xs : List α} (h : ∀ x ∈ xs, Printed pr P (m x) R) :
    Printed pr P (xs.mapM m) fun bs => ∀ b ∈ bs, R b := by
  induction xs with
  | nil => exact pure (List.forall_mem_nil R)
  | cons x xs ih =>
    obtain ⟨hx, hxs⟩ := List.forall_mem_cons.mp h
    rw [List.mapM_cons]
    exact hx.bind fun b hb => (ih hxs).bind fun bs hbs =>
      pure (List.forall_mem_cons.mpr ⟨hb, hbs⟩)

/-- A block. -/
theorem block {body : Emit Unit} (h : Printed pr P body fun _ => True) {opening closing : Fragment}
    (hopening : P [opening]) (hclosing : P [closing]) :
    Printed pr P (pr.block body opening closing) fun _ => True :=
  (line hopening).bind fun _ _ => h.indented.bind fun _ _ => line hclosing

/-- A comment. -/
theorem comment {lines : List String} {start : String} {before after : Option String}
    (h : ∀ s ∈ Printer.commentTexts lines start before after, P [.text s]) :
    Printed pr P (pr.comment lines start before after) fun _ => True := by
  rw [Printer.comment_eq_forM]
  exact forM fun s hs => line (h s hs)

/-- Something for each record. -/
theorem eachRecord {body : Record → Name → Emit Unit} (blankLines : Bool)
    (h : ∀ r ∈ pr.names.graph.records,
      Printed pr P (body r (NameTable.recordName r)) fun _ => True) :
    Printed pr P (pr.eachRecord blankLines body) fun _ => True := by
  refine forM ?_
  rintro ⟨record, i⟩ hrecord
  have hbody := h record (List.fst_mem_of_mem_zipIdx hrecord)
  dsimp only
  split
  · exact separate.bind fun _ _ => hbody
  · exact hbody

/-- What empty lines and the lines with `P` have, all lines have that are printed. -/
theorem forall_mem_lines {L : String → Prop} {m : Emit α} (h : Printed pr P m Q) (hempty : L "")
    (hline : ∀ parts s depth, P parts → Fragment.serializeAll pr.names parts = .ok s → s ≠ "" →
      L (Printer.copies pr.indentUnit depth ++ s))
    (p : Page) (hp : ∀ line ∈ p.lines, L line) : ∀ line ∈ (m.run.run p).2.lines, L line := by
  have hpush {parts : List Fragment} (hparts : parts ≠ [] → P parts) (p : Page)
      (hp : ∀ line ∈ p.lines, L line) : ∀ line ∈ ((pr.line parts).run.run p).2.lines, L line := by
    unfold Printer.line
    cases hs : Fragment.serializeAll pr.names parts with
    | error f => exact hp
    | ok s =>
      show ∀ line ∈ p.lines.push (if s.isEmpty then "" else _), L line
      intro line hmem
      rcases Array.mem_push.mp hmem with hmem | rfl
      · exact hp line hmem
      · split
        · exact hempty
        · next hne =>
          have hs' : s ≠ "" := by simpa using hne
          refine hline parts s _ (hparts ?_) hs hs'
          rintro rfl
          exact hs' (Except.ok.inj hs).symm
  induction h generalizing p with
  | pure _ | throw _ | need _ => exact hp
  | line h => exact hpush (fun _ => h) p hp
  | separate =>
    rw [Printer.run_separate]
    split
    · exact hpush (fun hne => absurd rfl hne) p hp
    · exact hp
  | @indented _ m _ _ ih => exact ih { p with depth := p.depth + 1 } hp
  | @bind _ _ m k _ _ hm _ ihm ihk =>
    have hfirst := ihm p hp
    rw [run_bind]
    rcases hrun : m.run.run p with ⟨_ | a, q⟩ <;> rw [hrun] at hfirst
    · exact hfirst
    · exact ihk a (hm.value hrun) q hfirst

end Printed

namespace Command

mutual

/-- A command is printed. -/
theorem printed_run (pr : Printer) :
    (c : Command) → Printed pr (fun _ => True) (run pr c) fun _ => True
  | line _ => .line trivial
  | indent body => (printed_runAll pr body).indented
  | block body _ _ => (printed_runAll pr body).block trivial trivial
  | comment _ _ _ _ => .comment fun _ _ => trivial
  | description lines => by
    rw [run]
    exact .comment fun _ _ => trivial
  | separate => .separate
  | records blankLines => .eachRecord blankLines fun _ _ =>
      (Printed.line trivial).bind fun _ _ => .forM fun _ _ => .line trivial

/-- So are some commands. -/
theorem printed_runAll (pr : Printer) :
    (program : List Command) → Printed pr (fun _ => True) (runAll pr program) fun _ => True
  | [] => .pure trivial
  | c :: cs => (printed_run pr c).bind fun _ _ => printed_runAll pr cs

end

end Command

end SchemaStruct
