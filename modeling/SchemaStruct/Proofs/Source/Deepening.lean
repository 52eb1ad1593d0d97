import SchemaStruct.Proofs.Source.Printed
import SchemaStruct.Proofs.Source.Renders

/-!
# Rendering One Level Deeper

What a printer writes does not depend on the depth that it begins at, except that each line with a
text stands behind one more unit when it begins one level deeper. `Deepens unit m` says so of the
step `m`: on a page on which everything is one level deeper it gives the same result, and leaves
everything one level deeper. All that is printed is of this kind, whether it returns or ends in a
fault.

## Main definitions

* `Line.deeper` and `Page.deeper`: a line and a page one level deeper;
* `Deepens`: a step that writes the same one level deeper.

## Main results

* `Deepens.bind` and `Deepens.indented`: steps that are put together;
* `Printed.deepens`: all that is printed;
* `Printed.render_indented`: a rendering one level deeper.
-/

namespace SchemaStruct

/-- A line one level deeper; a line without text stays empty. -/
def Line.deeper (unit line : String) : String := if line = "" then "" else unit ++ line

/-- A line one level deeper is empty only if the line is. -/
theorem Line.deeper_eq_empty_iff {unit line : String} : deeper unit line = "" ↔ line = "" := by
  unfold deeper
  split
  · next h => exact iff_of_true rfl h
  · next h => simp [h]

/-- The page with everything on it one level deeper. -/
def Page.deeper (unit : String) (p : Page) : Page :=
  { p with lines := p.lines.map (Line.deeper unit), depth := p.depth + 1 }

/-- A blank line is wanted on the deeper page where it is wanted on the page. -/
theorem Page.wantsBlank_deeper (unit : String) (p : Page) :
    (p.deeper unit).wantsBlank = p.wantsBlank := by
  have hback : (p.deeper unit).lines.back? = p.lines.back?.map (Line.deeper unit) := by
    rw [deeper, Array.back?_map]
  rw [wantsBlank, wantsBlank, hback]
  cases p.lines.back? with
  | none => rfl
  | some line =>
    rw [Option.map_some, Bool.eq_iff_iff]
    simp [Line.deeper_eq_empty_iff]

variable {α β : Type} {unit : String}

/-- One level deeper, the step `m` gives the same result and writes the same one level deeper. -/
def Deepens (unit : String) (m : Emit α) : Prop :=
  ∀ p : Page, m.run.run (p.deeper unit) = ((m.run.run p).1, (m.run.run p).2.deeper unit)

namespace Deepens

variable {m : Emit α}

/-- One step behind another one, which gives some values only. -/
theorem bind {k : α → Emit β} (hm : Deepens unit m)
    (hk : ∀ p a q, Returns m p a q → Deepens unit (k a)) : Deepens unit (m >>= k) := by
  intro p
  rw [run_bind, run_bind, hm p]
  rcases hrun : m.run.run p with ⟨_ | a, q⟩
  · rfl
  · exact hk p a q hrun q

/-- What is written one level deeper anyway. -/
theorem indented (h : Deepens unit m) : Deepens unit (Emit.indented m) := by
  intro p
  have hrun (q : Page) : (Emit.indented m).run.run q =
      ((m.run.run { q with depth := q.depth + 1 }).1,
        { (m.run.run { q with depth := q.depth + 1 }).2 with depth := q.depth }) := rfl
  have hdeeper : { p.deeper unit with depth := (p.deeper unit).depth + 1 } =
      Page.deeper unit { p with depth := p.depth + 1 } := rfl
  rw [hrun, hrun, hdeeper, h]
  rfl

/-- A step that returns does so one level deeper. -/
theorem returns (h : Deepens unit m) {p q : Page} {a : α} (hm : Returns m p a q) :
    Returns m (p.deeper unit) a (q.deeper unit) := by
  rw [Returns, h p, show m.run.run p = (.ok a, q) from hm]

/-- A step that ends in a fault does so one level deeper. -/
theorem throws (h : Deepens unit m) {p q : Page} {f : Fault} (hm : Throws m p f q) :
    Throws m (p.deeper unit) f (q.deeper unit) := by
  rw [Throws, h p, show m.run.run p = (.error f, q) from hm]

end Deepens

/-- A line stands behind one unit more. -/
theorem Printer.deepens_line (pr : Printer) (parts : List Fragment) :
    Deepens pr.indentUnit (pr.line parts) := by
  intro p
  unfold line
  cases Fragment.serializeAll pr.names parts with
  | error f => rfl
  | ok s =>
    -- the line is empty on both pages, or stands behind one unit more on the deeper one
    refine Prod.ext rfl ?_
    show Page.mk ((p.lines.map _).push _) _ _ = Page.deeper pr.indentUnit (Page.mk _ _ _)
    by_cases hs : s = "" <;>
      simp [Page.deeper, Line.deeper, copies, hs, String.append_assoc]

/-- All that is printed is printed one level deeper in the same way. -/
theorem Printed.deepens {pr : Printer} {P : List Fragment → Prop} {m : Emit α} {Q : α → Prop}
    (h : Printed pr P m Q) : Deepens pr.indentUnit m := by
  induction h with
  | pure _ | throw _ | need _ => exact fun _ => rfl
  | line _ => exact pr.deepens_line _
  | separate =>
    intro p
    -- the page that is looked at has the same gaps
    rw [Printer.run_separate, Printer.run_separate, Page.wantsBlank_deeper]
    split
    · exact pr.deepens_line [] p
    · rfl
  | indented _ hm => exact hm.indented
  | bind hprinted _ hm hk => exact hm.bind fun p a q ha => hk a (hprinted.value ha)

/-- The lines that a page keeps are, one level deeper, those of the deeper page. -/
theorem Page.lines_trimmed_deeper (p : Page) :
    (p.deeper unit).trimmed.lines.toList = p.trimmed.lines.toList.map (Line.deeper unit) := by
  have hblank : (· == "") ∘ Line.deeper unit = (· == "") := by
    funext line
    rw [Function.comp, Bool.eq_iff_iff]
    simp [Line.deeper_eq_empty_iff]
  simp only [trimmed, deeper, Array.toList_map, ← List.map_reverse, List.dropWhile_map, hblank]

/-- A rendering one level deeper has the lines of the rendering, one level deeper, and the same
namespaces, and it ends in the same fault if it ends in one. -/
theorem Printed.render_indented {pr : Printer} {P : List Fragment → Prop} {body : Emit Unit}
    {Q : Unit → Prop} (h : Printed pr P body Q) (old new : Page) :
    (Printer.render (Emit.indented body) new).1 =
      (fun r => (r.1.map (Line.deeper pr.indentUnit), r.2)) <$> (Printer.render body old).1 := by
  -- nothing of the old pages counts, and a blank page one level deeper is the deeper blank page
  have hblank : { ({} : Page) with depth := ({} : Page).depth + 1 } =
      Page.deeper pr.indentUnit {} := by
    simp [Page.deeper]
  rcases returns_or_throws body {} with ⟨_, after, hbody⟩ | ⟨f, after, hbody⟩
  · have hindented : Returns (Emit.indented body) {} ()
        { after.deeper pr.indentUnit with depth := 0 } :=
      returns_indented_iff.mpr ⟨_, hblank ▸ h.deepens.returns hbody, rfl⟩
    rw [Printer.render_of_returns hindented, Printer.render_of_returns hbody]
    exact congrArg (fun lines => Except.ok (lines, Using.sorted after.needed))
      (Page.lines_trimmed_deeper after)
  · have hindented : Throws (Emit.indented body) {} f
        { after.deeper pr.indentUnit with depth := 0 } :=
      throws_indented_iff.mpr ⟨_, hblank ▸ h.deepens.throws hbody, rfl⟩
    rw [Printer.render_of_throws hindented, Printer.render_of_throws hbody]
    rfl

end SchemaStruct
