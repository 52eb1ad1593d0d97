import Mathlib.Data.List.Basic
import SchemaStruct.Proofs.Faults
import SchemaStruct.Proofs.Source.Pages

/-!
# What Printers Need, and Where They Fail

What a printer writes is said by `Writes`. Beside it stand two things that do not depend on the
lines: the namespaces that are needed afterwards (`Requires`), and the fault that a printer ends
in on any page (`Fails`). Together they say what a whole rendering gives: the parts that are
written for the records, with a blank line between neighbours, and the namespaces in their order.

## Main definitions

* `Fails`: a step ends in a fault on any page;
* `Passes`: a step returns on any page;
* `Requires`: the namespaces that a step adds to those that are needed.

## Main results

* `Fails.forM`: the first item that fails a check decides the fault;
* `Requires.bind`, `Requires.forM`: the namespaces of steps one behind the other;
* `Printer.render_of_returns`, `Printer.render_of_throws` and `Printer.exists_of_render`: a
  rendering and the page that its program leaves;
* `Printer.render_eachRecord`: the rendering of records each of which is written;
* `Printer.render_of_fails`: the rendering of a program that fails.
-/

namespace SchemaStruct

variable {α β : Type} {d : Nat} {f : Fault}

/-- On any page at depth `d`, the step `m` ends in the fault `f`. -/
def Fails (m : Emit α) (d : Nat) (f : Fault) : Prop :=
  ∀ p : Page, p.depth = d → ∃ q, Throws m p f q

/-- On any page at depth `d`, the step `m` returns, and the depth is `d` again. -/
def Passes (m : Emit α) (d : Nat) : Prop :=
  ∀ p : Page, p.depth = d → ∃ a q, Returns m p a q ∧ q.depth = d

/-- What is written is written without a fault. -/
theorem Writes.passes {m : Emit α} {a : α} {lines : List String} (h : Writes m d a lines) :
    Passes m d := by
  intro p hp
  obtain ⟨usings, h⟩ := h p hp
  exact ⟨a, _, h, by simpa using hp⟩

namespace Passes

variable {m : Emit Unit} {k : Unit → Emit β}

/-- A step behind one that returns. -/
theorem bind (hm : Passes m d) (hk : Passes (k ()) d) : Passes (m >>= k) d := by
  intro p hp
  obtain ⟨_, q, hm, hq⟩ := hm p hp
  obtain ⟨b, t, hk, ht⟩ := hk q hq
  exact ⟨b, t, returns_bind_iff.mpr ⟨(), q, hm, hk⟩, ht⟩

/-- A fault behind a step that returns. -/
theorem bind_fails (hm : Passes m d) (hk : Fails (k ()) d f) : Fails (m >>= k) d f := by
  intro p hp
  obtain ⟨_, q, hm, hq⟩ := hm p hp
  obtain ⟨t, hk⟩ := hk q hq
  exact ⟨t, throws_bind_iff.mpr (.inr ⟨(), q, hm, hk⟩)⟩

end Passes

namespace Fails

/-- A result that depends on nothing written may be a fault. -/
theorem ofExcept {r : Except Fault α} (h : r = .error f) (d : Nat) :
    Fails (Emit.ofExcept r) d f :=
  fun p _ => ⟨p, throws_emit_iff.mpr ⟨h, rfl⟩⟩

/-- Nothing is done behind a fault. -/
theorem bind {m : Emit α} {k : α → Emit β} (h : Fails m d f) : Fails (m >>= k) d f := by
  intro p hp
  obtain ⟨q, h⟩ := h p hp
  exact ⟨q, throws_bind_iff.mpr (.inl h)⟩

/-- A fault behind a step that writes something. -/
theorem of_writes {m : Emit α} {k : α → Emit β} {a : α} {lines : List String}
    (hm : Writes m d a lines) (hk : Fails (k a) d f) : Fails (m >>= k) d f := by
  intro p hp
  obtain ⟨usings, hm⟩ := hm p hp
  obtain ⟨q, hk⟩ := hk ((p.require usings).append lines) (by simpa using hp)
  exact ⟨q, throws_bind_iff.mpr (.inr ⟨a, _, hm, hk⟩)⟩

/-- A fault one level deeper is a fault. -/
theorem indented {body : Emit α} (h : Fails body (d + 1) f) : Fails (Emit.indented body) d f := by
  rintro p rfl
  obtain ⟨q, h⟩ := h { p with depth := p.depth + 1 } rfl
  exact ⟨_, throws_indented_iff.mpr ⟨q, h, rfl⟩⟩

/-- The first item of a list that fails a check decides the fault of the steps. -/
theorem forM {m : α → Emit Unit} {xs : List α} (check : α → Except Fault Unit)
    (hok : ∀ x ∈ xs, check x = .ok () → Passes (m x) d)
    (herror : ∀ x ∈ xs, ∀ f, check x = .error f → Fails (m x) d f)
    (h : xs.forM check = .error f) : Fails (xs.forM m) d f := by
  induction xs with
  | nil => cases h
  | cons x xs ih =>
    rcases error_of_bind (h : (check x >>= fun _ => xs.forM check) = .error f) with
      hx | ⟨_, hx, h⟩
    · exact (herror x List.mem_cons_self f hx).bind
    · exact (hok x List.mem_cons_self hx).bind_fails
        (ih (fun y hy => hok y (List.mem_cons_of_mem x hy))
          (fun y hy => herror y (List.mem_cons_of_mem x hy)) h)

end Fails

/-- A check of the items does not look at their numbers. -/
theorem forM_zipIdx {check : α → Except Fault Unit} (xs : List α) (k : Nat) :
    (xs.zipIdx k).forM (fun x => check x.1) = xs.forM check := by
  induction xs generalizing k with
  | nil => rfl
  | cons x xs ih =>
    show (check x >>= fun _ => (xs.zipIdx (k + 1)).forM fun x => check x.1) =
      (check x >>= fun _ => xs.forM check)
    rw [ih]

/-- Where the step `m` returns, it has added the namespaces `usings` to those that are needed. -/
def Requires (m : Emit α) (usings : List Using) : Prop :=
  ∀ p a q, Returns m p a q → ∀ u, u ∈ q.needed ↔ u ∈ usings ∨ u ∈ p.needed

namespace Requires

variable {usings more : List Using}

/-- Only which namespaces there are counts. -/
theorem congr {m : Emit α} (h : Requires m usings) (hiff : ∀ u, u ∈ usings ↔ u ∈ more) :
    Requires m more :=
  fun p a q hm u => by rw [← hiff, h p a q hm u]

/-- A value by itself needs nothing. -/
theorem pure (a : α) : Requires (pure a) [] := by
  intro p a' q h u
  obtain ⟨-, rfl⟩ := returns_pure_iff.mp h
  simp

/-- A fault needs nothing. -/
theorem throw (f : Fault) : Requires (throw f : Emit α) usings :=
  fun _ _ _ h => absurd h (not_returns_throw f)

/-- A result that depends on nothing written needs nothing. -/
theorem ofExcept (r : Except Fault α) : Requires (Emit.ofExcept r) [] := by
  intro p a q h u
  obtain ⟨-, rfl⟩ := returns_emit_iff.mp h
  simp

/-- Noting namespaces. -/
theorem need (usings : List Using) : Requires (Emit.need usings) usings := by
  intro p a q h u
  obtain rfl := returns_modify_iff.mp h
  simp

/-- One step behind another one needs what both need. -/
theorem bind {m : Emit α} {k : α → Emit β} (hm : Requires m usings)
    (hk : ∀ a p q, Returns m p a q → Requires (k a) more) :
    Requires (m >>= k) (usings ++ more) := by
  intro p b t h u
  obtain ⟨a, q, ha, h⟩ := returns_bind_iff.mp h
  rw [hk a p q ha q b t h u, hm p a q ha u, List.mem_append]
  tauto

/-- A step that needs nothing behind another one. -/
theorem bind_nil {m : Emit α} {k : α → Emit β} (hm : Requires m usings)
    (hk : ∀ a, Requires (k a) []) : Requires (m >>= k) usings :=
  (hm.bind fun a _ _ _ => hk a).congr (by simp)

/-- A step for each item of a list. -/
theorem forM {m : α → Emit Unit} {needs : α → List Using} (xs : List α)
    (h : ∀ x ∈ xs, Requires (m x) (needs x)) : Requires (xs.forM m) (xs.flatMap needs) := by
  induction xs with
  | nil => exact pure ()
  | cons x xs ih =>
    exact (h x List.mem_cons_self).bind fun _ _ _ _ =>
      ih fun y hy => h y (List.mem_cons_of_mem x hy)

/-- A result for each item of a list. -/
theorem mapM {m : α → Emit β} {needs : α → List Using} (xs : List α)
    (h : ∀ x ∈ xs, Requires (m x) (needs x)) : Requires (xs.mapM m) (xs.flatMap needs) := by
  induction xs with
  | nil => exact pure []
  | cons x xs ih =>
    rw [List.mapM_cons]
    refine (h x List.mem_cons_self).bind fun b _ _ _ => ?_
    exact (ih fun y hy => h y (List.mem_cons_of_mem x hy)).bind_nil fun bs => pure (b :: bs)

/-- What is written one level deeper needs the same. -/
theorem indented {body : Emit α} (h : Requires body usings) :
    Requires (Emit.indented body) usings := by
  intro p a q hq u
  obtain ⟨after, hbody, rfl⟩ := returns_indented_iff.mp hq
  exact h { p with depth := p.depth + 1 } a after hbody u

end Requires

namespace Printer

variable {pr : Printer} {usings : List Using}

/-- Nothing stands in front of a line at the outermost level. -/
theorem indented_zero (pr : Printer) (s : String) : pr.indented 0 s = s := by
  unfold indented
  split
  · next h => exact (String.isEmpty_iff.mp h).symm
  · simp [copies]

/-- What stands in front of a line stands in front of its first part. -/
theorem indented_append {s : String} (h : s ≠ "") (t : String) :
    pr.indented d (s ++ t) = pr.indented d s ++ t := by
  simp [indented, h, String.append_assoc]

/-- A line needs nothing. -/
theorem requires_line (parts : List Fragment) : Requires (pr.line parts) [] := by
  refine (Requires.ofExcept _).bind fun s _ _ _ => ?_
  intro p a q h u
  obtain rfl := returns_modify_iff.mp h
  simp

/-- A block needs what its body needs. -/
theorem requires_block {body : Emit Unit} (h : Requires body usings) :
    Requires (pr.block body) usings :=
  (requires_line _).bind fun _ _ _ _ => h.indented.bind_nil fun _ => requires_line _

/-- A comment needs nothing. -/
theorem requires_comment (lines : List String) (start : String) (before after : Option String) :
    Requires (pr.comment lines start before after) [] := by
  rw [comment_eq_forM]
  refine (Requires.forM _ fun s _ => requires_line _).congr ?_
  simp

/-- A blank line needs nothing, whether it is written or not. -/
theorem requires_separate : Requires pr.separate [] := by
  unfold separate
  have hget : Requires (get : Emit Page) [] := by
    intro p a q h u
    obtain ⟨-, rfl⟩ := returns_get_iff.mp h
    simp
  refine hget.bind fun p _ _ _ => ?_
  split
  · exact requires_line _
  · exact .pure ()

/-- All records need what each of them needs. -/
theorem requires_eachRecord {body : Record → Name → Emit Unit} {needs : Record → List Using}
    (blankLines : Bool)
    (h : ∀ r ∈ pr.names.graph.records, Requires (body r (NameTable.recordName r)) (needs r)) :
    Requires (pr.eachRecord blankLines body) (pr.names.graph.records.flatMap needs) := by
  have hrecord : ∀ x ∈ pr.names.graph.records.zipIdx, Requires (do
      if blankLines && x.2 != 0 then pr.separate
      body x.1 (NameTable.recordName x.1)) (needs x.1) := by
    rintro ⟨record, i⟩ hx
    have hbody := h record (List.fst_mem_of_mem_zipIdx hx)
    dsimp only
    split
    · exact requires_separate.bind fun _ _ _ _ => hbody
    · exact hbody
  refine (Requires.forM _ hrecord).congr fun u => ?_
  rw [← List.flatMap_map Prod.fst needs, List.zipIdx_map_fst]

/-- A line whose parts have no text is a fault. -/
theorem fails_line {parts : List Fragment} (h : Fragment.serializeAll pr.names parts = .error f)
    (d : Nat) : Fails (pr.line parts) d f :=
  (Fails.ofExcept h d).bind

/-- A fault in a block is a fault. -/
theorem fails_block {body : Emit Unit} (h : Fails body (d + 1) f) : Fails (pr.block body) d f :=
  .of_writes (writes_line rfl d) h.indented.bind

/-- A blank line is written behind a line with text. -/
theorem returns_separate {p : Page} (h : p.wantsBlank = true) :
    Returns pr.separate p () (p.append [""]) := by
  simp only [separate, returns_bind_iff, returns_get_iff]
  refine ⟨p, p, ⟨rfl, rfl⟩, ?_⟩
  rw [if_pos h]
  simp [line, Fragment.serializeAll, Page.append]

/-- The blank line between two records is no fault. -/
theorem passes_separate : Passes pr.separate d := by
  intro p hp
  by_cases h : p.wantsBlank
  · exact ⟨(), _, returns_separate h, by simpa using hp⟩
  · refine ⟨(), p, ?_, hp⟩
    simp only [separate, returns_bind_iff, returns_get_iff]
    exact ⟨p, p, ⟨rfl, rfl⟩, by simp [h]⟩

/-- All records fail where the first of them fails that does not pass a check. -/
theorem fails_eachRecord {body : Record → Name → Emit Unit} {check : Record → Except Fault Unit}
    (blankLines : Bool)
    (hok : ∀ r ∈ pr.names.graph.records, check r = .ok () →
      Passes (body r (NameTable.recordName r)) d)
    (herror : ∀ r ∈ pr.names.graph.records, ∀ f, check r = .error f →
      Fails (body r (NameTable.recordName r)) d f)
    (h : pr.names.graph.records.forM check = .error f) :
    Fails (pr.eachRecord blankLines body) d f := by
  rw [← forM_zipIdx _ 0] at h
  refine Fails.forM (fun x => check x.1) ?_ ?_ h
  · rintro ⟨record, i⟩ hx hcheck
    have hbody := hok record (List.fst_mem_of_mem_zipIdx hx) hcheck
    dsimp only
    split
    · exact passes_separate.bind hbody
    · exact hbody
  · rintro ⟨record, i⟩ hx f hcheck
    have hbody := herror record (List.fst_mem_of_mem_zipIdx hx) f hcheck
    dsimp only
    split
    · exact passes_separate.bind_fails hbody
    · exact hbody

end Printer

namespace Printer

variable {program : Emit Unit} {old page : Page}

/-- A rendering begins with a new page. If its program returns, the blank lines at the end of the
page go, and the lines that are left are given. -/
theorem render_of_returns (h : Returns program {} () page) (old : Page) :
    render program old =
      (.ok (page.trimmed.lines.toList, Using.sorted page.trimmed.needed), page.trimmed) := by
  have hrun : program.run { old with lines := #[], depth := 0, needed := [] } = (.ok (), page) := h
  rw [render, hrun]

/-- If its program ends in a fault, the page stays as it is. -/
theorem render_of_throws (h : Throws program {} f page) (old : Page) :
    render program old = (.error f, page) := by
  have hrun : program.run { old with lines := #[], depth := 0, needed := [] } = (.error f, page) := h
  rw [render, hrun]

/-- What a rendering gives is read off the page that its program leaves. -/
theorem exists_of_render {lines : List String} {usings : List Using}
    (h : render program old = (.ok (lines, usings), page)) :
    ∃ after, Returns program {} () after ∧ page = after.trimmed ∧ lines = page.lines.toList ∧
      usings = Using.sorted page.needed := by
  rcases returns_or_throws program {} with ⟨_, after, hreturns⟩ | ⟨f, after, hthrows⟩
  · obtain ⟨hresult, rfl⟩ := Prod.mk.inj ((render_of_returns hreturns old).symm.trans h)
    obtain ⟨rfl, rfl⟩ := Prod.mk.inj (Except.ok.inj hresult)
    exact ⟨after, hreturns, rfl, rfl, rfl⟩
  · cases (Prod.mk.inj ((render_of_throws hthrows old).symm.trans h)).1

/-- The rendering of a program that fails. -/
theorem render_of_fails (h : Fails program 0 f) (old : Page) : (render program old).1 = .error f := by
  obtain ⟨q, h⟩ := h {} rfl
  rw [render_of_throws h]

end Printer

/-- The last one of the lines has text. -/
def EndsInText (lines : List String) : Prop := ∃ init last, lines = init ++ [last] ∧ last ≠ ""

namespace Page

variable {p : Page} {lines : List String}

/-- A blank line would separate the next line from a line with text. -/
theorem wantsBlank_append (h : EndsInText lines) : (p.append lines).wantsBlank = true := by
  obtain ⟨init, last, rfl, hlast⟩ := h
  simp [wantsBlank, append, hlast]

/-- There is nothing to trim behind a line with text. -/
theorem trimmed_append (h : EndsInText lines) : (p.append lines).trimmed = p.append lines := by
  obtain ⟨init, last, rfl, hlast⟩ := h
  simp [trimmed, append, hlast]

end Page

namespace Printer

variable {pr : Printer} {usings : List Using} {body : Record → Name → Emit Unit}

/-- Some parts, each of which ends in a line with text, with a blank line in front of each. -/
theorem returns_eachRecord_rest (pr : Printer) {records : List Record}
    {parts : List (List String)} {k : Nat} (hk : k ≠ 0) (h : List.Forall₂ (fun r lines =>
      Writes (body r (NameTable.recordName r)) 0 () lines) records parts)
    (hends : ∀ lines ∈ parts, EndsInText lines)
    {p : Page} (hdepth : p.depth = 0) (hblank : p.wantsBlank = true) :
    ∃ usings, Returns ((records.zipIdx k).forM fun (r, i) => do
        if true && i != 0 then pr.separate
        body r (NameTable.recordName r)) p ()
      ((p.require usings).append (parts.flatMap ("" :: ·))) := by
  induction h generalizing k p with
  | nil => exact ⟨[], by simp⟩
  | @cons r lines records parts hwrites _ ih =>
    obtain ⟨hfirst, hends⟩ := List.forall_mem_cons.mp hends
    obtain ⟨needed, hbody⟩ := hwrites (p.append [""]) hdepth
    obtain ⟨others, hrest⟩ := ih (k := k + 1) (by simp) hends
      (p := ((p.append [""]).require needed).append lines) hdepth (Page.wantsBlank_append hfirst)
    have hstep : Returns (do
        if true && k != 0 then pr.separate
        body r (NameTable.recordName r)) p ()
        (((p.append [""]).require needed).append lines) := by
      rw [if_pos (by simpa using hk)]
      exact returns_bind_iff.mpr ⟨(), _, returns_separate hblank, hbody⟩
    refine ⟨others ++ needed, returns_bind_iff.mpr ⟨(), _, hstep, ?_⟩⟩
    simpa [Page.require, Page.append] using hrest

/-- The parts with a blank line between neighbours. -/
theorem intercalate_blank (first : List String) (parts : List (List String)) :
    [""].intercalate (first :: parts) = first ++ parts.flatMap ("" :: ·) := by
  induction parts generalizing first with
  | nil => simp [List.intercalate]
  | cons part parts ih =>
    have hrest := ih part
    rw [List.intercalate] at hrest ⊢
    rw [List.intersperse_cons_cons, List.flatten_cons, List.flatten_cons, hrest]
    rfl

/-- Parts that end in lines with text end so together. -/
theorem endsInText_intercalate {parts : List (List String)} (hne : parts ≠ [])
    (h : ∀ lines ∈ parts, EndsInText lines) : EndsInText ([""].intercalate parts) := by
  obtain ⟨front, lines, rfl⟩ := List.eq_nil_or_concat parts |>.resolve_left hne
  obtain ⟨init, last, rfl, hlast⟩ := h lines (by simp)
  cases front with
  | nil => exact ⟨init, last, by simp [List.intercalate], hlast⟩
  | cons first front =>
    rw [List.concat_eq_append, List.cons_append, intercalate_blank, List.flatMap_append]
    exact ⟨first ++ front.flatMap ("" :: ·) ++ "" :: init, last, by simp, hlast⟩

/-- The namespaces in their order depend only on which there are. -/
theorem sorted_congr {usings more : List Using} (h : ∀ u, u ∈ usings ↔ u ∈ more) :
    Using.sorted usings = Using.sorted more := by
  refine List.filter_congr fun u _ => ?_
  rw [Bool.eq_iff_iff, List.contains_iff_mem, List.contains_iff_mem, h]

/-- The rendering of all records, each of which is written as lines that end in one with text: a
blank line stands between neighbours. -/
theorem render_eachRecord {parts : List (List String)} (old : Page)
    (h : List.Forall₂ (fun r lines => Writes (body r (NameTable.recordName r)) 0 () lines)
      pr.names.graph.records parts)
    (hends : ∀ lines ∈ parts, EndsInText lines)
    (hneeds : Requires (pr.eachRecord true body) usings) :
    (render (pr.eachRecord true body) old).1 =
      .ok ([""].intercalate parts, Using.sorted usings) := by
  let blank : Page := {}
  obtain ⟨needed, hreturns⟩ : ∃ needed, Returns (pr.eachRecord true body) blank ()
      ((blank.require needed).append ([""].intercalate parts)) := by
    unfold eachRecord
    generalize pr.names.graph.records = records at h
    cases h with
    | nil => exact ⟨[], by simp [List.intercalate]⟩
    | @cons r lines records parts hwrites hrest =>
      obtain ⟨hfirst, hends⟩ := List.forall_mem_cons.mp hends
      obtain ⟨needed, hbody⟩ := hwrites blank rfl
      obtain ⟨others, hrest⟩ := returns_eachRecord_rest pr (k := 1) (by simp) hrest hends
        (p := (blank.require needed).append lines) rfl (Page.wantsBlank_append hfirst)
      refine ⟨others ++ needed, returns_bind_iff.mpr ⟨(), _, hbody, ?_⟩⟩
      rw [intercalate_blank]
      simpa [Page.require, Page.append] using hrest
  have hsorted : Using.sorted (needed ++ []) = Using.sorted usings :=
    sorted_congr fun u => (hneeds _ _ _ hreturns u).trans (by simp [blank])
  -- the last part ends in a line with text, so nothing is trimmed
  have htrimmed : ((blank.require needed).append ([""].intercalate parts)).trimmed =
      (blank.require needed).append ([""].intercalate parts) := by
    by_cases hne : parts = []
    · subst hne
      rfl
    · exact Page.trimmed_append (endsInText_intercalate hne hends)
  rw [render_of_returns hreturns, htrimmed, ← hsorted]
  simp [Page.append, Page.require, blank]

end Printer

end SchemaStruct
