import Mathlib.Data.List.Basic
import SchemaStruct.Proofs.Source.Renders
import SchemaStruct.Proofs.Source.Tidy
import SchemaStruct.Proofs.Text.Breaks

/-!
# Characters of Source Text

Printers bring in no characters of their own: what they write consists of the characters of the
fragments, of the level of depth and of the texts of blocks and comments. `Keeps p m Q` says of the
step `m` that it leaves a page whose characters have the property `p` as such a page, and that its
value has the property `Q`. There is one rule for each primitive, so that the characters of a
rendering are found by walking along the program that writes it.

## Main definitions

* `Fragment.ConsistsOf` and `Page.ConsistsOf`: all characters of a fragment, or of a page, have a
  property;
* `Keeps`: a step that keeps a page so.

## Main results

* `Keeps.bind`, `Keeps.forM`, `Keeps.mapM`, `Keeps.indented`: steps one behind the other and one
  level deeper;
* `Printer.keeps_line`, `Printer.keeps_block`, `Printer.keeps_comment`, `Printer.keeps_eachRecord`:
  what printers write;
* `Printer.consistsOf_of_render`: the characters of a rendering;
* `Tidy.consistsOf_code`: tidying brings in line feeds only.
-/

namespace SchemaStruct

open Text (ConsistsOf)

variable {α β : Type} {p : Char → Prop}

namespace Fragment

/-- All characters of the text that the fragment has have the property `p`. -/
def ConsistsOf (names : NameTable) (p : Char → Prop) (f : Fragment) : Prop :=
  ∀ s, f.serialize names = .ok s → Text.ConsistsOf p s

variable {names : NameTable} {fragments : List Fragment}

/-- A text consists of its characters. -/
theorem consistsOf_text {s : String} (h : Text.ConsistsOf p s) : (text s).ConsistsOf names p := by
  intro t ht
  rwa [← Except.ok.inj ht]

/-- A name consists of the characters of the text that is assigned to it. -/
theorem consistsOf_name {n : Name} (h : ∀ s, names.text? n = some s → Text.ConsistsOf p s) :
    (name n).ConsistsOf names p := by
  intro s hs
  rw [serialize, NameTable.text] at hs
  cases hn : names.text? n with
  | none =>
    rw [hn] at hs
    cases hs
  | some t =>
    rw [hn] at hs
    rw [← Except.ok.inj hs]
    exact h t hn

/-- Fragments one behind the other consist of what each of them consists of. -/
theorem consistsOf_of_serializeAll {s : String} (h : fragments.Forall (ConsistsOf names p))
    (hs : serializeAll names fragments = .ok s) : Text.ConsistsOf p s := by
  induction fragments generalizing s with
  | nil =>
    rw [← Except.ok.inj hs]
    exact Text.consistsOf_empty
  | cons f fragments ih =>
    obtain ⟨hf, hfragments⟩ := (List.forall_cons _ f fragments).mp h
    obtain ⟨first, hfirst, hs⟩ := ok_of_bind (hs : (serialize names f >>= _) = _)
    obtain ⟨rest, hrest, hs⟩ := ok_of_bind hs
    rw [← Except.ok.inj hs, Text.consistsOf_append]
    exact ⟨hf first hfirst, ih hfragments hrest⟩

/-- So does a group of them. -/
theorem consistsOf_group {bracket : Bracket} (h : fragments.Forall (ConsistsOf names p)) :
    (group bracket fragments).ConsistsOf names p :=
  fun _ => consistsOf_of_serializeAll h

/-- What holds of a separator and of some fragments holds of all fragments with it in between. -/
theorem forall_intersperse {q : Fragment → Prop} {separator : Fragment} (hseparator : q separator)
    (h : ∀ f ∈ fragments, q f) : (intersperse separator fragments).Forall q := by
  induction fragments with
  | nil => trivial
  | cons f fragments ih =>
    obtain ⟨hf, hfragments⟩ := List.forall_mem_cons.mp h
    cases fragments with
    | nil => exact hf
    | cons g fragments =>
      show (f :: separator :: intersperse separator (g :: fragments)).Forall q
      rw [List.forall_cons, List.forall_cons]
      exact ⟨hf, hseparator, ih hfragments⟩

end Fragment

/-- All characters of the lines of the page have the property `p`. -/
def Page.ConsistsOf (p : Char → Prop) (page : Page) : Prop :=
  ∀ line ∈ page.lines, Text.ConsistsOf p line

/-- Where the step `m` returns from a page whose characters have the property `p`, the page that it
leaves is such a page too, and the value has the property `Q`. -/
def Keeps (p : Char → Prop) (m : Emit α) (Q : α → Prop) : Prop :=
  ∀ page a after, Returns m page a after → page.ConsistsOf p → after.ConsistsOf p ∧ Q a

namespace Keeps

variable {m : Emit α} {Q : α → Prop} {R : β → Prop}

/-- A value by itself. -/
theorem pure {a : α} (h : Q a) : Keeps p (pure a) Q := by
  intro page b after hreturns hpage
  obtain ⟨rfl, rfl⟩ := returns_pure_iff.mp hreturns
  exact ⟨hpage, h⟩

/-- A fault leaves no value. -/
theorem throw (f : Fault) : Keeps p (throw f : Emit α) Q :=
  fun _ _ _ h => absurd h (not_returns_throw f)

/-- A result that depends on nothing written. -/
theorem ofExcept {r : Except Fault α} (h : ∀ a, r = .ok a → Q a) :
    Keeps p (Emit.ofExcept r) Q := by
  intro page a after hreturns hpage
  obtain ⟨hr, rfl⟩ := returns_emit_iff.mp hreturns
  exact ⟨hpage, h a hr⟩

/-- Reading the page. -/
theorem get : Keeps p (get : Emit Page) fun _ => True := by
  intro page a after hreturns hpage
  obtain ⟨-, rfl⟩ := returns_get_iff.mp hreturns
  exact ⟨hpage, trivial⟩

/-- Noting namespaces. -/
theorem need (usings : List Using) : Keeps p (Emit.need usings) fun _ => True := by
  intro page a after hreturns hpage
  obtain rfl := returns_modify_iff.mp hreturns
  exact ⟨hpage, trivial⟩

/-- One step behind another one. -/
theorem bind {k : α → Emit β} (hm : Keeps p m Q) (hk : ∀ a, Q a → Keeps p (k a) R) :
    Keeps p (m >>= k) R := by
  intro page b after hreturns hpage
  obtain ⟨a, between, hreturns, hbehind⟩ := returns_bind_iff.mp hreturns
  obtain ⟨hbetween, ha⟩ := hm page a between hreturns hpage
  exact hk a ha between b after hbehind hbetween

/-- A step for each item of a list. -/
theorem forM {m : α → Emit Unit} {xs : List α} (h : ∀ x ∈ xs, Keeps p (m x) fun _ => True) :
    Keeps p (xs.forM m) fun _ => True := by
  induction xs with
  | nil => exact pure trivial
  | cons x xs ih =>
    obtain ⟨hx, hxs⟩ := List.forall_mem_cons.mp h
    exact hx.bind fun _ _ => ih hxs

/-- A value for each item of a list. -/
theorem mapM {m : α → Emit β} {xs : List α} (h : ∀ x ∈ xs, Keeps p (m x) R) :
    Keeps p (xs.mapM m) fun bs => ∀ b ∈ bs, R b := by
  induction xs with
  | nil => exact pure (List.forall_mem_nil R)
  | cons x xs ih =>
    obtain ⟨hx, hxs⟩ := List.forall_mem_cons.mp h
    rw [List.mapM_cons]
    refine hx.bind fun b hb => (ih hxs).bind fun bs hbs => ?_
    exact pure (List.forall_mem_cons.mpr ⟨hb, hbs⟩)

/-- What is written one level deeper. -/
theorem indented (h : Keeps p m Q) : Keeps p (Emit.indented m) Q := by
  intro page a after hreturns hpage
  obtain ⟨last, hbody, rfl⟩ := returns_indented_iff.mp hreturns
  exact h { page with depth := page.depth + 1 } a last hbody hpage

end Keeps

namespace Printer

variable {pr : Printer} {body : Emit Unit}

/-- Copies of a text consist of its characters. -/
theorem consistsOf_copies {s : String} (h : ConsistsOf p s) (n : Nat) :
    ConsistsOf p (copies s n) := by
  induction n with
  | zero => exact Text.consistsOf_empty
  | succ n ih => exact Text.consistsOf_append.mpr ⟨h, ih⟩

variable (hunit : ConsistsOf p pr.indentUnit)

include hunit

/-- A line consists of its parts and of what stands in front of it. -/
theorem keeps_line {parts : List Fragment} (h : parts.Forall (Fragment.ConsistsOf pr.names p)) :
    Keeps p (pr.line parts) fun _ => True := by
  refine Keeps.bind (Q := ConsistsOf p)
    (.ofExcept fun s => Fragment.consistsOf_of_serializeAll h) fun s hs => ?_
  intro page a after hreturns hpage
  obtain rfl := returns_modify_iff.mp hreturns
  refine ⟨fun line hline => ?_, trivial⟩
  rcases Array.mem_push.mp hline with hline | rfl
  · exact hpage line hline
  · split
    · exact Text.consistsOf_empty
    · exact Text.consistsOf_append.mpr ⟨consistsOf_copies hunit page.depth, hs⟩

/-- A line with a fixed text. -/
theorem keeps_textLine {s : String} (h : ConsistsOf p s) : Keeps p (pr.textLine s) fun _ => True :=
  keeps_line hunit (Fragment.consistsOf_text h)

/-- A block consists of its body and two brackets. -/
theorem keeps_block (hbrackets : ConsistsOf p "\x7b\x7d") (h : Keeps p body fun _ => True) :
    Keeps p (pr.block body) fun _ => True := by
  have hbrackets : ConsistsOf p ("\x7b" ++ "\x7d") := hbrackets
  obtain ⟨hopening, hclosing⟩ := Text.consistsOf_append.mp hbrackets
  exact (keeps_textLine hunit hopening).bind fun _ _ =>
    h.indented.bind fun _ _ => keeps_textLine hunit hclosing

/-- A comment between two lines consists of these, of its own lines and of what they start with. -/
theorem keeps_comment {lines : List String} {start before after : String}
    (hlines : ∀ line ∈ lines, ConsistsOf p line) (hstart : ConsistsOf p start)
    (hbefore : ConsistsOf p before) (hafter : ConsistsOf p after) :
    Keeps p (pr.comment lines start (some before) (some after)) fun _ => True := by
  refine (keeps_textLine hunit hbefore).bind fun _ _ => ?_
  refine Keeps.bind (Q := fun _ => True) (.forM fun line hline => ?_) fun _ _ =>
    keeps_textLine hunit hafter
  refine keeps_textLine hunit ?_
  split
  · -- blanks at the end go if nothing stands behind them
    refine Text.consistsOf_ofList.mpr fun c hc => hstart c ?_
    exact Text.mem_of_mem_trimEnd hc
  · exact Text.consistsOf_append.mpr ⟨hstart, hlines line hline⟩

/-- A blank line, if there is one. -/
theorem keeps_separate : Keeps p pr.separate fun _ => True := by
  refine Keeps.get.bind fun page _ => ?_
  split
  · exact keeps_line hunit trivial
  · exact .pure trivial

/-- What is written for each record. -/
theorem keeps_eachRecord {body : Record → Name → Emit Unit} (blankLines : Bool)
    (h : ∀ r ∈ pr.names.graph.records, Keeps p (body r (NameTable.recordName r)) fun _ => True) :
    Keeps p (pr.eachRecord blankLines body) fun _ => True := by
  refine .forM ?_
  rintro ⟨record, i⟩ hrecord
  have hbody := h record (List.fst_mem_of_mem_zipIdx hrecord)
  dsimp only
  split
  · exact (keeps_separate hunit).bind fun _ _ => hbody
  · exact hbody

omit hunit

/-- The lines of a rendering consist of what the program writes. -/
theorem consistsOf_of_render (h : Keeps p body fun _ => True) {old page : Page}
    {lines : List String} {usings : List Using}
    (hrender : render body old = (.ok (lines, usings), page)) :
    ∀ line ∈ lines, ConsistsOf p line := by
  obtain ⟨after, hreturns, rfl, rfl, -⟩ := exists_of_render hrender
  obtain ⟨hafter, -⟩ := h {} () after hreturns (by simp [Page.ConsistsOf])
  intro line hline
  -- trimming takes lines away
  have hkept : line ∈ (after.lines.toList.reverse.dropWhile (· == "")).reverse := by
    simpa [Page.trimmed] using hline
  have hmem := List.dropWhile_subset _ (List.mem_reverse.mp hkept)
  exact hafter line (by simpa using hmem)

end Printer

namespace Tidy

/-- Tidying brings in nothing but line feeds. -/
theorem consistsOf_code (hfeed : p '\n') {s : String} (h : ConsistsOf p s) :
    ConsistsOf p (code s) := by
  intro c hc
  rw [toList_code, List.mem_append, List.mem_singleton] at hc
  rcases hc with hc | rfl
  · rcases Text.mem_of_mem_joinWith (Text.mem_of_mem_trimWhile hc) with hc | ⟨line, hline, hc⟩
    · rwa [List.mem_singleton.mp hc]
    · obtain ⟨piece, hpiece, rfl⟩ := List.mem_map.mp (mem_of_mem_collapse hline)
      exact h c (Text.mem_of_mem_splitOn hpiece (Text.mem_of_mem_trimEnd hc)).1
  · exact hfeed

/-- Tidy code ends in a line feed. -/
theorem getLast?_code (s : String) : (code s).toList.getLast? = some '\n' := by
  rw [toList_code, List.getLast?_concat]

end Tidy

end SchemaStruct
