import Mathlib.Data.List.Forall2
import SchemaStruct.Proofs.Returns

/-!
# What Printers Write

A printer that writes without a fault puts lines behind those of the page and notes the namespaces
that they need; the rest of the page stays. `Writes m d a lines` says so of the step `m`: on any
page at depth `d` it writes the lines `lines` and gives `a`. The rules below hold for the
primitives of printers and for steps one behind the other, so that the lines of a longer program
are read off the program that writes them.

## Main definitions

* `Page.append` and `Page.require`: a page with more lines, and with more namespaces needed;
* `Printer.indented`: a text as it stands in a line at some depth;
* `Printer.commentTexts`: the lines of a comment;
* `Writes`: what a step writes on any page.

## Main results

* `Writes.bind`, `Writes.mapM`, `Writes.forM`: steps one behind the other;
* `Printer.writes_line`, `Printer.writes_block`: lines and blocks;
* `Printer.comment_eq_forM`: comments, line by line;
* `Fragment.serializeAll_intersperse`: the text of items with separators.
-/

namespace SchemaStruct

namespace Fragment

/-- The text of a name is the one that is assigned to it. -/
theorem serialize_name {names : NameTable} {n : Name} {s : String}
    (h : names.text? n = some s) : serialize names (.name n) = .ok s := by
  rw [serialize, NameTable.text, h]

/-- The text of a text by itself. -/
theorem serializeAll_text (names : NameTable) (s : String) :
    serializeAll names [.text s] = .ok s := by
  simp [serializeAll, serialize, bind, Except.bind, pure, Except.pure]

/-- The text of some fragments is that of each one, one behind the other. -/
theorem serializeAll_eq_join {names : NameTable} {fragments : List Fragment}
    {texts : List String}
    (h : List.Forall₂ (fun f s => serialize names f = .ok s) fragments texts) :
    serializeAll names fragments = .ok (String.join texts) := by
  induction h with
  | nil => rfl
  | @cons f s fragments texts hf _ ih =>
    rw [serializeAll, hf, ih, String.join_cons]
    rfl

/-- The text of some fragments with a separator between neighbours. -/
theorem serializeAll_intersperse {names : NameTable} {fragments : List Fragment}
    {texts : List String} (separator : String)
    (h : List.Forall₂ (fun f s => serialize names f = .ok s) fragments texts) :
    serializeAll names (intersperse (.text separator) fragments) =
      .ok (separator.intercalate texts) := by
  induction h with
  | nil => rfl
  | @cons f s fragments texts hf htail ih =>
    cases htail with
    | nil =>
      rw [intersperse, String.intercalate_singleton, serializeAll, hf]
      simp [serializeAll, bind, Except.bind, pure, Except.pure]
    | @cons g t fragments texts hg htail =>
      show serializeAll names
        (f :: .text separator :: intersperse (.text separator) (g :: fragments)) = _
      rw [serializeAll, hf, serializeAll, ih, String.intercalate_cons_cons]
      simp [serialize, bind, Except.bind, pure, Except.pure, String.append_assoc]

end Fragment

namespace Page

/-- The page with some lines behind those that it has. -/
def append (p : Page) (lines : List String) : Page := { p with lines := p.lines ++ lines.toArray }

/-- The page with some namespaces needed too. -/
def require (p : Page) (usings : List Using) : Page := { p with needed := usings ++ p.needed }

variable (p : Page) (lines more : List String) (usings others : List Using)

@[simp]
theorem depth_append : (p.append lines).depth = p.depth := rfl

@[simp]
theorem depth_require : (p.require usings).depth = p.depth := rfl

@[simp]
theorem append_nil : p.append [] = p := by
  simp [append]

@[simp]
theorem require_nil : p.require [] = p := rfl

@[simp]
theorem append_append : (p.append lines).append more = p.append (lines ++ more) := by
  simp [append, Array.append_assoc]

@[simp]
theorem require_append_require :
    ((p.require usings).append lines).require others =
      (p.require (others ++ usings)).append lines := by
  simp [append, require, List.append_assoc]

end Page

/-- On any page at depth `d`, the step `m` returns `a` and puts the lines `lines` behind those of
the page; apart from that it only notes that some namespaces are needed. -/
def Writes {α : Type} (m : Emit α) (d : Nat) (a : α) (lines : List String) : Prop :=
  ∀ p : Page, p.depth = d → ∃ usings, Returns m p a ((p.require usings).append lines)

namespace Writes

variable {α β : Type} {d : Nat} {a : α} {lines more : List String}

/-- A value by itself writes nothing. -/
theorem pure (a : α) (d : Nat) : Writes (pure a) d a [] :=
  fun p _ => ⟨[], by simp⟩

/-- A result that depends on nothing written writes nothing. -/
theorem ofExcept {r : Except Fault α} (h : r = .ok a) (d : Nat) :
    Writes (Emit.ofExcept r) d a [] :=
  fun p _ => ⟨[], by simp [h]⟩

/-- Noting namespaces writes nothing. -/
theorem need (usings : List Using) (d : Nat) : Writes (Emit.need usings) d () [] :=
  fun p _ => ⟨usings, by simp [Emit.need, Page.require]⟩

/-- What is written by a step stands behind what is written by the step before. -/
theorem bind {m : Emit α} {f : α → Emit β} {b : β} (hm : Writes m d a lines)
    (hf : Writes (f a) d b more) : Writes (m >>= f) d b (lines ++ more) := by
  intro p hp
  obtain ⟨usings, hm⟩ := hm p hp
  obtain ⟨others, hf⟩ := hf ((p.require usings).append lines) (by simpa using hp)
  refine ⟨others ++ usings, returns_bind_iff.mpr ⟨a, _, hm, ?_⟩⟩
  simpa using hf

/-- A step for each item of a list, each of which writes nothing. -/
theorem mapM {m : α → Emit β} {xs : List α} {bs : List β}
    (h : List.Forall₂ (fun x b => Writes (m x) d b []) xs bs) : Writes (xs.mapM m) d bs [] := by
  induction h with
  | nil => exact pure [] d
  | cons hx _ ih =>
    rw [List.mapM_cons]
    exact hx.bind (ih.bind (pure _ d))

/-- A line for each item of a list: as many lines as there are items, in order. -/
theorem forM {m : α → Emit Unit} {xs : List α} {lines : List String}
    (h : List.Forall₂ (fun x line => Writes (m x) d () [line]) xs lines) :
    Writes (xs.forM m) d () lines := by
  induction h with
  | nil => exact pure () d
  | cons hx _ ih => exact hx.bind ih

/-- What is written one level deeper stands on the page too, and the depth is restored. -/
theorem indented {body : Emit α} (h : Writes body (d + 1) a lines) :
    Writes (Emit.indented body) d a lines := by
  rintro p rfl
  obtain ⟨usings, hbody⟩ := h { p with depth := p.depth + 1 } rfl
  exact ⟨usings, returns_indented_iff.mpr ⟨_, hbody, rfl⟩⟩

end Writes

namespace Printer

/-- A text as it stands in a line at some depth; a line without text stays empty. -/
def indented (pr : Printer) (depth : Nat) (s : String) : String :=
  if s.isEmpty then "" else copies pr.indentUnit depth ++ s

variable {pr : Printer} {d : Nat}

/-- A line is written if its parts have texts. -/
theorem writes_line {parts : List Fragment} {s : String}
    (h : Fragment.serializeAll pr.names parts = .ok s) (d : Nat) :
    Writes (pr.line parts) d () [pr.indented d s] := by
  rintro p rfl
  refine ⟨[], ?_⟩
  simp only [line, returns_bind_iff, returns_emit_iff, returns_modify_iff]
  exact ⟨s, p, ⟨h, rfl⟩, by simp [Page.append, indented]⟩

/-- The texts of the lines of a comment, with the lines before and after it. -/
def commentTexts (lines : List String) (start : String) (before after : Option String) :
    List String :=
  before.toList ++
    lines.map (fun s => if s.isEmpty then Text.onChars Text.trimEnd start else start ++ s) ++
      after.toList

/-- A comment is its lines, one behind the other. -/
theorem comment_eq_forM (pr : Printer) (lines : List String) (start : String)
    (before after : Option String) :
    pr.comment lines start before after =
      (commentTexts lines start before after).forM pr.textLine := by
  unfold comment commentTexts
  simp only [List.forM_eq_forM, List.forM_append, List.forM_map]
  -- a line that is not given is no step, and neither is it an item of the list
  cases before <;> cases after <;> simp

/-- A block is its body, one level deeper, between the lines of two brackets. -/
theorem writes_block {body : Emit Unit} {lines : List String}
    (h : Writes body (d + 1) () lines) :
    Writes (pr.block body) d ()
      (pr.indented d "\x7b" :: (lines ++ [pr.indented d "\x7d"])) :=
  (writes_line rfl d).bind (h.indented.bind (writes_line rfl d))

end Printer

end SchemaStruct
