import SchemaStruct.Generator.Basic
import SchemaStruct.Proofs.Text.Lines

/-!
# Tidy Code

Tidying code changes nothing but blanks. The lines with text stay as they are, less the blanks at
their ends; between two of them at most one blank line is left, and behind the last one there is
one line feed and nothing else.

## Main definitions

* `Tidy.Apart`: one of two lines has text;
* `Tidy.core`: tidy code without the line feed at its end.

## Main results

* `Tidy.filter_splitOn_code`: which lines with text tidy code has;
* `Tidy.isChain_splitOn_code`: no two of its lines in a row are blank;
* `Tidy.exists_code_eq`: it ends in one line feed.
-/

namespace SchemaStruct.Tidy

open Text
open Template.Filter (hasText)

/-- One of two lines has text. -/
def Apart (line next : List Char) : Prop := hasText line = true ∨ hasText next = true

section

variable {lines : List (List Char)} {blank : Bool}

/-- Leaving out blank lines leaves all lines with text. -/
theorem filter_collapse (blank : Bool) (lines : List (List Char)) :
    (collapse blank lines).filter hasText = lines.filter hasText := by
  induction lines generalizing blank with
  | nil => rfl
  | cons line rest ih =>
    rw [collapse]
    by_cases hempty : line.isEmpty
    · obtain rfl := List.isEmpty_iff.mp hempty
      have hnone : hasText [] = false := rfl
      cases blank <;> simp [ih, hnone]
    · simp [hempty, List.filter_cons, ih]

/-- No line is new. -/
theorem mem_of_mem_collapse {line : List Char} (h : line ∈ collapse blank lines) :
    line ∈ lines := by
  induction lines generalizing blank with
  | nil => exact h
  | cons first rest ih =>
    rw [collapse] at h
    by_cases hempty : first.isEmpty
    · rw [if_pos hempty] at h
      obtain rfl := List.isEmpty_iff.mp hempty
      cases blank with
      | true => exact List.mem_cons_of_mem _ (ih h)
      | false =>
        rcases List.mem_cons.mp h with rfl | h
        · exact List.mem_cons_self
        · exact List.mem_cons_of_mem _ (ih h)
    · rw [if_neg hempty] at h
      rcases List.mem_cons.mp h with rfl | h
      · exact List.mem_cons_self
      · exact List.mem_cons_of_mem _ (ih h)

/-- Unless a blank line stands in front, the first line is kept. -/
theorem collapse_ne_nil (hne : lines ≠ []) : collapse false lines ≠ [] := by
  cases lines with
  | nil => exact absurd rfl hne
  | cons line rest =>
    rw [collapse]
    split <;> simp

/-- No two blank lines in a row are left of lines that are empty or have text, and none behind a
blank line in front. -/
theorem isChain_collapse (h : ∀ line ∈ lines, line ≠ [] → hasText line = true) :
    (collapse blank lines).IsChain Apart ∧
      (blank = true → ∀ line ∈ (collapse blank lines).head?, hasText line = true) := by
  induction lines generalizing blank with
  | nil => simp [collapse]
  | cons line rest ih =>
    obtain ⟨hline, hrest⟩ := List.forall_mem_cons.mp h
    rw [collapse]
    by_cases hempty : line.isEmpty
    · rw [if_pos hempty]
      obtain ⟨hchain, hhead⟩ := @ih true hrest
      cases blank with
      | true => exact ⟨hchain, hhead⟩
      | false =>
        -- the blank line that is kept has a line with text behind it, if any
        refine ⟨List.isChain_cons.mpr ⟨fun next hnext => ?_, hchain⟩, by simp⟩
        exact .inr (hhead rfl next hnext)
    · rw [if_neg hempty]
      have htext : hasText line = true := hline (by simpa using hempty)
      obtain ⟨hchain, -⟩ := @ih false hrest
      refine ⟨List.isChain_cons.mpr ⟨fun next _ => .inl htext, hchain⟩, ?_⟩
      rintro - line' hline'
      obtain rfl := Option.some.inj hline'
      exact htext

end

/-- The lines of a text without the blanks at their ends and without repeated blank lines. -/
def kept (s : String) : List (List Char) :=
  collapse false ((splitOn '\n' s.toList).map trimEnd)

/-- Tidy code without the line feed at its end. -/
def core (s : String) : List Char := trimWhile (· == '\n') (joinWith ['\n'] (kept s))

variable (s : String)

/-- Tidy code ends in a line feed. -/
theorem toList_code : (code s).toList = core s ++ ['\n'] :=
  String.toList_ofList

/-- The lines that are kept have no line feed in them, and have text unless they are empty. -/
theorem of_mem_kept {line : List Char} (h : line ∈ kept s) :
    '\n' ∉ line ∧ (line ≠ [] → hasText line = true) := by
  obtain ⟨piece, hpiece, rfl⟩ := List.mem_map.mp (mem_of_mem_collapse h)
  refine ⟨fun hmem => not_mem_of_mem_splitOn hpiece (mem_of_mem_trimEnd hmem), fun hne => ?_⟩
  rw [hasText_trimEnd]
  exact Bool.of_not_eq_false fun hnone => hne (trimEnd_eq_nil_iff.mpr hnone)

/-- The lines that are kept are those of the tidy code, and some empty ones around it. -/
theorem exists_kept_eq :
    ∃ m n, kept s = List.replicate m [] ++ splitOn '\n' (core s) ++ List.replicate n [] := by
  have hne : kept s ≠ [] := collapse_ne_nil (by simp [splitOn_ne_nil])
  have hsplit := splitOn_joinWith_of_not_mem hne fun line hline => (of_mem_kept s hline).1
  rw [← hsplit]
  exact exists_splitOn_trimWhile '\n' _

/-- No two lines of the tidy code in a row are blank. -/
theorem isChain_splitOn_core : (splitOn '\n' (core s)).IsChain Apart := by
  have hkept : (kept s).IsChain Apart := by
    refine (isChain_collapse fun line hline hne => ?_).1
    obtain ⟨piece, -, rfl⟩ := List.mem_map.mp hline
    rw [hasText_trimEnd]
    exact Bool.of_not_eq_false fun hnone => hne (trimEnd_eq_nil_iff.mpr hnone)
  obtain ⟨m, n, heq⟩ := exists_kept_eq s
  exact (heq ▸ hkept).left_of_append.right_of_append

/-- The lines of the tidy code are lines that are kept. -/
theorem mem_kept_of_mem_splitOn {line : List Char} (h : line ∈ splitOn '\n' (core s)) :
    line ∈ kept s := by
  obtain ⟨m, n, heq⟩ := exists_kept_eq s
  rw [heq]
  exact List.mem_append_left _ (List.mem_append_right _ h)

/-- Empty lines have no text. -/
theorem filter_replicate_nil (n : Nat) :
    (List.replicate n ([] : List Char)).filter hasText = [] := by
  rw [List.filter_eq_nil_iff]
  intro line hline
  rw [List.eq_of_mem_replicate hline]
  decide

/-- The lines with text are those that had text before, without the blanks at their ends. -/
theorem filter_splitOn_core :
    (splitOn '\n' (core s)).filter hasText =
      ((splitOn '\n' s.toList).filter hasText).map trimEnd := by
  obtain ⟨m, n, hkept⟩ := exists_kept_eq s
  calc (splitOn '\n' (core s)).filter hasText = (kept s).filter hasText := by
        rw [hkept, List.filter_append, List.filter_append, filter_replicate_nil,
          filter_replicate_nil, List.nil_append, List.append_nil]
    _ = ((splitOn '\n' s.toList).map trimEnd).filter hasText := filter_collapse false _
    _ = ((splitOn '\n' s.toList).filter hasText).map trimEnd := by
        rw [List.filter_map]
        congr 2
        exact funext hasText_trimEnd

/-- The lines of tidy code that have text are those of the code before, without the blanks at their
ends. -/
theorem filter_splitOn_code :
    (splitOn '\n' (code s).toList).filter hasText =
      ((splitOn '\n' s.toList).filter hasText).map trimEnd := by
  have hsplit : splitOn '\n' (core s ++ ['\n']) = splitOn '\n' (core s) ++ [[]] :=
    splitOn_append '\n' (core s) []
  rw [toList_code, hsplit, List.filter_append, filter_splitOn_core]
  simp [hasText]

section

variable {s} (htext : ∃ line ∈ splitOn '\n' s.toList, hasText line = true)

include htext

/-- Code with text ends in something else than a line feed, with one line feed behind it. -/
theorem exists_core_eq : ∃ front c, core s = front ++ [c] ∧ c ≠ '\n' := by
  have hne : core s ≠ [] := by
    intro hnil
    -- no line would have text
    have hlines := filter_splitOn_core s
    rw [hnil] at hlines
    obtain ⟨line, hline, htext⟩ := htext
    have hmem : trimEnd line ∈ ((splitOn '\n' s.toList).filter hasText).map trimEnd :=
      List.mem_map_of_mem (List.mem_filter.mpr ⟨hline, htext⟩)
    rw [← hlines] at hmem
    simp [splitOn, hasText] at hmem
  refine ⟨(core s).dropLast, (core s).getLast hne, (List.dropLast_concat_getLast hne).symm, ?_⟩
  have hdropped : ((joinWith ['\n'] (kept s)).dropWhile (· == '\n')).reverse.dropWhile
      (· == '\n') ≠ [] := fun hnil => hne (by rw [core, trimWhile, trimEndWhile, hnil]; rfl)
  have hlast := List.head_dropWhile_not (· == '\n') hdropped
  simpa [core, trimWhile, trimEndWhile] using hlast

/-- Tidy code with text ends in exactly one line feed. -/
theorem exists_code_eq : ∃ front c, (code s).toList = front ++ [c, '\n'] ∧ c ≠ '\n' := by
  obtain ⟨front, c, hcore, hc⟩ := exists_core_eq htext
  exact ⟨front, c, by rw [toList_code, hcore, List.append_assoc]; rfl, hc⟩

/-- No two lines of tidy code in a row are blank, the empty one behind its end counted too. -/
theorem isChain_splitOn_code : (splitOn '\n' (code s).toList).IsChain Apart := by
  -- the last line of the code has text
  obtain ⟨front, c, hfront, hc⟩ := exists_core_eq htext
  obtain ⟨last, hlast, hne⟩ : ∃ last, (splitOn '\n' (core s)).getLast? = some last ∧ last ≠ [] :=
    hfront ▸ getLast?_splitOn_ne_nil hc
  have hmem : last ∈ kept s := mem_kept_of_mem_splitOn s (List.mem_of_getLast? hlast)
  rw [toList_code, splitOn_append '\n' (core s) []]
  refine List.isChain_append.mpr
    ⟨isChain_splitOn_core s, by simp [splitOn], fun line hline next _ => .inl ?_⟩
  obtain rfl := Option.some.inj (hlast.symm.trans hline)
  exact (of_mem_kept s hmem).2 hne

end

end SchemaStruct.Tidy
