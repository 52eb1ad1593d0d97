import Mathlib
import SchemaStruct.Proofs.Text.Trimming
import SchemaStruct.Template.Filter

/-!
# Lines of a Text

A text that is joined from pieces is split into what its pieces are split into. Separators at its
ends stand for empty pieces, so trimming them off leaves all other pieces alone; blanks at the end
of a line make no difference to whether it has text.

## Main results

* `Text.splitOn_append` and `Text.splitOn_joinWith`: the pieces of a text that is put together;
* `Text.exists_splitOn_trimWhile`: the pieces of a text whose ends are trimmed;
* `Text.hasText_trimEnd`: a line has text with or without blanks at its end.
-/

namespace SchemaStruct.Text

open Template.Filter (hasText)

section

variable {sep : Char} {cs : List Char}

/-- Texts are split as lists of characters are. -/
theorem splitOn_eq (sep : Char) (cs : List Char) : splitOn sep cs = cs.splitOn sep := by
  rw [List.splitOn_eq_splitOnP]
  induction cs with
  | nil => rfl
  | cons c rest ih =>
    rw [splitOn, List.splitOnP_cons_eq_if_modifyHead, ← ih]
    by_cases hc : c = sep
    · simp [hc]
    · cases h : splitOn sep rest with
      | nil => exact absurd h (splitOn_ne_nil sep rest)
      | cons piece pieces => simp [hc]

/-- A separator stands between the pieces in front of it and those behind it. -/
theorem splitOn_append (sep : Char) (front back : List Char) :
    splitOn sep (front ++ sep :: back) = splitOn sep front ++ splitOn sep back := by
  simp only [splitOn_eq, List.splitOn_eq_splitOnP]
  exact List.splitOnP_append_cons front back (by simp)

/-- A text without the separator is its only piece. -/
theorem splitOn_of_not_mem (h : sep ∉ cs) : splitOn sep cs = [cs] := by
  have hsplit : ([sep].intercalate [cs]).splitOn sep = [cs] :=
    List.splitOn_intercalate sep (by simpa using h) (by simp)
  rw [splitOn_eq]
  simpa using hsplit

/-- A text that is joined by the separator has the pieces of what it is joined from. -/
theorem splitOn_joinWith {pieces : List (List Char)} (hne : pieces ≠ []) :
    splitOn sep (joinWith [sep] pieces) = pieces.flatMap (splitOn sep) := by
  induction pieces with
  | nil => exact absurd rfl hne
  | cons piece pieces ih =>
    cases pieces with
    | nil => simp [joinWith]
    | cons next pieces =>
      have hjoin : joinWith [sep] (piece :: next :: pieces) =
          piece ++ sep :: joinWith [sep] (next :: pieces) := by simp [joinWith]
      rw [hjoin, splitOn_append, ih (by simp), List.flatMap_cons (x := piece)]

/-- Joining pieces without the separator and splitting gives them back. -/
theorem splitOn_joinWith_of_not_mem {pieces : List (List Char)} (hne : pieces ≠ [])
    (h : ∀ piece ∈ pieces, sep ∉ piece) : splitOn sep (joinWith [sep] pieces) = pieces := by
  rw [splitOn_joinWith hne]
  calc pieces.flatMap (splitOn sep) = pieces.flatMap fun piece => [piece] :=
        List.flatMap_congr fun piece hpiece => splitOn_of_not_mem (h piece hpiece)
    _ = pieces := by simp

/-- The pieces of a text consist of its characters other than the separator. -/
theorem mem_of_mem_splitOn {sep c : Char} {cs piece : List Char} (hp : piece ∈ splitOn sep cs)
    (hc : c ∈ piece) : c ∈ cs ∧ c ≠ sep := by
  induction cs generalizing piece with
  | nil =>
    obtain rfl : piece = [] := by simpa [splitOn] using hp
    simp at hc
  | cons x rest ih =>
    rw [splitOn] at hp
    split at hp
    · rcases List.mem_cons.mp hp with rfl | hp
      · simp at hc
      · exact (ih hp hc).imp_left (List.mem_cons_of_mem x)
    · next hx =>
      -- the character belongs to the first piece of the rest, which there always is
      cases hs : splitOn sep rest with
      | nil => exact absurd hs (splitOn_ne_nil sep rest)
      | cons first pieces =>
        simp only [hs] at hp ih
        rcases List.mem_cons.mp hp with rfl | hp
        · rcases List.mem_cons.mp hc with rfl | hc
          · exact ⟨List.mem_cons_self, hx⟩
          · exact (ih List.mem_cons_self hc).imp_left (List.mem_cons_of_mem x)
        · exact (ih (List.mem_cons_of_mem _ hp) hc).imp_left (List.mem_cons_of_mem x)

/-- Every character other than the separator is in one of the pieces. -/
theorem exists_mem_splitOn {sep c : Char} {cs : List Char} (hc : c ∈ cs) (hsep : c ≠ sep) :
    ∃ piece ∈ splitOn sep cs, c ∈ piece := by
  induction cs with
  | nil => simp at hc
  | cons x rest ih =>
    rw [splitOn]
    split
    · next hx =>
      have hrest : c ∈ rest := (List.mem_cons.mp hc).resolve_left fun h => hsep (h.trans hx)
      obtain ⟨piece, hp, hcp⟩ := ih hrest
      exact ⟨piece, List.mem_cons_of_mem _ hp, hcp⟩
    · cases hs : splitOn sep rest with
      | nil => exact absurd hs (splitOn_ne_nil sep rest)
      | cons first pieces =>
        rcases List.mem_cons.mp hc with rfl | hrest
        · exact ⟨c :: first, List.mem_cons_self, List.mem_cons_self⟩
        · obtain ⟨piece, hp, hcp⟩ := ih hrest
          rw [hs] at hp
          rcases List.mem_cons.mp hp with rfl | hp
          · exact ⟨_, List.mem_cons_self, List.mem_cons_of_mem x hcp⟩
          · exact ⟨piece, List.mem_cons_of_mem _ hp, hcp⟩

/-- The first piece of a text that does not begin with the separator is not empty. -/
theorem ne_nil_of_splitOn_eq_cons {sep c : Char} {rest piece : List Char}
    {pieces : List (List Char)} (hc : c ≠ sep) (h : splitOn sep (c :: rest) = piece :: pieces) :
    piece ≠ [] := by
  rw [splitOn, if_neg hc] at h
  cases hrest : splitOn sep rest with
  | nil => exact absurd hrest (splitOn_ne_nil sep rest)
  | cons first others =>
    rw [hrest] at h
    obtain ⟨rfl, -⟩ := List.cons.inj h
    exact List.cons_ne_nil c first

/-- Splitting a text loses its separators and nothing else. -/
theorem flatten_splitOn (sep : Char) (cs : List Char) :
    (splitOn sep cs).flatten = cs.filter fun c => !(c == sep) := by
  induction cs with
  | nil => rfl
  | cons c rest ih =>
    rw [splitOn]
    by_cases hc : c = sep
    · rw [if_pos hc, List.filter_cons_of_neg (by simp [hc]), List.flatten_cons, ih,
        List.nil_append]
    · rw [if_neg hc, List.filter_cons_of_pos (by simp [hc]), ← ih]
      cases h : splitOn sep rest with
      | nil => exact absurd h (splitOn_ne_nil sep rest)
      | cons piece pieces => rfl

/-- No piece has the separator in it. -/
theorem not_mem_of_mem_splitOn {piece : List Char} (h : piece ∈ splitOn sep cs) : sep ∉ piece :=
  fun hsep => (mem_of_mem_splitOn h hsep).2 rfl

/-- Separators in front stand for empty pieces. -/
theorem splitOn_replicate_append (sep : Char) (n : Nat) (cs : List Char) :
    splitOn sep (List.replicate n sep ++ cs) = List.replicate n [] ++ splitOn sep cs := by
  induction n with
  | zero => rfl
  | succ n ih => simp [List.replicate_succ, splitOn, ih]

/-- So do separators at the end. -/
theorem splitOn_append_replicate (sep : Char) (n : Nat) (cs : List Char) :
    splitOn sep (cs ++ List.replicate n sep) = splitOn sep cs ++ List.replicate n [] := by
  cases n with
  | zero => simp
  | succ n =>
    have hempty := splitOn_replicate_append sep n []
    rw [List.append_nil, show splitOn sep [] = [[]] from rfl] at hempty
    rw [List.replicate_succ, splitOn_append, hempty, ← List.replicate_succ', List.replicate_succ]

/-- What is dropped at the front of a text is a number of separators. -/
theorem exists_dropWhile_eq (sep : Char) (cs : List Char) :
    ∃ n, cs = List.replicate n sep ++ cs.dropWhile (· == sep) := by
  refine ⟨(cs.takeWhile (· == sep)).length, ?_⟩
  have htaken : cs.takeWhile (· == sep) =
      List.replicate (cs.takeWhile (· == sep)).length sep := by
    refine List.eq_replicate_length.mpr fun c hc => ?_
    simpa using List.mem_takeWhile_imp hc
  rw [← htaken, List.takeWhile_append_dropWhile]

/-- What is trimmed at the end of a text is a number of separators. -/
theorem exists_trimEndWhile_eq (sep : Char) (cs : List Char) :
    ∃ n, cs = trimEndWhile (· == sep) cs ++ List.replicate n sep := by
  obtain ⟨n, hn⟩ := exists_dropWhile_eq sep cs.reverse
  refine ⟨n, ?_⟩
  have hreverse := congrArg List.reverse hn
  rwa [List.reverse_reverse, List.reverse_append, List.reverse_replicate] at hreverse

/-- Trimming separators off the ends of a text leaves all its pieces but some empty ones. -/
theorem exists_splitOn_trimWhile (sep : Char) (cs : List Char) :
    ∃ m n, splitOn sep cs =
      List.replicate m [] ++ splitOn sep (trimWhile (· == sep) cs) ++ List.replicate n [] := by
  obtain ⟨m, hm⟩ := exists_dropWhile_eq sep cs
  obtain ⟨n, hn⟩ := exists_trimEndWhile_eq sep (cs.dropWhile (· == sep))
  refine ⟨m, n, ?_⟩
  rw [trimWhile, List.append_assoc, ← splitOn_append_replicate, ← hn, ← splitOn_replicate_append,
    ← hm]

/-- The last piece of a text that does not end in the separator is not empty. -/
theorem getLast?_splitOn_ne_nil {front : List Char} {c : Char} (hc : c ≠ sep) :
    ∃ piece, (splitOn sep (front ++ [c])).getLast? = some piece ∧ piece ≠ [] := by
  induction front with
  | nil => exact ⟨[c], by simp [splitOn, hc], by simp⟩
  | cons x front ih =>
    obtain ⟨piece, hlast, hpiece⟩ := ih
    rw [List.cons_append, splitOn]
    cases hsplit : splitOn sep (front ++ [c]) with
    | nil => exact absurd hsplit (splitOn_ne_nil sep _)
    | cons first pieces =>
      rw [hsplit] at hlast
      split
      · exact ⟨piece, by simpa using hlast, hpiece⟩
      · -- the character goes to the first piece, which may be the last one
        cases pieces with
        | nil => exact ⟨x :: first, rfl, by simp⟩
        | cons next pieces => exact ⟨piece, by simpa using hlast, hpiece⟩

end

section

variable {line : List Char}

/-- A line has text if one of its characters is no blank. -/
theorem hasText_iff : hasText line = true ↔ ∃ c ∈ line, isBlank c = false := by
  simp [hasText]

/-- Two parts have text together if one of them has. -/
theorem hasText_append (front line : List Char) :
    hasText (front ++ line) = (hasText front || hasText line) := by
  simp [hasText]

/-- Blanks at the end of a line make no difference to whether it has text. -/
@[simp]
theorem hasText_trimEnd (line : List Char) : hasText (trimEnd line) = hasText line := by
  rw [Bool.eq_iff_iff, hasText_iff, hasText_iff, trimEnd, trimEndWhile]
  constructor
  · rintro ⟨c, hc, hblank⟩
    have hline := List.dropWhile_subset isBlank (List.mem_reverse.mp hc)
    exact ⟨c, List.mem_reverse.mp hline, hblank⟩
  · rintro ⟨c, hc, hblank⟩
    have hkept := mem_dropWhile_of_not (List.mem_reverse.mpr hc) (Bool.eq_false_iff.mp hblank)
    exact ⟨c, List.mem_reverse.mpr hkept, hblank⟩

/-- Nothing is left of a line without text. -/
theorem trimEnd_eq_nil_iff : trimEnd line = [] ↔ hasText line = false := by
  rw [trimEnd, trimEndWhile, List.reverse_eq_nil_iff, List.dropWhile_eq_nil_iff]
  simp [hasText]

/-- A line has no more characters without the blanks at its end. -/
theorem mem_of_mem_trimEnd {c : Char} (h : c ∈ trimEnd line) : c ∈ line := by
  rw [trimEnd, trimEndWhile, List.mem_reverse] at h
  exact List.mem_reverse.mp (List.dropWhile_subset isBlank h)

end

end SchemaStruct.Text
