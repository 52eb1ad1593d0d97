import SchemaStruct.Proofs.Source.Tidy

/-!
# The Normal Form of Code

Tidying takes code to a normal form. What the form is can be said without tidying: the text ends in
one line feed, no line has blanks at its end, no two lines in a row are blank, and the first line is
not blank either, unless there is nothing but the line feed. Tidying reaches this form, loses no
line with text on the way, and leaves alone what has the form already.

Lines are the pieces in front of line feeds; blanks are those of Unicode, so a line may hold other
breaks. A line of blanks only becomes empty first, so that it counts as a blank line later.

## Main definitions

* `Tidy.terminatedLines`: the lines of a text that ends in a line feed;
* `Tidy.IsNormal`: the normal form.

## Main results

* `Tidy.isNormal_code`: tidying reaches the normal form;
* `Tidy.code_eq_self`: tidying leaves the normal form alone;
* `Tidy.code_isNormalForm`: both together, with the lines that are kept.
-/

namespace SchemaStruct.Tidy

open Text
open Template.Filter (hasText)

/-- The lines of a text that ends in a line feed: nothing stands behind the last line feed. -/
def terminatedLines (t : String) : List (List Char) := (splitOn '\n' t.toList).dropLast

/-- The normal form of code. -/
structure IsNormal (t : String) : Prop where
  /-- It ends in exactly one line feed. -/
  ends : ∃ front, t.toList = front ++ ['\n'] ∧ front.getLast? ≠ some '\n'
  /-- No line has blanks at its end. -/
  stripped : ∀ line ∈ splitOn '\n' t.toList, ∀ c ∈ line.getLast?, isBlank c = false
  /-- Of two lines in a row, one has text. -/
  apart : (terminatedLines t).IsChain Apart
  /-- The first line has text, unless there is nothing but a line feed. -/
  begins : t ≠ "\n" → ∀ line ∈ (terminatedLines t).head?, hasText line = true

variable {lines : List (List Char)} {line : List Char} {blank : Bool}

/-! ### Tidy code has the normal form -/

variable (s : String)

/-- The lines of the tidy code have no blanks at their ends. -/
theorem not_isBlank_of_mem_kept {c : Char} (h : line ∈ kept s) (hc : c ∈ line.getLast?) :
    isBlank c = false := by
  obtain ⟨piece, -, rfl⟩ := List.mem_map.mp (mem_of_mem_collapse h)
  exact not_of_mem_getLast?_trimEndWhile hc

/-- The lines of tidy code, and the empty piece behind the line feed at its end. -/
theorem splitOn_code : splitOn '\n' (code s).toList = splitOn '\n' (core s) ++ [[]] := by
  rw [toList_code]
  exact splitOn_append '\n' (core s) []

/-- The lines of tidy code. -/
theorem terminatedLines_code : terminatedLines (code s) = splitOn '\n' (core s) := by
  rw [terminatedLines, splitOn_code, List.dropLast_concat]

/-- Neither end of the tidy code is a line feed, apart from the one behind it. -/
theorem ne_lineFeed_of_core :
    (∀ c ∈ (core s).head?, c ≠ '\n') ∧ ∀ c ∈ (core s).getLast?, c ≠ '\n' := by
  constructor
  · intro c hc
    cases hcore : core s with
    | nil => simp [hcore] at hc
    | cons first rest =>
      rw [hcore] at hc
      obtain rfl := Option.some.inj hc
      simpa using not_of_trimWhile_eq_cons (p := (· == '\n')) hcore
  · intro c hc
    simpa using not_of_mem_getLast?_trimEndWhile (p := (· == '\n')) hc

/-- Tidying reaches the normal form. -/
theorem isNormal_code : IsNormal (code s) := by
  obtain ⟨hfirst, hlast⟩ := ne_lineFeed_of_core s
  refine ⟨⟨core s, toList_code s, fun h => hlast '\n' h rfl⟩, ?stripped, ?apart, ?begins⟩
  case stripped =>
    rw [splitOn_code]
    intro line hline c hc
    rcases List.mem_append.mp hline with hline | hline
    · exact not_isBlank_of_mem_kept s (mem_kept_of_mem_splitOn s hline) hc
    · obtain rfl := List.mem_singleton.mp hline
      cases hc
  case apart =>
    rw [terminatedLines_code]
    exact isChain_splitOn_core s
  case begins =>
    intro hne line hline
    rw [terminatedLines_code] at hline
    cases hcore : core s with
    | nil =>
      -- then nothing but the line feed is left
      refine absurd ?_ hne
      rw [← String.toList_inj, toList_code, hcore]
      rfl
    | cons c rest =>
      have hc : c ≠ '\n' := hfirst c (by rw [hcore]; rfl)
      cases hsplit : splitOn '\n' (core s) with
      | nil => exact absurd hsplit (splitOn_ne_nil '\n' (core s))
      | cons piece pieces =>
        rw [hsplit] at hline
        obtain rfl := Option.some.inj hline
        have hmem : piece ∈ kept s :=
          mem_kept_of_mem_splitOn s (hsplit ▸ List.mem_cons_self)
        exact (of_mem_kept s hmem).2 (ne_nil_of_splitOn_eq_cons hc (hcore ▸ hsplit))

variable {s}

/-! ### Tidying leaves the normal form alone -/

/-- Nothing is left out where no two lines in a row are blank. -/
theorem collapse_eq_self (h : lines.IsChain Apart)
    (hblank : blank = true → ∀ line ∈ lines.head?, hasText line = true) :
    collapse blank lines = lines := by
  induction lines generalizing blank with
  | nil => rfl
  | cons line rest ih =>
    obtain ⟨hnext, hrest⟩ := List.isChain_cons.mp h
    rw [collapse]
    by_cases hempty : line.isEmpty
    · obtain rfl := List.isEmpty_iff.mp hempty
      cases blank with
      | true =>
        -- a blank line in front would be the second one in a row
        exact absurd (hblank rfl [] rfl) (by decide)
      | false =>
        have hbehind : ∀ next ∈ rest.head?, hasText next = true := fun next hmem =>
          (hnext next hmem).resolve_left (by decide)
        simp [ih hrest fun _ => hbehind]
    · simp [hempty, @ih false hrest (by simp)]

/-- A line without blanks at its end stays as it is. -/
theorem trimEnd_eq_self (h : ∀ c ∈ line.getLast?, isBlank c = false) : trimEnd line = line := by
  refine List.rdropWhile_eq_self_iff.mpr fun hne => ?_
  simp [h _ (List.getLast?_eq_some_getLast hne)]

/-- A line without blanks at its end is empty or has text. -/
theorem hasText_of_ne_nil (h : ∀ c ∈ line.getLast?, isBlank c = false) (hne : line ≠ []) :
    hasText line = true :=
  hasText_iff.mpr ⟨line.getLast hne, List.getLast_mem hne,
    h _ (List.getLast?_eq_some_getLast hne)⟩

namespace IsNormal

variable {t : String} {front : List Char}

/-- In the normal form, the first character is no line feed, unless it is the only one. -/
theorem head_ne (h : IsNormal t) (hfront : t.toList = front ++ ['\n']) :
    ∀ c ∈ front.head?, c ≠ '\n' := by
  rintro c hc rfl
  obtain ⟨rest, rfl⟩ : ∃ rest, front = '\n' :: rest := List.head?_eq_some_iff.mp hc
  -- the first line would be empty
  have hlines : terminatedLines t = [] :: splitOn '\n' rest := by
    have hsplit : splitOn '\n' ('\n' :: rest ++ ['\n']) = ([] :: splitOn '\n' rest) ++ [[]] := by
      rw [List.cons_append, splitOn, if_pos rfl, splitOn_append]
      rfl
    rw [terminatedLines, hfront, hsplit, List.dropLast_concat]
  have hne : t ≠ "\n" := by
    rintro rfl
    have hlength := congrArg List.length hfront
    simp at hlength
  have htext := h.begins hne [] (by rw [hlines]; rfl)
  exact absurd htext (by decide)

/-- In the normal form, no two lines in a row are blank, the empty piece behind the last line feed
counted too, if there is anything in front of that line feed. -/
theorem isChain_splitOn (h : IsNormal t) (hfront : t.toList = front ++ ['\n']) (hne : front ≠ []) :
    (splitOn '\n' t.toList).IsChain Apart := by
  have hend : front.getLast? ≠ some '\n' := by
    obtain ⟨others, hothers, hend⟩ := h.ends
    rwa [show front = others by simpa using hfront.symm.trans hothers]
  have hsplit : splitOn '\n' t.toList = splitOn '\n' front ++ [[]] := by
    rw [hfront]
    exact splitOn_append '\n' front []
  have hlines : terminatedLines t = splitOn '\n' front := by
    rw [terminatedLines, hsplit, List.dropLast_concat]
  obtain ⟨init, c, rfl⟩ := List.eq_nil_or_concat front |>.resolve_left hne
  have hc : c ≠ '\n' := fun heq => hend (by simp [heq])
  obtain ⟨last, hlast, hnonempty⟩ :
      ∃ last, (splitOn '\n' (init ++ [c])).getLast? = some last ∧ last ≠ [] :=
    getLast?_splitOn_ne_nil hc
  rw [List.concat_eq_append] at hsplit hlines
  rw [hsplit]
  refine List.isChain_append.mpr ⟨hlines ▸ h.apart, by simp, fun line hline next _ => .inl ?_⟩
  obtain rfl := Option.some.inj (hlast.symm.trans hline)
  have hmem : last ∈ splitOn '\n' t.toList :=
    hsplit ▸ List.mem_append_left _ (List.mem_of_getLast? hlast)
  exact hasText_of_ne_nil (h.stripped last hmem) hnonempty

end IsNormal

/-- Tidying leaves the normal form alone. -/
theorem code_eq_self {t : String} (h : IsNormal t) : code t = t := by
  obtain ⟨front, hfront, hlast⟩ := h.ends
  by_cases hne : front = []
  · -- nothing but a line feed
    obtain rfl : t = "\n" := by rw [← String.toList_inj, hfront, hne]; rfl
    decide
  · have hstripped : (splitOn '\n' t.toList).map trimEnd = splitOn '\n' t.toList :=
      (List.map_congr_left fun line hline => trimEnd_eq_self (h.stripped line hline)).trans
        (List.map_id' _)
    have hkept : kept t = splitOn '\n' t.toList := by
      rw [kept, hstripped]
      exact collapse_eq_self (h.isChain_splitOn hfront hne) (by simp)
    have hcore : core t = front := by
      rw [core, hkept, joinWith_splitOn, hfront]
      obtain ⟨first, hfirst⟩ : ∃ c, front.head? = some c := ⟨_, List.head?_eq_some_head hne⟩
      have hself : trimWhile (· == '\n') front = front := by
        refine trimWhile_eq_self hfirst (List.getLast?_eq_some_getLast hne) ?_ ?_
        · simpa using h.head_ne hfront first hfirst
        · simpa [List.getLast?_eq_some_getLast hne] using hlast
      -- the line feed at the end is all that is trimmed off
      show trimWhile (· == '\n') ([] ++ front ++ ['\n']) = front
      exact trimWhile_append hself (by simp) (by simp)
    rw [← String.toList_inj, toList_code, hcore, hfront]

/-- Tidying gives the normal form of a text and keeps all code: the lines with text are those of the
text, in order and without the blanks at their ends. Tidying a second time changes nothing, as the
texts that stay as they are are just those that have the normal form. -/
theorem code_isNormalForm (s : String) :
    (splitOn '\n' (code s).toList).filter hasText =
        ((splitOn '\n' s.toList).filter hasText).map trimEnd ∧
      IsNormal (code s) ∧ code (code s) = code s ∧ ∀ t, code t = t ↔ IsNormal t :=
  ⟨filter_splitOn_code s, isNormal_code s, code_eq_self (isNormal_code s),
    fun t => ⟨fun h => h ▸ isNormal_code t, code_eq_self⟩⟩

example : code "\n \n  a \t\n\u3000\n\n\nb\n \n" = "  a\n\nb\n" := by decide

end SchemaStruct.Tidy
