import Mathlib
import SchemaStruct.Text.Case

/-!
# Lower Case is Final

A text in lower case has no other lower case form: no character that the mapping gives is mapped
further. On the tables this is a matter of the runs, none of which leads to a character that is
mapped itself.

## Main definitions

* `Text.CaseRun.misses`: no character that one run leads to lies on the other;
* `Text.IsLower`: a character that is its own lower case form wherever it stands.

## Main results

* `Text.isLower_of_mem_lowerFrom`: the lower case form of a text has only such characters;
* `Text.lowerCase_lowerCase`: taking the lower case form twice changes nothing.
-/

namespace SchemaStruct.Text

namespace CaseRun

variable {a b : CaseRun} {c : Nat}

/-- Where the run leads from one of its code points. -/
def image (a : CaseRun) (n : Nat) : Nat := (n + a.shift).toNat

/-- Whether the run `a` is seen to lead to no code point of the run `b`: either all that it leads to
lie in front of `b` or behind it, or `b` takes every other code point and `a` leads to those
between. -/
def misses (a b : CaseRun) : Bool :=
  -- all pairs of a table are tried, so the test is one that is evaluated quickly
  (a.image a.last).blt b.first || b.last.blt (a.image a.first) ||
    b.step == 2 && (a.step == 2 || a.first == a.last) && (a.image a.first - b.first) % 2 == 1

/-- What lies on a run. -/
theorem covers_iff :
    a.covers c = true ↔ a.first ≤ c ∧ c ≤ a.last ∧ (c - a.first) % a.step = 0 := by
  simp [covers, and_assoc]

/-- A run does not cover what a run that misses it leads to. -/
theorem covers_image_eq_false (h : a.misses b = true) (hc : a.covers c = true) :
    b.covers (a.image c) = false := by
  obtain ⟨hfirst, hlast, hstep⟩ := covers_iff.1 hc
  by_contra hcovers
  obtain ⟨hfirst', hlast', hstep'⟩ := covers_iff.1 (Bool.not_eq_false _ ▸ hcovers)
  simp only [misses, image, Bool.or_eq_true, Bool.and_eq_true, Nat.blt_eq, beq_iff_eq] at *
  rcases h with (hbefore | hbehind) | ⟨⟨htwo, htwo' | hone⟩, hodd⟩
  · omega
  · omega
  · rw [htwo] at hstep'
    rw [htwo'] at hstep
    omega
  · rw [htwo] at hstep'
    omega

end CaseRun

/-- The code points that have a lower case form other than themselves, as runs. -/
def lowered : List CaseRun := lowerExpansions.map (fun e => ⟨e.1, e.1, 1, 0⟩) ++ lowerRuns

/-- A character that is its own lower case form wherever it stands. -/
def IsLower (c : Char) : Prop := c ≠ 'Σ' ∧ lowerChar c = [c]

instance (c : Char) : Decidable (IsLower c) := inferInstanceAs (Decidable (_ ∧ _))

/-- No run leads to a character that has a lower case form other than itself. -/
theorem lowerRuns_misses : (lowerRuns.all fun a => lowered.all a.misses) = true := by
  decide +kernel

/-- A character of the first block stays or is covered by a run. -/
theorem toLower_eq_or_covers :
    ∀ n < 128, (Char.ofNat n).toLower = Char.ofNat n ∨ ∃ run ∈ lowered, run.covers n = true := by
  decide +kernel

/-- The lower case form of a character of the first block is its own lower case form. -/
theorem isLower_toLower : ∀ n < 128, IsLower (Char.ofNat n).toLower := by decide +kernel

/-- The pieces of a longer lower case form are their own lower case forms. -/
theorem isLower_of_mem_lowerExpansions :
    ∀ e ∈ lowerExpansions, ∀ n ∈ e.2, IsLower (Char.ofNat n) := by
  decide +kernel

section

variable {c x : Char} {cs : List Char}

/-- The runs of `lowered` are those of the tables. -/
theorem not_covers_lowered_iff {n : Nat} :
    (∀ run ∈ lowered, run.covers n = false) ↔
      lowerExpansions.lookup n = none ∧ lowerRuns.find? (·.covers n) = none := by
  simp only [lowered, List.mem_append, List.mem_map, List.lookup_eq_none_iff, List.find?_eq_none,
    Bool.not_eq_true]
  constructor
  · refine fun h => ⟨fun e he => ?_, fun run hrun => h run (.inr hrun)⟩
    have hcovers := h _ (.inl ⟨e, he, rfl⟩)
    rw [bne_iff_ne]
    rintro rfl
    simp [CaseRun.covers] at hcovers
  · rintro ⟨hlookup, hfind⟩ run (⟨e, he, rfl⟩ | hrun)
    · have hne : n ≠ e.1 := bne_iff_ne.1 (hlookup e he)
      by_contra hcovers
      obtain ⟨hfirst, hlast, -⟩ := CaseRun.covers_iff.1 (Bool.not_eq_false _ ▸ hcovers)
      exact hne (Nat.le_antisymm hlast hfirst)
    · exact hfind run hrun

/-- A character that no run covers is its own lower case form. -/
theorem isLower_of_not_covers (h : ∀ run ∈ lowered, run.covers c.toNat = false) :
    IsLower c := by
  constructor
  · rintro rfl
    exact absurd h (by decide +kernel)
  · by_cases hascii : c.toNat < 128
    · obtain hstays | ⟨run, hrun, hcovers⟩ := toLower_eq_or_covers c.toNat hascii
      · rw [Char.ofNat_toNat] at hstays
        simp [lowerChar, hascii, hstays]
      · rw [h run hrun] at hcovers
        cases hcovers
    · obtain ⟨hlookup, hfind⟩ := not_covers_lowered_iff.1 h
      simp [lowerChar, hascii, mapCase, hlookup, hfind]

/-- What a run leads to is its own lower case form. -/
theorem isLower_apply {run : CaseRun} (hrun : run ∈ lowerRuns) (hc : run.covers c.toNat = true) :
    IsLower (run.apply c.toNat) := by
  by_cases hvalid : Nat.isValidChar ((c.toNat : Int) + run.shift).toNat
  · refine isLower_of_not_covers fun other hother => ?_
    have hmisses : run.misses other = true :=
      List.all_eq_true.1 (List.all_eq_true.1 lowerRuns_misses run hrun) other hother
    have himage : (run.apply c.toNat).toNat = run.image c.toNat := by
      rw [CaseRun.apply, Char.toNat_ofNat, if_pos hvalid, CaseRun.image]
    exact himage ▸ CaseRun.covers_image_eq_false hmisses hc
  · have hdefault : run.apply c.toNat = '\x00' := by
      simp only [CaseRun.apply, Char.ofNat, hvalid, dite_false]
      rfl
    rw [hdefault]
    decide

/-- A lower case form has only characters that are their own lower case forms. -/
theorem isLower_of_mem_lowerChar (h : x ∈ lowerChar c) : IsLower x := by
  by_cases hascii : c.toNat < 128
  · have hlower := isLower_toLower c.toNat hascii
    rw [Char.ofNat_toNat] at hlower
    simp only [lowerChar, hascii, if_true, List.mem_singleton] at h
    rwa [h]
  · simp only [lowerChar, hascii, if_false, mapCase] at h
    cases hlookup : lowerExpansions.lookup c.toNat with
    | some pieces =>
      rw [hlookup] at h
      obtain ⟨n, hn, rfl⟩ := List.mem_map.1 h
      obtain ⟨front, back, heq, -⟩ := List.lookup_eq_some_iff.1 hlookup
      exact isLower_of_mem_lowerExpansions (c.toNat, pieces) (by simp [heq]) n hn
    | none =>
      rw [hlookup] at h
      cases hfind : lowerRuns.find? (·.covers c.toNat) with
      | some run =>
        rw [hfind] at h
        rw [List.mem_singleton.1 h]
        have hcovers : run.covers c.toNat = true := by simpa using List.find?_some hfind
        exact isLower_apply (List.mem_of_find?_eq_some hfind) hcovers
      | none =>
        rw [hfind] at h
        rw [List.mem_singleton.1 h]
        exact isLower_of_not_covers (not_covers_lowered_iff.2 ⟨hlookup, hfind⟩)

/-- The lower case form of a text has only characters that are their own lower case forms. -/
theorem isLower_of_mem_lowerFrom {before : List Char} (h : x ∈ lowerFrom before cs) :
    IsLower x := by
  induction cs generalizing before with
  | nil => simp [lowerFrom] at h
  | cons c rest ih =>
    rcases List.mem_append.1 h with hfirst | hrest
    · split at hfirst
      · -- a capital sigma becomes one of the two small ones, by its neighbours
        rw [List.mem_singleton.1 hfirst]
        split <;> decide +kernel
      · exact isLower_of_mem_lowerChar hfirst
    · exact ih hrest

/-- A text of characters that are their own lower case forms stays. -/
theorem lowerFrom_eq_self {before : List Char} (h : ∀ c ∈ cs, IsLower c) :
    lowerFrom before cs = cs := by
  induction cs generalizing before with
  | nil => rfl
  | cons c rest ih =>
    obtain ⟨hsigma, hlower⟩ := h c List.mem_cons_self
    rw [lowerFrom, if_neg hsigma, hlower, ih fun c hc => h c (List.mem_cons_of_mem _ hc)]
    rfl

end

/-- Taking the lower case form twice changes nothing. -/
@[simp]
theorem lowerCase_lowerCase (s : String) : lowerCase (lowerCase s) = lowerCase s := by
  have hlower : ∀ c ∈ lower s.toList, IsLower c := fun _ hc => isLower_of_mem_lowerFrom hc
  rw [lowerCase, lowerCase, String.toList_ofList]
  exact congrArg String.ofList (lowerFrom_eq_self hlower)

end SchemaStruct.Text
