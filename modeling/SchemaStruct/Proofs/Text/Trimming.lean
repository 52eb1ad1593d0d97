import Mathlib
import SchemaStruct.Text.Blank

/-!
# Trimming

A text that is trimmed loses characters of one sort at its ends and no others. What is left begins
and ends with characters of another sort, and a text that does so is left alone.

## Main results

* `Text.filter_trimWhile`: trimming loses no character of another sort;
* `Text.not_of_trimWhile_eq_cons` and `Text.not_of_mem_getLast?_trimEndWhile`: how the rest begins
  and ends;
* `Text.trimWhile_eq_self` and `Text.trimWhile_append`: where there is nothing to trim, and what is
  trimmed off around such a text.
-/

namespace SchemaStruct.Text

variable {p : Char → Bool} {c : Char} {cs : List Char}

/-- What is left after trimming stood together before. -/
theorem isInfix_trimWhile (p : Char → Bool) (cs : List Char) : trimWhile p cs <:+: cs :=
  (List.rdropWhile_prefix p (cs.dropWhile p)).isInfix.trans (List.dropWhile_suffix p).isInfix

/-- What is left after trimming was there before. -/
theorem mem_of_mem_trimWhile (h : c ∈ trimWhile p cs) : c ∈ cs :=
  (isInfix_trimWhile p cs).subset h

/-- Dropping at the front loses no character without the property. -/
theorem mem_dropWhile_of_not (h : c ∈ cs) (hp : ¬ p c) : c ∈ cs.dropWhile p := by
  rw [← List.takeWhile_append_dropWhile (p := p) (l := cs), List.mem_append] at h
  exact h.resolve_left fun ht => hp (List.mem_takeWhile_imp ht)

/-- Trimming loses no character without the property. -/
theorem mem_trimWhile_of_not (h : c ∈ cs) (hp : ¬ p c) : c ∈ trimWhile p cs := by
  rw [trimWhile, trimEndWhile, List.mem_reverse]
  exact mem_dropWhile_of_not (List.mem_reverse.mpr (mem_dropWhile_of_not h hp)) hp

/-- A text that is not trimmed away has a character without the property. -/
theorem exists_mem_trimWhile (h : trimWhile p cs ≠ []) : ∃ c ∈ trimWhile p cs, ¬ p c := by
  rw [trimWhile, trimEndWhile] at h ⊢
  have hne := fun hnil => h (List.reverse_eq_nil_iff.mpr hnil)
  refine ⟨_, List.mem_reverse.mpr (List.head_mem hne), ?_⟩
  simpa using List.head_dropWhile_not p hne

/-- A text begins with no separator after trimming. -/
theorem not_of_trimWhile_eq_cons {rest : List Char} (h : trimWhile p cs = c :: rest) :
    p c = false := by
  -- trimming at the end leaves the first character
  have hprefix : trimWhile p cs <+: cs.dropWhile p := by
    have hdropped := List.reverse_prefix.2 (List.dropWhile_suffix p (l := (cs.dropWhile p).reverse))
    rwa [List.reverse_reverse] at hdropped
  obtain ⟨behind, hbehind⟩ := hprefix
  rw [h, List.cons_append] at hbehind
  have hne : cs.dropWhile p ≠ [] := hbehind ▸ List.cons_ne_nil c _
  have hhead := List.head_dropWhile_not p hne
  simpa [← hbehind] using hhead

/-- Trimming leaves a text alone if it stops at both ends. -/
theorem trimWhile_eq_self {d : Char} (hc : c ∈ cs.head?) (hd : d ∈ cs.getLast?) (hpc : p c = false)
    (hpd : p d = false) : trimWhile p cs = cs := by
  obtain ⟨front, rfl⟩ := List.getLast?_eq_some_iff.mp hd
  have hfront : (front ++ [d]).dropWhile p = front ++ [d] := by
    cases hcs : front ++ [d] with
    | nil => rfl
    | cons x rest =>
      rw [hcs] at hc
      obtain rfl := Option.some.inj hc
      exact List.dropWhile_cons_of_neg (by simp [hpc])
  rw [trimWhile, hfront]
  exact List.rdropWhile_concat_neg p front d (by simp [hpd])

/-- Trimming at the end leaves no separator there. -/
theorem not_of_mem_getLast?_trimEndWhile (h : c ∈ (trimEndWhile p cs).getLast?) : p c = false := by
  have hne : cs.rdropWhile p ≠ [] := by
    rintro hnil
    rw [show trimEndWhile p cs = cs.rdropWhile p from rfl, hnil] at h
    cases h
  have hlast := List.rdropWhile_last_not p cs hne
  obtain rfl : (cs.rdropWhile p).getLast hne = c :=
    Option.some.inj ((List.getLast?_eq_some_getLast hne).symm.trans h)
  simpa using hlast

/-- Trimming a second time changes nothing. -/
theorem trimWhile_trimWhile (p : Char → Bool) (cs : List Char) :
    trimWhile p (trimWhile p cs) = trimWhile p cs := by
  by_cases hne : trimWhile p cs = []
  · rw [hne]
    rfl
  · obtain ⟨c, rest, hcons⟩ := List.exists_cons_of_ne_nil hne
    have hhead : c ∈ (trimWhile p cs).head? := by rw [hcons]; rfl
    have hlast := List.getLast?_eq_some_getLast hne
    exact trimWhile_eq_self hhead hlast (not_of_trimWhile_eq_cons hcons)
      (not_of_mem_getLast?_trimEndWhile hlast)

/-- Separators around a text that is trimmed are all that trimming takes away. -/
theorem trimWhile_append {front back : List Char} (h : trimWhile p cs = cs)
    (hfront : ∀ c ∈ front, p c = true) (hback : ∀ c ∈ back, p c = true) :
    trimWhile p (front ++ cs ++ back) = cs := by
  have hend : trimEndWhile p (cs ++ back) = trimEndWhile p cs := by
    rw [trimEndWhile, List.reverse_append, List.dropWhile_append_of_pos (by simpa using hback),
      trimEndWhile]
  rw [trimWhile, List.append_assoc, List.dropWhile_append_of_pos hfront]
  cases cs with
  | nil =>
    have hnil : back.dropWhile p = [] := List.dropWhile_eq_nil_iff.mpr hback
    rw [List.nil_append, hnil]
    rfl
  | cons c rest =>
    -- the text begins with no separator, so nothing more is dropped at the front
    have hc : ¬ p c = true := by simp [not_of_trimWhile_eq_cons h]
    rw [trimWhile, List.dropWhile_cons_of_neg hc] at h
    rw [List.cons_append, List.dropWhile_cons_of_neg hc, ← List.cons_append, hend, h]

/-- Trimming at the end goes no further than a character that is no separator. -/
theorem trimEndWhile_cons (hc : p c = false) (cs : List Char) :
    trimEndWhile p (c :: cs) = c :: trimEndWhile p cs := by
  change (c :: cs).rdropWhile p = c :: cs.rdropWhile p
  induction cs using List.reverseRecOn with
  | nil => exact List.rdropWhile_concat_neg p [] c (by simp [hc])
  | append_singleton cs d ih =>
    rw [← List.cons_append, List.rdropWhile_concat, List.rdropWhile_concat, ih]
    split <;> rfl

/-- What trimming at the front takes away is separators. -/
theorem filter_dropWhile (cs : List Char) :
    (cs.dropWhile p).filter (!p ·) = cs.filter (!p ·) := by
  induction cs with
  | nil => rfl
  | cons c cs ih =>
    by_cases hc : p c
    · rw [List.dropWhile_cons_of_pos hc, ih, List.filter_cons_of_neg (by simp [hc])]
    · rw [List.dropWhile_cons_of_neg hc]

/-- So is what trimming at the end takes away. -/
theorem filter_trimEndWhile (cs : List Char) :
    (trimEndWhile p cs).filter (!p ·) = cs.filter (!p ·) := by
  rw [trimEndWhile, List.filter_reverse, filter_dropWhile, List.filter_reverse,
    List.reverse_reverse]

/-- And what trimming at both ends takes away. -/
theorem filter_trimWhile (cs : List Char) :
    (trimWhile p cs).filter (!p ·) = cs.filter (!p ·) := by
  rw [trimWhile, filter_trimEndWhile, filter_dropWhile]

end SchemaStruct.Text
