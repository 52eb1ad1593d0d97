import SchemaStruct.Json.Read
import SchemaStruct.Json.Written
import SchemaStruct.Proofs.Text.Breaks

/-!
# Escapes in Written Texts

A written text has a character in one of three forms: as it is, behind a backslash under a letter of
its own, or as the escapes of its UTF-16 units. All three are in printable ASCII. Both the units and
the digits of their escapes can be read back, so nothing about the text is lost.

## Main definitions

* `Text.charUnits` and `Text.units`: the UTF-16 units of a character and of a text;
* `Json.shortEscapes`: the characters with a letter of their own.

## Main results

* `Text.units_injective`: a text is known from its units;
* `Json.escapeChar_cases`: the three forms of a character;
* `Json.hex4?_hexDigits`: the digits of a unit stand for the unit;
* `Json.isPrintableAscii_of_mem_escapeString`: written texts are in printable ASCII.
-/

namespace SchemaStruct

namespace Text

/-- The UTF-16 units of a character: itself, or a pair of surrogates for it. -/
def charUnits (c : Char) : List Nat :=
  if c.toNat < 0x10000 then [c.toNat]
  else [0xD800 + (c.toNat - 0x10000) / 0x400, 0xDC00 + (c.toNat - 0x10000) % 0x400]

/-- The UTF-16 units of a text. -/
def units (s : String) : List Nat := s.toList.flatMap charUnits

/-- The number of a character lies in one of two ranges, with the surrogates in between. -/
theorem toNat_cases (c : Char) :
    c.toNat < 0xD800 ∨ 0xDFFF < c.toNat ∧ c.toNat < 0x110000 :=
  c.valid

/-- Units are numbers of sixteen bits. -/
theorem lt_of_mem_charUnits {c : Char} {unit : Nat} (h : unit ∈ charUnits c) :
    unit < 0x10000 := by
  have hc := toNat_cases c
  unfold charUnits at h
  split at h
  · obtain rfl := List.mem_singleton.mp h
    assumption
  · rcases List.mem_pair.mp h with h | h <;> omega

/-- The first character of a text is known from its units, and so are the units behind it: no
character has a surrogate as its number. -/
theorem eq_of_charUnits_append {c d : Char} {rest more : List Nat}
    (h : charUnits c ++ rest = charUnits d ++ more) : c = d ∧ rest = more := by
  have hc := toNat_cases c
  have hd := toNat_cases d
  suffices heq : c.toNat = d.toNat by
    obtain rfl := Char.toNat_inj.mp heq
    exact ⟨rfl, List.append_cancel_left h⟩
  unfold charUnits at h
  split at h <;> split at h <;>
    simp only [List.cons_append, List.nil_append, List.cons.injEq] at h <;> omega

/-- A text is known from its units. -/
theorem units_injective : Function.Injective units := by
  intro s t h
  rw [← String.toList_inj]
  unfold units at h
  generalize s.toList = cs at h ⊢
  generalize t.toList = ds at h ⊢
  induction cs generalizing ds with
  | nil =>
    cases ds with
    | nil => rfl
    | cons d ds =>
      rw [List.flatMap_cons, charUnits] at h
      split at h <;> cases h
  | cons c cs ih =>
    cases ds with
    | nil =>
      rw [List.flatMap_cons, charUnits] at h
      split at h <;> cases h
    | cons d ds =>
      rw [List.flatMap_cons, List.flatMap_cons] at h
      obtain ⟨rfl, hrest⟩ := eq_of_charUnits_append h
      rw [ih ds hrest]

end Text

namespace Json

open Text

/-- The letters that stand for characters behind a backslash, with these characters. -/
def shortEscapes : List (Char × Char) :=
  [('"', '"'), ('\\', '\\'), ('n', '\n'), ('r', '\r'), ('t', '\t'), ('f', '\x0c'), ('b', '\x08')]

/-- A character is written as it is, under a letter of its own, or by the escapes of its units. -/
theorem escapeChar_cases (c : Char) :
    (escapeChar c = [c] ∧ IsPrintableAscii c ∧ c ≠ '"' ∧ c ≠ '\\') ∨
      (∃ letter, escapeChar c = ['\\', letter] ∧ (letter, c) ∈ shortEscapes) ∨
      escapeChar c = (charUnits c).flatMap unitEscape := by
  by_cases hletter : ∃ pair ∈ shortEscapes, pair.2 = c
  · obtain ⟨pair, hpair, rfl⟩ := hletter
    have hwritten : ∀ pair ∈ shortEscapes, escapeChar pair.2 = ['\\', pair.1] := by decide
    exact .inr (.inl ⟨pair.1, hwritten pair hpair, hpair⟩)
  · have hne : ∀ pair ∈ shortEscapes, c ≠ pair.2 :=
      fun pair hpair heq => hletter ⟨pair, hpair, heq.symm⟩
    simp only [shortEscapes, List.forall_mem_cons] at hne
    obtain ⟨hquote, hslash, hfeed, hreturn, htab, hform, hback, -⟩ := hne
    unfold escapeChar
    rw [if_neg hquote, if_neg hslash, if_neg hfeed, if_neg hreturn, if_neg htab, if_neg hform,
      if_neg hback]
    split
    · next hc => exact .inl ⟨rfl, hc, hquote, hslash⟩
    · refine .inr (.inr ?_)
      unfold charUnits
      split
      · exact (List.append_nil _).symm
      · simp

/-- A hexadecimal digit stands for its number. -/
theorem hexValue?_hexDigit (n : Nat) : hexValue? (hexDigit n) = some (n % 16) := by
  have hdigit : ∀ k < 16, hexValue? (Nat.digitChar k) = some k := by decide
  exact hdigit (n % 16) (Nat.mod_lt n (by decide))

/-- Four hexadecimal digits of a unit stand for the unit. -/
theorem hex4?_hexDigits {n : Nat} (hn : n < 0x10000) : hex4? (hexDigits 4 n) = some n := by
  have hdigits : hexDigits 4 n =
      [hexDigit (n / 16 / 16 / 16), hexDigit (n / 16 / 16), hexDigit (n / 16), hexDigit n] := rfl
  have hsum : n / 16 / 16 / 16 % 16 * 4096 + n / 16 / 16 % 16 * 256 + n / 16 % 16 * 16 + n % 16 =
      n := by omega
  rw [hdigits]
  simp only [hex4?, hexValue?_hexDigit, Option.bind_eq_bind, Option.bind_some, Option.pure_def,
    hsum]

section

variable {c : Char}

/-- Hexadecimal digits can be printed. -/
theorem isPrintableAscii_of_mem_hexDigits {width n : Nat} (h : c ∈ hexDigits width n) :
    IsPrintableAscii c := by
  induction width generalizing n with
  | zero => cases h
  | succ width ih =>
    have hdigit : ∀ k < 16, IsPrintableAscii (Nat.digitChar k) := by decide
    rcases List.mem_append.mp h with h | h
    · exact ih h
    · rw [List.mem_singleton.mp h]
      exact hdigit (n % 16) (Nat.mod_lt n (by decide))

/-- So can the escape of a unit. -/
theorem isPrintableAscii_of_mem_unitEscape {n : Nat} (h : c ∈ unitEscape n) :
    IsPrintableAscii c := by
  rcases List.mem_cons.mp h with rfl | h
  · decide
  · rcases List.mem_cons.mp h with rfl | h
    · decide
    · exact isPrintableAscii_of_mem_hexDigits h

/-- So can what is written for a character. -/
theorem isPrintableAscii_of_mem_escapeChar {d : Char} (h : c ∈ escapeChar d) :
    IsPrintableAscii c := by
  have hletter : ∀ pair ∈ shortEscapes, IsPrintableAscii pair.1 := by decide
  rcases escapeChar_cases d with ⟨hd, hprintable, -⟩ | ⟨letter, hd, hmem⟩ | hd
  · rw [hd] at h
    exact List.mem_singleton.mp h ▸ hprintable
  · rw [hd] at h
    rcases List.mem_pair.mp h with rfl | rfl
    · decide
    · exact hletter _ hmem
  · rw [hd] at h
    obtain ⟨unit, -, hunit⟩ := List.mem_flatMap.mp h
    exact isPrintableAscii_of_mem_unitEscape hunit

/-- A written text is in printable ASCII, whatever text it is. -/
theorem isPrintableAscii_of_mem_escapeString {s : String} (h : c ∈ escapeString s) :
    IsPrintableAscii c := by
  rcases List.mem_append.mp h with h | h
  · rcases List.mem_cons.mp h with rfl | h
    · decide
    · obtain ⟨d, -, hd⟩ := List.mem_flatMap.mp h
      exact isPrintableAscii_of_mem_escapeChar hd
  · rw [List.mem_singleton.mp h]
    decide

end

end Json

end SchemaStruct
