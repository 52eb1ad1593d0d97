import SchemaStruct.Proofs.CSharp.Constructors
import SchemaStruct.Proofs.Json.Escapes

/-!
# Attributes with the Names of Properties

The attribute of a property holds the name that the property has in documents, written as a text of
a document. The compiler reads it as a string literal, by other rules than those it is written by.
The two agree on all that is ever written, so what the compiler reads is the name, unit by unit, and
it finds the closing quote where the name ends.

## Main definitions

* `CSharp.readLiteral`: how a string literal is read.

## Main results

* `CSharp.readLiteral_escapeString`: a written text is a literal of its units;
* `CSharp.Renderer.attributeLine_injective`: different names have different attributes;
* `CSharp.Renderer.jsonAttribute_roundTrip`: the attribute of a property, and what is read of it.
-/

namespace SchemaStruct

namespace CSharp

open Text (IsPrintableAscii charUnits units)

/-- Whether a character ends a line of a program. -/
def isNewline (c : Char) : Bool :=
  c = '\n' || c = '\r' || c = '\u0085' || c = '\u2028' || c = '\u2029'

/-- The unit that a letter stands for behind a backslash. -/
def letterUnit? : Char → Option Nat
  | '"' => some 34
  | '\\' => some 92
  | 'b' => some 8
  | 'f' => some 12
  | 'n' => some 10
  | 'r' => some 13
  | 't' => some 9
  | _ => none

/-- The units in front of what has been read. -/
def prepend (units : List Nat) : Option (List Nat × List Char) → Option (List Nat × List Char) :=
  Option.map fun (more, behind) => (units ++ more, behind)

/-- Reads a string literal behind its opening quote: the UTF-16 units of its value, and what stands
behind its closing quote. A literal ends on the line that it begins on. -/
def readBody : List Char → Option (List Nat × List Char)
  | [] => none
  | '"' :: behind => some ([], behind)
  | '\\' :: 'u' :: a :: b :: c :: d :: rest =>
    (Json.hex4? [a, b, c, d]).bind fun unit => prepend [unit] (readBody rest)
  | '\\' :: letter :: rest =>
    (letterUnit? letter).bind fun unit => prepend [unit] (readBody rest)
  | c :: rest => if c = '\\' || isNewline c then none else prepend (charUnits c) (readBody rest)

/-- Reads a string literal: the UTF-16 units of its value, and what stands behind it. -/
def readLiteral : List Char → Option (List Nat × List Char)
  | '"' :: rest => readBody rest
  | _ => none

section

variable (rest : List Char)

@[simp]
theorem prepend_nil (r : Option (List Nat × List Char)) : prepend [] r = r := by
  cases r <;> rfl

@[simp]
theorem prepend_prepend (front back : List Nat) (r : Option (List Nat × List Char)) :
    prepend front (prepend back r) = prepend (front ++ back) r := by
  cases r with
  | none => rfl
  | some r => simp [prepend]

/-- The escape of a unit is read as the unit. -/
theorem readBody_unitEscape {n : Nat} (hn : n < 0x10000) :
    readBody (Json.unitEscape n ++ rest) = prepend [n] (readBody rest) := by
  obtain ⟨a, b, c, d, hdigits⟩ : ∃ a b c d, Json.hexDigits 4 n = [a, b, c, d] := ⟨_, _, _, _, rfl⟩
  have hread : Json.hex4? [a, b, c, d] = some n := hdigits ▸ Json.hex4?_hexDigits hn
  rw [Json.unitEscape, hdigits]
  show readBody ('\\' :: 'u' :: a :: b :: c :: d :: rest) = _
  rw [readBody, hread]
  rfl

/-- The escapes of some units are read as the units. -/
theorem readBody_unitEscapes {us : List Nat} (hus : ∀ u ∈ us, u < 0x10000) :
    readBody (us.flatMap Json.unitEscape ++ rest) = prepend us (readBody rest) := by
  induction us with
  | nil => simp
  | cons u us ih =>
    obtain ⟨hu, hus⟩ := List.forall_mem_cons.mp hus
    rw [List.flatMap_cons, List.append_assoc, readBody_unitEscape _ hu, ih hus]
    simp

/-- Characters that can be printed end no line. -/
theorem isNewline_of_isPrintableAscii {c : Char} (h : IsPrintableAscii c) :
    isNewline c = false := by
  have hbreak := Text.isLineBreak_of_isPrintableAscii h
  simp only [Text.isLineBreak, Bool.or_eq_false_iff] at hbreak
  simp only [isNewline, hbreak, Bool.or_self]

/-- What is written for a character is read as the units of the character. -/
theorem readBody_escapeChar (c : Char) :
    readBody (Json.escapeChar c ++ rest) = prepend (charUnits c) (readBody rest) := by
  rcases Json.escapeChar_cases c with ⟨hc, hprintable, hquote, hslash⟩ | ⟨letter, hc, hmem⟩ | hc
  · rw [hc, List.singleton_append,
      readBody.eq_5 c rest hquote (fun _ _ _ _ _ h => absurd h hslash) fun _ _ h => absurd h hslash]
    simp [hslash, isNewline_of_isPrintableAscii hprintable]
  · have hletters : ∀ pair ∈ Json.shortEscapes, letterUnit? pair.1 = some pair.2.toNat ∧
        pair.1 ≠ 'u' ∧ charUnits pair.2 = [pair.2.toNat] := by decide
    obtain ⟨hunit, hu, hunits⟩ := hletters _ hmem
    rw [hc]
    show readBody ('\\' :: letter :: rest) = _
    rw [readBody.eq_4 letter rest fun _ _ _ _ _ h => absurd h hu, hunit, hunits]
    rfl
  · rw [hc]
    exact readBody_unitEscapes rest fun u hu => Text.lt_of_mem_charUnits hu

/-- A written text is a literal with the units of the text as its value, whatever stands behind. -/
theorem readLiteral_escapeString (s : String) :
    readLiteral (Json.escapeString s ++ rest) = some (units s, rest) := by
  have hbody : ∀ cs : List Char,
      readBody (cs.flatMap Json.escapeChar ++ '"' :: rest) = some (cs.flatMap charUnits, rest) := by
    intro cs
    induction cs with
    | nil => rfl
    | cons c cs ih =>
      rw [List.flatMap_cons, List.append_assoc, readBody_escapeChar, ih, List.flatMap_cons]
      rfl
  have hsplit : Json.escapeString s ++ rest =
      '"' :: (s.toList.flatMap Json.escapeChar ++ '"' :: rest) := by
    simp [Json.escapeString]
  rw [hsplit]
  exact hbody s.toList

/-- A quote behind a backslash does not end the literal, and a pair of surrogates is two units. -/
example : readLiteral "\"\\ud83d\\ude00\\\"\" more".toList =
    some ([0xD83D, 0xDE00, 34], " more".toList) := by decide

end

namespace Renderer

/-- The names in equal lines are equal. -/
theorem attributeLine_injective (r : Renderer) (d : Nat) :
    Function.Injective (r.attributeLine d) := by
  intro name other h
  have hline : ∀ s, (r.attributeLine d s).toList =
      ((Printer.copies r.indentUnit d).toList ++ "[JsonPropertyName(".toList) ++
        (Json.escapeString s ++ ")]".toList) := by
    intro s
    simp [attributeLine, Printer.indented, String.join, printer]
  have hlines := congrArg String.toList h
  rw [hline, hline] at hlines
  -- what is read up to the closing quotes is the same
  have hread := congrArg readLiteral (List.append_cancel_left hlines)
  rw [readLiteral_escapeString, readLiteral_escapeString] at hread
  exact Text.units_injective (congrArg Prod.fst (Option.some.inj hread))

/-- The attribute of a property is one line. Behind the indentation it is in printable ASCII,
without line breaks, and a string literal stands in it, the value of which is the name: the literal
ends where it is written to end, whatever stands behind. So different names have different
attributes. -/
theorem jsonAttribute_roundTrip (r : Renderer) (name : String) (d : Nat) :
    Writes (r.jsonAttribute name) d () [r.attributeLine d name] ∧
    (∃ (text : String) (literal : List Char), r.attributeLine d name = r.printer.indented d text ∧
      text.toList = "[JsonPropertyName(".toList ++ literal ++ ")]".toList ∧
      (∀ c ∈ text.toList, IsPrintableAscii c ∧ Text.isLineBreak c = false) ∧
      ∀ behind, readLiteral (literal ++ behind) = some (units name, behind)) ∧
    ∀ other, r.attributeLine d other = r.attributeLine d name → other = name := by
  refine ⟨r.writes_jsonAttribute name d, ⟨_, Json.escapeString name, rfl, ?_, fun c hc => ?_,
    fun behind => readLiteral_escapeString behind name⟩,
    fun other h => r.attributeLine_injective d h⟩
  · simp [String.join]
  · have hfixed : Text.ConsistsOf IsPrintableAscii "[JsonPropertyName(" ∧
        Text.ConsistsOf IsPrintableAscii ")]" := by decide
    have hprintable : Text.ConsistsOf IsPrintableAscii
        (String.join ["[JsonPropertyName(", String.ofList (Json.escapeString name), ")]"]) := by
      refine Text.consistsOf_join fun part hpart => ?_
      simp only [List.mem_cons, List.not_mem_nil, or_false] at hpart
      rcases hpart with rfl | rfl | rfl
      · exact hfixed.1
      · exact Text.consistsOf_ofList.mpr fun c => Json.isPrintableAscii_of_mem_escapeString
      · exact hfixed.2
    exact ⟨hprintable c hc, Text.isLineBreak_of_isPrintableAscii (hprintable c hc)⟩

end Renderer

end CSharp

end SchemaStruct
