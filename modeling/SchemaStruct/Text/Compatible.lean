import SchemaStruct.Text.Code
import SchemaStruct.Text.CompatibleTable

/-!
# Compatible Identifiers

Two spellings of an identifier can be the same to a reader: a letter with an accent is the letter
and the accent, and a letter in another font is the plain letter. `compatibleForm` takes a spelling
apart into plain letters and marks, so that `areCompatible` can compare two of them.
-/

namespace SchemaStruct.Text

/-- The first syllable of Hangul. -/
def firstSyllable : Nat := 0xAC00

/-- The number of syllables of Hangul. -/
def syllableCount : Nat := 11172

/-- The two or three letters of a syllable of Hangul, by its number. -/
def syllableLetters (n : Nat) : List Char :=
  let final := n % 28
  -- there are 21 vowels and 27 final consonants, and a syllable may end without one
  [Char.ofNat (0x1100 + n / 588), Char.ofNat (0x1161 + n % 588 / 28)] ++
    if final = 0 then [] else [Char.ofNat (0x11A7 + final)]

/-- The characters that make up a character of an identifier. -/
def decompose (c : Char) : List Char :=
  let n := c.toNat
  if n < 128 then [c]
  else if firstSyllable ≤ n && n < firstSyllable + syllableCount then
    syllableLetters (n - firstSyllable)
  else
    let code := compatibleRows.findSome? fun (first, row) =>
      if first ≤ n then (splitOn ' ' row.toList)[n - first]? else none
    match code with
    | some code => charsOfCode code
    | none => [c]

/-- The class of a mark; zero for everything else. -/
def markClass (c : Char) : Nat :=
  match markClasses.find? fun (first, last, _) => first ≤ c.toNat && c.toNat ≤ last with
  | some (_, _, k) => k
  | none => 0

/-- Puts a character behind others, which stand in reverse. A mark moves in front of the marks of
higher classes. -/
def placeMark (c : Char) : List Char → List Char
  | [] => [c]
  | d :: rest =>
    if markClass c ≠ 0 ∧ markClass c < markClass d then d :: placeMark c rest else c :: d :: rest

/-- The text with the marks behind each letter in the order of their classes. -/
def orderMarks (cs : List Char) : List Char :=
  (cs.foldl (fun acc c => placeMark c acc) []).reverse

/-- The plain letters and the marks of an identifier. -/
def compatibleForm (cs : List Char) : List Char := orderMarks (cs.flatMap decompose)

/-- Whether two texts are spellings of one identifier. -/
def areCompatible (s t : String) : Bool :=
  s == t || compatibleForm s.toList == compatibleForm t.toList

end SchemaStruct.Text
