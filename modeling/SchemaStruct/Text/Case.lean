import SchemaStruct.Text.CaseTable

/-!
# Upper and Lower Case

`upper` and `lower` map a text by the full case mappings: one character may become several
(`ß` becomes `SS`), and a capital sigma at the end of a word becomes the final small sigma.
-/

namespace SchemaStruct.Text

namespace CaseRun

/-- Whether a code point lies on the run. -/
def covers (run : CaseRun) (c : Nat) : Bool :=
  run.first ≤ c && c ≤ run.last && (c - run.first) % run.step == 0

/-- The character that the run maps a code point to. -/
def apply (run : CaseRun) (c : Nat) : Char := Char.ofNat ((c : Int) + run.shift).toNat

end CaseRun

/-- A character mapped by a table of expansions and one of runs; most characters stay. -/
def mapCase (expansions : List (Nat × List Nat)) (runs : List CaseRun) (c : Char) : List Char :=
  match expansions.lookup c.toNat with
  | some cs => cs.map Char.ofNat
  | none =>
    match runs.find? (·.covers c.toNat) with
    | some run => [run.apply c.toNat]
    | none => [c]

/-- The upper case form of one character. -/
def upperChar (c : Char) : List Char :=
  if c.toNat < 128 then [c.toUpper] else mapCase upperExpansions upperRuns c

/-- The lower case form of one character away from its neighbours. -/
def lowerChar (c : Char) : List Char :=
  if c.toNat < 128 then [c.toLower] else mapCase lowerExpansions lowerRuns c

/-- The upper case form of a text. -/
def upper (cs : List Char) : List Char := cs.flatMap upperChar

/-- Whether a capital sigma ends its word: the nearest neighbour before it that is no mark has
case, and the nearest one behind it has none. The text before comes in reverse. -/
def endsWord (before after : List Char) : Bool :=
  (before.dropWhile caseIgnorable.contains).head?.any cased.contains &&
    !(after.dropWhile caseIgnorable.contains).head?.any cased.contains

/-- The lower case form of a text with the characters `before` in front of it, in reverse. -/
def lowerFrom (before : List Char) : List Char → List Char
  | [] => []
  | c :: rest =>
    (if c = 'Σ' then [if endsWord before rest then 'ς' else 'σ'] else lowerChar c) ++
      lowerFrom (c :: before) rest

/-- The lower case form of a text. -/
def lower (cs : List Char) : List Char := lowerFrom [] cs

/-- The upper case form of a text. -/
def upperCase (s : String) : String := String.ofList (upper s.toList)

/-- The lower case form of a text. -/
def lowerCase (s : String) : String := String.ofList (lower s.toList)

end SchemaStruct.Text
