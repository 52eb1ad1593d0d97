import SchemaStruct.Json.Read
import SchemaStruct.Text.Blank

/-!
# Characters by Code Point

Tables of characters give them by their code points, written in base 16.
-/

namespace SchemaStruct.Text

/-- The number that some digits in base 16 stand for. -/
def hexNumber (digits : List Char) : Nat :=
  digits.foldl (fun n d => 16 * n + (Json.hexValue? d).getD 0) 0

/-- The characters of some code points in base 16 with hyphens between them. -/
def charsOfCode (code : List Char) : List Char :=
  (splitOn '-' code).map fun digits => Char.ofNat (hexNumber digits)

end SchemaStruct.Text
