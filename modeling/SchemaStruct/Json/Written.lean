import SchemaStruct.Json.Basic
import SchemaStruct.Number.Text

/-!
# Written Values

The compact text of a value as a JSON document in plain ASCII. Characters outside the printable
ASCII range are written by their UTF-16 units, so a character beyond the basic plane takes two
escapes. `escapeString` is also the form of a property's name in a generated attribute.
-/

namespace SchemaStruct

namespace Json

/-- A hexadecimal digit in small letters. -/
def hexDigit (n : Nat) : Char := Nat.digitChar (n % 16)

/-- The `width` lowest hexadecimal digits of a number. -/
def hexDigits : Nat → Nat → List Char
  | 0, _ => []
  | width + 1, n => hexDigits width (n / 16) ++ [hexDigit n]

/-- The escape of one UTF-16 unit. -/
def unitEscape (n : Nat) : List Char := '\\' :: 'u' :: hexDigits 4 n

/-- A character inside a written text. -/
def escapeChar (c : Char) : List Char :=
  if c = '"' then ['\\', '"']
  else if c = '\\' then ['\\', '\\']
  else if c = '\n' then ['\\', 'n']
  else if c = '\r' then ['\\', 'r']
  else if c = '\t' then ['\\', 't']
  else if c = '\x0c' then ['\\', 'f']
  else if c = '\x08' then ['\\', 'b']
  else if 32 ≤ c.toNat ∧ c.toNat < 127 then [c]
  else if c.toNat < 0x10000 then unitEscape c.toNat
  else
    let n := c.toNat - 0x10000
    unitEscape (0xD800 + n / 0x400) ++ unitEscape (0xDC00 + n % 0x400)

/-- A text between double quotes, everything outside printable ASCII escaped. -/
def escapeString (s : String) : List Char := '"' :: s.toList.flatMap escapeChar ++ ['"']

mutual

/-- The compact document text of a value. -/
def written : Json → List Char
  | null => ['n', 'u', 'l', 'l']
  | bool true => ['t', 'r', 'u', 'e']
  | bool false => ['f', 'a', 'l', 's', 'e']
  | int i => integerText i
  | float x => x.text "Infinity".toList "NaN".toList
  | str s => escapeString s
  | arr items => '[' :: writtenItems items ++ [']']
  | obj members => '\x7b' :: writtenMembers members ++ ['\x7d']

/-- The items of a list, separated by commas. -/
def writtenItems : List Json → List Char
  | [] => []
  | [v] => written v
  | v :: vs => written v ++ ',' :: writtenItems vs

/-- The members of an object, separated by commas. -/
def writtenMembers : List (String × Json) → List Char
  | [] => []
  | [(k, v)] => escapeString k ++ ':' :: written v
  | (k, v) :: vs => escapeString k ++ ':' :: written v ++ ',' :: writtenMembers vs

end

/-- The compact document text of a value. -/
def toText (v : Json) : String := String.ofList v.written

end Json

end SchemaStruct
