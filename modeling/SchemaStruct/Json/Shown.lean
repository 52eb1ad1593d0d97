import SchemaStruct.Json.Written
import SchemaStruct.Text.Printable

/-!
# Shown Values

How values appear in messages. `Json.shown` quotes texts and escapes what has no visible form, so
that a value can be told from its text; `Json.plain` is the same but leaves a text as it is.
-/

namespace SchemaStruct

namespace Text

/-- The quote around a shown text: the single one, unless only that one occurs inside. -/
def quoteFor (cs : List Char) : Char :=
  if cs.contains '\'' && !cs.contains '"' then '"' else '\''

/-- The escape that gives a character by its code point. -/
def codeEscape (c : Char) : List Char :=
  if c.toNat < 0x100 then '\\' :: 'x' :: Json.hexDigits 2 c.toNat
  else if c.toNat < 0x10000 then '\\' :: 'u' :: Json.hexDigits 4 c.toNat
  else '\\' :: 'U' :: Json.hexDigits 8 c.toNat

/-- A character inside a shown text with the given quote. -/
def showChar (quote c : Char) : List Char :=
  if c = quote ∨ c = '\\' then ['\\', c]
  else if c = '\n' then ['\\', 'n']
  else if c = '\r' then ['\\', 'r']
  else if c = '\t' then ['\\', 't']
  else if printable.contains c then [c]
  else codeEscape c

/-- A text between quotes, with escapes for what has no visible form. -/
def quoted (cs : List Char) : List Char :=
  let quote := quoteFor cs
  quote :: cs.flatMap (showChar quote) ++ [quote]

/-- A text between quotes, with escapes for what has no visible form. -/
def quotedText (s : String) : String := String.ofList (quoted s.toList)

end Text

namespace Json

mutual

/-- The text of a value in a message, texts in quotes. -/
def shownChars : Json → List Char
  | null => ['N', 'o', 'n', 'e']
  | bool true => ['T', 'r', 'u', 'e']
  | bool false => ['F', 'a', 'l', 's', 'e']
  | int i => integerText i
  | float x => x.text ['i', 'n', 'f'] ['n', 'a', 'n']
  | str s => Text.quoted s.toList
  | arr items => '[' :: shownItems items ++ [']']
  | obj members => '\x7b' :: shownMembers members ++ ['\x7d']

/-- The items of a list, separated by a comma and a space. -/
def shownItems : List Json → List Char
  | [] => []
  | [v] => shownChars v
  | v :: vs => shownChars v ++ ',' :: ' ' :: shownItems vs

/-- The members of an object, separated by a comma and a space. -/
def shownMembers : List (String × Json) → List Char
  | [] => []
  | [(k, v)] => Text.quoted k.toList ++ ':' :: ' ' :: shownChars v
  | (k, v) :: vs =>
    Text.quoted k.toList ++ ':' :: ' ' :: shownChars v ++ ',' :: ' ' :: shownMembers vs

end

/-- The text of a value in a message, texts in quotes. -/
def shown (v : Json) : String := String.ofList v.shownChars

/-- The text of a value in a message, a text standing for itself. -/
def plain : Json → String
  | str s => s
  | v => v.shown

end Json

end SchemaStruct
