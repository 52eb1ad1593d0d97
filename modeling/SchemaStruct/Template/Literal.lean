import SchemaStruct.Json.Read
import SchemaStruct.Json.Shown
import SchemaStruct.Text.Blank
import SchemaStruct.Text.Digit
import SchemaStruct.Text.Identifier

/-!
# Template Literals

The words that expressions of a template are made of: texts between quotes, numbers, and words with
or without a fixed meaning. Numbers are written in base 10, 16, 8 or 2, with or without a fraction,
and single underscores may stand between their digits.
-/

namespace SchemaStruct.Template

/-- A reader takes something off the front of a text, if it stands there. -/
abbrev Scan (α : Type) := List Char → Option (α × List Char)

namespace Scan

/-- The text without blanks in front. -/
def skip (cs : List Char) : List Char := cs.dropWhile Text.isBlank

/-- The characters up to a closing quote. A character behind a backslash closes nothing. -/
def untilQuote (quote : Char) : Scan (List Char)
  | [] => none
  | '\\' :: c :: rest => (untilQuote quote rest).map fun (cs, rest) => ('\\' :: c :: cs, rest)
  | c :: rest =>
    if c = quote then some ([], rest)
    else (untilQuote quote rest).map fun (cs, rest) => (c :: cs, rest)

/-- The number of some digits in a base, if there are `width` of them in front. -/
def digits (base width : Nat) (cs : List Char) : Option (Nat × List Char) := do
  let ds := cs.take width
  if ds.length < width then none
  let values ← ds.mapM Json.hexValue?
  if values.any (base ≤ ·) then none
  return (values.foldl (fun n d => n * base + d) 0, cs.drop width)

/-- The code points that an escape stands for: the text begins behind the backslash. An escape that
means nothing stands for itself; characters by name are none. -/
def escape (cs : List Char) : Option (List Nat × List Char) :=
  match cs with
  | [] => none
  | '\n' :: rest => some ([], rest)
  | 'n' :: rest => some ([10], rest)
  | 't' :: rest => some ([9], rest)
  | 'r' :: rest => some ([13], rest)
  | 'a' :: rest => some ([7], rest)
  | 'b' :: rest => some ([8], rest)
  | 'v' :: rest => some ([11], rest)
  | 'f' :: rest => some ([12], rest)
  | 'N' :: _ => none
  | 'x' :: rest => (digits 16 2 rest).map fun (n, rest) => ([n], rest)
  | 'u' :: rest => (digits 16 4 rest).map fun (n, rest) => ([n], rest)
  | 'U' :: rest => do
    let (n, rest) ← digits 16 8 rest
    if 0x110000 ≤ n then none else some ([n], rest)
  | c :: rest =>
    if c = '\\' ∨ c = '\'' ∨ c = '"' then some ([c.toNat], rest)
    else
      let octal := ((c :: rest).take 3).takeWhile fun d => '0' ≤ d && d ≤ '7'
      if octal.isEmpty then some (['\\'.toNat, c.toNat], rest)
      else (digits 8 octal.length (c :: rest)).map fun (n, rest) => ([n], rest)

/-- The code points of a text with escapes. Every escape takes one unit of the fuel. -/
def unescape : Nat → List Char → Option (List Nat)
  | 0, _ => none
  | _ + 1, [] => some []
  | fuel + 1, '\\' :: rest => do
    let (points, rest) ← escape rest
    return points ++ (← unescape fuel rest)
  | fuel + 1, c :: rest => do return c.toNat :: (← unescape fuel rest)

/-- The characters of some code points. Two halves of a character join; a half on its own, which no
text can hold, becomes the replacement character U+FFFD. -/
def joinHalves : List Nat → List Char
  | high :: low :: rest =>
    if 0xD800 ≤ high ∧ high < 0xDC00 ∧ 0xDC00 ≤ low ∧ low < 0xE000 then
      Char.ofNat (0x10000 + (high - 0xD800) * 0x400 + (low - 0xDC00)) :: joinHalves rest
    else (Json.unitChar? high).getD '\ufffd' :: joinHalves (low :: rest)
  | [n] => [(Json.unitChar? n).getD '\ufffd']
  | [] => []

/-- The text between two quotes. A character beyond ASCII counts as its escape, which a backslash
in front of it turns into plain characters. -/
def literalText (inner : List Char) : Option String :=
  let spelled := inner.flatMap fun c => if c.toNat < 128 then [c] else Text.codeEscape c
  (unescape (spelled.length + 1) spelled).map fun points => String.ofList (joinHalves points)

/-- A text between quotes. -/
def quoted : Scan String
  | [] => none
  | quote :: rest =>
    if quote = '\'' ∨ quote = '"' then do
      let (inner, rest) ← untilQuote quote rest
      return (← literalText inner, rest)
    else none

/-- The values of digits with single underscores in front of some of them. -/
def digitGroups (value? : Char → Option Nat) : List Char → List Nat × List Char
  | [] => ([], [])
  | '_' :: d :: rest =>
    match value? d with
    | some n =>
      let (ns, rest) := digitGroups value? rest
      (n :: ns, rest)
    | none => ([], '_' :: d :: rest)
  | c :: rest =>
    match value? c with
    | some n =>
      let (ns, rest) := digitGroups value? rest
      (n :: ns, rest)
    | none => ([], c :: rest)

/-- The value of a digit in a base up to 16. In base 10 and 16 the digits of all scripts count. -/
def digitIn? (base : Nat) (c : Char) : Option Nat :=
  let value? := match base with
    | 10 => Text.digitValue? c
    | 16 => (Text.digitValue? c).or (Json.hexValue? c)
    | _ => Json.hexValue? c
  value?.filter (· < base)

/-- The number that digits stand for in a base. -/
def numberOf (base : Nat) (ds : List Nat) : Nat := ds.foldl (fun n d => n * base + d) 0

/-- The largest number of decimal digits that a whole number is read with. -/
def digitLimit : Nat := 4300

/-- A whole number: with a letter for its base behind a zero, or in base 10 without zeros in
front. -/
def wholeNumber (cs : List Char) : Option (Nat × List Char) :=
  match cs with
  | '0' :: letter :: rest =>
    let base := if letter.toLower = 'x' then 16 else if letter.toLower = 'o' then 8 else 2
    let (ds, behind) := digitGroups (digitIn? base) rest
    if (letter.toLower = 'x' || letter.toLower = 'o' || letter.toLower = 'b') && !ds.isEmpty then
      some (numberOf base ds, behind)
    else
      let (zeros, behind) := digitGroups (fun c => if c = '0' then some 0 else none) cs
      if digitLimit < zeros.length then none else some (0, behind)
  | ['0'] => some (0, [])
  | c :: _ =>
    if '1' ≤ c && c ≤ '9' then
      let (ds, behind) := digitGroups (digitIn? 10) cs
      if digitLimit < ds.length then none else some (numberOf 10 ds, behind)
    else none
  | [] => none

/-- Decimal digits, the first of them right in front, and the text behind them. -/
def decimals (cs : List Char) : Option (List Char × List Char) :=
  if cs.head?.any Text.isDecimalDigit then
    let (ds, rest) := digitGroups (digitIn? 10) cs
    some (ds.map fun d => Char.ofNat (48 + d), rest)
  else none

/-- The exponent of a number: whether it is negative, and its digits. -/
def exponent? : List Char → Option ((Bool × List Char) × List Char)
  | e :: rest =>
    if e.toLower = 'e' then
      let (negative, rest) := match rest with
        | '-' :: r => (true, r)
        | '+' :: r => (false, r)
        | r => (false, r)
      (decimals rest).map fun (ds, rest) => ((negative, ds), rest)
    else none
  | [] => none

/-- A number with a fraction or an exponent. Its digits have to be those of ASCII. -/
def fractionalNumber (cs : List Char) : Option (Json × List Char) := do
  let (whole, behind) ← decimals cs
  let (fraction, behind) := match behind with
    | '.' :: text =>
      match decimals text with
      | some (ds, rest) => (some ds, rest)
      | none => (none, behind)
    | _ => (none, behind)
  let (exponent, behind) := match exponent? behind with
    | some (e, rest) => (some e, rest)
    | none => (none, behind)
  if fraction.isNone && exponent.isNone then none
  else if (cs.take (cs.length - behind.length)).any fun c => 128 ≤ c.toNat then none
  else
    match (Json.NumberParts.mk false whole fraction exponent).value with
    | .ok v => some (v, behind)
    | .error _ => none

/-- A number without a sign. -/
def number (cs : List Char) : Option (Json × List Char) :=
  match fractionalNumber cs with
  | some found => some found
  | none => (wholeNumber cs).map fun (n, rest) => (.int n, rest)

/-- What the words with a fixed meaning stand for. -/
def constant? : String → Option Json
  | "true" => some (.bool true)
  | "True" => some (.bool true)
  | "false" => some (.bool false)
  | "False" => some (.bool false)
  | "none" => some .null
  | "None" => some .null
  | _ => none

/-- A word in front of a text. -/
def word : Scan String := fun cs =>
  let w := cs.takeWhile Text.identifierContinue.contains
  if Text.isIdentifier w then some (String.ofList w, cs.drop w.length) else none

end Scan

end SchemaStruct.Template
