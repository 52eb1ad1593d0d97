import SchemaStruct.Json.Basic
import SchemaStruct.Number.Text

/-!
# Reading Documents

`Json.read` reads a text as one JSON value and otherwise says what was expected where. The words
`NaN`, `Infinity` and `-Infinity` count as numbers, control characters inside a text are refused,
and a byte order mark in front is refused before anything else is looked at.

Escapes can spell a lone surrogate, a half of a character that no text here can hold. Such a text
is refused with a slip of its own, which is no fault of the text: `Json.readLossy` reads it with the
replacement character U+FFFD in every such place and says where the first one is.

The readers work on a `Cursor`, the characters that are left and the number of those already
read. Nested values are bounded by a fuel, of which every call takes one: it starts out larger
than the number of calls that a text of its length can need.
-/

namespace SchemaStruct

namespace Json

/-- What is wrong at some place of a text. -/
inductive Slip
  /-- No value begins here. -/
  | value
  /-- No name of a member begins here. -/
  | memberName
  /-- A colon is missing. -/
  | colon
  /-- A comma is missing. -/
  | comma
  /-- The value is followed by more text. -/
  | extra
  /-- The text that begins here has no end. -/
  | unterminated
  /-- A control character stands inside a text. -/
  | control
  /-- A backslash is followed by no escape. -/
  | escape
  /-- An escape lacks its four hexadecimal digits. -/
  | unicodeEscape
  /-- The text begins with a byte order mark. -/
  | byteOrderMark
  /-- An integer has too many digits to be read. -/
  | longInteger (digits : Nat)
  /-- An escape stands for a surrogate without the other half of its character. -/
  | loneSurrogate
  deriving DecidableEq, Repr, Inhabited

/-- What a slip says, without its place. -/
def Slip.words : Slip → String
  | value => "Expecting value"
  | memberName => "Expecting property name enclosed in double quotes"
  | colon => "Expecting ':' delimiter"
  | comma => "Expecting ',' delimiter"
  | extra => "Extra data"
  | unterminated => "Unterminated string starting at"
  | control => "Invalid control character at"
  | escape => "Invalid \\escape"
  | unicodeEscape => "Invalid \\uXXXX escape"
  | byteOrderMark => "Unexpected UTF-8 BOM (decode using utf-8-sig)"
  | longInteger digits =>
    "Exceeds the limit (4300 digits) for integer string conversion: value has " ++
      toString digits ++ " digits; use sys.set_int_max_str_digits() to increase the limit"
  | loneSurrogate => "surrogates not allowed"

/-- A slip and its place in the text, counted in characters and in lines. -/
structure Misread where
  /-- What is wrong. -/
  slip : Slip
  /-- The number of characters in front of the place. -/
  offset : Nat
  /-- The line of the place, the first one being 1. -/
  line : Nat
  /-- The column of the place, the first one being 1. -/
  column : Nat
  deriving DecidableEq, Repr, Inhabited

namespace Misread

/-- Whether a number is out of reach. -/
def isLong (e : Misread) : Bool :=
  match e.slip with
  | .longInteger _ => true
  | _ => false

/-- Whether the text is no JSON at all, as opposed to holding a number or a character out of
reach. -/
def isMalformed (e : Misread) : Bool :=
  match e.slip with
  | .longInteger _ | .loneSurrogate => false
  | _ => true

/-- The message: what is wrong and, for a malformed text, where. -/
def message (e : Misread) : String :=
  if e.isMalformed then
    e.slip.words ++ ": line " ++ toString e.line ++ " column " ++ toString e.column ++
      " (char " ++ toString e.offset ++ ")"
  else e.slip.words

/-- A slip at an offset of a text, with its line and column. -/
def locate (text : List Char) (slip : Slip) (offset : Nat) : Misread :=
  let before := text.take offset
  { slip, offset
    line := before.count '\n' + 1
    column := (before.reverse.takeWhile (· != '\n')).length + 1 }

end Misread

/-- A place in a text: what is left, how much was read, and what was lost. -/
structure Cursor where
  /-- The characters that are left. -/
  rest : List Char
  /-- The number of characters already read. -/
  offset : Nat
  /-- The offset of the first escape of a lone surrogate among them. -/
  loss : Option Nat := none

/-- A reader gives a value and the place behind it, or a slip and its place. -/
abbrev Reader (α : Type) := Cursor → Except (Slip × Nat) (α × Cursor)

namespace Cursor

/-- The place behind the next `n` characters. -/
def skip (c : Cursor) (n : Nat) : Cursor :=
  { c with rest := c.rest.drop n, offset := c.offset + n }

/-- The same place, where the escape of a lone surrogate begins. -/
def losing (c : Cursor) : Cursor := { c with loss := c.loss.or (some c.offset) }

/-- Whether a character is a blank of the format. -/
def isSpace (c : Char) : Bool := c = ' ' || c = '\t' || c = '\n' || c = '\r'

/-- The place behind the blanks. -/
def skipSpace (c : Cursor) : Cursor :=
  { c with
    rest := c.rest.dropWhile isSpace
    offset := c.offset + (c.rest.takeWhile isSpace).length }

/-- The place behind a word, if the word stands here. -/
def word? (c : Cursor) (w : String) : Option Cursor :=
  if w.toList.isPrefixOf c.rest then some (c.skip w.length) else none

end Cursor

/-- The number that a hexadecimal digit stands for. -/
def hexValue? (c : Char) : Option Nat :=
  if '0' ≤ c ∧ c ≤ '9' then some (c.toNat - 48)
  else if 'a' ≤ c ∧ c ≤ 'f' then some (c.toNat - 87)
  else if 'A' ≤ c ∧ c ≤ 'F' then some (c.toNat - 55)
  else none

/-- The number of four hexadecimal digits, if they stand at the beginning. -/
def hex4? : List Char → Option Nat
  | a :: b :: c :: d :: _ => do
    return (← hexValue? a) * 4096 + (← hexValue? b) * 256 + (← hexValue? c) * 16 + (← hexValue? d)
  | _ => none

/-- The character of a one-letter escape. -/
def simpleEscape? (c : Char) : Option Char :=
  if c = '"' then some '"'
  else if c = '\\' then some '\\'
  else if c = '/' then some '/'
  else if c = 'b' then some '\x08'
  else if c = 'f' then some '\x0c'
  else if c = 'n' then some '\n'
  else if c = 'r' then some '\r'
  else if c = 't' then some '\t'
  else none

/-- The character of one UTF-16 unit: none if the unit is a surrogate. -/
def unitChar? (unit : Nat) : Option Char :=
  if 0xD800 ≤ unit ∧ unit < 0xE000 then none else some (Char.ofNat unit)

/-- The character that an escape of UTF-16 units stands for, none for a lone surrogate, and the
number of characters behind the letter `u` that it takes. The text begins behind that letter, and
`unit` is the unit read there; a high unit joins with a low unit in the escape that follows. -/
def escapedChar (unit : Nat) (text : List Char) : Except Unit (Option Char × Nat) :=
  if 0xD800 ≤ unit ∧ unit < 0xDC00 then
    match text.drop 4 with
    | '\\' :: 'u' :: more =>
      -- an escape that the text is too short for is left to whoever reads on
      if more.length ≤ 4 then .ok (unitChar? unit, 4)
      else match hex4? more with
        | none => .error ()
        | some low =>
          if 0xDC00 ≤ low ∧ low < 0xE000 then
            .ok (some (Char.ofNat (0x10000 + (unit - 0xD800) * 0x400 + (low - 0xDC00))), 10)
          else .ok (unitChar? unit, 4)
    | _ => .ok (unitChar? unit, 4)
  else .ok (unitChar? unit, 4)

/-- Reads the characters of a text up to its closing quote. `start` is the offset of the opening
quote, `acc` holds the characters so far in reverse, and `fuel` is at least the number of
characters left. -/
def readChars (start : Nat) : Nat → List Char → Reader String
  | 0, _, _ => .error (.unterminated, start)
  | fuel + 1, acc, cur =>
    match cur.rest with
    | [] => .error (.unterminated, start)
    | '"' :: _ => .ok (String.ofList acc.reverse, cur.skip 1)
    -- four digits and at least a closing quote have to follow
    | '\\' :: 'u' :: rest =>
      if rest.length ≤ 4 then .error (.unicodeEscape, cur.offset + 1)
      else match hex4? rest with
        | none => .error (.unicodeEscape, cur.offset + 1)
        | some unit =>
          match escapedChar unit rest with
          | .error _ => .error (.unicodeEscape, cur.offset + 7)
          | .ok (some c, n) => readChars start fuel (c :: acc) (cur.skip (2 + n))
          | .ok (none, n) => readChars start fuel ('\ufffd' :: acc) (cur.losing.skip (2 + n))
    | '\\' :: c :: _ =>
      match simpleEscape? c with
      | some e => readChars start fuel (e :: acc) (cur.skip 2)
      | none => .error (.escape, cur.offset)
    | ['\\'] => .error (.unterminated, start)
    | c :: _ =>
      if c.toNat < 32 then .error (.control, cur.offset)
      else readChars start fuel (c :: acc) (cur.skip 1)

/-- Reads a text whose opening quote stands at the cursor. -/
def readString : Reader String := fun cur =>
  readChars cur.offset (cur.rest.length + 1) [] (cur.skip 1)

/-- The number that decimal digits stand for. -/
def digitsValue (ds : List Char) : Nat := ds.foldl (fun n c => 10 * n + (c.toNat - 48)) 0

/-- The parts of a number: sign, integer digits, fraction digits and exponent, each of the last
two only if it is there. -/
structure NumberParts where
  /-- Whether a minus sign stands in front. -/
  negative : Bool
  /-- The digits before the point. -/
  whole : List Char
  /-- The digits behind the point. -/
  fraction : Option (List Char)
  /-- Whether the exponent is negative, and its digits. -/
  exponent : Option (Bool × List Char)

namespace NumberParts

/-- The number of characters that the exponent takes at the beginning of the text, with its
sign and its digits. A letter without digits behind it is no exponent. -/
def exponentOf (text : List Char) : Option (Bool × List Char × Nat) :=
  match text with
  | e :: rest =>
    if e = 'e' ∨ e = 'E' then
      let (negative, signs, digits) := match rest with
        | '-' :: r => (true, 1, r)
        | '+' :: r => (false, 1, r)
        | r => (false, 0, r)
      let ds := digits.takeWhile Char.isDigit
      if ds.isEmpty then none else some (negative, ds, 1 + signs + ds.length)
    else none
  | [] => none

/-- The value of a number with these parts. -/
def value (p : NumberParts) : Except Slip Json :=
  match p.fraction, p.exponent with
  | none, none =>
    if 4300 < p.whole.length then .error (.longInteger p.whole.length)
    else
      let n := digitsValue p.whole
      .ok (.int (if p.negative then -(n : Int) else n))
  | fraction, exponent =>
    -- the value is the number made of all digits, moved by the exponent and the fraction's length
    let ds := p.whole ++ fraction.getD []
    let shift : Int := match exponent with
      | none => 0
      | some (negative, es) => if negative then -(digitsValue es : Int) else digitsValue es
    let significant := ds.dropWhile (· == '0')
    .ok (.float (Binary64.ofDecimal p.negative (digitsValue significant) significant.length
      (shift - (fraction.getD []).length)))

end NumberParts

/-- Reads a number, if one begins at the cursor. -/
def readNumber : Reader Json := fun cur =>
  let (negative, start) := match cur.rest with
    | '-' :: _ => (true, cur.skip 1)
    | _ => (false, cur)
  -- a zero in front is a number of its own: what follows it is not part of the number
  let whole := match start.rest with
    | '0' :: _ => ['0']
    | text => text.takeWhile Char.isDigit
  if whole.isEmpty then .error (.value, cur.offset)
  else
    let behind := start.skip whole.length
    -- a point or a letter without digits behind it does not belong to the number either
    let fraction := match behind.rest with
      | '.' :: text =>
        let ds := text.takeWhile Char.isDigit
        if ds.isEmpty then none else some ds
      | _ => none
    let behind := match fraction with
      | some ds => behind.skip (1 + ds.length)
      | none => behind
    let exponent := NumberParts.exponentOf behind.rest
    let behind := match exponent with
      | some (_, _, n) => behind.skip n
      | none => behind
    let parts : NumberParts := ⟨negative, whole, fraction, exponent.map fun (s, ds, _) => (s, ds)⟩
    match parts.value with
    | .ok v => .ok (v, behind)
    | .error slip => .error (slip, cur.offset)

/-- Reads a word or a number. -/
def readScalar : Reader Json := fun cur =>
  if let some c := cur.word? "null" then .ok (null, c)
  else if let some c := cur.word? "true" then .ok (bool true, c)
  else if let some c := cur.word? "false" then .ok (bool false, c)
  else if let some c := cur.word? "NaN" then .ok (float .nan, c)
  else if let some c := cur.word? "Infinity" then .ok (float (.infinite false), c)
  else if let some c := cur.word? "-Infinity" then .ok (float (.infinite true), c)
  else readNumber cur

mutual

/-- Reads a value that begins at the cursor. -/
def readValue : Nat → Reader Json
  | 0, cur => .error (.value, cur.offset)
  | fuel + 1, cur =>
    match cur.rest with
    | '"' :: _ => do
      let (s, cur) ← readString cur
      return (str s, cur)
    | '[' :: _ =>
      let cur := (cur.skip 1).skipSpace
      match cur.rest with
      | ']' :: _ => .ok (arr [], cur.skip 1)
      | _ => readItems fuel [] cur
    | '\x7b' :: _ =>
      let cur := (cur.skip 1).skipSpace
      match cur.rest with
      | '\x7d' :: _ => .ok (obj [], cur.skip 1)
      | _ => readMembers fuel [] cur
    | _ => readScalar cur

/-- Reads the items of a list from its next item on. -/
def readItems : Nat → List Json → Reader Json
  | 0, _, cur => .error (.value, cur.offset)
  | fuel + 1, acc, cur => do
    let (v, cur) ← readValue fuel cur
    let cur := cur.skipSpace
    match cur.rest with
    | ']' :: _ => .ok (arr (v :: acc).reverse, cur.skip 1)
    | ',' :: _ => readItems fuel (v :: acc) (cur.skip 1).skipSpace
    | _ => .error (.comma, cur.offset)

/-- Reads the members of an object from its next member on. -/
def readMembers : Nat → List (String × Json) → Reader Json
  | 0, _, cur => .error (.value, cur.offset)
  | fuel + 1, acc, cur =>
    match cur.rest with
    | '"' :: _ => do
      let (name, cur) ← readString cur
      let cur := cur.skipSpace
      match cur.rest with
      | ':' :: _ => do
        let (v, cur) ← readValue fuel (cur.skip 1).skipSpace
        let cur := cur.skipSpace
        match cur.rest with
        | '\x7d' :: _ => .ok (ofMembers ((name, v) :: acc).reverse, cur.skip 1)
        | ',' :: _ => readMembers fuel ((name, v) :: acc) (cur.skip 1).skipSpace
        | _ => .error (.comma, cur.offset)
      | _ => .error (.colon, cur.offset)
    | _ => .error (.memberName, cur.offset)

end

/-- Reads a whole text: one value between blanks. -/
def readWhole (text : List Char) : Except (Slip × Nat) (Json × Option Nat) :=
  match text with
  | '\ufeff' :: _ => .error (.byteOrderMark, 0)
  | _ => do
    -- each step of the fuel reads a character or descends in front of one
    let (v, cur) ← readValue (2 * text.length + 2) (Cursor.mk text 0 none).skipSpace
    let cur := cur.skipSpace
    if cur.rest.isEmpty then .ok (v, cur.loss) else .error (.extra, cur.offset)

/-- The value of a text with U+FFFD for every lone surrogate, and what the first of these is refused
for, or what is wrong with the text and where. -/
def readLossy (text : String) : Except Misread (Json × Option Misread) :=
  match readWhole text.toList with
  | .ok (v, loss) => .ok (v, loss.map (.locate text.toList .loneSurrogate))
  | .error (slip, offset) => .error (.locate text.toList slip offset)

/-- The value of a text, or what is wrong with it and where. -/
def read (text : String) : Except Misread Json :=
  match readLossy text with
  | .ok (v, none) => .ok v
  | .ok (_, some e) => .error e
  | .error e => .error e

/-- A text has a value if nothing of it is lost. -/
theorem read_eq_ok_iff {text : String} {v : Json} :
    read text = .ok v ↔ readLossy text = .ok (v, none) := by
  unfold read
  split <;> simp_all

end Json

end SchemaStruct
