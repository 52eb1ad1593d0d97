import SchemaStruct.Template.Expression
import SchemaStruct.Template.Literal

/-!
# Template Texts

A template is a text with places to fill in. A place stands between double braces and holds an
expression; a hyphen at either pair of braces removes the blanks beyond it. The reader splits a
template into its pieces; what is no place stays text. One line break at the end does not count.
-/

namespace SchemaStruct.Template

/-- A piece of a template. -/
inductive Piece
  /-- A text. -/
  | text (s : String)
  /-- A place to fill in. -/
  | place (e : Expression)
  deriving Repr, Inhabited

namespace Piece

/-- The names in a piece. -/
def names : Piece → List String
  | text _ => []
  | place e => e.names

/-- The filters in a piece. -/
def filters : Piece → List String
  | text _ => []
  | place e => e.filters

end Piece

namespace Scan

/-- A text between quotes with all those that follow it, joined. The fuel bounds their number. -/
def quotedAll : Nat → Scan String
  | 0, _ => none
  | fuel + 1, cs => do
    let (s, rest) ← quoted cs
    match quotedAll fuel (skip rest) with
    | some (more, rest) => return (s ++ more, rest)
    | none => if (skip rest).head?.any (fun c => c = '\'' || c = '"') then none else return (s, rest)

/-- The name of a filter, which may have several words with points between them. -/
def filterName : Nat → Scan String
  | 0, _ => none
  | fuel + 1, cs => do
    let (w, rest) ← word (skip cs)
    match skip rest with
    | '.' :: more => do
      let (ws, rest) ← filterName fuel more
      return (w ++ "." ++ ws, rest)
    | _ => return (w, rest)

mutual

/-- An expression: an operand with its filters, possibly negated. -/
def expression : Nat → Scan Expression
  | 0, _ => none
  | fuel + 1, cs =>
    match word (skip cs) with
    | some ("not", rest) => (expression fuel rest).map fun (e, rest) => (.negated e, rest)
    | _ => do
      let (e, rest) ← operand fuel cs
      filters fuel e rest

/-- An operand: a name, a literal or an expression in parentheses, with any signs in front. -/
def operand : Nat → Scan Expression
  | 0, _ => none
  | fuel + 1, cs =>
    match skip cs with
    | '-' :: rest => (operand fuel rest).map fun (e, rest) => (.signed true e, rest)
    | '+' :: rest => (operand fuel rest).map fun (e, rest) => (.signed false e, rest)
    | '(' :: rest => do
      let (e, rest) ← expression fuel rest
      match skip rest with
      | ')' :: rest => return (e, rest)
      | _ => none
    | cs =>
      if cs.head?.any fun c => c = '\'' || c = '"' then
        (quotedAll (cs.length + 1) cs).map fun (s, rest) => (.literal (.str s), rest)
      else
        match number cs with
        | some (v, rest) => some (.literal v, rest)
        | none => (word cs).map fun (w, rest) =>
          (match constant? w with
            | some v => .literal v
            | none => .name w, rest)

/-- The filters behind an operand. -/
def filters : Nat → Expression → Scan Expression
  | 0, _, _ => none
  | fuel + 1, e, cs =>
    match skip cs with
    | '|' :: rest => do
      let (filter, rest) ← filterName (rest.length + 1) rest
      match skip rest with
      | '(' :: rest => do
        let (args, rest) ← arguments fuel [] rest
        filters fuel (.filtered e filter args) rest
      | _ => filters fuel (.filtered e filter []) rest
    | _ => some (e, cs)

/-- Arguments up to the closing parenthesis. -/
def arguments : Nat → List Expression → Scan (List Expression)
  | 0, _, _ => none
  | fuel + 1, acc, cs =>
    match skip cs with
    | ')' :: rest => some (acc.reverse, rest)
    | cs => do
      let (e, rest) ← expression fuel cs
      match skip rest with
      | ')' :: rest => some ((e :: acc).reverse, rest)
      | ',' :: rest => arguments fuel (e :: acc) rest
      | _ => none

end

/-- An expression up to the closing braces, and whether blanks behind them are removed. -/
def place : Scan (Expression × Bool) := fun cs => do
  -- a character opens less than four levels of the reader
  let (e, rest) ← expression (4 * cs.length + 4) cs
  match skip rest with
  | '\x7d' :: '\x7d' :: rest => return ((e, false), rest)
  | '-' :: '\x7d' :: '\x7d' :: rest => return ((e, true), rest)
  | _ => none

/-- The text read so far as a piece, if there is some. -/
def flush (acc : List Char) (pieces : List Piece) : List Piece :=
  if acc.isEmpty then pieces else .text (String.ofList acc.reverse) :: pieces

/-- A sign behind opening braces: whether it removes the blanks in front of them, and the text
behind it. -/
def openingSign : List Char → Bool × List Char
  | '-' :: rest => (true, rest)
  | '+' :: rest => (false, rest)
  | cs => (false, cs)

/-- The pieces of a text. Tags and remarks, which begin with a brace and a sign, are refused. -/
def pieces : Nat → List Char → List Piece → List Char → Option (List Piece)
  | 0, _, _, _ => none
  | _ + 1, acc, done, [] => some (flush acc done).reverse
  | fuel + 1, acc, done, '\x7b' :: '\x7b' :: rest => do
    let (closeUp, rest) := openingSign rest
    let ((e, closeBehind), rest) ← place rest
    let acc := if closeUp then skip acc else acc
    pieces fuel [] (.place e :: flush acc done) (if closeBehind then skip rest else rest)
  | fuel + 1, acc, done, c :: rest =>
    if c = '\x7b' && (rest.head? == some '%' || rest.head? == some '#') then none
    else pieces fuel (c :: acc) done rest

end Scan

/-- The pieces of a template text; none if it is malformed. -/
def parse (s : String) : Option (List Piece) :=
  let text := Text.unifyNewlines s.toList
  -- the line break that ends the last line is not part of the template
  let text := if text.getLast? = some '\n' then text.dropLast else text
  Scan.pieces (text.length + 1) [] [] text

end SchemaStruct.Template
