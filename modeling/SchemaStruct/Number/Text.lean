import SchemaStruct.Number.Shortest

/-!
# Number Texts

How numbers are written in messages and in documents: integers in decimal, floating numbers with
the shortest digits, positional between `10 ^ -5` and `10 ^ 16` and with an exponent of at least
two digits outside.
-/

namespace SchemaStruct

/-- The decimal digits of a number. -/
def decimalDigits (n : Nat) : List Char := Nat.toDigits 10 n

/-- The decimal text of an integer. -/
def integerText : Int → List Char
  | .ofNat n => decimalDigits n
  | .negSucc n => '-' :: decimalDigits (n + 1)

namespace Binary64

/-- The digits without zeros at the end. -/
def significantDigits (d : Nat) : List Char :=
  match ((decimalDigits d).reverse.dropWhile (· == '0')).reverse with
  | [] => ['0']
  | ds => ds

/-- The exponent part: a sign and at least two digits. -/
def exponentText (e : Int) : List Char :=
  let ds := decimalDigits e.natAbs
  'e' :: (if e < 0 then '-' else '+') :: (if ds.length < 2 then '0' :: ds else ds)

/-- The text of `0.ds * 10 ^ p`. -/
def layout (ds : List Char) (p : Int) : List Char :=
  if p ≤ -4 ∨ 16 < p then
    let tail := ds.drop 1
    ds.take 1 ++ (if tail.isEmpty then [] else '.' :: tail) ++ exponentText (p - 1)
  else if p ≤ 0 then
    '0' :: '.' :: List.replicate (-p).toNat '0' ++ ds
  else
    let n := p.toNat
    if ds.length ≤ n then ds ++ List.replicate (n - ds.length) '0' ++ ['.', '0']
    else ds.take n ++ '.' :: ds.drop n

/-- The text of a finite magnitude. -/
def magnitudeText (m : Nat) (q : Int) : List Char :=
  if m = 0 then ['0', '.', '0']
  else
    let (d, u) := shortest m q
    layout (significantDigits d) ((decimalDigits d).length + u)

/-- The text of a floating number, with the given words for infinity and for what is no number. -/
def text (infinity notANumber : List Char) : Binary64 → List Char
  | finite negative m q => (if negative then ['-'] else []) ++ magnitudeText m q
  | infinite negative => (if negative then ['-'] else []) ++ infinity
  | nan => notANumber

end Binary64

end SchemaStruct
