/-!
# Floating Numbers

A floating number of a document is a binary64 value, kept as sign, significand and exponent, so
that everything about it is exact integer arithmetic. `Binary64.ofDecimal` reads a decimal
literal: it takes the nearest representable value, and of two equally near ones the even one.
-/

namespace SchemaStruct

/-- A binary64 value. A finite one is `significand * 2 ^ exponent` with its sign; reading always
gives the form with the largest significand below `2 ^ 53` that the exponent range allows. -/
inductive Binary64
  /-- The value `± significand * 2 ^ exponent`. -/
  | finite (negative : Bool) (significand : Nat) (exponent : Int)
  /-- Beyond the largest finite value. -/
  | infinite (negative : Bool)
  /-- Not a number. -/
  | nan
  deriving DecidableEq, Repr, Inhabited

namespace Binary64

/-- The value with the other sign. -/
def negate : Binary64 → Binary64
  | finite negative m q => finite (!negative) m q
  | infinite negative => infinite (!negative)
  | nan => nan

/-- The least exponent of a finite value. -/
def minExponent : Int := -1074

/-- The largest exponent of a finite value. -/
def maxExponent : Int := 971

/-- The numerator and the denominator of `n * base ^ e`. -/
def ratio (n base : Nat) (e : Int) : Nat × Nat :=
  if e < 0 then (n, Nat.pow base (-e).toNat) else (n * Nat.pow base e.toNat, 1)

/-- The quotient, rounded to the nearest integer; half a unit goes to the even neighbour. -/
def roundDiv (num den : Nat) : Nat :=
  let q := num / den
  let r := num % den
  if 2 * r < den then q
  else if den < 2 * r then q + 1
  else if q % 2 = 0 then q else q + 1

/-- The floor of the binary logarithm of a positive quotient. -/
def log2Ratio (num den : Nat) : Int :=
  let e : Int := num.log2 - den.log2
  let (n, d) :=
    if e < 0 then (num * Nat.pow 2 (-e).toNat, den) else (num, den * Nat.pow 2 e.toNat)
  if n < d then e - 1 else e

/-- The representable value nearest to a positive quotient. -/
def ofRatio (negative : Bool) (num den : Nat) : Binary64 :=
  let q := max (log2Ratio num den - 52) minExponent
  let m :=
    if q < 0 then roundDiv (num * Nat.pow 2 (-q).toNat) den
    else roundDiv num (den * Nat.pow 2 q.toNat)
  -- rounding up may give one digit too many
  let (m, q) := if m = Nat.pow 2 53 then (Nat.pow 2 52, q + 1) else (m, q)
  if maxExponent < q then infinite negative else finite negative m q

/-- The representable value nearest to `± digits * 10 ^ exponent`, where `digits` has `width`
decimal digits. Values far outside the range are settled by their size alone. -/
def ofDecimal (negative : Bool) (digits width : Nat) (exponent : Int) : Binary64 :=
  if digits = 0 then finite negative 0 minExponent
  else if 310 < (width : Int) + exponent then infinite negative
  else if (width : Int) + exponent < -330 then finite negative 0 minExponent
  else
    let (num, den) := ratio digits 10 exponent
    ofRatio negative num den

/-- Whether the value is zero, of either sign. -/
def isZero : Binary64 → Bool
  | finite _ m _ => m == 0
  | _ => false

/-- Whether the value is less than one. -/
def lessThanOne : Binary64 → Bool
  | finite negative m q => negative || (if q < 0 then m < Nat.pow 2 (-q).toNat else m == 0)
  | infinite negative => negative
  | nan => false

end Binary64

end SchemaStruct
