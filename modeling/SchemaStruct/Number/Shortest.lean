import SchemaStruct.Number.Binary64

/-!
# Shortest Decimal Text

The text of a floating number has the fewest decimal digits that read back as the same value, and
of those the ones nearest to it. The search walks the decimal grids of 1, 2, ... 17 digits: the
two neighbours of the value on a grid are the only candidates that can lie in the interval of
reals which round to it.
-/

namespace SchemaStruct.Binary64

/-- A positive value together with the interval of reals that round to it, all three over one
denominator. -/
structure Interval where
  /-- The numerator of the lower end. -/
  lower : Nat
  /-- The numerator of the value itself. -/
  value : Nat
  /-- The numerator of the upper end. -/
  upper : Nat
  /-- The common denominator. -/
  scale : Nat
  /-- Whether the ends themselves round to the value. -/
  closed : Bool

/-- The interval of reals that round to `m * 2 ^ q`. Below a power of two the neighbours are
half as far away as above it. -/
def interval (m : Nat) (q : Int) : Interval :=
  let down := if m = Nat.pow 2 52 ∧ minExponent < q then 1 else 2
  -- all ends are multiples of a quarter of the last place
  let scaled := fun n => if q < 2 then n else n * Nat.pow 2 (q - 2).toNat
  { lower := scaled (4 * m - down)
    value := scaled (4 * m)
    upper := scaled (4 * m + 2)
    scale := if q < 2 then Nat.pow 2 (2 - q).toNat else 1
    closed := m % 2 = 0 }

/-- Whether the quotient `num / den` lies in the interval. -/
def Interval.holds (i : Interval) (num den : Nat) : Bool :=
  let lo := i.lower * den
  let hi := i.upper * den
  let x := num * i.scale
  if i.closed then lo ≤ x && x ≤ hi else lo < x && x < hi

/-- The least `k ≤ bound` with `num < den * 10 ^ k`, searched downwards from `bound`. -/
def pointFrom (num den : Nat) : Nat → Nat
  | 0 => 0
  | k + 1 => if num < den * Nat.pow 10 k then pointFrom num den k else k + 1

/-- The position of the decimal point: `10 ^ (p - 1) ≤ num / den < 10 ^ p`. -/
def point (num den : Nat) : Int :=
  if num < den then
    -- the reciprocal is above one; count how often ten fits
    let k := pointFrom den num (den.log2 / 3 + 2)
    if den = num * Nat.pow 10 (k - 1) then 2 - (k : Int) else 1 - (k : Int)
  else (pointFrom num den (num.log2 / 3 + 2) : Int)

/-- The digits of a grid of `10 ^ unit` that read back as the value, if there are any: the nearer
of its two neighbours on the grid, an exact tie going to the even one. -/
def gridHit (i : Interval) (unit : Int) : Option Nat :=
  let (num, den) := if unit < 0 then (i.value * Nat.pow 10 (-unit).toNat, i.scale)
    else (i.value, i.scale * Nat.pow 10 unit.toNat)
  let inside := fun d : Nat =>
    let (n, e) := ratio d 10 unit
    i.holds n e
  -- no other point of the grid is nearer to the value than these two
  let below := num / den
  let first := roundDiv num den
  let second := if first = below then below + 1 else below
  if inside first then some first
  else if inside second then some second
  else none

/-- The digits found on the grids of `n`, `n + 1`, ... digits, with the unit of their grid. -/
def searchDigits (i : Interval) (p : Int) (n : Nat) : Nat → Nat × Int
  | 0 => (0, 0)
  | more + 1 =>
    match gridHit i (p - n) with
    | some d => (d, p - n)
    | none => searchDigits i p (n + 1) more

/-- The shortest decimal `d * 10 ^ u` that reads back as the positive value `m * 2 ^ q`. -/
def shortest (m : Nat) (q : Int) : Nat × Int :=
  let i := interval m q
  searchDigits i (point i.value i.scale) 1 17

end SchemaStruct.Binary64
