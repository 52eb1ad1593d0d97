/-!
# Sets of Characters

A set of characters is a list of ascending, disjoint ranges of code points. Membership walks the
list and stops at the first range that begins beyond the character.
-/

namespace SchemaStruct.Text

/-- A set of characters, given by ascending, disjoint ranges of code points (both ends belong to
a range). -/
structure CharSet where
  /-- The ranges, in ascending order. -/
  ranges : List (Nat × Nat)

namespace CharSet

/-- Whether one of the ascending ranges holds the code point. -/
def covers : List (Nat × Nat) → Nat → Bool
  | [], _ => false
  | (lo, hi) :: rest, c => if c < lo then false else if c ≤ hi then true else covers rest c

/-- Whether the set holds the character. -/
def contains (s : CharSet) (c : Char) : Bool := covers s.ranges c.toNat

end CharSet

end SchemaStruct.Text
