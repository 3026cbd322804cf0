/-!
# Sets of characters

A set of characters as the ascending list of its bounds: the first code point inside, the first
one outside again, and so on. A code point is in the set when an odd number of bounds are at
most that code point.

## Main definitions

* `CharacterSet.contains`: membership
-/

namespace Concordance.Text

/-- A set of characters, by its ascending bounds. -/
structure CharacterSet where
  bounds : List Nat

namespace CharacterSet

/-- Whether `c` is in the set with these bounds; `inside` says so for the code points before the
first bound. -/
def containsFrom (inside : Bool) : List Nat → Nat → Bool
  | [], _ => inside
  | bound :: rest, c => if c < bound then inside else containsFrom (!inside) rest c

/-- Whether a character is in the set. -/
def contains (set : CharacterSet) (c : Char) : Bool :=
  containsFrom false set.bounds c.toNat

end CharacterSet

end Concordance.Text
