/-!
# Tables of character ranges

A character class that only a standard can list is kept as the ascending list of its closed code
point ranges.  Membership is decided by walking the list until a range starts beyond the character.

## Main definitions

* `RangeTable` — ascending closed ranges of code points.
* `RangeTable.covers` — membership of a code point.
-/

namespace Stencil

/-- The closed code point ranges of a character class, in ascending order. -/
abbrev RangeTable := List (Nat × Nat)

namespace RangeTable

/-- A code point is covered when some range of the table holds it; the walk ends at the first range
that starts beyond it. -/
def covers : RangeTable → Nat → Bool
  | [], _ => false
  | (low, high) :: rest, n => if n < low then false else if n ≤ high then true else covers rest n

@[simp] theorem covers_nil (n : Nat) : covers [] n = false := rfl

theorem covers_cons (low high : Nat) (rest : RangeTable) (n : Nat) :
    covers ((low, high) :: rest) n =
      if n < low then false else if n ≤ high then true else covers rest n := rfl

end RangeTable

end Stencil
