/-!
# Ranges of characters

A property of characters is tabled as the ranges of code points that have it, in ascending order
and without overlap.
-/

namespace SqlTemplate.Text

abbrev Ranges := List (Nat × Nat)

/-- Whether a code point lies in one of the ranges. The ranges ascend, so the search ends at the
first one that begins later. -/
def Ranges.contains : Ranges → Nat → Bool
  | [], _ => false
  | (first, last) :: rest, n => first ≤ n && (n ≤ last || Ranges.contains rest n)

/-- Whether each range ends where it begins or later, and the next one begins after it. -/
def Ranges.ascend : Ranges → Bool
  | [] => true
  | [(first, last)] => first ≤ last
  | (first, last) :: (next, final) :: rest =>
    first ≤ last && last < next && ascend ((next, final) :: rest)

end SqlTemplate.Text
