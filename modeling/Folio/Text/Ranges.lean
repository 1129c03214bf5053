/-!
# Character ranges

A character property beyond ASCII is a table of closed ranges of code points in ascending order. A
search in a table stops at the first range that begins past the code point.
-/

namespace Folio.Text

/-- Whether a code point lies in one of the ascending closed ranges. -/
def inRanges : List (Nat × Nat) → Nat → Bool
  | [], _ => false
  | (first, last) :: rest, n => if n < first then false else n ≤ last || inRanges rest n

end Folio.Text
