/-!
Sets of characters given by ascending ranges of code points.
-/

set_option autoImplicit false
set_option relaxedAutoImplicit false

namespace Lox.Unicode

abbrev CodeRange := Nat × Nat

/-- Whether a code point lies in one of some ascending ranges; the search ends at the first
range beyond it. -/
def covers : List CodeRange → Nat → Bool
  | [], _ => false
  | (first, last) :: ranges, code =>
      if code < first then false else if code ≤ last then true else covers ranges code

end Lox.Unicode
