/-!
Doubles as bit patterns, and the double nearest to a quotient of natural numbers.

The bit pattern of a finite double that is not negative, read as a number, counts the doubles
below it. Within one binade the pattern grows by one for every unit in the last place, and the
carry out of the significand is the step to the next binade; so rounding the significand and
adding it to the start of the binade is right also where the significand overflows.
-/

set_option autoImplicit false
set_option relaxedAutoImplicit false

namespace Lox

/-- A double, given by its bit pattern. -/
structure Binary64 where
  bits : UInt64
  deriving DecidableEq

namespace Binary64

/-- The natural number nearest to a quotient; of two that are equally near, the even one. -/
def roundQuotient (num den : Nat) : Nat :=
  let whole := num / den
  let double := 2 * (num % den)
  if double < den then whole
  else if den < double then whole + 1
  else whole + whole % 2

def infinityBits : Nat := 0x7FF0000000000000

/-- The double nearest to a quotient, ties going to the even significand and quotients beyond the
largest double to infinity. The quotient is taken in units of the smallest positive double, of
which the last place of a binade spans a power of two. -/
def ofQuotient (num den : Nat) : Binary64 :=
  let units := num * Nat.pow 2 1074
  let place := (units / den).log2 - 52
  let pattern := place * Nat.pow 2 52 + roundQuotient units (den * Nat.pow 2 place)
  ⟨UInt64.ofNat (min pattern infinityBits)⟩

end Binary64

end Lox
