import Mathlib.Algebra.Order.Field.Rat
import Mathlib.Algebra.Order.Field.Power
import Mathlib.Order.Monotone.Basic
import Mathlib.Tactic.Linarith
import Mathlib.Tactic.Ring
import Lox.Number.Binary64

/-!
The number a double stands for, read from the fields of its bits.

In units of the smallest positive double, the magnitude of a finite double is a natural number. It
grows with the bits below the sign, so these bits number the finite doubles that are not negative
in the order of their values.
-/

set_option autoImplicit false
set_option relaxedAutoImplicit false

namespace Lox.Binary64

variable {place ulps : Nat}

section fields

def sign (double : Binary64) : Nat := double.bits.toNat / 2 ^ 63

def exponent (double : Binary64) : Nat := double.bits.toNat / 2 ^ 52 % 2 ^ 11

def fraction (double : Binary64) : Nat := double.bits.toNat % 2 ^ 52

/-- The highest exponent is kept for the infinities and for what is not a number. -/
def IsFinite (double : Binary64) : Prop := double.exponent ≠ 2047

def IsNaN (double : Binary64) : Prop := double.exponent = 2047 ∧ double.fraction ≠ 0

/-- The fraction behind a leading one, which is missing at the lowest exponent. -/
def significand (double : Binary64) : Nat :=
  if double.exponent = 0 then double.fraction else 2 ^ 52 + double.fraction

def value (double : Binary64) : ℚ :=
  (-1) ^ double.sign * double.significand * 2 ^ ((max 1 double.exponent : ℤ) - 1075)

example : value ⟨0xC008000000000000⟩ = -3 := by decide +kernel

def zero : Binary64 := ⟨0⟩

def infinity : Binary64 := ⟨0x7FF0000000000000⟩

/-- All bits below the sign. -/
def rank (double : Binary64) : Nat := double.bits.toNat % 2 ^ 63

theorem isFinite_iff (double : Binary64) : double.IsFinite ↔ double.rank < infinityBits := by
  unfold IsFinite exponent rank infinityBits
  omega

theorem sign_eq_zero_iff (double : Binary64) :
    double.sign = 0 ↔ double.bits.toNat = double.rank := by
  unfold sign rank
  omega

theorem rank_eq (double : Binary64) :
    double.rank = (double.exponent - 1) * 2 ^ 52 + double.significand := by
  unfold rank significand exponent fraction
  split <;> omega

private theorem significand_lt (double : Binary64) : double.significand < 2 ^ 53 := by
  unfold significand fraction
  split <;> omega

private theorem exponent_pred_eq_zero_or (double : Binary64) :
    double.exponent - 1 = 0 ∨ 2 ^ 52 ≤ double.significand := by
  unfold significand
  split <;> omega

end fields

section magnitude

/-- The magnitude of a double with these bits below its sign, in units of the smallest positive
double and as if the highest exponent were one like the others. -/
def magnitude (rank : Nat) : Nat :=
  (rank - (rank / 2 ^ 52 - 1) * 2 ^ 52) * 2 ^ (rank / 2 ^ 52 - 1)

/-- The significand may also overflow by one: the next binade begins there. -/
theorem magnitude_add (normal : place = 0 ∨ 2 ^ 52 ≤ ulps) (fits : ulps ≤ 2 ^ 53) :
    magnitude (place * 2 ^ 52 + ulps) = ulps * 2 ^ place := by
  unfold magnitude
  by_cases overflow : ulps = 2 ^ 53
  · have next : (place * 2 ^ 52 + ulps) / 2 ^ 52 - 1 = place + 1 := by omega
    have start : place * 2 ^ 52 + ulps - (place + 1) * 2 ^ 52 = 2 ^ 52 := by omega
    rw [next, start, overflow, pow_succ 2 place]
    ring
  · have same : (place * 2 ^ 52 + ulps) / 2 ^ 52 - 1 = place := by omega
    rw [same, Nat.add_sub_cancel_left]

private theorem exists_place (rank : Nat) :
    ∃ place ulps, (place = 0 ∨ 2 ^ 52 ≤ ulps) ∧ ulps < 2 ^ 53 ∧
      rank = place * 2 ^ 52 + ulps := by
  refine ⟨rank / 2 ^ 52 - 1, rank - (rank / 2 ^ 52 - 1) * 2 ^ 52, ?_, ?_, ?_⟩ <;> omega

theorem magnitude_strictMono : StrictMono magnitude := by
  apply strictMono_nat_of_lt_succ
  intro rank
  obtain ⟨place, ulps, normal, fits, rfl⟩ := exists_place rank
  have more : place = 0 ∨ 2 ^ 52 ≤ ulps + 1 := by omega
  rw [add_assoc, magnitude_add normal fits.le, magnitude_add more fits]
  have spacing := Nat.two_pow_pos place
  exact Nat.mul_lt_mul_of_pos_right ulps.lt_succ_self spacing

theorem magnitude_cases (rank place : Nat) :
    (∃ ulps, magnitude rank = ulps * 2 ^ place) ∨
      place ≠ 0 ∧ magnitude rank < 2 ^ 52 * 2 ^ place := by
  obtain ⟨own, ulps, normal, fits, rfl⟩ := exists_place rank
  rw [magnitude_add normal fits.le]
  by_cases within : place ≤ own
  · refine .inl ⟨ulps * 2 ^ (own - place), ?_⟩
    rw [mul_assoc, ← pow_add, Nat.sub_add_cancel within]
  · refine .inr ⟨by omega, ?_⟩
    have spacing : 2 ^ (own + 1) ≤ 2 ^ place := Nat.pow_le_pow_right two_pos (by omega)
    calc ulps * 2 ^ own
      _ < 2 ^ 53 * 2 ^ own := Nat.mul_lt_mul_of_pos_right fits (Nat.two_pow_pos own)
      _ = 2 ^ 52 * 2 ^ (own + 1) := by ring
      _ ≤ 2 ^ 52 * 2 ^ place := Nat.mul_le_mul_left _ spacing

theorem value_eq (double : Binary64) :
    double.value = (-1) ^ double.sign * (magnitude double.rank / 2 ^ 1074) := by
  have scale : (2 : ℚ) ^ ((max 1 double.exponent : ℤ) - 1075) =
      2 ^ (double.exponent - 1) / 2 ^ 1074 := by
    have shift : (max 1 double.exponent : ℤ) - 1075 =
        (double.exponent - 1 : Nat) - (1074 : Nat) := by
      omega
    rw [shift, zpow_sub₀ two_ne_zero, zpow_natCast, zpow_natCast]
  rw [rank_eq, magnitude_add double.exponent_pred_eq_zero_or double.significand_lt.le, value,
    scale, Nat.cast_mul, Nat.cast_pow, Nat.cast_ofNat, mul_assoc, mul_div_assoc]

end magnitude

end Lox.Binary64
