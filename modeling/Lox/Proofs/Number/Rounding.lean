import Mathlib.Tactic.Positivity
import Lox.Proofs.Number.Magnitude

/-!
Rounding to the nearest point of a grid, where a tie goes to the point with the even index.

The points halfway between neighbours decide which point that is, so there is only one. A quotient
is rounded to the nearest natural number, and this is what rounds its significand in a binade; no
double of another binade is nearer than the significand that was found.
-/

set_option autoImplicit false
set_option relaxedAutoImplicit false

namespace Lox

/-- The point of a grid at some index is nearest to a value; if another point is as near, the index
is even. -/
structure NearestEven (grid : Nat → Nat) (value : ℚ) (index : Nat) : Prop where
  le (other : Nat) : |value - grid index| ≤ |value - grid other|
  even (other : Nat) (apart : other ≠ index)
    (tie : |value - grid index| = |value - grid other|) : index % 2 = 0

namespace NearestEven

variable {grid : Nat → Nat} {value low high : ℚ} {index other bound num den place : Nat}

section halfway

private theorem abs_sub_le_iff_right (lt : low < high) :
    |value - low| ≤ |value - high| ↔ 2 * value ≤ low + high := by
  have squares : (value - high) ^ 2 - (value - low) ^ 2 =
      (high - low) * (low + high - 2 * value) := by
    ring
  rw [← sq_le_sq, ← sub_nonneg, squares, mul_nonneg_iff_of_pos_left (sub_pos.mpr lt), sub_nonneg]

theorem abs_sub_le_iff_left (lt : low < high) :
    |value - high| ≤ |value - low| ↔ low + high ≤ 2 * value := by
  have squares : (value - low) ^ 2 - (value - high) ^ 2 =
      (high - low) * (2 * value - (low + high)) := by
    ring
  rw [← sq_le_sq, ← sub_nonneg, squares, mul_nonneg_iff_of_pos_left (sub_pos.mpr lt), sub_nonneg]

/-- The nearest point lies above another one just if the value lies above the halfway point that
follows, or there and the point below is odd. -/
private theorem lt_iff (mono : StrictMono grid) (near : NearestEven grid value index)
    (bound : Nat) :
    bound < index ↔ (grid bound + grid (bound + 1) : ℚ) < 2 * value ∨
      (grid bound + grid (bound + 1) : ℚ) = 2 * value ∧ bound % 2 = 1 := by
  have cast {first second : Nat} : (grid first : ℚ) < grid second ↔ first < second := by
    rw [Nat.cast_lt, mono.lt_iff_lt]
  constructor
  · intro above
    have half := (abs_sub_le_iff_left (cast.mpr above)).mp (near.le bound)
    obtain rfl | beyond := Nat.eq_or_lt_of_le (Nat.succ_le_of_lt above)
    · rcases half.lt_or_eq with strict | tie
      · exact .inl strict
      · have low := (abs_sub_le_iff_right (cast.mpr above)).mpr tie.symm.le
        have even := near.even bound above.ne (le_antisymm (near.le bound) low)
        exact .inr ⟨tie, by omega⟩
    · have closer := cast.mpr beyond
      exact .inl (by linarith)
  · intro halfway
    by_contra notAbove
    have below : index < bound + 1 := by omega
    have half := (abs_sub_le_iff_right (cast.mpr below)).mp (near.le (bound + 1))
    obtain rfl | beyond := Nat.eq_or_lt_of_le (Nat.le_of_not_lt notAbove)
    · rcases halfway with strict | ⟨tie, odd⟩
      · linarith
      · have high := (abs_sub_le_iff_left (cast.mpr below)).mpr tie.le
        have even := near.even _ below.ne' (le_antisymm (near.le _) high)
        omega
    · have closer := cast.mpr beyond
      rcases halfway with strict | ⟨tie, -⟩ <;> linarith

theorem lt_iff_of_even (mono : StrictMono grid) (near : NearestEven grid value index)
    (even : bound % 2 = 0) :
    bound < index ↔ (grid bound + grid (bound + 1) : ℚ) < 2 * value := by
  rw [near.lt_iff mono, even]
  simp

theorem lt_iff_of_odd (mono : StrictMono grid) (near : NearestEven grid value index)
    (odd : bound % 2 = 1) :
    bound < index ↔ (grid bound + grid (bound + 1) : ℚ) ≤ 2 * value := by
  rw [near.lt_iff mono, odd, le_iff_lt_or_eq]
  simp

theorem unique (mono : StrictMono grid) (near : NearestEven grid value index)
    (also : NearestEven grid value other) : index = other :=
  eq_of_forall_lt_iff fun bound => (near.lt_iff mono bound).trans (also.lt_iff mono bound).symm

private theorem le_of_le (mono : StrictMono grid) (near : NearestEven grid value index)
    (le : value ≤ grid bound) : index ≤ bound := by
  by_contra above
  have step : (grid bound : ℚ) < grid (bound + 1) := Nat.cast_lt.mpr (mono bound.lt_succ_self)
  rcases (near.lt_iff mono bound).mp (Nat.lt_of_not_le above) with strict | ⟨tie, -⟩ <;> linarith

private theorem ge_of_ge (mono : StrictMono grid) (near : NearestEven grid value index)
    (ge : grid bound ≤ value) : bound ≤ index := by
  cases bound with
  | zero => exact index.zero_le
  | succ bound =>
      have step : (grid bound : ℚ) < grid (bound + 1) := Nat.cast_lt.mpr (mono bound.lt_succ_self)
      exact (near.lt_iff mono bound).mpr (.inl (by linarith))

end halfway

section quotient

private theorem of_error (error : |value - index| ≤ 1 / 2)
    (even : |value - index| = 1 / 2 → index % 2 = 0) : NearestEven id value index := by
  have far (other : Nat) (apart : other ≠ index) : 1 / 2 ≤ |value - other| := by
    have gap : (1 : ℚ) ≤ |(index : ℚ) - other| := by
      rw [← Int.cast_natCast index, ← Int.cast_natCast other, ← Int.cast_sub, ← Int.cast_abs]
      have some : 1 ≤ |(index : ℤ) - other| := Int.one_le_abs (by omega)
      exact_mod_cast some
    have triangle := abs_sub_le (index : ℚ) value other
    rw [abs_sub_comm (index : ℚ) value] at triangle
    linarith
  constructor
  · intro other
    by_cases same : other = index
    · rw [same]
    · exact error.trans (far other same)
  · intro other apart tie
    have half := far other apart
    apply even
    simp only [id] at tie
    linarith

private theorem div_sub_whole (pos : 0 < den) :
    (num / den : ℚ) - (num / den : Nat) = (num % den : Nat) / den := by
  have parts : (den * (num / den : Nat) + (num % den : Nat) : ℚ) = num := by
    exact_mod_cast Nat.div_add_mod num den
  have some : (den : ℚ) ≠ 0 := Nat.cast_ne_zero.mpr pos.ne'
  rw [← parts, add_div, mul_div_cancel_left₀ _ some, add_sub_cancel_left]

theorem roundQuotient (num : Nat) (pos : 0 < den) :
    NearestEven id (num / den) (Binary64.roundQuotient num den) := by
  have positive : (0 : ℚ) < den := Nat.cast_pos.mpr pos
  have off (step : Nat) :
      (num / den : ℚ) - (num / den + step : Nat) = (num % den : Nat) / den - step := by
    rw [Nat.cast_add, ← sub_sub, div_sub_whole pos]
  rcases lt_trichotomy (2 * (num % den)) den with less | half | more
  · have part : ((num % den : Nat) / den : ℚ) < 1 / 2 := by
      rw [div_lt_div_iff₀ positive two_pos]
      exact_mod_cast (by omega)
    have some : (0 : ℚ) ≤ (num % den : Nat) / den := by positivity
    have rounded : Binary64.roundQuotient num den = num / den + 0 := by
      simp [Binary64.roundQuotient, less]
    rw [rounded]
    apply of_error <;> rw [off, Nat.cast_zero, sub_zero, abs_of_nonneg some]
    · exact part.le
    · exact fun tie => absurd tie part.ne
  · have part : ((num % den : Nat) / den : ℚ) = 1 / 2 := by
      rw [div_eq_div_iff positive.ne' two_ne_zero]
      exact_mod_cast (by omega)
    have rounded : Binary64.roundQuotient num den = num / den + num / den % 2 := by
      simp [Binary64.roundQuotient, half]
    rw [rounded]
    apply of_error
    · rw [off, part]
      rcases Nat.mod_two_eq_zero_or_one (num / den) with even | odd
      · simp [even]
      · norm_num [odd]
    · omega
  · have part : (1 / 2 : ℚ) < (num % den : Nat) / den := by
      rw [div_lt_div_iff₀ two_pos positive]
      exact_mod_cast (by omega)
    have below : ((num % den : Nat) / den : ℚ) < 1 := by
      rw [div_lt_one positive]
      exact_mod_cast Nat.mod_lt num pos
    have rounded : Binary64.roundQuotient num den = num / den + 1 := by
      simp [Binary64.roundQuotient, more, more.not_gt]
    rw [rounded]
    apply of_error <;> rw [off, Nat.cast_one, abs_sub_comm, abs_of_pos (sub_pos.mpr below)]
    · linarith
    · intro tie
      linarith

end quotient

section binade

private theorem abs_sub_scaled (value : ℚ) (place ulps : Nat) :
    |value - (ulps * 2 ^ place : Nat)| = |value / 2 ^ place - ulps| * 2 ^ place := by
  have positive : (0 : ℚ) < 2 ^ place := pow_pos two_pos place
  have scaled : value - (ulps * 2 ^ place : Nat) = (value / 2 ^ place - ulps) * 2 ^ place := by
    rw [sub_mul, div_mul_cancel₀ _ positive.ne']
    push_cast
    rfl
  rw [scaled, abs_mul, abs_of_pos positive]

/-- Below the binade of a value the doubles are closer together, yet a point of the binade is nearer
than any of them. -/
private theorem abs_sub_lt_of_below (near : NearestEven id (value / 2 ^ place) index)
    (start : 2 ^ 52 * 2 ^ place ≤ value) (lower : other < 2 ^ 52 * 2 ^ place) :
    |value - (index * 2 ^ place : Nat)| < |value - other| := by
  have positive : (0 : ℚ) < 2 ^ place := pow_pos two_pos place
  have first : ((2 ^ 52 * 2 ^ place : Nat) : ℚ) ≤ value := by exact_mod_cast start
  have further : (other : ℚ) < (2 ^ 52 * 2 ^ place : Nat) := Nat.cast_lt.mpr lower
  calc |value - (index * 2 ^ place : Nat)|
    _ ≤ |value - (2 ^ 52 * 2 ^ place : Nat)| := by
      rw [abs_sub_scaled, abs_sub_scaled]
      exact mul_le_mul_of_nonneg_right (near.le (2 ^ 52)) positive.le
    _ = value - (2 ^ 52 * 2 ^ place : Nat) := abs_of_nonneg (sub_nonneg.mpr first)
    _ < value - other := by linarith
    _ ≤ |value - other| := le_abs_self _

theorem of_significand (near : NearestEven id (value / 2 ^ place) index)
    (start : place = 0 ∨ 2 ^ 52 * 2 ^ place ≤ value) (ending : value ≤ 2 ^ 53 * 2 ^ place) :
    NearestEven Binary64.magnitude value (place * 2 ^ 52 + index) := by
  have positive : (0 : ℚ) < 2 ^ place := pow_pos two_pos place
  have normal : place = 0 ∨ 2 ^ 52 ≤ index := by
    apply start.imp_right
    intro start
    apply near.ge_of_ge strictMono_id
    rw [le_div_iff₀ positive]
    exact_mod_cast start
  have fits : index ≤ 2 ^ 53 := by
    apply near.le_of_le strictMono_id
    rw [div_le_iff₀ positive]
    exact_mod_cast ending
  have point := Binary64.magnitude_add normal fits
  constructor
  · intro other
    rw [point]
    rcases Binary64.magnitude_cases other place with ⟨ulps, same⟩ | ⟨some, lower⟩
    · rw [same, abs_sub_scaled, abs_sub_scaled]
      exact mul_le_mul_of_nonneg_right (near.le ulps) positive.le
    · exact (near.abs_sub_lt_of_below (start.resolve_left some) lower).le
  · intro other apart tie
    have differs := Binary64.magnitude_strictMono.injective.ne apart
    rw [point] at tie differs
    rcases Binary64.magnitude_cases other place with ⟨ulps, same⟩ | ⟨some, lower⟩
    · rw [same, abs_sub_scaled, abs_sub_scaled] at tie
      have even : index % 2 = 0 := by
        apply near.even ulps
        · rintro rfl
          exact differs same
        · exact mul_right_cancel₀ positive.ne' tie
      omega
    · exact absurd tie (near.abs_sub_lt_of_below (start.resolve_left some) lower).ne

end binade

end NearestEven

end Lox
