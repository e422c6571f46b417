import Lox.Proofs.Number.Rounding

/-!
The double nearest to a number that is not negative.

What is nearest is said of doubles and their values; below the overflow it comes to the nearest
magnitude, so only one double is nearest. The double that is found for a quotient is this one. It is
infinity from the first number on that overflows, and zero up to half the smallest positive double.
-/

set_option autoImplicit false
set_option relaxedAutoImplicit false

namespace Lox.Binary64

variable {double : Binary64} {number : ℚ} {rank num den : Nat}

/-- A finite double without a sign is nearest to a number among all finite doubles; if a double of
another value is as near, its significand is even. -/
structure IsNearest (double : Binary64) (number : ℚ) : Prop where
  finite : double.IsFinite
  unsigned : double.sign = 0
  le (other : Binary64) (finite : other.IsFinite) :
    |number - double.value| ≤ |number - other.value|
  even (other : Binary64) (finite : other.IsFinite) (apart : other.value ≠ double.value)
    (tie : |number - double.value| = |number - other.value|) : double.significand % 2 = 0

section limits

/-- The last of the finite doubles and the power of two behind it, in units of the smallest. -/
private theorem halfway_infinityBits :
    (magnitude (infinityBits - 1) + magnitude infinityBits : ℚ) =
      2 * ((2 ^ 1024 - 2 ^ 970) * 2 ^ 1074) := by
  have last : infinityBits - 1 = 2045 * 2 ^ 52 + (2 ^ 53 - 1) := rfl
  have behind : infinityBits = 2045 * 2 ^ 52 + 2 ^ 53 := rfl
  have top : (2 : ℚ) ^ 1024 = 2 ^ 54 * 2 ^ 970 := pow_add 2 54 970
  have spacing : ((2 ^ 2045 : Nat) : ℚ) = 2 * (2 ^ 970 * 2 ^ 1074) := by
    rw [Nat.cast_pow, Nat.cast_ofNat, ← pow_add, ← pow_succ']
  rw [last, behind, magnitude_add (.inr (by decide)) (by decide),
    magnitude_add (.inr (by decide)) le_rfl, top, Nat.cast_mul, Nat.cast_mul, spacing]
  generalize (2 : ℚ) ^ 970 = gap
  generalize (2 : ℚ) ^ 1074 = unit
  push_cast
  ring

private theorem infinityBits_le_rank_iff (near : NearestEven magnitude (number * 2 ^ 1074) rank) :
    infinityBits ≤ rank ↔ 2 ^ 1024 - 2 ^ 970 ≤ number := by
  have odd : (infinityBits - 1) % 2 = 1 := rfl
  have next : infinityBits - 1 + 1 = infinityBits := rfl
  have positive : (0 : ℚ) < 2 ^ 1074 := pow_pos two_pos 1074
  have iff := near.lt_iff_of_odd magnitude_strictMono odd
  rw [next, halfway_infinityBits, mul_le_mul_iff_right₀ two_pos,
    mul_le_mul_iff_left₀ positive] at iff
  exact iff

private theorem rank_eq_zero_iff (near : NearestEven magnitude (number * 2 ^ 1074) rank) :
    rank = 0 ↔ number ≤ 1 / 2 ^ 1075 := by
  have iff := near.lt_iff_of_even magnitude_strictMono (Nat.zero_mod 2)
  have first : (magnitude 0 + magnitude (0 + 1) : ℚ) = 1 := by
    have sum : magnitude 0 + magnitude (0 + 1) = 1 := by decide +kernel
    exact_mod_cast sum
  have positive : (0 : ℚ) < 2 ^ 1075 := pow_pos two_pos 1075
  rw [first, mul_left_comm, ← pow_succ' (2 : ℚ) 1074, ← div_lt_iff₀ positive] at iff
  rw [← Nat.le_zero, ← not_lt, iff, not_lt]

end limits

section nearest

def ofRank (rank : Nat) : Binary64 := ⟨UInt64.ofNat rank⟩

private theorem toNat_ofRank (le : rank ≤ infinityBits) : (ofRank rank).bits.toNat = rank := by
  have limit : infinityBits < 2 ^ 63 := by decide
  exact Nat.mod_eq_of_lt (by omega)

private theorem rank_ofRank (le : rank ≤ infinityBits) : (ofRank rank).rank = rank := by
  have limit : infinityBits < 2 ^ 63 := by decide
  rw [Binary64.rank, toNat_ofRank le]
  exact Nat.mod_eq_of_lt (by omega)

private theorem ofRank_inj {other : Nat} (le : rank ≤ infinityBits)
    (otherLe : other ≤ infinityBits) : ofRank rank = ofRank other ↔ rank = other := by
  constructor
  · intro equal
    rw [← rank_ofRank le, equal, rank_ofRank otherLe]
  · rintro rfl
    rfl

private theorem sign_ofRank (le : rank ≤ infinityBits) : (ofRank rank).sign = 0 := by
  rw [sign_eq_zero_iff, toNat_ofRank le, rank_ofRank le]

private theorem isFinite_ofRank (small : rank < infinityBits) : (ofRank rank).IsFinite := by
  rwa [isFinite_iff, rank_ofRank small.le]

private theorem eq_ofRank (unsigned : double.sign = 0) : double = ofRank double.rank := by
  rw [ofRank, ← (sign_eq_zero_iff double).mp unsigned, UInt64.ofNat_toNat]

private theorem value_of_unsigned (unsigned : double.sign = 0) :
    double.value = magnitude double.rank / 2 ^ 1074 := by
  rw [value_eq, unsigned, pow_zero, one_mul]

private theorem value_zero : zero.value = 0 := by
  have origin : magnitude zero.rank = 0 := rfl
  rw [value_of_unsigned rfl, origin, Nat.cast_zero, zero_div]

private theorem abs_sub_value (unsigned : double.sign = 0) (number : ℚ) :
    |number - double.value| = |number * 2 ^ 1074 - magnitude double.rank| / 2 ^ 1074 := by
  have positive : (0 : ℚ) < 2 ^ 1074 := pow_pos two_pos 1074
  rw [value_of_unsigned unsigned]
  generalize (2 : ℚ) ^ 1074 = unit at positive
  rw [← abs_of_pos positive, ← abs_div, abs_of_pos positive, sub_div,
    mul_div_cancel_right₀ _ positive.ne']

private theorem exists_unsigned (nonneg : 0 ≤ number) (other : Binary64) (finite : other.IsFinite) :
    ∃ closer : Binary64, closer.IsFinite ∧ closer.sign = 0 ∧
      |number - closer.value| ≤ |number - other.value| ∧
      (|number - closer.value| = |number - other.value| → closer.value = other.value) := by
  have bit : other.sign = 0 ∨ other.sign = 1 := by
    have bound := other.bits.toNat_lt
    unfold sign
    omega
  rcases bit with unsigned | signed
  · exact ⟨other, finite, unsigned, le_rfl, fun _ => rfl⟩
  · have below : other.value ≤ 0 := by
      rw [value_eq, signed, pow_one, neg_one_mul, neg_nonpos]
      positivity
    refine ⟨zero, (isFinite_iff zero).mpr (by decide), rfl, ?_, ?_⟩ <;>
      rw [value_zero, sub_zero, abs_of_nonneg nonneg, abs_of_nonneg (by linarith)]
    · linarith
    · intro tie
      linarith

private theorem isNearest_of_nearestEven (nonneg : 0 ≤ number) (finite : double.IsFinite)
    (unsigned : double.sign = 0)
    (near : NearestEven magnitude (number * 2 ^ 1074) double.rank) : double.IsNearest number := by
  have le (closer : Binary64) (positive : closer.sign = 0) :
      |number - double.value| ≤ |number - closer.value| := by
    rw [abs_sub_value unsigned, abs_sub_value positive]
    exact div_le_div_of_nonneg_right (near.le closer.rank) (pow_nonneg two_pos.le 1074)
  refine ⟨finite, unsigned, ?_, ?_⟩
  · intro other otherFinite
    obtain ⟨closer, -, positive, closest, -⟩ := exists_unsigned nonneg other otherFinite
    exact (le closer positive).trans closest
  · intro other otherFinite apart tie
    obtain ⟨closer, -, positive, closest, same⟩ := exists_unsigned nonneg other otherFinite
    have equal := le_antisymm (le closer positive) (closest.trans tie.symm.le)
    have ranks : closer.rank ≠ double.rank := by
      intro ranks
      apply apart
      rw [← same (equal.symm.trans tie), value_of_unsigned unsigned, value_of_unsigned positive,
        ranks]
    rw [abs_sub_value unsigned, abs_sub_value positive] at equal
    have units := (div_left_inj' (pow_ne_zero 1074 two_ne_zero)).mp equal
    have even := near.even closer.rank ranks units
    have place := rank_eq double
    omega

private theorem abs_sub_last_lt (below : number < 2 ^ 1024 - 2 ^ 970)
    (beyond : infinityBits ≤ rank) :
    |number * 2 ^ 1074 - magnitude (infinityBits - 1)| < |number * 2 ^ 1074 - magnitude rank| := by
  have positive : (0 : ℚ) < 2 ^ 1074 := pow_pos two_pos 1074
  have last : (magnitude (infinityBits - 1) : ℚ) < magnitude rank :=
    Nat.cast_lt.mpr (magnitude_strictMono (Nat.lt_of_lt_of_le (by decide) beyond))
  rw [← not_le, NearestEven.abs_sub_le_iff_left last, not_le]
  calc 2 * (number * 2 ^ 1074)
    _ < 2 * ((2 ^ 1024 - 2 ^ 970) * 2 ^ 1074) :=
      mul_lt_mul_of_pos_left (mul_lt_mul_of_pos_right below positive) two_pos
    _ = magnitude (infinityBits - 1) + magnitude infinityBits := halfway_infinityBits.symm
    _ ≤ magnitude (infinityBits - 1) + magnitude rank := by
      gcongr
      exact magnitude_strictMono.monotone beyond

private theorem IsNearest.nearestEven (near : double.IsNearest number)
    (below : number < 2 ^ 1024 - 2 ^ 970) :
    NearestEven magnitude (number * 2 ^ 1074) double.rank := by
  have positive : (0 : ℚ) < 2 ^ 1074 := pow_pos two_pos 1074
  have le {other : Nat} (small : other < infinityBits) :
      |number * 2 ^ 1074 - magnitude double.rank| ≤ |number * 2 ^ 1074 - magnitude other| := by
    have closest := near.le (ofRank other) (isFinite_ofRank small)
    rw [abs_sub_value near.unsigned, abs_sub_value (sign_ofRank small.le),
      rank_ofRank small.le] at closest
    exact (div_le_div_iff_of_pos_right positive).mp closest
  have last : infinityBits - 1 < infinityBits := by decide
  constructor
  · intro other
    by_cases small : other < infinityBits
    · exact le small
    · exact (le last).trans (abs_sub_last_lt below (Nat.le_of_not_lt small)).le
  · intro other apart tie
    by_cases small : other < infinityBits
    · have unsigned := sign_ofRank small.le
      have even := near.even (ofRank other) (isFinite_ofRank small)
      rw [abs_sub_value near.unsigned, abs_sub_value unsigned, value_of_unsigned near.unsigned,
        value_of_unsigned unsigned, rank_ofRank small.le, tie] at even
      have place := rank_eq double
      have differs : (magnitude other / 2 ^ 1074 : ℚ) ≠ magnitude double.rank / 2 ^ 1074 := by
        rw [Ne, div_left_inj' positive.ne', Nat.cast_inj]
        exact magnitude_strictMono.injective.ne apart
      have significand := even differs rfl
      omega
    · exact absurd tie ((le last).trans_lt (abs_sub_last_lt below (Nat.le_of_not_lt small))).ne

end nearest

section quotient

private theorem nearestEven_quotient (units : Nat) (pos : 0 < den) :
    NearestEven magnitude (units / den) (((units / den).log2 - 52) * 2 ^ 52 +
      roundQuotient units (den * 2 ^ ((units / den).log2 - 52))) := by
  have positive : (0 : ℚ) < den := Nat.cast_pos.mpr pos
  obtain ⟨place, shift⟩ : ∃ place, place = (units / den).log2 - 52 := ⟨_, rfl⟩
  rw [← shift]
  have near := NearestEven.roundQuotient units (Nat.mul_pos pos (Nat.two_pow_pos place))
  rw [Nat.cast_mul, ← div_div, Nat.cast_pow, Nat.cast_ofNat] at near
  apply near.of_significand
  · by_cases small : place = 0
    · exact .inl small
    · have some : units / den ≠ 0 := by
        intro none
        rw [none] at shift
        exact small shift
      have start : 2 ^ 52 * 2 ^ place ≤ units / den := by
        rw [← pow_add, show 52 + place = (units / den).log2 by omega]
        exact Nat.log2_self_le some
      rw [Nat.le_div_iff_mul_le pos] at start
      rw [le_div_iff₀ positive]
      exact .inr (by exact_mod_cast start)
  · have ending : units / den < 2 ^ 53 * 2 ^ place := by
      rw [← pow_add]
      exact Nat.lt_log2_self.trans_le (Nat.pow_le_pow_right two_pos (by omega))
    rw [Nat.div_lt_iff_lt_mul pos] at ending
    rw [div_le_iff₀ positive]
    exact_mod_cast ending.le

/-- The double that is found for a quotient is the nearest as if no exponent were the highest, or
infinity in place of one with a higher exponent. -/
private theorem exists_ofQuotient (num : Nat) (pos : 0 < den) :
    ∃ rank, NearestEven magnitude (num / den * 2 ^ 1074) rank ∧
      ofQuotient num den = ofRank (min rank infinityBits) := by
  -- The exponent gets a name, so that no step evaluates the power.
  obtain ⟨shift, named⟩ : ∃ shift, 1074 = shift := ⟨_, rfl⟩
  have near := nearestEven_quotient (num * 2 ^ shift) pos
  rw [Nat.cast_mul, Nat.cast_pow, Nat.cast_ofNat, mul_div_right_comm] at near
  rw [named]
  refine ⟨_, near, ?_⟩
  unfold ofQuotient
  rw [named]
  rfl

theorem not_isNaN_ofQuotient (num : Nat) (pos : 0 < den) : ¬ (ofQuotient num den).IsNaN := by
  obtain ⟨rank, -, found⟩ := exists_ofQuotient num pos
  have capped : (ofQuotient num den).bits.toNat ≤ infinityBits := by
    rw [found, toNat_ofRank (min_le_right _ _)]
    exact min_le_right _ _
  unfold IsNaN exponent fraction
  unfold infinityBits at capped
  omega

theorem ofQuotient_eq_infinity_iff (num : Nat) (pos : 0 < den) :
    ofQuotient num den = infinity ↔ 2 ^ 1024 - 2 ^ 970 ≤ (num / den : ℚ) := by
  obtain ⟨rank, near, found⟩ := exists_ofQuotient num pos
  have last : infinity = ofRank infinityBits := rfl
  rw [← infinityBits_le_rank_iff near, found, last, ofRank_inj (min_le_right _ _) le_rfl]
  exact min_eq_right_iff

theorem ofQuotient_eq_zero_iff (num : Nat) (pos : 0 < den) :
    ofQuotient num den = zero ↔ (num / den : ℚ) ≤ 1 / 2 ^ 1075 := by
  obtain ⟨rank, near, found⟩ := exists_ofQuotient num pos
  have first : zero = ofRank 0 := rfl
  rw [← rank_eq_zero_iff near, found, first, ofRank_inj (min_le_right _ _) (Nat.zero_le _)]
  unfold infinityBits
  omega

theorem isNearest_quotient_iff (num : Nat) (pos : 0 < den)
    (below : (num / den : ℚ) < 2 ^ 1024 - 2 ^ 970) :
    double.IsNearest (num / den) ↔ double = ofQuotient num den := by
  obtain ⟨rank, near, found⟩ := exists_ofQuotient num pos
  have small : rank < infinityBits := by
    rw [← not_le, infinityBits_le_rank_iff near, not_le]
    exact below
  rw [found, min_eq_left small.le]
  constructor
  · intro nearest
    rw [eq_ofRank nearest.unsigned, (nearest.nearestEven below).unique magnitude_strictMono near]
  · rintro rfl
    apply isNearest_of_nearestEven (by positivity) (isFinite_ofRank small) (sign_ofRank small.le)
    rwa [rank_ofRank small.le]

end quotient

end Lox.Binary64
