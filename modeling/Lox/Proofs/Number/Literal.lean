import Lox.Proofs.Item.Spelling
import Lox.Proofs.Number.Nearest

/-!
The numbers that stand in a text, and the doubles that its tokens carry.

The value of a numeral adds up its digits, each at its place before or behind the point. A number
token carries the double that is nearest to the value of the numeral it was written as, however long
that is, and the value alone decides whether it is zero or infinite.
-/

set_option autoImplicit false
set_option relaxedAutoImplicit false

namespace Lox

namespace Decimal

variable {numeral : Decimal} {digits : Text}

section value

def digitValue (c : Char) : Nat := c.toNat - '0'.toNat

def wholeValue : Text → ℚ
  | [] => 0
  | c :: digits => digitValue c * 10 ^ digits.length + wholeValue digits

def fractionValue : Text → ℚ
  | [] => 0
  | c :: digits => (digitValue c + fractionValue digits) / 10

/-- The number that a numeral stands for. -/
def value (numeral : Decimal) : ℚ := wholeValue numeral.whole + fractionValue numeral.fraction

example : value ⟨"007".toList, "250".toList⟩ = 29 / 4 := by decide +kernel

private theorem natural_concat (digits : Text) (c : Char) :
    natural (digits ++ [c]) = 10 * natural digits + digitValue c :=
  List.foldl_concat ..

private theorem natural_append (front behind : Text) :
    natural (front ++ behind) = natural front * 10 ^ behind.length + natural behind := by
  induction behind using List.reverseRecOn with
  | nil => simp [natural]
  | append_singleton behind c ih =>
      rw [← List.append_assoc, natural_concat, natural_concat, ih, List.length_append,
        List.length_singleton]
      ring

private theorem natural_cons (c : Char) (digits : Text) :
    natural (c :: digits) = digitValue c * 10 ^ digits.length + natural digits := by
  have single : natural [c] = digitValue c := Nat.zero_add _
  rw [← single]
  exact natural_append [c] digits

private theorem wholeValue_eq (digits : Text) : wholeValue digits = natural digits := by
  induction digits with
  | nil => rfl
  | cons c digits ih =>
      rw [wholeValue, ih, natural_cons]
      push_cast
      rfl

private theorem fractionValue_eq (digits : Text) :
    fractionValue digits = natural digits / 10 ^ digits.length := by
  induction digits with
  | nil => simp [fractionValue, natural]
  | cons c digits ih =>
      have some : (10 ^ digits.length : ℚ) ≠ 0 := pow_ne_zero _ (by norm_num)
      rw [fractionValue, ih, natural_cons, List.length_cons, pow_succ, ← div_div]
      push_cast
      rw [add_div _ _ (10 ^ digits.length : ℚ), mul_div_cancel_right₀ _ some]

theorem value_eq (numeral : Decimal) : numeral.value = numeral.units / numeral.scale := by
  have some : (10 ^ numeral.fraction.length : ℚ) ≠ 0 := pow_ne_zero _ (by norm_num)
  rw [value, wholeValue_eq, fractionValue_eq, units, scale, natural_append, Nat.pow_eq]
  push_cast
  rw [add_div, mul_div_cancel_right₀ _ some]

end value

section text

theorem Proper.text_inj {other : Decimal} (proper : numeral.Proper) (otherProper : other.Proper)
    (same : other.text = numeral.text) : other = numeral := by
  have ends (decimal : Decimal) : decimal.EndsAt [] := Item.separated_nil.endsAt decimal
  have read := read_text_append otherProper (ends other)
  rw [same, read_text_append proper (ends numeral)] at read
  exact (Prod.mk.inj read).1.symm

end text

end Decimal

theorem Item.Lexed.numeral {token : Token} (lexed : Lexed token) (isNumber : token.kind = .number) :
    ∃ numeral : Decimal, numeral.Proper ∧ token.lexeme = numeral.text ∧
      token.literal = some (.number numeral.nearest) := by
  obtain ⟨place, item, rest, is, fits⟩ := lexed
  cases is with
  | number numeral =>
      cases fits with
      | number proper ends => exact ⟨numeral, proper, rfl, rfl⟩
  | symbol kind =>
      obtain rfl : kind = .number := isNumber
      exact absurd fits.mem_symbols (by decide)
  | string content => contradiction
  | @reserved word kind member =>
      have others : ∀ pair ∈ Kind.reservedWords, pair.2 ≠ .number := by decide
      exact absurd isNumber (others _ member)
  | identifier free => contradiction

open Decimal Binary64

/-- A number token carries the double nearest to the value of the numeral that its lexeme is. It
carries infinity just if that value is at least halfway between the largest finite double and the
power of two behind it, and zero just if it is at most half the smallest positive double; below the
overflow, no other double is nearest to it. -/
theorem scan_number_nearest {source : Text} {token : Token}
    (member : token ∈ (scan source).tokens) (isNumber : token.kind = .number) :
    ∃ (numeral : Decimal) (double : Binary64),
      (∀ other : Decimal, other.Proper ∧ other.text = token.lexeme ↔ other = numeral) ∧
      token.literal = some (.number double) ∧ ¬ double.IsNaN ∧
      (double = .infinity ↔ 2 ^ 1024 - 2 ^ 970 ≤ numeral.value) ∧
      (double = .zero ↔ numeral.value ≤ 1 / 2 ^ 1075) ∧
      (numeral.value < 2 ^ 1024 - 2 ^ 970 →
        ∀ other : Binary64, other.IsNearest numeral.value ↔ other = double) := by
  have inside : token.kind ≠ .eof := by
    rw [isNumber]
    exact Kind.noConfusion
  obtain ⟨numeral, proper, lexeme, literal⟩ :=
    (Item.lexed_of_mem_scan member inside).numeral isNumber
  have pos : 0 < numeral.scale := Nat.pow_pos (by decide)
  refine ⟨numeral, numeral.nearest, ?_, literal, ?_⟩
  · rw [lexeme]
    intro other
    constructor
    · rintro ⟨otherProper, same⟩
      exact proper.text_inj otherProper same
    · rintro rfl
      exact ⟨proper, rfl⟩
  · rw [Decimal.value_eq]
    exact ⟨not_isNaN_ofQuotient _ pos, ofQuotient_eq_infinity_iff _ pos,
      ofQuotient_eq_zero_iff _ pos, fun below _ => isNearest_quotient_iff _ pos below⟩

/-- Halfway between two doubles, a number is rounded to the even significand. -/
theorem scan_number_nearest_halfway :
    ∃ token ∈ (scan "9007199254740993".toList).tokens,
      token.literal = some (.number ⟨0x4340000000000000⟩) ∧
        (⟨0x4340000000000000⟩ : Binary64).IsNearest 9007199254740993 := by
  have member : ⟨.number, some (.number ⟨0x4340000000000000⟩),
      ⟨"9007199254740993".toList, .start⟩⟩ ∈ (scan "9007199254740993".toList).tokens := by
    decide +kernel
  obtain ⟨numeral, double, only, literal, -, -, -, nearest⟩ := scan_number_nearest member rfl
  obtain rfl : _ = double := Literal.number.inj (Option.some.inj literal)
  have digits : ∀ c ∈ "9007199254740993".toList, c.isDigit = true := List.all_eq_true.mp rfl
  obtain rfl := (only ⟨"9007199254740993".toList, []⟩).mp ⟨⟨by decide, digits, nofun⟩, rfl⟩
  have value : Decimal.value ⟨"9007199254740993".toList, []⟩ = 9007199254740993 := by
    decide +kernel
  have top : (2 : ℚ) ^ 1024 = 2 ^ 54 * 2 ^ 970 := pow_add 2 54 970
  have room (gap : ℚ) (some : 1 ≤ gap) : 9007199254740993 < 2 ^ 54 * gap - gap := by linarith
  have small : (9007199254740993 : ℚ) < 2 ^ 1024 - 2 ^ 970 := by
    rw [top]
    exact room _ (one_le_pow₀ one_le_two)
  rw [value] at nearest
  exact ⟨_, member, rfl, (nearest small _).mpr rfl⟩

end Lox
