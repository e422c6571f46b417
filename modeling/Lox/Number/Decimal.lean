import Lox.Text.Basic
import Lox.Number.Binary64

/-!
Unsigned decimal numerals: their text, how they are read, their exact value and the double nearest
to it.
-/

set_option autoImplicit false
set_option relaxedAutoImplicit false

namespace Lox

/-- The digits before the point, and the digits after it; there is a point only if digits follow. -/
structure Decimal where
  whole : Text
  fraction : Text
  deriving DecidableEq

namespace Decimal

def text (numeral : Decimal) : Text :=
  match numeral.fraction with
  | [] => numeral.whole
  | fraction => numeral.whole ++ '.' :: fraction

/-- Reads the longest numeral at the start of a text, and gives what follows. A point belongs to
the numeral only if a digit follows it. -/
def read (text : Text) : Decimal × Text :=
  let whole := text.takeWhile Char.isDigit
  match text.dropWhile Char.isDigit with
  | '.' :: rest =>
      match rest.takeWhile Char.isDigit with
      | [] => (⟨whole, []⟩, '.' :: rest)
      | fraction => (⟨whole, fraction⟩, rest.dropWhile Char.isDigit)
  | rest => (⟨whole, []⟩, rest)

def natural (digits : Text) : Nat :=
  digits.foldl (fun value digit => 10 * value + (digit.toNat - '0'.toNat)) 0

/-- The value of a numeral in units of its last decimal place. -/
def units (numeral : Decimal) : Nat := natural (numeral.whole ++ numeral.fraction)

def scale (numeral : Decimal) : Nat := Nat.pow 10 numeral.fraction.length

/-- The double nearest to the value of a numeral. -/
def nearest (numeral : Decimal) : Binary64 := .ofQuotient numeral.units numeral.scale

theorem text_append_read (text : Text) : (read text).1.text ++ (read text).2 = text := by
  have parts := List.takeWhile_append_dropWhile (p := Char.isDigit) (l := text)
  unfold read
  dsimp only
  split
  · rename_i rest point
    rw [point] at parts
    have tail := List.takeWhile_append_dropWhile (p := Char.isDigit) (l := rest)
    split
    · exact parts
    · rename_i digits
      cases fraction : rest.takeWhile Char.isDigit with
      | nil => exact absurd fraction digits
      | cons d ds =>
          rw [fraction] at tail
          simp only [Decimal.text, List.append_assoc, List.cons_append] at tail ⊢
          rw [tail, parts]
  · exact parts

theorem text_read_ne_nil {c : Char} {rest : Text} (digit : c.isDigit = true) :
    (read (c :: rest)).1.text ≠ [] := by
  unfold read
  dsimp only
  split
  · split
    · simp [Decimal.text, digit]
    · unfold Decimal.text
      split <;> simp [digit]
  · simp [Decimal.text, digit]

end Decimal

end Lox
