import Lox.Text.Basic

/-!
Places in a text: the line and the byte offset reached after some characters.

Both coordinates add up: the place after two texts is the place after the second, counted from
the place after the first.
-/

set_option autoImplicit false
set_option relaxedAutoImplicit false

namespace Lox

/-- A line, counted from one, and an offset in bytes, counted from zero. -/
structure Place where
  line : Nat
  offset : Nat
  deriving DecidableEq

namespace Place

def start : Place := ⟨1, 0⟩

/-- The place behind one more character: only a line feed begins a new line. -/
def step (place : Place) (c : Char) : Place where
  line := if c = '\n' then place.line + 1 else place.line
  offset := place.offset + c.utf8Size

def after (place : Place) (text : Text) : Place := text.foldl step place

theorem after_nil (place : Place) : place.after [] = place := rfl

theorem after_cons (place : Place) (c : Char) (text : Text) :
    place.after (c :: text) = (place.step c).after text := rfl

theorem after_append (place : Place) (left right : Text) :
    place.after (left ++ right) = (place.after left).after right := by
  simp [after, List.foldl_append]

theorem offset_after (place : Place) (text : Text) :
    (place.after text).offset = place.offset + Text.size text := by
  induction text generalizing place with
  | nil => rfl
  | cons c text ih =>
      rw [after_cons, ih, Text.size_cons, ← Nat.add_assoc]
      rfl

theorem line_after (place : Place) (text : Text) :
    (place.after text).line = place.line + text.count '\n' := by
  induction text generalizing place with
  | nil => rfl
  | cons c text ih =>
      rw [after_cons, ih]
      by_cases feed : c = '\n'
      · simp only [step, feed, if_true, List.count_cons_self]
        omega
      · simp [step, feed]

end Place

end Lox
