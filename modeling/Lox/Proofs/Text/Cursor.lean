import Lox.Text.Span

/-!
Where one is after some characters, and what lies between two cursors of one text.

A cursor that reads the characters in front of a text comes to that text, at the place behind them.
Between two such cursors lies what was read in between.
-/

set_option autoImplicit false
set_option relaxedAutoImplicit false

namespace Lox

namespace Place

theorem after_eq (place : Place) (text : Text) :
    place.after text = ⟨place.line + text.count '\n', place.offset + text.size⟩ := by
  have line := line_after place text
  have offset := offset_after place text
  rw [← line, ← offset]

theorem offset_after_start (text : Text) : (start.after text).offset = text.size := by
  rw [offset_after]
  exact Nat.zero_add _

theorem line_after_start (text : Text) : (start.after text).line = 1 + text.count '\n' :=
  line_after start text

end Place

namespace Cursor

/-- The cursor that has moved over some characters, in front of the others. -/
def past (read rest : Text) (cursor : Cursor) : Cursor :=
  { cursor with rest, place := cursor.place.after read }

/-- The cursor of a text behind some characters of it, in front of the others. -/
def behind (front rest : Text) : Cursor := ⟨front ++ rest, rest, Place.start.after front⟩

theorem offset_behind (front rest : Text) : (behind front rest).offset = front.size :=
  Place.offset_after_start front

theorem line_behind (front rest : Text) : (behind front rest).line = 1 + front.count '\n' :=
  Place.line_after_start front

section past

variable {cursor : Cursor} {c : Char} {read rest : Text}

theorem next_of_nil (ended : cursor.rest = []) : cursor.next = (none, cursor) := by
  rw [next, ended]

theorem next_of_cons (left : cursor.rest = c :: rest) :
    cursor.next = (some c, cursor.past [c] rest) := by
  rw [next, left]
  rfl

theorem past_past (first behind second rest : Text) :
    (cursor.past first behind).past second rest = cursor.past (first ++ second) rest := by
  simp [past, Place.after_append]

theorem past_nil (left : cursor.rest = rest) : cursor.past [] rest = cursor := by
  subst left
  rfl

theorem past_behind (front text rest : Text) :
    (behind front (text ++ rest)).past text rest = behind (front ++ text) rest := by
  simp [behind, past, Place.after_append]

theorem slice?_past (left : cursor.rest = read ++ rest) :
    cursor.slice? (cursor.past read rest) = some read := by
  have order : cursor.offset ≤ (cursor.past read rest).offset := by
    change cursor.place.offset ≤ (cursor.place.after read).offset
    rw [Place.offset_after]
    exact Nat.le_add_right _ _
  rw [slice?, if_pos ⟨rfl, order⟩]
  simp [past, left]

theorem between?_past (left : cursor.rest = read ++ rest) :
    Span.between? cursor (cursor.past read rest) = some ⟨read, cursor.place⟩ := by
  rw [Span.between?, slice?_past left]
  rfl

end past

theorem take_length (text rest : Text) {cursor : Cursor} (left : cursor.rest = text ++ rest) :
    cursor.take text.length = (text, cursor.past text rest) := by
  induction text generalizing cursor with
  | nil => exact Prod.ext rfl (past_nil left).symm
  | cons c text ih =>
      rw [List.length_cons, take, next_of_cons left]
      dsimp only
      rw [ih rfl, past_past]
      rfl

theorem take_start (front rest : Text) :
    (start (front ++ rest)).take front.length = (front, behind front rest) :=
  take_length front rest rfl

theorem slice?_behind (front text rest : Text) :
    (behind front (text ++ rest)).slice? (behind (front ++ text) rest) = some text := by
  rw [← past_behind]
  exact slice?_past rfl

end Cursor

theorem Span.between?_behind (front text rest : Text) :
    Span.between? (.behind front (text ++ rest)) (.behind (front ++ text) rest) =
      some ⟨text, Place.start.after front⟩ := by
  rw [← Cursor.past_behind]
  exact Cursor.between?_past rfl

end Lox
