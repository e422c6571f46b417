import Lox.Text.Place

/-!
Cursors: a place in a text from which it is read character by character.

A cursor knows its whole text and what is still to come. Two cursors are equal if they agree in
both; the line is not compared, because the text and the rest decide it.
-/

set_option autoImplicit false
set_option relaxedAutoImplicit false

namespace Lox

/-- A text, the part of it that is still to come, and the place where that part begins. -/
structure Cursor where
  source : Text
  rest : Text
  place : Place

namespace Cursor

def start (source : Text) : Cursor := ⟨source, source, .start⟩

def line (cursor : Cursor) : Nat := cursor.place.line

def offset (cursor : Cursor) : Nat := cursor.place.offset

def peek (cursor : Cursor) : Option Char := cursor.rest.head?

def peekNext (cursor : Cursor) : Option Char := cursor.rest.tail.head?

/-- Reads the next character; at the end nothing is read and nothing changes. -/
def next (cursor : Cursor) : Option Char × Cursor :=
  match cursor.rest with
  | [] => (none, cursor)
  | c :: rest => (some c, { cursor with rest, place := cursor.place.step c })

/-- Reads the next character only if it is the expected one, and tells whether it was. -/
def nextIf (expected : Char) (cursor : Cursor) : Bool × Cursor :=
  if cursor.peek = some expected then (true, cursor.next.2) else (false, cursor)

def take : Nat → Cursor → Text × Cursor
  | 0, cursor => ([], cursor)
  | count + 1, cursor =>
      match cursor.next with
      | (none, cursor) => ([], cursor)
      | (some c, cursor) =>
          let (text, cursor) := take count cursor
          (c :: text, cursor)

instance : BEq Cursor := ⟨fun a b => a.source == b.source && a.rest == b.rest⟩

/-- The text between two cursors. There is none if they walk over different texts or the second
one is before the first. -/
def slice? (first last : Cursor) : Option Text :=
  if first.source = last.source ∧ first.offset ≤ last.offset then
    some (first.rest.take (first.rest.length - last.rest.length))
  else none

end Cursor

end Lox
