import Lox.Proofs.Item.Run
import Lox.Item.Reader
import Lox.Proofs.Text.Cursor

/-!
What the loops of a scanner do to a cursor.

Each of them looks at the next one or two characters and moves on, one character at a time. It comes
to the place behind the run, the comment, the string or the numeral that is read from the text at
once, or to the end of the text where that finds nothing.
-/

set_option autoImplicit false
set_option relaxedAutoImplicit false

namespace Lox

open Item (commentBody? stringBody? prepend)

namespace Cursor

def skipWhile (sort : Char → Bool) : Nat → Cursor → Cursor
  | 0, cursor => cursor
  | bound + 1, cursor =>
      if cursor.peek.any sort then skipWhile sort bound cursor.next.2 else cursor

def consumeWhile (sort : Char → Bool) (cursor : Cursor) : Cursor :=
  cursor.skipWhile sort cursor.rest.length

/-- Moves behind the end of the outermost of `depth` open comments, and tells whether there is
one. -/
def closeComment : Nat → Nat → Cursor → Bool × Cursor
  | 0, _, cursor => (true, cursor)
  | _ + 1, 0, cursor => (false, cursor)
  | depth + 1, bound + 1, cursor =>
      match cursor.next with
      | (none, cursor) => (false, cursor)
      | (some c, cursor) =>
          if c = '/' ∧ (cursor.nextIf '*').1 then
            closeComment (depth + 2) bound (cursor.nextIf '*').2
          else if c = '*' ∧ (cursor.nextIf '/').1 then
            closeComment depth bound (cursor.nextIf '/').2
          else closeComment (depth + 1) bound cursor

/-- Moves in front of the quote that ends a string, and tells whether there is one. -/
def closeString : Nat → Cursor → Bool × Cursor
  | 0, cursor => (false, cursor)
  | bound + 1, cursor =>
      match cursor.peek with
      | none => (false, cursor)
      | some c =>
          if c = '"' then (true, cursor)
          else if c = '\\' then closeString bound cursor.next.2.next.2
          else closeString bound cursor.next.2

/-- The cursor behind what was read, if anything was, and otherwise at the end of its text. -/
def reached (cursor : Cursor) : Option (Text × Text) → Bool × Cursor
  | some (read, rest) => (true, cursor.past read rest)
  | none => (false, cursor.past cursor.rest [])

/-- Moves behind the digits of a numeral, and behind a point with digits if both follow. -/
def readNumber (cursor : Cursor) : Cursor :=
  let cursor := cursor.consumeWhile Char.isDigit
  if cursor.peek = some '.' ∧ cursor.peekNext.any Char.isDigit then
    cursor.next.2.consumeWhile Char.isDigit
  else cursor

variable {cursor : Cursor} {c : Char} {read rest : Text}

theorem nextIf_of_eq (left : cursor.rest = c :: rest) :
    cursor.nextIf c = (true, cursor.past [c] rest) := by
  rw [nextIf, if_pos (by simp [peek, left]), next_of_cons left]

theorem nextIf_past (cursor : Cursor) (front : Text) (c : Char) (rest : Text) :
    (cursor.past front (c :: rest)).nextIf c = (true, cursor.past (front ++ [c]) rest) := by
  rw [nextIf_of_eq rfl, past_past]

private theorem exists_of_nextIf (moved : (cursor.nextIf c).1 = true) :
    ∃ rest, cursor.rest = c :: rest := by
  rw [nextIf] at moved
  split at moved
  · rename_i same
    exact List.head?_eq_some_iff.mp same
  · contradiction

theorem nextIf_of_ne (other : cursor.rest.head? ≠ some c) : cursor.nextIf c = (false, cursor) :=
  if_neg other

private theorem skipWhile_eq (sort : Char → Bool) {bound : Nat}
    (enough : cursor.rest.length ≤ bound) :
    cursor.skipWhile sort bound =
      cursor.past (cursor.rest.takeWhile sort) (cursor.rest.dropWhile sort) := by
  induction bound generalizing cursor with
  | zero =>
      have none := List.eq_nil_of_length_eq_zero (Nat.le_zero.mp enough)
      rw [skipWhile, none]
      exact (past_nil none).symm
  | succ bound ih =>
      rw [skipWhile, peek]
      cases left : cursor.rest with
      | nil => exact (past_nil left).symm
      | cons c rest =>
          rw [List.head?_cons, Option.any_some]
          cases own : sort c with
          | false => simpa [own] using (past_nil left).symm
          | true =>
              have fewer : rest.length ≤ bound := by simpa [left] using enough
              rw [if_pos rfl, next_of_cons left, ih fewer, past_past]
              simp [past, own]

theorem consumeWhile_eq (sort : Char → Bool) (cursor : Cursor) :
    cursor.consumeWhile sort =
      cursor.past (cursor.rest.takeWhile sort) (cursor.rest.dropWhile sort) :=
  skipWhile_eq sort (Nat.le_refl _)

private theorem reached_prepend {front : Text} (left : cursor.rest = front ++ rest)
    (found : Option (Text × Text)) :
    cursor.reached (found.map (prepend front)) = (cursor.past front rest).reached found := by
  cases found with
  | none =>
      rw [Option.map_none, reached, reached, past_past, left]
      rfl
  | some found =>
      rw [Option.map_some, reached, reached, past_past]
      rfl

private theorem exists_bound {bound : Nat} (left : cursor.rest = c :: rest)
    (enough : cursor.rest.length ≤ bound) :
    ∃ fewer, bound = fewer + 1 ∧ rest.length ≤ fewer := by
  rw [left, List.length_cons] at enough
  exact ⟨bound - 1, by omega, by omega⟩

theorem closeComment_eq (depth bound : Nat) (enough : cursor.rest.length ≤ bound) :
    cursor.closeComment depth bound = cursor.reached (commentBody? depth cursor.rest) := by
  generalize left : cursor.rest = text
  -- One turn of the loop goes over what the reader of comments puts in front.
  fun_induction commentBody? depth text generalizing bound cursor with
  | case1 rest =>
      rw [closeComment, reached, past_nil left]
  | case2 depth =>
      have ended : cursor.past cursor.rest [] = cursor := by
        rw [left]
        exact past_nil left
      rw [reached, ended]
      cases bound with
      | zero => rfl
      | succ bound => rw [closeComment, next_of_nil left]
  | case3 depth rest ih =>
      obtain ⟨fewer, rfl, within⟩ := exists_bound left enough
      have opening : (cursor.past ['/'] ('*' :: rest)).nextIf '*' =
          (true, cursor.past ['/', '*'] rest) := nextIf_past ..
      rw [closeComment, next_of_cons left]
      dsimp only
      rw [opening, if_pos ⟨rfl, rfl⟩, reached_prepend left]
      exact ih fewer (Nat.le_of_succ_le within) rfl
  | case4 depth rest ih =>
      obtain ⟨fewer, rfl, within⟩ := exists_bound left enough
      have closing : (cursor.past ['*'] ('/' :: rest)).nextIf '/' =
          (true, cursor.past ['*', '/'] rest) := nextIf_past ..
      rw [closeComment, next_of_cons left]
      dsimp only
      rw [closing, if_neg fun slash => absurd slash.1 (by decide), if_pos ⟨rfl, rfl⟩,
        reached_prepend left]
      exact ih fewer (Nat.le_of_succ_le within) rfl
  | case5 depth c rest opening closing ih =>
      obtain ⟨fewer, rfl, within⟩ := exists_bound left enough
      have noOpening : ¬(c = '/' ∧ ((cursor.past [c] rest).nextIf '*').1) := by
        rintro ⟨rfl, star⟩
        obtain ⟨behind, split⟩ := exists_of_nextIf star
        exact opening behind rfl split
      have noClosing : ¬(c = '*' ∧ ((cursor.past [c] rest).nextIf '/').1) := by
        rintro ⟨rfl, slash⟩
        obtain ⟨behind, split⟩ := exists_of_nextIf slash
        exact closing behind rfl split
      rw [closeComment, next_of_cons left, reached_prepend left]
      dsimp only
      rw [if_neg noOpening, if_neg noClosing]
      exact ih fewer within rfl

private theorem map_prepend_quoted (front : Text) (found : Option (Text × Text)) :
    (found.map (prepend front)).map (Prod.map id ('"' :: ·)) =
      (found.map (Prod.map id ('"' :: ·))).map (prepend front) := by
  cases found <;> rfl

theorem closeString_eq (bound : Nat) (enough : cursor.rest.length ≤ bound) :
    cursor.closeString bound =
      cursor.reached ((stringBody? cursor.rest).map (Prod.map id ('"' :: ·))) := by
  generalize left : cursor.rest = text
  fun_induction stringBody? text generalizing bound cursor with
  | case1 =>
      have ended : cursor.past cursor.rest [] = cursor := by
        rw [left]
        exact past_nil left
      rw [Option.map_none, reached, ended]
      cases bound with
      | zero => rfl
      | succ bound =>
          rw [closeString, peek, left]
          rfl
  | case2 rest =>
      obtain ⟨fewer, rfl, -⟩ := exists_bound left enough
      rw [closeString, peek, left]
      exact congrArg _ (past_nil left).symm
  | case3 c rest ih =>
      obtain ⟨fewer, rfl, within⟩ := exists_bound left enough
      have escaped : cursor.next.2.next.2 = cursor.past ['\\', c] rest := by
        rw [next_of_cons left]
        dsimp only
        rw [next_of_cons rfl]
        exact past_past ..
      rw [closeString, peek, left, map_prepend_quoted, reached_prepend left, List.head?_cons]
      dsimp only
      rw [if_neg (by decide), if_pos rfl, escaped]
      exact ih fewer (Nat.le_of_succ_le within) rfl
  | case4 c rest quote escape ih =>
      obtain ⟨fewer, rfl, within⟩ := exists_bound left enough
      have moved : cursor.next.2 = cursor.past [c] rest := by rw [next_of_cons left]
      have onward : closeString fewer (cursor.past [c] rest) = _ := ih fewer within rfl
      rw [closeString, peek, left, map_prepend_quoted, reached_prepend left, List.head?_cons,
        ← onward]
      dsimp only
      rw [if_neg quote, moved]
      split
      · -- Nothing stands behind the backslash, so that to move once more changes nothing.
        rename_i backslash
        have none : rest = [] := by
          cases rest with
          | nil => rfl
          | cons behind more => exact (escape behind more backslash rfl).elim
        subst none
        rw [next_of_nil rfl]
      · rfl

private theorem readNumber_of_digits {whole : Text}
    (left : cursor.rest.dropWhile Char.isDigit = rest)
    (digits : cursor.rest.takeWhile Char.isDigit = whole)
    (noFraction : ∀ behind, rest = '.' :: behind → behind.takeWhile Char.isDigit = []) :
    cursor.readNumber = cursor.past whole rest := by
  rw [readNumber, consumeWhile_eq, left, digits]
  refine if_neg ?_
  rintro ⟨point, digit⟩
  obtain ⟨behind, rfl⟩ := List.head?_eq_some_iff.mp point
  cases behind with
  | nil => contradiction
  | cons d behind =>
      have own : d.isDigit = true := digit
      have none := noFraction (d :: behind) rfl
      rw [List.takeWhile_cons_of_pos own] at none
      contradiction

private theorem readNumber_of_fraction {whole : Text} {d : Char}
    (left : cursor.rest.dropWhile Char.isDigit = '.' :: d :: rest)
    (digits : cursor.rest.takeWhile Char.isDigit = whole) (digit : d.isDigit = true) :
    cursor.readNumber =
      cursor.past (whole ++ '.' :: (d :: rest).takeWhile Char.isDigit)
        ((d :: rest).dropWhile Char.isDigit) := by
  rw [readNumber, consumeWhile_eq, left, digits, if_pos ⟨rfl, digit⟩, next_of_cons rfl]
  dsimp only
  rw [consumeWhile_eq, past_past, past_past]
  rfl

theorem readNumber_eq (cursor : Cursor) :
    cursor.readNumber =
      cursor.past (Decimal.read cursor.rest).1.text (Decimal.read cursor.rest).2 := by
  rw [Decimal.read]
  split
  · rename_i rest point
    split
    · rename_i none
      refine readNumber_of_digits point rfl ?_
      rintro behind ⟨⟩
      exact none
    · rename_i fraction
      cases rest with
      | nil => exact absurd rfl fraction
      | cons d rest =>
          cases own : d.isDigit with
          | false => exact absurd (List.takeWhile_cons_of_neg (by simp [own])) fraction
          | true =>
              rw [readNumber_of_fraction point rfl own, List.takeWhile_cons_of_pos own]
              rfl
  · rename_i other
    refine readNumber_of_digits rfl rfl fun behind point => ?_
    exact absurd point (other behind)

theorem readNumber_of_digit (left : cursor.rest = c :: rest) (digit : c.isDigit = true) :
    (cursor.past [c] rest).readNumber = cursor.readNumber := by
  have same : (cursor.past [c] rest).consumeWhile Char.isDigit =
      cursor.consumeWhile Char.isDigit := by
    rw [consumeWhile_eq, consumeWhile_eq, past_past, left, List.takeWhile_cons_of_pos digit,
      List.dropWhile_cons_of_pos digit]
    rfl
  rw [readNumber, readNumber, same]

end Cursor

end Lox
