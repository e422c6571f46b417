import Lox.Proofs.Text.Cursor

/-!
Cursors in use, and what was read through them.

A cursor is asked for characters and copied, and each copy goes on for itself. Whatever was asked of
it and of the others, it stands behind the characters that it has answered with, at their line and
their offset in bytes. So of two cursors over one text the offset tells which has read more, and the
line need not be compared.
-/

set_option autoImplicit false
set_option relaxedAutoImplicit false

namespace Lox

namespace Text

theorem eq_nil_of_size_eq_zero {text : Text} (none : text.size = 0) : text = [] := by
  cases text with
  | nil => rfl
  | cons c text =>
      have positive := size_pos (List.cons_ne_nil c text)
      omega

theorem exists_between_of_size_le {front behind front' behind' : Text}
    (same : front ++ behind = front' ++ behind') (le : front.size ≤ front'.size) :
    ∃ middle, front' = front ++ middle ∧ behind = middle ++ behind' := by
  rcases List.append_eq_append_iff.mp same with ⟨middle, longer, rest⟩ | ⟨middle, longer, rest⟩
  · exact ⟨middle, longer, rest⟩
  · cases middle with
    | nil => exact ⟨[], by simpa using longer.symm, by simpa using rest.symm⟩
    | cons c middle =>
        have positive := size_pos (List.cons_ne_nil c middle)
        rw [longer, size_append] at le
        omega

end Text

namespace Cursor

inductive Request
  | next
  | peek
  | peekNext
  | nextIf (expected : Char)
  | clone

inductive Reply
  | character (c : Option Char)
  | moved (did : Bool)
  | copied
  deriving DecidableEq

def ask (cursor : Cursor) : Request → Reply × Cursor
  | .next => (.character cursor.next.1, cursor.next.2)
  | .peek => (.character cursor.peek, cursor)
  | .peekNext => (.character cursor.peekNext, cursor)
  | .nextIf expected =>
      (.moved (cursor.nextIf expected).1, (cursor.nextIf expected).2)
  | .clone => (.copied, cursor)

/-- The characters that are read by a request, as its answer tells. -/
def Request.read : Request → Reply → Text
  | .next, .character c => c.toList
  | .nextIf expected, .moved true => [expected]
  | _, _ => []

end Cursor

open Cursor (Request Reply)

/-- A cursor in use, and the characters that were read through it and through those that it is a
copy of. -/
structure Reader where
  consumed : Text
  cursor : Cursor

namespace Reader

def start (source : Text) : Reader := ⟨[], .start source⟩

def ask (reader : Reader) (request : Request) : Reader where
  consumed := reader.consumed ++ request.read (reader.cursor.ask request).1
  cursor := (reader.cursor.ask request).2

/-- All readers after a request to one of them; a copy becomes the last one. -/
def serve (readers : List Reader) (index : Nat) (request : Request) : List Reader :=
  match readers[index]? with
  | none => readers
  | some reader =>
      match request with
      | .clone => readers ++ [reader]
      | _ => readers.set index (reader.ask request)

def serveAll (readers : List Reader) (requests : List (Nat × Request)) : List Reader :=
  requests.foldl (fun readers (index, request) => serve readers index request) readers

def Placed (source : Text) (reader : Reader) : Prop :=
  ∃ rest, source = reader.consumed ++ rest ∧ reader.cursor = .behind reader.consumed rest

end Reader

namespace Cursor

/-- A cursor that is in use over a text after some requests, and the characters that were read
through it. -/
def Reached (source consumed : Text) (cursor : Cursor) : Prop :=
  ∃ requests, ⟨consumed, cursor⟩ ∈ Reader.serveAll [.start source] requests

/-- A cursor of a text stands behind the characters that it has read. -/
structure HasRead (source consumed : Text) (cursor : Cursor) : Prop where
  origin : cursor.source = source
  whole : source = consumed ++ cursor.rest
  offset : cursor.offset = consumed.utf8.length
  line : cursor.line = 1 + consumed.count '\n'

/-- A cursor reads the text that is to come, one character at a time and none at the end. Looking
ahead foretells what it reads, and changes nothing. -/
structure Foretells (cursor : Cursor) : Prop where
  next : ∀ c rest, cursor.rest = c :: rest → cursor.next.1 = some c ∧ cursor.next.2.rest = rest
  ended : cursor.rest = [] → cursor.next = (none, cursor)
  peek : cursor.ask .peek = (.character cursor.next.1, cursor)
  peekNext : cursor.ask .peekNext = (.character cursor.next.2.next.1, cursor)
  nextIf : ∀ c, cursor.peek = some c →
    cursor.ask (.nextIf c) = (.moved true, cursor.next.2) ∧ cursor.rest = c :: cursor.next.2.rest
  otherwise : ∀ c, cursor.peek ≠ some c → cursor.ask (.nextIf c) = (.moved false, cursor)

/-- Two cursors over one text are compared by their offsets, and their lines agree with that. -/
structure ComparedWith (cursor other : Cursor) : Prop where
  equal : (cursor == other) = true ↔ cursor.offset = other.offset
  line : (cursor == other) = true → cursor.line = other.line
  order : cursor.offset < other.offset → cursor.line ≤ other.line

end Cursor

namespace Reader

variable {source : Text} {reader : Reader} {readers : List Reader} {index : Nat}
variable {request : Request}

private theorem placed_start (source : Text) : (start source).Placed source :=
  ⟨source, rfl, rfl⟩

private theorem Placed.ask (placed : reader.Placed source) (request : Request) :
    (reader.ask request).Placed source := by
  obtain ⟨rest, whole, stands⟩ := placed
  obtain ⟨consumed, cursor⟩ := reader
  obtain rfl : cursor = .behind consumed rest := stands
  have still : (Reader.mk (consumed ++ []) (.behind consumed rest)).Placed source :=
    ⟨rest, by simpa using whole, by simp⟩
  have advanced (c : Char) (left : Text) (first : rest = c :: left) :
      (Reader.mk (consumed ++ [c]) (Cursor.behind consumed rest).next.2).Placed source := by
    subst first
    refine ⟨left, by simpa using whole, ?_⟩
    rw [Cursor.next_of_cons rfl]
    exact Cursor.past_behind consumed [c] left
  cases request with
  | peek | peekNext | clone => exact still
  | next =>
      cases rest with
      | nil => exact still
      | cons c left => exact advanced c left rfl
  | nextIf expected =>
      by_cases same : (Cursor.behind consumed rest).peek = some expected
      · obtain ⟨left, first⟩ := List.head?_eq_some_iff.mp same
        simpa [Reader.ask, Cursor.ask, Cursor.nextIf, same, Request.read] using
          advanced expected left first
      · simpa [Reader.ask, Cursor.ask, Cursor.nextIf, same, Request.read] using still

private theorem forall_placed_serve (placed : ∀ reader ∈ readers, reader.Placed source)
    (index : Nat)
    (request : Request) : ∀ reader ∈ serve readers index request, reader.Placed source := by
  intro reader member
  unfold serve at member
  split at member
  · exact placed reader member
  · rename_i own found
    have old := placed own (List.mem_of_getElem? found)
    split at member
    · rcases List.mem_append.mp member with before | last
      · exact placed reader before
      · obtain rfl := List.mem_singleton.mp last
        exact old
    · rcases List.mem_or_eq_of_mem_set member with before | rfl
      · exact placed reader before
      · exact old.ask request

private theorem forall_placed_serveAll (placed : ∀ reader ∈ readers, reader.Placed source)
    (requests : List (Nat × Request)) :
    ∀ reader ∈ serveAll readers requests, reader.Placed source := by
  induction requests generalizing readers with
  | nil => exact placed
  | cons first requests ih => exact ih (forall_placed_serve placed first.1 first.2)

end Reader

namespace Cursor

variable {source consumed consumed' : Text} {cursor other : Cursor}

/-- Where a cursor in use stands, it has read all in front of it. -/
theorem Reached.exists_behind (reached : Reached source consumed cursor) :
    ∃ rest, source = consumed ++ rest ∧ cursor = .behind consumed rest := by
  obtain ⟨requests, member⟩ := reached
  have started : ∀ reader ∈ [Reader.start source], reader.Placed source := by
    intro reader only
    obtain rfl := List.mem_singleton.mp only
    exact Reader.placed_start source
  exact Reader.forall_placed_serveAll started requests _ member

private theorem Reached.hasRead (reached : Reached source consumed cursor) :
    HasRead source consumed cursor := by
  obtain ⟨rest, whole, rfl⟩ := reached.exists_behind
  refine ⟨whole.symm, whole, ?_, line_behind consumed rest⟩
  rw [offset_behind, Text.length_utf8]

private theorem peek_eq (cursor : Cursor) : cursor.peek = cursor.next.1 := by
  cases left : cursor.rest with
  | nil => rw [next_of_nil left, peek, left, List.head?_nil]
  | cons c rest => rw [next_of_cons left, peek, left, List.head?_cons]

private theorem peekNext_eq (cursor : Cursor) : cursor.peekNext = cursor.next.2.peek := by
  cases left : cursor.rest with
  | nil => rw [next_of_nil left, peekNext, peek, left, List.tail_nil]
  | cons c rest =>
      rw [next_of_cons left, peekNext, left]
      rfl

private theorem foretells (cursor : Cursor) : cursor.Foretells where
  next := by
    intro c rest left
    rw [next_of_cons left]
    exact ⟨rfl, rfl⟩
  ended := next_of_nil
  peek := by rw [ask, peek_eq]
  peekNext := by rw [ask, peekNext_eq, peek_eq]
  nextIf := by
    intro c here
    obtain ⟨rest, left⟩ := List.head?_eq_some_iff.mp here
    refine ⟨?_, ?_⟩
    · rw [ask, Cursor.nextIf, if_pos here]
    · rw [next_of_cons left, left]
      rfl
  otherwise := by
    intro c other
    rw [ask, Cursor.nextIf, if_neg other]

private theorem beq_iff : (cursor == other) = true ↔
    cursor.source = other.source ∧ cursor.rest = other.rest := by
  change (cursor.source == other.source && cursor.rest == other.rest) = true ↔ _
  rw [Bool.and_eq_true, beq_iff_eq, beq_iff_eq]

/-- Of two cursors over one text, the one with the smaller offset has read the beginning of what the
other one has read. -/
theorem comparedWith_behind {front rest front' rest' : Text}
    (same : front ++ rest = front' ++ rest') :
    (behind front rest).ComparedWith (behind front' rest') := by
  constructor
  case equal =>
    rw [beq_iff, offset_behind, offset_behind]
    constructor
    · rintro ⟨-, left⟩
      obtain rfl : rest = rest' := left
      rw [List.append_cancel_right same]
    · intro level
      obtain ⟨middle, longer, left⟩ := Text.exists_between_of_size_le same (Nat.le_of_eq level)
      rw [longer, Text.size_append] at level
      obtain rfl : middle = [] := Text.eq_nil_of_size_eq_zero (by omega)
      exact ⟨same, left⟩
  case line =>
    intro equal
    obtain ⟨-, left⟩ := beq_iff.mp equal
    obtain rfl : rest = rest' := left
    rw [List.append_cancel_right same]
  case order =>
    intro less
    rw [offset_behind, offset_behind] at less
    obtain ⟨middle, rfl, -⟩ := Text.exists_between_of_size_le same (Nat.le_of_lt less)
    rw [line_behind, line_behind, List.count_append]
    omega

/-- Whatever is asked of a cursor and of its copies, each of them stands behind the characters that
were read through it, at their line and their offset in bytes, and tells what it reads before it
does. Two cursors over one text are equal exactly if their offsets are, then their lines are too,
and a smaller offset is on no later line. -/
theorem reached_represents (reached : Reached source consumed cursor) :
    HasRead source consumed cursor ∧ Foretells cursor ∧
      ∀ consumed' other, Reached source consumed' other → ComparedWith cursor other := by
  refine ⟨reached.hasRead, foretells cursor, ?_⟩
  intro consumed' other another
  obtain ⟨rest, whole, rfl⟩ := reached.exists_behind
  obtain ⟨rest', whole', rfl⟩ := another.exists_behind
  exact comparedWith_behind (whole.symm.trans whole')

/-- Two characters of which the first takes two bytes and the second begins a new line. -/
def accented : Text := ['é', '\n']

theorem reached_represents_accented :
    Reached accented ['é'] (behind ['é'] ['\n']) ∧ Reached accented accented (behind accented []) ∧
      HasRead accented accented (behind accented []) ∧ Foretells (behind accented []) ∧
        ComparedWith (behind accented []) (behind ['é'] ['\n']) := by
  let requests : List (Nat × Request) :=
    [(0, .next), (0, .clone), (1, .peekNext), (1, .nextIf '\n'), (1, .next)]
  have run : Reader.serveAll [.start accented] requests =
      [⟨['é'], behind ['é'] ['\n']⟩, ⟨accented, behind accented []⟩] := rfl
  have original : Reached accented ['é'] (behind ['é'] ['\n']) := ⟨requests, by simp [run]⟩
  have copy : Reached accented accented (behind accented []) := ⟨requests, by simp [run]⟩
  obtain ⟨read, foretells, compared⟩ := reached_represents copy
  exact ⟨original, copy, read, foretells, compared _ _ original⟩

end Cursor

end Lox
