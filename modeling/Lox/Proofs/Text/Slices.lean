import Lox.Proofs.Text.Readers
import Lox.Proofs.Text.Utf8

/-!
What lies between two cursors.

Cursors stand between characters, so the bytes from one of them to another one of the same text
spell a text. Nothing else is needed for a slice than that the cursors are in order, and a span
needs the same. Slices next to each other make up the slice over both.
-/

set_option autoImplicit false
set_option relaxedAutoImplicit false

namespace Lox

namespace Text

/-- What is cut out of a text from one offset in bytes to another. Nothing can be cut out if one of
the two lies within a character or beyond the end, or if they are not in order. -/
structure IsCut (text : Text) (first last : Nat) (middle : Text) : Prop where
  whole : ∃ front behind, text = front ++ (middle ++ behind) ∧ front.size = first
  length : first + middle.size = last

variable {text middle other : Text} {first last : Nat}

theorem IsCut.unique (cut : IsCut text first last middle) (another : IsCut text first last other) :
    middle = other := by
  obtain ⟨⟨front, behind, whole, size⟩, length⟩ := cut
  obtain ⟨⟨front', behind', whole', size'⟩, length'⟩ := another
  have same := whole.symm.trans whole'
  obtain ⟨between, longer, rest⟩ :=
    exists_between_of_size_le same (Nat.le_of_eq (size.trans size'.symm))
  rw [longer, size_append] at size'
  obtain rfl : between = [] := eq_nil_of_size_eq_zero (by omega)
  rw [List.nil_append] at rest
  obtain ⟨more, rfl, -⟩ := exists_between_of_size_le rest (by omega)
  rw [size_append] at length'
  obtain rfl : more = [] := eq_nil_of_size_eq_zero (by omega)
  exact (List.append_nil middle).symm

theorem IsCut.bytes (cut : IsCut text first last middle) :
    (text.utf8.drop first).take (last - first) = middle.utf8 := by
  obtain ⟨⟨front, behind, rfl, rfl⟩, rfl⟩ := cut
  rw [drop_utf8_append, Nat.add_sub_cancel_left, take_utf8_append]

end Text

structure Span.Covers (first last : Cursor) (span : Span) : Prop where
  cut : Text.IsCut first.source first.offset last.offset span.text
  bytes : (first.source.utf8.drop first.offset).take span.length = span.text.utf8
  length : span.length = span.text.utf8.length
  ends : first.offset + span.length = last.offset
  empty : span.isEmpty = true ↔ (first == last) = true
  line : span.line = first.line
  position : span.position = first.offset
  lines : last.line = first.line + span.text.count '\n'

namespace Cursor

variable {source source' source'' consumed consumed' consumed'' : Text}
variable {cursor other third : Cursor} {middle : Text}

theorem slice?_eq_none_iff :
    cursor.slice? other = none ↔ cursor.source ≠ other.source ∨ other.offset < cursor.offset := by
  rw [slice?]
  split
  · rename_i proper
    simpa [proper.1] using proper.2
  · rename_i improper
    simp only [true_iff]
    by_cases same : cursor.source = other.source
    · exact .inr (Nat.lt_of_not_le fun le => improper ⟨same, le⟩)
    · exact .inl same

private theorem Reached.exists_slice (reached : Reached source consumed cursor)
    (another : Reached source' consumed' other) (same : cursor.source = other.source)
    (le : cursor.offset ≤ other.offset) :
    ∃ middle rest, consumed' = consumed ++ middle ∧ cursor = behind consumed (middle ++ rest) ∧
      other = behind (consumed ++ middle) rest ∧ cursor.slice? other = some middle := by
  obtain ⟨rest, whole, rfl⟩ := reached.exists_behind
  obtain ⟨rest', whole', rfl⟩ := another.exists_behind
  rw [offset_behind, offset_behind] at le
  obtain ⟨middle, rfl, rfl⟩ := Text.exists_between_of_size_le same le
  exact ⟨middle, rest', rfl, rfl, rfl, slice?_behind consumed middle rest'⟩

private theorem isCut_behind (front middle rest : Text) :
    Text.IsCut (behind front (middle ++ rest)).source (behind front (middle ++ rest)).offset
      (behind (front ++ middle) rest).offset middle where
  whole := ⟨front, rest, rfl, (offset_behind _ _).symm⟩
  length := by rw [offset_behind, offset_behind, Text.size_append]

private theorem Reached.eq_behind_of_slice? (reached : Reached source consumed cursor)
    (another : Reached source' consumed' other) (found : cursor.slice? other = some middle) :
    ∃ rest, cursor = behind consumed (middle ++ rest) ∧
      other = behind (consumed ++ middle) rest := by
  have proper : ¬ (cursor.source ≠ other.source ∨ other.offset < cursor.offset) := by
    rw [← slice?_eq_none_iff, found]
    exact Option.some_ne_none middle
  obtain ⟨same, le⟩ : cursor.source = other.source ∧ cursor.offset ≤ other.offset := by
    simpa using proper
  obtain ⟨between, rest, -, first, last, slice⟩ := reached.exists_slice another same le
  obtain rfl := Option.some.inj (slice.symm.trans found)
  exact ⟨rest, first, last⟩

/-- A slice is what the bytes between two cursors of one text spell. -/
theorem Reached.slice?_eq_some_iff (reached : Reached source consumed cursor)
    (another : Reached source' consumed' other) :
    cursor.slice? other = some middle ↔
      cursor.source = other.source ∧
        Text.IsCut cursor.source cursor.offset other.offset middle := by
  constructor
  · intro found
    obtain ⟨rest, rfl, rfl⟩ := reached.eq_behind_of_slice? another found
    exact ⟨(List.append_assoc consumed middle rest).symm, isCut_behind consumed middle rest⟩
  · rintro ⟨same, cut⟩
    have le : cursor.offset ≤ other.offset := by
      have ends := cut.length
      omega
    obtain ⟨between, rest, -, rfl, rfl, slice⟩ := reached.exists_slice another same le
    rw [slice, (isCut_behind consumed between rest).unique cut]

private theorem covers_behind (front middle rest : Text) :
    Span.Covers (behind front (middle ++ rest)) (behind (front ++ middle) rest)
      ⟨middle, Place.start.after front⟩ := by
  have cut := isCut_behind front middle rest
  have length : Span.length ⟨middle, Place.start.after front⟩ = middle.size := rfl
  have ends := cut.length
  have compared : ComparedWith (behind front (middle ++ rest)) (behind (front ++ middle) rest) :=
    comparedWith_behind (List.append_assoc front middle rest).symm
  constructor
  case cut => exact cut
  case bytes =>
    have bytes := cut.bytes
    rwa [show (behind (front ++ middle) rest).offset -
      (behind front (middle ++ rest)).offset = middle.size by omega] at bytes
  case length => exact (Text.length_utf8 middle).symm
  case ends => exact ends
  case empty =>
    rw [compared.equal, Span.isEmpty, length, beq_iff_eq]
    omega
  case line => rfl
  case position => rfl
  case lines => rw [line_behind, line_behind, List.count_append, Nat.add_assoc]

/-- Slices and spans of cursors. Both are refused exactly where the texts differ or the cursors are
out of order; otherwise no character is cut, a slice is what the bytes between the offsets spell, and
a span has that text, starts where the first cursor stands and is empty exactly if the two are
equal. Spans next to each other make up the one over both. -/
theorem slices_between (reached : Reached source consumed cursor)
    (another : Reached source' consumed' other) :
    (∀ middle, cursor.slice? other = some middle ↔ cursor.source = other.source ∧
        Text.IsCut cursor.source cursor.offset other.offset middle) ∧
      (cursor.slice? other = none ↔
        cursor.source ≠ other.source ∨ other.offset < cursor.offset) ∧
      (Span.between? cursor other = none ↔
        cursor.source ≠ other.source ∨ other.offset < cursor.offset) ∧
      (∀ span, Span.between? cursor other = some span →
        cursor.slice? other = some span.text ∧ Span.Covers cursor other span) ∧
      ∀ source'' consumed'' third, Reached source'' consumed'' third →
        cursor.source = other.source → other.source = third.source →
        cursor.offset ≤ other.offset → other.offset ≤ third.offset →
          ∃ left right whole, Span.between? cursor other = some left ∧
            Span.between? other third = some right ∧ Span.between? cursor third = some whole ∧
            cursor.slice? third = some (left.text ++ right.text) ∧
            whole.text = left.text ++ right.text ∧ whole.length = left.length + right.length := by
  refine ⟨fun _ => reached.slice?_eq_some_iff another, slice?_eq_none_iff, ?_, ?_, ?_⟩
  · rw [Span.between?, Option.map_eq_none_iff, slice?_eq_none_iff]
  · intro span found
    obtain ⟨middle, slice, rfl⟩ := Option.map_eq_some_iff.mp found
    refine ⟨slice, ?_⟩
    obtain ⟨rest, rfl, rfl⟩ := reached.eq_behind_of_slice? another slice
    exact covers_behind consumed middle rest
  · intro source'' consumed'' third final same same' le le'
    obtain ⟨left, -, rfl, -, -, first⟩ := reached.exists_slice another same le
    obtain ⟨right, -, rfl, -, -, second⟩ := another.exists_slice final same' le'
    obtain ⟨whole, -, longer, -, -, both⟩ :=
      reached.exists_slice final (same.trans same') (Nat.le_trans le le')
    rw [List.append_assoc] at longer
    obtain rfl := List.append_cancel_left longer
    refine ⟨⟨left, cursor.place⟩, ⟨right, other.place⟩, ⟨left ++ right, cursor.place⟩, ?_, ?_, ?_,
      both, rfl, Text.size_append left right⟩
    · rw [Span.between?, first, Option.map_some]
    · rw [Span.between?, second, Option.map_some]
    · rw [Span.between?, both, Option.map_some]

theorem slices_between_accented :
    Reached accented [] (behind [] accented) ∧ Reached accented ['é'] (behind ['é'] ['\n']) ∧
      Reached accented accented (behind accented []) ∧
      ∃ left right whole, Span.between? (behind [] accented) (behind ['é'] ['\n']) = some left ∧
        Span.between? (behind ['é'] ['\n']) (behind accented []) = some right ∧
        Span.between? (behind [] accented) (behind accented []) = some whole ∧
        (behind [] accented).slice? (behind accented []) = some (left.text ++ right.text) ∧
        whole.text = left.text ++ right.text ∧ whole.length = left.length + right.length := by
  let requests : List (Nat × Request) :=
    [(0, .clone), (1, .next), (1, .clone), (2, .nextIf '\n')]
  have run : Reader.serveAll [.start accented] requests =
      [⟨[], behind [] accented⟩, ⟨['é'], behind ['é'] ['\n']⟩, ⟨accented, behind accented []⟩] :=
    rfl
  have first : Reached accented [] (behind [] accented) := ⟨requests, by simp [run]⟩
  have second : Reached accented ['é'] (behind ['é'] ['\n']) := ⟨requests, by simp [run]⟩
  have third : Reached accented accented (behind accented []) := ⟨requests, by simp [run]⟩
  obtain ⟨-, -, -, -, adjacent⟩ := slices_between first second
  exact ⟨first, second, third, adjacent _ _ _ third rfl rfl (by decide) (by decide)⟩

end Cursor

end Lox
