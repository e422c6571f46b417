import Lox.Proofs.Item.Progress
import Lox.Proofs.Item.Spelling
import Lox.Proofs.Text.Cursor
import Lox.Proofs.Text.Utf8

/-!
Coordinates of tokens and errors.

Every token is cut out of its source, and its line and offset are those of the characters in front
of it. Tokens follow each other without overlap. All this is kept by every item that scanning goes
past, since no item is empty and no token goes beyond its item.
-/

set_option autoImplicit false
set_option relaxedAutoImplicit false

namespace Lox

namespace Span

/-- A span that is cut out of a source behind some characters: it lies between the two cursors that
have read these characters, and its own as well. -/
structure CutFrom (source before : Text) (span : Span) : Prop where
  whole : ∃ behind, source = before ++ (span.text ++ behind)
  position : span.position = before.size
  line : span.line = 1 + before.count '\n'
  between : between? ((Cursor.start source).take before.length).2
    ((Cursor.start source).take (before ++ span.text).length).2 = some span
  bytes : (source.utf8.drop span.position).take span.length = span.text.utf8

/-- A span starts in front of a place, and ends there or earlier. -/
structure EndsBy (span : Span) (place : Place) : Prop where
  starts : span.position < place.offset
  ends : span.position + span.length ≤ place.offset
  line : span.line ≤ place.line

variable {source before : Text} {span : Span} {place : Place}

private theorem cutFrom (behind : Text) (whole : source = before ++ (span.text ++ behind))
    (starts : span.start = Place.start.after before) : span.CutFrom source before := by
  have position : span.position = before.size := by
    rw [Span.position, starts, Place.offset_after_start]
  have line : span.line = 1 + before.count '\n' := by
    rw [Span.line, starts, Place.line_after_start]
  have longer : source = (before ++ span.text) ++ behind := by
    rw [whole, List.append_assoc]
  have first : ((Cursor.start source).take before.length).2 =
      .behind before (span.text ++ behind) := by
    rw [whole, Cursor.take_start]
  have last : ((Cursor.start source).take (before ++ span.text).length).2 =
      .behind (before ++ span.text) behind := by
    rw [longer, Cursor.take_start]
  refine ⟨⟨behind, whole⟩, position, line, ?_, ?_⟩
  · rw [first, last, between?_behind, ← starts]
  · rw [position, whole, Text.drop_utf8_append, Span.length, Text.take_utf8_append]

theorem EndsBy.after (ends : span.EndsBy place) (text : Text) : span.EndsBy (place.after text) := by
  have offset := Place.offset_after place text
  have line := Place.line_after place text
  have starts := ends.starts
  have last := ends.ends
  have lines := ends.line
  exact ⟨by omega, by omega, by omega⟩

private theorem endsBy_after {opening closing : Text} (starts : span.start = place.after opening)
    (some : span.text ++ closing ≠ []) :
    span.EndsBy (place.after (opening ++ (span.text ++ closing))) := by
  have positive := Text.size_pos some
  have position : span.position = place.offset + opening.size := by
    rw [Span.position, starts, Place.offset_after]
  have line : span.line = place.line + opening.count '\n' := by
    rw [Span.line, starts, Place.line_after]
  have length : span.length = span.text.size := rfl
  rw [Text.size_append] at positive
  constructor
  · rw [Place.offset_after, Text.size_append, Text.size_append]
    omega
  · rw [Place.offset_after, Text.size_append, Text.size_append]
    omega
  · rw [Place.line_after, List.count_append]
    omega

end Span

namespace Item

variable {place : Place} {item : Item} {token : Token} {error : ScanError}

private theorem IsToken.exists_text_eq (is : IsToken place item token) (some : item.text ≠ []) :
    ∃ opening closing, item.text = opening ++ (token.lexeme ++ closing) ∧
      token.span.start = place.after opening ∧ token.lexeme ++ closing ≠ [] := by
  -- Only a string does not fill its item.
  cases is with
  | string content => exact ⟨['"'], ['"'], rfl, rfl, by simp⟩
  | symbol | number | reserved | identifier =>
      refine ⟨[], [], ?_, rfl, ?_⟩
      · rw [List.nil_append, List.append_nil]
        rfl
      · rw [List.append_nil]
        exact some

private theorem IsToken.cutFrom_and_endsBy {source front rest : Text}
    (is : IsToken place item token)
    (some : item.text ≠ []) (split : source = front ++ (item.text ++ rest))
    (starts : place = Place.start.after front) :
    (∃ before, token.span.CutFrom source before) ∧
      token.span.EndsBy (place.after item.text) := by
  obtain ⟨opening, closing, text, first, inside⟩ := is.exists_text_eq some
  rw [Token.lexeme] at text inside
  constructor
  · refine ⟨front ++ opening, Span.cutFrom (closing ++ rest) ?_ ?_⟩
    · rw [split, text]
      simp only [List.append_assoc]
    · rw [first, starts, Place.after_append]
  · rw [text]
    exact Span.endsBy_after first inside

private theorem place_of_error? (found : item.error? place = some error) : error.place = place := by
  obtain ⟨problem, -, rfl⟩ := Option.map_eq_some_iff.mp found
  rfl

end Item

namespace Progress

open Item (first)

/-- What scanning has met so far has the coordinates that it has in the source. -/
structure Accurate (source : Text) (progress : Progress) : Prop where
  read : ∃ front, source = front ++ progress.rest ∧ progress.place = Place.start.after front
  proper : ∀ token ∈ progress.tokens, token.kind ≠ .eof
  cut : ∀ token ∈ progress.tokens, ∃ before, token.span.CutFrom source before
  ended : ∀ token ∈ progress.tokens, token.span.EndsBy progress.place
  ordered : progress.tokens.Pairwise fun first later => first.span.EndsBy later.span.start
  placed : ∀ error ∈ progress.errors, ∃ before, before <+: source ∧
    error.place = Place.start.after before
  passed : ∀ error ∈ progress.errors, error.place.offset < progress.place.offset
  sorted : progress.errors.Pairwise fun first later => first.place.offset < later.place.offset

variable {source rest : Text} {progress : Progress} {item : Item}

theorem accurate_start (source : Text) : Accurate source (start source) where
  read := ⟨[], rfl, rfl⟩
  proper := by simp [start]
  cut := by simp [start]
  ended := by simp [start]
  ordered := .nil
  placed := by simp [start]
  passed := by simp [start]
  sorted := .nil

section lists

variable {α : Type} {list : List α} {next : Option α}

private theorem forall_mem_append_toList {holds : α → Prop} (old : ∀ a ∈ list, holds a)
    (own : ∀ a, next = some a → holds a) : ∀ a ∈ list ++ next.toList, holds a := by
  intro a member
  rcases List.mem_append.mp member with before | last
  · exact old a before
  · exact own a (Option.mem_toList.mp last)

private theorem pairwise_append_toList {related : α → α → Prop} (old : list.Pairwise related)
    (own : ∀ a, next = some a → ∀ b ∈ list, related b a) :
    (list ++ next.toList).Pairwise related := by
  refine List.pairwise_append.mpr ⟨old, ?_, ?_⟩
  · cases next <;> simp
  · intro b before a last
    exact own a (Option.mem_toList.mp last) b before

end lists

/-- Going past an item keeps all coordinates right. -/
theorem Accurate.past (accurate : Accurate source progress) (fits : item.Fits rest)
    (left : progress.rest = item.text ++ rest) : Accurate source (progress.past item rest) := by
  obtain ⟨front, split, place⟩ := accurate.read
  rw [left] at split
  have some := fits.text_ne_nil
  constructor
  case read =>
    refine ⟨front ++ item.text, ?_, ?_⟩
    · rw [split, List.append_assoc]
      rfl
    · rw [Place.after_append, ← place]
      rfl
  case proper =>
    apply forall_mem_append_toList accurate.proper
    intro token found
    exact fits.kind_ne_eof (Item.isToken_iff.mpr found)
  case cut =>
    apply forall_mem_append_toList accurate.cut
    intro token found
    exact ((Item.isToken_iff.mpr found).cutFrom_and_endsBy some split place).1
  case ended =>
    apply forall_mem_append_toList
    · intro token member
      exact (accurate.ended token member).after item.text
    · intro token found
      exact ((Item.isToken_iff.mpr found).cutFrom_and_endsBy some split place).2
  case ordered =>
    apply pairwise_append_toList accurate.ordered
    intro token found before member
    obtain ⟨opening, -, -, starts, -⟩ := (Item.isToken_iff.mpr found).exists_text_eq some
    rw [starts]
    exact (accurate.ended before member).after opening
  case placed =>
    apply forall_mem_append_toList accurate.placed
    intro error found
    refine ⟨front, ?_, ?_⟩
    · rw [split]
      exact List.prefix_append _ _
    · rw [Item.place_of_error? found, place]
  case passed =>
    have offset : (progress.past item rest).place.offset =
        progress.place.offset + item.text.size := Place.offset_after _ _
    have positive := Text.size_pos some
    apply forall_mem_append_toList
    · intro error member
      have before := accurate.passed error member
      omega
    · intro error found
      rw [Item.place_of_error? found]
      omega
  case sorted =>
    apply pairwise_append_toList accurate.sorted
    intro error found before member
    rw [Item.place_of_error? found]
    exact accurate.passed before member

theorem Accurate.step (accurate : Accurate source progress) : Accurate source progress.step := by
  cases left : progress.rest with
  | nil =>
      rw [step_of_nil left]
      exact accurate
  | cons c rest =>
      rw [step_of_cons left]
      apply accurate.past (Item.fits_first c rest)
      rw [left, Item.text_append_first]

end Progress

/-- The coordinates of tokens and errors are exact. Every token is cut out of the source, with the
line and the offset that the characters in front of it lead to. Tokens start one behind the other,
each of them where the one before it has ended or later. Only the last one is of the kind for the
end, and it is empty and stands behind the whole source. The places of errors are exact as well, and
each error stands behind the one before it. -/
theorem scan_coordinates (source : Text) :
    (∀ token ∈ (scan source).tokens, ∃ before, token.span.CutFrom source before) ∧
      ((scan source).tokens.Pairwise fun first later =>
        first.position < later.position ∧ first.position + first.length ≤ later.position ∧
          first.line ≤ later.line) ∧
      (∃ front last, (scan source).tokens = front ++ [last] ∧ last.kind = .eof ∧
        last.length = 0 ∧ last.position = source.size ∧ ∀ token ∈ front, token.kind ≠ .eof) ∧
      (∀ error ∈ (scan source).errors, ∃ before, before <+: source ∧
        error.place.offset = Text.size before ∧ error.place.line = 1 + before.count '\n') ∧
      (scan source).errors.Pairwise fun first later => first.place.offset < later.place.offset := by
  obtain ⟨progress, atEnd, scanned, accurate⟩ :=
    Progress.exists_finish (Progress.accurate_start source) fun _ accurate => accurate.step
  obtain ⟨front, whole, place⟩ := accurate.read
  rw [atEnd, List.append_nil] at whole
  subst whole
  rw [scanned]
  refine ⟨?_, ?_, ⟨progress.tokens, .atEnd progress.place, rfl, rfl, rfl, ?_, accurate.proper⟩, ?_,
    accurate.sorted⟩
  · intro token member
    rcases List.mem_append.mp member with inside | last
    · exact accurate.cut token inside
    · obtain rfl := List.mem_singleton.mp last
      exact ⟨source, Span.cutFrom [] (by simp [Token.atEnd]) place⟩
  · refine List.pairwise_append.mpr ⟨?_, List.pairwise_singleton _ _, ?_⟩
    · refine accurate.ordered.imp fun ends => ⟨ends.starts, ends.ends, ends.line⟩
    · intro token inside last member
      obtain rfl := List.mem_singleton.mp member
      have ends := accurate.ended token inside
      exact ⟨ends.starts, ends.ends, ends.line⟩
  · change progress.place.offset = _
    rw [place, Place.offset_after_start]
  · intro error member
    obtain ⟨before, begins, same⟩ := accurate.placed error member
    refine ⟨before, begins, ?_, ?_⟩
    · rw [same, Place.offset_after_start]
    · rw [same, Place.line_after_start]

end Lox
