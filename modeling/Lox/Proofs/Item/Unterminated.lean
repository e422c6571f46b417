import Lox.Proofs.Item.Coordinates
import Lox.Proofs.Item.Lookahead

/-!
What an open string or comment leaves of a text.

It runs to the end, so there is at most one, and it is the last item. Everything in front of it is
scanned as if the text ended there, since no item goes on with the end of a text.
-/

set_option autoImplicit false
set_option relaxedAutoImplicit false

namespace Lox

def ScanProblem.unterminated : List ScanProblem := [.unterminatedString, .unterminatedBlockComment]

/-- How the text of an item with some problem begins. A character that is not expected stands
alone. -/
def ScanProblem.opening : ScanProblem → Text
  | unexpectedCharacter c => [c]
  | unterminatedString => ['"']
  | unterminatedBlockComment => ['/', '*']

namespace Item

variable {item : Item} {front items : List Item} {problem : ScanProblem} {place : Place}
variable {rest source : Text} {error : ScanError} {token : Token}

section problem

private theorem mem_unterminated_iff (faulty : item.problem? = some problem) :
    problem ∈ ScanProblem.unterminated ↔ item.isOpen = true := by
  cases item with
  | stray c =>
      obtain rfl := Option.some.inj faulty
      simp [ScanProblem.unterminated, isOpen]
  | openString content =>
      obtain rfl := Option.some.inj faulty
      simp [ScanProblem.unterminated, isOpen]
  | openComment body =>
      obtain rfl := Option.some.inj faulty
      simp [ScanProblem.unterminated, isOpen]
  | _ => contradiction

private theorem opening_isPrefix (faulty : item.problem? = some problem) :
    problem.opening <+: item.text := by
  cases item with
  | stray c =>
      obtain rfl := Option.some.inj faulty
      exact List.prefix_refl _
  | openString content =>
      obtain rfl := Option.some.inj faulty
      exact ⟨content, rfl⟩
  | openComment body =>
      obtain rfl := Option.some.inj faulty
      exact ⟨body, rfl⟩
  | _ => contradiction

private theorem token?_of_problem (faulty : item.problem? = some problem) (place : Place) :
    item.token? place = none := by
  cases item with
  | stray | openString | openComment => rfl
  | _ => contradiction

end problem

section front

private theorem FitTogether.isOpen_eq_false (fit : FitTogether rest (front ++ items))
    (more : items.flatMap Item.text ++ rest ≠ []) : ∀ item ∈ front, item.isOpen = false := by
  intro item member
  obtain ⟨before, behind, rfl⟩ := List.append_of_mem member
  rw [List.append_assoc, fitTogether_append] at fit
  have fits := (fitTogether_cons.mp fit.2).1
  cases runs : item.isOpen with
  | false => rfl
  | true =>
      have none := fits.rest_eq_nil runs
      simp_all

private theorem ofText_front (split : ofText source = front ++ items)
    (closed : ∀ item ∈ front, item.isOpen = false) :
    ofText (front.flatMap Item.text) = front := by
  have fit := (tiling_ofText source).fit
  rw [split, fitTogether_append] at fit
  have tiling : Tiling front (front.flatMap Item.text) :=
    ⟨rfl, fit.1.relaxed (.nil _) closed⟩
  exact tiling.eq_ofText.symm

private theorem eq_nil_of_isOpen (split : ofText source = front ++ item :: items)
    (runs : item.isOpen = true) : items = [] := by
  have fit := (tiling_ofText source).fit
  rw [split, fitTogether_append] at fit
  obtain ⟨fits, more⟩ := fitTogether_cons.mp fit.2
  have none := fits.rest_eq_nil runs
  rw [List.append_nil] at none
  exact more.eq_nil none

end front

section scan

private theorem not_mem_unterminated (closed : ∀ item ∈ items, item.isOpen = false)
    (member : error ∈ errorsFrom place items) : error.problem ∉ ScanProblem.unterminated := by
  obtain ⟨front, item, back, rfl, found⟩ := exists_append_of_mem_seenFrom _ member
  obtain ⟨problem, faulty, rfl⟩ := Option.map_eq_some_iff.mp found
  have shut := closed item (by simp)
  show problem ∉ ScanProblem.unterminated
  rw [mem_unterminated_iff faulty, shut]
  decide

/-- Where an unterminated string or comment is reported, an item with this problem is the last of
the text, and no item in front of it is open. -/
theorem exists_last_of_unterminated (member : error ∈ (scan source).errors)
    (unterminated : error.problem ∈ ScanProblem.unterminated) :
    ∃ front item, ofText source = front ++ [item] ∧ item.problem? = some error.problem ∧
      error.place = Place.start.after (front.flatMap Item.text) ∧
      ∀ other ∈ front, other.isOpen = false := by
  obtain ⟨front, item, back, split, found⟩ := exists_append_of_mem_seenFrom _ member
  obtain ⟨problem, faulty, rfl⟩ := Option.map_eq_some_iff.mp found
  obtain rfl := eq_nil_of_isOpen split ((mem_unterminated_iff faulty).mp unterminated)
  refine ⟨front, item, split, faulty, rfl, ?_⟩
  have fit := (tiling_ofText source).fit
  have some := fit.text_ne_nil item (by simp [split])
  rw [split] at fit
  apply fit.isOpen_eq_false
  simpa using some

private theorem endsBy_of_mem_inside (member : token ∈ (scan source).inside) :
    token.span.EndsBy (Place.start.after source) := by
  obtain ⟨progress, atEnd, scanned, accurate⟩ :=
    Progress.exists_finish (Progress.accurate_start source) fun _ accurate => accurate.step
  obtain ⟨front, whole, place⟩ := accurate.read
  rw [atEnd, List.append_nil] at whole
  subst whole
  have tokens : (scan source).tokens = progress.tokens ++ [.atEnd progress.place] := by
    rw [scanned]
    rfl
  rw [tokens_scan] at tokens
  rw [List.append_inj_left' tokens rfl] at member
  rw [← place]
  exact accurate.ended token member

end scan

end Item

open Item

/-- An unterminated string or comment swallows only what follows it. There is one at most, it is the
last error, and it starts between two characters. What is in front of it is scanned as if the text
ended there, without any unterminated string or comment, and no token starts behind it. -/
theorem scan_unterminated {source : Text} {error : ScanError}
    (member : error ∈ (scan source).errors)
    (unterminated : error.problem ∈ ScanProblem.unterminated) :
    ∃ front behind, source = front ++ behind ∧ error.problem.opening <+: behind ∧
      error.place.offset = front.size ∧ source.utf8.take error.place.offset = front.utf8 ∧
      (∀ other ∈ (scan front).errors, other.problem ∉ ScanProblem.unterminated) ∧
      (scan source).errors = (scan front).errors ++ [error] ∧
      (scan source).inside = (scan front).inside ∧
      ∀ token ∈ (scan source).inside, token.position + token.length ≤ error.place.offset := by
  obtain ⟨items, item, split, faulty, place, closed⟩ :=
    exists_last_of_unterminated member unterminated
  have front := ofText_front split closed
  have whole := (tiling_ofText source).whole
  rw [split, List.flatMap_append, List.flatMap_singleton] at whole
  have offset : error.place.offset = Text.size (items.flatMap Item.text) := by
    rw [place, Place.offset_after_start]
  have inside : (scan source).inside = (scan (items.flatMap Item.text)).inside := by
    rw [inside_scan, inside_scan, split, front, tokensFrom_eq, tokensFrom_eq, seenFrom_append,
      seenFrom_cons, token?_of_problem faulty]
    exact List.append_nil _
  have errors : (scan source).errors = (scan (items.flatMap Item.text)).errors ++ [error] := by
    have last : item.error? (Place.start.after (items.flatMap Item.text)) = some error := by
      rw [error?, faulty, ← place]
      rfl
    rw [scan_eq, scan_eq, split, front, errorsFrom_eq, errorsFrom_eq]
    dsimp only
    rw [seenFrom_append, seenFrom_cons, last]
    rfl
  refine ⟨items.flatMap Item.text, item.text, whole.symm, opening_isPrefix faulty, offset, ?_, ?_,
    errors, inside, ?_⟩
  · rw [← whole, offset]
    exact Text.take_utf8_append _ _
  · intro other reported
    rw [scan_eq, front] at reported
    exact not_mem_unterminated closed reported
  · intro token reported
    rw [inside] at reported
    rw [place]
    exact (endsBy_of_mem_inside reported).ends

/-- The quotes in front of the comment are a string, and the quote in it opens none. -/
theorem scan_unterminated_quotes :
    (scan "é\"\n\"@/*\"/*".toList).errors =
        (scan "é\"\n\"@".toList).errors ++ [⟨.unterminatedBlockComment, ⟨2, 6⟩⟩] ∧
      (scan "é\"\n\"@/*\"/*".toList).inside = (scan "é\"\n\"@".toList).inside := by
  have member : ⟨.unterminatedBlockComment, ⟨2, 6⟩⟩ ∈ (scan "é\"\n\"@/*\"/*".toList).errors := by
    decide +kernel
  obtain ⟨front, behind, -, -, -, bytes, -, errors, inside, -⟩ :=
    scan_unterminated member (by decide)
  have spelled : Text.utf8 "é\"\n\"@".toList = front.utf8 := by
    rw [← bytes]
    decide +kernel
  obtain rfl : "é\"\n\"@".toList = front := by
    have read := Text.ofUtf8?_utf8 "é\"\n\"@".toList
    rw [spelled, Text.ofUtf8?_utf8] at read
    exact (Option.some.inj read).symm
  exact ⟨errors, inside⟩

end Lox
