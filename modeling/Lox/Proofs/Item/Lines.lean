import Lox.Proofs.Item.Lookahead
import Lox.Proofs.Item.Spelling

/-!
Texts one line behind the other.

A text that ends outside of strings and comments is scanned as if nothing followed on the next line.
What follows there is scanned as if it stood alone, only that its tokens and errors are further down.
-/

set_option autoImplicit false
set_option relaxedAutoImplicit false

namespace Lox

variable (lines bytes : Nat)

/-- A place behind so many further lines and bytes. -/
def Place.shift (place : Place) : Place := ⟨place.line + lines, place.offset + bytes⟩

def Token.shift (token : Token) : Token :=
  { token with span := ⟨token.span.text, token.span.start.shift lines bytes⟩ }

def ScanError.shift (error : ScanError) : ScanError :=
  { error with place := error.place.shift lines bytes }

namespace Place

private theorem step_shift (place : Place) (c : Char) :
    (place.shift lines bytes).step c = (place.step c).shift lines bytes := by
  have offset : place.offset + bytes + c.utf8Size = place.offset + c.utf8Size + bytes := by omega
  rw [step, shift, shift, step, offset]
  split
  · rw [Nat.add_right_comm]
  · rfl

private theorem after_shift (place : Place) (text : Text) :
    (place.shift lines bytes).after text = (place.after text).shift lines bytes := by
  induction text generalizing place with
  | nil => rfl
  | cons c text ih => rw [after_cons, after_cons, step_shift, ih]

private theorem after_lineFeed (text : Text) :
    (start.after text).after ['\n'] = start.shift (text.count '\n' + 1) (text.size + 1) := by
  have line := line_after start text
  have offset := offset_after start text
  have feed (place : Place) : place.after ['\n'] = ⟨place.line + 1, place.offset + 1⟩ := rfl
  rw [feed, line, offset, shift, Nat.add_assoc, Nat.add_assoc]

end Place

namespace Item

variable {item : Item} {items : List Item} {problem : ScanProblem} {a b : Text}

section shift

private theorem token?_shift (place : Place) (item : Item) :
    item.token? (place.shift lines bytes) = (item.token? place).map (Token.shift lines bytes) := by
  cases item with
  | string content => simp [token?, Token.shift, Place.step_shift]
  | _ => rfl

private theorem error?_shift (place : Place) (item : Item) :
    item.error? (place.shift lines bytes) =
      (item.error? place).map (ScanError.shift lines bytes) := by
  cases item <;> rfl

private theorem seenFrom_shift {α : Type} {view : Place → Item → Option α} {move : α → α}
    (moved : ∀ place item, view (place.shift lines bytes) item = (view place item).map move)
    (place : Place) (items : List Item) :
    seenFrom view (place.shift lines bytes) items = (seenFrom view place items).map move := by
  induction items generalizing place with
  | nil => rfl
  | cons item items ih =>
      rw [seenFrom_cons, seenFrom_cons, moved, Place.after_shift, ih, List.map_append,
        Option.toList_map]

private theorem tokensFrom_shift (place : Place) (items : List Item) :
    tokensFrom (place.shift lines bytes) items =
      (tokensFrom place items).map (Token.shift lines bytes) :=
  seenFrom_shift lines bytes (token?_shift lines bytes) place items

private theorem errorsFrom_shift (place : Place) (items : List Item) :
    errorsFrom (place.shift lines bytes) items =
      (errorsFrom place items).map (ScanError.shift lines bytes) :=
  seenFrom_shift lines bytes (error?_shift lines bytes) place items

end shift

section closed

private theorem exists_error_of_mem (member : item ∈ items) (faulty : item.problem? = some problem)
    (place : Place) : ∃ error ∈ errorsFrom place items, error.problem = problem := by
  induction items generalizing place with
  | nil => contradiction
  | cons other items ih =>
      rw [errorsFrom_cons]
      rcases List.mem_cons.mp member with rfl | later
      · refine ⟨⟨problem, place⟩, List.mem_append_left _ ?_, rfl⟩
        simp [error?, faulty]
      · obtain ⟨error, inside, same⟩ := ih later (place.after other.text)
        exact ⟨error, List.mem_append_right _ inside, same⟩

private theorem isOpen_eq_false_of_mem_ofText
    (closed : ∀ error ∈ (scan a).errors,
      error.problem ≠ .unterminatedString ∧ error.problem ≠ .unterminatedBlockComment)
    (member : item ∈ ofText a) : item.isOpen = false := by
  cases item with
  | openString content =>
      obtain ⟨error, inside, same⟩ := exists_error_of_mem member rfl .start
      exact absurd same (closed error inside).1
  | openComment body =>
      obtain ⟨error, inside, same⟩ := exists_error_of_mem member rfl .start
      exact absurd same (closed error inside).2
  | _ => rfl

private theorem ofText_append_line (closed : ∀ item ∈ ofText a, item.isOpen = false) (b : Text) :
    ofText (a ++ '\n' :: b) = ofText a ++ .blank '\n' :: ofText b := by
  have feed : '\n' ∈ blanks := by decide
  have before : FitTogether ('\n' :: b) (ofText a) :=
    (tiling_ofText a).fit.relaxed (.lineFeed [] b) closed
  have behind : FitTogether [] (.blank '\n' :: ofText b) :=
    .cons (.blank feed) (tiling_ofText b).fit
  have text : (Item.blank '\n' :: ofText b).flatMap Item.text = '\n' :: b := by
    rw [List.flatMap_cons, flatMap_text_ofText]
    rfl
  have tiling : Tiling (ofText a ++ .blank '\n' :: ofText b) (a ++ '\n' :: b) := by
    constructor
    · rw [List.flatMap_append, flatMap_text_ofText, text]
    · refine fitTogether_append.mpr ⟨?_, behind⟩
      rw [text, List.append_nil]
      exact before
  exact tiling.eq_ofText.symm

end closed

end Item

open Item

/-- A text without an open string or comment and a text on the lines behind it are scanned apart.
The second one begins behind all line feeds and bytes of the first, and the line feed between. -/
theorem scan_append_line {a b : Text}
    (closed : ∀ error ∈ (scan a).errors,
      error.problem ≠ .unterminatedString ∧ error.problem ≠ .unterminatedBlockComment) :
    scan (a ++ '\n' :: b) =
      { tokens := (scan a).inside ++
          (scan b).tokens.map (Token.shift (a.count '\n' + 1) (a.size + 1))
        errors := (scan a).errors ++
          (scan b).errors.map (ScanError.shift (a.count '\n' + 1) (a.size + 1)) } := by
  have items := ofText_append_line (fun item => isOpen_eq_false_of_mem_ofText closed) b
  have line : (Place.start.after a).after (Item.blank '\n').text = _ := Place.after_lineFeed a
  have ends : Place.start.after (a ++ '\n' :: b) =
      (Place.start.after b).shift (a.count '\n' + 1) (a.size + 1) := by
    rw [← Place.after_shift, ← Place.after_lineFeed, ← Place.after_append, ← Place.after_append]
    rfl
  have apart {α : Type} (view : Place → Item → Option α) :
      seenFrom view .start (ofText (a ++ '\n' :: b)) =
        seenFrom view .start (ofText a) ++
          ((view (Place.start.after a) (.blank '\n')).toList ++
            seenFrom view (Place.start.shift (a.count '\n' + 1) (a.size + 1)) (ofText b)) := by
    rw [items, seenFrom_append, flatMap_text_ofText, seenFrom_cons, line]
  have tokens : tokensFrom .start (ofText (a ++ '\n' :: b)) = _ := apart _
  have errors : errorsFrom .start (ofText (a ++ '\n' :: b)) = _ := apart _
  rw [← tokensFrom_eq, ← tokensFrom_eq, tokensFrom_shift] at tokens
  rw [← errorsFrom_eq, ← errorsFrom_eq, errorsFrom_shift] at errors
  rw [scan_eq, tokens, errors, ends, inside_scan]
  simp [scan_eq, Item.token?, Item.error?, Item.problem?, Token.shift, Token.atEnd]

/-- The text ends with a slash, which begins no comment together with the next line. -/
theorem scan_append_line_slash :
    (∀ error ∈ (scan "\"é\n\" @12/".toList).errors,
        error.problem ≠ .unterminatedString ∧ error.problem ≠ .unterminatedBlockComment) ∧
      scan "\"é\n\" @12/\n/.5~".toList =
        { tokens := (scan "\"é\n\" @12/".toList).inside ++
            (scan "/.5~".toList).tokens.map (Token.shift 2 11)
          errors := [⟨.unexpectedCharacter '@', ⟨2, 6⟩⟩, ⟨.unexpectedCharacter '~', ⟨3, 14⟩⟩] } := by
  have closed : ∀ error ∈ (scan "\"é\n\" @12/".toList).errors,
      error.problem ≠ .unterminatedString ∧ error.problem ≠ .unterminatedBlockComment := by
    decide +kernel
  refine ⟨closed, ?_⟩
  exact (scan_append_line closed (b := "/.5~".toList)).trans (by decide +kernel)

end Lox
