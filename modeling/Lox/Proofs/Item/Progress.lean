import Lox.Proofs.Item.Tiling
import Mathlib.Logic.Function.Iterate

/-!
Scanning one item after the other.

Scanning goes through a source from its start and keeps the tokens and errors that it meets. A
property that holds before anything is read, and that no item breaks, holds of the whole scan.
-/

set_option autoImplicit false
set_option relaxedAutoImplicit false

namespace Lox

open Item (first ofText tokensFrom errorsFrom)

private theorem Item.ofText_cons (c : Char) (rest : Text) :
    ofText (c :: rest) = (first c rest).1 :: ofText (first c rest).2 := by
  have behind := tiling_ofText (first c rest).2
  have tiling : Tiling ((first c rest).1 :: ofText (first c rest).2) (c :: rest) := by
    constructor
    · rw [List.flatMap_cons, behind.whole, text_append_first]
    · refine .cons ?_ behind.fit
      rw [behind.whole, List.append_nil]
      exact fits_first c rest
  exact tiling.eq_ofText.symm

/-- What scanning has met, the place that it has come to, and the text from there on. -/
structure Progress where
  tokens : List Token
  errors : List ScanError
  place : Place
  rest : Text

namespace Progress

def start (source : Text) : Progress := ⟨[], [], .start, source⟩

def past (item : Item) (rest : Text) (progress : Progress) : Progress where
  tokens := progress.tokens ++ (item.token? progress.place).toList
  errors := progress.errors ++ (item.error? progress.place).toList
  place := progress.place.after item.text
  rest

def step (progress : Progress) : Progress :=
  match progress.rest with
  | [] => progress
  | c :: rest => progress.past (first c rest).1 (first c rest).2

def complete (progress : Progress) : Progress where
  tokens := progress.tokens ++ tokensFrom progress.place (ofText progress.rest)
  errors := progress.errors ++ errorsFrom progress.place (ofText progress.rest)
  place := progress.place.after progress.rest
  rest := []

def finish (progress : Progress) : Scan :=
  ⟨progress.tokens ++ [.atEnd progress.place], progress.errors⟩

variable {progress : Progress} {source rest : Text} {c : Char}

theorem step_of_nil (atEnd : progress.rest = []) : progress.step = progress := by
  rw [step, atEnd]

theorem step_of_cons (left : progress.rest = c :: rest) :
    progress.step = progress.past (first c rest).1 (first c rest).2 := by
  rw [step, left]

theorem complete_of_nil (atEnd : progress.rest = []) : progress.complete = progress := by
  obtain ⟨tokens, errors, place, rest⟩ := progress
  obtain rfl : rest = [] := atEnd
  simp [complete, ofText, Item.readWithin, tokensFrom, errorsFrom, Item.locate, Place.after_nil]

/-- A step changes nothing about what scanning comes to. -/
theorem complete_step (progress : Progress) : progress.step.complete = progress.complete := by
  cases left : progress.rest with
  | nil => rw [step_of_nil left]
  | cons c rest =>
      have whole := Item.text_append_first c rest
      rw [step_of_cons left]
      simp only [complete, past, left, Item.ofText_cons c rest, Item.tokensFrom_cons,
        Item.errorsFrom_cons, List.append_assoc]
      rw [← whole, Place.after_append]

theorem length_rest_step_lt (left : progress.rest ≠ []) :
    progress.step.rest.length < progress.rest.length := by
  obtain ⟨c, rest, split⟩ := List.exists_cons_of_ne_nil left
  rw [step_of_cons split, split]
  exact Item.length_first_lt c rest

private theorem iterate_step (progress : Progress) {count : Nat}
    (enough : progress.rest.length ≤ count) : step^[count] progress = progress.complete := by
  induction count generalizing progress with
  | zero =>
      have none := List.eq_nil_of_length_eq_zero (Nat.le_zero.mp enough)
      exact (complete_of_nil none).symm
  | succ count ih =>
      rw [Function.iterate_succ_apply, ← complete_step]
      apply ih progress.step
      by_cases left : progress.rest = []
      · rw [step_of_nil left, left]
        exact Nat.zero_le count
      · have shorter := length_rest_step_lt left
        omega

theorem scan_eq_finish (source : Text) :
    scan source = (step^[source.length] (start source)).finish := by
  -- A source has no more items than characters, so that many steps are enough.
  rw [iterate_step (start source) (Nat.le_refl source.length)]
  rfl

/-- What every step keeps holds where nothing is left. -/
theorem exists_finish {holds : Progress → Prop} (initial : holds (start source))
    (kept : ∀ progress, holds progress → holds progress.step) :
    ∃ progress, progress.rest = [] ∧ scan source = progress.finish ∧ holds progress := by
  refine ⟨step^[source.length] (start source), ?_, scan_eq_finish source, ?_⟩
  · rw [iterate_step (start source) (Nat.le_refl source.length)]
    rfl
  · exact Function.Iterate.rec holds initial kept source.length

end Progress

end Lox
