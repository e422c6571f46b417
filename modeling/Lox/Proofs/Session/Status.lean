import Lox.CommandLine
import Lox.Proofs.Session.Run

/-!
Exit statuses, and why no input leads to the one for internal errors.

The tokens of every source text have an end, so that reading them has no internal error, whatever
the streams of a session take. What running a file comes to follows from this, and from that the
status of the program.
-/

set_option autoImplicit false
set_option relaxedAutoImplicit false

namespace Lox

open Grammar

variable {style : Style} {source : Text} {error : InternalError}

namespace Report

private theorem ofSource_error_ne_internal :
    (ofSource style source).error ≠ some (.internal error) := by
  rw [error_ofSource]
  exact RunError.ofList?_ne_internal error

end Report

namespace RunError

theorem exitStatus_eq_dataErrorStatus {error : RunError}
    (proper : ∀ fault, error ≠ .internal fault) : error.exitStatus = dataErrorStatus := by
  cases error with
  | diagnostics | stream => rfl
  | internal fault => exact absurd rfl (proper fault)

end RunError

namespace Session

/-- A session comes to values of some sort only, on whatever streams it runs. -/
def Ensures {α : Type} (sort : α → Prop) (session : Session α) : Prop :=
  ∀ streams value later, session streams = .ok value later → sort value

namespace Ensures

variable {α β : Type} {sort : α → Prop} {other : β → Prop}

theorem trivial (session : Session α) : session.Ensures fun _ => True :=
  fun _ _ _ _ => True.intro

theorem pure {value : α} (own : sort value) : Ensures sort (pure value : Session α) := by
  intro streams value' later run
  obtain ⟨⟩ := run
  exact own

theorem bind {first : Session α} {next : α → Session β} (before : first.Ensures sort)
    (behind : ∀ value, sort value → (next value).Ensures other) :
    Ensures other (first >>= next) := by
  intro streams value later run
  change EStateM.bind first next streams = _ at run
  rw [EStateM.bind] at run
  split at run
  · rename_i middle between ran
    exact behind middle (before streams middle between ran) between value later run
  · contradiction

end Ensures

theorem ensures_run (style : Style) (source : Text) :
    (run style source).Ensures fun error => ∀ fault, error ≠ some (.internal fault) := by
  intro streams value later ran fault internal
  rw [run] at ran
  split at ran
  · obtain ⟨⟩ := ran
    exact Report.ofSource_error_ne_internal internal
  · obtain ⟨⟩ := ran
    exact RunError.noConfusion (Option.some.inj internal)

def FileStatus (status : Nat) : Prop := status = 0 ∨ status = dataErrorStatus

theorem FileStatus.max {status other : Nat} (first : FileStatus status)
    (second : FileStatus other) : FileStatus (max status other) := by
  rcases Nat.le_total status other with less | less
  · rwa [Nat.max_eq_right less]
  · rwa [Nat.max_eq_left less]

private theorem ensures_runFile (read : Text → Except ReadError Text) (style : Style)
    (path : Text) : (runFile read style path).Ensures FileStatus := by
  rw [runFile]
  refine (Ensures.trivial _).bind fun _ _ => ?_
  split
  · exact (Ensures.trivial _).bind fun _ _ => .pure (.inr rfl)
  · refine (ensures_run style _).bind fun result proper => ?_
    split
    · exact .pure (.inl rfl)
    · refine (Ensures.trivial _).bind fun _ _ => .pure (.inr ?_)
      exact RunError.exitStatus_eq_dataErrorStatus fun fault same =>
        proper fault (congrArg some same)

private theorem ensures_runFiles (read : Text → Except ReadError Text) (style : Style)
    (paths : List Text) : (runFiles read style paths).Ensures FileStatus := by
  induction paths with
  | nil => exact .pure (.inl rfl)
  | cons path paths ih =>
      rw [runFiles]
      refine (ensures_runFile read style path).bind fun status first => ?_
      exact ih.bind fun highest second => .pure (first.max second)

end Session

open Session (Ensures FileStatus)

private theorem Options.ensures_session (options : Options) (read : Text → Except ReadError Text)
    (input : List UInt8) : (options.session read input).Ensures FileStatus := by
  rw [Options.session]
  split
  · exact (Ensures.trivial _).bind fun _ _ => .pure (.inl rfl)
  · exact Session.ensures_runFiles read _ _

private theorem Outcome.status_ofSession {session : Session Nat} {sort : Nat → Prop}
    (ensures : session.Ensures sort) (failureText : StreamError → Text) (streams : Streams) :
    sort (ofSession failureText session streams).status ∨
      (ofSession failureText session streams).status = streamErrorStatus := by
  rw [ofSession]
  split
  · rename_i status later ran
    exact .inl (ensures streams status later ran)
  · exact .inr rfl

namespace Frontend

variable (frontend : Frontend) (read : Text → Except ReadError Text) (input : List UInt8)
variable (streams : Streams) (arguments : List Text)

/-- The program ends as its arguments say, or it tells apart success, streams that fail and bad
input. -/
private theorem status_execute :
    frontend.options arguments = .error (frontend.execute read input streams arguments) ∨
      (frontend.execute read input streams arguments).status ∈
        [0, streamErrorStatus, dataErrorStatus] := by
  rw [execute]
  cases frontend.options arguments with
  | error outcome => exact .inl rfl
  | ok options =>
      have ensures := options.ensures_session read input
      right
      rcases Outcome.status_ofSession ensures frontend.failureText streams with status | status
      · rcases status with status | status
        · simp [status]
        · simp [status]
      · simp [status]

private theorem status_of_plain_options {outcome : Outcome}
    (ended : plain.options arguments = .error outcome) :
    outcome.status ∈ [0, badArgumentsStatus] := by
  have early : (Options.ofArguments arguments).mapError Outcome.early = .error outcome := ended
  cases result : Options.ofArguments arguments with
  | ok options =>
      rw [result] at early
      contradiction
  | error exit =>
      rw [result] at early
      obtain rfl := Except.error.inj early
      cases exit <;> decide

end Frontend

/-- A token is missed only behind the last one, where no token is the end. So a source text never
leads to an internal error, whatever becomes of its output, and no file has the status of one. Nor
has the program on any streams, unless it ends with that status before it runs anything: whoever
reads its arguments must not claim a broken rule. -/
theorem no_internal_error :
    (∀ tokens : List Token, parse tokens ≠ .error (.internal .nothingConsumed)) ∧
      (∀ (tokens : List Token) (head length : Nat),
        parse tokens = .error (.internal (.cursorOutOfBounds head length)) →
          (∀ token ∈ tokens, token.kind ≠ .eof) ∧ head = tokens.length ∧
            length = tokens.length) ∧
      (∀ source : Text, ∃ front final, (scan source).tokens = front ++ [final] ∧
        final.kind = .eof) ∧
      (∀ style source error, (Report.ofSource style source).error ≠ some (.internal error)) ∧
      (∀ style source streams later error,
        Session.run style source streams ≠ .ok (some (.internal error)) later) ∧
      (∀ read style files streams status later,
        Session.runFiles read style files streams = .ok status later → status ≠ 70) ∧
      ∀ frontend : Frontend,
        (∀ arguments outcome, frontend.options arguments = .error outcome →
          outcome.status ≠ 70) →
        ∀ read input streams arguments,
          (frontend.execute read input streams arguments).status ≠ 70 := by
  refine ⟨?_, ?_, ?_, ?_, ?_, ?_, ?_⟩
  · intro tokens failed
    exact InternalError.noConfusion (internal_of_parse failed).2
  · intro tokens head length failed
    obtain ⟨noEnd, missed⟩ := internal_of_parse failed
    obtain ⟨rfl, rfl⟩ := InternalError.cursorOutOfBounds.inj missed
    exact ⟨noEnd, rfl, rfl⟩
  · intro source
    exact ⟨_, _, rfl, rfl⟩
  · intro style source error
    exact Report.ofSource_error_ne_internal
  · intro style source streams later error ran
    exact Session.ensures_run style source streams _ later ran error rfl
  · intro read style files streams status later ran
    rcases Session.ensures_runFiles read style files streams status later ran with rfl | rfl
    · decide
    · decide
  · intro frontend early read input streams arguments failed
    rcases frontend.status_execute read input streams arguments with ended | status
    · exact early arguments _ ended failed
    · rw [failed] at status
      exact absurd status (by decide)

theorem no_internal_error_loneNumber :
    parse [tokenOf .number] = .error (.internal (.cursorOutOfBounds 1 1)) ∧
      (∀ token ∈ [tokenOf .number], token.kind ≠ .eof) ∧
      (∃ later,
        Session.runFiles (fun _ => .error .notFound) .parenthesized ["a".toList] .unlimited =
          .ok 65 later ∧ 65 ≠ 70) ∧
      (∀ arguments outcome, Frontend.plain.options arguments = .error outcome →
        outcome.status ≠ 70) ∧
      (Frontend.plain.execute (fun _ => .ok ['1']) [] ⟨.limited 3, .limited 9⟩ ["a".toList]).status =
        1 ∧
      (Frontend.plain.execute (fun _ => .ok ['1']) [] ⟨.limited 3, .limited 9⟩ ["a".toList]).status ≠
        70 := by
  obtain ⟨-, outside, -, -, -, files, calls⟩ := no_internal_error
  have failed : parse [tokenOf .number] = .error (.internal (.cursorOutOfBounds 1 1)) := rfl
  obtain ⟨noEnd, -⟩ := outside [tokenOf .number] 1 1 failed
  have early : ∀ arguments outcome, Frontend.plain.options arguments = .error outcome →
      outcome.status ≠ 70 := by
    intro arguments outcome ended broken
    have status := Frontend.status_of_plain_options arguments ended
    rw [broken] at status
    exact absurd status (by decide)
  refine ⟨failed, noEnd, ⟨_, rfl, ?_⟩, early, by rfl, calls Frontend.plain early _ _ _ _⟩
  exact files (fun _ => .error .notFound) .parenthesized ["a".toList] .unlimited _ _ rfl

end Lox
