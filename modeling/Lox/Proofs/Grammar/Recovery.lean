import Lox.Grammar.Parse
import Lox.Proofs.Grammar.Step

/-!
From an expression to a whole reading: what is noted behind a tree, and what becomes of a fault.

Behind a fatal error tokens are skipped. The token that this ends at is the first one that ends the
text or follows the start of a statement. Where there is none, the last token has been skipped, and
to ask for the next one is the internal error that the reading ends with. No other internal error
comes from skipping: a token has been taken whenever the one before the head is looked at.
-/

set_option autoImplicit false
set_option relaxedAutoImplicit false

namespace Lox

/-- The first token that ends the text or comes right behind the start of a statement, the given
token being the one in front of the list. -/
def resumeBehind? : Token → List Token → Option Token
  | _, [] => none
  | previous, token :: tokens =>
      if token.kind = .eof ∨ previous.kind.startsStatement then some token
      else resumeBehind? token tokens

def resume? : List Token → Option Token
  | [] => none
  | token :: tokens => if token.kind = .eof then some token else resumeBehind? token tokens

namespace ParseState

variable {state : ParseState} {read rest : List Token}

theorem tokens_past (split : state.ahead = read ++ rest) :
    (state.past read rest).tokens = state.tokens := by
  simp [past, tokens, split]

private theorem outOfTokens_of_nil (ahead : state.ahead = []) :
    state.outOfTokens = .cursorOutOfBounds state.tokens.length state.tokens.length := by
  simp [outOfTokens, tokens, head, ahead]

end ParseState

namespace Parser

/-- What skipping comes to: it stops in front of the token at which reading can resume, or misses a
token behind the last one. -/
inductive Skipped (state : ParseState) :
    Option Token → EStateM.Result Fault ParseState Unit → Prop
  | found {read rest : List Token} {resumed : Token}
      (split : state.ahead = read ++ resumed :: rest) :
      Skipped state (some resumed) (.ok () (state.past read (resumed :: rest)))
  | missed :
      Skipped state none
        (.error (.internal (.cursorOutOfBounds state.tokens.length state.tokens.length))
          (state.past state.ahead []))

section skip

variable {state : ParseState} {token previous : Token} {rest before : List Token}
variable {resumed : Option Token} {result : EStateM.Result Fault ParseState Unit}

private theorem Skipped.here (ahead : state.ahead = token :: rest) :
    Skipped state (some token) (.ok () state) := by
  have skipped : Skipped state (some token) (.ok () (state.past [] (token :: rest))) :=
    .found ahead
  rwa [ParseState.past_nil ahead] at skipped

private theorem Skipped.of_nil (ahead : state.ahead = []) :
    Skipped state none (.error (.internal state.outOfTokens) state) := by
  have skipped : Skipped state none _ := .missed
  rwa [← ParseState.outOfTokens_of_nil ahead, ahead, ParseState.past_nil ahead] at skipped

private theorem Skipped.behind (ahead : state.ahead = token :: rest)
    (skipped : Skipped (state.past [token] rest) resumed result) :
    Skipped state resumed result := by
  cases skipped with
  | @found read rest resumed split =>
      rw [ParseState.past_past]
      refine .found (ahead.trans ?_)
      exact congrArg (token :: ·) split
  | missed =>
      rw [ParseState.tokens_past (show state.ahead = [token] ++ rest from ahead),
        ParseState.past_past, ParseState.ahead_past, List.singleton_append, ← ahead]
      exact .missed

private theorem skip_of_nil (ahead : state.ahead = []) (bound : Nat) :
    skip bound state = .error (.internal state.outOfTokens) state := by
  cases bound with
  | zero => rfl
  | succ bound => rw [skip, bind_of_error (atEnd_of_nil ahead)]

private theorem skip_of_eof (ahead : state.ahead = token :: rest) (eof : token.kind = .eof)
    (bound : Nat) : skip (bound + 1) state = .ok () state := by
  rw [skip, bind_of_ok (atEnd_of_cons ahead), if_pos (decide_eq_true eof)]
  rfl

private theorem skip_of_starts (ahead : state.ahead = token :: rest) (inside : token.kind ≠ .eof)
    (behind : state.behind = previous :: before) (starts : previous.kind.startsStatement)
    (bound : Nat) : skip (bound + 1) state = .ok () state := by
  rw [skip, bind_of_ok (atEnd_of_cons ahead), if_neg (by simpa using inside),
    bind_of_ok (previous_of_cons behind), if_pos starts]
  rfl

private theorem skip_of_other (ahead : state.ahead = token :: rest) (inside : token.kind ≠ .eof)
    (behind : state.behind = previous :: before) (other : ¬previous.kind.startsStatement)
    (bound : Nat) : skip (bound + 1) state = skip bound (state.past [token] rest) := by
  rw [skip, bind_of_ok (atEnd_of_cons ahead), if_neg (by simpa using inside),
    bind_of_ok (previous_of_cons behind), if_neg other]
  exact bind_of_ok (advance_of_inside ahead inside)

private theorem skipped_skip (behind : state.behind = previous :: before) (bound : Nat)
    (enough : state.ahead.length ≤ bound) :
    Skipped state (resumeBehind? previous state.ahead) (skip bound state) := by
  -- The bound only falls with the tokens ahead, and what was skipped last is before the head.
  induction bound generalizing state previous before with
  | zero =>
      have ahead : state.ahead = [] := List.eq_nil_of_length_eq_zero (Nat.le_zero.mp enough)
      rw [ahead]
      exact .of_nil ahead
  | succ bound ih =>
      cases ahead : state.ahead with
      | nil =>
          rw [skip_of_nil ahead]
          exact .of_nil ahead
      | cons token rest =>
          rw [resumeBehind?]
          by_cases eof : token.kind = .eof
          · rw [skip_of_eof ahead eof, if_pos (.inl eof)]
            exact .here ahead
          · by_cases starts : previous.kind.startsStatement
            · rw [skip_of_starts ahead eof behind starts, if_pos (.inr starts)]
              exact .here ahead
            · rw [skip_of_other ahead eof behind starts, if_neg (not_or.mpr ⟨eof, starts⟩)]
              have fewer : rest.length ≤ bound := by
                rw [ahead, List.length_cons] at enough
                exact Nat.le_of_succ_le_succ enough
              have later : Skipped (state.past [token] rest) (resumeBehind? token rest)
                  (skip bound (state.past [token] rest)) := ih rfl fewer
              exact .behind ahead later

/-- Skipping goes to the token at which reading can resume. It fails in one way only: behind the
last token, where there is no such token. -/
theorem skipped_synchronize (state : ParseState) :
    Skipped state (resume? state.ahead) (synchronize state) := by
  cases ahead : state.ahead with
  | nil =>
      rw [synchronize, bind_of_error (advance_of_nil ahead)]
      exact .of_nil ahead
  | cons token rest =>
      rw [resume?]
      by_cases eof : token.kind = .eof
      · have stays : bounded skip state = .ok () state := by
          rw [bounded, ahead]
          exact skip_of_eof ahead eof rest.length
        rw [synchronize, bind_of_ok (advance_of_eof ahead eof), stays, if_pos eof]
        exact .here ahead
      · rw [synchronize, bind_of_ok (advance_of_inside ahead eof), if_neg eof]
        have later : Skipped (state.past [token] rest) (resumeBehind? token rest)
            (skip rest.length (state.past [token] rest)) := skipped_skip rfl _ (Nat.le_refl _)
        exact .behind ahead later

end skip

section recover

variable {α : Type} {state : ParseState} {resumed : Token} {error : ParseError}

private theorem recover_of_some (found : resume? state.ahead = some resumed) :
    ∃ read rest, state.ahead = read ++ resumed :: rest ∧
      (recover (.rejected error) : Parser α) state =
        .error (.rejected { error with resumedAt := some resumed })
          (state.past read (resumed :: rest)) := by
  have skipped := skipped_synchronize state
  rw [found] at skipped
  cases run : synchronize state with
  | ok value later =>
      rw [run] at skipped
      obtain @⟨read, rest, _, split⟩ := skipped
      refine ⟨read, rest, split, ?_⟩
      rw [recover, bind_of_ok run, bind_of_ok (current_of_cons rfl)]
      rfl
  | error fault later =>
      rw [run] at skipped
      contradiction

private theorem recover_of_none (missed : resume? state.ahead = none) :
    (recover (.rejected error) : Parser α) state =
      .error (.internal (.cursorOutOfBounds state.tokens.length state.tokens.length))
        (state.past state.ahead []) := by
  have skipped := skipped_synchronize state
  rw [missed] at skipped
  cases run : synchronize state with
  | ok value later =>
      rw [run] at skipped
      contradiction
  | error fault later =>
      rw [run] at skipped
      cases skipped
      rw [recover, bind_of_error run]

end recover

section whole

variable {state later : ParseState} {tree : Expr} {token : Token} {rest : List Token}

private theorem whole_of_ok (run : expression state = .ok tree later) :
    whole state =
      (do
        if !(← atEnd) then record .expectedEnd
        return tree : Parser Expr) later := by
  exact bind_of_ok (tryCatch_of_ok run)

private theorem whole_of_error {fault another : Fault} {last : ParseState}
    (run : expression state = .error fault later)
    (ended : (recover fault : Parser Expr) later = .error another last) :
    whole state = .error another last := by
  have caught : (tryCatch expression recover : Parser Expr) state = .error another last :=
    (tryCatch_of_error run).trans ended
  exact bind_of_error caught

end whole

end Parser

namespace Grammar

open Lox.Parser

def leftOver (token : Token) (head : Nat) : List ParseError :=
  if token.kind = .eof then [] else [⟨.expectedEnd, token, head, none⟩]

section parse

variable {tokens rest : List Token} {token : Token} {tree : Expr} {state : ParseState}
variable {error : ParseError}

theorem parse_of_ok (run : expression (.start tokens) = .ok tree state)
    (ahead : state.ahead = token :: rest) :
    parse tokens = .ok ⟨tree, state.errors ++ leftOver token state.head⟩ := by
  rw [parse, whole_of_ok run, bind_of_ok (atEnd_of_cons ahead), leftOver]
  by_cases eof : token.kind = .eof
  · rw [if_neg (by simp [eof]), if_pos eof, List.append_nil]
    rfl
  · rw [if_pos (by simp [eof]), if_neg eof, bind_of_ok (record_of_cons _ ahead)]
    rfl

theorem parse_of_ok_nil (run : expression (.start tokens) = .ok tree state)
    (ahead : state.ahead = []) : parse tokens = .error (.internal state.outOfTokens) := by
  rw [parse, whole_of_ok run, bind_of_error (atEnd_of_nil ahead)]

theorem parse_of_rejected {resumed : Token}
    (run : expression (.start tokens) = .error (.rejected error) state)
    (found : resume? state.ahead = some resumed) :
    parse tokens =
      .error (.rejected (state.errors ++ [{ error with resumedAt := some resumed }])) := by
  obtain ⟨read, rest, -, ended⟩ := recover_of_some found
  rw [parse, whole_of_error run ended]
  rfl

/-- To skip behind the last token is an internal error, and the fault that led there is lost. -/
theorem parse_of_rejected_none (run : expression (.start tokens) = .error (.rejected error) state)
    (missed : resume? state.ahead = none) :
    parse tokens =
      .error (.internal (.cursorOutOfBounds state.tokens.length state.tokens.length)) := by
  rw [parse, whole_of_error run (recover_of_none missed)]

theorem parse_of_internal {fault : InternalError}
    (run : expression (.start tokens) = .error (.internal fault) state) :
    parse tokens = .error (.internal fault) := by
  rw [parse, whole_of_error run (rfl : (recover (.internal fault) : Parser Expr) state = _)]

end parse

end Grammar

end Lox
