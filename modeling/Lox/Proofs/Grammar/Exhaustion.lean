import Lox.Proofs.Grammar.Ending

/-!
Internal errors: what can go wrong with tokens that have no end.

A token is only missed behind the last one. This happens where all tokens can go on, and where an
operand is missing and no token is found at which reading could resume.
-/

set_option autoImplicit false
set_option relaxedAutoImplicit false

namespace Lox

variable {tokens : List Token} {error : InternalError}

namespace ParseState

private theorem outOfTokens_past_start :
    ((start tokens).past tokens []).outOfTokens =
      .cursorOutOfBounds tokens.length tokens.length := by
  rw [outOfTokens, tokens_past (List.append_nil tokens).symm, head_past, head_start, Nat.zero_add]
  rfl

end ParseState

namespace Grammar

open Lox.Parser

theorem parse_ne_internal (atEnd : ∃ token ∈ tokens, token.kind = .eof) :
    parse tokens ≠ .error (.internal error) := by
  intro failed
  have run := ending atEnd
  rw [failed] at run
  cases run

/-- An internal error is the lack of a token behind the last one, where no token is the end. -/
theorem internal_of_parse (failed : parse tokens = .error (.internal error)) :
    (∀ token ∈ tokens, token.kind ≠ .eof) ∧
      error = .cursorOutOfBounds tokens.length tokens.length := by
  refine ⟨fun token member eof => parse_ne_internal ⟨token, member, eof⟩ failed, ?_⟩
  have outcome := outcome_expression tokens
  generalize run : expression (.start tokens) = result at outcome
  cases outcome with
  | @read read rest tree split derives stops =>
      cases rest with
      | nil =>
          obtain rfl : tokens = read := split.trans (List.append_nil read)
          rw [parse_of_ok_nil run rfl, ParseState.outOfTokens_past_start] at failed
          exact (ParseFailure.internal.inj (Except.error.inj failed)).symm
      | cons next rest =>
          rw [parse_of_ok run rfl] at failed
          contradiction
  | patched split derives stops other =>
      rw [parse_of_ok run rfl] at failed
      contradiction
  | @stuck read rest next groups split stage literal opening sign =>
      have before := stage 0
      rw [Nat.zero_add] at before
      rw [operandFault_start before] at run
      cases resume : resume? (next :: rest) with
      | none =>
          rw [parse_of_rejected_none run resume, ParseState.tokens_past split] at failed
          exact (ParseFailure.internal.inj (Except.error.inj failed)).symm
      | some resumed =>
          rw [parse_of_rejected run resume] at failed
          exact nomatch Except.error.inj failed
  | exhausted noEnd =>
      rw [parse_of_internal run] at failed
      obtain ⟨⟩ := failed
      exact ParseState.outOfTokens_past_start

end Grammar

end Lox
