import Mathlib.Control.Monad.Basic
import Lox.Proofs.Grammar.Ending

/-!
The shape of what is reported: where errors stand, how many there can be, and in which order.
-/

set_option autoImplicit false
set_option relaxedAutoImplicit false

namespace Lox.Grammar

open Lox.Parser

def problems : List ParseProblem :=
  [.expectedRightParen groupContent, .unclosedGroup, .expectedExpression primaryKinds, .expectedEnd]

private theorem operandProblem_mem (last : Option Token) (groups : Nat) (token : Token) :
    operandProblem last groups token ∈ problems := by
  rw [operandProblem]
  split
  · split <;> simp [problems]
  · simp [problems]

private theorem operandProblem_ne_expectedEnd (last : Option Token) (groups : Nat) (token : Token) :
    operandProblem last groups token ≠ .expectedEnd := by
  unfold operandProblem
  split
  · split <;> nofun
  · nofun

private theorem problem_ne_expectedEnd_of_mem_dropLast {missing head : Nat} {token : Token}
    {error : ParseError} (member : error ∈ (recovered missing token head).dropLast) :
    error.problem ≠ .expectedEnd := by
  have paren : error ∈ List.replicate missing (missingParen token head) := by
    rw [recovered, leftOver] at member
    split at member
    · rw [List.append_nil] at member
      exact (List.dropLast_subset _) member
    · rw [List.dropLast_concat] at member
      exact member
  obtain rfl := List.eq_of_mem_replicate paren
  exact ParseProblem.noConfusion

namespace Ending

theorem located {tokens : List Token} {result : Except ParseFailure Parsed}
    (run : Ending tokens result) :
    ∀ error ∈ reported result, tokens[error.head]? = some error.token := by
  obtain ⟨read, next, rest, stage, rfl, -, -, located⟩ := run.blocked
  intro error member
  obtain ⟨token, head⟩ := located error member
  rw [token, head]
  simp

theorem problem_mem {tokens : List Token} {result : Except ParseFailure Parsed}
    (run : Ending tokens result) :
    ∀ error ∈ reported result, error.problem ∈ problems := by
  intro error member
  cases run with
  | read split derives stops noticed =>
      rw [reported, noticed] at member
      rcases List.mem_append.mp member with paren | last
      · obtain rfl := List.eq_of_mem_replicate paren
        simp [missingParen, problems]
      · rw [leftOver] at last
        split at last
        · contradiction
        · obtain rfl := List.mem_singleton.mp last
          simp [problems]
  | @stuck read rest next resumed groups error split stage stops resume noticed =>
      obtain rfl := List.mem_singleton.mp member
      rw [noticed]
      exact operandProblem_mem read.getLast? groups next

theorem ordered {tokens : List Token} {result : Except ParseFailure Parsed}
    (run : Ending tokens result) :
    ∀ error ∈ (reported result).dropLast, error.problem ≠ .expectedEnd := by
  intro error member
  cases run with
  | read split derives stops noticed =>
      rw [reported, noticed] at member
      exact problem_ne_expectedEnd_of_mem_dropLast member
  | stuck split stage stops resume noticed => contradiction

/-- A failure is one error, and it tells where reading could resume. -/
theorem fatal {tokens : List Token} {errors : List ParseError}
    (run : Ending tokens (.error (.rejected errors))) :
    ∃ error, errors = [error] ∧ error.resumedAt.isSome ∧ error.problem ≠ .expectedEnd := by
  cases run with
  | @stuck read rest next resumed groups error split stage stops resume noticed =>
      refine ⟨error, rfl, ?_, ?_⟩
      · rw [noticed]
        rfl
      · rw [noticed]
        exact operandProblem_ne_expectedEnd read.getLast? groups next

/-- Next to a tree there is an error for each group open at some token. -/
theorem patched {tokens : List Token} {tree : Expr} {errors : List ParseError}
    (run : Ending tokens (.ok ⟨tree, errors⟩)) :
    ∃ head token missing, tokens[head]? = some token ∧
      ((tokens.take head).map Token.kind).count .rightParen + missing =
        ((tokens.take head).map Token.kind).count .leftParen ∧
      errors = recovered missing token head := by
  cases run with
  | @read read rest next _ missing _ split derives stops noticed =>
      refine ⟨read.length, next, missing, ?_, ?_, noticed⟩
      · rw [split]
        simp
      · have groups := Stage.groups_of_after? (after?_of_completed derives)
        rw [split, List.take_left]
        simp only [Stage.groups] at groups
        omega

end Ending

/-- Every error names the token at its index, and a token left over is never reported in front of
anything else. A failure is one error, which is not about a token left over, and it alone tells
where reading could resume. All errors next to a tree stand at one token: one for each group open
there, and one more unless the token is the end. -/
theorem shape_of_reported {tokens : List Token} (atEnd : ∃ token ∈ tokens, token.kind = .eof) :
    (∀ error ∈ reported (parse tokens), tokens[error.head]? = some error.token) ∧
      (∀ error ∈ (reported (parse tokens)).dropLast, error.problem ≠ .expectedEnd) ∧
      (∀ errors, parse tokens = .error (.rejected errors) →
        ∃ error, errors = [error] ∧ error.resumedAt.isSome ∧ error.problem ≠ .expectedEnd) ∧
      ∀ tree errors, parse tokens = .ok ⟨tree, errors⟩ →
        ∃ head token missing, tokens[head]? = some token ∧
          ((tokens.take head).map Token.kind).count .rightParen + missing =
            ((tokens.take head).map Token.kind).count .leftParen ∧
          errors = recovered missing token head := by
  have run := ending atEnd
  refine ⟨run.located, run.ordered, ?_, ?_⟩
  · intro errors rejected
    rw [rejected] at run
    exact run.fatal
  · intro tree errors parsed
    rw [parsed] at run
    exact run.patched

/-- The tokens of `((1 1`, where two groups are open and a token is left over. -/
def openGroups : List Token := [.leftParen, .leftParen, .number, .number, .eof].map tokenOf

theorem shape_of_reported_openGroups :
    (∃ token ∈ openGroups, token.kind = .eof) ∧
      ∃ head token missing, openGroups[head]? = some token ∧
        ((openGroups.take head).map Token.kind).count .rightParen + missing =
          ((openGroups.take head).map Token.kind).count .leftParen ∧
        [missingParen (tokenOf .number) 3, missingParen (tokenOf .number) 3,
          ⟨.expectedEnd, tokenOf .number, 3, none⟩] = recovered missing token head := by
  have atEnd : ∃ token ∈ openGroups, token.kind = .eof := by decide
  obtain ⟨-, -, -, shape⟩ := shape_of_reported atEnd
  refine ⟨atEnd, ?_⟩
  exact shape (.grouping (.grouping (.literal (tokenOf .number)))) _ (by decide +kernel)

end Lox.Grammar
