import Lox.Proofs.Grammar.Outcome
import Lox.Proofs.Grammar.Recovery

/-!
What comes of reading an expression from tokens that have an end.

Either a tree comes out, of the tokens in front of the first one that cannot go on, completed by as
many closing parentheses as there are errors for them; or that token should have begun an operand,
and nothing else is reported.
-/

set_option autoImplicit false
set_option relaxedAutoImplicit false

namespace Lox.Grammar

open Lox.Parser

/-- The errors in spite of which a tree is read: at one token, for each parenthesis missing in front
of it, and for the token itself. -/
def recovered (missing : Nat) (token : Token) (head : Nat) : List ParseError :=
  List.replicate missing (missingParen token head) ++ leftOver token head

def reported : Except ParseFailure Parsed → List ParseError
  | .ok parsed => parsed.errors
  | .error (.rejected errors) => errors
  | .error (.internal _) => []

/-- How reading ends. The token that cannot go on is the first of those not read. -/
inductive Ending (tokens : List Token) : Except ParseFailure Parsed → Prop
  | read {read rest : List Token} {next : Token} {tree : Expr} {missing : Nat}
      {errors : List ParseError} (split : tokens = read ++ next :: rest)
      (derives : ∀ closing : List Token,
        closing.map Token.kind = List.replicate missing .rightParen →
          Derives .expression (read ++ closing) tree)
      (stops : (Stage.behindOperand missing).next? next.kind = none)
      (noticed : errors = recovered missing next read.length) :
      Ending tokens (.ok ⟨tree, errors⟩)
  | stuck {read rest : List Token} {next resumed : Token} {groups : Nat} {error : ParseError}
      (split : tokens = read ++ next :: rest)
      (stage : (Stage.beforeOperand 0).after? (read.map Token.kind) =
        some (.beforeOperand groups))
      (stops : (Stage.beforeOperand groups).next? next.kind = none)
      (resume : resume? (next :: rest) = some resumed)
      (noticed : error =
        ⟨operandProblem read.getLast? groups next, next, read.length, some resumed⟩) :
      Ending tokens (.error (.rejected [error]))

private theorem exists_resumeBehind {tokens : List Token}
    (atEnd : ∃ token ∈ tokens, token.kind = .eof) (previous : Token) :
    ∃ resumed, resumeBehind? previous tokens = some resumed := by
  induction tokens generalizing previous with
  | nil => simp at atEnd
  | cons token tokens ih =>
      rw [resumeBehind?]
      split
      · exact ⟨token, rfl⟩
      · rename_i inside
        obtain ⟨final, member, eof⟩ := atEnd
        rcases List.mem_cons.mp member with rfl | member
        · exact absurd (.inl eof) inside
        · exact ih ⟨final, member, eof⟩ token

private theorem exists_resume {tokens : List Token} (atEnd : ∃ token ∈ tokens, token.kind = .eof) :
    ∃ resumed, resume? tokens = some resumed := by
  cases tokens with
  | nil => simp at atEnd
  | cons token tokens =>
      rw [resume?]
      split
      · exact ⟨token, rfl⟩
      · rename_i inside
        obtain ⟨final, member, eof⟩ := atEnd
        rcases List.mem_cons.mp member with rfl | member
        · exact absurd eof inside
        · exact exists_resumeBehind ⟨final, member, eof⟩ token

private theorem end_ahead {tokens read rest : List Token} (split : tokens = read ++ rest)
    (atEnd : ∃ token ∈ tokens, token.kind = .eof) (inside : ∀ token ∈ read, token.kind ≠ .eof) :
    ∃ token ∈ rest, token.kind = .eof := by
  obtain ⟨final, member, eof⟩ := atEnd
  rw [split] at member
  rcases List.mem_append.mp member with before | behind
  · exact absurd eof (inside final before)
  · exact ⟨final, behind, eof⟩

theorem outcome_expression (tokens : List Token) :
    Outcome .expression (.start tokens) (expression (.start tokens)) :=
  (reads_primaryWithin tokens.length).equality (.start tokens) (Nat.le_refl _)

theorem operandFault_start {tokens read rest : List Token} {next : Token} {groups : Nat}
    (stage : (Stage.beforeOperand 0).after? (read.map Token.kind) =
      some (.beforeOperand groups)) :
    operandFault (((ParseState.start tokens).past read (next :: rest)).within groups) next =
      .rejected ⟨operandProblem read.getLast? groups next, next, read.length, none⟩ := by
  rw [operandFault_of_entered]
  · simp [operandError, ParseState.within, ParseState.past, ParseState.start, ParseState.head]
  -- What is open in front of a missing operand was entered by tokens that were read.
  · intro entered none
    obtain rfl : read = [] := by
      simpa [ParseState.within, ParseState.past, ParseState.start] using none
    obtain ⟨⟩ := stage
    exact absurd entered (Nat.lt_irrefl 0)

/-- Tokens with an end are read in one of the two ways. -/
theorem ending {tokens : List Token} (atEnd : ∃ token ∈ tokens, token.kind = .eof) :
    Ending tokens (parse tokens) := by
  have outcome := outcome_expression tokens
  generalize run : expression (.start tokens) = result at outcome
  cases outcome with
  | @read read rest tree split derives stops =>
      obtain ⟨final, member, -⟩ := end_ahead split atEnd derives.kind_ne_eof
      cases rest with
      | nil => contradiction
      | cons next rest =>
          rw [parse_of_ok run rfl]
          refine @Ending.read tokens read rest next tree 0 _ split ?_ ?_ ?_
          · intro closing none
            obtain rfl : closing = [] := List.map_eq_nil_iff.mp none
            rw [List.append_nil]
            exact derives
          · exact Stage.next?_behindOperand_eq_none (stops next rfl)
              (fun inside => absurd inside (Nat.lt_irrefl 0))
          · rw [ParseState.head_past, ParseState.head_start, Nat.zero_add]
            rfl
  | @patched read rest next tree missing split derives stops other =>
      rw [parse_of_ok run rfl]
      refine .read split derives (Stage.next?_behindOperand_eq_none stops fun _ => other) ?_
      rw [ParseState.head_noting, ParseState.head_past, ParseState.head_start, Nat.zero_add]
      rfl
  | @stuck read rest next groups split stage literal opening sign =>
      have before := stage 0
      rw [Nat.zero_add] at before
      obtain ⟨resumed, resume⟩ :=
        exists_resume (end_ahead split atEnd (Stage.kind_ne_eof_of_after? before))
      rw [operandFault_start before] at run
      rw [parse_of_rejected run resume]
      refine .stuck split before ?_ resume rfl
      refine Stage.next?_beforeOperand_eq_none literal opening ?_ groups
      exact fun own => nomatch (sign own).1
  | exhausted noEnd =>
      obtain ⟨final, member, eof⟩ := atEnd
      exact absurd eof (noEnd final member)

theorem split_concat {tokens read rest : List Token} {final next : Token}
    (split : tokens ++ [final] = read ++ next :: rest) :
    tokens = read ∧ final = next ∨ ∃ more, tokens = read ++ next :: more := by
  rcases List.append_eq_append_iff.mp split with ⟨more, rfl, behind⟩ | ⟨more, rfl, behind⟩
  · cases more with
    | nil => exact .inl ⟨(List.append_nil tokens).symm, (List.cons.inj behind).1⟩
    | cons token more => simp at behind
  · cases more with
    | nil => exact .inl ⟨List.append_nil read, (List.cons.inj behind).1.symm⟩
    | cons token more =>
        obtain ⟨rfl, -⟩ := List.cons.inj behind
        exact .inr ⟨more, rfl⟩

theorem leftOver_eq_nil {token : Token} {head : Nat} :
    leftOver token head = [] ↔ token.kind = .eof := by
  rw [leftOver]
  split <;> simp_all

private theorem recovered_eq_nil {missing head : Nat} {token : Token} :
    recovered missing token head = [] ↔ missing = 0 ∧ token.kind = .eof := by
  rw [recovered, List.append_eq_nil_iff, List.replicate_eq_nil_iff, leftOver_eq_nil]

theorem at_token_of_mem_recovered {missing head : Nat} {token : Token} {error : ParseError}
    (member : error ∈ recovered missing token head) :
    error.token = token ∧ error.head = head ∧ error.resumedAt = none := by
  rcases List.mem_append.mp member with paren | last
  · obtain rfl := List.eq_of_mem_replicate paren
    exact ⟨rfl, rfl, rfl⟩
  · rw [leftOver] at last
    split at last
    · contradiction
    · obtain rfl := List.mem_singleton.mp last
      exact ⟨rfl, rfl, rfl⟩

theorem after?_of_completed {read : List Token} {tree : Expr} {missing : Nat}
    (derives : ∀ closing : List Token,
      closing.map Token.kind = List.replicate missing .rightParen →
        Derives .expression (read ++ closing) tree) :
    (Stage.beforeOperand 0).after? (read.map Token.kind) = some (.behindOperand missing) := by
  have parens : (List.replicate missing (tokenOf .rightParen)).map Token.kind =
      List.replicate missing .rightParen := List.map_replicate
  have stage := (derives _ parens).after?_of_closing parens 0
  rw [Nat.zero_add] at stage
  exact stage

/-- However reading ends, all errors stand at the first token that cannot go on. -/
theorem Ending.blocked {tokens : List Token} {result : Except ParseFailure Parsed}
    (run : Ending tokens result) :
    ∃ read next rest stage, tokens = read ++ next :: rest ∧
      (Stage.beforeOperand 0).after? (read.map Token.kind) = some stage ∧
      stage.next? next.kind = none ∧
      ∀ error ∈ reported result, error.token = next ∧ error.head = read.length := by
  cases run with
  | @read read rest next tree missing errors split derives stops noticed =>
      refine ⟨read, next, rest, _, split, after?_of_completed derives, stops, ?_⟩
      intro error member
      change error ∈ errors at member
      rw [noticed] at member
      obtain ⟨token, head, -⟩ := at_token_of_mem_recovered member
      exact ⟨token, head⟩
  | @stuck read rest next resumed groups error split stage stops resume noticed =>
      refine ⟨read, next, rest, _, split, stage, stops, ?_⟩
      intro other member
      obtain rfl := List.mem_singleton.mp member
      rw [noticed]
      exact ⟨rfl, rfl⟩

/-- Without errors the first token that cannot go on is the end, and all in front of it derives a
tree. -/
theorem Ending.derives {tokens : List Token} {result : Except ParseFailure Parsed}
    (run : Ending tokens result) (none : reported result = []) :
    ∃ read final rest tree, tokens = read ++ final :: rest ∧ final.kind = .eof ∧
      Derives .expression read tree ∧ result = .ok ⟨tree, []⟩ := by
  cases run with
  | @read read rest next tree missing errors split derives stops noticed =>
      change errors = [] at none
      subst none
      obtain ⟨rfl, eof⟩ := recovered_eq_nil.mp noticed.symm
      have derived := derives [] rfl
      rw [List.append_nil] at derived
      exact ⟨read, next, rest, tree, split, eof, derived, rfl⟩
  | stuck split stage stops resume noticed => contradiction

end Lox.Grammar
