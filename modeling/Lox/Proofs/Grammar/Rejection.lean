import Mathlib.Control.Monad.Basic
import Lox.Proofs.Grammar.Ending

/-!
Reading that stops at a missing operand: what is reported, and where reading could resume.

The end of the text inside a group is reported as a missing parenthesis, and every other token that
begins no operand as a missing expression. Reading resumes at the end, or right behind the first
token from the error on with which a statement starts, whichever comes first.
-/

set_option autoImplicit false
set_option relaxedAutoImplicit false

namespace Lox.Grammar

open Lox.Parser

def countBefore (kind : Kind) (tokens : List Token) (index : Nat) : Nat :=
  ((tokens.take index).map Token.kind).count kind

def statementKinds : List Kind :=
  [.classWord, .funWord, .varWord, .forWord, .ifWord, .whileWord, .printWord, .returnWord]

/-- Reading can resume at the end of the text, and right behind the start of a statement. -/
def CanResume (tokens : List Token) (index : Nat) : Prop :=
  (∃ token, tokens[index]? = some token ∧ token.kind = .eof) ∨
    ∃ before keyword, index = before + 1 ∧ tokens[before]? = some keyword ∧
      keyword.kind ∈ statementKinds

section problem

variable {read rest : List Token} {next last : Token} {groups : Nat}

private theorem countBefore_length (kind : Kind) (read rest : List Token) :
    countBefore kind (read ++ rest) read.length = (read.map Token.kind).count kind := by
  rw [countBefore, List.take_left]

private theorem countBefore_of_beforeOperand
    (stage : (Stage.beforeOperand 0).after? (read.map Token.kind) = some (.beforeOperand groups))
    (rest : List Token) :
    countBefore .leftParen (read ++ rest) read.length =
      countBefore .rightParen (read ++ rest) read.length + groups := by
  have balance := Stage.groups_of_after? stage
  simp only [Stage.groups] at balance
  rw [countBefore_length, countBefore_length]
  omega

private theorem exists_last_of_inside
    (stage : (Stage.beforeOperand 0).after? (read.map Token.kind) = some (.beforeOperand groups))
    (inside : 0 < groups) : ∃ front last, read = front ++ [last] := by
  rcases List.eq_nil_or_concat read with rfl | ⟨front, last, rfl⟩
  · -- Nothing opens a group in front of the first token.
    obtain ⟨⟩ := Stage.beforeOperand.inj (Option.some.inj stage)
    exact absurd inside (Nat.lt_irrefl 0)
  · exact ⟨front, last, List.concat_eq_append⟩

private theorem operandProblem_of_inside (eof : next.kind = .eof) (inside : 0 < groups) :
    operandProblem (some last) groups next =
      if last.kind = .leftParen then .unclosedGroup else .expectedRightParen groupContent := by
  rw [operandProblem, if_pos ⟨eof, inside⟩]
  simp

private theorem operandProblem_of_outside (other : next.kind ≠ .eof ∨ groups = 0)
    (last : Option Token) : operandProblem last groups next = .expectedExpression primaryKinds := by
  apply if_neg
  rintro ⟨eof, inside⟩
  rcases other with inner | none
  · exact inner eof
  · omega

end problem

section resumption

variable {tokens : List Token} {previous resumed : Token}

private theorem startsStatement_iff {kind : Kind} :
    kind.startsStatement = true ↔ kind ∈ statementKinds := by
  cases kind <;> decide

private theorem canResume_append (front tokens : List Token) (index : Nat) :
    CanResume (front ++ tokens) (front.length + (index + 1)) ↔ CanResume tokens (index + 1) := by
  have behind (place : Nat) : (front ++ tokens)[front.length + place]? = tokens[place]? := by
    rw [List.getElem?_append_right (Nat.le_add_right _ _), Nat.add_sub_cancel_left]
  have same : (∃ before keyword, front.length + (index + 1) = before + 1 ∧
      (front ++ tokens)[before]? = some keyword ∧ keyword.kind ∈ statementKinds) ↔
        ∃ before keyword, index + 1 = before + 1 ∧ tokens[before]? = some keyword ∧
          keyword.kind ∈ statementKinds := by
    constructor
    · rintro ⟨before, keyword, place, found, starts⟩
      obtain rfl : before = front.length + index := by omega
      rw [behind] at found
      exact ⟨index, keyword, rfl, found, starts⟩
    · rintro ⟨before, keyword, place, found, starts⟩
      obtain rfl : before = index := by omega
      rw [← behind] at found
      exact ⟨front.length + before, keyword, rfl, found, starts⟩
  rw [CanResume, CanResume, behind, same]

private theorem canResume_cons_cons (previous token : Token) (tokens : List Token) :
    CanResume (previous :: token :: tokens) 1 ↔
      token.kind = .eof ∨ previous.kind.startsStatement = true := by
  rw [startsStatement_iff]
  constructor
  · rintro (⟨other, found, eof⟩ | ⟨before, keyword, place, found, starts⟩)
    · obtain rfl := Option.some.inj found
      exact .inl eof
    · obtain rfl : before = 0 := by omega
      obtain rfl := Option.some.inj found
      exact .inr starts
  · rintro (eof | starts)
    · exact .inl ⟨token, rfl, eof⟩
    · exact .inr ⟨0, previous, rfl, rfl, starts⟩

private theorem exists_first_of_resumeBehind?
    (found : resumeBehind? previous tokens = some resumed) :
    ∃ index, tokens[index]? = some resumed ∧ CanResume (previous :: tokens) (index + 1) ∧
      ∀ earlier < index, ¬ CanResume (previous :: tokens) (earlier + 1) := by
  induction tokens generalizing previous with
  | nil => contradiction
  | cons token tokens ih =>
      rw [resumeBehind?] at found
      split at found
      · rename_i here
        refine ⟨0, found, (canResume_cons_cons previous token tokens).mpr here, ?_⟩
        intro earlier less
        omega
      · rename_i goOn
        obtain ⟨index, at_index, resumes, first⟩ := ih found
        have shift := canResume_append [previous] (token :: tokens)
        refine ⟨index + 1, at_index, ?_, ?_⟩
        · have moved := (shift index).mpr resumes
          rwa [List.length_singleton, Nat.add_comm 1] at moved
        · intro earlier less before
          cases earlier with
          | zero => exact goOn ((canResume_cons_cons previous token tokens).mp before)
          | succ earlier =>
              apply first earlier (by omega)
              apply (shift earlier).mp
              rwa [List.length_singleton, Nat.add_comm 1]

private theorem not_canResume_append {index : Nat} (front : List Token)
    (first : ∀ earlier < index, ¬ CanResume tokens (earlier + 1)) :
    ∀ earlier, front.length < earlier → earlier < front.length + (index + 1) →
      ¬ CanResume (front ++ tokens) earlier := by
  intro earlier behind less
  obtain ⟨place, rfl⟩ : ∃ place, earlier = front.length + (place + 1) :=
    ⟨earlier - (front.length + 1), by omega⟩
  rw [canResume_append]
  exact first place (by omega)

private theorem kind_ne_eof_of_first {read rest : List Token} {next : Token} {index : Nat}
    (inside : ∀ token ∈ read, token.kind ≠ .eof) (other : next.kind ≠ .eof)
    (first : ∀ earlier, read.length < earlier → earlier < index →
      ¬ CanResume (read ++ next :: rest) earlier) :
    ∀ earlier < index, ∀ token, (read ++ next :: rest)[earlier]? = some token →
      token.kind ≠ .eof := by
  intro earlier less token found eof
  rcases Nat.lt_trichotomy earlier read.length with before | rfl | behind
  · rw [List.getElem?_append_left before] at found
    exact inside token (List.mem_of_getElem? found) eof
  · obtain rfl : next = token := by simpa using found
    exact other eof
  · exact first earlier behind less (.inl ⟨token, found, eof⟩)

end resumption

/-- What is reported at a missing operand. Where the text ends inside a group, the missing
parenthesis is, and it makes a difference whether the group is empty; everywhere else the kinds are
named with which an operand could begin. Never are more groups closed than opened in front of the
error. -/
theorem problem_of_rejected {tokens : List Token} {error : ParseError}
    (atEnd : ∃ token ∈ tokens, token.kind = .eof)
    (rejected : parse tokens = .error (.rejected [error])) :
    tokens[error.head]? = some error.token ∧
      countBefore .rightParen tokens error.head ≤ countBefore .leftParen tokens error.head ∧
      (error.token.kind = .eof →
        countBefore .rightParen tokens error.head < countBefore .leftParen tokens error.head →
          ∃ before last, error.head = before + 1 ∧ tokens[before]? = some last ∧
            error.problem =
              if last.kind = .leftParen then .unclosedGroup
              else .expectedRightParen "expression".toList) ∧
      (error.token.kind ≠ .eof ∨
        countBefore .rightParen tokens error.head = countBefore .leftParen tokens error.head →
          error.problem = .expectedExpression
            [.falseWord, .trueWord, .nilWord, .string, .number, .leftParen]) := by
  have run := ending atEnd
  rw [rejected] at run
  cases run with
  | @stuck read rest next resumed groups _ split stage stops resume noticed =>
      subst noticed split
      have balance := countBefore_of_beforeOperand stage (next :: rest)
      dsimp only
      refine ⟨by simp, by omega, ?_, ?_⟩
      · intro eof unbalanced
        have inside : 0 < groups := by omega
        obtain ⟨front, last, rfl⟩ := exists_last_of_inside stage inside
        refine ⟨front.length, last, by simp, by simp, ?_⟩
        rw [List.getLast?_concat, operandProblem_of_inside eof inside]
        rfl
      · intro other
        apply operandProblem_of_outside
        rcases other with inner | balanced
        · exact .inl inner
        · exact .inr (by omega)

/-- The tokens of `((1) + (-`, where the text ends inside one of the groups that were opened. -/
def openNegation : List Token :=
  [.leftParen, .leftParen, .number, .rightParen, .plus, .leftParen, .minus, .eof].map tokenOf

theorem problem_of_rejected_openNegation :
    ∃ error, parse openNegation = .error (.rejected [error]) ∧
      error.problem = .expectedRightParen "expression".toList := by
  have atEnd : ∃ token ∈ openNegation, token.kind = .eof := by decide
  have rejected : parse openNegation = .error (.rejected
      [⟨.expectedRightParen "expression".toList, tokenOf .eof, 7, some (tokenOf .eof)⟩]) := by
    decide +kernel
  refine ⟨_, rejected, ?_⟩
  obtain ⟨-, -, inside, -⟩ := problem_of_rejected atEnd rejected
  obtain ⟨before, last, place, found, problem⟩ := inside rfl (by decide)
  obtain rfl : before = 6 := by
    have := Nat.succ.inj place
    omega
  obtain rfl := Option.some.inj found
  exact problem

/-- Where reading resumes after a missing operand: at the token of the error if that is the end, and
else at the first token behind it that is the end or follows the start of a statement. The text has
not ended before. -/
theorem resumption_of_rejected {tokens : List Token} {error : ParseError}
    (atEnd : ∃ token ∈ tokens, token.kind = .eof)
    (rejected : parse tokens = .error (.rejected [error])) :
    ∃ index resumed, tokens[error.head]? = some error.token ∧ tokens[index]? = some resumed ∧
      error.resumedAt = some resumed ∧
      (error.token.kind = .eof → index = error.head) ∧
      (error.token.kind ≠ .eof → error.head < index ∧ CanResume tokens index ∧
        ∀ earlier, error.head < earlier → earlier < index → ¬ CanResume tokens earlier) ∧
      ∀ earlier < index, ∀ token, tokens[earlier]? = some token → token.kind ≠ .eof := by
  have run := ending atEnd
  rw [rejected] at run
  cases run with
  | @stuck read rest next resumed groups _ split stage stops resume noticed =>
      subst noticed split
      have inside := Stage.kind_ne_eof_of_after? stage
      have here : (read ++ next :: rest)[read.length]? = some next := by simp
      dsimp only
      rw [resume?] at resume
      split at resume
      · rename_i eof
        obtain rfl := Option.some.inj resume
        refine ⟨read.length, next, here, here, rfl, fun _ => rfl, fun other => absurd eof other, ?_⟩
        intro earlier less token found
        rw [List.getElem?_append_left less] at found
        exact inside token (List.mem_of_getElem? found)
      · rename_i other
        obtain ⟨index, found, resumes, first⟩ := exists_first_of_resumeBehind? resume
        have behind : read.length < read.length + (index + 1) := by omega
        have least := not_canResume_append read first
        refine ⟨read.length + (index + 1), resumed, here, ?_, rfl, fun eof => absurd eof other,
          fun _ => ⟨behind, (canResume_append _ _ index).mpr resumes, least⟩,
          kind_ne_eof_of_first inside other least⟩
        rw [List.getElem?_append_right (Nat.le_add_right _ _), Nat.add_sub_cancel_left]
        exact found

/-- The tokens of `1 + var x = 1`, where a statement starts at the error itself. -/
def keywordOperand : List Token :=
  [.number, .plus, .varWord, .identifier, .equal, .number, .eof].map tokenOf

theorem resumption_of_rejected_keywordOperand :
    ∃ error, parse keywordOperand = .error (.rejected [error]) ∧ error.head = 2 ∧
      error.resumedAt = keywordOperand[3]? := by
  have atEnd : ∃ token ∈ keywordOperand, token.kind = .eof := by decide
  have rejected : parse keywordOperand = .error (.rejected [⟨.expectedExpression primaryKinds,
      tokenOf .varWord, 2, some (tokenOf .identifier)⟩]) := by
    decide +kernel
  refine ⟨_, rejected, rfl, ?_⟩
  obtain ⟨index, resumed, -, found, same, -, behind, -⟩ := resumption_of_rejected atEnd rejected
  obtain ⟨after, -, first⟩ := behind (by decide)
  have keyword : CanResume keywordOperand 3 :=
    .inr ⟨2, tokenOf .varWord, rfl, rfl, by decide⟩
  have last : ¬ 3 < index := fun less => first 3 (by decide) less keyword
  obtain rfl : index = 3 := by
    have : 2 < index := after
    omega
  rw [same, found]

end Lox.Grammar
