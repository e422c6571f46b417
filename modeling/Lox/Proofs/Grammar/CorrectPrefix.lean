import Lox.Proofs.Grammar.Ending

/-!
The first error stands at the first token with which no sentence can go on.

Sentences are the kinds that lead to an operand outside all groups. What leads to any stage can be
completed to a sentence, and a kind that leads nowhere ends no prefix of one.
-/

set_option autoImplicit false
set_option relaxedAutoImplicit false

namespace Lox.Grammar

/-- Kinds that complete a sentence: an operand if one is missing, and the open groups closed. -/
def Stage.completion : Stage → List Kind
  | beforeOperand groups => .number :: List.replicate groups .rightParen
  | behindOperand groups => List.replicate groups .rightParen

private theorem Stage.after?_replicate_rightParen (groups : Nat) :
    (behindOperand groups).after? (List.replicate groups .rightParen) =
      some (behindOperand 0) := by
  induction groups with
  | zero => rfl
  | succ groups ih =>
      rw [List.replicate_succ, after?_cons, next?_rightParen, Option.bind_some]
      exact ih

private theorem Stage.after?_completion (stage : Stage) :
    stage.after? stage.completion = some (behindOperand 0) := by
  cases stage with
  | beforeOperand groups =>
      have literal : Kind.number ∈ literals := by decide
      rw [completion, after?_cons, next?_literal literal, Option.bind_some]
      exact after?_replicate_rightParen groups
  | behindOperand groups => exact after?_replicate_rightParen groups

private theorem map_kind_tokenOf (kinds : List Kind) :
    (kinds.map tokenOf).map Token.kind = kinds := by
  rw [List.map_map]
  exact List.map_id' kinds

private theorem eq_of_after? {tokens read rest : List Token} {final next : Token}
    {last stage : Stage} (split : tokens ++ [final] = read ++ next :: rest)
    (reached : (Stage.beforeOperand 0).after? (tokens.map Token.kind) = some last)
    (before : (Stage.beforeOperand 0).after? (read.map Token.kind) = some stage)
    (stops : stage.next? next.kind = none) : tokens = read := by
  rcases split_concat split with ⟨same, -⟩ | ⟨more, rfl⟩
  · exact same
  · rw [List.map_append, List.map_cons, Stage.after?_append_of_stops before stops] at reached
    contradiction

private theorem exists_derives_of_after? {tokens : List Token}
    (reached : (Stage.beforeOperand 0).after? (tokens.map Token.kind) =
      some (.behindOperand 0)) : ∃ tree, Derives .expression tokens tree := by
  -- With an end put behind them, the tokens are read in one of the ways of ending.
  have run : Ending (tokens ++ [tokenOf .eof]) _ := ending ⟨tokenOf .eof, by simp, rfl⟩
  generalize parse (tokens ++ [tokenOf .eof]) = result at run
  cases run with
  | @read read rest next tree missing errors split derives stops noticed =>
      have before := after?_of_completed derives
      obtain rfl := eq_of_after? split reached before stops
      rw [before] at reached
      obtain rfl : missing = 0 := Stage.behindOperand.inj (Option.some.inj reached)
      have derived := derives [] rfl
      rw [List.append_nil] at derived
      exact ⟨tree, derived⟩
  | stuck split before stops resume noticed =>
      obtain rfl := eq_of_after? split reached before stops
      rw [before] at reached
      exact nomatch Option.some.inj reached

/-- The sentences are the kinds that lead to an operand outside all groups. -/
theorem sentence_iff_after? {kinds : List Kind} :
    Sentence kinds ↔ (Stage.beforeOperand 0).after? kinds = some (.behindOperand 0) := by
  constructor
  · rintro ⟨tokens, tree, rfl, derives⟩
    exact derives.after? 0
  · intro reached
    rw [← map_kind_tokenOf kinds] at reached
    obtain ⟨tree, derives⟩ := exists_derives_of_after? reached
    exact ⟨kinds.map tokenOf, tree, map_kind_tokenOf kinds, derives⟩

theorem sentence_map_kind_iff {tokens : List Token} :
    Sentence (tokens.map Token.kind) ↔ ∃ tree, Derives .expression tokens tree := by
  constructor
  · intro sentence
    exact exists_derives_of_after? (sentence_iff_after?.mp sentence)
  · rintro ⟨tree, derives⟩
    exact ⟨tokens, tree, rfl, derives⟩

/-- Kinds that lead to some stage can be completed to a sentence. -/
theorem exists_sentence_append {kinds : List Kind} {stage : Stage}
    (reached : (Stage.beforeOperand 0).after? kinds = some stage) :
    ∃ completion, Sentence (kinds ++ completion) := by
  refine ⟨stage.completion, sentence_iff_after?.mpr ?_⟩
  rw [Stage.after?_append_of_eq_some reached]
  exact stage.after?_completion

theorem not_sentence_append {kinds : List Kind} {kind : Kind} {stage : Stage}
    (reached : (Stage.beforeOperand 0).after? kinds = some stage)
    (stops : stage.next? kind = none) (completion : List Kind) :
    ¬ Sentence (kinds ++ kind :: completion) := by
  intro sentence
  have whole := sentence_iff_after?.mp sentence
  rw [Stage.after?_append_of_stops reached stops] at whole
  contradiction

/-- Tokens that form no sentence have a first error, and what stands in front of it can be completed
to a sentence: either not together with the token of the error, or that token is the end. -/
theorem first_error_of_not_sentence {tokens : List Token} {final : Token}
    (inside : ∀ token ∈ tokens, token.kind ≠ .eof) (atEnd : final.kind = .eof)
    (wrong : ¬ Sentence (tokens.map Token.kind)) :
    ∃ error others, reported (parse (tokens ++ [final])) = error :: others ∧
      (∃ completion, Sentence ((tokens.take error.head).map Token.kind ++ completion)) ∧
      (error.head < tokens.length ∧
          (∀ completion,
            ¬ Sentence ((tokens.take (error.head + 1)).map Token.kind ++ completion)) ∨
        error.head = tokens.length ∧ error.token = final) := by
  have run : Ending (tokens ++ [final]) _ := ending ⟨final, by simp, atEnd⟩
  cases errors : reported (parse (tokens ++ [final])) with
  | nil =>
      obtain ⟨read, next, rest, tree, split, eof, derives, -⟩ := run.derives errors
      rcases split_concat split with ⟨rfl, -⟩ | ⟨more, rfl⟩
      · exact absurd ⟨tokens, tree, rfl, derives⟩ wrong
      · exact absurd eof (inside next (by simp))
  | cons error others =>
      obtain ⟨read, next, rest, stage, split, before, stops, located⟩ := run.blocked
      obtain ⟨token, head⟩ := located error (errors ▸ List.mem_cons_self)
      refine ⟨error, others, rfl, ?_⟩
      rw [head]
      rcases split_concat split with ⟨rfl, rfl⟩ | ⟨more, rfl⟩
      · refine ⟨?_, .inr ⟨rfl, token⟩⟩
        rw [List.take_length]
        exact exists_sentence_append before
      · refine ⟨?_, .inl ⟨by simp, ?_⟩⟩
        · rw [List.take_left]
          exact exists_sentence_append before
        · intro completion
          rw [List.take_length_add_append, List.take_succ_cons, List.take_zero, List.map_append,
            List.map_singleton, List.append_assoc, List.singleton_append]
          exact not_sentence_append before stops completion

/-- The tokens of `1 + )`, which go wrong at the last one. -/
def danglingOperator : List Token := [.number, .plus, .rightParen].map tokenOf

theorem first_error_of_danglingOperator :
    (∀ token ∈ danglingOperator, token.kind ≠ .eof) ∧
      ¬ Sentence (danglingOperator.map Token.kind) ∧
      (∃ completion, Sentence ([.number, .plus] ++ completion)) ∧
      ∀ completion, ¬ Sentence ([.number, .plus, .rightParen] ++ completion) := by
  have inside : ∀ token ∈ danglingOperator, token.kind ≠ .eof := by decide
  have wrong : ¬ Sentence (danglingOperator.map Token.kind) := by
    rw [sentence_iff_after?]
    decide
  have atEnd : (tokenOf .eof).kind = .eof := rfl
  have errors : (reported (parse (danglingOperator ++ [tokenOf .eof]))).map ParseError.head =
      [2] := by decide +kernel
  obtain ⟨error, others, first, before, after⟩ := first_error_of_not_sentence inside atEnd wrong
  rw [first, List.map_cons] at errors
  obtain ⟨head, -⟩ := List.cons.inj errors
  rw [head] at before after
  refine ⟨inside, wrong, before, ?_⟩
  rcases after with ⟨-, never⟩ | ⟨behind, -⟩
  · exact never
  · contradiction

end Lox.Grammar
