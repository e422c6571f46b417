import Lox.Proofs.Grammar.Derivation
import Lox.Proofs.Grammar.Step

/-!
Whatever the grammar derives is read, and its tree is the one that comes out.

A production stops at the right place because the token behind what it derives does not continue it:
behind an operand that token is an operator of a looser level, or the end of the whole.
-/

set_option autoImplicit false
set_option relaxedAutoImplicit false

namespace Lox.Grammar

open Lox.Parser

/-- A parser gives the trees of a nonterminal, wherever at most so many tokens are ahead. -/
def Accepts (symbol : Nonterminal) (bound : Nat) (parser : Parser Expr) : Prop :=
  ∀ ⦃state : ParseState⦄ ⦃tokens rest : List Token⦄ ⦃tree : Expr⦄ ⦃next : Token⦄,
    Derives symbol tokens tree → state.ahead = tokens ++ next :: rest →
    state.ahead.length ≤ bound → next.kind ∉ symbol.continuing →
    parser state = .ok tree (state.past tokens (next :: rest))

section productions

variable {level : Level} {operand primary : Parser Expr} {bound : Nat}

private theorem follow_operand {more : List Continuation} {next : Token}
    (operators : ∀ later ∈ more, later.operator.kind ∈ level.operators)
    (follow : next.kind ∉ (Nonterminal.joined level).continuing) (rest : List Token) :
    ∃ first others, more.flatMap Continuation.text ++ next :: rest = first :: others ∧
      first.kind ∉ level.operand.continuing := by
  cases more with
  | nil => exact ⟨next, rest, rfl, fun inner => follow (mem_continuing_joined.mpr (.inr inner))⟩
  | cons later more =>
      exact ⟨later.operator, _, rfl,
        not_mem_continuing_operand (operators later List.mem_cons_self)⟩

private theorem accepts_chain (accepts : Accepts level.operand bound operand)
    {more : List Continuation} {steps : Nat} {left : Expr} {state : ParseState} {next : Token}
    {rest : List Token} (operators : ∀ later ∈ more, later.operator.kind ∈ level.operators)
    (operands : ∀ later ∈ more, Derives level.operand later.tokens later.operand)
    (split : state.ahead = more.flatMap Continuation.text ++ next :: rest)
    (small : state.ahead.length ≤ bound) (enough : state.ahead.length ≤ steps)
    (follow : next.kind ∉ (Nonterminal.joined level).continuing) :
    chain level.operators operand steps left state =
      .ok (more.foldl Continuation.join left)
        (state.past (more.flatMap Continuation.text) (next :: rest)) := by
  induction more generalizing steps left state with
  | nil =>
      have ahead : state.ahead = next :: rest := split
      rw [ahead, List.length_cons] at enough
      have other : next.kind ∉ level.operators :=
        fun own => follow (mem_continuing_joined.mpr (.inl own))
      rw [chain_of_not_mem ahead other (by omega)]
      exact congrArg _ (ParseState.past_nil ahead).symm
  | cons later more ih =>
      have laterOperators := fun other member => operators other (List.mem_cons_of_mem later member)
      -- The operand ends where the next continuation begins, or where the whole sequence does.
      obtain ⟨first, others, behind, noOperand⟩ := follow_operand laterOperators follow rest
      have ahead : state.ahead = later.operator :: (later.tokens ++ first :: others) := by
        rw [split, List.flatMap_cons, List.append_assoc, behind]
        rfl
      rw [ahead, List.length_cons] at small enough
      obtain ⟨steps, rfl⟩ : ∃ fewer, steps = fewer + 1 := ⟨steps - 1, by omega⟩
      have read := accepts (operands later List.mem_cons_self)
        (show (state.past [later.operator] (later.tokens ++ first :: others)).ahead = _ from rfl)
        (Nat.le_of_succ_le small) noOperand
      rw [chain_of_ok ahead (operators later List.mem_cons_self) Level.eof_not_mem_operators read]
      rw [List.length_append] at small enough
      rw [ih laterOperators (fun other member => operands other (.tail _ member)) behind.symm
        (by rw [ParseState.ahead_past]; omega) (by rw [ParseState.ahead_past]; omega),
        ParseState.past_past, ParseState.past_past]
      rfl

theorem Accepts.joined (accepts : Accepts level.operand bound operand) :
    Accepts (.joined level) bound (Parser.joined level.operators operand bound) := by
  intro state tokens rest tree next derives split small follow
  cases derives with
  | @joined _ front first more start operators operands =>
      obtain ⟨middle, others, behind, noOperand⟩ := follow_operand operators follow rest
      rw [List.append_assoc, behind] at split
      have begun := accepts start split small noOperand
      rw [split, List.length_append] at small
      rw [Parser.joined, bind_of_ok begun,
        accepts_chain accepts operators operands behind.symm
          (by rw [ParseState.ahead_past]; omega) (by rw [ParseState.ahead_past]; omega) follow,
        ParseState.past_past]

private theorem head_of_primary {tokens : List Token} {tree : Expr}
    (derives : Derives .primary tokens tree) :
    ∃ token rest, tokens = token :: rest ∧ token.kind ∉ signs := by
  cases derives with
  | @literal token kind =>
      exact ⟨token, [], rfl, fun sign => not_mem_literals sign kind⟩
  | @group opening closing content inner left right _ =>
      refine ⟨opening, content ++ [closing], rfl, ?_⟩
      rw [left]
      decide

theorem Accepts.unary (accepts : Accepts .primary bound primary) {steps : Nat}
    (enough : bound ≤ steps) : Accepts .unary bound (unaryOver primary steps) := by
  intro state tokens rest tree next derives split small follow
  replace enough := Nat.le_trans small enough
  induction steps generalizing state tokens tree with
  | zero =>
      rw [split, List.length_append, List.length_cons] at enough
      omega
  | succ steps ih =>
      cases derives with
      | @signed sign tokens operand kind content =>
          have ahead : state.ahead = sign :: (tokens ++ next :: rest) := split
          rw [ahead, List.length_cons] at small enough
          have read := @ih (state.past [sign] (tokens ++ next :: rest)) _ _ content rfl
            (by rw [ParseState.ahead_past]; omega) (by rw [ParseState.ahead_past]; omega)
          rw [unaryOver_of_ok ahead kind read, ParseState.past_past]
          rfl
      | bare only =>
          obtain ⟨token, others, rfl, kind⟩ := head_of_primary only
          rw [unaryOver_of_not_mem split kind]
          exact accepts only split small follow

theorem Accepts.equality (accepts : Accepts .primary bound primary) :
    Accepts .expression bound (equalityOver primary bound) := by
  have factor : Accepts .unary bound (unaryOver primary bound) :=
    accepts.unary (Nat.le_refl bound)
  have product : Accepts (.joined .multiplication) bound (multiplicationOver primary bound) :=
    Accepts.joined factor
  have sum : Accepts (.joined .addition) bound (additionOver primary bound) :=
    Accepts.joined product
  have order : Accepts (.joined .comparison) bound (comparisonOver primary bound) :=
    Accepts.joined sum
  exact Accepts.joined order

theorem accepts_primaryWithin (bound : Nat) : Accepts .primary bound (primaryWithin bound) := by
  induction bound with
  | zero =>
      intro state tokens rest tree next derives split small follow
      rw [split, List.length_append, List.length_cons] at small
      omega
  | succ bound ih =>
      intro state tokens rest tree next derives split small follow
      cases derives with
      | literal kind => exact primaryWithin_of_literal split kind
      | @group opening closing content inner left right derives =>
          have ahead : state.ahead = opening :: (content ++ closing :: next :: rest) := by
            simp [split]
          have stops : closing.kind ∉ Nonterminal.expression.continuing := by
            rw [right]
            decide
          have read := @Accepts.equality _ _ ih
            ((state.past [opening] (content ++ closing :: next :: rest)).within 1) _ _ _ _ derives rfl
            (by
              rw [ahead, List.length_cons] at small
              exact Nat.le_of_succ_le_succ small)
            stops
          rw [ParseState.within_past, ParseState.past_past] at read
          rw [primaryWithin_of_leftParen ahead left, group_of_rightParen read rfl right,
            ParseState.past_past]
          simp

end productions

end Lox.Grammar
