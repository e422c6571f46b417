import Lox.Proofs.Grammar.Stage
import Lox.Proofs.Grammar.Step

/-!
Everything a production can do, at any state.

It reads what its nonterminal derives; or it reads what some closing parentheses would complete, and
records one error for each; or it stops where an operand is missing; or it runs out of tokens. In
the second case the next token closes and continues nothing, so that nothing more is read until the
outermost production returns.
-/

set_option autoImplicit false
set_option relaxedAutoImplicit false

namespace Lox.Grammar

open Lox.Parser

/-- What a production for some nonterminal makes of a state. -/
inductive Outcome (symbol : Nonterminal) (state : ParseState) :
    EStateM.Result Fault ParseState Expr → Prop
  | read {read rest : List Token} {tree : Expr}
      (split : state.ahead = read ++ rest) (derives : Derives symbol read tree)
      (stops : ∀ next ∈ rest.head?, next.kind ∉ symbol.continuing) :
      Outcome symbol state (.ok tree (state.past read rest))
  | patched {read rest : List Token} {next : Token} {tree : Expr} {missing : Nat}
      (split : state.ahead = read ++ next :: rest)
      (derives : ∀ closing : List Token,
        closing.map Token.kind = List.replicate (missing + 1) .rightParen →
          Derives symbol (read ++ closing) tree)
      (stops : next.kind ∉ binaryOperators) (other : next.kind ≠ .rightParen) :
      Outcome symbol state (.ok tree ((state.past read (next :: rest)).noting
        (List.replicate (missing + 1) (missingParen next (state.head + read.length)))))
  | stuck {read rest : List Token} {next : Token} {groups : Nat}
      (split : state.ahead = read ++ next :: rest)
      (stage : ∀ outer, (Stage.beforeOperand outer).after? (read.map Token.kind) =
        some (.beforeOperand (outer + groups)))
      (literal : next.kind ∉ literals) (opening : next.kind ≠ .leftParen)
      (sign : next.kind ∈ signs → symbol = .primary ∧ read = []) :
      Outcome symbol state
        (.error (operandFault ((state.past read (next :: rest)).within groups) next)
          (state.past read (next :: rest)))
  | exhausted (noEnd : ∀ token ∈ state.ahead, token.kind ≠ .eof) :
      Outcome symbol state (.error (.internal (state.past state.ahead []).outOfTokens)
        (state.past state.ahead []))

/-- A parser does what a nonterminal asks for wherever at most so many tokens are ahead. -/
def Reads (symbol : Nonterminal) (bound : Nat) (parser : Parser Expr) : Prop :=
  ∀ state : ParseState, state.ahead.length ≤ bound → Outcome symbol state (parser state)

namespace Outcome

theorem ended {symbol : Nonterminal} {state : ParseState} {read : List Token}
    (split : state.ahead = read) (noEnd : ∀ token ∈ read, token.kind ≠ .eof) :
    Outcome symbol state (.error (.internal (state.past read []).outOfTokens)
      (state.past read [])) := by
  subst split
  exact .exhausted noEnd

private theorem ended_at {symbol : Nonterminal} {state : ParseState} (none : state.ahead = []) :
    Outcome symbol state (.error (.internal state.outOfTokens) state) := by
  have outcome : Outcome symbol state _ := .ended none (fun _ => False.elim ∘ List.not_mem_nil)
  rwa [ParseState.past_nil none] at outcome

private theorem error_past {symbol inner : Nonterminal} {state later : ParseState}
    {front rest : List Token} {fault : Fault} (compound : inner ≠ .primary)
    (split : state.ahead = front ++ rest)
    (stage : ∀ outer, (Stage.beforeOperand outer).after? (front.map Token.kind) =
      some (.beforeOperand outer))
    (outcome : Outcome inner (state.past front rest) (.error fault later)) :
    Outcome symbol state (.error fault later) := by
  cases outcome with
  | @stuck read rest' next groups split' stage' literal opening sign =>
      rw [ParseState.past_past]
      refine .stuck ?_ ?_ literal opening (fun own => absurd (sign own).1 compound)
      · rw [split, show rest = _ from split', List.append_assoc]
      · intro outer
        rw [List.map_append, Stage.after?_append_of_eq_some (stage outer), stage' outer]
  | exhausted noEnd =>
      rw [ParseState.past_past]
      refine .ended split ?_
      intro token member
      rcases List.mem_append.mp member with before | behind
      · exact Stage.kind_ne_eof_of_after? (stage 0) token before
      · exact noEnd token behind

private theorem patched_past {symbol : Nonterminal} {state : ParseState}
    {front read rest : List Token} {next : Token} {tree : Expr} {missing : Nat}
    (split : state.ahead = front ++ (read ++ next :: rest))
    (derives : ∀ closing : List Token,
      closing.map Token.kind = List.replicate (missing + 1) .rightParen →
        Derives symbol (front ++ read ++ closing) tree)
    (stops : next.kind ∉ binaryOperators) (other : next.kind ≠ .rightParen) :
    Outcome symbol state (.ok tree
      (((state.past front (read ++ next :: rest)).past read (next :: rest)).noting
        (List.replicate (missing + 1) (missingParen next
          ((state.past front (read ++ next :: rest)).head + read.length))))) := by
  have position : (state.past front (read ++ next :: rest)).head + read.length =
      state.head + (front ++ read).length := by
    rw [ParseState.head_past, List.length_append, Nat.add_assoc]
  rw [ParseState.past_past, position]
  exact .patched (by rw [split, List.append_assoc]) derives stops other

theorem signed {state later : ParseState} {sign : Token} {rest : List Token} {operand : Expr}
    (ahead : state.ahead = sign :: rest) (own : sign.kind ∈ signs)
    (outcome : Outcome .unary (state.past [sign] rest) (.ok operand later)) :
    Outcome .unary state (.ok (.unary sign operand) later) := by
  cases outcome with
  | @read read rest' _ inside derives stops =>
      obtain rfl : rest = read ++ rest' := inside
      rw [ParseState.past_past]
      exact .read ahead (.signed own derives) stops
  | @patched read rest' next _ missing inside derives stops other =>
      obtain rfl : rest = read ++ next :: rest' := inside
      have signed := fun closing parens => Derives.signed own (derives closing parens)
      exact .patched_past ahead signed stops other

theorem bare {state : ParseState} {token : Token} {rest : List Token}
    {result : EStateM.Result Fault ParseState Expr} (ahead : state.ahead = token :: rest)
    (other : token.kind ∉ signs) (outcome : Outcome .primary state result) :
    Outcome .unary state result := by
  cases outcome with
  | read split derives stops => exact .read split (.bare derives) stops
  | patched split derives stops other =>
      exact .patched split (fun closing parens => .bare (derives closing parens)) stops other
  | @stuck read rest' next groups split stage literal opening sign =>
      -- A sign can stop a primary expression only at its start, and none stands there.
      refine .stuck split stage literal opening ?_
      intro member
      obtain ⟨-, rfl⟩ := sign member
      obtain ⟨rfl, -⟩ := List.cons.inj (ahead.symm.trans split)
      exact absurd member other
  | exhausted noEnd => exact .exhausted noEnd

end Outcome

private theorem Level.operand_ne_primary {level : Level} : level.operand ≠ .primary := by
  cases level <;> decide

section productions

variable {level : Level} {operand primary : Parser Expr} {bound : Nat}

/-- The loop over the operators of a level. What was read before is its invariant: it is derived,
and the next token does not continue its last operand. -/
private theorem reads_chain (reads : Reads level.operand bound operand) {state : ParseState}
    {steps : Nat} {left : Expr} {front rest : List Token} (split : state.ahead = front ++ rest)
    (before : Derives (.joined level) front left)
    (stops : ∀ next ∈ rest.head?, next.kind ∉ level.operand.continuing)
    (small : rest.length ≤ bound) (enough : rest.length ≤ steps) :
    Outcome (.joined level) state
      (chain level.operators operand steps left (state.past front rest)) := by
  induction steps generalizing left front rest with
  | zero =>
      obtain rfl := List.eq_nil_of_length_eq_zero (Nat.le_zero.mp enough)
      rw [chain_of_nil rfl]
      exact .ended (by simpa using split) before.kind_ne_eof
  | succ steps ih =>
      cases rest with
      | nil =>
          rw [chain_of_nil rfl]
          exact .ended (by simpa using split) before.kind_ne_eof
      | cons operator rest =>
          simp only [List.length_cons] at small enough
          by_cases own : operator.kind ∈ level.operators
          · have proper : .eof ∉ level.operators := Level.eof_not_mem_operators
            have split' : state.ahead = (front ++ [operator]) ++ rest := by simp [split]
            have outcome := reads (state.past (front ++ [operator]) rest) (by
              rw [ParseState.ahead_past]
              omega)
            generalize run : operand (state.past (front ++ [operator]) rest) = result at outcome
            rw [← ParseState.past_past state front [operator] (operator :: rest)] at run
            cases result with
            | error fault later =>
                rw [chain_of_error rfl own proper run]
                refine .error_past Level.operand_ne_primary split' ?_ outcome
                intro outer
                rw [List.map_append, Stage.after?_append_of_eq_some (before.after? outer),
                  List.map_singleton, Stage.after?_singleton]
                exact Stage.next?_operator (Level.operators_subset own) outer
            | ok right later =>
                rw [chain_of_ok rfl own proper run]
                cases outcome with
                | @read read rest' _ inside derives stops' =>
                    obtain rfl : rest = read ++ rest' := inside
                    rw [ParseState.past_past]
                    rw [List.length_append] at small enough
                    exact ih (split'.trans (List.append_assoc ..).symm)
                      (before.extend own derives) stops' (by omega) (by omega)
                | @patched read rest' next _ missing inside derives stops' other =>
                    -- Where a group was left open no operator stands, so that the loop ends there.
                    obtain rfl : rest = read ++ next :: rest' := inside
                    have ignored : next.kind ∉ level.operators :=
                      fun member => stops' (Level.operators_subset member)
                    rw [List.length_append, List.length_cons] at enough
                    rw [chain_of_not_mem rfl ignored (by omega)]
                    refine .patched_past split' ?_ stops' other
                    intro closing parens
                    rw [List.append_assoc]
                    exact before.extend own (derives closing parens)
          · rw [chain_of_not_mem rfl own (Nat.succ_pos steps)]
            refine .read split before ?_
            intro next first
            obtain rfl := Option.some.inj first
            rw [mem_continuing_joined]
            exact not_or.mpr ⟨own, stops operator rfl⟩

theorem Reads.joined (reads : Reads level.operand bound operand) :
    Reads (.joined level) bound (Parser.joined level.operators operand bound) := by
  intro state small
  have outcome := reads state small
  generalize run : operand state = result at outcome
  cases result with
  | error fault later =>
      rw [Parser.joined, bind_of_error run]
      exact .error_past Level.operand_ne_primary (List.nil_append _).symm (fun _ => rfl) outcome
  | ok first later =>
      rw [Parser.joined, bind_of_ok run]
      cases outcome with
      | @read read rest _ split derives stops =>
          rw [split, List.length_append] at small
          exact reads_chain reads split derives.single stops (by omega) (by omega)
      | @patched read rest next _ missing split derives stops other =>
          have ignored : next.kind ∉ level.operators :=
            fun member => stops (Level.operators_subset member)
          rw [split, List.length_append, List.length_cons] at small
          rw [chain_of_not_mem rfl ignored (by omega)]
          exact .patched split (fun closing parens => (derives closing parens).single) stops other

theorem Reads.unary (reads : Reads .primary bound primary) {steps : Nat} (enough : bound ≤ steps) :
    Reads .unary bound (unaryOver primary steps) := by
  intro state small
  replace enough := Nat.le_trans small enough
  induction steps generalizing state with
  | zero =>
      have none := List.eq_nil_of_length_eq_zero (Nat.le_zero.mp enough)
      rw [unaryOver_of_nil none]
      exact .ended_at none
  | succ steps ih =>
      cases ahead : state.ahead with
      | nil =>
          rw [unaryOver_of_nil ahead]
          exact .ended_at ahead
      | cons sign rest =>
          rw [ahead, List.length_cons] at small enough
          by_cases own : sign.kind ∈ unaryKinds
          · have outcome := ih (state.past [sign] rest) (by rw [ParseState.ahead_past]; omega)
              (by rw [ParseState.ahead_past]; omega)
            generalize run : unaryOver primary steps (state.past [sign] rest) = result at outcome
            cases result with
            | error fault later =>
                rw [unaryOver_of_error ahead own run]
                refine .error_past Nonterminal.noConfusion ahead ?_ outcome
                intro outer
                rw [List.map_singleton, Stage.after?_singleton, Stage.next?_sign own]
            | ok operand later =>
                rw [unaryOver_of_ok ahead own run]
                exact outcome.signed ahead own
          · rw [unaryOver_of_not_mem ahead own]
            have outcome := reads state (by rw [ahead, List.length_cons]; omega)
            exact outcome.bare ahead own

theorem Reads.multiplication (reads : Reads .primary bound primary) :
    Reads (.joined .multiplication) bound (multiplicationOver primary bound) :=
  Reads.joined (reads.unary (Nat.le_refl bound))

theorem Reads.addition (reads : Reads .primary bound primary) :
    Reads (.joined .addition) bound (additionOver primary bound) :=
  Reads.joined reads.multiplication

theorem Reads.comparison (reads : Reads .primary bound primary) :
    Reads (.joined .comparison) bound (comparisonOver primary bound) :=
  Reads.joined reads.addition

theorem Reads.equality (reads : Reads .primary bound primary) :
    Reads .expression bound (equalityOver primary bound) :=
  Reads.joined reads.comparison

private theorem closing_concat {closing : List Token} {missing : Nat}
    (parens : closing.map Token.kind = List.replicate (missing + 1) .rightParen) :
    ∃ front last, closing = front ++ [last] ∧
      front.map Token.kind = List.replicate missing .rightParen ∧ last.kind = .rightParen := by
  rw [List.replicate_succ', List.map_eq_append_iff] at parens
  obtain ⟨front, back, rfl, fronts, backs⟩ := parens
  obtain ⟨last, rfl, kind⟩ := List.map_eq_singleton_iff.mp backs
  exact ⟨front, last, rfl, fronts, kind⟩

private theorem opened_ne_eof {opening : Token} {tokens : List Token}
    (left : opening.kind = .leftParen) (noEnd : ∀ token ∈ tokens, token.kind ≠ .eof) :
    ∀ token ∈ opening :: tokens, token.kind ≠ .eof := by
  intro token member
  rcases List.mem_cons.mp member with rfl | content
  · rw [left]
    decide
  · exact noEnd token content

private theorem reads_group {content : Parser Expr} {state : ParseState} {opening : Token}
    {rest : List Token} (ahead : state.ahead = opening :: rest) (left : opening.kind = .leftParen)
    (outcome : Outcome .expression ((state.past [opening] rest).within 1)
      (content ((state.past [opening] rest).within 1))) :
    Outcome .primary state (group content (state.past [opening] rest)) := by
  generalize run : content ((state.past [opening] rest).within 1) = result at outcome
  cases outcome with
  | @read read rest' inner inside derives stops =>
      obtain rfl : rest = read ++ rest' := inside
      rw [ParseState.within_past, ParseState.past_past] at run
      cases rest' with
      | nil =>
          rw [group_of_nil run rfl]
          exact .ended (by simpa using ahead) (opened_ne_eof left derives.kind_ne_eof)
      | cons next rest' =>
          have split : state.ahead = ([opening] ++ read) ++ next :: rest' := by simp [ahead]
          by_cases closing : next.kind = .rightParen
          · rw [group_of_rightParen run rfl closing, ParseState.past_past]
            exact .read (by simp [split]) (.group left closing derives)
              (fun _ _ => List.not_mem_nil)
          · rw [group_of_other run rfl closing, ParseState.head_past]
            refine @Outcome.patched _ _ _ _ _ _ 0 split ?_ (stops next rfl) closing
            intro closers parens
            obtain ⟨last, rfl, kind⟩ := List.map_eq_singleton_iff.mp parens
            exact .group left kind derives
  | @patched read rest' next inner missing inside derives stops other =>
      -- The closing parenthesis of this group is missing too, and is the last one to put in.
      obtain rfl : rest = read ++ next :: rest' := inside
      have split : state.ahead = ([opening] ++ read) ++ next :: rest' := by simp [ahead]
      have position : ((state.past [opening] (read ++ next :: rest')).within 1).head + read.length =
          state.head + ([opening] ++ read).length := by
        rw [ParseState.head_within, ParseState.head_past, List.length_append, Nat.add_assoc]
      rw [position, ParseState.within_past, ParseState.past_past, ParseState.within_noting] at run
      rw [group_of_other run rfl other, ParseState.noting_noting, ParseState.head_noting,
        ParseState.head_past, ← List.replicate_succ']
      refine .patched split ?_ stops other
      intro closing parens
      obtain ⟨front, last, rfl, fronts, kind⟩ := closing_concat parens
      have derived := Derives.group left kind (derives front fronts)
      simpa using derived
  | @stuck read rest' next groups inside stage literal another sign =>
      obtain rfl : rest = read ++ next :: rest' := inside
      rw [ParseState.within_past, ParseState.past_past] at run
      rw [group_of_error run, ParseState.within_within]
      refine .stuck (by simp [ahead]) ?_ literal another (fun own => nomatch (sign own).1)
      intro outer
      rw [List.map_append, List.map_singleton, left, List.singleton_append, Stage.after?_cons,
        Stage.next?_leftParen, Option.bind_some, stage (outer + 1), Nat.add_assoc]
  | exhausted noEnd =>
      rw [ParseState.ahead_within, ParseState.ahead_past] at noEnd run
      rw [ParseState.within_past, ParseState.past_past] at run
      rw [group_of_error run]
      exact .ended ahead (opened_ne_eof left noEnd)

theorem reads_primaryWithin (bound : Nat) : Reads .primary bound (primaryWithin bound) := by
  induction bound with
  | zero =>
      intro state small
      have none := List.eq_nil_of_length_eq_zero (Nat.le_zero.mp small)
      rw [primaryWithin_of_nil none]
      exact .ended_at none
  | succ bound ih =>
      intro state small
      cases ahead : state.ahead with
      | nil =>
          rw [primaryWithin_of_nil ahead]
          exact .ended_at ahead
      | cons token rest =>
          rw [ahead, List.length_cons] at small
          by_cases literal : token.kind ∈ literalKinds
          · rw [primaryWithin_of_literal ahead literal]
            exact .read ahead (.literal literal) (fun _ _ => List.not_mem_nil)
          · by_cases opening : token.kind = .leftParen
            · rw [primaryWithin_of_leftParen ahead opening]
              exact reads_group ahead opening (ih.equality _ (Nat.le_of_succ_le_succ small))
            · rw [primaryWithin_of_other ahead literal opening]
              have outcome : Outcome .primary state (.error
                  (operandFault ((state.past [] (token :: rest)).within 0) token)
                  (state.past [] (token :: rest))) :=
                .stuck ahead (fun _ => rfl) literal opening (fun _ => ⟨rfl, rfl⟩)
              rwa [ParseState.past_nil ahead, ParseState.within_zero] at outcome

end productions

end Lox.Grammar
