import Lox.Grammar.Production

/-!
What the steps and the productions do to a state, one token at a time.

Reading moves a state over tokens, and only groups and recorded errors touch its other fields. The
theory of the grammar follows these equations and not the definitions behind them.
-/

set_option autoImplicit false
set_option relaxedAutoImplicit false

namespace Lox

namespace ParseState

/-- The state behind some more tokens, with the given ones still ahead. -/
def past (state : ParseState) (read ahead : List Token) : ParseState :=
  { state with behind := read.reverse ++ state.behind, ahead }

def noting (state : ParseState) (errors : List ParseError) : ParseState :=
  { state with errors := state.errors ++ errors }

def within (state : ParseState) (groups : Nat) : ParseState :=
  { state with openGroups := state.openGroups + groups }

variable (state : ParseState) (read more rest later : List Token) (groups inner : Nat)
variable (errors others : List ParseError)

theorem head_start (tokens : List Token) : (start tokens).head = 0 := rfl

@[simp] theorem ahead_past : (state.past read rest).ahead = rest := rfl

@[simp] theorem ahead_within : (state.within groups).ahead = state.ahead := rfl

@[simp] theorem head_past : (state.past read rest).head = state.head + read.length := by
  simp [head, past, Nat.add_comm]

@[simp] theorem head_noting : (state.noting errors).head = state.head := rfl

@[simp] theorem head_within : (state.within groups).head = state.head := rfl

variable {state rest} in
theorem past_nil (ahead : state.ahead = rest) : state.past [] rest = state := by
  subst ahead
  rfl

theorem past_past :
    (state.past read rest).past more later = state.past (read ++ more) later := by
  simp [past]

theorem noting_noting :
    (state.noting errors).noting others = state.noting (errors ++ others) := by
  simp [noting]

theorem within_zero : state.within 0 = state := rfl

theorem within_within : (state.within groups).within inner = state.within (groups + inner) := by
  simp [within, Nat.add_assoc]

theorem within_past :
    (state.within groups).past read rest = (state.past read rest).within groups := rfl

theorem within_noting :
    (state.within groups).noting errors = (state.noting errors).within groups := rfl

end ParseState

namespace Parser

section bind

variable {α β : Type} {first : Parser α} {next : α → Parser β} {state later : ParseState}

theorem bind_of_ok {value : α} (run : first state = .ok value later) :
    (first >>= next) state = next value later := by
  change EStateM.bind first next state = _
  rw [EStateM.bind, run]

theorem bind_of_error {fault : Fault} (run : first state = .error fault later) :
    (first >>= next) state = .error fault later := by
  change EStateM.bind first next state = _
  rw [EStateM.bind, run]

variable {handler : Fault → Parser α}

theorem tryCatch_of_ok {value : α} (run : first state = .ok value later) :
    (tryCatch first handler : Parser α) state = .ok value later := by
  change EStateM.tryCatch first handler state = _
  delta EStateM.tryCatch
  rw [run]

theorem tryCatch_of_error {fault : Fault} (run : first state = .error fault later) :
    (tryCatch first handler : Parser α) state = handler fault later := by
  change EStateM.tryCatch first handler state = _
  delta EStateM.tryCatch
  rw [run]
  rfl

end bind

variable {state : ParseState} {token : Token} {rest : List Token} {kinds : List Kind}

theorem current_of_cons (ahead : state.ahead = token :: rest) :
    current state = .ok token state := by
  rw [current, ahead]

theorem current_of_nil (ahead : state.ahead = []) :
    current state = .error (.internal state.outOfTokens) state := by
  rw [current, ahead]
  rfl

theorem previous_of_cons {before : List Token} (behind : state.behind = token :: before) :
    previous state = .ok token state := by
  rw [previous, behind]

theorem previous_of_nil (behind : state.behind = []) :
    previous state = .error (.internal .nothingConsumed) state := by
  rw [previous, behind]

theorem atEnd_of_cons (ahead : state.ahead = token :: rest) :
    atEnd state = .ok (decide (token.kind = .eof)) state := by
  rw [atEnd, bind_of_ok (current_of_cons ahead)]
  rfl

theorem atEnd_of_nil (ahead : state.ahead = []) :
    atEnd state = .error (.internal state.outOfTokens) state :=
  bind_of_error (current_of_nil ahead)

theorem advance_of_eof (ahead : state.ahead = token :: rest) (eof : token.kind = .eof) :
    advance state = .ok token state := by
  rw [advance, ahead]
  simp [eof]

theorem advance_of_inside (ahead : state.ahead = token :: rest) (inside : token.kind ≠ .eof) :
    advance state = .ok token (state.past [token] rest) := by
  rw [advance, ahead]
  simp [inside, ParseState.past]

theorem advance_of_nil (ahead : state.ahead = []) :
    advance state = .error (.internal state.outOfTokens) state := by
  rw [advance, ahead]
  rfl

theorem advanceIf_of_mem (ahead : state.ahead = token :: rest) (member : token.kind ∈ kinds)
    (proper : .eof ∉ kinds) :
    advanceIf kinds state = .ok (some token) (state.past [token] rest) := by
  have inside : token.kind ≠ .eof := fun eof => proper (eof ▸ member)
  rw [advanceIf, bind_of_ok (current_of_cons ahead), if_pos member,
    bind_of_ok (advance_of_inside ahead inside)]
  rfl

theorem advanceIf_of_not_mem (ahead : state.ahead = token :: rest)
    (other : token.kind ∉ kinds) : advanceIf kinds state = .ok none state := by
  rw [advanceIf, bind_of_ok (current_of_cons ahead), if_neg other]
  rfl

theorem advanceIf_of_nil (ahead : state.ahead = []) :
    advanceIf kinds state = .error (.internal state.outOfTokens) state :=
  bind_of_error (current_of_nil ahead)

theorem errorHere_of_cons (problem : ParseProblem) (ahead : state.ahead = token :: rest) :
    errorHere problem state = .ok ⟨problem, token, state.head, none⟩ state := by
  rw [errorHere, bind_of_ok (current_of_cons ahead)]
  rfl

theorem record_of_cons (problem : ParseProblem) (ahead : state.ahead = token :: rest) :
    record problem state = .ok () (state.noting [⟨problem, token, state.head, none⟩]) := by
  rw [record, bind_of_ok (errorHere_of_cons problem ahead)]
  rfl

theorem reject_of_cons {α : Type} (problem : ParseProblem) (ahead : state.ahead = token :: rest) :
    (reject problem : Parser α) state =
      .error (.rejected ⟨problem, token, state.head, none⟩) state := by
  rw [reject, bind_of_ok (errorHere_of_cons problem ahead)]
  rfl

def missingParen (token : Token) (head : Nat) : ParseError :=
  ⟨.expectedRightParen groupContent, token, head, none⟩

/-- What is wrong with a token that begins no operand, behind another one and inside some groups.
There the end of the text is taken for a missing parenthesis. -/
def operandProblem (last : Option Token) (groups : Nat) (token : Token) : ParseProblem :=
  if token.kind = .eof ∧ 0 < groups then
    if last.map Token.kind = some .leftParen then .unclosedGroup
    else .expectedRightParen groupContent
  else .expectedExpression primaryKinds

def operandError (state : ParseState) (token : Token) : ParseError :=
  ⟨operandProblem state.behind.head? state.openGroups token, token, state.head, none⟩

/-- Why reading stops where no operand begins. To tell the two errors for an open group apart the
token before the head is asked for. -/
def operandFault (state : ParseState) (token : Token) : Fault :=
  if token.kind = .eof ∧ 0 < state.openGroups ∧ state.behind = [] then .internal .nothingConsumed
  else .rejected (operandError state token)

theorem operandFault_of_entered (entered : 0 < state.openGroups → state.behind ≠ []) :
    operandFault state token = .rejected (operandError state token) :=
  if_neg fun none => entered none.2.1 none.2.2

theorem missingOperand_of_cons (ahead : state.ahead = token :: rest) :
    missingOperand state = .error (operandFault state token) state := by
  have get : (get : Parser ParseState) state = .ok state state := rfl
  rw [missingOperand, bind_of_ok (atEnd_of_cons ahead), bind_of_ok get]
  by_cases inside : token.kind = .eof ∧ 0 < state.openGroups
  · rw [if_pos (by simp [inside])]
    cases behind : state.behind with
    | nil =>
        rw [bind_of_error (previous_of_nil behind), operandFault,
          if_pos ⟨inside.1, inside.2, behind⟩]
    | cons last before =>
        rw [bind_of_ok (previous_of_cons behind), operandFault_of_entered (by simp [behind]),
          operandError, operandProblem, if_pos inside]
        by_cases opening : last.kind = .leftParen
        · rw [if_pos opening, reject_of_cons _ ahead, if_pos (by simp [behind, opening])]
        · rw [if_neg opening, reject_of_cons _ ahead, if_neg (by simp [behind, opening])]
  · rw [if_neg (by simpa using inside), reject_of_cons _ ahead, operandFault,
      if_neg (fun all => inside ⟨all.1, all.2.1⟩), operandError, operandProblem, if_neg inside]

section chain

variable {operand : Parser Expr} {bound : Nat} {left : Expr}

theorem chain_of_nil (ahead : state.ahead = []) :
    chain kinds operand bound left state = .error (.internal state.outOfTokens) state := by
  cases bound with
  | zero => rfl
  | succ bound => rw [chain, bind_of_error (advanceIf_of_nil ahead)]

theorem chain_of_not_mem (ahead : state.ahead = token :: rest) (other : token.kind ∉ kinds)
    (positive : 0 < bound) : chain kinds operand bound left state = .ok left state := by
  obtain ⟨fewer, rfl⟩ : ∃ fewer, bound = fewer + 1 := ⟨bound - 1, by omega⟩
  rw [chain, bind_of_ok (advanceIf_of_not_mem ahead other)]
  rfl

theorem chain_of_ok {right : Expr} {later : ParseState} (ahead : state.ahead = token :: rest)
    (member : token.kind ∈ kinds) (proper : .eof ∉ kinds)
    (run : operand (state.past [token] rest) = .ok right later) :
    chain kinds operand (bound + 1) left state =
      chain kinds operand bound (.binary left token right) later := by
  rw [chain, bind_of_ok (advanceIf_of_mem ahead member proper)]
  exact bind_of_ok run

theorem chain_of_error {fault : Fault} {later : ParseState} (ahead : state.ahead = token :: rest)
    (member : token.kind ∈ kinds) (proper : .eof ∉ kinds)
    (run : operand (state.past [token] rest) = .error fault later) :
    chain kinds operand (bound + 1) left state = .error fault later := by
  rw [chain, bind_of_ok (advanceIf_of_mem ahead member proper)]
  exact bind_of_error run

end chain

section unary

variable {primary : Parser Expr} {bound : Nat}

theorem unaryOver_of_nil (ahead : state.ahead = []) :
    unaryOver primary bound state = .error (.internal state.outOfTokens) state := by
  cases bound with
  | zero => rfl
  | succ bound => rw [unaryOver, bind_of_error (advanceIf_of_nil ahead)]

theorem unaryOver_of_not_mem (ahead : state.ahead = token :: rest)
    (other : token.kind ∉ unaryKinds) :
    unaryOver primary (bound + 1) state = primary state := by
  rw [unaryOver, bind_of_ok (advanceIf_of_not_mem ahead other)]

theorem unaryOver_of_ok {operand : Expr} {later : ParseState}
    (ahead : state.ahead = token :: rest) (member : token.kind ∈ unaryKinds)
    (run : unaryOver primary bound (state.past [token] rest) = .ok operand later) :
    unaryOver primary (bound + 1) state = .ok (.unary token operand) later := by
  rw [unaryOver, bind_of_ok (advanceIf_of_mem ahead member (by decide))]
  exact bind_of_ok run

theorem unaryOver_of_error {fault : Fault} {later : ParseState}
    (ahead : state.ahead = token :: rest) (member : token.kind ∈ unaryKinds)
    (run : unaryOver primary bound (state.past [token] rest) = .error fault later) :
    unaryOver primary (bound + 1) state = .error fault later := by
  rw [unaryOver, bind_of_ok (advanceIf_of_mem ahead member (by decide))]
  exact bind_of_error run

end unary

section group

variable {content : Parser Expr} {inner : Expr} {later : ParseState}

theorem insideGroup_of_ok (run : content (state.within 1) = .ok inner (later.within 1)) :
    insideGroup content state = .ok inner later := by
  rw [ParseState.within] at run
  rw [insideGroup, run]
  rfl

theorem group_of_error {fault : Fault}
    (run : content (state.within 1) = .error fault (later.within 1)) :
    group content state = .error fault later := by
  have inside : insideGroup content state = .error fault later := by
    rw [ParseState.within] at run
    rw [insideGroup, run]
    rfl
  exact bind_of_error inside

theorem group_of_nil (run : content (state.within 1) = .ok inner (later.within 1))
    (ahead : later.ahead = []) :
    group content state = .error (.internal later.outOfTokens) later := by
  rw [group, bind_of_ok (insideGroup_of_ok run)]
  exact bind_of_error (advanceIf_of_nil ahead)

theorem group_of_rightParen (run : content (state.within 1) = .ok inner (later.within 1))
    (ahead : later.ahead = token :: rest) (closing : token.kind = .rightParen) :
    group content state = .ok (.grouping inner) (later.past [token] rest) := by
  have closed : advanceIf [.rightParen] later = .ok (some token) (later.past [token] rest) :=
    advanceIf_of_mem ahead (by simp [closing]) (by decide)
  rw [group, bind_of_ok (insideGroup_of_ok run), bind_of_ok closed]
  rfl

theorem group_of_other (run : content (state.within 1) = .ok inner (later.within 1))
    (ahead : later.ahead = token :: rest) (other : token.kind ≠ .rightParen) :
    group content state =
      .ok (.grouping inner) (later.noting [missingParen token later.head]) := by
  have unclosed : advanceIf [.rightParen] later = .ok none later :=
    advanceIf_of_not_mem ahead (by simpa using other)
  rw [group, bind_of_ok (insideGroup_of_ok run), bind_of_ok unclosed]
  exact bind_of_ok (record_of_cons _ ahead)

end group

section primary

variable {bound : Nat}

theorem primaryWithin_of_nil (ahead : state.ahead = []) :
    primaryWithin bound state = .error (.internal state.outOfTokens) state := by
  cases bound with
  | zero => rfl
  | succ bound => rw [primaryWithin, bind_of_error (advanceIf_of_nil ahead)]

theorem primaryWithin_of_literal (ahead : state.ahead = token :: rest)
    (member : token.kind ∈ literalKinds) :
    primaryWithin (bound + 1) state = .ok (.literal token) (state.past [token] rest) := by
  rw [primaryWithin, bind_of_ok (advanceIf_of_mem ahead member (by decide))]
  rfl

theorem primaryWithin_of_leftParen (ahead : state.ahead = token :: rest)
    (opening : token.kind = .leftParen) :
    primaryWithin (bound + 1) state =
      group (equalityOver (primaryWithin bound) bound) (state.past [token] rest) := by
  have noLiteral : advanceIf literalKinds state = .ok none state :=
    advanceIf_of_not_mem ahead (by rw [opening]; decide)
  have opened : advanceIf [.leftParen] state = .ok (some token) (state.past [token] rest) :=
    advanceIf_of_mem ahead (by simp [opening]) (by decide)
  rw [primaryWithin, bind_of_ok noLiteral]
  exact bind_of_ok opened

theorem primaryWithin_of_other (ahead : state.ahead = token :: rest)
    (literal : token.kind ∉ literalKinds) (opening : token.kind ≠ .leftParen) :
    primaryWithin (bound + 1) state = .error (operandFault state token) state := by
  have noGroup : advanceIf [.leftParen] state = .ok none state :=
    advanceIf_of_not_mem ahead (by simpa using opening)
  rw [primaryWithin, bind_of_ok (advanceIf_of_not_mem ahead literal)]
  exact (bind_of_ok noGroup).trans (missingOperand_of_cons ahead)

end primary

end Parser

end Lox
