import Lox.Proofs.Grammar.Step
import Lox.Grammar.Parse

/-!
Tokens exchanged for others of the same kinds.

Reading looks at the kinds of tokens only. So it makes the same steps on the other tokens, and
whatever comes of it holds the other tokens in the places of the old ones.
-/

set_option autoImplicit false
set_option relaxedAutoImplicit false

namespace Lox

def KeepsKinds (f : Token → Token) : Prop := ∀ token, (f token).kind = token.kind

variable (f : Token → Token)

def Expr.map : Expr → Expr
  | literal value => literal (f value)
  | unary operator operand => unary (f operator) operand.map
  | binary left operator right => binary left.map (f operator) right.map
  | grouping inner => grouping inner.map

/-- An error with its tokens exchanged. It keeps its problem and its index. -/
def ParseError.map (error : ParseError) : ParseError :=
  { error with token := f error.token, resumedAt := error.resumedAt.map f }

def Parsed.map (parsed : Parsed) : Parsed :=
  ⟨parsed.tree.map f, parsed.errors.map (ParseError.map f)⟩

def ParseFailure.map : ParseFailure → ParseFailure
  | rejected errors => rejected (errors.map (ParseError.map f))
  | internal error => internal error

def mapOutcome : Except ParseFailure Parsed → Except ParseFailure Parsed
  | .ok parsed => .ok (parsed.map f)
  | .error failure => .error (failure.map f)

def ParseState.map (state : ParseState) : ParseState :=
  ⟨state.behind.map f, state.ahead.map f, state.openGroups, state.errors.map (ParseError.map f)⟩

def Fault.map : Fault → Fault
  | rejected error => rejected (error.map f)
  | internal error => internal error

namespace ParseState

variable {f}

@[simp] theorem head_map (state : ParseState) : (state.map f).head = state.head :=
  List.length_map f

private theorem tokens_map (state : ParseState) : (state.map f).tokens = state.tokens.map f := by
  simp [tokens, map]

@[simp] theorem outOfTokens_map (state : ParseState) :
    (state.map f).outOfTokens = state.outOfTokens := by
  rw [outOfTokens, tokens_map, head_map, List.length_map]
  rfl

end ParseState

namespace Parser

def mapResult {α β : Type} (g : α → β) :
    EStateM.Result Fault ParseState α → EStateM.Result Fault ParseState β
  | .ok value state => .ok (g value) (state.map f)
  | .error fault state => .error (fault.map f) (state.map f)

/-- The second computation does with exchanged tokens what the first does with the old ones. -/
def Renames {α β : Type} (g : α → β) (first : Parser α) (second : Parser β) : Prop :=
  ∀ state, second (state.map f) = mapResult f g (first state)

variable {f}

namespace Renames

variable {α β γ δ : Type} {g : α → β} {h : γ → δ}

theorem pure (value : α) : Renames f g (pure value) (pure (g value)) := fun _ => rfl

theorem bind {first : Parser α} {second : Parser β} {next : α → Parser γ} {next' : β → Parser δ}
    (before : Renames f g first second)
    (behind : ∀ value, Renames f h (next value) (next' (g value))) :
    Renames f h (first >>= next) (second >>= next') := by
  intro state
  have run := before state
  cases ran : first state with
  | ok value later =>
      rw [ran] at run
      rw [bind_of_ok ran, bind_of_ok run]
      exact behind value later
  | error fault later =>
      rw [ran] at run
      rw [bind_of_error ran, bind_of_error run]
      rfl

theorem ite {condition : Prop} [Decidable condition] {first other : Parser α}
    {second another : Parser β} (yes : Renames f g first second) (no : Renames f g other another) :
    Renames f g (if condition then first else other) (if condition then second else another) := by
  split
  · exact yes
  · exact no

theorem throw (fault : Fault) : Renames f g (throw fault) (throw (fault.map f)) := fun _ => rfl

theorem tryCatch {first : Parser α} {second : Parser β} {handler : Fault → Parser α}
    {handler' : Fault → Parser β} (before : Renames f g first second)
    (caught : ∀ fault, Renames f g (handler fault) (handler' (fault.map f))) :
    Renames f g (tryCatch first handler) (tryCatch second handler') := by
  intro state
  have run := before state
  cases ran : first state with
  | ok value later =>
      rw [ran] at run
      rw [tryCatch_of_ok ran, tryCatch_of_ok run]
      rfl
  | error fault later =>
      rw [ran] at run
      rw [tryCatch_of_error ran, tryCatch_of_error run]
      exact caught fault later

end Renames

section steps

private theorem renames_outOfTokens {α β : Type} (g : α → β) :
    Renames f g (outOfTokens : Parser α) outOfTokens := by
  intro state
  rw [outOfTokens, ParseState.outOfTokens_map]
  rfl

private theorem renames_current : Renames f f current current := by
  intro state
  obtain ⟨behind, ahead, groups, errors⟩ := state
  cases ahead with
  | nil => exact renames_outOfTokens f ⟨behind, [], groups, errors⟩
  | cons token rest => rfl

private theorem renames_previous : Renames f f previous previous := by
  intro state
  obtain ⟨behind, ahead, groups, errors⟩ := state
  cases behind with
  | nil => rfl
  | cons token rest => rfl

private theorem renames_get : Renames f (ParseState.map f) get get := fun _ => rfl

private theorem renames_errorHere (problem : ParseProblem) :
    Renames f (ParseError.map f) (errorHere problem) (errorHere problem) := by
  refine renames_current.bind fun token => ?_
  refine renames_get.bind fun state => ?_
  rw [ParseState.head_map]
  exact .pure _

private theorem renames_record (problem : ParseProblem) :
    Renames f id (record problem) (record problem) := by
  refine (renames_errorHere problem).bind fun error state => ?_
  change EStateM.Result.ok _ _ = EStateM.Result.ok _ _
  simp [ParseState.map]

private theorem renames_reject {α β : Type} (g : α → β) (problem : ParseProblem) :
    Renames f g (reject problem : Parser α) (reject problem) := by
  refine (renames_errorHere problem).bind fun error state => ?_
  rfl

private theorem renames_insideGroup {α β : Type} {g : α → β} {inner : Parser α} {inner' : Parser β}
    (content : Renames f g inner inner') :
    Renames f g (insideGroup inner) (insideGroup inner') := by
  intro state
  have run := content { state with openGroups := state.openGroups + 1 }
  have entered : { state.map f with openGroups := (state.map f).openGroups + 1 } =
      ParseState.map f { state with openGroups := state.openGroups + 1 } := rfl
  rw [insideGroup, insideGroup, entered, run]
  cases inner { state with openGroups := state.openGroups + 1 } with
  | ok value later => rfl
  | error fault later => rfl

private theorem renames_bounded {α β : Type} {g : α → β} {production : Nat → Parser α}
    {production' : Nat → Parser β}
    (inner : ∀ bound, Renames f g (production bound) (production' bound)) :
    Renames f g (bounded production) (bounded production') := by
  -- An exchange keeps the number of tokens left, which is the bound.
  intro state
  have length : (state.map f).ahead.length = state.ahead.length := List.length_map f
  rw [bounded, bounded, length]
  exact inner state.ahead.length state

variable (keeps : KeepsKinds f)
include keeps

private theorem renames_atEnd : Renames f id atEnd atEnd := by
  refine renames_current.bind fun token => ?_
  rw [keeps token]
  exact .pure _

private theorem renames_advance : Renames f f advance advance := by
  intro state
  obtain ⟨behind, ahead, groups, errors⟩ := state
  cases ahead with
  | nil => exact renames_outOfTokens f ⟨behind, [], groups, errors⟩
  | cons token rest =>
      simp only [advance, ParseState.map, List.map_cons, keeps token]
      split <;> rfl

private theorem renames_advanceIf (kinds : List Kind) :
    Renames f (Option.map f) (advanceIf kinds) (advanceIf kinds) := by
  refine renames_current.bind fun token => ?_
  rw [keeps token]
  refine .ite ?_ (.pure none)
  exact (renames_advance keeps).bind fun moved => .pure (some moved)

end steps

section productions

variable (keeps : KeepsKinds f)
include keeps

private theorem renames_chain {kinds : List Kind} {operand : Parser Expr}
    (inner : Renames f (Expr.map f) operand operand) (bound : Nat) (left : Expr) :
    Renames f (Expr.map f) (chain kinds operand bound left)
      (chain kinds operand bound (left.map f)) := by
  induction bound generalizing left with
  | zero => exact renames_outOfTokens _
  | succ bound ih =>
      refine (renames_advanceIf keeps kinds).bind fun operator => ?_
      cases operator with
      | none => exact .pure left
      | some operator => exact inner.bind fun right => ih (.binary left operator right)

private theorem renames_joined {kinds : List Kind} {operand : Parser Expr}
    (inner : Renames f (Expr.map f) operand operand) (bound : Nat) :
    Renames f (Expr.map f) (joined kinds operand bound) (joined kinds operand bound) :=
  inner.bind fun left => renames_chain keeps inner bound left

private theorem renames_unaryOver {primary : Parser Expr}
    (inner : Renames f (Expr.map f) primary primary) (bound : Nat) :
    Renames f (Expr.map f) (unaryOver primary bound) (unaryOver primary bound) := by
  induction bound with
  | zero => exact renames_outOfTokens _
  | succ bound ih =>
      refine (renames_advanceIf keeps unaryKinds).bind fun operator => ?_
      cases operator with
      | none => exact inner
      | some operator => exact ih.bind fun operand => .pure (Expr.unary operator operand)

private theorem renames_equalityOver {primary : Parser Expr}
    (inner : Renames f (Expr.map f) primary primary) (bound : Nat) :
    Renames f (Expr.map f) (equalityOver primary bound) (equalityOver primary bound) := by
  have factor : Renames f (Expr.map f) (unaryOver primary bound) (unaryOver primary bound) :=
    renames_unaryOver keeps inner bound
  have product : Renames f (Expr.map f) (multiplicationOver primary bound)
      (multiplicationOver primary bound) := renames_joined keeps factor bound
  have sum : Renames f (Expr.map f) (additionOver primary bound) (additionOver primary bound) :=
    renames_joined keeps product bound
  have order : Renames f (Expr.map f) (comparisonOver primary bound)
      (comparisonOver primary bound) := renames_joined keeps sum bound
  exact renames_joined keeps order bound

private theorem renames_group {content : Parser Expr}
    (inner : Renames f (Expr.map f) content content) :
    Renames f (Expr.map f) (group content) (group content) := by
  refine (renames_insideGroup inner).bind fun tree => ?_
  refine (renames_advanceIf keeps [.rightParen]).bind fun closing => ?_
  rw [Option.isNone_map]
  refine .ite ?_ (.pure (Expr.grouping tree))
  exact (renames_record _).bind fun _ => .pure (Expr.grouping tree)

private theorem renames_missingOperand : Renames f (Expr.map f) missingOperand missingOperand := by
  refine (renames_atEnd keeps).bind fun atEnd => ?_
  refine renames_get.bind fun state => ?_
  refine .ite ?_ (renames_reject _ _)
  refine renames_previous.bind fun last => ?_
  rw [keeps last]
  exact .ite (renames_reject _ _) (renames_reject _ _)

private theorem renames_primaryWithin (bound : Nat) :
    Renames f (Expr.map f) (primaryWithin bound) (primaryWithin bound) := by
  induction bound with
  | zero => exact renames_outOfTokens _
  | succ bound ih =>
      refine (renames_advanceIf keeps literalKinds).bind fun value => ?_
      cases value with
      | some value => exact .pure (Expr.literal value)
      | none =>
          refine (renames_advanceIf keeps [.leftParen]).bind fun opening => ?_
          cases opening with
          | some opening => exact renames_group keeps (renames_equalityOver keeps ih bound)
          | none => exact renames_missingOperand keeps

private theorem renames_expression : Renames f (Expr.map f) expression expression :=
  renames_bounded fun bound =>
    renames_equalityOver keeps (renames_primaryWithin keeps bound) bound

private theorem renames_skip (bound : Nat) : Renames f id (skip bound) (skip bound) := by
  induction bound with
  | zero => exact renames_outOfTokens id
  | succ bound ih =>
      refine (renames_atEnd keeps).bind fun atEnd => .ite (.pure ()) ?_
      refine renames_previous.bind fun last => ?_
      rw [keeps last]
      exact .ite (.pure ()) ((renames_advance keeps).bind fun _ => ih)

private theorem renames_synchronize : Renames f id synchronize synchronize :=
  (renames_advance keeps).bind fun _ => renames_bounded (renames_skip keeps)

private theorem renames_recover {α β : Type} (g : α → β) (fault : Fault) :
    Renames f g (recover fault) (recover (fault.map f)) := by
  cases fault with
  | rejected error =>
      refine (renames_synchronize keeps).bind fun _ => ?_
      refine renames_current.bind fun resumed => ?_
      exact .throw (.rejected { error with resumedAt := some resumed })
  | internal error => exact .throw (.internal error)

private theorem renames_whole : Renames f (Expr.map f) whole whole := by
  refine ((renames_expression keeps).tryCatch (renames_recover keeps _)).bind fun tree => ?_
  refine (renames_atEnd keeps).bind fun atEnd => ?_
  exact .ite ((renames_record _).bind fun _ => .pure tree) (.pure tree)

end productions

end Parser

section outcome

variable {f}

/-- What is read from exchanged tokens is what is read from the old ones, with the tokens
exchanged. -/
theorem parse_map (keeps : KeepsKinds f) (tokens : List Token) :
    parse (tokens.map f) = mapOutcome f (parse tokens) := by
  have run := Parser.renames_whole keeps (.start tokens)
  have start : (ParseState.start tokens).map f = .start (tokens.map f) := rfl
  rw [start] at run
  rw [parse, parse, run]
  cases Parser.whole (.start tokens) with
  | ok tree state => rfl
  | error fault state =>
      cases fault with
      | rejected error =>
          simp [Parser.mapResult, mapOutcome, Fault.map, ParseFailure.map, ParseState.map]
      | internal error => rfl

end outcome

end Lox
