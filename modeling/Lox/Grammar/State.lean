import Lox.Grammar.Problem

/-!
The state of reading an expression: tokens on both sides of a head, the number of open groups, and
the errors recorded so far; and the steps that look at tokens and move the head.

The head never moves past the token for the end of the text.
-/

set_option autoImplicit false
set_option relaxedAutoImplicit false

namespace Lox

/-- Tokens around a head, and what was noticed on the way to it. -/
structure ParseState where
  /-- The tokens before the head, the nearest first. -/
  behind : List Token
  /-- The tokens from the head on. -/
  ahead : List Token
  /-- How many groups are open. -/
  openGroups : Nat
  /-- The errors that did not stop the reading, the oldest first. -/
  errors : List ParseError
  deriving DecidableEq

namespace ParseState

def start (tokens : List Token) : ParseState := ⟨[], tokens, 0, []⟩

def tokens (state : ParseState) : List Token := state.behind.reverse ++ state.ahead

def head (state : ParseState) : Nat := state.behind.length

def outOfTokens (state : ParseState) : InternalError :=
  .cursorOutOfBounds state.head state.tokens.length

end ParseState

inductive Fault
  | rejected (error : ParseError)
  | internal (error : InternalError)
  deriving DecidableEq

/-- A computation that reads tokens. It leaves a state behind also when it stops with a fault. -/
abbrev Parser := EStateM Fault ParseState

namespace Parser

def outOfTokens {α : Type} : Parser α := fun state =>
  .error (.internal state.outOfTokens) state

def current : Parser Token := fun state =>
  match state.ahead with
  | [] => outOfTokens state
  | token :: _ => .ok token state

def previous : Parser Token := fun state =>
  match state.behind with
  | [] => .error (.internal .nothingConsumed) state
  | token :: _ => .ok token state

def atEnd : Parser Bool := return (← current).kind = .eof

/-- Moves the head over the current token and gives that token, but stays at the end of the
text. -/
def advance : Parser Token := fun state =>
  match state.ahead with
  | [] => outOfTokens state
  | token :: rest =>
      .ok token
        (if token.kind = .eof then state
        else { state with behind := token :: state.behind, ahead := rest })

def advanceIf (kinds : List Kind) : Parser (Option Token) := do
  let token ← current
  if token.kind ∈ kinds then
    let token ← advance
    return some token
  else return none

def errorHere (problem : ParseProblem) : Parser ParseError := do
  let token ← current
  return ⟨problem, token, (← get).head, none⟩

def record (problem : ParseProblem) : Parser Unit := do
  let error ← errorHere problem
  modify fun state => { state with errors := state.errors ++ [error] }

def reject {α : Type} (problem : ParseProblem) : Parser α := do
  throw (.rejected (← errorHere problem))

/-- Counts one more open group while something is read, whether the reading succeeds or not. -/
def insideGroup {α : Type} (inner : Parser α) : Parser α := fun state =>
  match inner { state with openGroups := state.openGroups + 1 } with
  | .ok value state => .ok value { state with openGroups := state.openGroups - 1 }
  | .error fault state => .error fault { state with openGroups := state.openGroups - 1 }

end Parser

end Lox
