import Lox.Grammar.Production

/-!
Reading one expression from a sequence of tokens.

A missing closing parenthesis and tokens left over behind the expression are reported next to the
expression. A missing operand is fatal: tokens are skipped up to one at which reading could resume,
and the error tells that token. To skip tokens is to look at the current and at the previous token,
so an internal error can come from there as well, and then it is what the reading ends with.
-/

set_option autoImplicit false
set_option relaxedAutoImplicit false

namespace Lox

namespace Parser

/-- Skips tokens until the text ends or the token before the head starts a statement. -/
def skip : Nat → Parser Unit
  | 0 => outOfTokens
  | bound + 1 => do
      if ← atEnd then return ()
      if (← previous).kind.startsStatement then return ()
      let _ ← advance
      skip bound

/-- Skips to where reading could resume: the current token, and all up to the next statement. -/
def synchronize : Parser Unit := do
  let _ ← advance
  bounded skip

/-- Ends the reading with a fault. An error first gets the token at which reading could resume. -/
def recover {α : Type} : Fault → Parser α
  | .rejected error => do
      synchronize
      let resumed ← current
      throw (.rejected { error with resumedAt := some resumed })
  | .internal error => throw (.internal error)

def whole : Parser Expr := do
  let tree ← tryCatch expression recover
  if !(← atEnd) then record .expectedEnd
  return tree

end Parser

/-- An expression, and the errors in spite of which it could be read. -/
structure Parsed where
  tree : Expr
  errors : List ParseError
  deriving DecidableEq

/-- Reads the expression that some tokens form. The errors noted on the way stand in front of the
fatal one. -/
def parse (tokens : List Token) : Except ParseFailure Parsed :=
  match Parser.whole (.start tokens) with
  | .ok tree state => .ok ⟨tree, state.errors⟩
  | .error (.rejected error) state => .error (.rejected (state.errors ++ [error]))
  | .error (.internal error) _ => .error (.internal error)

end Lox
