import Lox.Diagnostic
import Lox.Token.Basic

/-!
What can go wrong while an expression is read from tokens, and the diagnostics of it.

A parse error is the fault of the source text. An internal error would be a fault of the parser.
-/

set_option autoImplicit false
set_option relaxedAutoImplicit false

namespace Lox

inductive ParseProblem
  /-- The construct of this name lacks its closing parenthesis. -/
  | expectedRightParen (construct : Text)
  /-- The text ends right behind an opening parenthesis. -/
  | unclosedGroup
  /-- An operand is missing; it could begin with one of these kinds. -/
  | expectedExpression (starts : List Kind)
  /-- Tokens are left over behind a whole expression. -/
  | expectedEnd
  deriving DecidableEq

def ParseProblem.message : ParseProblem → Text
  | expectedRightParen construct =>
      "Expect ')' after ".toList ++ construct ++ ".".toList
  | unclosedGroup => "Expect ')' to close group.".toList
  | expectedExpression starts =>
      "Expect expression, found end of grammar. Expected one of: ".toList ++
        Text.join ", ".toList (starts.map Kind.name) ++ ".".toList
  | expectedEnd => "Expect end of expression.".toList

/-- A token as the location of a diagnostic: its lexeme in quotes, or the end of the text. -/
def Token.location (token : Token) : Text :=
  if token.kind = .eof then "end".toList else '\'' :: token.lexeme ++ ['\'']

/-- A problem, the token it was noticed at, and the index of that token. -/
structure ParseError where
  problem : ParseProblem
  token : Token
  head : Nat
  /-- Where reading could resume after a fatal error. -/
  resumedAt : Option Token
  deriving DecidableEq

namespace ParseError

def diagnostic (error : ParseError) : Diagnostic where
  line := error.token.line
  position := error.head
  location := error.token.location
  message := error.problem.message
  resumedAt := error.resumedAt.map Token.location

def text (error : ParseError) : Text := error.diagnostic.text

end ParseError

/-- A broken rule of the parser itself. -/
inductive InternalError
  /-- A token was asked for at an index beyond the last one. -/
  | cursorOutOfBounds (head length : Nat)
  /-- The token before the first one was asked for. -/
  | nothingConsumed
  deriving DecidableEq

def InternalError.message : InternalError → Text
  | cursorOutOfBounds head length =>
      "cursor ".toList ++ Text.ofNat head ++ " is outside of the token buffer (length ".toList ++
        Text.ofNat length ++ ")".toList
  | nothingConsumed => "no token has been consumed yet".toList

inductive ParseFailure
  /-- The tokens form no expression: the errors found, the fatal one last. -/
  | rejected (errors : List ParseError)
  | internal (error : InternalError)
  deriving DecidableEq

def ParseFailure.text : ParseFailure → Text
  | rejected errors => Text.lines (errors.map ParseError.text)
  | internal error => "internal parser error: ".toList ++ error.message

end Lox
