import Lox.Text.Span
import Lox.Number.Binary64
import Lox.Token.Kind

/-!
Tokens: a kind, the stretch of source it was read from, and the value of a literal.
-/

set_option autoImplicit false
set_option relaxedAutoImplicit false

namespace Lox

inductive Literal
  | bool (value : Bool)
  | number (value : Binary64)
  | string (content : Text)
  deriving DecidableEq

/-- A token. The span of a string lies between its quotes. -/
structure Token where
  kind : Kind
  literal : Option Literal
  span : Span
  deriving DecidableEq

namespace Token

def lexeme (token : Token) : Text := token.span.text

def line (token : Token) : Nat := token.span.line

def position (token : Token) : Nat := token.span.position

def length (token : Token) : Nat := token.span.length

/-- A token as it would be written in a source: a string gets its quotes back. -/
def display (token : Token) : Text :=
  if token.kind = .string then '"' :: token.lexeme ++ ['"'] else token.lexeme

end Token

end Lox
