import Lox.Token.Basic

/-!
Expressions: trees over the tokens they were read from.
-/

set_option autoImplicit false
set_option relaxedAutoImplicit false

namespace Lox

/-- An expression. Operators and literals are tokens; parentheses leave a grouping. -/
inductive Expr
  | literal (value : Token)
  | unary (operator : Token) (operand : Expr)
  | binary (left : Expr) (operator : Token) (right : Expr)
  | grouping (inner : Expr)
  deriving DecidableEq

end Lox
