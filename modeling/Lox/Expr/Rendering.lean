import Lox.Expr.Basic

/-!
Two ways to write an expression on one line.

The parenthesized form puts the operator in front of its operands and parentheses around both; the
reverse Polish form puts the operator behind its operands and needs no parentheses. In both the
word `group` stands for a grouping.
-/

set_option autoImplicit false
set_option relaxedAutoImplicit false

namespace Lox

inductive Style
  | parenthesized
  | reversePolish
  deriving DecidableEq

namespace Expr

def groupWord : Text := ['g', 'r', 'o', 'u', 'p']

/-- The operator in front, with parentheses around every operation. -/
def parenthesized : Expr → Text
  | literal value => value.display
  | unary operator operand => '(' :: operator.lexeme ++ ' ' :: (operand.parenthesized ++ [')'])
  | binary left operator right =>
      '(' :: operator.lexeme ++
        ' ' :: (left.parenthesized ++ ' ' :: (right.parenthesized ++ [')']))
  | grouping inner => '(' :: groupWord ++ ' ' :: (inner.parenthesized ++ [')'])

/-- The operands first, the operator last. -/
def reversePolish : Expr → Text
  | literal value => value.display
  | unary operator operand => operand.reversePolish ++ ' ' :: operator.lexeme
  | binary left operator right =>
      left.reversePolish ++ ' ' :: (right.reversePolish ++ ' ' :: operator.lexeme)
  | grouping inner => inner.reversePolish ++ ' ' :: groupWord

def render : Style → Expr → Text
  | .parenthesized, tree => tree.parenthesized
  | .reversePolish, tree => tree.reversePolish

end Expr

end Lox
