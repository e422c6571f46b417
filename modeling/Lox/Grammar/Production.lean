import Lox.Expr.Basic
import Lox.Grammar.State

/-!
The productions of the expression grammar, from the loosest to the tightest:

    expression      equality
    equality        comparison ((`!=` | `==`) comparison)*
    comparison      addition ((`<` | `<=` | `>` | `>=`) addition)*
    addition        multiplication ((`-` | `+`) multiplication)*
    multiplication  unary ((`/` | `*`) unary)*
    unary           (`!` | `-`) unary | primary
    primary         `false` | `true` | `nil` | string | number | `(` expression `)`

Repetitions are folded to the left. Each repetition and each nested group takes a token, so the
number of tokens left bounds both. Where that bound is used up no token is left, and the error for
this is the one that looking at the next token would give.
-/

set_option autoImplicit false
set_option relaxedAutoImplicit false

namespace Lox.Parser

def equalityKinds : List Kind := [.bangEqual, .equalEqual]

def comparisonKinds : List Kind := [.less, .lessEqual, .greater, .greaterEqual]

def additionKinds : List Kind := [.minus, .plus]

def multiplicationKinds : List Kind := [.slash, .star]

def unaryKinds : List Kind := [.bang, .minus]

def literalKinds : List Kind := [.falseWord, .trueWord, .nilWord, .string, .number]

def primaryKinds : List Kind := literalKinds ++ [.leftParen]

def groupContent : Text := "expression".toList

/-- Takes in operands while an operator of the given kinds stands in front of them. -/
def chain (kinds : List Kind) (operand : Parser Expr) : Nat → Expr → Parser Expr
  | 0, _ => outOfTokens
  | bound + 1, left => do
      match ← advanceIf kinds with
      | none => return left
      | some operator => chain kinds operand bound (.binary left operator (← operand))

def joined (kinds : List Kind) (operand : Parser Expr) (bound : Nat) : Parser Expr := do
  chain kinds operand bound (← operand)

def unaryOver (primary : Parser Expr) : Nat → Parser Expr
  | 0 => outOfTokens
  | bound + 1 => do
      match ← advanceIf unaryKinds with
      | none => primary
      | some operator => return .unary operator (← unaryOver primary bound)

def multiplicationOver (primary : Parser Expr) (bound : Nat) : Parser Expr :=
  joined multiplicationKinds (unaryOver primary bound) bound

def additionOver (primary : Parser Expr) (bound : Nat) : Parser Expr :=
  joined additionKinds (multiplicationOver primary bound) bound

def comparisonOver (primary : Parser Expr) (bound : Nat) : Parser Expr :=
  joined comparisonKinds (additionOver primary bound) bound

def equalityOver (primary : Parser Expr) (bound : Nat) : Parser Expr :=
  joined equalityKinds (comparisonOver primary bound) bound

/-- A group behind its opening parenthesis. A missing closing parenthesis is recorded, and the
group is kept. -/
def group (expression : Parser Expr) : Parser Expr := do
  let inner ← insideGroup expression
  if (← advanceIf [.rightParen]).isNone then record (.expectedRightParen groupContent)
  return .grouping inner

/-- Stops because no operand begins at the head. Where the text ends inside a group, the missing
parenthesis is what is reported. -/
def missingOperand : Parser Expr := do
  if (← atEnd) && 0 < (← get).openGroups then
    if (← previous).kind = .leftParen then reject .unclosedGroup
    else reject (.expectedRightParen groupContent)
  else reject (.expectedExpression primaryKinds)

/-- A primary expression with a bound on the nesting of groups. -/
def primaryWithin : Nat → Parser Expr
  | 0 => outOfTokens
  | bound + 1 => do
      match ← advanceIf literalKinds with
      | some value => return .literal value
      | none =>
          match ← advanceIf [.leftParen] with
          | some _ => group (equalityOver (primaryWithin bound) bound)
          | none => missingOperand

/-- Runs a production with the number of tokens left as its bound. -/
def bounded {α : Type} (production : Nat → Parser α) : Parser α := fun state =>
  production state.ahead.length state

def primary : Parser Expr := bounded primaryWithin

def unary : Parser Expr := bounded fun bound => unaryOver (primaryWithin bound) bound

def multiplication : Parser Expr :=
  bounded fun bound => multiplicationOver (primaryWithin bound) bound

def addition : Parser Expr := bounded fun bound => additionOver (primaryWithin bound) bound

def comparison : Parser Expr := bounded fun bound => comparisonOver (primaryWithin bound) bound

def equality : Parser Expr := bounded fun bound => equalityOver (primaryWithin bound) bound

def expression : Parser Expr := equality

end Lox.Parser
