import Lox.Expr.Basic

/-!
The grammar of expressions as a relation between tokens and trees, apart from any way to read them.

A level joins operands of the next tighter level, and its tree leans to the left however many
operators there are. Trees keep every token but the parentheses, and of these they keep the places.
-/

set_option autoImplicit false
set_option relaxedAutoImplicit false

namespace Lox.Grammar

/-- The levels at which operands are joined by operators, from the loosest to the tightest. -/
inductive Level
  | equality | comparison | addition | multiplication
  deriving DecidableEq

inductive Nonterminal
  | joined (level : Level)
  | unary
  | primary
  deriving DecidableEq

def Level.operators : Level → List Kind
  | equality => [.bangEqual, .equalEqual]
  | comparison => [.less, .lessEqual, .greater, .greaterEqual]
  | addition => [.minus, .plus]
  | multiplication => [.slash, .star]

def Level.operand : Level → Nonterminal
  | equality => .joined comparison
  | comparison => .joined addition
  | addition => .joined multiplication
  | multiplication => .unary

def signs : List Kind := [.bang, .minus]

def literals : List Kind := [.falseWord, .trueWord, .nilWord, .string, .number]

abbrev Nonterminal.expression : Nonterminal := .joined .equality

/-- An operator and the operand behind it, with the tokens of that operand. -/
structure Continuation where
  operator : Token
  tokens : List Token
  operand : Expr

namespace Continuation

def text (next : Continuation) : List Token := next.operator :: next.tokens

def join (left : Expr) (next : Continuation) : Expr := .binary left next.operator next.operand

end Continuation

/-- The tree that the grammar gives to some tokens. -/
inductive Derives : Nonterminal → List Token → Expr → Prop
  /-- An operand of a level, and any number of its operators, each with a further operand. -/
  | joined {level : Level} {tokens : List Token} {first : Expr} {more : List Continuation}
      (start : Derives level.operand tokens first)
      (operators : ∀ next ∈ more, next.operator.kind ∈ level.operators)
      (operands : ∀ next ∈ more, Derives level.operand next.tokens next.operand) :
      Derives (.joined level) (tokens ++ more.flatMap Continuation.text)
        (more.foldl Continuation.join first)
  | signed {sign : Token} {tokens : List Token} {operand : Expr}
      (kind : sign.kind ∈ signs) (rest : Derives .unary tokens operand) :
      Derives .unary (sign :: tokens) (.unary sign operand)
  | bare {tokens : List Token} {tree : Expr} (only : Derives .primary tokens tree) :
      Derives .unary tokens tree
  | literal {token : Token} (kind : token.kind ∈ literals) :
      Derives .primary [token] (.literal token)
  | group {opening closing : Token} {tokens : List Token} {inner : Expr}
      (left : opening.kind = .leftParen) (right : closing.kind = .rightParen)
      (content : Derives .expression tokens inner) :
      Derives .primary (opening :: (tokens ++ [closing])) (.grouping inner)

def tokenOf (kind : Kind) : Token := ⟨kind, none, ⟨kind.symbolText, .start⟩⟩

/-- The kinds of the tokens of some expression. -/
def Sentence (kinds : List Kind) : Prop :=
  ∃ tokens tree, tokens.map Token.kind = kinds ∧ Derives .expression tokens tree

/-- What a tree keeps of a token: of a parenthesis, that it was there. -/
inductive Mark
  | opening
  | closing
  | kept (token : Token)
  deriving DecidableEq

def Mark.of (token : Token) : Mark :=
  match token.kind with
  | .leftParen => .opening
  | .rightParen => .closing
  | _ => .kept token

/-- The literals and operators of a tree from left to right, with parentheses around each group. -/
def marks : Expr → List Mark
  | .literal value => [.kept value]
  | .unary operator operand => .kept operator :: marks operand
  | .binary left operator right => marks left ++ .kept operator :: marks right
  | .grouping inner => .opening :: (marks inner ++ [.closing])

namespace Nonterminal

/-- The operators that continue what a nonterminal derives: those of its level and of every
tighter one. -/
def continuing : Nonterminal → List Kind
  | joined .equality =>
      Level.equality.operators ++ Level.comparison.operators ++ Level.addition.operators ++
        Level.multiplication.operators
  | joined .comparison =>
      Level.comparison.operators ++ Level.addition.operators ++ Level.multiplication.operators
  | joined .addition => Level.addition.operators ++ Level.multiplication.operators
  | joined .multiplication => Level.multiplication.operators
  | unary | primary => []

end Nonterminal

abbrev binaryOperators : List Kind := Nonterminal.expression.continuing

theorem mem_continuing_joined {level : Level} {kind : Kind} :
    kind ∈ (Nonterminal.joined level).continuing ↔
      kind ∈ level.operators ∨ kind ∈ level.operand.continuing := by
  cases level <;> simp [Nonterminal.continuing, Level.operators, Level.operand, or_assoc]

theorem not_mem_literals {kind : Kind} (sign : kind ∈ signs) : kind ∉ literals := by
  revert kind
  decide

theorem not_mem_continuing_operand {level : Level} {kind : Kind} (own : kind ∈ level.operators) :
    kind ∉ level.operand.continuing := by
  revert kind
  cases level <;> decide

theorem mem_binaryOperators_of_continuing {symbol : Nonterminal} {kind : Kind}
    (continuing : kind ∈ symbol.continuing) : kind ∈ binaryOperators := by
  revert kind
  rcases symbol with level | _ | _
  · cases level <;> decide
  · decide
  · decide

theorem Level.operators_subset {level : Level} {kind : Kind} (own : kind ∈ level.operators) :
    kind ∈ binaryOperators :=
  mem_binaryOperators_of_continuing (mem_continuing_joined.mpr (.inl own))

theorem Level.eof_not_mem_operators {level : Level} : .eof ∉ level.operators := by
  cases level <;> decide

private theorem Mark.of_eq_kept {token : Token} {kinds : List Kind} (kind : token.kind ∈ kinds)
    (left : .leftParen ∉ kinds) (right : .rightParen ∉ kinds) : Mark.of token = .kept token := by
  unfold Mark.of
  split
  · rename_i paren
    exact absurd (paren ▸ kind) left
  · rename_i paren
    exact absurd (paren ▸ kind) right
  · rfl

private theorem marks_foldl_join {first : Expr} {more : List Continuation} {level : Level}
    (operators : ∀ next ∈ more, next.operator.kind ∈ level.operators)
    (operands : ∀ next ∈ more, next.tokens.map Mark.of = marks next.operand) :
    marks (more.foldl Continuation.join first) =
      marks first ++ (more.flatMap Continuation.text).map Mark.of := by
  induction more generalizing first with
  | nil => simp
  | cons next more ih =>
      have own := Level.operators_subset (operators next List.mem_cons_self)
      have operator := Mark.of_eq_kept own (by decide) (by decide)
      rw [List.foldl_cons, ih (fun later member => operators later (.tail _ member))
        (fun later member => operands later (.tail _ member))]
      simp [Continuation.join, Continuation.text, marks, operator,
        operands next List.mem_cons_self]

namespace Derives

theorem single {level : Level} {tokens : List Token} {tree : Expr}
    (start : Derives level.operand tokens tree) : Derives (.joined level) tokens tree := by
  have derives := @Derives.joined level tokens tree [] start (by simp) (by simp)
  simpa using derives

theorem extend {level : Level} {tokens operandTokens : List Token} {left right : Expr}
    {operator : Token} (before : Derives (.joined level) tokens left)
    (own : operator.kind ∈ level.operators) (operand : Derives level.operand operandTokens right) :
    Derives (.joined level) (tokens ++ [operator] ++ operandTokens)
      (.binary left operator right) := by
  cases before with
  | @joined _ start first more derives operators operands =>
      let next : Continuation := ⟨operator, operandTokens, right⟩
      have derived : Derives (.joined level) (start ++ (more ++ [next]).flatMap Continuation.text)
          ((more ++ [next]).foldl Continuation.join first) := by
        refine .joined derives ?_ ?_
        · intro later member
          rcases List.mem_append.mp member with old | new
          · exact operators later old
          · obtain rfl := List.mem_singleton.mp new
            exact own
        · intro later member
          rcases List.mem_append.mp member with old | new
          · exact operands later old
          · obtain rfl := List.mem_singleton.mp new
            exact operand
      simpa [Continuation.text, Continuation.join, next] using derived

/-- The literals and operators of a tree from left to right, with the parentheses put back, are
the tokens it was derived from. -/
theorem map_mark {symbol : Nonterminal} {tokens : List Token} {tree : Expr}
    (derives : Derives symbol tokens tree) : tokens.map Mark.of = marks tree := by
  induction derives with
  | joined _ operators _ start operands =>
      rw [marks_foldl_join operators operands, List.map_append, start]
  | @signed sign tokens operand kind _ rest =>
      have kept := Mark.of_eq_kept kind (by decide) (by decide)
      simp [marks, kept, rest]
  | bare _ ih => exact ih
  | @literal token kind =>
      have kept := Mark.of_eq_kept kind (by decide) (by decide)
      simp [marks, kept]
  | group left right _ content => simp [marks, Mark.of, left, right, content]

end Derives

end Lox.Grammar
