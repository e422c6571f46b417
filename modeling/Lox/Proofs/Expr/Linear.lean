import Lox.Expr.Rendering
import Lox.Proofs.Grammar.Ending
import Lox.Proofs.Item.Spelling

/-!
Trees written as tokens, the operator in front and parentheses around every operation.

The places of tokens do not count here. A tree can be read back from its tokens, whatever follows
them: the kind of each token tells whether an operand or the end of an operation comes next. This
needs that literals, operators and the word for groups are of different kinds.
-/

set_option autoImplicit false
set_option relaxedAutoImplicit false

namespace Lox

namespace Expr

open Grammar

def unplaced : Expr → Expr
  | literal value => literal value.unplaced
  | unary operator operand => unary operator.unplaced operand.unplaced
  | binary left operator right => binary left.unplaced operator.unplaced right.unplaced
  | grouping inner => grouping inner.unplaced

def groupToken : Token := ⟨.identifier, none, ⟨groupWord, .start⟩⟩

def operation (operator : Token) (operands : List Token) : List Token :=
  tokenOf .leftParen :: operator :: (operands ++ [tokenOf .rightParen])

/-- The tokens of a tree, each operator in front of its operands. -/
def linear : Expr → List Token
  | literal value => [value.unplaced]
  | unary operator operand => operation operator.unplaced operand.linear
  | binary left operator right => operation operator.unplaced (left.linear ++ right.linear)
  | grouping inner => operation groupToken inner.linear

/-- A tree whose literals and operators are of the kinds that the grammar gives them, and are
tokens of some sort. -/
inductive MadeOf (sort : Token → Prop) : Expr → Prop
  | literal {value : Token} (kind : value.kind ∈ literals) (own : sort value) :
      MadeOf sort (.literal value)
  | unary {operator : Token} {operand : Expr} (kind : operator.kind ∈ signs) (own : sort operator)
      (inner : MadeOf sort operand) : MadeOf sort (.unary operator operand)
  | binary {operator : Token} {left right : Expr} (kind : operator.kind ∈ binaryOperators)
      (own : sort operator) (before : MadeOf sort left) (behind : MadeOf sort right) :
      MadeOf sort (.binary left operator right)
  | grouping {inner : Expr} (content : MadeOf sort inner) : MadeOf sort (.grouping inner)

section readability

variable {sort : Token → Prop} {tree other : Expr} {rest others : List Token}

theorem kind_unplaced (token : Token) : token.unplaced.kind = token.kind := rfl

private theorem operation_append (operator : Token) (operands rest : List Token) :
    operation operator operands ++ rest =
      tokenOf .leftParen :: operator :: (operands ++ tokenOf .rightParen :: rest) := by
  simp [operation]

private theorem operation_append_inj {operator operator' : Token} {operands operands' : List Token}
    (same : operation operator operands ++ rest = operation operator' operands' ++ others) :
    operator = operator' ∧
      operands ++ tokenOf .rightParen :: rest = operands' ++ tokenOf .rightParen :: others := by
  rw [operation_append, operation_append] at same
  exact List.cons.inj (List.cons.inj same).2

private theorem MadeOf.linear_append_ne (made : tree.MadeOf sort) :
    tree.linear ++ others ≠ tokenOf .rightParen :: rest := by
  -- No operand begins with a closing parenthesis, so one ends the operands in front of it.
  intro same
  cases made with
  | @literal value literal =>
      obtain ⟨closing, -⟩ := List.cons.inj same
      rw [← kind_unplaced, closing] at literal
      exact absurd literal (by decide)
  | unary | binary | grouping =>
      obtain ⟨closing, -⟩ := List.cons.inj same
      exact absurd (congrArg Token.kind closing) (by decide)

private theorem MadeOf.literal_ne_operation {value operator : Token} {operands : List Token}
    (kind : value.kind ∈ literals) :
    value.unplaced :: rest ≠ operation operator operands ++ others := by
  intro same
  rw [operation_append] at same
  obtain ⟨opening, -⟩ := List.cons.inj same
  rw [← kind_unplaced, opening] at kind
  exact absurd kind (by decide)

theorem MadeOf.operator_ne_groupToken {operator : Token}
    (kind : operator.kind ∈ signs ∨ operator.kind ∈ binaryOperators) :
    operator.unplaced ≠ groupToken := by
  intro same
  rw [← kind_unplaced, same] at kind
  exact absurd kind (by decide)

/-- A tree and what follows it can be read back from their tokens. -/
theorem MadeOf.linear_append_inj (made : tree.MadeOf sort) (another : other.MadeOf sort)
    (same : tree.linear ++ rest = other.linear ++ others) :
    tree.unplaced = other.unplaced ∧ rest = others := by
  induction made generalizing other rest others with
  | literal kind own =>
      cases another with
      | literal =>
          obtain ⟨value, behind⟩ := List.cons.inj same
          exact ⟨congrArg Expr.literal value, behind⟩
      | unary | binary | grouping => exact absurd same (literal_ne_operation kind)
  | @unary operator operand kind own inner ih =>
      cases another with
      | literal kind' => exact absurd same.symm (literal_ne_operation kind')
      | unary kind' own' inner' =>
          obtain ⟨operators, operands⟩ := operation_append_inj same
          obtain ⟨trees, behind⟩ := ih inner' operands
          refine ⟨?_, (List.cons.inj behind).2⟩
          rw [unplaced, unplaced, operators, trees]
      | binary kind' own' before' behind' =>
          obtain ⟨-, operands⟩ := operation_append_inj same
          rw [List.append_assoc] at operands
          obtain ⟨-, behind⟩ := ih before' operands
          exact absurd behind.symm behind'.linear_append_ne
      | grouping =>
          exact absurd (operation_append_inj same).1 (operator_ne_groupToken (.inl kind))
  | @binary operator left right kind own before behind beforeIh behindIh =>
      cases another with
      | literal kind' => exact absurd same.symm (literal_ne_operation kind')
      | unary kind' own' inner' =>
          obtain ⟨-, operands⟩ := operation_append_inj same
          rw [List.append_assoc] at operands
          obtain ⟨-, closing⟩ := beforeIh inner' operands
          exact absurd closing behind.linear_append_ne
      | binary kind' own' before' behind' =>
          obtain ⟨operators, operands⟩ := operation_append_inj same
          rw [List.append_assoc, List.append_assoc] at operands
          obtain ⟨lefts, operands⟩ := beforeIh before' operands
          obtain ⟨rights, closing⟩ := behindIh behind' operands
          refine ⟨?_, (List.cons.inj closing).2⟩
          rw [unplaced, unplaced, operators, lefts, rights]
      | grouping =>
          exact absurd (operation_append_inj same).1 (operator_ne_groupToken (.inr kind))
  | @grouping inner content ih =>
      cases another with
      | literal kind' => exact absurd same.symm (literal_ne_operation kind')
      | unary kind' =>
          exact absurd (operation_append_inj same).1.symm (operator_ne_groupToken (.inl kind'))
      | binary kind' =>
          exact absurd (operation_append_inj same).1.symm (operator_ne_groupToken (.inr kind'))
      | grouping content' =>
          obtain ⟨-, operands⟩ := operation_append_inj same
          obtain ⟨trees, closing⟩ := ih content' operands
          refine ⟨?_, (List.cons.inj closing).2⟩
          rw [unplaced, unplaced, trees]

end readability

end Expr

namespace Grammar

variable {sort : Token → Prop} {tokens : List Token} {tree : Expr}

private theorem madeOf_foldl_join {first : Expr} {more : List Continuation}
    (start : first.MadeOf sort)
    (operators : ∀ next ∈ more, next.operator.kind ∈ binaryOperators ∧ sort next.operator)
    (operands : ∀ next ∈ more, next.operand.MadeOf sort) :
    (more.foldl Continuation.join first).MadeOf sort := by
  induction more generalizing first with
  | nil => exact start
  | cons next more ih =>
      obtain ⟨kind, own⟩ := operators next List.mem_cons_self
      have joined := start.binary kind own (operands next List.mem_cons_self)
      exact ih joined (fun later member => operators later (.tail _ member))
        (fun later member => operands later (.tail _ member))

private theorem Derives.madeOf {symbol : Nonterminal} (derives : Derives symbol tokens tree)
    (own : ∀ token ∈ tokens, token.kind ≠ .rightParen → sort token) : tree.MadeOf sort := by
  induction derives with
  | @joined level tokens first more _ operators _ start operands =>
      have inside : ∀ next ∈ more, ∀ token ∈ next.text, token.kind ≠ .rightParen → sort token := by
        intro next member token later
        refine own token (List.mem_append_right _ ?_)
        exact List.mem_flatMap.mpr ⟨next, member, later⟩
      refine madeOf_foldl_join (start fun token member => own token (by simp [member])) ?_ ?_
      · intro next member
        have operator := Level.operators_subset (operators next member)
        refine ⟨operator, inside next member _ List.mem_cons_self ?_⟩
        intro closing
        rw [closing] at operator
        exact absurd operator (by decide)
      · intro next member
        exact operands next member fun token later =>
          inside next member token (List.mem_cons_of_mem _ later)
  | @signed sign tokens operand kind _ rest =>
      refine .unary kind (own sign List.mem_cons_self ?_)
        (rest fun token member => own token (List.mem_cons_of_mem _ member))
      intro closing
      rw [closing] at kind
      exact absurd kind (by decide)
  | bare _ only => exact only own
  | @literal token kind =>
      refine .literal kind (own token List.mem_cons_self ?_)
      intro closing
      rw [closing] at kind
      exact absurd kind (by decide)
  | group _ _ _ content =>
      exact .grouping (content fun token member => own token (by simp [member]))

/-- The tree that is read from tokens is made of them, also next to errors. -/
theorem madeOf_of_parse {errors : List ParseError} (atEnd : ∃ token ∈ tokens, token.kind = .eof)
    (parsed : parse tokens = .ok ⟨tree, errors⟩) : tree.MadeOf (· ∈ tokens) := by
  have run := ending atEnd
  rw [parsed] at run
  cases run with
  | @read read rest next _ missing _ split derives stops noticed =>
      have derived := derives (List.replicate missing (tokenOf .rightParen)) List.map_replicate
      refine derived.madeOf ?_
      intro token member other
      rcases List.mem_append.mp member with front | closing
      · rw [split]
        exact List.mem_append_left _ front
      · rw [List.eq_of_mem_replicate closing] at other
        exact absurd rfl other

end Grammar

end Lox
