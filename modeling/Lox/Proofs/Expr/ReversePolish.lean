import Mathlib.Algebra.BigOperators.Group.List.Basic
import Mathlib.Algebra.Ring.Int.Defs
import Lox.Proofs.Expr.Relexing

/-!
The reverse Polish form of a tree, read again as tokens and as a tree.

Without parentheses a minus behind two operands may negate the second or join both. Counting tells
the two apart: every literal adds an operand and every joining operator takes one away, so that a
form has as many operands too few as there are minus signs in front of operands. Where there are
none, the tree can be piled up from its tokens.
-/

set_option autoImplicit false
set_option relaxedAutoImplicit false

namespace Lox

open Grammar
open Item (Lexed Spells)

namespace Expr

/-- The tokens of a tree, each operator behind its operands. -/
def postorder : Expr → List Token
  | literal value => [value.unplaced]
  | unary operator operand => operand.postorder ++ [operator.unplaced]
  | binary left operator right => left.postorder ++ (right.postorder ++ [operator.unplaced])
  | grouping inner => inner.postorder ++ [groupToken]

def negations : Expr → Nat
  | literal _ => 0
  | unary operator operand => operand.negations + if operator.kind = .minus then 1 else 0
  | binary left _ right => left.negations + right.negations
  | grouping inner => inner.negations

/-- How many operands a token adds, if a minus is taken to join two. -/
def weight (token : Token) : Int :=
  if token.kind ∈ literals then 1 else if token.kind ∈ binaryOperators then -1 else 0

/-- The trees piled up behind one more token, the last one first, if a minus is taken to join
two. -/
def pile? (trees : List Expr) (token : Token) : Option (List Expr) :=
  if token.kind ∈ literals then some (.literal token :: trees)
  else if token.kind ∈ binaryOperators then
    match trees with
    | right :: left :: others => some (.binary left token right :: others)
    | _ => none
  else
    match trees with
    | inner :: others =>
        if token = groupToken then some (.grouping inner :: others)
        else some (.unary token inner :: others)
    | [] => none

variable {sort : Token → Prop} {tree other : Expr} {operator : Token}

private theorem not_mem_literals_of_operator (operators : operator.kind ∈ binaryOperators) :
    operator.kind ∉ literals := by
  generalize operator.kind = kind at operators
  revert kind
  decide

private theorem weight_of_sign (sign : operator.kind ∈ signs) :
    weight operator.unplaced = -(if operator.kind = .minus then 1 else 0 : Nat) := by
  rw [weight, kind_unplaced]
  generalize operator.kind = kind at sign
  revert kind
  decide

private theorem weight_groupToken : weight groupToken = 0 := by decide

/-- A form lacks one operand for each minus in front of an operand. -/
private theorem MadeOf.sum_weight_postorder (made : tree.MadeOf sort) :
    (tree.postorder.map weight).sum = 1 - (tree.negations : Int) := by
  induction made with
  | literal kind own =>
      simp [postorder, negations, weight, kind_unplaced, kind]
  | unary kind own inner ih =>
      simp only [postorder, negations, List.map_append, List.map_singleton, List.sum_append,
        List.sum_singleton, ih, weight_of_sign kind, Int.natCast_add]
      omega
  | @binary operator left right kind own before behind beforeIh behindIh =>
      have taken : weight operator.unplaced = -1 := by
        rw [weight, kind_unplaced, if_neg (not_mem_literals_of_operator kind), if_pos kind]
      simp only [postorder, negations, List.map_append, List.map_singleton, List.sum_append,
        List.sum_singleton, beforeIh, behindIh, taken, Int.natCast_add]
      omega
  | grouping content ih =>
      simp only [postorder, negations, List.map_append, List.map_singleton, List.sum_append,
        List.sum_singleton, ih, weight_groupToken]
      omega

private theorem MadeOf.negations_eq (made : tree.MadeOf sort) (another : other.MadeOf sort)
    (same : tree.postorder = other.postorder) : tree.negations = other.negations := by
  have sums := made.sum_weight_postorder
  rw [same, another.sum_weight_postorder] at sums
  omega

private theorem pile?_literal (kind : operator.kind ∈ literals) (trees : List Expr) :
    pile? trees operator.unplaced = some (.literal operator.unplaced :: trees) := if_pos kind

private theorem pile?_binary (kind : operator.kind ∈ binaryOperators) (left right : Expr)
    (trees : List Expr) :
    pile? (right :: left :: trees) operator.unplaced =
      some (.binary left operator.unplaced right :: trees) := by
  unfold pile?
  rw [kind_unplaced, if_neg (not_mem_literals_of_operator kind), if_pos kind]

private theorem pile?_unary (kind : operator.kind ∈ signs) (other : operator.kind ≠ .minus)
    (inner : Expr) (trees : List Expr) :
    pile? (inner :: trees) operator.unplaced = some (.unary operator.unplaced inner :: trees) := by
  have joining : operator.kind ∉ binaryOperators := by
    generalize operator.kind = own at kind other
    revert own
    decide
  unfold pile?
  rw [kind_unplaced, if_neg (not_mem_literals kind), if_neg joining]
  exact if_neg (MadeOf.operator_ne_groupToken (.inl kind))

private theorem pile?_groupToken (inner : Expr) (trees : List Expr) :
    pile? (inner :: trees) groupToken = some (.grouping inner :: trees) := rfl

/-- Where no minus stands in front of an operand, the tokens of a tree pile it up. -/
private theorem MadeOf.foldlM_pile? (made : tree.MadeOf sort) (plain : tree.negations = 0)
    (trees : List Expr) (rest : List Token) :
    (tree.postorder ++ rest).foldlM pile? trees = rest.foldlM pile? (tree.unplaced :: trees) := by
  induction made generalizing trees rest with
  | literal kind own =>
      rw [postorder, List.singleton_append, List.foldlM_cons, pile?_literal kind]
      rfl
  | @unary operator operand kind own inner ih =>
      have none : operand.negations = 0 := by
        rw [negations] at plain
        omega
      have other : operator.kind ≠ .minus := by
        intro minus
        rw [negations, if_pos minus] at plain
        contradiction
      rw [postorder, List.append_assoc, ih none, List.singleton_append, List.foldlM_cons,
        pile?_unary kind other]
      rfl
  | @binary operator left right kind own before behind beforeIh behindIh =>
      obtain ⟨first, second⟩ : left.negations = 0 ∧ right.negations = 0 := by
        rw [negations] at plain
        omega
      rw [postorder, List.append_assoc, List.append_assoc, beforeIh first, behindIh second,
        List.singleton_append, List.foldlM_cons, pile?_binary kind]
      rfl
  | grouping content ih =>
      rw [postorder, List.append_assoc, ih plain, List.singleton_append, List.foldlM_cons,
        pile?_groupToken]
      rfl

theorem MadeOf.postorder_inj (made : tree.MadeOf sort) (another : other.MadeOf sort)
    (plain : tree.negations = 0) (same : tree.postorder = other.postorder) :
    tree.unplaced = other.unplaced := by
  have plain' : other.negations = 0 := by rw [← made.negations_eq another same, plain]
  have piled := made.foldlM_pile? plain [] []
  rw [same, another.foldlM_pile? plain' [] []] at piled
  obtain ⟨trees, -⟩ := List.cons.inj (Option.some.inj piled)
  exact trees.symm

private theorem MadeOf.spells_reversePolish (made : tree.MadeOf Lexed) :
    Spells tree.reversePolish tree.postorder := by
  have blank : ' ' ∈ Item.blanks := by decide
  induction made with
  | literal kind own => exact .of_lexed own
  | unary kind own inner ih => exact ih.spaced blank (spells_operator own (.inl kind))
  | binary kind own before behind beforeIh behindIh =>
      have operands := behindIh.spaced blank (spells_operator own (.inr kind))
      exact beforeIh.spaced blank operands
  | grouping content ih => exact ih.spaced blank spells_groupWord

end Expr

variable {source : Text} {tree : Expr} {errors : List ParseError}

/-- The reverse Polish form of a tree read from a source is free of lexical errors, and its tokens
are those of the tree, each operator behind its operands. If no minus stands in front of an operand,
only the same tree, up to places, has that form. -/
theorem scan_reversePolish_of_parse
    (parsed : parse (scan source).tokens = .ok ⟨tree, errors⟩) :
    (scan (tree.render .reversePolish)).errors = [] ∧
      (scan (tree.render .reversePolish)).tokens.map Token.unplaced =
        tree.postorder ++ [.atEnd .start] ∧
      ∀ (source' : Text) (tree' : Expr) (errors' : List ParseError),
        parse (scan source').tokens = .ok ⟨tree', errors'⟩ → tree.negations = 0 →
          tree.render .reversePolish = tree'.render .reversePolish →
            tree.unplaced = tree'.unplaced ∧ tree'.negations = 0 := by
  have made := madeOf_lexed_of_parse parsed
  obtain ⟨clean, tokens⟩ := made.spells_reversePolish.scanned
  refine ⟨clean, tokens, ?_⟩
  intro source' tree' errors' parsed' plain same
  have made' := madeOf_lexed_of_parse parsed'
  have tokens' := made'.spells_reversePolish.scanned.2
  have form : tree'.reversePolish = tree.reversePolish := same.symm
  rw [form, tokens] at tokens'
  have orders := List.append_cancel_right tokens'
  exact ⟨made.postorder_inj made' plain orders, made.negations_eq made' orders ▸ plain⟩

theorem scan_reversePolish_openComparison :
    (∃ errors, parse (scan openComparison).tokens = .ok ⟨openComparisonTree, errors⟩ ∧
      (scan "\"a\\\"b\" 1 - < group".toList).tokens.map Token.unplaced =
        openComparisonTree.postorder ++ [.atEnd .start]) ∧
      parse (scan "1-2".toList).tokens = .ok ⟨subtractionAt 0 1 2, []⟩ ∧
      parse (scan "1 - 2".toList).tokens = .ok ⟨subtractionAt 0 2 4, []⟩ ∧
      (subtractionAt 0 1 2).negations = 0 ∧
      (subtractionAt 0 1 2).render .reversePolish = (subtractionAt 0 2 4).render .reversePolish ∧
      (subtractionAt 0 1 2).unplaced = (subtractionAt 0 2 4).unplaced := by
  have parsed : parse (scan openComparison).tokens =
      .ok ⟨openComparisonTree, [Parser.missingParen (.atEnd ⟨1, 12⟩) 5]⟩ := by
    decide +kernel
  have dense : parse (scan "1-2".toList).tokens = .ok ⟨subtractionAt 0 1 2, []⟩ := by
    decide +kernel
  have loose : parse (scan "1 - 2".toList).tokens = .ok ⟨subtractionAt 0 2 4, []⟩ := by
    decide +kernel
  have form : openComparisonTree.render .reversePolish = "\"a\\\"b\" 1 - < group".toList := by
    decide
  have same : (subtractionAt 0 1 2).render .reversePolish =
      (subtractionAt 0 2 4).render .reversePolish := by
    decide
  obtain ⟨-, tokens, -⟩ := scan_reversePolish_of_parse parsed
  obtain ⟨-, -, only⟩ := scan_reversePolish_of_parse dense
  rw [form] at tokens
  exact ⟨⟨_, parsed, tokens⟩, dense, loose, rfl, same, (only _ _ _ loose rfl same).1⟩

/-- With a minus in front of an operand two trees can have one form. -/
example :
    (parse (scan "1 < -2 - 3".toList).tokens).toOption.map (·.tree.reversePolish) =
      (parse (scan "1 - 2 < -3".toList).tokens).toOption.map (·.tree.reversePolish) := by
  decide +kernel

end Lox
