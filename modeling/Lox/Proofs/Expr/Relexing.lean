import Mathlib.Control.Monad.Basic
import Lox.Proofs.Expr.Linear

/-!
The parenthesized form of a tree, read again as tokens.

Every literal and every operator of a tree that was read comes from a source text, and is read again
from the form as the token it was. So the form determines the tree up to places.
-/

set_option autoImplicit false
set_option relaxedAutoImplicit false

namespace Lox

open Grammar
open Item (Lexed Spells)

namespace Expr

variable {sort other : Token → Prop} {tree : Expr} {token : Token}

theorem MadeOf.imp (made : tree.MadeOf sort)
    (weaken : ∀ token, token.kind ≠ .eof → sort token → other token) : tree.MadeOf other := by
  have proper {kinds : List Kind} {token : Token} (kind : token.kind ∈ kinds)
      (none : .eof ∉ kinds) : token.kind ≠ .eof := fun eof => none (eof ▸ kind)
  induction made with
  | literal kind own => exact .literal kind (weaken _ (proper kind (by decide)) own)
  | unary kind own inner ih => exact .unary kind (weaken _ (proper kind (by decide)) own) ih
  | binary kind own before behind beforeIh behindIh =>
      exact .binary kind (weaken _ (proper kind (by decide)) own) beforeIh behindIh
  | grouping content ih => exact .grouping ih

theorem spells_operator (lexed : Lexed token)
    (kind : token.kind ∈ signs ∨ token.kind ∈ binaryOperators) :
    Spells token.lexeme [token.unplaced] := by
  have other : token.kind ≠ .string := by
    intro string
    rw [string] at kind
    exact absurd kind (by decide)
  rw [← Token.display_eq_lexeme other]
  exact .of_lexed lexed

theorem spells_groupWord : Spells groupWord [groupToken] := by
  have word : Item.IsToken .start (.word groupWord) groupToken :=
    .identifier (Kind.ofReserved?_eq_none_iff.mp (by decide))
  have fits : Item.Fits (.word groupWord) [] :=
    .word (by decide) (List.all_eq_true.mp (by decide)) Text.stops_nil
  exact .of_lexed ⟨_, _, _, word, fits⟩

theorem MadeOf.spells (made : tree.MadeOf Lexed) : Spells tree.parenthesized tree.linear := by
  have blank : ' ' ∈ Item.blanks := by decide
  induction made with
  | literal kind own => exact .of_lexed own
  | @unary operator operand kind own inner ih =>
      have spells := ((spells_operator own (.inl kind)).spaced blank ih).enclosed
      simpa [parenthesized, linear, operation] using spells
  | @binary operator left right kind own before behind beforeIh behindIh =>
      have operands := beforeIh.spaced blank behindIh
      have spells := ((spells_operator own (.inr kind)).spaced blank operands).enclosed
      simpa [parenthesized, linear, operation] using spells
  | grouping content ih =>
      have spells := (spells_groupWord.spaced blank ih).enclosed
      simpa [parenthesized, linear, operation] using spells

end Expr

variable {source : Text} {tree : Expr} {errors : List ParseError}

theorem madeOf_lexed_of_parse (parsed : parse (scan source).tokens = .ok ⟨tree, errors⟩) :
    tree.MadeOf Lexed := by
  have made := madeOf_of_parse (Item.exists_eof_mem_scan source) parsed
  exact made.imp fun token inside member => Item.lexed_of_mem_scan member inside

/-- The parenthesized form of a tree read from a source is free of lexical errors, and its tokens
are those of the tree, with the operators in front and in the same parentheses. -/
theorem scan_parenthesized_of_parse
    (parsed : parse (scan source).tokens = .ok ⟨tree, errors⟩) :
    (scan (tree.render .parenthesized)).errors = [] ∧
      (scan (tree.render .parenthesized)).tokens.map Token.unplaced =
        tree.linear ++ [.atEnd .start] :=
  (madeOf_lexed_of_parse parsed).spells.scanned

/-- The source `("a\"b" < -1`, where a quote is escaped and a group is open. -/
def openComparison : Text := "(\"a\\\"b\" < -1".toList

def openComparisonTree : Expr :=
  let content := "a\\\"b".toList
  let left := Expr.literal ⟨.string, some (.string content), ⟨content, ⟨1, 2⟩⟩⟩
  let one := Expr.literal ⟨.number, some (.number ⟨0x3FF0000000000000⟩), ⟨['1'], ⟨1, 11⟩⟩⟩
  let right := Expr.unary ⟨.minus, none, ⟨['-'], ⟨1, 10⟩⟩⟩ one
  .grouping (.binary left ⟨.less, none, ⟨['<'], ⟨1, 8⟩⟩⟩ right)

theorem scan_parenthesized_openComparison :
    ∃ errors, errors ≠ [] ∧
      parse (scan openComparison).tokens = .ok ⟨openComparisonTree, errors⟩ ∧
      (scan "(group (< \"a\\\"b\" (- 1)))".toList).tokens.map Token.unplaced =
        openComparisonTree.linear ++ [.atEnd .start] := by
  have parsed : parse (scan openComparison).tokens =
      .ok ⟨openComparisonTree, [Parser.missingParen (.atEnd ⟨1, 12⟩) 5]⟩ := by
    decide +kernel
  have form : openComparisonTree.render .parenthesized =
      "(group (< \"a\\\"b\" (- 1)))".toList := by
    decide
  obtain ⟨-, tokens⟩ := scan_parenthesized_of_parse parsed
  rw [form] at tokens
  exact ⟨_, List.cons_ne_nil _ _, parsed, tokens⟩

/-- Trees read from sources are the same up to places if their parenthesized forms are. -/
theorem unplaced_eq_of_parenthesized_eq {source' : Text} {tree' : Expr} {errors' : List ParseError}
    (parsed : parse (scan source).tokens = .ok ⟨tree, errors⟩)
    (parsed' : parse (scan source').tokens = .ok ⟨tree', errors'⟩)
    (same : tree.render .parenthesized = tree'.render .parenthesized) :
    tree.unplaced = tree'.unplaced := by
  have made := madeOf_lexed_of_parse parsed
  have made' := madeOf_lexed_of_parse parsed'
  have tokens := made'.spells.scanned.2
  have form : tree'.parenthesized = tree.parenthesized := same.symm
  rw [form, made.spells.scanned.2] at tokens
  exact (made.linear_append_inj made' tokens).1

def subtractionAt (first sign second : Nat) : Expr :=
  .binary (.literal ⟨.number, some (.number ⟨0x3FF0000000000000⟩), ⟨['1'], ⟨1, first⟩⟩⟩)
    ⟨.minus, none, ⟨['-'], ⟨1, sign⟩⟩⟩
    (.literal ⟨.number, some (.number ⟨0x4000000000000000⟩), ⟨['2'], ⟨1, second⟩⟩⟩)

theorem unplaced_eq_subtractionAt :
    parse (scan "1-2".toList).tokens = .ok ⟨subtractionAt 0 1 2, []⟩ ∧
      parse (scan "1 - 2".toList).tokens = .ok ⟨subtractionAt 0 2 4, []⟩ ∧
      (subtractionAt 0 1 2).render .parenthesized = (subtractionAt 0 2 4).render .parenthesized ∧
      (subtractionAt 0 1 2).unplaced = (subtractionAt 0 2 4).unplaced := by
  have dense : parse (scan "1-2".toList).tokens = .ok ⟨subtractionAt 0 1 2, []⟩ := by
    decide +kernel
  have loose : parse (scan "1 - 2".toList).tokens = .ok ⟨subtractionAt 0 2 4, []⟩ := by
    decide +kernel
  have same : (subtractionAt 0 1 2).render .parenthesized =
      (subtractionAt 0 2 4).render .parenthesized := by
    decide
  exact ⟨dense, loose, same, unplaced_eq_of_parenthesized_eq dense loose same⟩

end Lox
