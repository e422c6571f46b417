import Mathlib.Control.Monad.Basic
import Lox.Proofs.Grammar.Acceptance
import Lox.Proofs.Grammar.Ending

/-!
A tree read without errors is the tree that the grammar derives.
-/

set_option autoImplicit false
set_option relaxedAutoImplicit false

namespace Lox.Grammar

open Lox.Parser

theorem parse_of_derives {tokens : List Token} {tree : Expr} {final : Token}
    (derives : Derives .expression tokens tree) (atEnd : final.kind = .eof) (rest : List Token) :
    parse (tokens ++ final :: rest) = .ok ⟨tree, []⟩ := by
  have stops : final.kind ∉ Nonterminal.expression.continuing := by
    rw [atEnd]
    decide
  have read := (accepts_primaryWithin (tokens ++ final :: rest).length).equality
    derives (show (ParseState.start (tokens ++ final :: rest)).ahead = _ from rfl)
    (Nat.le_refl _) stops
  have run : expression (.start (tokens ++ final :: rest)) = .ok tree _ := read
  rw [parse_of_ok run rfl, leftOver_eq_nil.mpr atEnd]
  rfl

theorem Derives.tree_unique {tokens : List Token} {tree other : Expr}
    (derives : Derives .expression tokens tree) (another : Derives .expression tokens other) :
    tree = other := by
  have atEnd : (tokenOf .eof).kind = .eof := rfl
  have first := parse_of_derives derives atEnd []
  rw [parse_of_derives another atEnd []] at first
  exact (Parsed.mk.inj (Except.ok.inj first)).1.symm

theorem derives_of_parse {tokens : List Token} {tree : Expr} {final : Token}
    (inside : ∀ token ∈ tokens, token.kind ≠ .eof) (atEnd : final.kind = .eof)
    (parsed : parse (tokens ++ [final]) = .ok ⟨tree, []⟩) : Derives .expression tokens tree := by
  have run : Ending (tokens ++ [final]) _ := ending ⟨final, by simp, atEnd⟩
  rw [parsed] at run
  obtain ⟨read, next, rest, _, split, eof, derives, same⟩ := run.derives rfl
  obtain ⟨⟩ := same
  rcases split_concat split with ⟨rfl, -⟩ | ⟨more, rfl⟩
  · exact derives
  · exact absurd eof (inside next (by simp))

/-- Reading gives a tree and no errors exactly where the grammar derives that tree, and the tree
keeps all tokens in their order. -/
theorem parse_eq_ok_iff_derives {tokens : List Token} {tree : Expr} {final : Token}
    (inside : ∀ token ∈ tokens, token.kind ≠ .eof) (atEnd : final.kind = .eof) :
    parse (tokens ++ [final]) = .ok ⟨tree, []⟩ ↔
      Derives .expression tokens tree ∧ tokens.map Mark.of = marks tree := by
  constructor
  · intro parsed
    have derives := derives_of_parse inside atEnd parsed
    exact ⟨derives, derives.map_mark⟩
  · rintro ⟨derives, -⟩
    exact parse_of_derives derives atEnd []

def subtractions : List Token :=
  [.number, .minus, .leftParen, .minus, .number, .star, .number, .rightParen, .minus,
    .number].map tokenOf

/-- The tree of `1 - (-1 * 1) - 1`: what is subtracted last stands at the top. -/
def subtractionsTree : Expr :=
  let one := Expr.literal (tokenOf .number)
  let product := Expr.binary (.unary (tokenOf .minus) one) (tokenOf .star) one
  .binary (.binary one (tokenOf .minus) (.grouping product)) (tokenOf .minus) one

theorem derives_subtractions :
    (∀ token ∈ subtractions, token.kind ≠ .eof) ∧
      Derives .expression subtractions subtractionsTree ∧
        subtractions.map Mark.of = marks subtractionsTree := by
  have inside : ∀ token ∈ subtractions, token.kind ≠ .eof := by decide
  have atEnd : (tokenOf .eof).kind = .eof := rfl
  refine ⟨inside, ?_⟩
  exact (parse_eq_ok_iff_derives inside atEnd).mp (by decide +kernel)

end Lox.Grammar
