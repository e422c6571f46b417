import Lox.Proofs.Grammar.Parse

/-!
A tree read in spite of errors is the tree of the repaired text: of the tokens in front of the
errors, with a closing parenthesis for each opening one that lacks it.
-/

set_option autoImplicit false
set_option relaxedAutoImplicit false

namespace Lox.Grammar

open Lox.Parser

/-- How many opening parentheses are unmatched behind one more kind. -/
def unmatchedBehind (unmatched : Nat) : Kind → Nat
  | .leftParen => unmatched + 1
  | .rightParen => unmatched - 1
  | _ => unmatched

def unmatched (kinds : List Kind) : Nat := kinds.foldl unmatchedBehind 0

private theorem unmatchedBehind_of_ne {kind : Kind} (left : kind ≠ .leftParen)
    (right : kind ≠ .rightParen)
    (unmatched : Nat) : unmatchedBehind unmatched kind = unmatched := by
  unfold unmatchedBehind
  split
  · contradiction
  · contradiction
  · rfl

private theorem foldl_unmatchedBehind {stage later : Stage} {kinds : List Kind}
    (reached : stage.after? kinds = some later) :
    kinds.foldl unmatchedBehind stage.groups = later.groups := by
  induction kinds generalizing stage with
  | nil =>
      obtain rfl := Option.some.inj reached
      rfl
  | cons kind kinds ih =>
      rw [Stage.after?_cons] at reached
      obtain ⟨middle, step, rest⟩ := Option.bind_eq_some_iff.mp reached
      have behind : unmatchedBehind stage.groups kind = middle.groups := by
        rcases Stage.groups_of_next? step with ⟨rfl, more⟩ | ⟨rfl, fewer⟩ | ⟨left, right, same⟩
        · exact more.symm
        · change stage.groups - 1 = middle.groups
          omega
        · rw [unmatchedBehind_of_ne left right, same]
      rw [List.foldl_cons, behind]
      exact ih rest

/-- The missing parentheses complete what was read. -/
private theorem Ending.derives_repaired {tokens closing : List Token} {tree : Expr}
    {errors : List ParseError} {error : ParseError} (run : Ending tokens (.ok ⟨tree, errors⟩))
    (noticed : error ∈ errors)
    (parens : closing.map Token.kind =
      List.replicate (unmatched ((tokens.take error.head).map Token.kind)) .rightParen) :
    Derives .expression (tokens.take error.head ++ closing) tree := by
  cases run with
  | @read read rest next _ missing _ split derives stops recovered =>
      rw [recovered] at noticed
      obtain ⟨-, head, -⟩ := at_token_of_mem_recovered noticed
      rw [head, split, List.take_left] at parens ⊢
      have groups : unmatched (read.map Token.kind) = missing :=
        foldl_unmatchedBehind (after?_of_completed derives)
      rw [groups] at parens
      exact derives closing parens

/-- A tree read next to errors is the tree of the tokens in front of them with the missing
parentheses put in, which is read without errors and keeps all these tokens in their order. -/
theorem parse_repaired {tokens closing : List Token} {tree : Expr} {errors : List ParseError}
    {error : ParseError} {final : Token} (atEnd : ∃ token ∈ tokens, token.kind = .eof)
    (parsed : parse tokens = .ok ⟨tree, errors⟩) (noticed : error ∈ errors)
    (parens : closing.map Token.kind =
      List.replicate (unmatched ((tokens.take error.head).map Token.kind)) .rightParen)
    (eof : final.kind = .eof) :
    parse (tokens.take error.head ++ closing ++ [final]) = .ok ⟨tree, []⟩ ∧
      (tokens.take error.head ++ closing).map Mark.of = marks tree := by
  have run := ending atEnd
  rw [parsed] at run
  have derives := run.derives_repaired noticed parens
  exact ⟨parse_of_derives derives eof [], derives.map_mark⟩

/-- The tokens of `(1 - (1) 1`, where a group is open and a token is left over. -/
def openSubtraction : List Token :=
  [.leftParen, .number, .minus, .leftParen, .number, .rightParen, .number, .eof].map tokenOf

def openSubtractionTree : Expr :=
  let one := Expr.literal (tokenOf .number)
  .grouping (.binary one (tokenOf .minus) (.grouping one))

def openSubtractionErrors : List ParseError :=
  [missingParen (tokenOf .number) 6, ⟨.expectedEnd, tokenOf .number, 6, none⟩]

theorem parse_repaired_openSubtraction :
    parse openSubtraction = .ok ⟨openSubtractionTree, openSubtractionErrors⟩ ∧
      parse (openSubtraction.take 6 ++ [tokenOf .rightParen] ++ [tokenOf .eof]) =
        .ok ⟨openSubtractionTree, []⟩ := by
  have atEnd : ∃ token ∈ openSubtraction, token.kind = .eof := by decide
  have parsed : parse openSubtraction = .ok ⟨openSubtractionTree, openSubtractionErrors⟩ := by
    decide +kernel
  have noticed : missingParen (tokenOf .number) 6 ∈ openSubtractionErrors := List.mem_cons_self
  have parens : [tokenOf .rightParen].map Token.kind =
      List.replicate (unmatched ((openSubtraction.take 6).map Token.kind)) .rightParen := by
    decide
  have eof : (tokenOf .eof).kind = .eof := rfl
  obtain ⟨repaired, -⟩ := parse_repaired atEnd parsed noticed parens eof
  exact ⟨parsed, repaired⟩

end Lox.Grammar
