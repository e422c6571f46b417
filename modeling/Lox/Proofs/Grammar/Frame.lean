import Lox.Proofs.Grammar.Exhaustion

/-!
What the productions keep.

Each of them only moves the head over tokens in front of the end and adds errors behind those that
are there. A tree takes a token at least, is made of those read, and ends where no operator goes on
with it. A rejection adds no error, and is reported where the head is left.
-/

set_option autoImplicit false
set_option relaxedAutoImplicit false

namespace Lox

/-- The literals and operators of a tree from left to right. -/
def Expr.inorder : Expr → List Token
  | literal value => [value]
  | unary operator operand => operator :: operand.inorder
  | binary left operator right => left.inorder ++ operator :: right.inorder
  | grouping inner => inner.inorder

/-- The index of the first token that ends the text. -/
def firstEnd (tokens : List Token) : Nat := tokens.findIdx (·.kind = .eof)

/-- The tokens over which the head has moved since an earlier state. -/
def ParseState.readSince (earlier later : ParseState) : List Token :=
  (later.tokens.take later.head).drop earlier.head

namespace Grammar

open Lox.Parser

def productions : List (Nonterminal × Parser Expr) :=
  [(.expression, expression), (.joined .equality, equality), (.joined .comparison, comparison),
    (.joined .addition, addition), (.joined .multiplication, multiplication), (.unary, unary),
    (.primary, primary)]

/-- The kinds of the tokens of which a tree keeps only the place. -/
def parens : List Kind := [.leftParen, .rightParen]

/-- A state that a production leaves behind. -/
structure Frame (state later : ParseState) : Prop where
  tokens : later.tokens = state.tokens
  openGroups : later.openGroups = state.openGroups
  forward : state.head ≤ later.head
  inside : later.head ≤ firstEnd later.tokens
  errors : ∃ more, later.errors = state.errors ++ more

structure Success (symbol : Nonterminal) (tree : Expr) (state later : ParseState) : Prop
    extends Frame state later where
  progress : state.head < later.head
  kept : (state.readSince later).filter (·.kind ∉ parens) = tree.inorder
  stops : ∀ token ∈ later.ahead.head?, token.kind ∉ symbol.continuing

structure Failure (error : ParseError) (state later : ParseState) : Prop
    extends Frame state later where
  silent : later.errors = state.errors
  head : error.head = later.head

/-- What a production may make of a state. -/
def Framed (symbol : Nonterminal) (state : ParseState) :
    EStateM.Result Fault ParseState Expr → Prop
  | .ok tree later => Success symbol tree state later
  | .error (.rejected error) later => Failure error state later
  | .error (.internal _) later => Frame state later

section inorder

def Mark.token? : Mark → Option Token
  | kept token => some token
  | opening | closing => none

private theorem filterMap_marks (tree : Expr) :
    (marks tree).filterMap Mark.token? = tree.inorder := by
  induction tree with
  | literal value => rfl
  | unary operator operand ih => simp [marks, Mark.token?, Expr.inorder, ih]
  | binary left operator right before behind =>
      simp [marks, Mark.token?, Expr.inorder, before, behind]
  | grouping inner ih =>
      rw [marks, List.filterMap_cons, List.filterMap_append, ih]
      exact List.append_nil _

private theorem filterMap_map_mark (tokens : List Token) :
    (tokens.map Mark.of).filterMap Mark.token? = tokens.filter (·.kind ∉ parens) := by
  induction tokens with
  | nil => rfl
  | cons token tokens ih =>
      rw [List.map_cons, List.filterMap_cons, List.filter_cons, ih]
      cases kind : token.kind <;> simp [Mark.of, Mark.token?, parens, kind]

variable {symbol : Nonterminal} {tokens : List Token} {tree : Expr}

private theorem Derives.filter_eq (derives : Derives symbol tokens tree) :
    tokens.filter (·.kind ∉ parens) = tree.inorder := by
  rw [← filterMap_map_mark, derives.map_mark, filterMap_marks]

private theorem filter_eq_of_completed {missing : Nat}
    (derives : ∀ closing : List Token,
      closing.map Token.kind = List.replicate missing .rightParen →
        Derives symbol (tokens ++ closing) tree) :
    tokens.filter (·.kind ∉ parens) = tree.inorder := by
  have whole :=
    (derives (List.replicate missing (tokenOf .rightParen)) List.map_replicate).filter_eq
  rw [List.filter_append, List.filter_replicate] at whole
  simpa [parens, tokenOf] using whole

end inorder

section past

variable {symbol : Nonterminal} {tree : Expr} {state later : ParseState} {read rest : List Token}

private theorem le_firstEnd_iff (front back : List Token) :
    front.length ≤ firstEnd (front ++ back) ↔ ∀ token ∈ front, token.kind ≠ .eof := by
  have found : front.findIdx (·.kind = .eof) < front.length ↔
      ∃ token ∈ front, token.kind = .eof := by
    simp [List.findIdx_lt_length]
  rw [firstEnd, List.findIdx_append]
  split
  · rename_i before
    obtain ⟨token, member, eof⟩ := found.mp before
    refine iff_of_false (Nat.not_le_of_lt before) ?_
    intro none
    exact none token member eof
  · rename_i behind
    refine iff_of_true (Nat.le_add_left _ _) ?_
    intro token member eof
    exact behind (found.mpr ⟨token, member, eof⟩)

private theorem readSince_past (split : state.ahead = read ++ rest) :
    state.readSince (state.past read rest) = read := by
  rw [ParseState.readSince, ParseState.tokens_past split, ParseState.head_past, ParseState.tokens,
    split]
  simp [ParseState.head, List.take_append]

private theorem frame_past (inside : state.head ≤ firstEnd state.tokens)
    (split : state.ahead = read ++ rest) (proper : ∀ token ∈ read, token.kind ≠ .eof) :
    Frame state (state.past read rest) := by
  have whole := ParseState.tokens_past split
  refine ⟨whole, rfl, ?_, ?_, [], (List.append_nil _).symm⟩
  · rw [ParseState.head_past]
    exact Nat.le_add_right _ _
  · rw [ParseState.tokens, ParseState.head, ← List.length_reverse, le_firstEnd_iff] at inside ⊢
    intro token member
    rw [ParseState.past, List.reverse_append, List.reverse_reverse] at member
    rcases List.mem_append.mp member with before | own
    · exact inside token before
    · exact proper token own

theorem Frame.noting (frame : Frame state later) (errors : List ParseError) :
    Frame state (later.noting errors) := by
  obtain ⟨more, same⟩ := frame.errors
  refine ⟨frame.tokens, frame.openGroups, frame.forward, frame.inside, more ++ errors, ?_⟩
  rw [ParseState.noting, same, List.append_assoc]

theorem Success.noting (success : Success symbol tree state later) (errors : List ParseError) :
    Success symbol tree state (later.noting errors) :=
  ⟨success.toFrame.noting errors, success.progress, success.kept, success.stops⟩

private theorem success_past {missing : Nat} (inside : state.head ≤ firstEnd state.tokens)
    (split : state.ahead = read ++ rest)
    (stage : (Stage.beforeOperand 0).after? (read.map Token.kind) =
      some (.behindOperand missing))
    (kept : read.filter (·.kind ∉ parens) = tree.inorder)
    (stops : ∀ token ∈ rest.head?, token.kind ∉ symbol.continuing) :
    Success symbol tree state (state.past read rest) := by
  have some : read ≠ [] := by
    rintro rfl
    exact Stage.noConfusion (Option.some.inj stage)
  have frame := frame_past inside split (Stage.kind_ne_eof_of_after? stage)
  refine ⟨frame, ?_, ?_, stops⟩
  · rw [ParseState.head_past]
    exact Nat.lt_add_of_pos_right (List.length_pos_iff.mpr some)
  · rw [readSince_past split, kept]

end past

section productions

variable {symbol : Nonterminal} {parser : Parser Expr} {state : ParseState}
variable {result : EStateM.Result Fault ParseState Expr}

/-- Whatever a production does, it keeps its frame. -/
theorem Outcome.framed (outcome : Outcome symbol state result)
    (inside : state.head ≤ firstEnd state.tokens) : Framed symbol state result := by
  cases outcome with
  | read split derives stops =>
      exact success_past inside split (derives.after? 0) derives.filter_eq stops
  | @patched read rest next tree missing split derives stops other =>
      have stage := (derives _ List.map_replicate).after?_of_closing
        (List.map_replicate (f := Token.kind) (a := tokenOf .rightParen)) 0
      refine (success_past inside split stage (filter_eq_of_completed derives) ?_).noting _
      intro token first
      obtain rfl := Option.some.inj first
      exact fun own => stops (mem_binaryOperators_of_continuing own)
  | @stuck read rest next groups split stage literal opening sign =>
      have frame := frame_past inside split (Stage.kind_ne_eof_of_after? (stage 0))
      rw [operandFault]
      split
      · exact frame
      · exact ⟨frame, rfl, rfl⟩
  | exhausted noEnd => exact frame_past inside (List.append_nil _).symm noEnd

private theorem outcome_of_production (member : (symbol, parser) ∈ productions)
    (state : ParseState) : Outcome symbol state (parser state) := by
  have primary := reads_primaryWithin state.ahead.length
  have small := Nat.le_refl state.ahead.length
  simp only [productions, List.mem_cons, List.not_mem_nil, or_false, Prod.mk.injEq] at member
  rcases member with ⟨rfl, rfl⟩ | ⟨rfl, rfl⟩ | ⟨rfl, rfl⟩ | ⟨rfl, rfl⟩ | ⟨rfl, rfl⟩ | ⟨rfl, rfl⟩ |
    ⟨rfl, rfl⟩
  · exact primary.equality state small
  · exact primary.equality state small
  · exact primary.comparison state small
  · exact primary.addition state small
  · exact primary.multiplication state small
  · exact primary.unary small state small
  · exact primary state small

/-- At any state whose head has not passed the end, every production leaves the tokens and the
number of open groups as they are, moves the head forward but not past the end, and only adds errors
behind the old ones. If it gives a tree, it has moved over a token at least, the tree keeps all
tokens in between but the parentheses, in their order, and no operator of its level or of a tighter
one comes next. If it is rejected, it has added no error, and the rejection is at the head. -/
theorem production_framed (member : (symbol, parser) ∈ productions)
    (inside : state.head ≤ firstEnd state.tokens) : Framed symbol state (parser state) :=
  (outcome_of_production member state).framed inside

/-- The head at `1 - (`, behind the opening parenthesis of a group. -/
def openAddition : ParseState where
  behind := [tokenOf .leftParen]
  ahead := [.number, .minus, .leftParen, .eof].map tokenOf
  openGroups := 1
  errors := []

theorem production_framed_openAddition :
    openAddition.head ≤ firstEnd openAddition.tokens ∧
      ∃ error later, addition openAddition = .error (.rejected error) later ∧
        Failure error openAddition later := by
  have inside : openAddition.head ≤ firstEnd openAddition.tokens := by decide
  have member : (Nonterminal.joined .addition, addition) ∈ productions := by simp [productions]
  have run : addition openAddition =
      .error (.rejected ⟨.unclosedGroup, tokenOf .eof, 4, none⟩)
        (openAddition.past ([.number, .minus, .leftParen].map tokenOf) [tokenOf .eof]) := rfl
  have framed := production_framed member inside
  rw [run] at framed
  exact ⟨inside, _, _, run, framed⟩

end productions

end Grammar

end Lox
