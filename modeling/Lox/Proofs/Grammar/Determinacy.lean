import Mathlib.Control.Monad.Basic
import Lox.Expr.Rendering
import Lox.Item.Scan
import Lox.Proofs.Grammar.Parse
import Lox.Proofs.Grammar.Renaming
import Lox.Proofs.Item.Spelling

/-!
What the outcome of reading tokens depends on.

Only the kinds of the tokens decide it, and only up to the first token for the end of a text. In
front of that token, or at it, stands the first one that cannot go on, and nothing behind this one
is read, except to find where reading could resume.
-/

set_option autoImplicit false
set_option relaxedAutoImplicit false

namespace Lox

namespace Grammar

variable {tokens read read' rest rest' more : List Token} {next next' : Token}

section ends

private theorem eq_nil_of_blocked {stage later : Stage}
    (before : (Stage.beforeOperand 0).after? (read.map Token.kind) = some stage)
    (stops : stage.next? next.kind = none)
    (reached : (Stage.beforeOperand 0).after? ((read ++ more).map Token.kind) = some later)
    (split : next :: rest = more ++ rest') : more = [] := by
  cases more with
  | nil => rfl
  | cons token more =>
      obtain ⟨rfl, -⟩ := List.cons.inj split
      rw [List.map_append, List.map_cons, Stage.after?_append_of_stops before stops] at reached
      contradiction

private theorem blocked_unique {stage stage' : Stage} (split : tokens = read ++ next :: rest)
    (before : (Stage.beforeOperand 0).after? (read.map Token.kind) = some stage)
    (stops : stage.next? next.kind = none) (split' : tokens = read' ++ next' :: rest')
    (before' : (Stage.beforeOperand 0).after? (read'.map Token.kind) = some stage')
    (stops' : stage'.next? next'.kind = none) :
    read = read' ∧ next = next' ∧ rest = rest' ∧ stage = stage' := by
  have same : read = read' := by
    rcases List.append_eq_append_iff.mp (split.symm.trans split') with
      ⟨more, rfl, behind⟩ | ⟨more, rfl, behind⟩
    · rw [eq_nil_of_blocked before stops before' behind, List.append_nil]
    · rw [eq_nil_of_blocked before' stops' before behind, List.append_nil]
  subst same
  have behind := List.append_cancel_left (split.symm.trans split')
  obtain ⟨rfl, rfl⟩ := List.cons.inj behind
  exact ⟨rfl, rfl, rfl, Option.some.inj (before.symm.trans before')⟩

/-- Tokens are read in one way. -/
theorem Ending.unique {result result' : Except ParseFailure Parsed} (run : Ending tokens result)
    (another : Ending tokens result') : result = result' := by
  cases run with
  | @read read rest next tree missing errors split derives stops noticed =>
      have before := after?_of_completed derives
      cases another with
      | @read read' rest' next' tree' missing' errors' split' derives' stops' noticed' =>
          have before' := after?_of_completed derives'
          obtain ⟨rfl, rfl, -, stage⟩ := blocked_unique split before stops split' before' stops'
          obtain rfl := Stage.behindOperand.inj stage
          have closed : (List.replicate missing (tokenOf .rightParen)).map Token.kind =
              List.replicate missing .rightParen := List.map_replicate
          have trees := (derives _ closed).tree_unique (derives' _ closed)
          rw [trees, noticed, noticed']
      | stuck split' before' stops' =>
          obtain ⟨-, -, -, stage⟩ := blocked_unique split before stops split' before' stops'
          contradiction
  | @stuck read rest next resumed groups error split before stops resume noticed =>
      cases another with
      | read split' derives' stops' =>
          have before' := after?_of_completed derives'
          obtain ⟨-, -, -, stage⟩ := blocked_unique split before stops split' before' stops'
          contradiction
      | @stuck read' rest' next' resumed' groups' error' split' before' stops' resume' noticed' =>
          obtain ⟨rfl, rfl, rfl, stage⟩ := blocked_unique split before stops split' before' stops'
          obtain rfl := Stage.beforeOperand.inj stage
          obtain rfl := Option.some.inj (resume.symm.trans resume')
          rw [noticed, noticed']

private theorem resumeBehind?_append {previous resumed : Token}
    (found : resumeBehind? previous tokens = some resumed) (more : List Token) :
    resumeBehind? previous (tokens ++ more) = some resumed := by
  induction tokens generalizing previous with
  | nil => contradiction
  | cons token tokens ih =>
      rw [resumeBehind?] at found
      rw [List.cons_append, resumeBehind?]
      split at found
      · rename_i here
        rw [if_pos here, found]
      · rename_i further
        rw [if_neg further]
        exact ih found

private theorem resume?_append {resumed : Token} (found : resume? tokens = some resumed)
    (more : List Token) : resume? (tokens ++ more) = some resumed := by
  cases tokens with
  | nil => contradiction
  | cons token tokens =>
      rw [resume?] at found
      rw [List.cons_append, resume?]
      split at found
      · rename_i here
        rw [if_pos here, found]
      · rename_i further
        rw [if_neg further]
        exact resumeBehind?_append found more

/-- Further tokens behind those that were read to an ending change nothing. -/
theorem Ending.append {result : Except ParseFailure Parsed} (run : Ending tokens result)
    (more : List Token) : Ending (tokens ++ more) result := by
  cases run with
  | @read read rest next tree missing errors split derives stops noticed =>
      have longer : tokens ++ more = read ++ next :: (rest ++ more) := by simp [split]
      exact .read longer derives stops noticed
  | @stuck read rest next resumed groups error split before stops resume noticed =>
      have longer : tokens ++ more = read ++ next :: (rest ++ more) := by simp [split]
      exact .stuck longer before stops (resume?_append resume more) noticed

theorem parse_append (atEnd : ∃ token ∈ tokens, token.kind = .eof) (more : List Token) :
    parse (tokens ++ more) = parse tokens := by
  obtain ⟨final, member, eof⟩ := atEnd
  have longer : Ending (tokens ++ more) (parse (tokens ++ more)) :=
    ending ⟨final, List.mem_append_left more member, eof⟩
  have short : Ending tokens (parse tokens) := ending ⟨final, member, eof⟩
  exact longer.unique (short.append more)

end ends

end Grammar

section spelling

def Token.spelling (token : Token) : Kind × Text := (token.kind, token.lexeme)

def Token.spelled (token : Token) : Token := ⟨token.kind, none, ⟨token.lexeme, .start⟩⟩

private theorem Token.keepsKinds_spelled : KeepsKinds spelled := fun _ => rfl

private theorem Token.map_spelled_eq {tokens others : List Token}
    (agree : tokens.map spelling = others.map spelling) :
    tokens.map spelled = others.map spelled := by
  have whole := congrArg
    (List.map fun (kind, lexeme) => Token.mk kind none ⟨lexeme, .start⟩) agree
  rw [List.map_map, List.map_map] at whole
  exact whole

private theorem Expr.render_map_spelled (style : Style) (tree : Expr) :
    (tree.map Token.spelled).render style = tree.render style := by
  cases style with
  | parenthesized =>
      change (tree.map Token.spelled).parenthesized = tree.parenthesized
      induction tree with
      | literal value => rfl
      | unary operator operand ih =>
          rw [map, parenthesized, parenthesized, ih]
          rfl
      | binary left operator right first second =>
          rw [map, parenthesized, parenthesized, first, second]
          rfl
      | grouping inner ih => rw [map, parenthesized, parenthesized, ih]
  | reversePolish =>
      change (tree.map Token.spelled).reversePolish = tree.reversePolish
      induction tree with
      | literal value => rfl
      | unary operator operand ih =>
          rw [map, reversePolish, reversePolish, ih]
          rfl
      | binary left operator right first second =>
          rw [map, reversePolish, reversePolish, first, second]
          rfl
      | grouping inner ih => rw [map, reversePolish, reversePolish, ih]

def ParseError.site (error : ParseError) : ParseProblem × Nat := (error.problem, error.head)

def rendering? (style : Style) : Except ParseFailure Parsed → Option Text
  | .ok parsed => some (parsed.tree.render style)
  | .error _ => none

private theorem rendering?_mapOutcome_spelled (style : Style)
    (result : Except ParseFailure Parsed) :
    rendering? style (mapOutcome Token.spelled result) = rendering? style result := by
  cases result with
  | ok parsed => exact congrArg some (parsed.tree.render_map_spelled style)
  | error failure => rfl

private theorem sites_mapOutcome (f : Token → Token) (result : Except ParseFailure Parsed) :
    (Grammar.reported (mapOutcome f result)).map ParseError.site =
      (Grammar.reported result).map ParseError.site := by
  have errors : Grammar.reported (mapOutcome f result) =
      (Grammar.reported result).map (ParseError.map f) := by
    cases result with
    | ok parsed => rfl
    | error failure => cases failure <;> rfl
  rw [errors, List.map_map]
  rfl

end spelling

open Grammar

/-- The kinds of tokens up to the first end decide what is read: other tokens of the same kinds take
the places of the old ones, and tokens behind an end do not count. So sources whose tokens agree in
kind and lexeme have the same renderings, or none, and the same problems at the same heads. -/
theorem kinds_decide :
    (∀ f : Token → Token, (∀ token, (f token).kind = token.kind) →
      ∀ tokens, parse (tokens.map f) = mapOutcome f (parse tokens)) ∧
      (∀ (tokens : List Token) (final : Token) (rest : List Token), final.kind = .eof →
        parse (tokens ++ [final] ++ rest) = parse (tokens ++ [final])) ∧
      ∀ source other : Text,
        (scan source).tokens.map Token.spelling = (scan other).tokens.map Token.spelling →
          (∀ style, rendering? style (parse (scan source).tokens) =
            rendering? style (parse (scan other).tokens)) ∧
          (reported (parse (scan source).tokens)).map ParseError.site =
            (reported (parse (scan other).tokens)).map ParseError.site := by
  refine ⟨fun f keeps tokens => parse_map keeps tokens, ?_, ?_⟩
  · intro tokens final rest eof
    exact parse_append ⟨final, by simp, eof⟩ rest
  · intro source other agree
    have outcomes : mapOutcome Token.spelled (parse (scan source).tokens) =
        mapOutcome Token.spelled (parse (scan other).tokens) := by
      rw [← parse_map Token.keepsKinds_spelled, Token.map_spelled_eq agree,
        parse_map Token.keepsKinds_spelled]
    constructor
    · intro style
      have written := congrArg (rendering? style) outcomes
      rwa [rendering?_mapOutcome_spelled, rendering?_mapOutcome_spelled] at written
    · have sites := congrArg (fun result => (reported result).map ParseError.site) outcomes
      rwa [sites_mapOutcome, sites_mapOutcome] at sites

/-- The tokens of `(1 -`, with two ends and a number behind them. -/
def brokenOff : List Token :=
  [.leftParen, .number, .minus, .eof, .number, .eof].map tokenOf

def Token.blotted (token : Token) : Token := ⟨token.kind, none, ⟨['?'], ⟨2, 5⟩⟩⟩

theorem kinds_decide_brokenOff :
    (∀ token, (Token.blotted token).kind = token.kind) ∧
      parse (brokenOff.map Token.blotted) = mapOutcome Token.blotted (parse brokenOff) ∧
      (tokenOf .eof).kind = .eof ∧
      parse (brokenOff.take 3 ++ [tokenOf .eof] ++ brokenOff.drop 4) =
        parse (brokenOff.take 3 ++ [tokenOf .eof]) ∧
      (scan "(1 /* one */\n-".toList).tokens.map Token.spelling =
        (scan "(1-".toList).tokens.map Token.spelling ∧
      (reported (parse (scan "(1 /* one */\n-".toList).tokens)).map ParseError.site =
        (reported (parse (scan "(1-".toList).tokens)).map ParseError.site := by
  obtain ⟨renamed, cut, sources⟩ := kinds_decide
  have kinds : ∀ token, (Token.blotted token).kind = token.kind := fun _ => rfl
  have eof : (tokenOf .eof).kind = .eof := rfl
  have agree : (scan "(1 /* one */\n-".toList).tokens.map Token.spelling =
      (scan "(1-".toList).tokens.map Token.spelling := by
    decide +kernel
  exact ⟨kinds, renamed Token.blotted kinds brokenOff, eof, cut _ _ _ eof, agree,
    (sources _ _ agree).2⟩

end Lox
