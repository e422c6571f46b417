import Mathlib.Data.List.Forall2
import Lox.Session.Run
import Lox.Proofs.Grammar.CorrectPrefix
import Lox.Proofs.Grammar.Errors
import Lox.Proofs.Grammar.Exhaustion
import Lox.Proofs.Grammar.Parse
import Lox.Proofs.Item.Spelling

/-!
What running a source text comes to.

A text is in order if it has no lexical errors and its tokens form a sentence of the grammar. What is
noticed in any other text is either lexical or grammatical, never both. None of this depends on the
style, which only tells how a tree is written.
-/

set_option autoImplicit false
set_option relaxedAutoImplicit false

namespace Lox

open Grammar

variable {tokens : List Token} {final : Token} {source : Text} {tree : Expr}

namespace Grammar

private theorem reported_eq_nil_iff (inside : ∀ token ∈ tokens, token.kind ≠ .eof)
    (atEnd : final.kind = .eof) :
    reported (parse (tokens ++ [final])) = [] ↔ Sentence (tokens.map Token.kind) := by
  rw [sentence_map_kind_iff]
  constructor
  · intro none
    have run : Ending (tokens ++ [final]) _ := ending ⟨final, by simp, atEnd⟩
    obtain ⟨read, next, rest, tree, split, eof, derives, -⟩ := run.derives none
    rcases split_concat split with ⟨rfl, -⟩ | ⟨more, rfl⟩
    · exact ⟨tree, derives⟩
    · exact absurd eof (inside next (by simp))
  · rintro ⟨tree, derives⟩
    rw [parse_of_derives derives atEnd []]
    rfl

private theorem ne_nil_of_rejected {errors : List ParseError}
    (atEnd : ∃ token ∈ tokens, token.kind = .eof)
    (failed : parse tokens = .error (.rejected errors)) : errors ≠ [] := by
  have run := ending atEnd
  rw [failed] at run
  cases run
  exact List.cons_ne_nil _ _

private theorem reported_scan_eq_nil_iff (source : Text) :
    reported (parse (scan source).tokens) = [] ↔
      Sentence ((scan source).inside.map Token.kind) := by
  have inside : ∀ token ∈ (scan source).inside, token.kind ≠ .eof := by
    intro token member
    exact (Item.lexed_of_mem_inside member).kind_ne_eof
  rw [Item.tokens_scan]
  exact reported_eq_nil_iff inside rfl

end Grammar

section told

inductive ScanProblem.Says : ScanProblem → Text → Prop
  | unexpectedCharacter (c : Char) :
      Says (.unexpectedCharacter c) ("Unexpected character: ".toList ++ [c])
  | unterminatedString : Says .unterminatedString "Unterminated string.".toList
  | unterminatedBlockComment :
      Says .unterminatedBlockComment "Unterminated block comment.".toList

/-- A diagnostic tells a lexical error: where its item starts, and what is wrong with it. -/
structure ScanError.ToldBy (error : ScanError) (diagnostic : Diagnostic) : Prop where
  line : diagnostic.line = error.place.line
  position : diagnostic.position = error.place.offset
  location : diagnostic.location = []
  message : error.problem.Says diagnostic.message
  resumedAt : diagnostic.resumedAt = none

/-- How a diagnostic points at a token. -/
inductive Token.PointedAt (token : Token) : Text → Prop
  | atEnd (eof : token.kind = .eof) : PointedAt token "end".toList
  | inside (other : token.kind ≠ .eof) : PointedAt token ('\'' :: token.lexeme ++ ['\''])

inductive ParseProblem.Says : ParseProblem → Text → Prop
  | expectedRightParen :
      Says (.expectedRightParen "expression".toList) "Expect ')' after expression.".toList
  | unclosedGroup : Says .unclosedGroup "Expect ')' to close group.".toList
  | expectedExpression :
      Says (.expectedExpression [.falseWord, .trueWord, .nilWord, .string, .number, .leftParen])
        ("Expect expression, found end of grammar. Expected one of: ".toList ++
          "FALSE, TRUE, NIL, STRING, NUMBER, LEFT_PAREN.".toList)
  | expectedEnd : Says .expectedEnd "Expect end of expression.".toList

/-- A diagnostic tells an error in the tokens: at which token it was noticed, what is wrong there,
and at which token reading resumed, if it did. -/
structure ParseError.ToldBy (error : ParseError) (diagnostic : Diagnostic) : Prop where
  line : diagnostic.line = error.token.line
  position : diagnostic.position = error.head
  location : error.token.PointedAt diagnostic.location
  message : error.problem.Says diagnostic.message
  resumedAt : Option.Rel Token.PointedAt error.resumedAt diagnostic.resumedAt

private theorem ScanProblem.says_message (problem : ScanProblem) :
    problem.Says problem.message := by
  cases problem with
  | unexpectedCharacter c => exact .unexpectedCharacter c
  | unterminatedString => exact .unterminatedString
  | unterminatedBlockComment => exact .unterminatedBlockComment

private theorem ScanError.toldBy_diagnostic (error : ScanError) : error.ToldBy error.diagnostic :=
  ⟨rfl, rfl, rfl, error.problem.says_message, rfl⟩

private theorem Token.pointedAt_location (token : Token) : token.PointedAt token.location := by
  rw [location]
  split
  · rename_i eof
    exact .atEnd eof
  · rename_i other
    exact .inside other

private theorem ParseProblem.says_message {problem : ParseProblem} (member : problem ∈ problems) :
    problem.Says problem.message := by
  simp only [problems, List.mem_cons, List.not_mem_nil, or_false] at member
  rcases member with rfl | rfl | rfl | rfl
  · exact .expectedRightParen
  · exact .unclosedGroup
  · exact .expectedExpression
  · exact .expectedEnd

private theorem ParseError.toldBy_diagnostic {error : ParseError}
    (member : error.problem ∈ problems) : error.ToldBy error.diagnostic := by
  refine ⟨rfl, rfl, error.token.pointedAt_location, ParseProblem.says_message member, ?_⟩
  change Option.Rel _ error.resumedAt (error.resumedAt.map Token.location)
  cases error.resumedAt with
  | none => exact .none
  | some resumed => exact .some resumed.pointedAt_location

private theorem ScanError.toldBy_map (errors : List ScanError) :
    List.Forall₂ ScanError.ToldBy errors (errors.map ScanError.diagnostic) :=
  List.forall₂_map_right_iff.mpr
    (List.forall₂_same.mpr fun error _ => error.toldBy_diagnostic)

private theorem ParseError.toldBy_map (atEnd : ∃ token ∈ tokens, token.kind = .eof) :
    List.Forall₂ ParseError.ToldBy (reported (parse tokens))
      ((reported (parse tokens)).map ParseError.diagnostic) :=
  List.forall₂_map_right_iff.mpr
    (List.forall₂_same.mpr fun error member =>
      toldBy_diagnostic ((ending atEnd).problem_mem error member))

end told

namespace RunError

def ofList? : List Diagnostic → Option RunError
  | [] => none
  | list => some (.diagnostics list)

variable {list : List Diagnostic}

private theorem ofList?_of_ne_nil (nonempty : list ≠ []) :
    ofList? list = some (.diagnostics list) := by
  cases list with
  | nil => contradiction
  | cons => rfl

theorem ofList?_ne_internal (error : InternalError) : ofList? list ≠ some (.internal error) := by
  cases list <;> simp [ofList?]

private theorem ofList?_eq_none_iff : ofList? list = none ↔ list = [] := by
  cases list <;> simp [ofList?]

end RunError

namespace Report

/-- What is wrong with a text: its lexical errors, or else those of reading its tokens. -/
def noticed (source : Text) : List Diagnostic :=
  match (scan source).errors with
  | [] => (reported (parse (scan source).tokens)).map ParseError.diagnostic
  | errors => errors.map ScanError.diagnostic

/-- The tree of a text without lexical errors, also if other errors stand next to it. -/
def tree? (source : Text) : Option Expr :=
  match (scan source).errors, parse (scan source).tokens with
  | [], .ok parsed => some parsed.tree
  | _, _ => none

section noticed

theorem noticed_of_errors (lexical : (scan source).errors ≠ []) :
    noticed source = (scan source).errors.map ScanError.diagnostic := by
  rw [noticed]
  split
  · contradiction
  · rfl

theorem noticed_of_clean (clean : (scan source).errors = []) :
    noticed source = (reported (parse (scan source).tokens)).map ParseError.diagnostic := by
  rw [noticed, clean]

private theorem noticed_eq_nil_iff :
    noticed source = [] ↔
      (scan source).errors = [] ∧ Sentence ((scan source).inside.map Token.kind) := by
  rw [← reported_scan_eq_nil_iff]
  constructor
  · intro none
    have clean : (scan source).errors = [] := by
      by_contra lexical
      rw [noticed_of_errors lexical, List.map_eq_nil_iff] at none
      exact lexical none
    rw [noticed_of_clean clean, List.map_eq_nil_iff] at none
    exact ⟨clean, none⟩
  · rintro ⟨clean, none⟩
    rw [noticed_of_clean clean, none]
    rfl

theorem tree?_eq_none_iff :
    tree? source = none ↔
      (scan source).errors ≠ [] ∨
        ∃ errors, parse (scan source).tokens = .error (.rejected errors) := by
  have proper (error : InternalError) : parse (scan source).tokens ≠ .error (.internal error) :=
    parse_ne_internal (Item.exists_eof_mem_scan source)
  rw [tree?]
  cases lexical : (scan source).errors with
  | cons error errors => simp
  | nil =>
      cases parsed : parse (scan source).tokens with
      | ok parsed => simp
      | error failure =>
          cases failure with
          | rejected errors => simp
          | internal error => exact absurd parsed (proper error)

private theorem parse_of_tree? (found : tree? source = some tree) :
    ∃ errors, parse (scan source).tokens = .ok ⟨tree, errors⟩ := by
  rw [tree?] at found
  split at found
  · rename_i parsed _ read
    obtain rfl := Option.some.inj found
    exact ⟨parsed.errors, read⟩
  · contradiction

end noticed

section report

private theorem ofSource_of_errors (style : Style) (lexical : (scan source).errors ≠ []) :
    ofSource style source =
      silent (.diagnostics ((scan source).errors.map ScanError.diagnostic)) := by
  have failed : (scan source).result = .error (scan source).errors := by
    rw [Scan.result]
    split
    · contradiction
    · rfl
  rw [ofSource, failed]

private theorem ofSource_of_clean (style : Style) (clean : (scan source).errors = []) :
    ofSource style source = ofTokens style (scan source).tokens := by
  rw [ofSource, Scan.result, clean]

private theorem error_ofTokens (style : Style) (atEnd : ∃ token ∈ tokens, token.kind = .eof) :
    (ofTokens style tokens).error =
      RunError.ofList? ((reported (parse tokens)).map ParseError.diagnostic) := by
  rw [ofTokens]
  split
  · rename_i parsed read
    rw [ofParsed, read, reported]
    cases parsed.errors <;> rfl
  · rename_i errors failed
    have nonempty := ne_nil_of_rejected atEnd failed
    rw [failed, reported, RunError.ofList?_of_ne_nil (by simpa using nonempty)]
    rfl
  · rename_i error failed
    exact absurd failed (parse_ne_internal atEnd)

/-- A run ends with everything that is noticed, in any style. -/
theorem error_ofSource (style : Style) (source : Text) :
    (ofSource style source).error = RunError.ofList? (noticed source) := by
  by_cases clean : (scan source).errors = []
  · rw [ofSource_of_clean style clean, noticed_of_clean clean,
      error_ofTokens style (Item.exists_eof_mem_scan source)]
  · have nonempty : noticed source ≠ [] := fun none => clean (noticed_eq_nil_iff.mp none).1
    rw [RunError.ofList?_of_ne_nil nonempty, noticed_of_errors clean,
      ofSource_of_errors style clean]
    rfl

private theorem output_ofSource (style : Style) (source : Text) :
    (ofSource style source).output =
      match tree? source with
      | none => []
      | some tree => tree.render style ++ ['\n'] := by
  by_cases clean : (scan source).errors = []
  · rw [ofSource_of_clean style clean, ofTokens, tree?, clean]
    cases parse (scan source).tokens with
    | ok parsed => rfl
    | error failure => cases failure <;> rfl
  · have none := tree?_eq_none_iff.mpr (.inl clean)
    rw [ofSource_of_errors style clean, none]
    rfl

end report

end Report

namespace Session

private theorem run_unlimited (style : Style) (source : Text) (stored : List UInt8) (err : Outlet) :
    run style source ⟨⟨stored, none⟩, err⟩ =
      .ok (Report.ofSource style source).error
        ⟨⟨stored ++ (Report.ofSource style source).output.utf8, none⟩, err⟩ := rfl

/-- On an outlet without a limit, a run of a text succeeds exactly where the text has no lexical
errors and its tokens form a sentence. It writes one tree on a line of its own, unless there are
lexical errors or the tokens cannot be read. If it does not succeed, it ends with diagnostics, which
tell all lexical errors one by one or, where there are none, all errors of reading the tokens. What it
ends with, and whether it writes a tree, is the same in both styles. -/
theorem run_meaning (source : Text) (stored : List UInt8) (err : Outlet) :
    ∃ (result : Option RunError) (written : Style → Text),
      (∀ style, run style source ⟨⟨stored, none⟩, err⟩ =
        .ok result ⟨⟨stored ++ (written style).utf8, none⟩, err⟩) ∧
      (result = none ↔
        (scan source).errors = [] ∧ Sentence ((scan source).inside.map Token.kind)) ∧
      ((∀ style, written style = []) ∨
        ∃ tree errors, parse (scan source).tokens = .ok ⟨tree, errors⟩ ∧
          ∀ style, written style = tree.render style ++ ['\n']) ∧
      (∀ style, written style = [] ↔
        (scan source).errors ≠ [] ∨
          ∃ errors, parse (scan source).tokens = .error (.rejected errors)) ∧
      (result ≠ none → ∃ diagnostics, result = some (.diagnostics diagnostics) ∧
        diagnostics ≠ [] ∧
        ((scan source).errors ≠ [] ∧
            List.Forall₂ ScanError.ToldBy (scan source).errors diagnostics ∨
          (scan source).errors = [] ∧
            List.Forall₂ ParseError.ToldBy (reported (parse (scan source).tokens))
              diagnostics)) := by
  refine ⟨RunError.ofList? (Report.noticed source),
    fun style => (Report.ofSource style source).output, ?_, ?_, ?_, ?_, ?_⟩
  · intro style
    rw [run_unlimited, Report.error_ofSource]
  · rw [RunError.ofList?_eq_none_iff]
    exact Report.noticed_eq_nil_iff
  · cases found : Report.tree? source with
    | none =>
        left
        intro style
        change (Report.ofSource style source).output = []
        rw [Report.output_ofSource, found]
    | some tree =>
        right
        obtain ⟨errors, parsed⟩ := Report.parse_of_tree? found
        refine ⟨tree, errors, parsed, ?_⟩
        intro style
        change (Report.ofSource style source).output = tree.render style ++ ['\n']
        rw [Report.output_ofSource, found]
  · intro style
    change (Report.ofSource style source).output = [] ↔ _
    rw [← Report.tree?_eq_none_iff, Report.output_ofSource]
    cases Report.tree? source <;> simp
  · intro failed
    have nonempty : Report.noticed source ≠ [] := by
      intro none
      exact failed (RunError.ofList?_eq_none_iff.mpr none)
    refine ⟨_, RunError.ofList?_of_ne_nil nonempty, nonempty, ?_⟩
    by_cases clean : (scan source).errors = []
    · rw [Report.noticed_of_clean clean]
      exact .inr ⟨clean, ParseError.toldBy_map (Item.exists_eof_mem_scan source)⟩
    · rw [Report.noticed_of_errors clean]
      exact .inl ⟨clean, ScanError.toldBy_map (scan source).errors⟩

end Session

end Lox
