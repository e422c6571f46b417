import Lox.Proofs.Session.Run

/-!
Diagnostics that are shown together, and the lines they are on.

A diagnostic holds a line feed only where it quotes a token that does, and only strings do. No
string is out of place where an operand is missing. So it is behind an operand that a string breaks
the lines of diagnostics, and then it breaks those of all of them.
-/

set_option autoImplicit false
set_option relaxedAutoImplicit false

namespace Lox

open Lox.Parser

namespace Text

variable {text line : Text} {texts : List Text}

private theorem lineFeed_not_mem_of_mem_splitOn (member : line ∈ text.splitOn '\n') :
    '\n' ∉ line := by
  induction text generalizing line with
  | nil =>
      obtain rfl : line = [] := by simpa using member
      exact List.not_mem_nil
  | cons c text ih =>
      rw [List.splitOn_cons_eq_if_modifyHead] at member
      split at member
      · rcases List.mem_cons.mp member with rfl | later
        · exact List.not_mem_nil
        · exact ih later
      · rename_i other
        obtain ⟨first, others, split⟩ :=
          List.exists_cons_of_ne_nil (List.splitOn_ne_nil '\n' text)
        rw [split] at member ih
        rcases List.mem_cons.mp member with rfl | later
        · have inside : '\n' ∉ first := ih List.mem_cons_self
          have outside : '\n' ≠ c := fun same => other (beq_iff_eq.mpr same.symm)
          simp [inside, outside]
        · exact ih (.tail _ later)

/-- Texts are the lines of what they are written as together, unless one of them holds a line
feed. -/
theorem splitOn_lines_eq_iff (some : texts ≠ []) :
    (lines texts).splitOn '\n' = texts ↔ ∀ text ∈ texts, '\n' ∉ text := by
  constructor
  · intro same text member
    rw [← same] at member
    exact lineFeed_not_mem_of_mem_splitOn member
  · intro plain
    exact List.splitOn_intercalate '\n' plain some

private theorem lineFeed_not_mem_ofNat (n : Nat) : '\n' ∉ ofNat n := by
  intro member
  have digit := Nat.isDigit_of_mem_toDigits (by decide) (by decide) member
  contradiction

end Text

/-- A string that goes over the end of a line. -/
def Token.Multiline (token : Token) : Prop := token.kind = .string ∧ '\n' ∈ token.lexeme

/-- Shown together, some diagnostics are on one line each. -/
def Diagnostic.OneLineEach (list : List Diagnostic) : Prop :=
  (listText list).splitOn '\n' = list.map text

namespace Diagnostic

private theorem lineFeed_mem_text {diagnostic : Diagnostic} :
    '\n' ∈ diagnostic.text ↔ '\n' ∈ diagnostic.location ∨ '\n' ∈ diagnostic.message := by
  have number : '\n' ∉ Text.ofNat diagnostic.line := Text.lineFeed_not_mem_ofNat diagnostic.line
  have heading : '\n' ∉ "[line ".toList ++ Text.ofNat diagnostic.line ++ "] Error".toList := by
    simp [number]
  have naming : '\n' ∉ " at ".toList := by decide
  have colon : '\n' ∉ ": ".toList := by decide
  unfold text
  split
  · rename_i none
    rw [none, List.mem_append, List.mem_append, List.mem_append, or_iff_left colon,
      or_iff_right heading]
  · rw [List.mem_append, List.mem_append, List.mem_append, or_iff_left colon,
      or_iff_right heading, List.mem_append, or_iff_right naming]

private theorem oneLineEach_iff {list : List Diagnostic} (some : list ≠ []) :
    OneLineEach list ↔ ∀ diagnostic ∈ list, '\n' ∉ diagnostic.text := by
  have nonempty : list.map text ≠ [] := by simpa using some
  rw [OneLineEach, listText, Text.splitOn_lines_eq_iff nonempty, List.forall_mem_map]

end Diagnostic

private theorem ScanProblem.lineFeed_mem_message {problem : ScanProblem} :
    '\n' ∈ problem.message ↔ problem = .unexpectedCharacter '\n' := by
  cases problem with
  | unexpectedCharacter c =>
      have wording : '\n' ∉ "Unexpected character: ".toList := by decide
      unfold message
      rw [List.mem_append, or_iff_right wording, List.mem_singleton, eq_comm,
        unexpectedCharacter.injEq]
  | unterminatedString | unterminatedBlockComment =>
      exact iff_of_false (by decide) ScanProblem.noConfusion

namespace Item

variable {place : Place} {item : Item} {token : Token} {rest source : Text}

private theorem lineFeed_not_mem_symbolText (kind : Kind) : '\n' ∉ kind.symbolText := by
  cases kind <;> decide

private theorem lineFeed_not_mem_numeral {numeral : Decimal} (proper : numeral.Proper) :
    '\n' ∉ numeral.text := by
  have whole : '\n' ∉ numeral.whole := fun member => absurd (proper.whole _ member) (by decide)
  have fraction : '\n' ∉ numeral.fraction := by
    intro member
    exact absurd (proper.fraction _ member) (by decide)
  rw [Decimal.text]
  split
  · exact whole
  · simp [whole, fraction]

private theorem Fits.lineFeed_not_mem_word {word : Text} (fits : Fits (.word word) rest) :
    '\n' ∉ word := by
  cases fits with
  | word starts inside stops =>
      intro member
      rcases List.mem_cons.mp member with rfl | later
      · contradiction
      · exact absurd (inside _ later) (by decide)

private theorem Lexed.lineFeed_not_mem (lexed : Lexed token) (other : token.kind ≠ .string) :
    '\n' ∉ token.lexeme := by
  obtain ⟨place, item, rest, is, fits⟩ := lexed
  cases is with
  | symbol kind => exact lineFeed_not_mem_symbolText kind
  | string content => contradiction
  | number numeral =>
      cases fits with
      | number proper ends => exact lineFeed_not_mem_numeral proper
  | reserved member => exact fits.lineFeed_not_mem_word
  | identifier free => exact fits.lineFeed_not_mem_word

private theorem lineFeed_mem_location (member : token ∈ (scan source).tokens) :
    '\n' ∈ token.location ↔ token.Multiline := by
  rw [Token.location, Token.Multiline]
  by_cases ends : token.kind = .eof
  · rw [if_pos ends, ends]
    exact iff_of_false (by decide) (fun string => Kind.noConfusion string.1)
  · rw [if_neg ends]
    have quoted : '\n' ∈ '\'' :: token.lexeme ++ ['\''] ↔ '\n' ∈ token.lexeme := by simp
    rw [quoted]
    constructor
    · intro broken
      refine ⟨?_, broken⟩
      apply Decidable.byContradiction
      intro other
      exact (lexed_of_mem_scan member ends).lineFeed_not_mem other broken
    · exact fun multiline => multiline.2

private theorem not_mem_blanks_of_unexpected {error : ScanError} {c : Char}
    (member : error ∈ (scan source).errors) (stray : error.problem = .unexpectedCharacter c) :
    c ∉ blanks := by
  obtain ⟨front, item, back, split, found⟩ := exists_append_of_mem_seenFrom _ member
  have fit := (tiling_ofText source).fit
  rw [split, fitTogether_append, fitTogether_cons] at fit
  obtain ⟨-, fits, -⟩ := fit
  generalize back.flatMap Item.text ++ [] = rest at fits
  cases fits with
  | stray noBlank =>
      obtain rfl := Option.some.inj found
      obtain rfl := ScanProblem.unexpectedCharacter.inj stray
      exact noBlank
  | openString | openComment =>
      obtain rfl := Option.some.inj found
      contradiction
  | _ => contradiction

private theorem lineFeed_not_mem_text {error : ScanError} (member : error ∈ (scan source).errors) :
    '\n' ∉ error.text := by
  intro broken
  rcases Diagnostic.lineFeed_mem_text.mp broken with location | message
  · contradiction
  · have stray := ScanProblem.lineFeed_mem_message.mp message
    exact not_mem_blanks_of_unexpected member stray (by decide)

end Item

namespace Grammar

variable {tokens : List Token} {result : Except ParseFailure Parsed} {source : Text}

private theorem lineFeed_not_mem_message {problem : ParseProblem} (member : problem ∈ problems) :
    '\n' ∉ problem.message := by
  have plain : ∀ problem ∈ problems, '\n' ∉ problem.message := by decide
  exact plain problem member

private theorem Ending.kind_ne_string {errors : List ParseError}
    (run : Ending tokens (.error (.rejected errors))) :
    ∀ error ∈ errors, error.token.kind ≠ .string := by
  intro error member string
  cases run with
  | @stuck read rest next resumed groups error split stage stops resume noticed =>
      obtain rfl := List.mem_singleton.mp member
      rw [noticed] at string
      have operand : next.kind ∈ literals := by
        rw [show next.kind = .string from string]
        decide
      rw [Stage.next?_literal operand] at stops
      contradiction

private theorem lineFeed_mem_text {error : ParseError}
    (member : error ∈ reported (parse (scan source).tokens)) :
    '\n' ∈ error.text ↔ error.token.Multiline := by
  have run := ending (Item.exists_eof_mem_scan source)
  have message : '\n' ∉ error.problem.message :=
    lineFeed_not_mem_message (run.problem_mem error member)
  obtain ⟨read, next, rest, stage, split, -, -, located⟩ := run.blocked
  have inside : error.token ∈ (scan source).tokens := by
    rw [split, (located error member).1]
    simp
  rw [ParseError.text, Diagnostic.lineFeed_mem_text]
  change '\n' ∈ error.token.location ∨ '\n' ∈ error.problem.message ↔ _
  rw [Item.lineFeed_mem_location inside, or_iff_left message]

end Grammar

namespace Report

open Grammar

variable {style : Style} {source : Text} {list : List Diagnostic}

private theorem noticed_of_diagnostics
    (ends : (ofSource style source).error = some (.diagnostics list)) :
    noticed source = list ∧ list ≠ [] := by
  rw [error_ofSource] at ends
  cases noticed : noticed source with
  | nil =>
      rw [noticed] at ends
      contradiction
  | cons first others =>
      rw [noticed] at ends
      obtain rfl := RunError.diagnostics.inj (Option.some.inj ends)
      exact ⟨rfl, List.cons_ne_nil first others⟩

private theorem noticed_plain (none : tree? source = none) :
    ∀ diagnostic ∈ noticed source, '\n' ∉ diagnostic.text := by
  intro diagnostic member
  by_cases clean : (scan source).errors = []
  · rw [noticed_of_clean clean] at member
    obtain ⟨error, inside, rfl⟩ := List.mem_map.mp member
    intro broken
    have multiline := (lineFeed_mem_text inside).mp broken
    rcases tree?_eq_none_iff.mp none with lexical | ⟨errors, failed⟩
    · contradiction
    · have run := ending (Item.exists_eof_mem_scan source)
      rw [failed] at run inside
      exact run.kind_ne_string error inside multiline.1
  · rw [noticed_of_errors clean] at member
    obtain ⟨error, inside, rfl⟩ := List.mem_map.mp member
    exact Item.lineFeed_not_mem_text inside

private theorem noticed_at_token (found : tree? source ≠ none) :
    ∃ token ∈ (scan source).tokens, ∀ diagnostic ∈ noticed source,
      diagnostic.line = token.line ∧ diagnostic.location = token.location ∧
        ('\n' ∈ diagnostic.text ↔ token.Multiline) := by
  have clean : (scan source).errors = [] := by
    by_contra lexical
    exact found (tree?_eq_none_iff.mpr (.inl lexical))
  have run := ending (Item.exists_eof_mem_scan source)
  obtain ⟨read, next, rest, stage, split, -, -, located⟩ := run.blocked
  refine ⟨next, by simp [split], ?_⟩
  intro diagnostic member
  rw [noticed_of_clean clean] at member
  obtain ⟨error, inside, rfl⟩ := List.mem_map.mp member
  obtain ⟨rfl, -⟩ := located error inside
  exact ⟨rfl, rfl, lineFeed_mem_text inside⟩

/-- Where no tree is read from a text, the diagnostics that it ends with are on one line each. Where
one is read they all stand at one token, and are on one line each unless that token is a string that
goes over the end of a line. In that case none of them is on one line. -/
theorem lines_of_diagnostics
    (ends : (ofSource style source).error = some (.diagnostics list)) :
    tree? source = none ∧ (∀ diagnostic ∈ list, '\n' ∉ diagnostic.text) ∧
        Diagnostic.OneLineEach list ∨
      tree? source ≠ none ∧ ∃ token ∈ (scan source).tokens,
        (∀ diagnostic ∈ list,
          diagnostic.line = token.line ∧ diagnostic.location = token.location ∧
            ('\n' ∈ diagnostic.text ↔ token.Multiline)) ∧
        (Diagnostic.OneLineEach list ↔ ¬ token.Multiline) := by
  obtain ⟨rfl, some⟩ := noticed_of_diagnostics ends
  rw [Diagnostic.oneLineEach_iff some]
  by_cases found : tree? source = none
  · have plain := noticed_plain found
    exact .inl ⟨found, plain, plain⟩
  · obtain ⟨token, member, all⟩ := noticed_at_token found
    refine .inr ⟨found, token, member, all, ?_⟩
    constructor
    · intro plain multiline
      obtain ⟨first, others, split⟩ := List.exists_cons_of_ne_nil some
      have inside : first ∈ noticed source := by simp [split]
      exact plain first inside ((all first inside).2.2.mpr multiline)
    · intro single diagnostic inside broken
      exact single ((all diagnostic inside).2.2.mp broken)

/-- An operand, and behind it a string over two lines. -/
def brokenBehind : Text := ['1', ' ', '"', 'a', '\n', 'b', '"']

def brokenNotice : Diagnostic where
  line := 1
  position := 1
  location := ['\'', 'a', '\n', 'b', '\'']
  message := ParseProblem.expectedEnd.message
  resumedAt := none

theorem lines_of_diagnostics_brokenBehind :
    (ofSource .parenthesized brokenBehind).error = some (.diagnostics [brokenNotice]) ∧
      ∃ token ∈ (scan brokenBehind).tokens,
        brokenNotice.line = token.line ∧ brokenNotice.location = token.location ∧
          (Diagnostic.OneLineEach [brokenNotice] ↔ ¬ token.Multiline) := by
  have ends : (ofSource .parenthesized brokenBehind).error =
      some (.diagnostics [brokenNotice]) := by decide +kernel
  have found : tree? brokenBehind ≠ none := by decide +kernel
  refine ⟨ends, ?_⟩
  rcases lines_of_diagnostics ends with ⟨none, -⟩ | ⟨-, token, member, all, single⟩
  · exact absurd none found
  · obtain ⟨line, location, -⟩ := all brokenNotice List.mem_cons_self
    exact ⟨token, member, line, location, single⟩

/-- A run can end with one diagnostic that is on two lines. -/
theorem diagnostic_on_two_lines :
    (ofSource .parenthesized brokenBehind).error = some (.diagnostics [brokenNotice]) ∧
      '\n' ∈ brokenNotice.text ∧
      ((Diagnostic.listText [brokenNotice]).splitOn '\n').length = 2 := by
  decide +kernel

end Report

end Lox
