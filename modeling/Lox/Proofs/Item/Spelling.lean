import Lox.Proofs.Grammar.Derivation
import Lox.Proofs.Item.Tiling

/-!
Texts that are read as the same tokens wherever they stand.

A token that was read once is read again from its own text, if a blank, a closing parenthesis or
nothing follows: none of these goes on with any token. Such texts can be put together with blanks
between them, and parentheses around them.
-/

set_option autoImplicit false
set_option relaxedAutoImplicit false

namespace Lox

/-- A token as if it stood at the start of its source. -/
def Token.unplaced (token : Token) : Token := { token with span := ⟨token.lexeme, .start⟩ }

/-- The tokens in front of the one for the end of a text. -/
def Scan.inside (scanned : Scan) : List Token := scanned.tokens.takeWhile (·.kind ≠ .eof)

theorem Token.display_eq_lexeme {token : Token} (other : token.kind ≠ .string) :
    token.display = token.lexeme := if_neg other

namespace Item

open Grammar (tokenOf)

/-- A text that separates the token in front of it from what it holds. -/
def Separated (rest : Text) : Prop := ∀ c ∈ rest.head?, c = ')' ∨ c ∈ blanks

/-- A token that stands somewhere in front of the end of a source. -/
def Lexed (token : Token) : Prop :=
  ∃ place item rest, IsToken place item token ∧ Fits item rest

def unplacedTokens (items : List Item) : List Token :=
  items.filterMap fun item => (item.token? .start).map Token.unplaced

/-- Items that spell some tokens in a text, in front of every text that separates. -/
structure Spelling (items : List Item) (text : Text) (tokens : List Token) : Prop where
  whole : items.flatMap Item.text = text
  fit : ∀ ⦃rest⦄, Separated rest → FitTogether rest items
  tokens : unplacedTokens items = tokens
  clean : ∀ item ∈ items, item.problem? = none

/-- A text that is read as some tokens in front of every text that separates. -/
def Spells (text : Text) (tokens : List Token) : Prop := ∃ items, Spelling items text tokens

section separated

variable {rest : Text} {c : Char}

theorem separated_nil : Separated [] := nofun

private theorem separated_cons (separates : c = ')' ∨ c ∈ blanks) : Separated (c :: rest) := by
  intro d first
  obtain rfl := Option.some.inj first
  exact separates

theorem Separated.stops (separated : Separated rest) {run : Char → Bool}
    (outside : List.any (')' :: blanks) run = false) : Text.Stops run rest := by
  intro c first
  exact Text.eq_false_of_mem outside (List.mem_cons.mpr (separated c first))

theorem Separated.endsAt (separated : Separated rest) (numeral : Decimal) :
    numeral.EndsAt rest := by
  refine ⟨separated.stops (by decide), ?_⟩
  rintro - behind rfl
  exact absurd (separated '.' rfl) (by decide)

end separated

section lexed

variable {place : Place} {item : Item} {token : Token} {rest others : Text} {kind : Kind}

private theorem Fits.of_separated (fits : Fits item rest) (is : IsToken place item token)
    (separated : Separated others) : Fits item others := by
  cases fits with
  | closedSymbol member => exact .closedSymbol member
  | openSymbol member => exact .openSymbol member (separated.stops (by decide))
  | slash => exact .slash (separated.stops (by decide))
  | string whole => exact .string whole
  | number proper => exact .number proper (separated.endsAt _)
  | word starts inside => exact .word starts inside (separated.stops (by decide))
  | blank | lineComment | blockComment | openComment | openString | stray => nomatch is

theorem Fits.mem_symbols (fits : Fits (.symbol kind) rest) :
    kind ∈ closedSymbols ++ openSymbols ++ [.slash] := by
  cases fits with
  | closedSymbol member => simp [member]
  | openSymbol member => simp [member]
  | slash => simp

theorem Fits.symbol_ne_string (fits : Fits (.symbol kind) rest) : kind ≠ .string := by
  rintro rfl
  exact absurd fits.mem_symbols (by decide)

theorem Fits.kind_ne_eof (fits : Fits item rest) (is : IsToken place item token) :
    token.kind ≠ .eof := by
  cases is with
  | symbol kind =>
      have member := fits.mem_symbols
      rintro (rfl : kind = .eof)
      exact absurd member (by decide)
  | string | number | identifier => exact Kind.noConfusion
  | @reserved word kind member =>
      have others : ∀ pair ∈ Kind.reservedWords, pair.2 ≠ .eof := by decide
      exact others _ member

theorem Fits.display_eq (fits : Fits item rest) (is : IsToken place item token) :
    token.display = item.text := by
  cases is with
  | symbol kind => exact if_neg fits.symbol_ne_string
  | string content => rfl
  | number numeral => rfl
  | @reserved word kind member =>
      have others : ∀ pair ∈ Kind.reservedWords, pair.2 ≠ .string := by decide
      exact if_neg (others _ member)
  | identifier free => rfl

end lexed

section places

variable {place : Place} {items : List Item} {token : Token} {rest : Text}

private theorem map_unplaced_token? (place : Place) (item : Item) :
    (item.token? place).map Token.unplaced = (item.token? .start).map Token.unplaced := by
  cases item <;> rfl

private theorem map_unplaced_tokensFrom (place : Place) (items : List Item) :
    (tokensFrom place items).map Token.unplaced = unplacedTokens items := by
  induction items generalizing place with
  | nil => rfl
  | cons item items ih =>
      have head := map_unplaced_token? place item
      rw [tokensFrom_cons, List.map_append, ih, unplacedTokens, unplacedTokens,
        List.filterMap_cons, ← head]
      cases item.token? place <;> rfl

private theorem errorsFrom_of_clean (place : Place) (clean : ∀ item ∈ items, item.problem? = none) :
    errorsFrom place items = [] := by
  induction items generalizing place with
  | nil => rfl
  | cons item items ih =>
      have first := clean item List.mem_cons_self
      rw [errorsFrom_cons, error?, first]
      exact ih (place.after item.text) fun later member => clean later (.tail _ member)

private theorem lexed_of_mem_tokensFrom (fit : FitTogether rest items)
    (member : token ∈ tokensFrom place items) : Lexed token := by
  induction fit generalizing place with
  | nil => contradiction
  | @cons item items first more ih =>
      rw [tokensFrom_cons] at member
      rcases List.mem_append.mp member with own | later
      · exact ⟨place, item, _, isToken_iff.mpr (Option.mem_toList.mp own), first⟩
      · exact ih later

theorem Lexed.kind_ne_eof (lexed : Lexed token) : token.kind ≠ .eof := by
  obtain ⟨place, item, rest, is, fits⟩ := lexed
  exact fits.kind_ne_eof is

theorem inside_scan (source : Text) :
    (scan source).inside = tokensFrom .start (ofText source) := by
  have proper : ∀ token ∈ tokensFrom .start (ofText source), decide (token.kind ≠ .eof) = true := by
    intro token member
    have lexed := lexed_of_mem_tokensFrom (tiling_ofText source).fit member
    exact decide_eq_true lexed.kind_ne_eof
  rw [Scan.inside, scan_eq, List.takeWhile_append_of_pos proper]
  simp [Token.atEnd]

theorem tokens_scan (source : Text) :
    (scan source).tokens = (scan source).inside ++ [.atEnd (Place.start.after source)] := by
  rw [inside_scan]
  rfl

theorem lexed_of_mem_inside {source : Text} (member : token ∈ (scan source).inside) :
    Lexed token := by
  rw [inside_scan] at member
  exact lexed_of_mem_tokensFrom (tiling_ofText source).fit member

theorem lexed_of_mem_scan {source : Text} (member : token ∈ (scan source).tokens)
    (inside : token.kind ≠ .eof) : Lexed token := by
  rw [tokens_scan] at member
  rcases List.mem_append.mp member with front | last
  · exact lexed_of_mem_inside front
  · obtain rfl := List.mem_singleton.mp last
    exact absurd rfl inside

theorem exists_eof_mem_scan (source : Text) :
    ∃ token ∈ (scan source).tokens, token.kind = .eof := by
  rw [scan_eq]
  exact ⟨_, List.mem_append_right _ List.mem_cons_self, rfl⟩

end places

namespace Spells

variable {text other : Text} {tokens others : List Token} {token : Token}

theorem of_lexed (lexed : Lexed token) : Spells token.display [token.unplaced] := by
  obtain ⟨place, item, rest, is, fits⟩ := lexed
  refine ⟨[item], ?_, ?_, ?_, ?_⟩
  · rw [fits.display_eq is, List.flatMap_singleton]
  · intro rest' separated
    exact .cons (fits.of_separated is separated) .nil
  · have own := map_unplaced_token? place item
    rw [is.views.1] at own
    rw [unplacedTokens, List.filterMap_cons, ← own]
    rfl
  · intro item' member
    obtain rfl := List.mem_singleton.mp member
    cases is <;> rfl

theorem spaced {c : Char} (blank : c ∈ blanks) (left : Spells text tokens)
    (right : Spells other others) : Spells (text ++ c :: other) (tokens ++ others) := by
  obtain ⟨items, first⟩ := left
  obtain ⟨items', second⟩ := right
  refine ⟨items ++ .blank c :: items', ?_, ?_, ?_, ?_⟩
  · rw [List.flatMap_append, List.flatMap_cons, first.whole, second.whole]
    rfl
  · intro rest separated
    refine fitTogether_append.mpr ⟨first.fit ?_, .cons (.blank blank) (second.fit separated)⟩
    exact separated_cons (.inr blank)
  · rw [← first.tokens, ← second.tokens]
    simp [unplacedTokens, token?]
  · intro item member
    rcases List.mem_append.mp member with before | behind
    · exact first.clean item before
    · rcases List.mem_cons.mp behind with rfl | behind
      · rfl
      · exact second.clean item behind

theorem enclosed (inner : Spells text tokens) :
    Spells ('(' :: (text ++ [')'])) (tokenOf .leftParen :: (tokens ++ [tokenOf .rightParen])) := by
  obtain ⟨items, spelling⟩ := inner
  refine ⟨.symbol .leftParen :: (items ++ [.symbol .rightParen]), ?_, ?_, ?_, ?_⟩
  · rw [List.flatMap_cons, List.flatMap_append, spelling.whole, List.flatMap_singleton]
    rfl
  · intro rest separated
    have closing : FitTogether rest [.symbol .rightParen] :=
      .cons (.closedSymbol (by decide)) .nil
    refine .cons (.closedSymbol (by decide)) (fitTogether_append.mpr ⟨?_, closing⟩)
    exact spelling.fit (separated_cons (.inl rfl))
  · rw [← spelling.tokens]
    simp [unplacedTokens, token?, tokenOf, Token.unplaced, Token.lexeme]
  · intro item member
    rcases List.mem_cons.mp member with rfl | member
    · rfl
    · rcases List.mem_append.mp member with inside | last
      · exact spelling.clean item inside
      · obtain rfl := List.mem_singleton.mp last
        rfl

theorem scanned (spells : Spells text tokens) :
    (scan text).errors = [] ∧
      (scan text).tokens.map Token.unplaced = tokens ++ [.atEnd .start] := by
  obtain ⟨items, spelling⟩ := spells
  have tiling : Tiling items text := ⟨spelling.whole, spelling.fit separated_nil⟩
  rw [scan_eq, ← tiling.eq_ofText]
  refine ⟨errorsFrom_of_clean _ spelling.clean, ?_⟩
  rw [List.map_append, map_unplaced_tokensFrom, spelling.tokens]
  rfl

end Spells

end Item

end Lox
