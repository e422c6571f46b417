import Lox.Proofs.Item.Moving
import Lox.Proofs.Item.Progress

/-!
Scanning with a cursor.

Here a source is read one character at a time by a cursor that looks at most two characters ahead,
and every lexeme is what lies between two cursors. The span between two cursors does not always
exist, so that each step could fail. None does: a step goes past the item that is read from the text
at once, and to the end of a source it comes to the same tokens and errors.
-/

set_option autoImplicit false
set_option relaxedAutoImplicit false

namespace Lox

open Item (first soleSymbol? extensibleSymbol? startsWord continuesWord isBlank commentBody?
  stringBody?)

/-- The cursor at the start of an item and the one that reads it, and what was met so far. -/
structure Scanner where
  start : Cursor
  cursor : Cursor
  tokens : List Token
  errors : List ScanError

namespace Scanner

def begin (source : Text) : Scanner := ⟨.start source, .start source, [], []⟩

def push (kind : Kind) (literal : Option Literal) (first last : Cursor) (scanner : Scanner) :
    Option Scanner := do
  let span ← Span.between? first last
  return { scanner with tokens := scanner.tokens ++ [⟨kind, literal, span⟩] }

def addToken (kind : Kind) (literal : Option Literal) (scanner : Scanner) : Option Scanner :=
  scanner.push kind literal scanner.start scanner.cursor

def addError (problem : ScanProblem) (scanner : Scanner) : Scanner :=
  { scanner with errors := scanner.errors ++ [⟨problem, scanner.start.place⟩] }

def symbol (alone extended : Kind) (scanner : Scanner) : Option Scanner :=
  let next := scanner.cursor.nextIf '='
  addToken (if next.1 then extended else alone) none { scanner with cursor := next.2 }

def blockComment (scanner : Scanner) : Scanner :=
  let closing := scanner.cursor.closeComment 1 scanner.cursor.rest.length
  if closing.1 then { scanner with cursor := closing.2 }
  else addError .unterminatedBlockComment { scanner with cursor := closing.2 }

def slash (scanner : Scanner) : Option Scanner :=
  if (scanner.cursor.nextIf '/').1 then
    some { scanner with cursor := (scanner.cursor.nextIf '/').2.consumeWhile (· != '\n') }
  else if (scanner.cursor.nextIf '*').1 then
    some (blockComment { scanner with cursor := (scanner.cursor.nextIf '*').2 })
  else scanner.addToken .slash none

def string (scanner : Scanner) : Option Scanner :=
  let closing := scanner.cursor.closeString scanner.cursor.rest.length
  if closing.1 then do
    let content ← scanner.cursor.slice? closing.2
    push .string (some (.string content)) scanner.cursor closing.2
      { scanner with cursor := closing.2.next.2 }
  else some (addError .unterminatedString { scanner with cursor := closing.2 })

/-- Goes on behind the first digit of a numeral. The value is that of the lexeme. -/
def number (scanner : Scanner) : Option Scanner := do
  let cursor := scanner.cursor.readNumber
  let lexeme ← scanner.start.slice? cursor
  addToken .number (some (.number (Decimal.read lexeme).1.nearest)) { scanner with cursor }

/-- Goes on behind the first character of a word. The kind is that of the lexeme. -/
def word (scanner : Scanner) : Option Scanner := do
  let cursor := scanner.cursor.consumeWhile continuesWord
  let lexeme ← scanner.start.slice? cursor
  let kind := Kind.ofWord lexeme
  addToken kind (Literal.ofKind? kind) { scanner with cursor }

def item (c : Char) (scanner : Scanner) : Option Scanner :=
  match soleSymbol? c, extensibleSymbol? c with
  | some kind, _ => scanner.addToken kind none
  | none, some (alone, extended) => scanner.symbol alone extended
  | none, none =>
      if c = '/' then scanner.slash
      else if c = '"' then scanner.string
      else if c.isDigit then scanner.number
      else if startsWord c then scanner.word
      else if isBlank c then some scanner
      else some (scanner.addError (.unexpectedCharacter c))

/-- Reads items until the source ends, and keeps the token for its end. -/
def scanTokens : Nat → Scanner → Option Scan
  | 0, _ => none
  | bound + 1, scanner =>
      let scanner := { scanner with start := scanner.cursor }
      match scanner.cursor.next with
      | (none, _) => do
          let scanner ← scanner.addToken .eof none
          return ⟨scanner.tokens, scanner.errors⟩
      | (some c, cursor) => do
          let scanner ← item c { scanner with cursor }
          scanTokens bound scanner

/-- What was met, and what is left of the source. -/
def progress (scanner : Scanner) : Progress :=
  ⟨scanner.tokens, scanner.errors, scanner.cursor.place, scanner.cursor.rest⟩

def past (item : Item) (rest : Text) (scanner : Scanner) : Scanner where
  start := scanner.start
  cursor := scanner.start.past item.text rest
  tokens := scanner.tokens ++ (item.token? scanner.start.place).toList
  errors := scanner.errors ++ (item.error? scanner.start.place).toList

section item

variable {start : Cursor} {c : Char} {rest : Text}
variable (tokens : List Token) (errors : List ScanError)

private theorem addToken_eq (item : Item) {kind : Kind} {literal : Option Literal}
    (left : start.rest = item.text ++ rest)
    (token : item.token? start.place = some ⟨kind, literal, ⟨item.text, start.place⟩⟩)
    (fine : item.problem? = none) :
    addToken kind literal ⟨start, start.past item.text rest, tokens, errors⟩ =
      some (past item rest ⟨start, start, tokens, errors⟩) := by
  rw [addToken, push, Cursor.between?_past left]
  simp [past, token, Item.error?, fine]

private theorem past_of_silent (item : Item) (silent : item.token? start.place = none)
    (fine : item.problem? = none) :
    past item rest ⟨start, start, tokens, errors⟩ =
      ⟨start, start.past item.text rest, tokens, errors⟩ := by
  simp [past, silent, Item.error?, fine]

private theorem addError_eq (item : Item) {problem : ScanProblem}
    (silent : item.token? start.place = none)
    (found : item.problem? = some problem) :
    addError problem ⟨start, start.past item.text rest, tokens, errors⟩ =
      past item rest ⟨start, start, tokens, errors⟩ := by
  simp [addError, past, silent, Item.error?, found]

private theorem addToken_symbol {kind : Kind} {lexeme : Text} (own : kind.symbolText = lexeme)
    (left : start.rest = lexeme ++ rest) :
    addToken kind none ⟨start, start.past lexeme rest, tokens, errors⟩ =
      some (past (.symbol kind) rest ⟨start, start, tokens, errors⟩) := by
  subst own
  exact addToken_eq tokens errors (.symbol kind) left rfl rfl

private theorem stops_of_ne (other : rest.head? ≠ some c) : Text.Stops (· == c) rest := by
  intro d first
  refine beq_eq_false_iff_ne.mpr ?_
  rintro rfl
  exact other first

private theorem symbol_eq {alone extended : Kind} (left : start.rest = c :: rest)
    (pair : extensibleSymbol? c = some (alone, extended)) :
    symbol alone extended ⟨start, start.past [c] rest, tokens, errors⟩ =
      some (past (Item.afterExtensible alone extended rest).1
        (Item.afterExtensible alone extended rest).2 ⟨start, start, tokens, errors⟩) := by
  obtain ⟨single, double⟩ := Item.symbolText_of_extensibleSymbol? pair
  rw [symbol]
  by_cases equals : rest.head? = some '='
  · obtain ⟨behind, rfl⟩ := List.head?_eq_some_iff.mp equals
    have moved : (start.past [c] ('=' :: behind)).nextIf '=' =
        (true, start.past [c, '='] behind) := Cursor.nextIf_past ..
    dsimp only
    rw [moved]
    exact addToken_symbol tokens errors double left
  · have stays : (start.past [c] rest).nextIf '=' = (false, start.past [c] rest) :=
      Cursor.nextIf_of_ne equals
    dsimp only
    rw [stays, Item.afterExtensible_of_stops (stops_of_ne equals)]
    exact addToken_symbol tokens errors single left

private theorem blockComment_eq (start : Cursor) (behind : Text) :
    blockComment ⟨start, start.past ['/', '*'] behind, tokens, errors⟩ =
      past (Item.afterSlash ('*' :: behind)).1 (Item.afterSlash ('*' :: behind)).2
        ⟨start, start, tokens, errors⟩ := by
  have closing : (start.past ['/', '*'] behind).closeComment 1
      (start.past ['/', '*'] behind).rest.length =
        (start.past ['/', '*'] behind).reached (commentBody? 1 behind) :=
    Cursor.closeComment_eq 1 _ (Nat.le_refl _)
  rw [blockComment, Item.afterSlash]
  dsimp only
  rw [closing]
  cases commentBody? 1 behind with
  | none =>
      rw [Cursor.reached, Cursor.past_past, if_neg Bool.false_ne_true]
      exact addError_eq tokens errors (.openComment behind) rfl rfl
  | some found =>
      rw [Cursor.reached, Cursor.past_past, if_pos rfl]
      exact (past_of_silent tokens errors (.blockComment found.1) rfl rfl).symm

private theorem slash_eq (left : start.rest = '/' :: rest) :
    slash ⟨start, start.past ['/'] rest, tokens, errors⟩ =
      some (past (Item.afterSlash rest).1 (Item.afterSlash rest).2
        ⟨start, start, tokens, errors⟩) := by
  rw [slash]
  dsimp only
  by_cases line : rest.head? = some '/'
  · obtain ⟨behind, rfl⟩ := List.head?_eq_some_iff.mp line
    have moved : (start.past ['/'] ('/' :: behind)).nextIf '/' =
        (true, start.past ['/', '/'] behind) := Cursor.nextIf_past ..
    rw [moved, if_pos rfl, Cursor.consumeWhile_eq, Cursor.past_past]
    exact congrArg some (past_of_silent tokens errors (.lineComment _) rfl rfl).symm
  have noLine : (start.past ['/'] rest).nextIf '/' = (false, start.past ['/'] rest) :=
    Cursor.nextIf_of_ne line
  rw [noLine, if_neg Bool.false_ne_true]
  by_cases block : rest.head? = some '*'
  · obtain ⟨behind, rfl⟩ := List.head?_eq_some_iff.mp block
    have moved : (start.past ['/'] ('*' :: behind)).nextIf '*' =
        (true, start.past ['/', '*'] behind) := Cursor.nextIf_past ..
    rw [moved, if_pos rfl]
    exact congrArg some (blockComment_eq tokens errors start behind)
  · have noBlock : (start.past ['/'] rest).nextIf '*' = (false, start.past ['/'] rest) :=
      Cursor.nextIf_of_ne block
    have stops : Text.Stops (fun c => c == '/' || c == '*') rest := by
      intro c first
      exact Bool.or_eq_false_iff.mpr ⟨stops_of_ne line c first, stops_of_ne block c first⟩
    rw [noBlock, if_neg Bool.false_ne_true, Item.afterSlash_of_stops stops]
    exact addToken_symbol tokens errors rfl left

private theorem string_eq (start : Cursor) (rest : Text) :
    string ⟨start, start.past ['"'] rest, tokens, errors⟩ =
      some (past (Item.afterQuote rest).1 (Item.afterQuote rest).2
        ⟨start, start, tokens, errors⟩) := by
  have closing : (start.past ['"'] rest).closeString (start.past ['"'] rest).rest.length =
      (start.past ['"'] rest).reached ((stringBody? rest).map (Prod.map id ('"' :: ·))) :=
    Cursor.closeString_eq _ (Nat.le_refl _)
  rw [string, Item.afterQuote]
  dsimp only
  rw [closing]
  cases body : stringBody? rest with
  | none =>
      rw [Option.map_none, Cursor.reached, Cursor.past_past, if_neg Bool.false_ne_true]
      exact congrArg some (addError_eq tokens errors (.openString rest) rfl rfl)
  | some found =>
      obtain ⟨content, behind⟩ := found
      have whole : (start.past ['"'] rest).rest = content ++ '"' :: behind :=
        (Item.append_of_stringBody? body).symm
      rw [Option.map_some, Cursor.reached, if_pos rfl]
      dsimp only [Prod.map, id]
      rw [Cursor.slice?_past whole, Option.bind_eq_bind, Option.bind_some, push,
        Cursor.between?_past whole, Cursor.next_of_cons rfl]
      dsimp only
      rw [Cursor.past_past, Cursor.past_past]
      simp [past, Item.token?, Item.error?, Item.problem?, Item.text, Cursor.past, Place.after_cons,
        Place.after_nil]

private theorem number_eq (left : start.rest = c :: rest) (digit : c.isDigit = true) :
    number ⟨start, start.past [c] rest, tokens, errors⟩ =
      some (past (.number (Decimal.read (c :: rest)).1) (Decimal.read (c :: rest)).2
        ⟨start, start, tokens, errors⟩) := by
  have whole : start.rest = (Decimal.read (c :: rest)).1.text ++ (Decimal.read (c :: rest)).2 := by
    rw [left, Decimal.text_append_read]
  have read : (start.past [c] rest).readNumber =
      start.past (Decimal.read (c :: rest)).1.text (Decimal.read (c :: rest)).2 := by
    rw [Cursor.readNumber_of_digit left digit, Cursor.readNumber_eq, left]
  have again : Decimal.read (Decimal.read (c :: rest)).1.text =
      ((Decimal.read (c :: rest)).1, []) := by
    have ends : (Decimal.read (c :: rest)).1.EndsAt [] := ⟨Text.stops_nil, nofun⟩
    have own := Decimal.read_text_append (Decimal.proper_read digit rest) ends
    rwa [List.append_nil] at own
  rw [number]
  dsimp only
  rw [read, Cursor.slice?_past whole]
  change addToken .number (some (.number (Decimal.read _).1.nearest)) _ = _
  rw [again]
  exact addToken_eq tokens errors (.number (Decimal.read (c :: rest)).1) whole rfl rfl

private theorem word_eq (left : start.rest = c :: rest) :
    word ⟨start, start.past [c] rest, tokens, errors⟩ =
      some (past (.word (c :: rest.takeWhile continuesWord)) (rest.dropWhile continuesWord)
        ⟨start, start, tokens, errors⟩) := by
  have whole : start.rest =
      (c :: rest.takeWhile continuesWord) ++ rest.dropWhile continuesWord := by
    rw [left, List.cons_append, List.takeWhile_append_dropWhile]
  have read : (start.past [c] rest).consumeWhile continuesWord =
      start.past (c :: rest.takeWhile continuesWord) (rest.dropWhile continuesWord) := by
    rw [Cursor.consumeWhile_eq, Cursor.past_past]
    rfl
  rw [word]
  dsimp only
  rw [read, Cursor.slice?_past whole]
  exact addToken_eq tokens errors (.word (c :: rest.takeWhile continuesWord)) whole rfl rfl

/-- Reading an item with the cursor goes past the item that is read from the text at once. -/
theorem item_eq (left : start.rest = c :: rest) :
    item c ⟨start, start.past [c] rest, tokens, errors⟩ =
      some (past (first c rest).1 (first c rest).2 ⟨start, start, tokens, errors⟩) := by
  rw [item, first]
  cases sole : soleSymbol? c with
  | some kind =>
      exact addToken_symbol tokens errors (Item.symbolText_of_soleSymbol? sole) left
  | none =>
      cases pair : extensibleSymbol? c with
      | some kinds => exact symbol_eq tokens errors left pair
      | none =>
          dsimp only
          split
          · rename_i slash
            subst slash
            exact slash_eq tokens errors left
          split
          · rename_i quote
            subst quote
            exact string_eq tokens errors start rest
          split
          · rename_i digit
            exact number_eq tokens errors left digit
          split
          · exact word_eq tokens errors left
          split
          · exact congrArg some (past_of_silent tokens errors (.blank c) rfl rfl).symm
          · exact congrArg some (addError_eq tokens errors (.stray c) rfl rfl)

end item

variable {scanner : Scanner}

private theorem scanTokens_of_nil (ended : scanner.cursor.rest = []) (bound : Nat) :
    scanTokens (bound + 1) scanner = some scanner.progress.finish := by
  have nothing : Span.between? scanner.cursor scanner.cursor = some ⟨[], scanner.cursor.place⟩ := by
    have span : Span.between? scanner.cursor (scanner.cursor.past [] []) = _ :=
      Cursor.between?_past ended
    rwa [Cursor.past_nil ended] at span
  rw [scanTokens, Cursor.next_of_nil ended, addToken, push]
  dsimp only
  rw [nothing]
  rfl

private theorem scanTokens_of_cons {c : Char} {rest : Text}
    (left : scanner.cursor.rest = c :: rest) (bound : Nat) :
    ∃ next : Scanner, next.progress = scanner.progress.step ∧
      scanTokens (bound + 1) scanner = scanTokens bound next := by
  refine ⟨past (first c rest).1 (first c rest).2 { scanner with start := scanner.cursor }, ?_, ?_⟩
  · rw [Progress.step_of_cons left]
    rfl
  · rw [scanTokens, Cursor.next_of_cons left]
    dsimp only
    rw [item_eq scanner.tokens scanner.errors left]
    rfl

theorem scanTokens_eq (bound : Nat) (enough : scanner.cursor.rest.length < bound) :
    scanTokens bound scanner = some scanner.progress.complete.finish := by
  induction bound generalizing scanner with
  | zero => exact absurd enough (Nat.not_lt_zero _)
  | succ bound ih =>
      cases left : scanner.cursor.rest with
      | nil => rw [scanTokens_of_nil left, Progress.complete_of_nil left]
      | cons c rest =>
          obtain ⟨next, same, onward⟩ := scanTokens_of_cons left bound
          have shorter : next.cursor.rest.length < scanner.cursor.rest.length := by
            have some : scanner.progress.rest ≠ [] := by
              rw [progress, left]
              exact List.cons_ne_nil c rest
            have fewer := Progress.length_rest_step_lt some
            rwa [← same] at fewer
          rw [onward, ih (by omega), same, Progress.complete_step]

/-- A cursor that goes through a source comes to the tokens and the errors of its scan, and every
span that it asks for on the way exists. -/
theorem scanTokens_begin (source : Text) :
    scanTokens (source.length + 1) (begin source) = some (scan source) :=
  scanTokens_eq (source.length + 1) (Nat.lt_succ_self _)

end Scanner

end Lox
