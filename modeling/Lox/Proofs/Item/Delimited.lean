import Lox.Proofs.Item.Progress
import Lox.Proofs.Item.Spelling
import Lox.Proofs.Text.Cursor

/-!
Going past block comments and strings.

Both are known by what stands between their delimiters: a text begins with at most one body of a
block comment, and with at most one content of a string that a quote closes. Scanning goes past it,
or past the whole text if there is none.
-/

set_option autoImplicit false
set_option relaxedAutoImplicit false

namespace Lox

namespace Item

section unique

variable {text body content other rest others : Text}

theorem CommentBody.unique (whole : CommentBody body) (another : CommentBody other)
    (split : text = body ++ rest) (otherwise : text = other ++ others) : other = body := by
  have read := commentBody?_eq_some_iff.mpr ⟨whole, split⟩
  have again := commentBody?_eq_some_iff.mpr ⟨another, otherwise⟩
  rw [read] at again
  exact (Prod.mk.inj (Option.some.inj again)).1.symm

theorem StringContent.unique (whole : StringContent content) (another : StringContent other)
    (split : text = content ++ '"' :: rest) (otherwise : text = other ++ '"' :: others) :
    other = content := by
  have read := stringBody?_eq_some_iff.mpr ⟨whole, split⟩
  have again := stringBody?_eq_some_iff.mpr ⟨another, otherwise⟩
  rw [read] at again
  exact (Prod.mk.inj (Option.some.inj again)).1.symm

private theorem stringBody?_append_backslash (whole : StringContent content) :
    stringBody? (content ++ ['\\']) = none := by
  induction whole with
  | nil => simp [stringBody?]
  | @plain c content noQuote noBackslash more ih =>
      have step : stringBody? (c :: (content ++ ['\\'])) =
          (stringBody? (content ++ ['\\'])).map (prepend [c]) := by
        rw [stringBody?.eq_def]
        split <;> simp_all
      rw [List.cons_append, step, ih]
      rfl
  | @escaped c content more ih =>
      rw [List.cons_append, List.cons_append, stringBody?, ih]
      rfl

end unique

variable {token : Token}

private theorem Lexed.stringContent (lexed : Lexed token) (isString : token.kind = .string) :
    StringContent token.lexeme ∧ token.literal = some (.string token.lexeme) := by
  obtain ⟨place, item, rest, is, fits⟩ := lexed
  cases is with
  | string content =>
      cases fits with
      | string whole => exact ⟨whole, rfl⟩
  | symbol kind => exact absurd isString fits.symbol_ne_string
  | number numeral => contradiction
  | @reserved word kind member =>
      have others : ∀ pair ∈ Kind.reservedWords, pair.2 ≠ .string := by decide
      exact absurd isString (others _ member)
  | identifier free => contradiction

end Item

namespace Progress

open Item

variable {progress : Progress} {text body content rest : Text}

private theorem step_of_slash (opening : progress.rest = '/' :: text) :
    progress.step = progress.past (afterSlash text).1 (afterSlash text).2 :=
  step_of_cons opening

private theorem step_of_quote (opening : progress.rest = '"' :: text) :
    progress.step = progress.past (afterQuote text).1 (afterQuote text).2 :=
  step_of_cons opening

section comment

private theorem step_of_commentBody (opening : progress.rest = '/' :: '*' :: text)
    (whole : CommentBody body) (split : text = body ++ rest) :
    progress.step =
      { progress with
        place := ⟨progress.place.line + body.count '\n', progress.place.offset + (2 + body.size)⟩
        rest } := by
  have read : commentBody? 1 text = some (body, rest) :=
    commentBody?_eq_some_iff.mpr ⟨whole, split⟩
  have size : Text.size ('/' :: '*' :: body) = 2 + Text.size body := by
    rw [Text.size_cons, Text.size_cons, ← Nat.add_assoc]
    rfl
  have place := Place.after_eq progress.place ('/' :: '*' :: body)
  rw [size] at place
  simp only [List.count_cons, Char.reduceBEq, Bool.false_eq_true, if_false, Nat.add_zero] at place
  rw [step_of_slash opening, afterSlash, read]
  simp [past, token?, error?, problem?, Item.text, place]

private theorem step_of_openComment (opening : progress.rest = '/' :: '*' :: text)
    (never : ∀ body rest, text = body ++ rest → ¬ CommentBody body) :
    progress.step =
      { progress with
        errors := progress.errors ++ [⟨.unterminatedBlockComment, progress.place⟩]
        place := progress.place.after ('/' :: '*' :: text)
        rest := [] } := by
  have failed : commentBody? 1 text = none := commentBody?_eq_none_iff.mpr never
  rw [step_of_slash opening, afterSlash, failed]
  simp [past, token?, error?, problem?, Item.text]

end comment

section string

private theorem step_of_stringContent (opening : progress.rest = '"' :: text)
    (whole : StringContent content) (split : text = content ++ '"' :: rest) :
    progress.step =
      { progress with
        tokens := progress.tokens ++ [⟨.string, some (.string content),
          ⟨content, ⟨progress.place.line, progress.place.offset + 1⟩⟩⟩]
        place :=
          ⟨progress.place.line + content.count '\n', progress.place.offset + (content.size + 2)⟩
        rest } := by
  have read : stringBody? text = some (content, rest) :=
    stringBody?_eq_some_iff.mpr ⟨whole, split⟩
  have size : Text.size ('"' :: (content ++ ['"'])) = Text.size content + 2 := by
    have quote : '"'.utf8Size = 1 := rfl
    rw [Text.size_cons, Text.size_append, Text.size_cons, Text.size_nil, quote]
    omega
  have place := Place.after_eq progress.place ('"' :: (content ++ ['"']))
  rw [size] at place
  simp only [List.count_cons, List.count_append, List.count_nil, Char.reduceBEq,
    Bool.false_eq_true, if_false, Nat.add_zero] at place
  have behind : progress.place.step '"' = ⟨progress.place.line, progress.place.offset + 1⟩ := rfl
  rw [step_of_quote opening, afterQuote, read]
  simp [past, token?, error?, problem?, Item.text, place, behind]

private theorem step_of_openString (opening : progress.rest = '"' :: text)
    (never : ∀ content rest, text = content ++ '"' :: rest → ¬ StringContent content) :
    progress.step =
      { progress with
        errors := progress.errors ++ [⟨.unterminatedString, progress.place⟩]
        place := progress.place.after ('"' :: text)
        rest := [] } := by
  have failed : stringBody? text = none := stringBody?_eq_none_iff.mpr never
  rw [step_of_quote opening, afterQuote, failed]
  simp [past, token?, error?, problem?, Item.text]

end string

end Progress

open Item Progress

/-- Block comments nest. Scanning goes past the only body of a block comment with which the text
behind an opening begins, and reports nothing. Without such a body it goes past the whole text, and
reports the comment where it was opened. -/
theorem block_comments_nest {progress : Progress} {text : Text}
    (opening : progress.rest = '/' :: '*' :: text) :
    (∀ body rest, CommentBody body → text = body ++ rest →
        (∀ other others, CommentBody other → text = other ++ others → other = body) ∧
          progress.step =
            { progress with
              place :=
                ⟨progress.place.line + body.count '\n', progress.place.offset + (2 + body.size)⟩
              rest }) ∧
      ((∀ body rest, text = body ++ rest → ¬ CommentBody body) →
        progress.step =
          { progress with
            errors := progress.errors ++ [⟨.unterminatedBlockComment, progress.place⟩]
            place := progress.place.after ('/' :: '*' :: text)
            rest := [] }) ∧
      ∀ source, scan source = (step^[source.length] (start source)).finish := by
  refine ⟨?_, step_of_openComment opening, scan_eq_finish⟩
  intro body rest whole split
  refine ⟨?_, step_of_commentBody opening whole split⟩
  intro other others another otherwise
  exact whole.unique another split otherwise

/-- A slash can belong to one delimiter only. -/
theorem block_comments_nest_overlapping :
    (start "/*/**/*/x".toList).step = ⟨[], [], ⟨1, 8⟩, ['x']⟩ ∧
      (start "/*/\n".toList).step = ⟨[], [⟨.unterminatedBlockComment, ⟨1, 0⟩⟩], ⟨2, 4⟩, []⟩ := by
  have inner : CommentBody ['*', '/'] := .closing
  have nested : CommentBody ['/', '*', '*', '/', '*', '/'] := .nested inner inner
  have never : ∀ body rest, ['/', '\n'] = body ++ rest → ¬ CommentBody body :=
    commentBody?_eq_none_iff.mp (by decide)
  have closed := (@block_comments_nest (start "/*/**/*/x".toList) _ rfl).1
  have unclosed := (@block_comments_nest (start "/*/\n".toList) _ rfl).2.1
  exact ⟨(closed _ ['x'] nested rfl).2, unclosed never⟩

/-- A string ends at its first quote that is not escaped. Scanning goes past the only content of a
string, closed by a quote, with which the text behind the opening quote begins, and this content is
a token. Without such a content it goes past the whole text, and reports the string where it was
opened; this is so if a backslash without a character behind it is left. All string tokens are such
contents. -/
theorem string_ends_unescaped {progress : Progress} {text : Text}
    (opening : progress.rest = '"' :: text) :
    (∀ content rest, StringContent content → text = content ++ '"' :: rest →
        (∀ other others, StringContent other → text = other ++ '"' :: others → other = content) ∧
          progress.step =
            { progress with
              tokens := progress.tokens ++ [⟨.string, some (.string content),
                ⟨content, ⟨progress.place.line, progress.place.offset + 1⟩⟩⟩]
              place :=
                ⟨progress.place.line + content.count '\n',
                  progress.place.offset + (content.size + 2)⟩
              rest }) ∧
      ((∀ content rest, text = content ++ '"' :: rest → ¬ StringContent content) →
        progress.step =
          { progress with
            errors := progress.errors ++ [⟨.unterminatedString, progress.place⟩]
            place := progress.place.after ('"' :: text)
            rest := [] }) ∧
      (∀ content, StringContent content → text = content ++ ['\\'] →
        ∀ other rest, text = other ++ '"' :: rest → ¬ StringContent other) ∧
      (∀ source, ∀ token ∈ (scan source).tokens, token.kind = .string →
        StringContent token.lexeme ∧ token.literal = some (.string token.lexeme)) ∧
      ∀ source, scan source = (step^[source.length] (start source)).finish := by
  refine ⟨?_, step_of_openString opening, ?_, ?_, scan_eq_finish⟩
  · intro content rest whole split
    refine ⟨?_, step_of_stringContent opening whole split⟩
    intro other others another otherwise
    exact whole.unique another split otherwise
  · intro content whole split
    rw [split]
    exact stringBody?_eq_none_iff.mp (stringBody?_append_backslash whole)
  · intro source token member isString
    have inside : token.kind ≠ .eof := by
      rw [isString]
      exact Kind.noConfusion
    exact (lexed_of_mem_scan member inside).stringContent isString

/-- The second of two backslashes is escaped, so the quote behind it is not. -/
theorem string_ends_unescaped_backslashes :
    (start ['"', '\\', '\\', '"', 'x']).step =
        ⟨[⟨.string, some (.string ['\\', '\\']), ⟨['\\', '\\'], ⟨1, 1⟩⟩⟩], [], ⟨1, 4⟩, ['x']⟩ ∧
      (start ['"', '\n', '\\']).step = ⟨[], [⟨.unterminatedString, ⟨1, 0⟩⟩], ⟨2, 3⟩, []⟩ := by
  have pair : StringContent ['\\', '\\'] := .escaped .nil
  have feed : StringContent ['\n'] := .plain (by decide) (by decide) .nil
  have closed := (@string_ends_unescaped (start ['"', '\\', '\\', '"', 'x']) _ rfl).1
  have unclosed := (@string_ends_unescaped (start ['"', '\n', '\\']) _ rfl).2
  exact ⟨(closed _ ['x'] pair rfl).2, unclosed.1 (unclosed.2.1 _ feed rfl)⟩

end Lox
