import Lox.Proofs.Item.Spelling

/-!
Tokens written out with blanks between them, and read again.

A token is displayed as it stood in its source, with the quotes of a string. So it can be read again
in front of any blank, and blanks between tokens say nothing.
-/

set_option autoImplicit false
set_option relaxedAutoImplicit false

namespace Lox

/-- Tokens as they are displayed, in order, with one blank or more between neighbours. -/
inductive WrittenApart : List Token → Text → Prop
  | none : WrittenApart [] []
  | single (token : Token) : WrittenApart [token] token.display
  | cons {token next : Token} {tokens : List Token} {gap text : Text} (wide : gap ≠ [])
      (blank : ∀ c ∈ gap, c ∈ Item.blanks) (more : WrittenApart (next :: tokens) text) :
      WrittenApart (token :: next :: tokens) (token.display ++ (gap ++ text))

namespace Item

variable {text gap : Text} {tokens : List Token}

namespace Spells

theorem nil : Spells [] [] := by
  refine ⟨[], rfl, ?_, rfl, nofun⟩
  intro rest separated
  exact .nil

private theorem indented (blank : ∀ c ∈ gap, c ∈ blanks) (spells : Spells text tokens) :
    Spells (gap ++ text) tokens := by
  induction gap with
  | nil => exact spells
  | cons c gap ih =>
      have inner := ih fun d member => blank d (.tail _ member)
      exact nil.spaced (blank c List.mem_cons_self) inner

private theorem of_writtenApart (apart : WrittenApart tokens text)
    (lexed : ∀ token ∈ tokens, Lexed token) : Spells text (tokens.map Token.unplaced) := by
  induction apart with
  | none => exact nil
  | single token => exact of_lexed (lexed token List.mem_cons_self)
  | @cons token next tokens gap text wide blank more ih =>
      have first := of_lexed (lexed token List.mem_cons_self)
      have others := ih fun later member => lexed later (.tail _ member)
      obtain ⟨c, gap, rfl⟩ := List.exists_cons_of_ne_nil wide
      have inner := others.indented fun d member => blank d (.tail _ member)
      exact first.spaced (blank c List.mem_cons_self) inner

end Spells

end Item

/-- The tokens of a source, written out with blanks between them, are free of lexical errors and are
read again as the same tokens, up to their places. -/
theorem scan_writtenApart {source text : Text} (apart : WrittenApart (scan source).inside text) :
    (scan text).errors = [] ∧
      (scan text).tokens.map Token.unplaced =
        (scan source).inside.map Token.unplaced ++ [.atEnd .start] := by
  have lexed : ∀ token ∈ (scan source).inside, Item.Lexed token :=
    fun token => Item.lexed_of_mem_inside
  have spells := Item.Spells.of_writtenApart apart lexed
  exact spells.scanned

/-- A string of an escaped quote and a line feed, a stray character, `1` and a slash, with nothing
between them. -/
def dense : Text := ['"', '\\', '"', '\n', '"', '@', '1', '/']

def loose : Text := ['"', '\\', '"', '\n', '"', ' ', '\n', '1', '\t', '/']

theorem scan_writtenApart_dense :
    WrittenApart (scan dense).inside loose ∧ (scan loose).errors = [] ∧
      (scan loose).tokens.map Token.unplaced =
        (scan dense).inside.map Token.unplaced ++ [.atEnd .start] := by
  have inside : (scan dense).inside =
      [⟨.string, some (.string ['\\', '"', '\n']), ⟨['\\', '"', '\n'], ⟨1, 1⟩⟩⟩,
        ⟨.number, some (.number ⟨0x3FF0000000000000⟩), ⟨['1'], ⟨2, 6⟩⟩⟩,
        ⟨.slash, none, ⟨['/'], ⟨2, 7⟩⟩⟩] := by
    decide +kernel
  have apart : WrittenApart (scan dense).inside loose := by
    rw [inside]
    have last : WrittenApart [⟨.number, some (.number ⟨0x3FF0000000000000⟩), ⟨['1'], ⟨2, 6⟩⟩⟩,
        ⟨.slash, none, ⟨['/'], ⟨2, 7⟩⟩⟩] ['1', '\t', '/'] :=
      .cons (List.cons_ne_nil '\t' []) (by simp [Item.blanks]) (.single _)
    exact .cons (List.cons_ne_nil ' ' ['\n']) (by simp [Item.blanks]) last
  exact ⟨apart, scan_writtenApart apart⟩

end Lox
