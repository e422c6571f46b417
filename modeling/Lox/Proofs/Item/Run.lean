import Lox.Number.Decimal

/-!
Longest runs of characters, and numerals as such runs.

A run is the longest one where no character of its class follows. This is all that the readers of
words, comments and numerals look at behind the part they take.
-/

set_option autoImplicit false
set_option relaxedAutoImplicit false

namespace Lox

namespace Text

/-- A text that does not begin with a character of some class, so that a run in front of it ends. -/
def Stops (run : Char → Bool) (rest : Text) : Prop := ∀ c ∈ rest.head?, run c = false

variable {run : Char → Bool} {front rest : Text}

theorem stops_nil : Stops run [] := nofun

theorem stops_cons {c : Char} : Stops run (c :: rest) ↔ run c = false := by
  constructor
  · intro stops
    exact stops c rfl
  · intro other d same
    obtain rfl := Option.some.inj same
    exact other

private theorem takeWhile_eq_nil_iff : rest.takeWhile run = [] ↔ Stops run rest := by
  cases rest with
  | nil => exact iff_of_true rfl stops_nil
  | cons c rest =>
      rw [stops_cons, List.takeWhile_cons]
      split <;> simp_all

private theorem dropWhile_of_stops (stops : Stops run rest) : rest.dropWhile run = rest := by
  cases rest with
  | nil => rfl
  | cons c rest => simp [stops_cons.mp stops]

theorem takeWhile_append_of_stops (inside : ∀ c ∈ front, run c = true) (stops : Stops run rest) :
    (front ++ rest).takeWhile run = front := by
  rw [List.takeWhile_append_of_pos inside, takeWhile_eq_nil_iff.mpr stops, List.append_nil]

theorem dropWhile_append_of_stops (inside : ∀ c ∈ front, run c = true) (stops : Stops run rest) :
    (front ++ rest).dropWhile run = rest := by
  rw [List.dropWhile_append_of_pos inside, dropWhile_of_stops stops]

theorem stops_dropWhile (run : Char → Bool) (text : Text) : Stops run (text.dropWhile run) := by
  intro c first
  have outside := List.head?_dropWhile_not run text
  rw [Option.mem_def.mp first] at outside
  exact outside

theorem eq_false_of_mem {c : Char} (none : rest.any run = false) (member : c ∈ rest) :
    run c = false :=
  Bool.eq_false_iff.mpr (List.any_eq_false.mp none c member)

theorem of_mem_takeWhile {c : Char} (member : c ∈ rest.takeWhile run) : run c = true :=
  List.all_eq_true.mp List.all_takeWhile c member

end Text

namespace Decimal

/-- The numerals that a text can hold: some digits, and further digits behind a point. -/
structure Proper (numeral : Decimal) : Prop where
  ne_nil : numeral.whole ≠ []
  whole : ∀ c ∈ numeral.whole, c.isDigit = true
  fraction : ∀ c ∈ numeral.fraction, c.isDigit = true

/-- A text that does not go on with a numeral: it has no further digit in front, and if the numeral
has no fraction it does not begin with one. -/
structure EndsAt (numeral : Decimal) (rest : Text) : Prop where
  digits : Text.Stops Char.isDigit rest
  fraction : numeral.fraction = [] → ∀ behind, rest = '.' :: behind →
    Text.Stops Char.isDigit behind

variable {numeral : Decimal} {rest text : Text}

private theorem stops_point (behind : Text) : Text.Stops Char.isDigit ('.' :: behind) :=
  Text.stops_cons.mpr (by decide)

theorem read_text_append (proper : numeral.Proper) (ends : numeral.EndsAt rest) :
    read (numeral.text ++ rest) = (numeral, rest) := by
  obtain ⟨whole, fraction⟩ := numeral
  cases fraction with
  | nil =>
      have taken := Text.takeWhile_append_of_stops proper.whole ends.digits
      have dropped := Text.dropWhile_append_of_stops proper.whole ends.digits
      simp only [text, read] at taken dropped ⊢
      rw [taken, dropped]
      split
      · rename_i behind
        rw [Text.takeWhile_eq_nil_iff.mpr (ends.fraction rfl behind rfl)]
      · rfl
  | cons d fraction =>
      have point := stops_point (d :: fraction ++ rest)
      have taken := Text.takeWhile_append_of_stops proper.whole point
      have dropped := Text.dropWhile_append_of_stops proper.whole point
      have digits := Text.takeWhile_append_of_stops proper.fraction ends.digits
      have behind := Text.dropWhile_append_of_stops proper.fraction ends.digits
      simp only [text, read, List.append_assoc, List.cons_append] at taken dropped digits behind ⊢
      simp only [taken, dropped, digits, behind]

theorem proper_read {c : Char} (digit : c.isDigit = true) (text : Text) :
    (read (c :: text)).1.Proper := by
  have nonempty : (c :: text).takeWhile Char.isDigit ≠ [] := by simp [digit]
  unfold read
  dsimp only
  split
  · split
    · exact ⟨nonempty, fun _ => Text.of_mem_takeWhile, nofun⟩
    · exact ⟨nonempty, fun _ => Text.of_mem_takeWhile, fun _ => Text.of_mem_takeWhile⟩
  · exact ⟨nonempty, fun _ => Text.of_mem_takeWhile, nofun⟩

theorem endsAt_read (text : Text) : (read text).1.EndsAt (read text).2 := by
  have stops := Text.stops_dropWhile Char.isDigit text
  unfold read
  dsimp only
  split
  · rename_i rest point
    split
    · rename_i none
      refine ⟨stops_point rest, ?_⟩
      rintro - behind same
      obtain rfl : rest = behind := (List.cons.inj same).2
      exact Text.takeWhile_eq_nil_iff.mp none
    · rename_i digits
      refine ⟨Text.stops_dropWhile Char.isDigit rest, ?_⟩
      intro none
      exact absurd none digits
  · rename_i rest other
    refine ⟨stops, ?_⟩
    intro _ behind same
    exact absurd same (other behind)

end Decimal

end Lox
