import Lox.Session.Outlet

/-!
Outlets with limits, and what sessions do on them.

An outlet stores the first bytes of all that is offered to it. A write fits as long as everything
offered fits, and once one did not fit, no other write of a character fits either.
-/

set_option autoImplicit false
set_option relaxedAutoImplicit false

namespace Lox

namespace Text

theorem utf8_ne_nil {text : Text} (nonempty : text ≠ []) : utf8 text ≠ [] := by
  intro none
  have positive := size_pos nonempty
  rw [← length_utf8, none] at positive
  contradiction

end Text

namespace Outlet

def Fits (limit : Option Nat) (bytes : List UInt8) : Prop := ∀ most ∈ limit, bytes.length ≤ most

/-- An outlet with a limit, if there is one, behind some bytes that were offered to it. -/
def offered (limit : Option Nat) (bytes : List UInt8) : Outlet where
  stored :=
    match limit with
    | none => bytes
    | some most => bytes.take most
  limit

variable {limit : Option Nat} {most : Nat} {bytes : List UInt8} {text : Text}

theorem fits_none (bytes : List UInt8) : Fits none bytes := nofun

theorem limit_ne_none_of_over (excess : ¬ Fits limit bytes) : limit ≠ none := by
  rintro rfl
  exact excess (fits_none bytes)

theorem fits_some_iff : Fits (some most) bytes ↔ bytes.length ≤ most := by
  simp [Fits]

theorem fits_nil (limit : Option Nat) : Fits limit [] := fun _ _ => Nat.zero_le _

theorem Fits.of_append {more : List UInt8} (fits : Fits limit (bytes ++ more)) :
    Fits limit bytes := by
  intro most limited
  have whole := fits most limited
  rw [List.length_append] at whole
  omega

private theorem offered_nil (limit : Option Nat) : offered limit [] = ⟨[], limit⟩ := by
  cases limit with
  | none => rfl
  | some most => simp [offered]

theorem stored_of_fits (fits : Fits limit bytes) : (offered limit bytes).stored = bytes := by
  cases limit with
  | none => rfl
  | some most => exact List.take_of_length_le (fits_some_iff.mp fits)

theorem stored_offered_isPrefix (limit : Option Nat) (bytes : List UInt8) :
    (offered limit bytes).stored <+: bytes := by
  cases limit with
  | none => exact List.prefix_refl bytes
  | some most => exact List.take_prefix most bytes

theorem offered_append_of_over (excess : ¬ Fits limit bytes) (more : List UInt8) :
    offered limit (bytes ++ more) = offered limit bytes := by
  cases limit with
  | none => exact absurd (fits_none bytes) excess
  | some most =>
      rw [fits_some_iff] at excess
      simp only [offered]
      rw [List.take_append_of_le_length (by omega)]

theorem write_of_fits (fits : Fits limit (bytes ++ text.utf8)) :
    (offered limit bytes).write text = (offered limit (bytes ++ text.utf8), true) := by
  cases limit with
  | none => rfl
  | some most =>
      have small := fits_some_iff.mp fits
      rw [List.length_append] at small
      have stored : bytes.take most = bytes := List.take_of_length_le (by omega)
      have room : text.utf8.length ≤ most - bytes.length := by omega
      simp only [write, offered, stored, List.take_append, List.take_of_length_le room, room,
        decide_true]

theorem write_of_over (excess : ¬ Fits limit (bytes ++ text.utf8)) (nonempty : text ≠ []) :
    (offered limit bytes).write text = (offered limit (bytes ++ text.utf8), false) := by
  cases limit with
  | none => exact absurd (fits_none _) excess
  | some most =>
      rw [fits_some_iff, List.length_append] at excess
      have some := List.length_pos_iff.mpr (Text.utf8_ne_nil nonempty)
      have rest : ¬ text.utf8.length ≤ most - (bytes.take most).length := by
        rw [List.length_take]
        omega
      have tail : most - (bytes.take most).length = most - bytes.length := by
        rw [List.length_take]
        omega
      simp only [write, offered, List.take_append, rest, decide_false]
      rw [tail]

theorem ne_nil_of_over (before : Fits limit bytes) (excess : ¬ Fits limit (bytes ++ text.utf8)) :
    text ≠ [] := by
  rintro rfl
  exact excess (by simpa [Text.utf8] using before)

end Outlet

open Outlet (Fits)

namespace Streams

def limited (out err : Option Nat) : Streams := ⟨⟨[], out⟩, ⟨[], err⟩⟩

/-- Two outlets behind some bytes that were offered to each. -/
def offered (out err : Option Nat) (written noted : List UInt8) : Streams :=
  ⟨.offered out written, .offered err noted⟩

theorem limited_eq_offered (out err : Option Nat) : limited out err = offered out err [] [] := by
  rw [limited, offered, Outlet.offered_nil, Outlet.offered_nil]

end Streams

namespace Session

section bind

variable {α β : Type} {first : Session α} {next : α → Session β} {streams later : Streams}

theorem bind_of_ok {value : α} (run : first streams = .ok value later) :
    (first >>= next) streams = next value later := by
  change EStateM.bind first next streams = _
  rw [EStateM.bind, run]

theorem bind_of_error {error : StreamError} (run : first streams = .error error later) :
    (first >>= next) streams = .error error later := by
  change EStateM.bind first next streams = _
  rw [EStateM.bind, run]

end bind

section limits

variable {α : Type} (session : Session α) (out err : Option Nat)

/-- What a session comes to on empty outlets with limits. -/
def result : Except StreamError α :=
  match session (.limited out err) with
  | .ok value _ => .ok value
  | .error error _ => .error error

/-- The outlets that a session leaves behind, whether it stops early or not. -/
def streams : Streams :=
  match session (.limited out err) with
  | .ok _ later => later
  | .error _ later => later

def outBytes : List UInt8 := (session.streams out err).out.stored

def errBytes : List UInt8 := (session.streams out err).err.stored

variable {session out err} {later : Streams}

theorem result_of_ok {value : α} (run : session (.limited out err) = .ok value later) :
    session.result out err = .ok value := by
  rw [result, run]

theorem result_of_error {error : StreamError}
    (run : session (.limited out err) = .error error later) :
    session.result out err = .error error := by
  rw [result, run]

theorem streams_of_ok {value : α} (run : session (.limited out err) = .ok value later) :
    session.streams out err = later := by
  rw [streams, run]

theorem streams_of_error {error : StreamError}
    (run : session (.limited out err) = .error error later) :
    session.streams out err = later := by
  rw [streams, run]

end limits

/-- A session that writes nothing, and does not fail for lack of room. -/
def Quiet {α : Type} (session : Session α) : Prop :=
  ∀ streams, (∃ value, session streams = .ok value streams) ∨
    session streams = .error .invalidText streams

section quiet

variable {α β : Type} {first : Session α} {next : α → Session β} {out err : Option Nat} {value : α}
  {later : Streams}

theorem quiet_pure (value : α) : (pure value : Session α).Quiet := fun _ => .inl ⟨value, rfl⟩

theorem streams_bind_of_quiet (ran : first (.limited out err) = .ok value later)
    (quiet : (next value).Quiet) : (first >>= next).streams out err = later := by
  rcases quiet later with ⟨value', ended⟩ | ended
  · exact streams_of_ok ((bind_of_ok ran).trans ended)
  · exact streams_of_error ((bind_of_ok ran).trans ended)

theorem result_bind_ne_of_quiet (ran : first (.limited out err) = .ok value later)
    (quiet : (next value).Quiet) : (first >>= next).result out err ≠ .error .writerFull := by
  rcases quiet later with ⟨value', ended⟩ | ended
  · rw [result_of_ok ((bind_of_ok ran).trans ended)]
    exact nofun
  · rw [result_of_error ((bind_of_ok ran).trans ended)]
    exact nofun

end quiet

section writes

variable {out err : Option Nat} {written noted : List UInt8} {text : Text}

theorem writeOut_of_fits (fits : Fits out (written ++ text.utf8)) :
    writeOut text (.offered out err written noted) =
      .ok () (.offered out err (written ++ text.utf8) noted) := by
  rw [writeOut, Streams.offered, Outlet.write_of_fits fits]
  rfl

theorem writeOut_of_over (excess : ¬ Fits out (written ++ text.utf8)) (nonempty : text ≠ []) :
    writeOut text (.offered out err written noted) =
      .error .writerFull (.offered out err (written ++ text.utf8) noted) := by
  rw [writeOut, Streams.offered, Outlet.write_of_over excess nonempty]
  rfl

theorem reportLine_of_fits (fits : Fits err (noted ++ (text ++ ['\n']).utf8)) :
    reportLine text (.offered out err written noted) =
      .ok () (.offered out err written (noted ++ (text ++ ['\n']).utf8)) := by
  rw [reportLine, writeErr, Streams.offered, Outlet.write_of_fits fits]
  rfl

theorem reportLine_of_over (excess : ¬ Fits err (noted ++ (text ++ ['\n']).utf8)) :
    reportLine text (.offered out err written noted) =
      .error .writerFull (.offered out err written (noted ++ (text ++ ['\n']).utf8)) := by
  rw [reportLine, writeErr, Streams.offered, Outlet.write_of_over excess (by simp)]
  rfl

end writes

end Session

end Lox
