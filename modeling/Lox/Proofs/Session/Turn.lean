import Lox.Proofs.Session.Outlet
import Lox.Session.Run

/-!
Sessions as turns.

In a turn a session announces what it does, writes what this comes to, and notes what is wrong. If
the output does not fit, this is noted in the place of everything else, and the next announcement
does not fit either. So turns go on in one of three ways: everything fits, the output of the last
turn is cut, or a stream stops them.
-/

set_option autoImplicit false
set_option relaxedAutoImplicit false

namespace Lox

open Outlet (Fits)
open Session

namespace Session

theorem outBytes_run (style : Style) (source : Text) :
    (run style source).outBytes none none = (Report.ofSource style source).output.utf8 := rfl

theorem result_run (style : Style) (source : Text) :
    (run style source).result none none = .ok (Report.ofSource style source).error := rfl

end Session

/-- What a session announces, what it writes then, and what it notes if something is wrong. -/
structure Turn where
  heading : Text
  output : Text
  message : Option Text

namespace Turn

def note : Option Text → Session Unit
  | none => return ()
  | some message => reportLine message

def noteBytes : Option Text → List UInt8
  | none => []
  | some message => (message ++ ['\n']).utf8

def full : Option Text := some StreamError.writerFull.message

def out (turn : Turn) : List UInt8 := turn.heading.utf8 ++ turn.output.utf8

def err (turn : Turn) : List UInt8 := noteBytes turn.message

/-- Writes the output of a turn, and gives what is to be noted. -/
def deliver (turn : Turn) : Session (Option Text) := fun streams =>
  match streams.out.write turn.output with
  | (out, true) => .ok turn.message { streams with out }
  | (out, false) => .ok full { streams with out }

def play (turn : Turn) : Session (Option Text) := do
  writeOut turn.heading
  let message ← turn.deliver
  note message
  return message

def playAll : List Turn → Session (List (Option Text))
  | [] => return []
  | turn :: turns => do
      let message ← turn.play
      return message :: (← playAll turns)

section note

variable {limit err : Option Nat} {written noted : List UInt8} {message : Option Text}

private theorem note_of_fits (fits : Fits err (noted ++ noteBytes message)) :
    note message (.offered limit err written noted) =
      .ok () (.offered limit err written (noted ++ noteBytes message)) := by
  cases message with
  | none =>
      rw [noteBytes, List.append_nil]
      rfl
  | some text => exact reportLine_of_fits fits

private theorem note_of_over (before : Fits err noted)
    (excess : ¬ Fits err (noted ++ noteBytes message)) :
    note message (.offered limit err written noted) =
      .error .writerFull (.offered limit err written (noted ++ noteBytes message)) := by
  cases message with
  | none =>
      rw [noteBytes, List.append_nil] at excess
      exact absurd before excess
  | some text => exact reportLine_of_over excess

end note

section play

variable {turn : Turn} {limit err : Option Nat} {written noted : List UInt8}

private theorem play_of_unannounced (excess : ¬ Fits limit (written ++ turn.heading.utf8))
    (headed : turn.heading ≠ []) :
    turn.play (.offered limit err written noted) =
      .error .writerFull (.offered limit err (written ++ turn.heading.utf8) noted) :=
  bind_of_error (writeOut_of_over excess headed)

private theorem play_of_announced {message : Option Text}
    (announced : Fits limit (written ++ turn.heading.utf8))
    (delivered : turn.deliver (.offered limit err (written ++ turn.heading.utf8) noted) =
      .ok message (.offered limit err (written ++ turn.out) noted)) :
    turn.play (.offered limit err written noted) =
      (note message >>= fun _ => pure message)
        (.offered limit err (written ++ turn.out) noted) := by
  rw [play, bind_of_ok (writeOut_of_fits announced)]
  exact bind_of_ok delivered

private theorem deliver_of_fits (fits : Fits limit (written ++ turn.out)) :
    turn.deliver (.offered limit err (written ++ turn.heading.utf8) noted) =
      .ok turn.message (.offered limit err (written ++ turn.out) noted) := by
  rw [out, ← List.append_assoc] at fits ⊢
  rw [deliver, Streams.offered, Outlet.write_of_fits fits]
  rfl

private theorem deliver_of_over (announced : Fits limit (written ++ turn.heading.utf8))
    (excess : ¬ Fits limit (written ++ turn.out)) :
    turn.deliver (.offered limit err (written ++ turn.heading.utf8) noted) =
      .ok full (.offered limit err (written ++ turn.out) noted) := by
  rw [out, ← List.append_assoc] at excess ⊢
  have nonempty := Outlet.ne_nil_of_over announced excess
  rw [deliver, Streams.offered, Outlet.write_of_over excess nonempty]
  rfl

private theorem announced_of_fits (fits : Fits limit (written ++ turn.out)) :
    Fits limit (written ++ turn.heading.utf8) := by
  rw [out, ← List.append_assoc] at fits
  exact fits.of_append

private theorem play_of_fits (fits : Fits limit (written ++ turn.out))
    (fitsErr : Fits err (noted ++ turn.err)) :
    turn.play (.offered limit err written noted) =
      .ok turn.message (.offered limit err (written ++ turn.out) (noted ++ turn.err)) := by
  rw [play_of_announced (announced_of_fits fits) (deliver_of_fits fits)]
  exact bind_of_ok (note_of_fits fitsErr)

private theorem play_of_unnoted (fits : Fits limit (written ++ turn.out)) (before : Fits err noted)
    (excess : ¬ Fits err (noted ++ turn.err)) :
    turn.play (.offered limit err written noted) =
      .error .writerFull (.offered limit err (written ++ turn.out) (noted ++ turn.err)) := by
  rw [play_of_announced (announced_of_fits fits) (deliver_of_fits fits)]
  exact bind_of_error (note_of_over before excess)

private theorem play_of_cut (announced : Fits limit (written ++ turn.heading.utf8))
    (excess : ¬ Fits limit (written ++ turn.out)) (fitsErr : Fits err (noted ++ noteBytes full)) :
    turn.play (.offered limit err written noted) =
      .ok full (.offered limit err (written ++ turn.out) (noted ++ noteBytes full)) := by
  rw [play_of_announced announced (deliver_of_over announced excess)]
  exact bind_of_ok (note_of_fits fitsErr)

private theorem play_of_cut_unnoted (announced : Fits limit (written ++ turn.heading.utf8))
    (excess : ¬ Fits limit (written ++ turn.out)) (before : Fits err noted)
    (overErr : ¬ Fits err (noted ++ noteBytes full)) :
    turn.play (.offered limit err written noted) =
      .error .writerFull (.offered limit err (written ++ turn.out) (noted ++ noteBytes full)) := by
  rw [play_of_announced announced (deliver_of_over announced excess)]
  exact bind_of_error (note_of_over before overErr)

end play

def outOf (turns : List Turn) : List UInt8 := turns.flatMap out

def errOf (turns : List Turn) : List UInt8 := turns.flatMap err

theorem err_eq_nil_iff {turn : Turn} : turn.err = [] ↔ turn.message = none := by
  rw [err]
  cases turn.message with
  | none => simp [noteBytes]
  | some message => simp [noteBytes, Text.utf8_append, Text.utf8_ne_nil]

section turns

variable {turns : List Turn} {limit err : Option Nat} {written noted : List UInt8}

private theorem outOf_cons (turn : Turn) (turns : List Turn) :
    outOf (turn :: turns) = turn.out ++ outOf turns := rfl

private theorem errOf_cons (turn : Turn) (turns : List Turn) :
    errOf (turn :: turns) = turn.err ++ errOf turns := rfl

theorem outOf_append (turns others : List Turn) :
    outOf (turns ++ others) = outOf turns ++ outOf others := List.flatMap_append

theorem errOf_append (turns others : List Turn) :
    errOf (turns ++ others) = errOf turns ++ errOf others := List.flatMap_append

private theorem playAll_cons_of_ok {turn : Turn} {message : Option Text} {streams later : Streams}
    (played : turn.play streams = .ok message later) :
    playAll (turn :: turns) streams =
      (playAll turns >>= fun messages => pure (message :: messages)) later := by
  rw [playAll, bind_of_ok played]

private theorem playAll_cons_of_error {turn : Turn} {error : StreamError} {streams later : Streams}
    (played : turn.play streams = .error error later) :
    playAll (turn :: turns) streams = .error error later := by
  rw [playAll, bind_of_error played]

/-- How turns go on outlets to which some bytes were offered before. -/
inductive Course (limit err : Option Nat) (written noted : List UInt8) (turns : List Turn) :
    EStateM.Result StreamError Streams (List (Option Text)) → Prop
  | whole (fits : Fits limit (written ++ outOf turns)) (fitsErr : Fits err (noted ++ errOf turns)) :
      Course limit err written noted turns (.ok (turns.map message)
        (.offered limit err (written ++ outOf turns) (noted ++ errOf turns)))
  /-- The output of the last turn does not fit, and the note on this does. -/
  | cut {front : List Turn} {last : Turn} (split : turns = front ++ [last])
      (announced : Fits limit (written ++ outOf front ++ last.heading.utf8))
      (excess : ¬ Fits limit (written ++ outOf turns))
      (fitsErr : Fits err (noted ++ errOf front ++ noteBytes full)) :
      Course limit err written noted turns (.ok (front.map message ++ [full])
        (.offered limit err (written ++ outOf turns) (noted ++ errOf front ++ noteBytes full)))
  /-- A write stops the session. If there is no limit to the output, a note does. -/
  | stopped {part other : List UInt8} (begins : part <+: outOf turns)
      (notes : limit = none → ¬ Fits err (noted ++ errOf turns) ∧
        Outlet.offered err other = .offered err (noted ++ errOf turns)) :
      Course limit err written noted turns
        (.error .writerFull (.offered limit err (written ++ part) other))

private theorem Course.cons {turn : Turn}
    {result : EStateM.Result StreamError Streams (List (Option Text))}
    (played : turn.play (.offered limit err written noted) =
      .ok turn.message (.offered limit err (written ++ turn.out) (noted ++ turn.err)))
    (ran : playAll turns (.offered limit err (written ++ turn.out) (noted ++ turn.err)) = result)
    (course : Course limit err (written ++ turn.out) (noted ++ turn.err) turns result) :
    Course limit err written noted (turn :: turns)
      (playAll (turn :: turns) (.offered limit err written noted)) := by
  rw [playAll_cons_of_ok played]
  cases course with
  | whole fits fitsErr =>
      rw [bind_of_ok ran]
      rw [List.append_assoc, ← outOf_cons] at fits ⊢
      rw [List.append_assoc, ← errOf_cons] at fitsErr ⊢
      exact .whole fits fitsErr
  | @cut front last split announced excess fitsErr =>
      rw [bind_of_ok ran]
      rw [List.append_assoc written, ← outOf_cons] at announced excess ⊢
      rw [List.append_assoc noted, ← errOf_cons] at fitsErr ⊢
      exact .cut (by rw [split, List.cons_append]) announced excess fitsErr
  | @stopped part other begins notes =>
      rw [bind_of_error ran, List.append_assoc]
      rw [List.append_assoc, ← errOf_cons] at notes
      refine .stopped ?_ notes
      rw [outOf_cons]
      exact (List.prefix_append_right_inj turn.out).mpr begins

private theorem Course.of_cut {turn : Turn} (headed : ∀ next ∈ turns, next.heading ≠ [])
    (announced : Fits limit (written ++ turn.heading.utf8))
    (excess : ¬ Fits limit (written ++ turn.out)) (fitsErr : Fits err (noted ++ noteBytes full)) :
    Course limit err written noted (turn :: turns)
      (playAll (turn :: turns) (.offered limit err written noted)) := by
  rw [playAll_cons_of_ok (play_of_cut announced excess fitsErr)]
  cases turns with
  | nil =>
      change Course limit err written noted [turn] (.ok [full]
        (.offered limit err (written ++ turn.out) (noted ++ noteBytes full)))
      have course : Course limit err written noted [turn] _ :=
        .cut (List.nil_append [turn]).symm (by simpa [outOf] using announced)
          (by simpa [outOf] using excess) (by simpa [errOf] using fitsErr)
      simpa [outOf, errOf] using course
  | cons next turns =>
      -- There is no room for the announcement of the next turn.
      have none : ¬ Fits limit (written ++ turn.out ++ next.heading.utf8) :=
        fun fits => excess fits.of_append
      have headedNext := headed next List.mem_cons_self
      rw [bind_of_error (playAll_cons_of_error (play_of_unannounced none headedNext)),
        List.append_assoc]
      refine .stopped ?_ (fun unlimited => absurd unlimited (Outlet.limit_ne_none_of_over excess))
      simp [outOf_cons, out]

/-- Turns that all announce something go on in one of the three ways. -/
theorem course (headed : ∀ turn ∈ turns, turn.heading ≠ []) (before : Fits limit written)
    (beforeErr : Fits err noted) :
    Course limit err written noted turns (playAll turns (.offered limit err written noted)) := by
  induction turns generalizing written noted with
  | nil =>
      change Course limit err written noted [] (.ok [] (.offered limit err written noted))
      have course : Course limit err written noted [] _ :=
        .whole (by simpa [outOf] using before) (by simpa [errOf] using beforeErr)
      simpa [outOf, errOf] using course
  | cons turn turns ih =>
      have later : ∀ next ∈ turns, next.heading ≠ [] :=
        fun next member => headed next (.tail _ member)
      by_cases announced : Fits limit (written ++ turn.heading.utf8)
      · by_cases fits : Fits limit (written ++ turn.out)
        · by_cases fitsErr : Fits err (noted ++ turn.err)
          · exact .cons (play_of_fits fits fitsErr) rfl (ih later fits fitsErr)
          · rw [playAll_cons_of_error (play_of_unnoted fits beforeErr fitsErr)]
            refine .stopped (List.prefix_append _ _) fun _ => ?_
            rw [errOf_cons, ← List.append_assoc]
            refine ⟨fun whole => fitsErr whole.of_append, ?_⟩
            exact (Outlet.offered_append_of_over fitsErr _).symm
        · have limited := Outlet.limit_ne_none_of_over fits
          by_cases fitsErr : Fits err (noted ++ noteBytes full)
          · exact .of_cut later announced fits fitsErr
          · rw [playAll_cons_of_error (play_of_cut_unnoted announced fits beforeErr fitsErr)]
            exact .stopped (List.prefix_append _ _) (fun unlimited => absurd unlimited limited)
      · have limited := Outlet.limit_ne_none_of_over announced
        have headedTurn := headed turn List.mem_cons_self
        rw [playAll_cons_of_error (play_of_unannounced announced headedTurn)]
        refine .stopped ?_ (fun unlimited => absurd unlimited limited)
        rw [outOf_cons, out, List.append_assoc]
        exact List.prefix_append _ _

theorem playAll_unlimited (turns : List Turn) (written noted : List UInt8) :
    playAll turns (.offered none none written noted) =
      .ok (turns.map message)
        (.offered none none (written ++ outOf turns) (noted ++ errOf turns)) := by
  induction turns generalizing written noted with
  | nil => simp [outOf, errOf, playAll, pure, EStateM.pure]
  | cons turn turns ih =>
      have played := play_of_fits (Outlet.fits_none (written ++ turn.out))
        (Outlet.fits_none (noted ++ turn.err))
      rw [playAll_cons_of_ok played, bind_of_ok (ih _ _), List.append_assoc, List.append_assoc]
      rfl

end turns

section quiet

variable {α : Type} {turns : List Turn} {next : List (Option Text) → Session α}

/-- Without limits, what some turns write and note is all that there is, if nothing more is written
behind them. -/
private theorem streams_turns (quiet : ∀ messages, (next messages).Quiet) :
    (playAll turns >>= next).streams none none =
      .offered none none (outOf turns) (errOf turns) := by
  have ran := playAll_unlimited turns [] []
  rw [← Streams.limited_eq_offered] at ran
  exact streams_bind_of_quiet ran (quiet _)

theorem outBytes_turns (quiet : ∀ messages, (next messages).Quiet) :
    (playAll turns >>= next).outBytes none none = outOf turns := by
  rw [outBytes, streams_turns quiet]
  rfl

theorem errBytes_turns (quiet : ∀ messages, (next messages).Quiet) :
    (playAll turns >>= next).errBytes none none = errOf turns := by
  rw [errBytes, streams_turns quiet]
  rfl

end quiet

section report

def ofReport (heading : Text) (report : Report) : Turn :=
  ⟨heading, report.output, report.error.map RunError.text⟩

def silent (heading : Text) (message : Option Text) : Turn := ⟨heading, [], message⟩

theorem deliver_ofReport (heading : Text) (style : Style) (source : Text) :
    (ofReport heading (.ofSource style source)).deliver =
      Option.map RunError.text <$> run style source := by
  funext streams
  change _ = EStateM.map _ _ streams
  rw [EStateM.map, run, deliver, ofReport]
  cases streams.out.write (Report.ofSource style source).output with
  | mk out fitted => cases fitted <;> rfl

theorem err_ofReport (heading : Text) (style : Style) (source : Text) :
    (ofReport heading (.ofSource style source)).err =
      match (run style source).result none none with
      | .ok (some error) => (error.text ++ ['\n']).utf8
      | _ => [] := by
  rw [err, ofReport, result_run]
  cases (Report.ofSource style source).error with
  | none => rfl
  | some error => rfl

theorem deliver_silent (heading : Text) (message : Option Text) :
    (silent heading message).deliver = pure message := by
  funext streams
  have written : streams.out.write [] = (streams.out, true) := by
    obtain ⟨⟨stored, limit⟩, err⟩ := streams
    cases limit <;> simp [Outlet.write, Text.utf8]
  rw [deliver, silent, written]
  rfl

theorem exists_run_ok (style : Style) (source : Text) (streams : Streams) :
    ∃ error later, run style source streams = .ok error later := by
  rw [run]
  cases streams.out.write (Report.ofSource style source).output with
  | mk out fitted => cases fitted <;> exact ⟨_, _, rfl⟩

end report

end Turn

end Lox
