import Lox.Proofs.Session.Files
import Lox.Proofs.Session.Prompt

/-!
Output that is cut off does not go unnoticed.

A session on limited outlets is compared with the same session on outlets without limits. What it
writes is the beginning of what it would have written, and if something is missing then this is an
error, a failure of the session, or a status with a message.
-/

set_option autoImplicit false
set_option relaxedAutoImplicit false

namespace Lox

open Outlet (Fits fits_none fits_nil)

namespace Session

/-- Output is the beginning of what it would be without limits. Where only messages are limited,
they are cut at the limit, and this makes the session fail. -/
structure Truncated {α : Type} (session : Session α) : Prop where
  out_prefix : ∀ out err : Option Nat, session.outBytes out err <+: session.outBytes none none
  err_take : ∀ limit : Nat,
    session.errBytes none (some limit) = (session.errBytes none none).take limit
  full_iff : ∀ limit : Nat,
    session.result none (some limit) = .error .writerFull ↔
      limit < (session.errBytes none none).length

section turns

open Turn

variable {α : Type} {turns : List Turn} {next : List (Option Text) → Session α}

private theorem course_limited (headed : ∀ turn ∈ turns, turn.heading ≠ []) (out err : Option Nat) :
    Course out err [] [] turns (playAll turns (.limited out err)) := by
  rw [Streams.limited_eq_offered]
  exact course headed (fits_nil out) (fits_nil err)

private theorem outBytes_turns_isPrefix (headed : ∀ turn ∈ turns, turn.heading ≠ [])
    (quiet : ∀ messages, (next messages).Quiet) (out err : Option Nat) :
    (playAll turns >>= next).outBytes out err <+: outOf turns := by
  have course := course_limited headed out err
  generalize ran : playAll turns (.limited out err) = result at course
  cases course with
  | whole | cut =>
      rw [outBytes, streams_bind_of_quiet ran (quiet _)]
      exact Outlet.stored_offered_isPrefix out _
  | stopped begins =>
      rw [outBytes, streams_of_error (bind_of_error ran)]
      exact (Outlet.stored_offered_isPrefix out _).trans begins

private theorem course_noted (headed : ∀ turn ∈ turns, turn.heading ≠ [])
    (quiet : ∀ messages, (next messages).Quiet) (err : Option Nat) :
    ((playAll turns >>= next).streams none err).err = .offered err (errOf turns) ∧
      ((playAll turns >>= next).result none err = .error .writerFull ↔
        ¬ Fits err (errOf turns)) := by
  have course := course_limited headed none err
  generalize ran : playAll turns (.limited none err) = result at course
  cases course with
  | whole fits fitsErr =>
      rw [streams_bind_of_quiet ran (quiet _)]
      have ended := result_bind_ne_of_quiet ran (quiet _)
      exact ⟨rfl, iff_of_false ended (not_not_intro fitsErr)⟩
  | cut split announced excess => exact absurd (fits_none _) excess
  | stopped begins notes =>
      obtain ⟨excess, same⟩ := notes rfl
      rw [streams_of_error (bind_of_error ran), result_of_error (bind_of_error ran)]
      exact ⟨same, iff_of_true rfl excess⟩

private theorem truncated_turns (headed : ∀ turn ∈ turns, turn.heading ≠ [])
    (quiet : ∀ messages, (next messages).Quiet) : Truncated (playAll turns >>= next) where
  out_prefix out err := by
    rw [outBytes_turns quiet]
    exact outBytes_turns_isPrefix headed quiet out err
  err_take limit := by
    rw [errBytes_turns quiet, errBytes, (course_noted headed quiet (some limit)).1]
    rfl
  full_iff limit := by
    rw [errBytes_turns quiet, (course_noted headed quiet (some limit)).2, Outlet.fits_some_iff,
      Nat.not_le]

private theorem outOf_concat (front : List Turn) (last : Turn) :
    outOf (front ++ [last]) = outOf front ++ last.heading.utf8 ++ last.output.utf8 := by
  simp [outOf, Turn.out]

/-- Turns that come to an end were played as a whole, or the output of the last one is cut. -/
private theorem whole_or_cut {out err : Option Nat} {value : α}
    (headed : ∀ turn ∈ turns, turn.heading ≠ []) (quiet : ∀ messages, (next messages).Quiet)
    (ended : (playAll turns >>= next).result out err = .ok value) :
    ∃ messages later, next messages later = .ok value later ∧
      (messages = turns.map message ∧
          (playAll turns >>= next).outBytes out err = outOf turns ∧
          (playAll turns >>= next).errBytes out err = errOf turns ∨
        ∃ front last, turns = front ++ [last] ∧ messages = front.map message ++ [full] ∧
          last.output ≠ [] ∧ Fits out (outOf front ++ last.heading.utf8) ∧
          ¬ Fits out (outOf turns) ∧
          (playAll turns >>= next).errBytes out err = errOf front ++ noteBytes full) := by
  have course := course_limited headed out err
  generalize ran : playAll turns (.limited out err) = result at course
  have behind {messages : List (Option Text)} {later : Streams}
      (ran : playAll turns (.limited out err) = .ok messages later) :
      next messages later = .ok value later := by
    rcases quiet messages later with ⟨value', run⟩ | run
    · rw [result_of_ok ((bind_of_ok ran).trans run)] at ended
      rw [run, Except.ok.inj ended]
    · rw [result_of_error ((bind_of_ok ran).trans run)] at ended
      contradiction
  cases course with
  | whole fits fitsErr =>
      refine ⟨_, _, behind ran, .inl ⟨rfl, ?_⟩⟩
      rw [outBytes, errBytes, streams_bind_of_quiet ran (quiet _)]
      exact ⟨Outlet.stored_of_fits fits, Outlet.stored_of_fits fitsErr⟩
  | @cut front last split announced excess fitsErr =>
      refine ⟨_, _, behind ran, .inr ⟨front, last, split, rfl, ?_, announced, excess, ?_⟩⟩
      · rw [split, List.nil_append, outOf_concat] at excess
        exact Outlet.ne_nil_of_over announced excess
      · rw [errBytes, streams_bind_of_quiet ran (quiet _)]
        exact Outlet.stored_of_fits fitsErr
  | stopped =>
      rw [result_of_error (bind_of_error ran)] at ended
      contradiction

end turns

section run

variable {style : Style} {source : Text} {out err : Option Nat}

private theorem run_of_fits (fits : Fits out (Report.ofSource style source).output.utf8) :
    run style source (.limited out err) =
      .ok (Report.ofSource style source).error
        (.offered out err (Report.ofSource style source).output.utf8 []) := by
  rw [← List.nil_append (Text.utf8 _)] at fits ⊢
  rw [Streams.limited_eq_offered, run, Streams.offered, Outlet.write_of_fits fits]
  rfl

private theorem run_of_over (excess : ¬ Fits out (Report.ofSource style source).output.utf8) :
    run style source (.limited out err) =
      .ok (some (.stream .writerFull))
        (.offered out err (Report.ofSource style source).output.utf8 []) := by
  rw [← List.nil_append (Text.utf8 _)] at excess ⊢
  have some := Outlet.ne_nil_of_over (fits_nil out) excess
  rw [Streams.limited_eq_offered, run, Streams.offered, Outlet.write_of_over excess some]
  rfl

private theorem streams_run (style : Style) (source : Text) (out err : Option Nat) :
    (run style source).streams out err =
      .offered out err (Report.ofSource style source).output.utf8 [] := by
  by_cases fits : Fits out (Report.ofSource style source).output.utf8
  · exact streams_of_ok (run_of_fits fits)
  · exact streams_of_ok (run_of_over fits)

private theorem error_ofSource_ne_stream (error : StreamError) :
    (Report.ofSource style source).error ≠ some (.stream error) := by
  rw [Report.error_ofSource]
  cases Report.noticed source <;> simp [RunError.ofList?]

private theorem truncated_run (style : Style) (source : Text) : Truncated (run style source) where
  out_prefix out err := by
    rw [outBytes, streams_run, outBytes_run]
    exact Outlet.stored_offered_isPrefix out _
  err_take limit := by
    rw [errBytes, errBytes, streams_run, streams_run]
    rfl
  full_iff limit := by
    rw [result_of_ok (run_of_fits (fits_none _)), errBytes, streams_run]
    exact iff_of_false (by simp) (Nat.not_lt_zero limit)

/-- A run whose output is cut ends with the failed write, and any other run is not changed. -/
private theorem run_cut (style : Style) (source : Text) (limit : Nat) (err : Option Nat) :
    (run style source).outBytes (some limit) err =
        ((run style source).outBytes none none).take limit ∧
      ((run style source).result (some limit) err = .ok (some (.stream .writerFull)) ↔
        limit < ((run style source).outBytes none none).length) ∧
      (((run style source).outBytes none none).length ≤ limit →
        (run style source).result (some limit) err = (run style source).result none none) := by
  refine ⟨?_, ?_⟩
  · rw [outBytes, streams_run, outBytes_run]
    rfl
  rw [outBytes_run, result_run]
  by_cases fits : Fits (some limit) (Report.ofSource style source).output.utf8
  · rw [result_of_ok (run_of_fits fits)]
    have small := Outlet.fits_some_iff.mp fits
    refine ⟨iff_of_false ?_ (Nat.not_lt.mpr small), fun _ => rfl⟩
    exact fun same => error_ofSource_ne_stream _ (Except.ok.inj same)
  · rw [result_of_ok (run_of_over fits)]
    rw [Outlet.fits_some_iff] at fits
    exact ⟨iff_of_true rfl (Nat.not_le.mp fits), fun small => absurd small fits⟩

end run

section prompt

open Turn

variable {style : Style} {input : List UInt8}

private theorem truncated_runPrompt (style : Style) (input : List UInt8) :
    Truncated (runPrompt style input) := by
  rw [runPrompt_eq]
  exact truncated_turns (fun _ => headed_ofLines) fun _ => quiet_finish _

private theorem whole_of_runPrompt {out err : Option Nat}
    (ended : (runPrompt style input).result out err = .ok ()) :
    (runPrompt style input).outBytes out err = (runPrompt style input).outBytes none none ∧
      (runPrompt style input).errBytes out err = (runPrompt style input).errBytes none none := by
  have quiet (_ : List (Option Text)) := quiet_finish (byteLines input)
  rw [runPrompt_eq] at ended ⊢
  rw [outBytes_turns quiet, errBytes_turns quiet]
  obtain ⟨_, _, -, ⟨-, whole⟩ | ⟨front, last, split, -, some, -⟩⟩ :=
    whole_or_cut (fun _ => headed_ofLines) quiet ended
  · exact whole
  -- There is no room for the last prompt behind output that is cut.
  · have prompt := (List.append_inj' split rfl).2
    rw [← List.singleton_inj.mp prompt] at some
    exact absurd rfl some

end prompt

section files

open Turn

variable {read : Text → Except ReadError Text} {style : Style} {out err : Option Nat} {status : Nat}

/-- The output of some files is cut within what running the last of them writes. -/
structure CutInLast (read : Text → Except ReadError Text) (style : Style) (files front : List Text)
    (last source : Text) (limit : Nat) : Prop where
  split : files = front ++ [last]
  found : read last = .ok source
  whole : (runFiles read style files).outBytes none none =
    (runFiles read style front).outBytes none none ++
      Text.utf8 ("-- ".toList ++ last ++ ['\n']) ++ (run style source).outBytes none none
  announced :
    ((runFiles read style front).outBytes none none ++
      Text.utf8 ("-- ".toList ++ last ++ ['\n'])).length ≤ limit
  excess : limit < ((runFiles read style files).outBytes none none).length

private theorem runFiles_headed (files : List Text) :
    ∀ turn ∈ files.map (ofFile read style), turn.heading ≠ [] := by
  intro turn member
  obtain ⟨path, -, rfl⟩ := List.mem_map.mp member
  rw [heading_ofFile]
  exact banner_ne_nil path

private theorem truncated_runFiles (read : Text → Except ReadError Text) (style : Style)
    (files : List Text) : Truncated (runFiles read style files) := by
  rw [runFiles_eq]
  exact truncated_turns (runFiles_headed files) fun messages => quiet_pure (highest messages)

private theorem source_of_output_ne_nil {path : Text}
    (some : (ofFile read style path).output ≠ []) : ∃ source, read path = .ok source := by
  cases found : read path with
  | error error =>
      rw [ofFile_of_error found] at some
      exact absurd rfl some
  | ok source => exact ⟨source, rfl⟩

private theorem whole_or_cutInLast {files : List Text}
    (ended : (runFiles read style files).result out err = .ok status) :
    ((runFiles read style files).outBytes out err =
          (runFiles read style files).outBytes none none ∧
        (runFiles read style files).errBytes out err =
          (runFiles read style files).errBytes none none ∧
        (runFiles read style files).result none none = .ok status) ∨
      ∃ front last source limit, out = some limit ∧
        CutInLast read style files front last source limit ∧ status = 65 ∧
        (runFiles read style files).errBytes out err =
          (runFiles read style front).errBytes none none ++
            Text.utf8 ("writer is full".toList ++ ['\n']) := by
  have quiet (messages : List (Option Text)) := quiet_pure (highest messages)
  rw [outBytes_runFiles, errBytes_runFiles, result_runFiles]
  rw [runFiles_eq] at ended ⊢
  obtain ⟨messages, later, returned, ⟨rfl, written, noted⟩ |
    ⟨front, last, split, rfl, some, announced, excess, noted⟩⟩ :=
      whole_or_cut (runFiles_headed files) quiet ended
  · left
    obtain ⟨⟩ := returned
    exact ⟨written, noted, rfl⟩
  · right
    obtain ⟨before, rest, rfl, rfl, final⟩ := List.map_eq_append_iff.mp split
    obtain ⟨path, rfl, rfl⟩ := List.map_eq_singleton_iff.mp final
    obtain ⟨source, found⟩ := source_of_output_ne_nil some
    obtain ⟨limit, rfl⟩ := Option.ne_none_iff_exists'.mp (Outlet.limit_ne_none_of_over excess)
    obtain ⟨⟩ := returned
    rw [heading_ofFile, ← outBytes_runFiles, Outlet.fits_some_iff] at announced
    rw [← outBytes_runFiles, Outlet.fits_some_iff, Nat.not_le] at excess
    refine ⟨before, path, source, limit, rfl, ⟨rfl, found, ?_, announced, excess⟩,
      highest_concat_full _, ?_⟩
    · rw [outBytes_runFiles, List.map_append, List.map_singleton, outOf_concat, heading_ofFile,
        outBytes_runFiles, outBytes_run, ofFile_of_ok found]
      rfl
    · rw [noted, errBytes_runFiles]
      rfl

theorem whole_of_runFiles {files : List Text}
    (ended : (runFiles read style files).result out err = .ok 0) :
    (runFiles read style files).outBytes out err = (runFiles read style files).outBytes none none ∧
      (runFiles read style files).errBytes out err = [] := by
  obtain ⟨written, noted, status⟩ | ⟨front, last, source, limit, -, -, status, -⟩ :=
    whole_or_cutInLast ended
  · refine ⟨written, ?_⟩
    rw [noted, errBytes_runFiles]
    rw [result_runFiles] at status
    obtain ⟨-, silent⟩ | ⟨bad, -⟩ := highest_cases ((files.map (ofFile read style)).map message)
    · rw [List.forall_mem_map] at silent
      exact List.flatMap_eq_nil_iff.mpr fun turn member => err_eq_nil_iff.mpr (silent turn member)
    · rw [bad] at status
      contradiction
  · contradiction

end files

/-- Output that is cut off by a limit is noticed. A run stores the beginning of its output, and its
result is the failed write if and only if something is missing. A session over lines only comes to
its end if nothing is missing. A session over files only has the status of success if nothing is
missing and nothing was noted. It has no other status where output is missing, unless this is output
of the last file, about which the last message tells. If only the messages are limited, as much as
fits of them is stored, and the session fails if and only if some are missing. -/
theorem truncation_noticed (style : Style) :
    (∀ source, Truncated (run style source) ∧ ∀ (limit : Nat) (err : Option Nat),
        (run style source).outBytes (some limit) err =
            ((run style source).outBytes none none).take limit ∧
          ((run style source).result (some limit) err = .ok (some (.stream .writerFull)) ↔
            limit < ((run style source).outBytes none none).length) ∧
          (((run style source).outBytes none none).length ≤ limit →
            (run style source).result (some limit) err =
              (run style source).result none none)) ∧
      (∀ input, Truncated (runPrompt style input) ∧ ∀ out err : Option Nat,
        (runPrompt style input).result out err = .ok () →
          (runPrompt style input).outBytes out err =
              (runPrompt style input).outBytes none none ∧
            (runPrompt style input).errBytes out err =
              (runPrompt style input).errBytes none none) ∧
      ∀ read files, Truncated (runFiles read style files) ∧
        ∀ (out err : Option Nat) (status : Nat),
          (runFiles read style files).result out err = .ok status →
            (status = 0 →
              (runFiles read style files).outBytes out err =
                  (runFiles read style files).outBytes none none ∧
                (runFiles read style files).errBytes out err = []) ∧
              (((runFiles read style files).outBytes out err).length <
                  ((runFiles read style files).outBytes none none).length →
                ∃ front last source limit, out = some limit ∧
                  CutInLast read style files front last source limit ∧
                  status = 65 ∧
                  (runFiles read style files).errBytes out err =
                    (runFiles read style front).errBytes none none ++
                      Text.utf8 ("writer is full".toList ++ ['\n'])) := by
  refine ⟨fun source => ⟨truncated_run style source, run_cut style source⟩,
    fun input => ⟨truncated_runPrompt style input, fun _ _ => whole_of_runPrompt⟩,
    fun read files => ⟨truncated_runFiles read style files, fun out err status ended => ⟨?_, ?_⟩⟩⟩
  · rintro rfl
    exact whole_of_runFiles ended
  · intro short
    obtain ⟨written, -⟩ | cut := whole_or_cutInLast ended
    · rw [written] at short
      exact absurd short (Nat.lt_irrefl _)
    · exact cut

def nilFile (_ : Text) : Except ReadError Text := .ok "nil".toList

/-- A banner and a literal take nine bytes. -/
theorem truncation_noticed_nilFile :
    ((run .parenthesized "nil".toList).result (some 4) none =
        (run .parenthesized "nil".toList).result none none) ∧
      ((runPrompt .parenthesized "nil".toUTF8.toList).result (some 10) none = .ok () ∧
        (runPrompt .parenthesized "nil".toUTF8.toList).outBytes (some 10) none =
          (runPrompt .parenthesized "nil".toUTF8.toList).outBytes none none) ∧
      ((runFiles nilFile .parenthesized ["a".toList]).result (some 9) none = .ok 0 ∧
        (runFiles nilFile .parenthesized ["a".toList]).outBytes (some 9) none =
          (runFiles nilFile .parenthesized ["a".toList]).outBytes none none) ∧
      (runFiles nilFile .parenthesized ["a".toList]).result (some 6) none = .ok 65 ∧
        ∃ front last source limit, some 6 = some limit ∧
          CutInLast nilFile .parenthesized ["a".toList] front last source limit := by
  obtain ⟨runs, prompts, files⟩ := truncation_noticed .parenthesized
  have fits : ((run .parenthesized "nil".toList).outBytes none none).length ≤ 4 := by
    decide +kernel
  have finished : (runPrompt .parenthesized "nil".toUTF8.toList).result (some 10) none =
      .ok () := by
    decide +kernel
  have whole : (runFiles nilFile .parenthesized ["a".toList]).result (some 9) none = .ok 0 := by
    decide +kernel
  have cut : (runFiles nilFile .parenthesized ["a".toList]).result (some 6) none =
      .ok 65 := by
    decide +kernel
  have short : ((runFiles nilFile .parenthesized ["a".toList]).outBytes (some 6) none).length <
      ((runFiles nilFile .parenthesized ["a".toList]).outBytes none none).length := by
    decide +kernel
  refine ⟨((runs _).2 4 none).2.2 fits, ⟨finished, ?_⟩, ⟨whole, ?_⟩, cut, ?_⟩
  · exact ((prompts _).2 _ _ finished).1
  · exact (((files _ _).2 _ _ _ whole).1 rfl).1
  · obtain ⟨front, last, source, limit, limited, place, -⟩ := ((files _ _).2 _ _ _ cut).2 short
    exact ⟨front, last, source, limit, limited, place⟩

end Session

end Lox
