import Lox.Text.Basic

/-!
Outlets: streams that store bytes and may be limited in how many they take, and the two outlets of
a session.

A write to a limited outlet that does not fit stores what still fits and fails.
-/

set_option autoImplicit false
set_option relaxedAutoImplicit false

namespace Lox

/-- What was written, and how many bytes can be written in all, if there is a limit. -/
structure Outlet where
  stored : List UInt8
  limit : Option Nat
  deriving DecidableEq

namespace Outlet

def unlimited : Outlet := ⟨[], none⟩

def limited (limit : Nat) : Outlet := ⟨[], some limit⟩

/-- Writes a text, and tells whether all of it fitted. -/
def write (outlet : Outlet) (text : Text) : Outlet × Bool :=
  let bytes := Text.utf8 text
  match outlet.limit with
  | none => ({ outlet with stored := outlet.stored ++ bytes }, true)
  | some limit =>
      let room := limit - outlet.stored.length
      ({ outlet with stored := outlet.stored ++ bytes.take room }, bytes.length ≤ room)

end Outlet

inductive StreamError
  | writerFull
  | invalidText
  deriving DecidableEq

def StreamError.message : StreamError → Text
  | writerFull => "writer is full".toList
  | invalidText => "stream did not contain valid UTF-8".toList

structure Streams where
  out : Outlet
  err : Outlet
  deriving DecidableEq

def Streams.unlimited : Streams := ⟨.unlimited, .unlimited⟩

/-- A computation that writes to the two outlets, and stops where a stream fails. -/
abbrev Session := EStateM StreamError Streams

namespace Session

def writeOut (text : Text) : Session Unit := fun streams =>
  match streams.out.write text with
  | (out, true) => .ok () { streams with out }
  | (out, false) => .error .writerFull { streams with out }

def writeErr (text : Text) : Session Unit := fun streams =>
  match streams.err.write text with
  | (err, true) => .ok () { streams with err }
  | (err, false) => .error .writerFull { streams with err }

/-- Writes to the outlet for messages, on a line of its own. -/
def reportLine (text : Text) : Session Unit := writeErr (text ++ ['\n'])

end Session

end Lox
