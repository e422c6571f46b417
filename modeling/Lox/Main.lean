import Lox.CommandLine

/-!
The program on real files and streams. Everything it decides is decided by the command line's
session; here files are read, lines are read, and bytes are written.
-/

set_option autoImplicit false
set_option relaxedAutoImplicit false

namespace Lox.Program

/-- A failure of the system by its number, which some calls give with a minus sign. -/
def readErrorOfNumber (code : UInt32) (details : String) : ReadError :=
  match (if code < 0x80000000 then code else 0 - code).toNat with
  | 2 => .notFound
  | 20 => .notDirectory
  | 21 => .isDirectory
  | number => .system details.toList number

def readErrorOfSystem : IO.Error → ReadError
  | .noFileOrDirectory _ code details | .inappropriateType _ code details
  | .permissionDenied _ code details | .invalidArgument _ code details
  | .resourceExhausted _ code details | .noSuchThing _ code details
  | .otherError code details => readErrorOfNumber code details
  | error => .described error.toString.toList

def readFile (path : Text) : IO (Except ReadError Text) := do
  try
    let bytes ← IO.FS.readBinFile (String.ofList path)
    return ReadError.textOf bytes.toList
  catch error => return .error (readErrorOfSystem error)

def writeBytes (stream : IO.FS.Stream) (bytes : List UInt8) : IO Unit := do
  stream.write ⟨bytes.toArray⟩
  stream.flush

/-- The next line of a stream with its line feed, or nothing at the end. -/
partial def readLine (stream : IO.FS.Stream) (line : ByteArray) : IO ByteArray := do
  let byte ← stream.read 1
  let line := line ++ byte
  if byte.isEmpty || byte.get! 0 == 10 then return line else readLine stream line

/-- Writes what a program leaves behind, and gives its status. -/
def leave (outcome : Outcome) : IO UInt32 := do
  writeBytes (← IO.getStdout) outcome.out
  writeBytes (← IO.getStderr) outcome.err
  return outcome.status.toUInt32

partial def interact (style : Style) : IO UInt32 := do
  writeBytes (← IO.getStdout) (Text.utf8 Session.promptText)
  let line ← readLine (← IO.getStdin) .empty
  if line.isEmpty then return 0
  match Session.answer style line.toList .unlimited with
  | .ok _ streams =>
      discard <| leave ⟨0, streams.out.stored, streams.err.stored⟩
      interact style
  | .error error _ => leave (.ofSession Frontend.plain.failureText (throw error) .unlimited)

def run (arguments : List String) : IO UInt32 := do
  match Frontend.plain.options (arguments.map String.toList) with
  | .error outcome => leave outcome
  | .ok options =>
      if options.files.isEmpty then interact options.effectiveStyle
      else
        let contents ← options.files.mapM fun file => do return (file, ← readFile file)
        let read (path : Text) := (contents.lookup path).getD (.error .notFound)
        leave (.ofSession Frontend.plain.failureText (options.session read []) .unlimited)

end Lox.Program

def main (arguments : List String) : IO UInt32 := Lox.Program.run arguments
