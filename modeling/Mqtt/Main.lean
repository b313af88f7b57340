import Mqtt.Shell.Program

/-!
The command line: an interactive client shell on standard input and output.
-/

namespace Mqtt.Shell
set_option autoImplicit false

/-- What the operating system has against a file. -/
def fileError : IO.Error → FileError
  | .permissionDenied .. => .permissionDenied
  | .inappropriateType _ 20 _ => .notADirectory
  | .inappropriateType .. => .isDirectory
  | .invalidArgument .. => .nameTooLong
  | .noSuchThing .. => .noSuchDevice
  | _ => .notFound

/-- Looks a file up, if a path is given. -/
def lookUp (path : Option String) : IO (Except FileError Found) := do
  match path with
  | none => pure (.error .notFound)
  | some path =>
    try
      let contents ← IO.FS.readBinFile path
      pure (.ok (.contents contents.data.toList))
    catch e => pure (.error (fileError e))

/-- Makes a file empty, if a path is given. -/
def makeEmpty (path : Option String) : IO (Except FileError Unit) := do
  match path with
  | none => pure (.error .notFound)
  | some path =>
    try
      IO.FS.writeFile path ""
      pure (.ok ())
    catch e => pure (.error (fileError e))

/-- The files that these arguments can have to do with. -/
def filesFor (arguments : List String) : IO Files := do
  match Options.parse arguments with
  | .ok (.run o) =>
    let log ← makeEmpty o.logFile
    let authority ← lookUp o.caFile
    pure { find := fun _ => authority, create := fun _ => log }
  | _ => pure (Files.bare "")

/-- Prints the end of a program, of whose output some is printed already. -/
def conclude (o : Exit) : IO UInt32 := do
  IO.print o.stdout
  IO.eprint o.stderr
  pure o.code.toUInt32

/-- Deals with lines as they come in. Between two lines the client's clock goes on. -/
partial def interact (input : IO.FS.Stream) (c : Console) (ticket since : Nat) : IO UInt32 := do
  let text ← input.getLine
  let now ← IO.monoMsNow
  let (c, r) := c.step ticket (.move (.advance (now - since))) false
  IO.print r.output
  match Program.inputLines text with
  | [] => conclude (Program.finish c (ticket + 1) "")
  | text :: _ =>
    let (c, printed, quits) := Program.feed c (ticket + 1) text
    IO.print printed
    (← IO.getStdout).flush
    if quits then conclude (Program.finish c (ticket + 2) "")
    else interact input c (ticket + 2) now

end Mqtt.Shell

open Mqtt Mqtt.Shell

def main (arguments : List String) : IO UInt32 := do
  let files ← filesFor arguments
  let random ← IO.rand 0 0xFFFFFFFFFFFF
  match Program.start files (Config.generatedId random) arguments with
  | .error o => conclude o
  | .ok (c, printed, _) =>
    IO.print printed
    (← IO.getStdout).flush
    interact (← IO.getStdin) c 0 (← IO.monoMsNow)
