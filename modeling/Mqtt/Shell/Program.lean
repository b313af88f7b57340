import Mqtt.Shell.Console
import Mqtt.Shell.Setup

/-!
The shell as a program: arguments and lines in, output and an exit code out. It has no network of
its own, so that every attempt to connect fails.
-/

namespace Mqtt.Shell
set_option autoImplicit false

/-- What a program leaves behind. -/
structure Exit where
  code : Nat
  stdout : String
  stderr : String
deriving DecidableEq, Repr

namespace Program

def name : String := "mqtt3-shell"

/-- The end of a program that was called wrongly. -/
def misuse (e : UsageError) : Exit :=
  ⟨1, "", e.message ++ "\nRun " ++ name ++ " --help for more information.\n"⟩

/-- The end of a program that could not begin, or not end, after some output. -/
def failed (stdout : String) (e : SetupError) : Exit :=
  ⟨1, stdout, line ("Error: " ++ e.diagnosis)⟩

/-- Begins: the console, what is printed first, and what is left of the input. -/
def start (files : Files) (generated : String) (arguments : List String) :
    Except Exit (Console × String × String) := do
  match Options.parse arguments with
  | .error e => throw (misuse e)
  | .ok .help => throw ⟨0, line (Help.text name), ""⟩
  | .ok (.run o) =>
    match Setup.openLog files o with
    | .error e => throw (failed "" e)
    | .ok files =>
      match Setup.run files o generated with
      | .error e => throw (failed "" e)
      | .ok (config, kind, files) =>
        let greeting := line ("Client id: " ++ config.clientId)
        match Console.new config kind with
        | .error e => throw (failed greeting (.client e))
        | .ok c =>
          let wire := { c.world.wire with otherwise := .fails .connectionEstablishmentFailure }
          pure ({ c with world := { c.world with wire } }, greeting ++ helpText, files.input)

/-- Deals with one line: what is printed, and whether it asked to quit. -/
def feed (c : Console) (ticket : Nat) (text : String) : Console × String × Bool :=
  let (c, r) := c.step ticket (.line text) false
  let quits := match r.shown with
    | .handled quit => quit
    | .result _ => false
  (c, r.output, quits)

/-- Ends: stops the client, and says so. -/
def finish (c : Console) (ticket : Nat) (printed : String) : Exit :=
  let (_, r) := c.step ticket (.move .destroy) false
  let printed := printed ++ r.output
  match r.shown with
  | .result (.returned (.done (.error e))) => failed printed (.client e)
  | _ => ⟨0, printed ++ line "Done", ""⟩

/-- Deals with lines up to one that asks to quit. -/
def feedAll (c : Console) (ticket : Nat) (printed : String) : List String → Exit
  | [] => finish c ticket printed
  | text :: rest =>
    let (c, more, quits) := feed c ticket text
    if quits then finish c (ticket + 1) (printed ++ more)
    else feedAll c (ticket + 1) (printed ++ more) rest

/-- A line without the carriage return at its end. -/
def withoutReturn (cs : List Char) : List Char :=
  match cs.reverse with
  | '\r' :: rest => rest.reverse
  | _ => cs

/-- The lines of a text. A line end at the very end begins no further line. -/
def inputLines (s : String) : List String :=
  let pieces := s.toList.splitBy fun a _ => a ≠ '\n'
  pieces.map fun p =>
    String.ofList <|
      match p.reverse with
      | '\n' :: rest => withoutReturn rest.reverse
      | _ => p

/-- The whole program. -/
def run (files : Files) (generated : String) (arguments : List String) : Exit :=
  match start files generated arguments with
  | .error o => o
  | .ok (c, printed, input) => feedAll c 0 printed (inputLines input)

end Program

end Mqtt.Shell
