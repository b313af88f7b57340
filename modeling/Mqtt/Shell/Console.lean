import Mqtt.Shell.Command
import Mqtt.Simulation.World
import Mqtt.Text.Lossy
import Mqtt.Transport

/-!
The console of the shell: what it says about events and results, and what a line of input does to
a client. Each line is dealt with in a call of its own, and answered when that call returns.
-/

namespace Mqtt.Shell
set_option autoImplicit false

open Simulation (World Entry Errand)

/-- One line of output. -/
def line (s : String) : String := s ++ "\n"

def helpText : String :=
  String.join <| List.map line
    ["Commands:", "  start", "  stop", "  publish <topic> <qos> [payload]",
      "  subscribe <topic filter> [qos]", "  unsubscribe <topic filter>", "  quit"]

/-- What the console says of an event. -/
def eventText : Event → String
  | .connected present => line ("Connected: session present = " ++ toString present)
  | .disconnected e => line ("Disconnected: " ++ e.message)
  | .failure e => line ("Error: " ++ e.message)
  | .subscribed i codes =>
    line ("Subscribed (" ++ toString i.toNat ++ "): " ++ SubscribeReturnCode.listText codes)
  | .unsubscribed i => line ("Unsubscribed (" ++ toString i.toNat ++ ")")
  | .published i => line ("Published (" ++ toString i.toNat ++ ")")
  | .data a =>
    line ("Data on '" ++ a.topic ++ "' [" ++ toString a.offset ++ ".."
      ++ toString (a.offset + a.payload.length) ++ " of " ++ toString a.total ++ "]: "
      ++ Text.lossy a.payload)

namespace Command

/-- What a command asks of the client. -/
def errand : Command → Errand
  | start => .start
  | stop => .stop
  | publish topic qos payload => .publish topic (Bytes.ofText payload) qos false
  | subscribe filter qos => .subscribe filter qos
  | unsubscribe filter => .unsubscribe filter
  | nothing | quit | help | invalidQos _ => .nothing

/-- The name of what a command asks of the client. -/
def verb : Command → String
  | start => "Start"
  | stop => "Stop"
  | publish _ _ _ => "Publish"
  | subscribe _ _ => "Subscribe"
  | unsubscribe _ => "Unsubscribe"
  | nothing | quit | help | invalidQos _ => ""

/-- What the console says when the call of a command returns; nothing of a start or stop that went
well. -/
def answer : Command → Return → String
  | help, _ => helpText
  | invalidQos word, _ => line ("Invalid qos: " ++ word)
  | _, .done (.ok ()) => ""
  | c, .done (.error e) => line (c.verb ++ " failed: " ++ e.message)
  | c, .issued (.ok i) => line (c.verb ++ " Result: Ok(" ++ toString i.toNat ++ ")")
  | c, .issued (.error e) => line (c.verb ++ " Result: Err(" ++ e.label ++ ")")

end Command

/-- What is put into the console: a line that was typed, or something else that happens to the
client. -/
inductive Input where
  | line (text : String)
  | move (m : Simulation.Move)
deriving Repr

/-- What came of an input. -/
inductive Shown where
  /-- A line was dealt with; whether it asked to quit. -/
  | handled (quit : Bool)
  | result (r : Simulation.Result)
deriving Repr

structure Console where
  world : World
  /-- The lines that have not been dealt with, by ticket. -/
  lines : List (Nat × Command) := []
deriving Repr

namespace Console

/-- A client that shows its events on the console. -/
def new (config : Config) (kind : StreamKind) : Except Error Console := do
  pure { world := ← World.new config kind.defaultPort (some (.callback .console)) }

/-- What an input does to the client; a line makes a call. -/
def accept (c : Console) (ticket : Nat) : Input → Console × Simulation.Move
  | .line text =>
    let command := Command.parse text
    ({ c with lines := c.lines ++ [(ticket, command)] }, .call command.errand)
  | .move m => (c, m)

/-- What is said of an entry. -/
def say (c : Console) : Entry → String
  | .told _ .console e => eventText e
  | .returned ticket r =>
    match c.lines.lookup ticket with
    | some command => command.answer r
    | none => ""
  | _ => ""

/-- What came of the input with this ticket, of which the result is known. -/
def shown (c : Console) (ticket : Nat) (r : Simulation.Result) : Shown :=
  match r, c.lines.lookup ticket with
  | .returned _, some command => .handled (command = .quit)
  | _, _ => .result r

/-- What an input shows. -/
structure Report where
  shown : Shown
  /-- Of earlier inputs whose calls returned, by ticket. -/
  done : List (Nat × Shown)
  /-- What was said. -/
  output : String
  /-- What was noted, oldest first. -/
  entries : List Entry
  /-- What came into the mailboxes. -/
  received : List (Nat × List Event)
deriving Repr

/-- An input as a whole. -/
def step (c : Console) (ticket : Nat) (input : Input) (deferred : Bool) : Console × Report :=
  let (c, m) := c.accept ticket input
  let (world, r) := c.world.move ticket m deferred
  let returned := r.returns.map Prod.fst
  ({ world, lines := c.lines.filter fun x => !returned.contains x.1 },
    { shown := c.shown ticket r.result
      done := (r.returns.filter fun x => x.1 ≠ ticket).map fun (i, x) =>
        (i, c.shown i (.returned x))
      output := String.join (r.entries.map c.say)
      entries := r.entries
      received := r.received })

end Console

end Mqtt.Shell
