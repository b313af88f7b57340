import Mqtt.Client
import Mqtt.Simulation.Wire

/-!
A client on a wire, with a clock that moves only when it is told to. A call begins with the move
that makes it. After each move the session runs until it can only wait, the calls return that can,
and it is told what they came to; a move that is deferred leaves all of that to the next one that is
not.
-/

namespace Mqtt.Simulation
set_option autoImplicit false

/-- The callbacks of a simulated client. -/
inductive Callback where
  /-- Keeps a record of what it is told. -/
  | recorder
  /-- Shows what it is told on a console. -/
  | console
  /-- Fails when it is told anything. -/
  | failing
deriving DecidableEq, Repr

def Callback.react : Callback → Event → Reaction Callback
  | failing, _ => { fails := true }
  | _, _ => {}

/-- What the transport is busy with. A result is there once the call can return. -/
inductive Busy where
  | nothing
  | connecting (result : Option (Except Error Unit))
  | writing (result : Option (Except Error Unit))
  | reading (since timeout : Nat)
deriving Repr

/-- What is noted of a run. -/
inductive Entry where
  | connect (host : String) (port : UInt16) (timeout : Nat) (fate : Fate)
  | write (bytes : Bytes) (timeout : Nat) (fate : Fate)
  | close
  | told (id : Nat) (k : Callback) (e : Event)
  | returned (ticket : Nat) (r : Return)
deriving Repr

/-- What a call asks of the client. -/
inductive Errand where
  | nothing
  | start
  | stop
  | publish (topic : String) (payload : Bytes) (qos : QoS) (retain : Bool)
  | subscribe (filter : String) (qos : QoS)
  | unsubscribe (filter : String)
deriving Repr

structure World where
  client : Client Callback
  wire : Wire := {}
  busy : Busy := .nothing
  now : Nat := 0
  /-- What calls came to of which it has not been told yet, by ticket. -/
  answers : List (Nat × Return) := []
  /-- Whether the client has not been given up. -/
  inHand : Bool := true
  /-- Newest first. -/
  log : List Entry := []
deriving Repr

namespace World

def note (w : World) (x : Entry) : World := { w with log := x :: w.log }

/-- Passes an effect of the session on to the wire. -/
def transport (w : World) : Effect → World
  | .connect host port timeout =>
    let (wire, fate) := w.wire.nextConnect
    { w with wire, busy := .connecting fate.result? }.note (.connect host port timeout fate)
  | .write bytes timeout =>
    let (wire, fate) := w.wire.nextWrite
    { w with wire, busy := .writing fate.result? }.note (.write bytes timeout fate)
  | .read timeout => { w with busy := .reading w.now timeout }
  | .close => { w with wire := w.wire.close }.note .close
  | _ => w

def act (w : World) : Client.Action Callback → World
  | .transport x => w.transport x
  | .told e audience => audience.foldl (fun w x =>
      match x with
      | (_, .callback .failing) | (_, .channel _) => w
      | (id, .callback k) => w.note (.told id k e)) w

/-- What the transport can return now, with the wire after it. The wire is open when the session
takes notice of that. -/
def returned (w : World) : List (Client.Signal × Wire) :=
  match w.busy with
  | .connecting (some (.ok ())) => [(.connected (.ok ()), w.wire.opened)]
  | .connecting (some (.error e)) => [(.connected (.error e), w.wire)]
  | .writing (some r) => [(.written r, w.wire)]
  | .reading since timeout =>
    match w.wire.read? w.client.config.bufferSize with
    | some (wire, r) => [(.read r, wire)]
    | none => if since + timeout ≤ w.now then [(.read (.ok []), w.wire)] else []
  | _ => []

/-- Whether the session sleeps and its deadline has come. -/
def isDue (w : World) : Bool :=
  w.client.task.any fun t =>
    match t.session.phase with
    | .sleeping deadline => deadline ≤ w.now
    | _ => false

/-- The signals that can come now, in the order in which the session would rather take them. -/
def signals (w : World) : List (Client.Signal × Wire) :=
  [(.run, w.wire)] ++ w.returned ++ [(.stop, w.wire), (.request, w.wire), (.abandoned, w.wire)]
    ++ if w.isDue then [(.elapsed, w.wire)] else []

/-- One step of the session, if it does not have to wait. -/
def step? (w : World) : Option World :=
  w.signals.findSome? fun (signal, wire) =>
    (w.client.step? Callback.react w.now signal).map fun (client, actions) =>
      actions.foldl act { w with client, wire, busy := .nothing }

/-- Lets the session take at most so many steps. -/
def run : Nat → World → World
  | 0, w => w
  | n + 1, w =>
    match w.step? with
    | some w => run n w
    | none => w

/-- More steps than any run between two moves takes. -/
def patience : Nat := 1000000

/-- A call returns. -/
def finish (w : World) (ticket : Nat) (r : Return) : World :=
  { w with answers := w.answers ++ [(ticket, r)] }.note (.returned ticket r)

/-- Takes what a call of the client came to, if it has returned. -/
def called (w : World) (ticket : Nat) (r : Client Callback × Option Return) : World :=
  let w := { w with client := r.1 }
  match r.2 with
  | some r => w.finish ticket r
  | none => w

/-- Makes a call, which is known by the ticket. -/
def make (w : World) (ticket : Nat) : Errand → World
  | .nothing => w.finish ticket (.done (.ok ()))
  | .start =>
    let (client, r) := w.client.start
    w.called ticket (client, some (.done r))
  | .stop => w.called ticket (w.client.stop ticket)
  | .publish topic payload qos retain =>
    w.called ticket (w.client.publish w.now ticket topic payload qos retain)
  | .subscribe filter qos => w.called ticket (w.client.subscribe w.now ticket filter qos)
  | .unsubscribe filter => w.called ticket (w.client.unsubscribe w.now ticket filter)

/-- Lets the calls return that can, in the order in which they were made. -/
def concludeAll (w : World) : World :=
  let (client, returns) := w.client.concludeAll
  returns.foldl (fun w (ticket, r) => w.finish ticket r) { w with client }

/-- Lets the session run until it waits, and then the calls return that can, at most so often. -/
def rounds : Nat → World → World
  | 0, w => w
  | n + 1, w =>
    let w := run patience w
    if w.client.calls.any w.client.isReady then rounds n w.concludeAll else w

/-- Lets everything happen that can. In every round but the last a call returns. -/
def settle (w : World) : World := rounds (w.client.calls.length + 1) w

end World

/-- What is done to a simulated client. -/
inductive Move where
  /-- Starts the client at once. -/
  | start
  | call (e : Errand)
  /-- Stops the client and gives it up. -/
  | destroy
  /-- Gives the client up. -/
  | drop
  | cancel (ticket : Nat)
  | clientId
  | addCallback (k : Callback)
  | addChannel
  | removeListener (id : Nat)
  | hangUp (id : Nat)
  | deliver (message : Except Error Bytes)
  | advance (time : Nat)
  | script (connects writes : List Fate)
  | release (result : Except Error Unit)
deriving Repr

/-- What a move comes to. -/
inductive Result where
  | nothing
  /-- The call has not returned. -/
  | pending
  | returned (r : Return)
  | text (s : String)
  | listener (id : Nat)
  | flag (b : Bool)
deriving Repr

/-- What a move shows. -/
structure Report where
  result : Result
  /-- What calls came to, by ticket. -/
  returns : List (Nat × Return)
  /-- What was noted, oldest first. -/
  entries : List Entry
  /-- What came into the mailboxes. -/
  received : List (Nat × List Event)
deriving Repr

namespace World

/-- Lets a hung call of the transport return; whether there was one. -/
def release (w : World) (result : Except Error Unit) : World × Bool :=
  match w.busy with
  | .connecting none => ({ w with busy := .connecting (some result) }, true)
  | .writing none => ({ w with busy := .writing (some result) }, true)
  | _ => (w, false)

/-- A caller gives up a call, and is not told what it came to. -/
def cancel (w : World) (ticket : Nat) : World :=
  { w with answers := w.answers.filter fun x => x.1 ≠ ticket, client := w.client.cancel ticket }

/-- Carries out what a move does at once. -/
def execute (w : World) (ticket : Nat) : Move → World × Result
  | .start =>
    let (client, r) := w.client.start
    ({ w with client }, .returned (.done r))
  | .call e => (w.make ticket e, .pending)
  | .destroy => ({ w with inHand := false }.make ticket .stop, .pending)
  | .drop => ({ w with client := w.client.release, inHand := false }, .nothing)
  | .cancel ticket => (w.cancel ticket, .nothing)
  | .clientId => (w, .text w.client.config.clientId)
  | .addCallback k =>
    let (client, id) := w.client.addListener (.callback k)
    ({ w with client }, .listener id)
  | .addChannel =>
    let (client, id) := w.client.addChannel
    ({ w with client }, .listener id)
  | .removeListener id => ({ w with client := w.client.removeListener id }, .nothing)
  | .hangUp id =>
    ({ w with client := { w.client with mailboxes := w.client.mailboxes.hangUp id } }, .nothing)
  | .deliver message => ({ w with wire := w.wire.deliver message }, .nothing)
  | .advance time => ({ w with now := w.now + time }, .nothing)
  | .script connects writes =>
    ({ w with wire := { w.wire with
        connects := w.wire.connects ++ connects, writes := w.wire.writes ++ writes } }, .nothing)
  | .release result => let (w, b) := w.release result; (w, .flag b)

/-- Takes the log, oldest entry first, and what has come into the mailboxes. -/
def collect (w : World) : World × List Entry × List (Nat × List Event) :=
  let (mailboxes, received) := w.client.mailboxes.collect
  ({ w with log := [], client := { w.client with mailboxes } }, w.log.reverse, received)

/-- Takes what calls came to. -/
def takeAnswers (w : World) : World × List (Nat × Return) := ({ w with answers := [] }, w.answers)

/-- A move as a whole. The result of a call is what it came to, if it has returned and it is told of
that. -/
def move (w : World) (ticket : Nat) (m : Move) (deferred : Bool) : World × Report :=
  let (w, result) := w.execute ticket m
  let (w, returns) := if deferred then (w, []) else w.settle.takeAnswers
  let (w, entries, received) := w.collect
  let result := ((returns.lookup ticket).map Result.returned).getD result
  (w, { result, returns, entries, received })

/-- A client on a fresh wire; the kind of its default listener is chosen here. -/
def new (config : Config) (defaultPort : UInt16) (listener : Option (Listener Callback)) :
    Except Error World := do
  let client ← Client.new config defaultPort listener
  match listener with
  | some (.channel _) =>
    let (mailboxes, number) := client.mailboxes.create 0
    pure { client := { client with mailboxes, listeners := [(0, .channel number)] } }
  | _ => pure { client }

end World

end Mqtt.Simulation
