import Mqtt.Listeners
import Mqtt.Session.Step

/-!
A client: the ledger and the listeners, the session while there is one, and the calls that have
not returned. Every move of a caller and every step of the session is a function on the client, so
an interleaving of callers and session is a sequence of these moves.
-/

namespace Mqtt
set_option autoImplicit false

/-- A session with what its clients reach it by: a queue of requests and a stop signal. -/
structure Task where
  session : Session
  queue : List Request := []
  stopRequested : Bool := false
  /-- A stop notice that the session has not taken yet. -/
  notified : Bool := false
deriving Repr

namespace Task

/-- How many requests can wait in the queue. -/
def queueSize : Nat := 100

def isOver (t : Task) : Bool := t.session.phase.isOver

def signalStop (t : Task) : Task := { t with stopRequested := true, notified := true }

end Task

/-- What a call that has not returned waits for. -/
inductive Goal where
  /-- The end of the session. -/
  | stop
  /-- The write of a packet; `answer` is there once the session has given it. -/
  | operation (kind : PacketType) (packetId : UInt16) (answer : Option (Except Error Unit))
deriving Repr

structure Call where
  ticket : Nat
  goal : Goal
deriving Repr

/-- What a call returns. -/
inductive Return where
  | done (result : Except Error Unit)
  | issued (result : Except Error UInt16)
deriving Repr

structure Client (κ : Type) where
  config : Config
  /-- The port that a configuration without one selects. -/
  defaultPort : UInt16
  ledger : Ledger
  listeners : Registry κ
  mailboxes : Mailboxes := {}
  /-- The id of the next listener. -/
  nextListener : Nat := 1
  /-- Whether the transport is here, and not with a session. -/
  transportHere : Bool := true
  /-- Whether the session can be reached through the client. -/
  holdsTask : Bool := false
  task : Option Task := none
  /-- In the order in which they were made. -/
  calls : List Call := []
deriving Repr

namespace Client

variable {κ : Type}

/-- A client that is not started. The default listener has the id 0. -/
def new (config : Config) (defaultPort : UInt16) (listener : Option (Listener κ)) :
    Except Error (Client κ) := do
  config.check
  pure
    { config, defaultPort, ledger := .new config
      listeners := (listener.map fun l => (0, l)).toList }

theorem new_eq_ok_iff {config : Config} {defaultPort : UInt16} {listener : Option (Listener κ)}
    {c : Client κ} : new config defaultPort listener = .ok c ↔ config.check = .ok ()
      ∧ c = { config, defaultPort, ledger := .new config
              listeners := (listener.map fun l => (0, l)).toList } := by
  unfold new
  cases config.check with
  | error e => exact ⟨nofun, nofun⟩
  | ok u => exact ⟨fun h => ⟨rfl, (Except.ok.inj h).symm⟩, fun h => congrArg Except.ok h.2.symm⟩

def state (c : Client κ) : SessionState := c.ledger.state

/-! ### Starting and stopping -/

/-- Starts a session, if the client is idle. -/
def start (c : Client κ) : Client κ × Except Error Unit :=
  if c.holdsTask || c.state ≠ .unknown then (c, .error .alreadyStarted)
  else if !c.transportHere then (c, .error .internalStateError)
  else
    ({ c with
        transportHere := false, holdsTask := true
        ledger := { c.ledger with state := .init }
        task := some { session := .new c.config c.defaultPort } }, .ok ())

/-- Lets go of the session, if the client holds one, and asks it to stop. -/
def release (c : Client κ) : Client κ :=
  if c.holdsTask then { c with holdsTask := false, task := c.task.map Task.signalStop } else c

/-- The session has ended: the client is idle again. A session that crashed has lost the
transport. -/
def stopped (c : Client κ) : Client κ × Except Error Unit :=
  let idle := { c with ledger := { c.ledger with state := .unknown }, task := none }
  match c.task with
  | some t =>
    if t.session.phase = .crashed then (idle, .error .internalStateError)
    else ({ idle with transportHere := true }, .ok ())
  | none => (idle, .error .internalStateError)

/-- Lets go of the session and waits for its end. A client that holds no session has nothing to wait
for. -/
def stop (c : Client κ) (ticket : Nat) : Client κ × Option Return :=
  if !c.holdsTask then (c, some (.done (.ok ())))
  else
    let c := c.release
    if c.task.all Task.isOver then let (c, r) := c.stopped; (c, some (.done r))
    else ({ c with calls := c.calls ++ [⟨ticket, .stop⟩] }, none)

/-! ### Operations -/

/-- An operation that returns an error is forgotten. -/
def operationFailed (c : Client κ) (kind : PacketType) (packetId : UInt16) : Client κ :=
  { c with ledger := c.ledger.forget kind packetId }

/-- Puts a packet into the session's queue. -/
def enqueue (c : Client κ) (r : Request) : Client κ × Except Error Unit :=
  if !c.holdsTask then (c, .error .notConnected)
  else
    match c.task with
    | none => (c, .error .operationChannelSendError)
    | some t =>
      if t.isOver || Task.queueSize ≤ t.queue.length then (c, .error .operationChannelSendError)
      else ({ c with task := some { t with queue := t.queue ++ [r] } }, .ok ())

/-- Hands an issued packet to the session, whose answer the call waits for. -/
def submit (c : Client κ) (ticket : Nat) (kind : PacketType) (out : Outgoing) :
    Client κ × Option Return :=
  match c.enqueue ⟨out.bytes, kind, out.packetId, ticket⟩ with
  | (c, .ok ()) =>
    ({ c with calls := c.calls ++ [⟨ticket, .operation kind out.packetId none⟩] }, none)
  | (c, .error e) => (c.operationFailed kind out.packetId, some (.issued (.error e)))

/-- Issues a packet and hands it to the session. -/
def issue (c : Client κ) (ticket : Nat) (kind : PacketType)
    (begin : Ledger → Ledger × Except Error Outgoing) : Client κ × Option Return :=
  match begin c.ledger with
  | (ledger, .ok out) => { c with ledger }.submit ticket kind out
  | (ledger, .error e) => ({ c with ledger }, some (.issued (.error e)))

def publish (c : Client κ) (now ticket : Nat) (topic : String) (payload : Bytes) (qos : QoS)
    (retain : Bool) : Client κ × Option Return :=
  match Topic.check topic with
  | .ok () => c.issue ticket .publish fun l => l.beginPublish now topic payload qos retain
  | .error e => (c, some (.issued (.error e)))

def subscribe (c : Client κ) (now ticket : Nat) (filter : String) (qos : QoS) :
    Client κ × Option Return :=
  match Topic.checkFilter filter with
  | .ok () => c.issue ticket .subscribe fun l => l.beginSubscribe now filter qos
  | .error e => (c, some (.issued (.error e)))

def unsubscribe (c : Client κ) (now ticket : Nat) (filter : String) : Client κ × Option Return :=
  match Topic.checkFilter filter with
  | .ok () => c.issue ticket .unsubscribe fun l => l.beginUnsubscribe now filter
  | .error e => (c, some (.issued (.error e)))

/-- A caller gives up a call. What it has begun goes on. -/
def cancel (c : Client κ) (ticket : Nat) : Client κ :=
  { c with calls := c.calls.filter fun x => x.ticket ≠ ticket }

/-- Whether what a call waits for has come. -/
def isReady (c : Client κ) (x : Call) : Bool :=
  match x.goal with
  | .stop => c.task.all Task.isOver
  | .operation _ _ answer => answer.isSome

/-- Lets a call return that has what it waits for. -/
def conclude (c : Client κ) (x : Call) : Client κ × Return :=
  let c := c.cancel x.ticket
  match x.goal with
  | .stop => let (c, r) := c.stopped; (c, .done r)
  | .operation _ packetId (some (.ok ())) => (c, .issued (.ok packetId))
  | .operation kind packetId (some (.error e)) =>
    (c.operationFailed kind packetId, .issued (.error e))
  | .operation kind packetId none =>
    (c.operationFailed kind packetId, .issued (.error .operationChannelReceiveError))

/-- Lets the calls return that can, in the order in which they were made. -/
def concludeAll (c : Client κ) : Client κ × List (Nat × Return) :=
  c.calls.foldl (fun (c, rs) x =>
    if c.isReady x then
      let (c, r) := c.conclude x
      (c, rs ++ [(x.ticket, r)])
    else (c, rs)) (c, [])

/-! ### Listeners -/

def addListener (c : Client κ) (l : Listener κ) : Client κ × Nat :=
  ({ c with listeners := c.listeners.insert c.nextListener l, nextListener := c.nextListener + 1 },
    c.nextListener)

/-- Adds a listener with a mailbox of its own. -/
def addChannel (c : Client κ) : Client κ × Nat :=
  let (mailboxes, number) := c.mailboxes.create c.nextListener
  { c with mailboxes }.addListener (.channel number)

def removeListener (c : Client κ) (id : Nat) : Client κ :=
  { c with listeners := c.listeners.erase id }

/-! ### The session's steps -/

/-- Whether anybody could still make a request: whoever holds the client, or a call that has not
returned. -/
def isReachable (c : Client κ) : Bool := c.holdsTask || !c.calls.isEmpty

/-- Answers a call that waits for the write of its packet. -/
def answer (c : Client κ) (ticket : Nat) (result : Except Error Unit) : Client κ :=
  { c with calls := c.calls.map fun x =>
      match x.goal with
      | .operation kind packetId none =>
        if x.ticket = ticket then ⟨ticket, .operation kind packetId (some result)⟩ else x
      | _ => x }

/-- After the end of a session its queue is gone, and the calls that wait for it learn so. -/
def closeQueue (c : Client κ) : Client κ :=
  { c with
      task := c.task.map fun t => { t with queue := [] }
      calls := c.calls.map fun x =>
        match x.goal with
        | .operation kind packetId none =>
          ⟨x.ticket, .operation kind packetId (some (.error .operationChannelReceiveError))⟩
        | _ => x }

/-- A callback has failed: the session is lost on the spot. -/
def crash (c : Client κ) : Client κ :=
  { c with task := c.task.map fun t => { t with session := { t.session with phase := .crashed } } }

/-- What a step shows outside the client. -/
inductive Action (κ : Type) where
  | transport (x : Effect)
  /-- An event, and the listeners that were told of it. -/
  | told (e : Event) (audience : Registry κ)
deriving Repr

/-- Carries out effects in order, up to a callback that fails. -/
def perform (react : κ → Event → Reaction κ) (c : Client κ) :
    List Effect → Client κ × List (Action κ)
  | [] => (c, [])
  | .tell e :: rest =>
    let t := c.listeners.broadcast react e
    let c := { c with listeners := t.registry, mailboxes := c.mailboxes.sendAll t.told e }
    if t.failed then (c.crash, [.told e t.told])
    else let (c, xs) := perform react c rest; (c, .told e t.told :: xs)
  | .answer ticket result :: rest => perform react (c.answer ticket result) rest
  | x :: rest => let (c, xs) := perform react c rest; (c, .transport x :: xs)

/-- What the world does to a session. -/
inductive Signal where
  | run
  | stop
  /-- The session takes the next request from its queue. -/
  | request
  | abandoned
  | connected (result : Except Error Unit)
  | written (result : Except Error Unit)
  | read (result : Except Error Bytes)
  | elapsed
deriving Repr

/-- What wakes the session at a signal, with the task after that; none while the signal cannot
come. -/
def wake? (c : Client κ) (t : Task) : Signal → Option (Wake × Task)
  | .run => some (.run, t)
  | .stop => if t.notified then some (.stop, { t with notified := false }) else none
  | .request =>
    match t.queue with
    | r :: rest => some (.request r, { t with queue := rest })
    | [] => none
  | .abandoned => if t.queue.isEmpty && !c.isReachable then some (.abandoned, t) else none
  | .connected result => some (.connected result, t)
  | .written result => some (.written result, t)
  | .read result => some (.read result, t)
  | .elapsed => some (.elapsed, t)

/-- Lets the session take a step at a signal; none when it does not wait for it. -/
def step? (react : κ → Event → Reaction κ) (c : Client κ) (now : Nat) (signal : Signal) :
    Option (Client κ × List (Action κ)) := do
  let t ← c.task
  let (w, t) ← c.wake? t signal
  if t.session.phase.accepts w then
    let o := t.session.step c.ledger now t.stopRequested w
    let (c, actions) :=
      { c with ledger := o.ledger, task := some { t with session := o.session } }.perform react
        o.effects
    pure (if c.task.all Task.isOver then c.closeQueue else c, actions)
  else none

end Client

end Mqtt
