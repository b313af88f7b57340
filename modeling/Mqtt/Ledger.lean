import Mqtt.Config
import Mqtt.Encoder
import Mqtt.Outbox

/-!
What a client and its session share: the state of the session, the numbering of packets, and the
operations that wait for an acknowledgement. The newest of them has a place of its own, and moves
to the outbox when the next one is issued.
-/

namespace Mqtt
set_option autoImplicit false

/-- Where a client's session stands. `unknown` holds before a start and after a stop; `error` is
the end of a session that lost its connection and may not reconnect. -/
inductive SessionState where
  | unknown
  | init
  | connected
  | waitTimeout
  | stopped
  | error
deriving DecidableEq, Repr, Inhabited

namespace SessionState

def text : SessionState → String
  | unknown => "Unknown"
  | init => "Init"
  | connected => "Connected"
  | waitTimeout => "WaitTimeout"
  | stopped => "Stopped"
  | error => "Error"

def all : List SessionState := [unknown, init, connected, waitTimeout, stopped, error]

end SessionState

structure Ledger where
  state : SessionState
  pending : Option Tracked
  outbox : Outbox
  encoder : Encoder
  /-- The age above which an entry of the outbox is stale. -/
  expiry : Nat
  /-- The number of entries beyond which the oldest are stale. -/
  maximum : Nat
deriving DecidableEq, Repr, Inhabited

namespace Ledger

def new (c : Config) : Ledger :=
  { state := .unknown, pending := none, outbox := .empty c.outboxCapacity
    encoder := .new c.bufferSize, expiry := c.outboxExpiry, maximum := c.outboxMaximumEntries }

/-- All operations that wait, the outbox before the newest. -/
def tracked (l : Ledger) : List Tracked := l.outbox.entries ++ l.pending.toList

/-- The newest operation gives up its place. -/
def preempt (l : Ledger) : Ledger :=
  match l.pending with
  | some t => { l with pending := none, outbox := (l.outbox.enqueue t).1 }
  | none => l

def track (l : Ledger) (t : Tracked) : Ledger := { l.preempt with pending := some t }

/-- Whether one more operation can be tracked. -/
def hasRoom (l : Ledger) : Bool := l.pending.isNone || !l.outbox.isFull

/-- Issues an operation that will be acknowledged. It is tracked once it is encoded. -/
def beginTracked (l : Ledger) (now : Nat) (kind : PacketType) (qos : QoS)
    (encode : Encoder → Encoder × Except Error Outgoing) : Ledger × Except Error Outgoing :=
  if l.state ≠ .connected then (l, .error .notConnected)
  else if !l.hasRoom then (l, .error .outboxFull)
  else
    match encode l.encoder with
    | (encoder, .ok out) =>
      ({ l with encoder }.track ⟨out.packetId, kind, qos, out.bytes, now⟩, .ok out)
    | (encoder, .error e) => ({ l with encoder }, .error e)

/-- Issues a PUBLISH. At QoS 0 it is only encoded. -/
def beginPublish (l : Ledger) (now : Nat) (topic : String) (payload : Bytes) (qos : QoS)
    (retain : Bool) : Ledger × Except Error Outgoing :=
  if qos = .atMostOnce then
    if l.state ≠ .connected then (l, .error .notConnected)
    else
      let (encoder, result) := l.encoder.publish topic payload qos retain false
      ({ l with encoder }, result)
  else l.beginTracked now .publish qos fun e => e.publish topic payload qos retain false

def beginSubscribe (l : Ledger) (now : Nat) (filter : String) (qos : QoS) :
    Ledger × Except Error Outgoing :=
  l.beginTracked now .subscribe qos fun e => e.subscribe filter qos

def beginUnsubscribe (l : Ledger) (now : Nat) (filter : String) : Ledger × Except Error Outgoing :=
  l.beginTracked now .unsubscribe .atLeastOnce fun e => e.unsubscribe filter

def pendingIs (l : Ledger) (kind : PacketType) (packetId : UInt16) : Bool :=
  l.pending.any fun t => t.key = (kind, packetId)

/-- Forgets an operation whose packet was never written. -/
def abandon (l : Ledger) (kind : PacketType) (packetId : UInt16) : Ledger :=
  if l.pendingIs kind packetId then { l with pending := none }
  else { l with outbox := l.outbox.erase kind packetId }

/-- Forgets an operation that failed. A message without an id was never tracked. -/
def forget (l : Ledger) (kind : PacketType) (packetId : UInt16) : Ledger :=
  if packetId = 0 then l else l.abandon kind packetId

/-- Takes an acknowledgement: whether it completed an operation. One that completes none changes
nothing. -/
def resolve (l : Ledger) (kind : PacketType) (packetId : UInt16) : Ledger × Bool :=
  match l.outbox.find? kind packetId with
  | some t =>
    if t.awaitsPubrec then (l, false)
    else ({ l with outbox := l.outbox.erase kind packetId }, true)
  | none =>
    match l.pending with
    | some t =>
      if t.key = (kind, packetId) && !t.awaitsPubrec then ({ l with pending := none }, true)
      else (l, false)
    | none => (l, false)

/-- The receipt of a QoS 2 PUBLISH was confirmed: from now on its PUBREL waits. -/
def advanceToPubrel (l : Ledger) (packetId : UInt16) (pubrel : Bytes) : Ledger × Bool :=
  let released (t : Tracked) : Tracked := { t with kind := .pubrel, packet := pubrel }
  match (l.outbox.find? .publish packetId).filter Tracked.awaitsPubrec with
  | some t =>
    ({ l with outbox := ((l.outbox.erase .publish packetId).enqueue (released t)).1 }, true)
  | none =>
    match l.pending with
    | some t =>
      if t.key = (.publish, packetId) && t.awaitsPubrec then
        ({ l with pending := some (released t) }, true)
      else (l, false)
    | none => (l, false)

/-- Forgets entries of the outbox that are too old or too many. -/
def evictStale (l : Ledger) (now : Nat) : Ledger :=
  { l with outbox := ((l.outbox.evictExpired now l.expiry).1.evictOldestUntil l.maximum).1 }

/-- Forgets every operation. -/
def clearTracked (l : Ledger) : Ledger := { l with pending := none, outbox := l.outbox.clear }

end Ledger

end Mqtt
