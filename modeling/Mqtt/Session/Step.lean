import Mqtt.Session

/-!
The steps of a session. Each is a function of the time, whether a stop was asked for, the ledger
and the session; `Session.step` chooses by phase and by what woke the session.
-/

namespace Mqtt
set_option autoImplicit false

namespace Session

/-- A session and the ledger after a step, with what the step asks of the world. -/
structure Outcome where
  session : Session
  ledger : Ledger
  effects : List Effect
deriving Repr

/-- Goes to a phase, and changes nothing else of the session. -/
def goto (s : Session) (l : Ledger) (phase : Phase) (effects : List Effect) : Outcome :=
  ⟨{ s with phase }, l, effects⟩

/-- Gives the connection up. Its first error is the one that will be told. -/
def fail (s : Session) (l : Ledger) (e : Error) : Outcome :=
  ⟨{ s with phase := .failing, lastError := some (s.lastError.getD e) }, l, [.close]⟩

/-- Writes bytes for a purpose. -/
def write (s : Session) (l : Ledger) (purpose : Purpose) (bytes : Bytes) : Outcome :=
  s.goto l (.writing purpose) [.write bytes s.config.networkTimeout]

/-- Encodes and writes a packet; one that cannot be encoded ends the connection. -/
def send (s : Session) (l : Ledger) (purpose : Purpose) (p : Packet) : Outcome :=
  match s.encode p with
  | .ok bytes => s.write l purpose bytes
  | .error e => s.fail l e

/-- Rejects a request that came while there is no connection: it will never be written. -/
def reject (s : Session) (l : Ledger) (r : Request) (phase : Phase) : Outcome :=
  s.goto (l.forget r.kind r.packetId) phase [.answer r.ticket (.error .notConnected)]

/-- Takes leave of the broker. -/
def disconnect (s : Session) (l : Ledger) : Outcome :=
  match s.encode .disconnect with
  | .ok bytes => s.write l .farewell bytes
  | .error _ => s.goto l (.leaving .stopped) [.close]

/-- Begins an attempt with nothing left of earlier connections. -/
def attempt (s : Session) (l : Ledger) (stopRequested : Bool) : Outcome :=
  if stopRequested then s.goto l (.leaving .stopped) []
  else
    ⟨{ s with phase := .connecting, decoder := s.decoder.reset, items := [], lastError := none }, l,
      [.connect s.config.host s.port s.config.networkTimeout]⟩

/-- The broker has accepted: operations of a session it does not remember are forgotten. -/
def enter (s : Session) (l : Ledger) (now : Nat) (sessionPresent : Bool) : Outcome :=
  let l := { l with state := .connected }
  ⟨{ s with phase := .serving, lastPing := now }, if sessionPresent then l else l.clearTracked,
    [.tell (.connected sessionPresent)]⟩

/-- Looks for the broker's answer, which has to be the first packet. -/
def greet (s : Session) (l : Ledger) (now deadline : Nat) : Outcome :=
  match s.items with
  | .packet (.connack sessionPresent code) :: rest =>
    let s := { s with items := rest }
    if code = .accepted then s.enter l now sessionPresent else s.fail l (.connectionRefused code)
  | _ :: rest => { s with items := rest }.fail l .protocolError
  | [] =>
    if deadline ≤ now then s.fail l .connectionTimeout
    else s.goto l (.awaitingAnswer deadline) [.read (deadline - now)]

/-- Takes what a read brought. Bytes that are not well-formed end the connection. -/
def receive (s : Session) (l : Ledger) (next : Phase) (result : Except Error Bytes) : Outcome :=
  match result with
  | .error e => s.fail l e
  | .ok [] => s.goto l next []
  | .ok bytes =>
    let (decoder, items, result) := s.decoder.feed bytes
    let s := { s with decoder, items := s.items ++ items }
    match result with
    | .ok () => s.goto l next []
    | .error e => s.fail l e

/-- Acknowledges a message as its level asks, and tells of it after that. -/
def acknowledge (s : Session) (l : Ledger) (p : Publish) (e : Event) : Outcome :=
  match p.qos with
  | .atMostOnce => s.goto l .handling [.tell e]
  | .atLeastOnce => s.send l (.response (some e)) (.puback p.packetId)
  | .exactlyOnce => s.send l (.response (some e)) (.pubrec p.packetId)

/-- An acknowledgement came: tells of the operation that it completes, if there is one. -/
def settle (s : Session) (l : Ledger) (kind : PacketType) (packetId : UInt16) (e : Event) :
    Outcome :=
  match l.resolve kind packetId with
  | (l, true) => s.goto l .handling [.tell e]
  | (l, false) => s.goto l .handling []

def arrival (p : Publish) (data : Bytes) (offset total : Nat) : Event :=
  .data ⟨p.packetId, p.topic, p.qos, p.retain, p.duplicate, data, offset, total⟩

def handle (s : Session) (l : Ledger) : DecodedItem → Outcome
  | .chunk c =>
    let e := arrival c.publish c.data c.offset c.total
    if c.offset = 0 then s.acknowledge l c.publish e else s.goto l .handling [.tell e]
  | .packet (.publish p) => s.acknowledge l p (arrival p p.payload 0 p.payload.length)
  | .packet (.puback i) => s.settle l .publish i (.published i)
  | .packet (.pubrec i) =>
    match s.encode (.pubrel i) with
    | .ok bytes => s.write (l.advanceToPubrel i bytes).1 (.response none) bytes
    | .error e => s.fail l e
  | .packet (.pubrel i) => s.send l (.response none) (.pubcomp i)
  | .packet (.pubcomp i) => s.settle l .pubrel i (.published i)
  | .packet (.suback i codes) => s.settle l .subscribe i (.subscribed i codes)
  | .packet (.unsuback i) => s.settle l .unsubscribe i (.unsubscribed i)
  | .packet .pingreq => s.send l (.response none) .pingresp
  | .packet .pingresp => s.goto l .handling []
  | .packet _ => s.fail l .unexpectedPacket

/-- The longest wait for bytes while connected. -/
def longestRead : Nat := 1000

/-- With nothing left to handle: pings when that is due, and else waits for bytes until it is. -/
def listen (s : Session) (l : Ledger) (now : Nat) : Outcome :=
  let l := l.evictStale now
  let since := now - s.lastPing
  if s.pingInterval < since then s.send l .ping .pingreq
  else s.goto l .listening [.read (min (max (s.pingInterval - since) 1) longestRead)]

/-- The write for a purpose was done. -/
def wrote (s : Session) (l : Ledger) (now : Nat) : Purpose → Outcome
  | .greeting => s.goto l (.greeting (now + s.config.networkTimeout)) []
  | .request r => s.goto l .serving [.answer r.ticket (.ok ())]
  | .ping => { s with lastPing := now }.goto l .serving []
  | .response (some e) => s.goto l .handling [.tell e]
  | .response none => s.goto l .handling []
  | .farewell => s.goto l (.leaving .stopped) [.close]

/-- The write for a purpose failed. -/
def writeFailed (s : Session) (l : Ledger) (e : Error) : Purpose → Outcome
  | .request r =>
    let o := s.fail (l.forget r.kind r.packetId) e
    { o with effects := .answer r.ticket (.error e) :: o.effects }
  | .farewell => s.goto l (.leaving .stopped) [.close]
  | _ => s.fail l e

/-- Tells what ended the connection. -/
def tellFailure (s : Session) (l : Ledger) : Outcome :=
  let e := s.lastError.getD .connectionClosed
  s.goto { l with state := .waitTimeout } .retrying
    ((if e.isProtocolFailure then [.tell (.failure e)] else []) ++ [.tell (.disconnected e)])

/-- The pause between two attempts is over. -/
def reopen (s : Session) (l : Ledger) : Outcome := s.goto { l with state := .init } .opening []

/-- One step. A session that is woken by something it does not wait for stays as it is. -/
def step (s : Session) (l : Ledger) (now : Nat) (stopRequested : Bool) (w : Wake) : Outcome :=
  match s.phase, w with
  | .opening, .run => s.attempt l stopRequested
  | .connecting, .stop => s.goto l (.leaving .stopped) []
  | .connecting, .connected (.ok ()) => s.send l .greeting (.connect s.config.toConnect)
  | .connecting, .connected (.error e) => s.fail l e
  | .writing purpose, .written (.ok ()) => s.wrote l now purpose
  | .writing purpose, .written (.error e) => s.writeFailed l e purpose
  | .greeting deadline, .run => s.greet l now deadline
  | .awaitingAnswer _, .stop => s.goto l (.leaving .stopped) []
  | .awaitingAnswer _, .abandoned => s.goto l (.leaving .stopped) []
  | .awaitingAnswer deadline, .request r => s.reject l r (.greeting deadline)
  | .awaitingAnswer deadline, .read result => s.receive l (.greeting deadline) result
  | .serving, .run => if stopRequested then s.disconnect l else s.goto l .handling []
  | .handling, .run =>
    match s.items with
    | item :: rest => { s with items := rest }.handle l item
    | [] => s.listen l now
  | .listening, .stop => s.goto l .serving []
  | .listening, .request r => s.write l (.request r) r.packet
  | .listening, .abandoned => s.disconnect l
  | .listening, .read result => s.receive l .serving result
  | .failing, .run => s.tellFailure l
  | .retrying, .run =>
    if s.config.autoReconnect then s.goto l (.pausing (now + s.config.reconnectDelay)) []
    else s.goto l (.leaving .error) []
  | .pausing deadline, .run =>
    if stopRequested then s.goto l (.leaving .stopped) []
    else if deadline ≤ now then s.reopen l
    else s.goto l (.sleeping deadline) []
  | .sleeping _, .stop => s.goto l (.leaving .stopped) []
  | .sleeping _, .abandoned => s.goto l (.leaving .stopped) []
  | .sleeping deadline, .request r => s.reject l r (.pausing deadline)
  | .sleeping _, .elapsed => s.reopen l
  | .leaving final, .run => s.goto { l with state := final } .finished [.close]
  | _, _ => ⟨s, l, []⟩

end Session

end Mqtt
