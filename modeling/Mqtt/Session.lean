import Mqtt.Event
import Mqtt.Ledger
import Mqtt.Wire.Decoder

/-!
A session: the life of a client's connections, from one attempt to the next. A session moves in
small steps. In most of its phases it goes on by itself; in the others it waits, and what wakes it
decides the step. What a step asks of the world is listed as effects.
-/

namespace Mqtt
set_option autoImplicit false

/-- A packet that a caller wants written. -/
structure Request where
  packet : Bytes
  kind : PacketType
  /-- 0 for a message that is not tracked. -/
  packetId : UInt16
  /-- Names the caller who waits for the answer. -/
  ticket : Nat
deriving DecidableEq, Repr

/-- What a packet is written for, and so what follows the write. -/
inductive Purpose where
  | greeting
  | request (r : Request)
  | ping
  /-- A response to a packet; an event may be held back until it is written. -/
  | response (event : Option Event)
  | farewell
deriving DecidableEq, Repr

inductive Phase where
  /-- An attempt to connect begins. -/
  | opening
  /-- Waits for the transport to connect. -/
  | connecting
  /-- Waits for the transport to write. -/
  | writing (purpose : Purpose)
  /-- Wants the broker's answer to the greeting before the deadline. -/
  | greeting (deadline : Nat)
  /-- Waits for bytes that hold the broker's answer. -/
  | awaitingAnswer (deadline : Nat)
  /-- Connected, and about to look whether to stop. -/
  | serving
  /-- Connected, and busy with what was received. -/
  | handling
  /-- Connected, and waits for bytes or requests. -/
  | listening
  /-- The connection was closed after an error. -/
  | failing
  /-- The error was told; decides whether to try again. -/
  | retrying
  /-- Will try again at the deadline. -/
  | pausing (deadline : Nat)
  /-- Waits for the deadline. -/
  | sleeping (deadline : Nat)
  /-- Ends in a state. -/
  | leaving (final : SessionState)
  | finished
  /-- A callback failed and took the session with it. -/
  | crashed
deriving DecidableEq, Repr

namespace Phase

/-- Whether the session goes on by itself. -/
def isRunnable : Phase → Bool
  | opening | greeting _ | serving | handling | failing | retrying | pausing _ | leaving _ => true
  | _ => false

def isOver : Phase → Bool
  | finished | crashed => true
  | _ => false

end Phase

/-- What makes a session move. -/
inductive Wake where
  /-- It goes on by itself. -/
  | run
  /-- A stop was asked for. -/
  | stop
  | request (r : Request)
  /-- Nobody is left who could make a request. -/
  | abandoned
  | connected (result : Except Error Unit)
  | written (result : Except Error Unit)
  /-- Bytes were read; none if the time for it has passed. -/
  | read (result : Except Error Bytes)
  /-- A deadline has come. -/
  | elapsed
deriving Repr

/-- Whether a session in this phase waits for this. -/
def Phase.accepts : Phase → Wake → Bool
  | .connecting, .stop | .connecting, .connected _ => true
  | .writing _, .written _ => true
  | .awaitingAnswer _, .stop | .awaitingAnswer _, .request _ => true
  | .awaitingAnswer _, .abandoned | .awaitingAnswer _, .read _ => true
  | .listening, .stop | .listening, .request _ => true
  | .listening, .abandoned | .listening, .read _ => true
  | .sleeping _, .stop | .sleeping _, .request _ => true
  | .sleeping _, .abandoned | .sleeping _, .elapsed => true
  | phase, .run => phase.isRunnable
  | _, _ => false

/-- What a session asks of the world. Events come last among the effects of a step, so that a
callback that fails cuts nothing off but events. -/
inductive Effect where
  | connect (host : String) (port : UInt16) (timeout : Nat)
  | write (bytes : Bytes) (timeout : Nat)
  | read (timeout : Nat)
  | close
  | answer (ticket : Nat) (result : Except Error Unit)
  | tell (e : Event)
deriving Repr

structure Session where
  config : Config
  /-- The port that is connected to. -/
  port : UInt16
  phase : Phase
  decoder : Decoder
  /-- Received and not yet handled, oldest first. -/
  items : List DecodedItem
  /-- When the broker was last pinged, or the connection began. -/
  lastPing : Nat
  /-- The first error of this connection. -/
  lastError : Option Error
deriving Repr

namespace Session

def new (config : Config) (defaultPort : UInt16) : Session :=
  { config, port := if config.port = 0 then defaultPort else config.port, phase := .opening
    decoder := .new config.bufferSize, items := [], lastPing := 0, lastError := none }

/-- Half the keep alive, in milliseconds: after this time without a ping, one is due. -/
def pingInterval (s : Session) : Nat := s.config.keepAlive.toNat * 500

def encode (s : Session) (p : Packet) : Except Error Bytes :=
  (Encoder.new s.config.bufferSize).encode p

end Session

end Mqtt
