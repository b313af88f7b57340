import Mqtt.Wire.Encoding

/-!
Outbound packets within a size limit, and the numbering of those that will be acknowledged. An id
is used up only by a packet that was encoded, so a failing call leaves the encoder as it was.
-/

namespace Mqtt
set_option autoImplicit false

namespace PacketId

/-- The id after `i`: ids count up, and 65535 is followed by 1. -/
def next (i : UInt16) : UInt16 := if i + 1 = 0 then 1 else i + 1

/-- The id reached from `i` after `n` steps. -/
def advance (i : UInt16) : Nat → UInt16
  | 0 => i
  | n + 1 => advance (next i) n

theorem next_ne_zero (i : UInt16) : next i ≠ 0 := by
  unfold next
  split
  · decide
  · assumption

end PacketId

/-- An encoded packet and its id; 0 where it has none. -/
structure Outgoing where
  bytes : Bytes
  packetId : UInt16
deriving DecidableEq, Repr, Inhabited

structure Encoder where
  /-- The id handed out last; 0 at first. -/
  lastId : UInt16
  /-- The longest packet that is encoded, in bytes. -/
  bufferSize : Nat
deriving DecidableEq, Repr, Inhabited

namespace Encoder

def new (bufferSize : Nat) : Encoder := ⟨0, bufferSize⟩

def nextId (e : Encoder) : UInt16 := PacketId.next e.lastId

def encode (e : Encoder) (p : Packet) : Except Error Bytes := do
  let bs ← p.encode
  if bs.length ≤ e.bufferSize then pure bs else throw .encodeBufferTooSmall

/-- Encodes a packet that is built around the next id, and uses the id up if that succeeds. -/
def numbered (e : Encoder) (p : UInt16 → Packet) : Encoder × Except Error Outgoing :=
  match e.encode (p e.nextId) with
  | .ok bs => ({ e with lastId := e.nextId }, .ok ⟨bs, e.nextId⟩)
  | .error err => (e, .error err)

/-- A PUBLISH; at QoS 0 it has no id. -/
def publish (e : Encoder) (topic : String) (payload : Bytes) (qos : QoS) (retain duplicate : Bool) :
    Encoder × Except Error Outgoing :=
  let message (i : UInt16) := Packet.publish ⟨i, topic, qos, duplicate, retain, payload⟩
  if qos = .atMostOnce then (e, (⟨·, 0⟩) <$> e.encode (message 0)) else e.numbered message

def subscribe (e : Encoder) (filter : String) (qos : QoS) : Encoder × Except Error Outgoing :=
  e.numbered fun i => .subscribe i [⟨filter, qos⟩]

def unsubscribe (e : Encoder) (filter : String) : Encoder × Except Error Outgoing :=
  e.numbered fun i => .unsubscribe i [filter]

end Encoder

end Mqtt
