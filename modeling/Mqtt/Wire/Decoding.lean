import Mqtt.Packet
import Mqtt.Wire.Field

/-!
Packets from bytes: `Packet.decode` takes a first byte and a complete body, and accepts only bodies
that are used up exactly. The header of a PUBLISH can also be read off an unfinished body.
-/

namespace Mqtt
set_option autoImplicit false

namespace Connect

def willReader (flags : UInt8) : Reader (Option LastWill) := do
  if flags &&& 0x04 ≠ 0 then
    match QoS.ofByte? ((flags >>> 3) &&& 3) with
    | none => throw .malformedPacket
    | some qos =>
      let topic ← Reader.text
      let payload ← Reader.sized
      pure (some ⟨topic, payload, qos, flags &&& 0x20 ≠ 0⟩)
  else
    Reader.require (flags &&& 0x38 = 0)
    pure none

/-- A value that is there exactly when its flag is set. -/
def optional {α : Type} (present : Bool) (r : Reader α) : Reader (Option α) := do
  if present then
    let x ← r
    pure (some x)
  else pure none

def reader : Reader Connect := do
  let name ← Reader.text
  Reader.require (name = "MQTT")
  let level ← Reader.byte
  Reader.require (level = 4)
  let flags ← Reader.byte
  Reader.require (flags &&& 0x01 = 0)
  let keepAlive ← Reader.uint16
  let clientId ← Reader.text
  let will ← willReader flags
  let username ← optional (flags &&& 0x80 ≠ 0) Reader.text
  let password ← optional (flags &&& 0x40 ≠ 0) Reader.sized
  Reader.finish
  pure ⟨clientId, keepAlive, flags &&& 0x02 ≠ 0, username, password, will⟩

end Connect

namespace Publish

/-- How many bytes a header has that begins so, or has at least while its topic's length has not
come. -/
def headerSize (first : UInt8) : Bytes → Nat
  | hi :: lo :: _ => 2 + (Bytes.toUInt16 hi lo).toNat + if (first >>> 1) &&& 3 = 0 then 0 else 2
  | _ => 2

/-- The header of a PUBLISH and how many bytes of the body it takes; none while the bytes do not
hold all of it. The payload of the result is empty. -/
def decodeHeader (first : UInt8) (bs : Bytes) : Except Error (Option (Publish × Nat)) :=
  if first >>> 4 ≠ 3 then .error .malformedPacket
  else
    match QoS.ofByte? ((first >>> 1) &&& 3) with
    | none => .error .malformedPacket
    | some qos =>
      let duplicate : Bool := first &&& 8 ≠ 0
      if qos = .atMostOnce ∧ duplicate then .error .malformedPacket
      else
        let size := headerSize first bs
        if (bs.take size).length < size then .ok none
        else do
          let (topic, rest) ← Reader.text bs
          let retain : Bool := first &&& 1 ≠ 0
          if qos = .atMostOnce then
            .ok (some (⟨0, topic, qos, duplicate, retain, []⟩, size))
          else
            let (packetId, _) ← Reader.uint16 rest
            if packetId = 0 then .error .malformedPacket
            else .ok (some (⟨packetId, topic, qos, duplicate, retain, []⟩, size))

def decode (first : UInt8) (body : Bytes) : Except Error Publish :=
  match decodeHeader first body with
  | .ok (some (p, length)) => .ok { p with payload := body.drop length }
  | .ok none => .error .malformedPacket
  | .error e => .error e

end Publish

namespace Packet

def connackReader : Reader Packet := do
  let flags ← Reader.byte
  Reader.require (flags &&& 0xfe = 0)
  let code ← Reader.byte
  Reader.finish
  match ConnectReturnCode.ofByte? code with
  | some c => pure (.connack (flags ≠ 0) c)
  | none => throw .malformedPacket

/-- A body that is nothing but a packet id. -/
def idReader : Reader UInt16 := do
  let i ← Reader.uint16
  Reader.finish
  pure i

def subscriptionReader : Reader Subscription := do
  let filter ← Reader.text
  let b ← Reader.byte
  match QoS.ofByte? b with
  | some qos => pure ⟨filter, qos⟩
  | none => throw .malformedPacket

def subscribeReader : Reader Packet := do
  let i ← Reader.uint16
  Reader.require (!(← get).isEmpty)
  let subs ← Reader.many subscriptionReader
  pure (.subscribe i subs)

def codeOf (b : UInt8) : Except Error SubscribeReturnCode :=
  match SubscribeReturnCode.ofByte? b with
  | some c => .ok c
  | none => .error .malformedPacket

def subackReader : Reader Packet := do
  let i ← Reader.uint16
  let bs ← Reader.remainder
  let codes ← (bs.mapM codeOf : Except Error (List SubscribeReturnCode))
  pure (.suback i codes)

def unsubscribeReader : Reader Packet := do
  let i ← Reader.uint16
  Reader.require (!(← get).isEmpty)
  let filters ← Reader.many Reader.text
  pure (.unsubscribe i filters)

/-- The body of a packet without fields. -/
def emptyReader (p : Packet) : Reader Packet := do
  Reader.finish
  pure p

/-- The packet with this first byte and exactly this body. -/
def decode (first : UInt8) (body : Bytes) : Except Error Packet :=
  match PacketType.ofCode? (first >>> 4) with
  | none => .error .malformedPacket
  | some t =>
    if t ≠ .publish ∧ first ≠ t.firstByte then .error .malformedPacket
    else
      match t with
      | .connect => Packet.connect <$> Reader.whole Connect.reader body
      | .connack => Reader.whole connackReader body
      | .publish => Packet.publish <$> Publish.decode first body
      | .puback => Packet.puback <$> Reader.whole idReader body
      | .pubrec => Packet.pubrec <$> Reader.whole idReader body
      | .pubrel => Packet.pubrel <$> Reader.whole idReader body
      | .pubcomp => Packet.pubcomp <$> Reader.whole idReader body
      | .subscribe => Reader.whole subscribeReader body
      | .suback => Reader.whole subackReader body
      | .unsubscribe => Reader.whole unsubscribeReader body
      | .unsuback => Packet.unsuback <$> Reader.whole idReader body
      | .pingreq => Reader.whole (emptyReader .pingreq) body
      | .pingresp => Reader.whole (emptyReader .pingresp) body
      | .disconnect => Reader.whole (emptyReader .disconnect) body

end Packet

end Mqtt
