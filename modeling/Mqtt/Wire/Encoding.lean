import Mqtt.Packet
import Mqtt.Wire.Field
import Mqtt.Wire.VarLength

/-!
Packets as bytes: a first byte, the length of what follows, and the fields of the body. The length
is computed from the packet before any field is written.
-/

namespace Mqtt
set_option autoImplicit false

/-- The first byte of a PUBLISH: its kind, and its delivery flags in the low half. -/
def Publish.firstByte (qos : QoS) (duplicate retain : Bool) : UInt8 :=
  (0x30 : UInt8) ||| (if duplicate then (8 : UInt8) else 0) ||| (qos.toByte <<< 1)
    ||| (if retain then (1 : UInt8) else 0)

namespace Connect

/-- Which optional parts follow, and how the session starts. -/
def flags (c : Connect) : UInt8 :=
  (if c.cleanSession then (0x02 : UInt8) else 0)
  ||| (match c.will with
    | some w => (0x04 : UInt8) ||| (w.qos.toByte <<< 3) ||| (if w.retain then (0x20 : UInt8) else 0)
    | none => 0)
  ||| (if c.password.isSome then (0x40 : UInt8) else 0)
  ||| (if c.username.isSome then (0x80 : UInt8) else 0)

def protocolName : String := "MQTT"

def protocolLevel : UInt8 := 4

def fields (c : Connect) : List Field :=
  [.text protocolName, .byte protocolLevel, .byte c.flags, .uint16 c.keepAlive, .text c.clientId]
  ++ (match c.will with
    | some w => [.text w.topic, .sized w.payload]
    | none => [])
  ++ (c.username.map Field.text).toList
  ++ (c.password.map Field.sized).toList

def remainingLength (c : Connect) : Nat :=
  10 + (2 + c.clientId.utf8ByteSize)
  + (match c.will with
    | some w => (2 + w.topic.utf8ByteSize) + (2 + w.payload.length)
    | none => 0)
  + (match c.username with
    | some u => 2 + u.utf8ByteSize
    | none => 0)
  + (match c.password with
    | some p => 2 + p.length
    | none => 0)

end Connect

namespace Packet

def firstByte : Packet → UInt8
  | publish p => Publish.firstByte p.qos p.duplicate p.retain
  | p => p.type.firstByte

def fields : Packet → List Field
  | connect c => c.fields
  | connack present code => [.byte (if present then 1 else 0), .byte code.toByte]
  | publish p =>
    if p.qos = .atMostOnce then [.text p.topic, .plain p.payload]
    else [.text p.topic, .uint16 p.packetId, .plain p.payload]
  | puback i | pubrec i | pubrel i | pubcomp i | unsuback i => [.uint16 i]
  | subscribe i subs => .uint16 i :: subs.flatMap fun s => [.text s.filter, .byte s.qos.toByte]
  | suback i codes => [.uint16 i, .plain (codes.map SubscribeReturnCode.toByte)]
  | unsubscribe i filters => .uint16 i :: filters.map Field.text
  | pingreq | pingresp | disconnect => []

/-- How many bytes follow the length field. -/
def remainingLength : Packet → Nat
  | connect c => c.remainingLength
  | connack _ _ => 2
  | publish p =>
    2 + p.topic.utf8ByteSize + (if p.qos = .atMostOnce then 0 else 2) + p.payload.length
  | puback _ | pubrec _ | pubrel _ | pubcomp _ | unsuback _ => 2
  | subscribe _ subs => 2 + (subs.map fun s => 2 + s.filter.utf8ByteSize + 1).foldr (· + ·) 0
  | suback _ codes => 2 + codes.length
  | unsubscribe _ filters => 2 + (filters.map fun f => 2 + f.utf8ByteSize).foldr (· + ·) 0
  | pingreq | pingresp | disconnect => 0

/-- Appends the packet to a buffer. A failure leaves in the buffer what was written before it. -/
def writeTo (p : Packet) (buffer : Bytes) : Bytes × Except Error Unit :=
  match VarLength.encode p.remainingLength with
  | .error e => (buffer ++ [p.firstByte], .error e)
  | .ok length =>
    let (body, result) := Field.encodeAll p.fields
    (buffer ++ p.firstByte :: (length ++ body), result)

def encode (p : Packet) : Except Error Bytes :=
  match p.writeTo [] with
  | (bs, .ok ()) => .ok bs
  | (_, .error e) => .error e

end Packet

end Mqtt
