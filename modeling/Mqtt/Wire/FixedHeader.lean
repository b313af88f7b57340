import Mqtt.PacketType
import Mqtt.QoS
import Mqtt.Wire.VarLength

/-!
What the first bytes of a packet reveal before its body is complete: kind, flags, length, and the
packet id as soon as the bytes reach it. Nothing past the announced length is looked at.
-/

namespace Mqtt
set_option autoImplicit false

structure FixedHeader where
  type : PacketType
  /-- The low half of the first byte. -/
  flags : UInt8
  qos : QoS
  duplicate : Bool
  retain : Bool
  packetId : Option UInt16
  remainingLength : Nat
  headerLength : Nat
deriving DecidableEq, Repr

namespace FixedHeader

def totalLength (h : FixedHeader) : Nat := h.headerLength + h.remainingLength

/-- Whether a packet of this kind may carry these flags. -/
def flagsAllowed (type : PacketType) (flags : UInt8) : Bool :=
  match type with
  | .publish => (flags >>> 1) &&& 3 ≠ 3
  | t => flags = t.fixedFlags

/-- The number at the start of a body, once both its bytes are there. -/
def leadingId : Bytes → Option UInt16
  | hi :: lo :: _ => some (Bytes.toUInt16 hi lo)
  | _ => none

/-- The packet id in a body of which `body` is the beginning. -/
def packetIdIn (type : PacketType) (qos : QoS) (body : Bytes) : Option UInt16 :=
  match type with
  | .publish =>
    if qos = .atMostOnce then none
    else (leadingId body).bind fun n => leadingId (body.drop (n.toNat + 2))
  | .puback | .pubrec | .pubrel | .pubcomp | .subscribe | .suback | .unsubscribe
  | .unsuback => leadingId body
  | _ => none

/-- The header at the start of some bytes; none while they do not hold all of it. -/
def decode : Bytes → Except Error (Option FixedHeader)
  | [] => .ok none
  | first :: rest => do
    let type ← PacketType.ofCode (first >>> 4)
    let flags := first &&& 0x0f
    if ¬ flagsAllowed type flags then throw .malformedPacket
    match ← VarLength.decode rest with
    | .incomplete => pure none
    | .value n body =>
      let isPublish : Bool := type = .publish
      let qos := if isPublish then (QoS.ofByte? ((flags >>> 1) &&& 3)).getD .atMostOnce
        else .atMostOnce
      pure <| some
        { type, flags, qos
          duplicate := isPublish && flags &&& 8 ≠ 0
          retain := isPublish && flags &&& 1 ≠ 0
          packetId := packetIdIn type qos (body.take n)
          remainingLength := n
          headerLength := 1 + (rest.length - body.length) }

end FixedHeader

end Mqtt
