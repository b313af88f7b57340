import Mqtt.Error

/-! The fourteen kinds of control packet, numbered by the high half of a packet's first byte. -/

namespace Mqtt
set_option autoImplicit false

inductive PacketType where
  | connect
  | connack
  | publish
  | puback
  | pubrec
  | pubrel
  | pubcomp
  | subscribe
  | suback
  | unsubscribe
  | unsuback
  | pingreq
  | pingresp
  | disconnect
deriving DecidableEq, Repr, Inhabited

namespace PacketType

def all : List PacketType :=
  [connect, connack, publish, puback, pubrec, pubrel, pubcomp, subscribe, suback, unsubscribe,
    unsuback, pingreq, pingresp, disconnect]

def code : PacketType → UInt8
  | connect => 1
  | connack => 2
  | publish => 3
  | puback => 4
  | pubrec => 5
  | pubrel => 6
  | pubcomp => 7
  | subscribe => 8
  | suback => 9
  | unsubscribe => 10
  | unsuback => 11
  | pingreq => 12
  | pingresp => 13
  | disconnect => 14

def ofCode? (b : UInt8) : Option PacketType :=
  match b.toNat with
  | 1 => some connect
  | 2 => some connack
  | 3 => some publish
  | 4 => some puback
  | 5 => some pubrec
  | 6 => some pubrel
  | 7 => some pubcomp
  | 8 => some subscribe
  | 9 => some suback
  | 10 => some unsubscribe
  | 11 => some unsuback
  | 12 => some pingreq
  | 13 => some pingresp
  | 14 => some disconnect
  | _ => none

def ofCode (b : UInt8) : Except Error PacketType :=
  match ofCode? b with
  | some t => .ok t
  | none => .error .malformedPacket

/-- The flags that the low half of the first byte must hold; a PUBLISH chooses its own. -/
def fixedFlags : PacketType → UInt8
  | pubrel | subscribe | unsubscribe => 2
  | _ => 0

/-- The first byte of a packet of this kind, a PUBLISH apart. -/
def firstByte (t : PacketType) : UInt8 := (t.code <<< 4) ||| t.fixedFlags

def name : PacketType → String
  | connect => "Connect"
  | connack => "Connack"
  | publish => "Publish"
  | puback => "Puback"
  | pubrec => "Pubrec"
  | pubrel => "Pubrel"
  | pubcomp => "Pubcomp"
  | subscribe => "Subscribe"
  | suback => "Suback"
  | unsubscribe => "Unsubscribe"
  | unsuback => "Unsuback"
  | pingreq => "Pingreq"
  | pingresp => "Pingresp"
  | disconnect => "Disconnect"

def text : PacketType → String
  | connect => "CONNECT"
  | connack => "CONNACK"
  | publish => "PUBLISH"
  | puback => "PUBACK"
  | pubrec => "PUBREC"
  | pubrel => "PUBREL"
  | pubcomp => "PUBCOMP"
  | subscribe => "SUBSCRIBE"
  | suback => "SUBACK"
  | unsubscribe => "UNSUBSCRIBE"
  | unsuback => "UNSUBACK"
  | pingreq => "PINGREQ"
  | pingresp => "PINGRESP"
  | disconnect => "DISCONNECT"

theorem ofCode?_code (t : PacketType) : ofCode? t.code = some t := by cases t <;> rfl

end PacketType

end Mqtt
