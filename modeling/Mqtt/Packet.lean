import Mqtt.Bytes
import Mqtt.PacketType
import Mqtt.QoS

/-!
The control packets of MQTT 3.1.1 as data. A packet's kind says which fields it has;
`packetId?` is the id that the packet carries on the wire.
-/

namespace Mqtt
set_option autoImplicit false

/-- The message that the broker sends in the client's name when the connection is lost. -/
structure LastWill where
  topic : String
  payload : Bytes
  qos : QoS
  retain : Bool
deriving DecidableEq, Repr, Inhabited

structure Connect where
  clientId : String
  keepAlive : UInt16
  cleanSession : Bool
  username : Option String
  password : Option Bytes
  will : Option LastWill
deriving DecidableEq, Repr, Inhabited

structure Publish where
  packetId : UInt16
  topic : String
  qos : QoS
  duplicate : Bool
  retain : Bool
  payload : Bytes
deriving DecidableEq, Repr, Inhabited

structure Subscription where
  filter : String
  qos : QoS
deriving DecidableEq, Repr, Inhabited

inductive Packet where
  | connect (c : Connect)
  | connack (sessionPresent : Bool) (code : ConnectReturnCode)
  | publish (p : Publish)
  | puback (packetId : UInt16)
  | pubrec (packetId : UInt16)
  | pubrel (packetId : UInt16)
  | pubcomp (packetId : UInt16)
  | subscribe (packetId : UInt16) (subscriptions : List Subscription)
  | suback (packetId : UInt16) (codes : List SubscribeReturnCode)
  | unsubscribe (packetId : UInt16) (filters : List String)
  | unsuback (packetId : UInt16)
  | pingreq
  | pingresp
  | disconnect
deriving DecidableEq, Repr, Inhabited

namespace Packet

def type : Packet → PacketType
  | connect _ => .connect
  | connack _ _ => .connack
  | publish _ => .publish
  | puback _ => .puback
  | pubrec _ => .pubrec
  | pubrel _ => .pubrel
  | pubcomp _ => .pubcomp
  | subscribe _ _ => .subscribe
  | suback _ _ => .suback
  | unsubscribe _ _ => .unsubscribe
  | unsuback _ => .unsuback
  | pingreq => .pingreq
  | pingresp => .pingresp
  | disconnect => .disconnect

/-- The id on the wire; a QoS 0 PUBLISH carries none. -/
def packetId? : Packet → Option UInt16
  | publish p => if p.qos = .atMostOnce then none else some p.packetId
  | puback i | pubrec i | pubrel i | pubcomp i | unsuback i => some i
  | subscribe i _ | suback i _ | unsubscribe i _ => some i
  | _ => none

end Packet

end Mqtt
