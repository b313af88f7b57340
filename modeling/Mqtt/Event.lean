import Mqtt.Packet

/-! What a client tells its listeners. -/

namespace Mqtt
set_option autoImplicit false

/-- Payload of a message, or a piece of it: `offset` is its place in a message of `total` bytes. -/
structure Arrival where
  packetId : UInt16
  topic : String
  qos : QoS
  retain : Bool
  duplicate : Bool
  payload : Bytes
  offset : Nat
  total : Nat
deriving DecidableEq, Repr

inductive Event where
  | connected (sessionPresent : Bool)
  /-- What ended a connection, or an attempt at one. -/
  | disconnected (error : Error)
  /-- The peer broke the protocol or refused; a disconnection follows. -/
  | failure (error : Error)
  | subscribed (packetId : UInt16) (codes : List SubscribeReturnCode)
  | unsubscribed (packetId : UInt16)
  | published (packetId : UInt16)
  | data (a : Arrival)
deriving DecidableEq, Repr

end Mqtt
