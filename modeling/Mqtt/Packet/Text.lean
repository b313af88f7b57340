import Mqtt.Packet

/-!
The text of a packet: its name, then one indented line for each field between braces. Passwords
are never shown, and payloads only by their size.
-/

namespace Mqtt
set_option autoImplicit false

namespace Packet

/-- One field of a packet's text. -/
def fieldLine (field value : String) : String := "  " ++ field ++ ": " ++ value ++ "\n"

def sizeText (bs : Bytes) : String := "<" ++ toString bs.length ++ " Bytes>"

/-- A packet's name with its field lines between braces. -/
def block (name : String) (lines : List String) : String :=
  name ++ " \x7b\n" ++ String.join lines ++ "\x7d"

def willLines (w : LastWill) : List String :=
  [fieldLine "will_topic" w.topic, fieldLine "will_payload" (sizeText w.payload),
    fieldLine "will_qos" w.qos.text, fieldLine "will_retain" (toString w.retain)]

def connectLines (c : Connect) : List String :=
  [fieldLine "client_id" c.clientId,
    fieldLine "keep_alive_interval_seconds" (toString c.keepAlive.toNat),
    fieldLine "clean_session" (toString c.cleanSession)]
  ++ (c.username.map (fieldLine "username")).toList
  ++ (c.password.map fun _ => fieldLine "password" "<...redacted>").toList
  ++ (c.will.map willLines).getD []

def publishLines (p : Publish) : List String :=
  [fieldLine "packet_id" (toString p.packetId.toNat), fieldLine "topic" p.topic,
    fieldLine "qos" p.qos.text, fieldLine "duplicate" (toString p.duplicate),
    fieldLine "retain" (toString p.retain), fieldLine "payload" (sizeText p.payload)]

def idLine (i : UInt16) : String := fieldLine "packet_id" (toString i.toNat)

def text : Packet → String
  | connect c => block "ConnectPacket" (connectLines c)
  | connack present code => block "ConnackPacket"
      [fieldLine "session_present" (toString present), fieldLine "return_code" code.name]
  | publish p => block "PublishPacket" (publishLines p)
  | puback i => block "PubackPacket" [idLine i]
  | pubrec i => block "PubrecPacket" [idLine i]
  | pubrel i => block "PubrelPacket" [idLine i]
  | pubcomp i => block "PubcompPacket" [idLine i]
  | subscribe i subs => block "SubscribePacket" <| idLine i :: subs.mapIdx fun k s =>
      fieldLine ("subscription " ++ toString k) ("(" ++ s.filter ++ ", " ++ s.qos.text ++ ")")
  | suback i codes => block "SubackPacket"
      [idLine i, fieldLine "return_codes" (SubscribeReturnCode.listText codes)]
  | unsubscribe i filters => block "UnsubscribePacket" <| idLine i :: filters.mapIdx fun k f =>
      fieldLine ("topic_filter " ++ toString k) f
  | unsuback i => block "UnsubackPacket" [idLine i]
  | pingreq => "PingreqPacket \x7b\x7d"
  | pingresp => "PingrespPacket \x7b\x7d"
  | disconnect => "DisconnectPacket \x7b\x7d"

end Packet

end Mqtt
