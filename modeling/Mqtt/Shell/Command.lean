import Mqtt.QoS
import Mqtt.Shell.Options
import Mqtt.Text.Blank

/-!
The commands of the shell: words on a line, the first of them the command's name in letters of
either case.
-/

namespace Mqtt.Shell
set_option autoImplicit false

inductive Command where
  | nothing
  | start
  | stop
  | quit
  | publish (topic : String) (qos : QoS) (payload : String)
  /-- A message whose level is not one. -/
  | invalidQos (word : String)
  | subscribe (filter : String) (qos : QoS)
  | unsubscribe (filter : String)
  | help
deriving DecidableEq, Repr

namespace Command

def parseQos (word : String) : Option QoS :=
  match parseNumber 255 word with
  | .ok n => QoS.ofByte? n.toUInt8
  | .error _ => none

def ofPublish (topic qos payload : String) : Command :=
  match parseQos qos with
  | some q => publish topic q payload
  | none => invalidQos qos

/-- The command of a line. A subscription whose level is not one asks for the lowest. -/
def parse (line : String) : Command :=
  match Text.words line with
  | [] => nothing
  | name :: arguments =>
    match name.map Char.toLower, arguments with
    | "start", _ => start
    | "stop", _ => stop
    | "quit", _ => quit
    | "publish", [topic, qos] => ofPublish topic qos ""
    | "publish", [topic, qos, payload] => ofPublish topic qos payload
    | "subscribe", [filter] => subscribe filter .atMostOnce
    | "subscribe", [filter, qos] => subscribe filter ((parseQos qos).getD .atMostOnce)
    | "unsubscribe", [filter] => unsubscribe filter
    | _, _ => help

end Command

end Mqtt.Shell
