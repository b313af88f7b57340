import Mqtt.Error

/-! The three delivery levels of a message. -/

namespace Mqtt
set_option autoImplicit false

inductive QoS where
  | atMostOnce
  | atLeastOnce
  | exactlyOnce
deriving DecidableEq, Repr, Inhabited

namespace QoS

def toByte : QoS → UInt8
  | atMostOnce => 0
  | atLeastOnce => 1
  | exactlyOnce => 2

def ofByte? (b : UInt8) : Option QoS :=
  match b.toNat with
  | 0 => some atMostOnce
  | 1 => some atLeastOnce
  | 2 => some exactlyOnce
  | _ => none

def ofByte (b : UInt8) : Except Error QoS :=
  match ofByte? b with
  | some q => .ok q
  | none => .error .invalidQos

def name : QoS → String
  | atMostOnce => "AtMostOnce"
  | atLeastOnce => "AtLeastOnce"
  | exactlyOnce => "ExactlyOnce"

/-- The level as a packet's text shows it. -/
def text : QoS → String
  | atMostOnce => "AtMostOnce (0)"
  | atLeastOnce => "AtLeastOnce (1)"
  | exactlyOnce => "ExactlyOnce (2)"

theorem ofByte?_toByte (q : QoS) : ofByte? q.toByte = some q := by cases q <;> rfl

end QoS

end Mqtt
