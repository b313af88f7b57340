/-!
The one-byte answers of a broker: to a connection attempt, and to each filter of a subscription.
Both code tables are partial maps from bytes, with `toByte` as their inverse.
-/

namespace Mqtt
set_option autoImplicit false

inductive ConnectReturnCode where
  | accepted
  | unacceptableProtocolVersion
  | identifierRejected
  | serverUnavailable
  | badUsernameOrPassword
  | notAuthorized
deriving DecidableEq, Repr, Inhabited

namespace ConnectReturnCode

def toByte : ConnectReturnCode → UInt8
  | accepted => 0
  | unacceptableProtocolVersion => 1
  | identifierRejected => 2
  | serverUnavailable => 3
  | badUsernameOrPassword => 4
  | notAuthorized => 5

def ofByte? (b : UInt8) : Option ConnectReturnCode :=
  match b.toNat with
  | 0 => some accepted
  | 1 => some unacceptableProtocolVersion
  | 2 => some identifierRejected
  | 3 => some serverUnavailable
  | 4 => some badUsernameOrPassword
  | 5 => some notAuthorized
  | _ => none

def name : ConnectReturnCode → String
  | accepted => "Accepted"
  | unacceptableProtocolVersion => "UnacceptableProtocolVersion"
  | identifierRejected => "IdentifierRejected"
  | serverUnavailable => "ServerUnavailable"
  | badUsernameOrPassword => "BadUsernameOrPassword"
  | notAuthorized => "NotAuthorized"

def all : List ConnectReturnCode :=
  [accepted, unacceptableProtocolVersion, identifierRejected, serverUnavailable,
    badUsernameOrPassword, notAuthorized]

theorem ofByte?_toByte (c : ConnectReturnCode) : ofByte? c.toByte = some c := by
  cases c <;> rfl

end ConnectReturnCode

inductive SubscribeReturnCode where
  | grantedQos0
  | grantedQos1
  | grantedQos2
  | failure
deriving DecidableEq, Repr, Inhabited

namespace SubscribeReturnCode

def toByte : SubscribeReturnCode → UInt8
  | grantedQos0 => 0
  | grantedQos1 => 1
  | grantedQos2 => 2
  | failure => 0x80

def ofByte? (b : UInt8) : Option SubscribeReturnCode :=
  match b.toNat with
  | 0 => some grantedQos0
  | 1 => some grantedQos1
  | 2 => some grantedQos2
  | 128 => some failure
  | _ => none

def name : SubscribeReturnCode → String
  | grantedQos0 => "GrantedQos0"
  | grantedQos1 => "GrantedQos1"
  | grantedQos2 => "GrantedQos2"
  | failure => "Failure"

def all : List SubscribeReturnCode := [grantedQos0, grantedQos1, grantedQos2, failure]

/-- A list of codes as it is shown: names in brackets, separated by commas. -/
def listText (codes : List SubscribeReturnCode) : String :=
  "[" ++ String.intercalate ", " (codes.map name) ++ "]"

theorem ofByte?_toByte (c : SubscribeReturnCode) : ofByte? c.toByte = some c := by
  cases c <;> rfl

end SubscribeReturnCode

end Mqtt
