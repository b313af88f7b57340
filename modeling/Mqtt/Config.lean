import Mqtt.Packet
import Mqtt.Topic

/-!
What a client is configured with. `Settings` is what a user states, with a default for everything
but the host; `Config` is what a session uses, its client id chosen and its keep alive above zero.
Times are in milliseconds, the keep alive in seconds.
-/

namespace Mqtt
set_option autoImplicit false

structure Settings where
  host : String
  /-- 0 selects the port of the transport. -/
  port : UInt16 := 0
  clientId : Option String := none
  username : Option String := none
  password : Option Bytes := none
  will : Option LastWill := none
  /-- 0 selects the default. -/
  keepAlive : UInt16 := 120
  cleanSession : Bool := true
  autoReconnect : Bool := true
  /-- Bounds connecting, the wait for the broker's answer, and every write. -/
  networkTimeout : Nat := 10000
  reconnectDelay : Nat := 10000
  /-- The longest outbound packet, and the longest inbound body that is decoded whole. -/
  bufferSize : Nat := 1024
  /-- The age at which a waiting operation is forgotten. -/
  outboxExpiry : Nat := 30000
  /-- The count above which the oldest waiting operations are forgotten. -/
  outboxMaximumEntries : Nat := 32
  /-- The count at which further operations are rejected. -/
  outboxCapacity : Nat := 64
deriving Repr

structure Config where
  host : String
  port : UInt16
  clientId : String
  username : Option String
  password : Option Bytes
  will : Option LastWill
  keepAlive : UInt16
  cleanSession : Bool
  autoReconnect : Bool
  networkTimeout : Nat
  reconnectDelay : Nat
  bufferSize : Nat
  outboxExpiry : Nat
  outboxMaximumEntries : Nat
  outboxCapacity : Nat
deriving DecidableEq, Repr, Inhabited

namespace Config

def defaultKeepAlive : UInt16 := 120

def hexDigit (n : Nat) : Char := if n < 10 then Char.ofNat (48 + n) else Char.ofNat (87 + n)

/-- The last `k` hexadecimal digits of a number. -/
def hexDigits : Nat → Nat → List Char
  | 0, _ => []
  | k + 1, n => hexDigits k (n / 16) ++ [hexDigit (n % 16)]

def generatedIdStart : String := "mqtt3_"

/-- A client id made from a random number. -/
def generatedId (random : Nat) : String := generatedIdStart ++ String.ofList (hexDigits 12 random)

/-- Whether a client id has the form of a generated one. -/
def isGeneratedId (s : String) : Bool :=
  let digits := s.toList.drop 6
  s.toList.take 6 = generatedIdStart.toList && digits.length = 12
    && digits.all fun c => ('0' ≤ c && c ≤ '9') || ('a' ≤ c && c ≤ 'f')

def toConnect (c : Config) : Connect :=
  { clientId := c.clientId, keepAlive := c.keepAlive, cleanSession := c.cleanSession
    username := c.username, password := c.password, will := c.will }

def checkClientId (clientId : String) : Except Error Unit :=
  if Field.fits clientId then .ok () else .error .invalidClientId

/-- A password needs a username, and both have to fit in their fields. -/
def checkCredentials (username : Option String) (password : Option Bytes) : Except Error Unit :=
  let usernameFits := username.all Field.fits
  let passwordFits := password.all fun p => p.length ≤ Field.maximumSize
  let passwordAllowed := password.isNone || username.isSome
  if usernameFits && passwordFits && passwordAllowed then .ok () else .error .invalidCredentials

def checkWill (w : LastWill) : Except Error Unit := do
  Topic.check w.topic
  if w.payload.length ≤ Field.maximumSize then pure () else throw .payloadTooLarge

/-- What a client demands of its configuration. -/
def check (c : Config) : Except Error Unit := do
  checkClientId c.clientId
  checkCredentials c.username c.password
  match c.will with
  | some w => checkWill w
  | none => pure ()

end Config

/-- The configuration for these settings; `generated` is the id of a client that was given none. -/
def Settings.toConfig (s : Settings) (generated : String) : Config :=
  { host := s.host, port := s.port, clientId := s.clientId.getD generated
    username := s.username, password := s.password, will := s.will
    keepAlive := if s.keepAlive = 0 then Config.defaultKeepAlive else s.keepAlive
    cleanSession := s.cleanSession, autoReconnect := s.autoReconnect
    networkTimeout := s.networkTimeout, reconnectDelay := s.reconnectDelay
    bufferSize := s.bufferSize, outboxExpiry := s.outboxExpiry
    outboxMaximumEntries := s.outboxMaximumEntries, outboxCapacity := s.outboxCapacity }

end Mqtt
