import Mqtt.Bytes
import Mqtt.Error

/-!
Byte streams to a broker. What the calls of a stream return is read off how the stream operation
ended; `Link` is a stream with a peer at its other end, in a network that may let nothing through.
-/

namespace Mqtt
set_option autoImplicit false

/-- How a stream operation with a time limit ended. -/
inductive Completion where
  | elapsed
  | failed
  /-- With a number of bytes. -/
  | done (count : Nat)
deriving DecidableEq, Repr

namespace Completion

/-- What a read returns: no bytes when its time is over. The end of the stream is an error. -/
def readResult : Completion → Except Error Nat
  | elapsed => .ok 0
  | failed => .error .streamReadFailure
  | done 0 => .error .connectionClosed
  | done n => .ok n

/-- What a write returns. It writes everything or fails. -/
def writeResult : Completion → Except Error Nat
  | elapsed => .error .connectionTimeout
  | failed => .error .streamWriteFailure
  | done n => .ok n

end Completion

/-- The kinds of streams, by the port that each uses when none is named. -/
inductive StreamKind where
  | plain
  | secured
deriving DecidableEq, Repr

def StreamKind.defaultPort : StreamKind → UInt16
  | plain => 1883
  | secured => 8883

/-- What an attempt to connect meets. -/
inductive Answer where
  | accepts
  | refuses
  /-- Accepts and closes at once. -/
  | hangsUp
  /-- There is nobody of that name. -/
  | absent
deriving DecidableEq, Repr

/-- The other end of a connection. -/
structure Peer where
  /-- What it has sent and the link has not read. -/
  sent : Bytes := []
  /-- What the link has written and the peer has not read. -/
  unread : Bytes := []
  isClosed : Bool := false
  /-- Whether it was closed with bytes unread. -/
  isReset : Bool := false
deriving DecidableEq, Repr

structure Link where
  kind : StreamKind
  /-- Whether the network lets connections through. -/
  reaches : Bool
  isOpen : Bool := false
  /-- The peer that accepted last. -/
  peer : Option Peer := none
deriving DecidableEq, Repr

namespace Link

/-- Whether an attempt leads to a stream. A secured one needs a peer that stays. -/
def establishes (l : Link) : Answer → Bool
  | .accepts => l.reaches && l.kind = .plain
  | .hangsUp => l.reaches && l.kind = .plain
  | .refuses | .absent => false

/-- Connects anew; what was open before is closed. -/
def connect (l : Link) (answer : Answer) : Link × Except Error Unit :=
  if l.establishes answer then
    ({ l with isOpen := true, peer := some { isClosed := answer = .hangsUp } }, .ok ())
  else ({ l with isOpen := false }, .error .connectionEstablishmentFailure)

/-- Reads at most `count` bytes, without waiting. -/
def read (l : Link) (count : Nat) : Link × Except Error Bytes :=
  match l.isOpen, l.peer with
  | true, some p =>
    let front := p.sent.take count
    let completion :=
      if p.isReset then Completion.failed
      else if front.isEmpty && !p.isClosed then .elapsed
      else .done front.length
    ({ l with peer := some { p with sent := p.sent.drop count } },
      (fun _ => front) <$> completion.readResult)
  | _, _ => (l, .error .connectionClosed)

def write (l : Link) (bytes : Bytes) : Link × Except Error Nat :=
  match l.isOpen, l.peer with
  | true, some p =>
    if p.isReset then (l, Completion.failed.writeResult)
    else
      ({ l with peer := some { p with unread := p.unread ++ bytes } },
        (Completion.done bytes.length).writeResult)
  | _, _ => (l, .error .connectionClosed)

/-- The peer reads everything that was written. -/
def peerRead (l : Link) : Link × Bytes :=
  match l.peer with
  | some p => ({ l with peer := some { p with unread := [] } }, p.unread)
  | none => (l, [])

/-- The peer sends bytes; none if there is no peer. -/
def peerSend? (l : Link) (bytes : Bytes) : Option Link :=
  l.peer.map fun p => { l with peer := some { p with sent := p.sent ++ bytes } }

/-- The peer goes away. Bytes it has not read reset the connection. -/
def peerClose (l : Link) : Link :=
  { l with peer := l.peer.map fun p =>
      { p with isClosed := true, isReset := p.isReset || !p.unread.isEmpty } }

/-- Closes the stream. The peer reads what is left, and is gone. -/
def close (l : Link) : Link × Bytes :=
  let (l, rest) := l.peerRead
  ({ l with isOpen := false, peer := none }, rest)

end Link

end Mqtt
