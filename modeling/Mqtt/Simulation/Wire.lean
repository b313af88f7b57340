import Mqtt.Session

/-!
A transport whose fate is written down beforehand: how each connection attempt and each write ends,
and which messages come in. A message is handed out in pieces if a reader's buffer is small.
-/

namespace Mqtt.Simulation
set_option autoImplicit false

/-- How a call of the transport goes. -/
inductive Fate where
  | succeeds
  /-- It does not return until it is released. -/
  | hangs
  | fails (e : Error)
deriving DecidableEq, Repr

namespace Fate

/-- What the call returns; none while it hangs. -/
def result? : Fate → Option (Except Error Unit)
  | succeeds => some (.ok ())
  | hangs => none
  | fails e => some (.error e)

end Fate

structure Wire where
  isOpen : Bool := false
  /-- Messages that have come in, a failure to read among them. -/
  inbox : List (Except Error Bytes) := []
  /-- The rest of a message that did not fit the reader's buffer. -/
  leftover : Bytes := []
  /-- How the coming attempts to connect go. -/
  connects : List Fate := []
  /-- How the coming writes go. -/
  writes : List Fate := []
  /-- How an attempt to connect goes when nothing is written down for it. -/
  otherwise : Fate := .succeeds
deriving Repr

namespace Wire

/-- How the next attempt to connect goes. -/
def nextConnect (w : Wire) : Wire × Fate :=
  match w.connects with
  | f :: rest => ({ w with connects := rest }, f)
  | [] => (w, w.otherwise)

/-- How the next write goes. -/
def nextWrite (w : Wire) : Wire × Fate :=
  match w.writes with
  | f :: rest => ({ w with writes := rest }, f)
  | [] => (w, .succeeds)

/-- A connection is made, and nothing of an earlier one comes in any more. -/
def opened (w : Wire) : Wire := { w with isOpen := true, inbox := [], leftover := [] }

def close (w : Wire) : Wire := { w with isOpen := false }

def deliver (w : Wire) (message : Except Error Bytes) : Wire :=
  { w with inbox := w.inbox ++ [message] }

/-- What a read returns at once; none if it has to wait. -/
def read? (w : Wire) (bufferSize : Nat) : Option (Wire × Except Error Bytes) :=
  if !w.isOpen then some (w, .error .connectionClosed)
  else if !w.leftover.isEmpty then
    some ({ w with leftover := w.leftover.drop bufferSize }, .ok (w.leftover.take bufferSize))
  else
    match w.inbox with
    | [] => none
    | .error e :: rest => some ({ w with inbox := rest }, .error e)
    | .ok bytes :: rest =>
      let w := { w with inbox := rest, leftover := bytes.drop bufferSize }
      some (w, .ok (bytes.take bufferSize))

end Wire

end Mqtt.Simulation
