import Mqtt.Bytes
import Mqtt.Error

/-!
The fields that packet bodies are made of, in both directions. `Field` is a body as data: a packet
is written by listing its fields. `Reader` takes fields off the front of a body, and every way in
which a body can be wrong is the one error `malformedPacket`.
-/

namespace Mqtt
set_option autoImplicit false

inductive Field where
  | byte (b : UInt8)
  | uint16 (n : UInt16)
  /-- Bytes after their own 16-bit length. -/
  | sized (bs : Bytes)
  /-- Bytes as they are, up to the end of the body. -/
  | plain (bs : Bytes)
deriving DecidableEq, Repr

namespace Field

/-- The longest run of bytes that a 16-bit length can announce. -/
def maximumSize : Nat := 65535

def text (s : String) : Field := .sized (Bytes.ofText s)

def encode : Field → Except Error Bytes
  | byte b => .ok [b]
  | uint16 n => .ok (Bytes.ofUInt16 n)
  | sized bs =>
    if bs.length ≤ maximumSize then .ok (Bytes.ofUInt16 bs.length.toUInt16 ++ bs)
    else .error .payloadTooLarge
  | plain bs => .ok bs

/-- Writes fields one after the other and stops at the first that cannot be written. The bytes of
the fields before it have been written then. -/
def encodeAll : List Field → Bytes × Except Error Unit
  | [] => ([], .ok ())
  | f :: fs =>
    match f.encode with
    | .error e => ([], .error e)
    | .ok bs => let (rest, result) := encodeAll fs; (bs ++ rest, result)

end Field

/-- A reading of some bytes: a value and the bytes after it. -/
abbrev Reader := StateT Bytes (Except Error)

namespace Reader

def byte : Reader UInt8
  | b :: rest => .ok (b, rest)
  | [] => .error .malformedPacket

def uint16 : Reader UInt16
  | hi :: lo :: rest => .ok (Bytes.toUInt16 hi lo, rest)
  | _ => .error .malformedPacket

def take (n : Nat) : Reader Bytes := fun bs =>
  let front := bs.take n
  if front.length = n then .ok (front, bs.drop n) else .error .malformedPacket

/-- Bytes after their own 16-bit length. -/
def sized : Reader Bytes := do
  let n ← uint16
  take n.toNat

def text : Reader String := do
  let bs ← sized
  match Bytes.toText? bs with
  | some s => pure s
  | none => throw .malformedPacket

def require (condition : Bool) : Reader Unit :=
  if condition then pure () else throw .malformedPacket

/-- Succeeds only where nothing is left. -/
def finish : Reader Unit := do
  require (← get).isEmpty

/-- Everything that is left. -/
def remainder : Reader Bytes := do
  let bs ← get
  set ([] : Bytes)
  pure bs

/-- Reads at most `k` values, until nothing is left. -/
def manyUpTo {α : Type} (r : Reader α) : Nat → Reader (List α)
  | 0 => do finish; pure []
  | k + 1 => do
    if (← get).isEmpty then pure []
    else
      let x ← r
      let xs ← manyUpTo r k
      pure (x :: xs)

/-- Reads values until nothing is left. A value takes at least one byte, so there are at most as
many values as bytes. -/
def many {α : Type} (r : Reader α) : Reader (List α) := do
  manyUpTo r (← get).length

/-- Reads a whole body. -/
def whole {α : Type} (r : Reader α) (body : Bytes) : Except Error α :=
  match r body with
  | .ok (x, _) => .ok x
  | .error e => .error e

end Reader

end Mqtt
