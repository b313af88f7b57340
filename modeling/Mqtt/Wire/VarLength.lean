import Mqtt.Bytes
import Mqtt.Error

/-!
Variable length numbers: seven bits a byte, lowest first, every byte but the last with its high
bit set, at most four bytes. Writing is minimal; reading also accepts longer spellings of a
number within the four bytes.
-/

namespace Mqtt
set_option autoImplicit false

namespace VarLength

/-- The largest number that four bytes hold. -/
def maximum : Nat := 268435455

def digits (n : Nat) : Bytes :=
  if n < 128 then [n.toUInt8] else (n % 128 + 128).toUInt8 :: digits (n / 128)
termination_by n
decreasing_by omega

def encode (n : Nat) : Except Error Bytes :=
  if n ≤ maximum then .ok (digits n) else .error .variableLengthIntegerMaximumExceeded

/-- How many bytes `encode` writes. -/
def encodedSize (n : Nat) : Except Error Nat :=
  if n < 0x80 then .ok 1
  else if n < 0x4000 then .ok 2
  else if n < 0x200000 then .ok 3
  else if n ≤ maximum then .ok 4
  else .error .variableLengthIntegerMaximumExceeded

/-- What the start of some bytes says about a number. -/
inductive Reading where
  | incomplete
  | value (n : Nat) (rest : Bytes)
deriving DecidableEq, Repr

/-- Reads a number of at most `k` bytes. -/
def decodeUpTo : Nat → Bytes → Except Error Reading
  | 0, _ => .error .decoderInvalidVli
  | _ + 1, [] => .ok .incomplete
  | k + 1, b :: rest =>
    if b.toNat < 128 then .ok (.value b.toNat rest)
    else
      match decodeUpTo k rest with
      | .ok (.value n rest') => .ok (.value (b.toNat - 128 + 128 * n) rest')
      | other => other

def decode (bs : Bytes) : Except Error Reading := decodeUpTo 4 bs

end VarLength

end Mqtt
