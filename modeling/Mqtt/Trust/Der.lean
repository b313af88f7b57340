import Mqtt.Bytes

/-!
Values in DER: a tag, a length and that many bytes. Lengths have one spelling each, and values are
limited to what two bytes of length can tell.
-/

namespace Mqtt.Trust
set_option autoImplicit false

namespace Der

/-- Values of this length or more are not read. -/
def sizeLimit : Nat := 0xffff

def boolean : UInt8 := 0x01
def integer : UInt8 := 0x02
def bitString : UInt8 := 0x03
def octetString : UInt8 := 0x04
def objectId : UInt8 := 0x06
def sequence : UInt8 := 0x30
/-- The explicit tag of an optional field. -/
def field (n : UInt8) : UInt8 := 0xa0 ||| n

/-- A number in big-endian bytes. -/
def bigEndian (bs : Bytes) : Nat := bs.foldl (fun n b => n * 256 + b.toNat) 0

/-- The length at the front and what follows it. Only the shortest spelling is read. -/
def length? : Bytes → Option (Nat × Bytes)
  | [] => none
  | b :: rest =>
    if b < 0x80 then some (b.toNat, rest)
    else
      let k := b.toNat - 0x80
      let digits := rest.take k
      let n := bigEndian digits
      if k = 0 || 4 < k || digits.length < k then none
      else if n < 0x80 || n < 1 <<< (8 * (k - 1)) then none
      else some (n, rest.drop k)

/-- The value at the front, which has to have this tag, and what follows it. -/
def value? (tag : UInt8) : Bytes → Option (Bytes × Bytes)
  | [] => none
  | t :: rest => do
    let (n, rest) ← length? rest
    let content := rest.take n
    if t = tag && n < sizeLimit && content.length = n then some (content, rest.drop n) else none

/-- What follows the value at the front. -/
def skip? (tag : UInt8) (bs : Bytes) : Option Bytes := (value? tag bs).map Prod.snd

/-- A number that is not negative, without needless zeros, as its bytes. -/
def natural? (content : Bytes) : Option Bytes :=
  match content with
  | [] => none
  | [0] => some [0]
  | 0 :: b :: rest => if 0x80 ≤ b then some (b :: rest) else none
  | b :: rest => if b < 0x80 then some (b :: rest) else none

end Der

end Mqtt.Trust
