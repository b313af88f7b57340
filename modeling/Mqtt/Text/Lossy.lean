import Mqtt.Bytes

/-!
Text from bytes of any kind. Where the bytes are not UTF-8, the longest piece that could have begun
a character, or else one byte, becomes one replacement character.
-/

namespace Mqtt.Text
set_option autoImplicit false

def replacement : Char := Char.ofNat 0xfffd

/-- How many bytes follow a first byte, and the range in which the second has to be. -/
def following (first : UInt8) : Option (Nat × UInt8 × UInt8) :=
  let n := first.toNat
  if 0xc2 ≤ n && n ≤ 0xdf then some (1, 0x80, 0xbf)
  else if n = 0xe0 then some (2, 0xa0, 0xbf)
  else if n = 0xed then some (2, 0x80, 0x9f)
  else if 0xe1 ≤ n && n ≤ 0xef then some (2, 0x80, 0xbf)
  else if n = 0xf0 then some (3, 0x90, 0xbf)
  else if 0xf1 ≤ n && n ≤ 0xf3 then some (3, 0x80, 0xbf)
  else if n = 0xf4 then some (3, 0x80, 0x8f)
  else none

/-- Up to `k` continuation bytes at the front; the second byte of a character has a range of its
own. -/
def continuation : Nat → UInt8 → UInt8 → Bytes → Bytes
  | 0, _, _, _ => []
  | _ + 1, _, _, [] => []
  | k + 1, low, high, b :: rest =>
    if low ≤ b && b ≤ high then b :: continuation k 0x80 0xbf rest else []

/-- The character at the front, and how many bytes after the first it takes. -/
def firstChar (b : UInt8) (rest : Bytes) : Char × Nat :=
  if b < 0x80 then (Char.ofNat b.toNat, 0)
  else
    match following b with
    | none => (replacement, 0)
    | some (k, low, high) =>
      let tail := continuation k low high rest
      if tail.length = k then
        let start := b.toNat % (1 <<< (6 - k))
        (Char.ofNat (tail.foldl (fun n c => n * 64 + c.toNat % 64) start), k)
      else (replacement, tail.length)

def lossyChars : Bytes → List Char
  | [] => []
  | b :: rest =>
    let (c, n) := firstChar b rest
    c :: lossyChars (rest.drop n)
termination_by bs => bs.length
decreasing_by simp only [List.length_cons, List.length_drop]; omega

def lossy (bs : Bytes) : String := String.ofList (lossyChars bs)

end Mqtt.Text
