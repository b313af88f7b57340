import Mqtt.Bytes

/-!
Base64 with padding or without. Blanks and line ends are skipped. Text is read from the left in
blocks of eight symbols, and the first fault on the way is the one that is reported: padding inside
a block shows when a ninth symbol comes, and a last group that is not whole shows at the end.
-/

namespace Mqtt.Trust
set_option autoImplicit false

inductive Base64Error where
  | invalidCharacter (b : UInt8)
  /-- There is more after padding. -/
  | prematurePadding
  /-- The last group has a length or a padding that it cannot have. -/
  | invalidTrailingPadding
deriving DecidableEq, Repr

namespace Base64

def Digit.value? (b : UInt8) : Option Nat :=
  let n := b.toNat
  if 65 ≤ n && n ≤ 90 then some (n - 65)
  else if 97 ≤ n && n ≤ 122 then some (n - 71)
  else if 48 ≤ n && n ≤ 57 then some (n + 4)
  else if n = 43 then some 62
  else if n = 47 then some 63
  else none

/-- The tabs, line ends and page ends from 9 to 13, and the space. -/
def isSkipped (b : UInt8) : Bool := (9 ≤ b && b ≤ 13) || b = 32

def isPadding (b : UInt8) : Bool := b = 61

/-- What a byte stands for: a digit, or none for padding. -/
def symbol (b : UInt8) : Except Base64Error (Option Nat) :=
  if isPadding b then .ok none
  else
    match Digit.value? b with
    | some n => .ok (some n)
    | none => .error (.invalidCharacter b)

/-- The bytes of four digits. -/
def quad (a b c d : Nat) : Bytes :=
  [(a * 4 + b / 16).toUInt8, (b * 16 + c / 4).toUInt8, (c * 64 + d).toUInt8]

/-- The bytes of groups of four that are not the last, in which no padding can stand. -/
def groups : List (Option Nat) → Except Base64Error Bytes
  | some a :: some b :: some c :: some d :: rest => (quad a b c d ++ ·) <$> groups rest
  | [] => .ok []
  | _ => .error .prematurePadding

/-- The bytes of a last group. -/
def lastGroup : List (Option Nat) → Except Base64Error Bytes
  | [] => .ok []
  | [some a, some b] | [some a, some b, none, none] => .ok ((quad a b 0 0).take 1)
  | [some a, some b, some c] | [some a, some b, some c, none] => .ok ((quad a b c 0).take 2)
  | [some a, some b, some c, some d] => .ok (quad a b c d)
  | _ => .error .invalidTrailingPadding

/-- How many symbols a block holds. -/
def blockSize : Nat := 8

/-- What was read so far: the bytes of whole blocks, reversed, and the symbols after them. -/
structure Progress where
  front : Bytes := []
  block : List (Option Nat) := []
deriving Repr

namespace Progress

/-- Reads one byte. A full block is decoded only when a symbol comes after it. -/
def read (p : Progress) (b : UInt8) : Except Base64Error Progress :=
  if isSkipped b then .ok p
  else do
    let x ← symbol b
    if p.block.length < blockSize then pure { p with block := p.block ++ [x] }
    else
      let bytes ← groups p.block
      pure ⟨bytes.reverse ++ p.front, [x]⟩

/-- The bytes of all that was read, if it can end here. -/
def finish (p : Progress) : Except Base64Error Bytes := do
  let whole := if p.block.length ≤ 4 then 0 else 4
  let bytes ← groups (p.block.take whole)
  let last ← lastGroup (p.block.drop whole)
  pure (p.front.reverse ++ bytes ++ last)

end Progress

def decode (bs : Bytes) : Except Base64Error Bytes := do
  let p ← bs.foldlM Progress.read {}
  p.finish

end Base64

end Mqtt.Trust
