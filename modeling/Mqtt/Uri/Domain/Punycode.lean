/-!
Text beyond ASCII written in ASCII. The characters of ASCII come first. What follows the last hyphen
are numbers of base 36, digit by digit: each tells where the next character goes in, and how far its
code point is from the one before.
-/

namespace Mqtt.Punycode
set_option autoImplicit false

def base : Nat := 36

/-- Numbers of this size or more are not read. -/
def limit : Nat := 0x100000000

/-- The value of a digit: a letter of either case, or one of the ten digits after them. -/
def digit? (c : Char) : Option Nat :=
  if 'a' ≤ c && c ≤ 'z' then some (c.toNat - 97)
  else if 'A' ≤ c && c ≤ 'Z' then some (c.toNat - 65)
  else if '0' ≤ c && c ≤ '9' then some (c.toNat - 22)
  else none

/-- A digit below this ends its number; `place` grows by the base from digit to digit. -/
def threshold (bias place : Nat) : Nat := if place ≤ bias then 1 else min 26 (place - bias)

def dampen (place delta : Nat) : Nat :=
  if 455 < delta then dampen (place + base) (delta / 35)
  else place + base * delta / (delta + 38)
termination_by delta
decreasing_by exact Nat.div_lt_self (by omega) (by omega)

/-- The bias for the next number, after one that moved the place of insertion by `delta` in a text
that has `count` characters now. -/
def adapt (isFirst : Bool) (delta count : Nat) : Nat :=
  let delta := if isFirst then delta / 700 else delta / 2
  dampen 0 (delta + delta / count)

/-- Adds the number at the front to `sum`; the result is the sum and what follows the number. -/
def addNumber? (bias : Nat) : Nat → Nat → Nat → List Char → Option (Nat × List Char)
  | _, _, _, [] => none
  | place, weight, sum, c :: rest =>
    match digit? c with
    | none => none
    | some d =>
      let sum := sum + d * weight
      let weight' := weight * (base - threshold bias place)
      if limit ≤ sum then none
      else if d < threshold bias place then some (sum, rest)
      else if limit ≤ weight' then none
      else addNumber? bias (place + base) weight' sum rest

theorem length_of_addNumber? {bias place weight sum : Nat} {cs : List Char}
    {r : Nat × List Char} (h : addNumber? bias place weight sum cs = some r) :
    r.2.length < cs.length := by
  induction cs generalizing place weight sum with
  | nil => simp [addNumber?] at h
  | cons c rest ih =>
    simp only [addNumber?] at h
    split at h
    · contradiction
    · split at h
      · contradiction
      · split at h
        · cases h; simp
        · split at h
          · contradiction
          · have := ih h; simp only [List.length_cons]; omega

/-- Puts in the characters that numbers stand for. `n` is the last code point that was put in, and
`i` the place after it. -/
def insertAll (bias n i : Nat) (out : List Char) (cs : List Char) : Option (List Char) :=
  if cs.isEmpty then some out
  else
    match _h : addNumber? bias base 1 i cs with
    | none => none
    | some (j, rest) =>
      let count := out.length + 1
      let n := n + j / count
      if n.isValidChar then
        insertAll (adapt (i = 0) (j - i) count) n (j % count + 1)
          (out.insertIdx (j % count) (Char.ofNat n)) rest
      else none
termination_by cs.length
decreasing_by exact length_of_addNumber? _h

/-- The text that a text of ASCII stands for, with the letters of ASCII in lower case. A hyphen at
the very start separates nothing. -/
def decode (cs : List Char) : Option (List Char) :=
  let tail := (cs.reverse.takeWhile (· ≠ '-')).reverse
  let front := cs.take (cs.length - tail.length - 1)
  if front.isEmpty then insertAll 72 128 0 [] cs
  else insertAll 72 128 0 (front.map Char.toLower) tail

end Mqtt.Punycode
