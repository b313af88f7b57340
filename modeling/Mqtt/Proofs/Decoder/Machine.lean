import Mqtt.Proofs.Decoder.Cuttings

/-!
The decoder as a loop over one buffer and a few registers, not all of which are filled at all times.
Every difference and every cut is checked here, and there are only so many turns. Nothing that is
checked ever fails: the registers always fit together, and every loop comes to its end.
-/

namespace Mqtt.Decoder
set_option autoImplicit false

/-! ### Checked steps -/

inductive Fault where
  /-- A register is read that holds nothing. -/
  | empty
  /-- A number is taken from a smaller one. -/
  | negative
  /-- Bytes are cut off that are not there. -/
  | short
  /-- A header takes more bytes than its packet has. -/
  | overlong
  /-- The loop has not ended in the turns that it has. -/
  | endless
deriving DecidableEq, Repr

abbrev Checked := Except Fault

namespace Checked

def fetch {α : Type} : Option α → Checked α
  | some x => .ok x
  | none => .error .empty

def minus (a b : Nat) : Checked Nat := if b ≤ a then .ok (a - b) else .error .negative

/-- The first `n` of some bytes, and the others. -/
def cut (n : Nat) (bs : Bytes) : Checked (Bytes × Bytes) :=
  if n ≤ bs.length then .ok (bs.take n, bs.drop n) else .error .short

@[simp] theorem ok_bind {α β : Type} (x : α) (f : α → Checked β) : (Except.ok x >>= f) = f x := rfl

@[simp] theorem fetch_some {α : Type} (x : α) : fetch (some x) = .ok x := rfl

theorem minus_of_le {a b : Nat} (h : b ≤ a) : minus a b = .ok (a - b) := if_pos h

theorem cut_of_le {n : Nat} {bs : Bytes} (h : n ≤ bs.length) :
    cut n bs = .ok (bs.take n, bs.drop n) :=
  if_pos h

theorem cut_min (n : Nat) (bs : Bytes) : cut (min bs.length n) bs = .ok (bs.take n, bs.drop n) := by
  rw [cut_of_le (Nat.min_le_left _ _)]
  rcases Nat.le_total bs.length n with h | h
  · rw [Nat.min_eq_left h, List.take_length, List.drop_length, List.take_of_length_le h,
      List.drop_of_length_le h]
  · rw [Nat.min_eq_right h]

end Checked

/-! ### The machine -/

inductive Mode where
  | start | length | body | header | payload | failed
deriving DecidableEq, Repr

/-- A message that is handed on as it arrives. -/
structure Stream where
  publish : Publish
  total : Nat
  delivered : Nat
deriving DecidableEq, Repr

structure Machine where
  mode : Mode := .start
  scratch : Bytes := []
  first : Option UInt8 := none
  size : Option Nat := none
  stream : Option Stream := none
deriving DecidableEq, Repr

/-- What a turn of the loop comes to: more input is needed, or it goes on with the rest of it. -/
inductive Turn where
  | wait (m : Machine) (items : List DecodedItem)
  | next (m : Machine) (rest : Bytes) (items : List DecodedItem)
  | fail
deriving DecidableEq, Repr

namespace Machine
open Checked (fetch minus cut)

def startTurn (m : Machine) : Bytes → Checked Turn
  | [] => .ok (.wait m [])
  | b :: rest => .ok (.next { m with mode := .length, first := some b } rest [])

def lengthTurn (limit : Nat) (m : Machine) : Bytes → Checked Turn
  | [] => .ok (.wait m [])
  | b :: rest =>
    let seen := m.scratch ++ [b]
    match VarLength.decode seen with
    | .ok (.value n _) => do
      let first ← fetch m.first
      let m' := { m with scratch := [], size := some n }
      if n ≤ limit then pure (.next { m' with mode := .body } rest [])
      else if first >>> 4 = 3 then pure (.next { m' with mode := .header } rest [])
      else pure .fail
    | _ =>
      if 4 ≤ seen.length then .ok .fail
      else if rest.isEmpty then .ok (.wait { m with scratch := seen } [])
      else .ok (.next { m with scratch := seen } rest [])

def bodyTurn (m : Machine) (input : Bytes) : Checked Turn := do
  let first ← fetch m.first
  let size ← fetch m.size
  let needed ← minus size m.scratch.length
  if input.length < needed then pure (.wait { m with scratch := m.scratch ++ input } [])
  else
    let (front, rest) ← cut needed input
    match Packet.decode first (m.scratch ++ front) with
    | .ok p => pure (.next {} rest [.packet p])
    | .error _ => pure .fail

def headerTurn (m : Machine) (input : Bytes) : Checked Turn := do
  let first ← fetch m.first
  let size ← fetch m.size
  if input.isEmpty then pure (.wait m [])
  else
    let left ← minus size m.scratch.length
    let (front, rest) ← cut (min input.length left) input
    let scratch := m.scratch ++ front
    match Publish.decodeHeader first scratch with
    | .ok (some (publish, used)) =>
      if size < used then throw .overlong
      else if used = size then pure (.next {} rest [.packet (.publish publish)])
      else
        let (_, payload) ← cut used scratch
        let total ← minus size used
        let stream := ⟨publish, total, 0⟩
        pure (.next { m with mode := .payload, scratch := payload, stream := some stream } rest [])
    | .ok none =>
      if size ≤ scratch.length then pure .fail else pure (.wait { m with scratch } [])
    | .error _ => pure .fail

def payloadTurn (m : Machine) (input : Bytes) : Checked Turn := do
  let stream ← fetch m.stream
  let left ← minus stream.total stream.delivered
  let wanted ← minus left m.scratch.length
  let (front, rest) ← cut (min input.length wanted) input
  let data := m.scratch ++ front
  if data.isEmpty then pure (.wait { m with scratch := [] } [])
  else
    let delivered := stream.delivered + data.length
    let item := .chunk ⟨stream.publish, data, stream.delivered, stream.total⟩
    if delivered = stream.total then pure (.next {} rest [item])
    else pure (.wait { m with scratch := [], stream := some { stream with delivered } } [item])

def turn (limit : Nat) (m : Machine) (input : Bytes) : Checked Turn :=
  match m.mode with
  | .start => m.startTurn input
  | .length => m.lengthTurn limit input
  | .body => m.bodyTurn input
  | .header => m.headerTurn input
  | .payload => m.payloadTurn input
  | .failed => .ok .fail

/-- At most so many turns. -/
def loop (limit : Nat) : Nat → Machine → Bytes → Checked (Machine × Answer)
  | 0, _, _ => .error .endless
  | turns + 1, m, input => do
    match ← m.turn limit input with
    | .wait m' items => pure (m', items, .ok ())
    | .next m' rest items =>
      let (m'', more, result) ← loop limit turns m' rest
      pure (m'', items ++ more, result)
    | .fail => pure ({ m with mode := .failed }, [], .error .malformedPacket)

/-- Three turns for each byte, and three more. -/
def feed (limit : Nat) (m : Machine) (piece : Bytes) : Checked (Machine × Answer) :=
  loop limit (3 * piece.length + 3) m piece

end Machine

/-! ### Calls in any order -/

inductive Call where
  | feed (piece : Bytes)
  | reset
deriving DecidableEq, Repr

def call (d : Decoder) : Call → Decoder × Answer
  | .feed piece => d.feed piece
  | .reset => (d.reset, [], .ok ())

def callAll (d : Decoder) : List Call → Decoder × List Answer
  | [] => (d, [])
  | c :: calls =>
    let (d', answer) := d.call c
    let (d'', answers) := d'.callAll calls
    (d'', answer :: answers)

namespace Machine

def call (limit : Nat) (m : Machine) : Call → Checked (Machine × Answer)
  | .feed piece => m.feed limit piece
  | .reset => .ok ({}, [], .ok ())

def callAll (limit : Nat) (m : Machine) : List Call → Checked (Machine × List Answer)
  | [] => .ok (m, [])
  | c :: calls => do
    let (m', answer) ← m.call limit c
    let (m'', answers) ← m'.callAll limit calls
    pure (m'', answer :: answers)

end Machine

/-! ### What a turn comes to -/

namespace Machine

variable {limit : Nat} {m : Machine} {input : Bytes}

theorem lengthTurn_value {b first : UInt8} {rest left : Bytes} {n : Nat}
    (hfirst : m.first = some first)
    (h : VarLength.decode (m.scratch ++ [b]) = .ok (.value n left)) :
    m.lengthTurn limit (b :: rest) =
      if n ≤ limit then .ok (.next { m with mode := .body, scratch := [], size := some n } rest [])
      else if first >>> 4 = 3 then
        .ok (.next { m with mode := .header, scratch := [], size := some n } rest [])
      else .ok .fail := by
  unfold lengthTurn
  dsimp only
  rw [h, hfirst]
  rfl

theorem lengthTurn_more {b : UInt8} {rest : Bytes}
    (h : ∀ n left, VarLength.decode (m.scratch ++ [b]) ≠ .ok (.value n left)) :
    m.lengthTurn limit (b :: rest) =
      if 4 ≤ m.scratch.length + 1 then .ok .fail
      else if rest.isEmpty then .ok (.wait { m with scratch := m.scratch ++ [b] } [])
      else .ok (.next { m with scratch := m.scratch ++ [b] } rest []) := by
  unfold lengthTurn
  dsimp only
  rw [List.length_append]
  split
  · rename_i n left hdecode
    exact absurd hdecode (h n left)
  · rfl

section
variable {first : UInt8} {size : Nat} (hfirst : m.first = some first) (hsize : m.size = some size)
  (hfits : m.scratch.length ≤ size)
include hfirst hsize hfits

theorem bodyTurn_short (h : input.length < size - m.scratch.length) :
    m.bodyTurn input = .ok (.wait { m with scratch := m.scratch ++ input } []) := by
  unfold bodyTurn
  rw [hfirst, hsize]
  simp only [Checked.fetch_some, Checked.ok_bind, Checked.minus_of_le hfits]
  exact if_pos h

theorem bodyTurn_full (h : size - m.scratch.length ≤ input.length) : m.bodyTurn input =
    match Packet.decode first (m.scratch ++ input.take (size - m.scratch.length)) with
    | .ok p => .ok (.next {} (input.drop (size - m.scratch.length)) [.packet p])
    | .error _ => .ok .fail := by
  unfold bodyTurn
  rw [hfirst, hsize]
  simp only [Checked.fetch_some, Checked.ok_bind, Checked.minus_of_le hfits, Checked.cut_of_le h]
  rw [if_neg (Nat.not_lt.mpr h)]
  rfl

end

section
variable {first : UInt8} {size : Nat} (hfirst : m.first = some first) (hsize : m.size = some size)
include hfirst hsize

theorem headerTurn_nil : m.headerTurn [] = .ok (.wait m []) := by
  unfold headerTurn
  rw [hfirst, hsize]
  rfl

variable {bytes : Bytes} (hfits : m.scratch.length ≤ size) (hinput : input ≠ [])
  (hbytes : m.scratch ++ input.take (size - m.scratch.length) = bytes)
include hfits hinput hbytes

theorem headerTurn_error {e : Error} (h : Publish.decodeHeader first bytes = .error e) :
    m.headerTurn input = .ok .fail := by
  unfold headerTurn
  rw [hfirst, hsize]
  simp only [Checked.fetch_some, Checked.ok_bind, Checked.minus_of_le hfits, Checked.cut_min,
    hbytes, h]
  exact if_neg (by simpa using hinput)

theorem headerTurn_none (h : Publish.decodeHeader first bytes = .ok none) : m.headerTurn input =
    if size ≤ bytes.length then .ok .fail else .ok (.wait { m with scratch := bytes } []) := by
  unfold headerTurn
  rw [hfirst, hsize]
  simp only [Checked.fetch_some, Checked.ok_bind, Checked.minus_of_le hfits, Checked.cut_min,
    hbytes, h]
  exact if_neg (by simpa using hinput)

theorem headerTurn_some {p : Publish} {used : Nat}
    (h : Publish.decodeHeader first bytes = .ok (some (p, used))) (hused : used ≤ bytes.length)
    (hwhole : used ≤ size) : m.headerTurn input =
      if used = size then
        .ok (.next {} (input.drop (size - m.scratch.length)) [.packet (.publish p)])
      else
        .ok (.next { m with
          mode := .payload
          scratch := bytes.drop used
          stream := some ⟨p, size - used, 0⟩ } (input.drop (size - m.scratch.length)) []) := by
  unfold headerTurn
  rw [hfirst, hsize]
  simp only [Checked.fetch_some, Checked.ok_bind, Checked.minus_of_le hfits, Checked.cut_min,
    hbytes, h, Checked.cut_of_le hused, Checked.minus_of_le hwhole]
  rw [if_neg (by simpa using hinput), if_neg (Nat.not_lt.mpr hwhole)]
  rfl

end

section
variable {p : Publish} {total delivered : Nat} (hstream : m.stream = some ⟨p, total, delivered⟩)
  (hfits : delivered + m.scratch.length ≤ total)
include hstream hfits

theorem payloadTurn_eq {data : Bytes}
    (h : m.scratch ++ input.take (total - delivered - m.scratch.length) = data) :
    m.payloadTurn input =
      if data.isEmpty then .ok (.wait { m with scratch := [] } [])
      else if delivered + data.length = total then
        .ok (.next {} (input.drop (total - delivered - m.scratch.length))
          [.chunk ⟨p, data, delivered, total⟩])
      else
        .ok (.wait { m with scratch := [], stream := some ⟨p, total, delivered + data.length⟩ }
          [.chunk ⟨p, data, delivered, total⟩]) := by
  have hdelivered : delivered ≤ total := by omega
  have hheld : m.scratch.length ≤ total - delivered := by omega
  unfold payloadTurn
  rw [hstream]
  simp only [Checked.fetch_some, Checked.ok_bind, Checked.minus_of_le hdelivered,
    Checked.minus_of_le hheld, Checked.cut_min, h]
  rfl

end

end Machine

end Mqtt.Decoder
