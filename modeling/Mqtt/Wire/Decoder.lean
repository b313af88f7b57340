import Mqtt.Wire.Decoding
import Mqtt.Wire.Gathered
import Mqtt.Wire.VarLength

/-!
The incremental decoder of a connection's inbound bytes. Bodies up to `limit` bytes are gathered
and decoded whole. A longer PUBLISH is handed on in chunks as its payload arrives; any other longer
packet is an error. After an error nothing is decoded until a reset.
-/

namespace Mqtt
set_option autoImplicit false

/-- A piece of a long PUBLISH, with the header of the message and the place of the piece in it. -/
structure Chunk where
  /-- Topic, flags and packet id; its payload is empty. -/
  publish : Publish
  data : Bytes
  offset : Nat
  total : Nat
deriving DecidableEq, Repr

inductive DecodedItem where
  | packet (p : Packet)
  | chunk (c : Chunk)
deriving DecidableEq, Repr

namespace Decoder

/-- How far into a packet the bytes have come. -/
inductive State where
  | start
  | length (first : UInt8) (seen : Bytes)
  | body (first : UInt8) (size : Nat) (held : Gathered)
  /-- Nothing can be told before as many bytes have come as are `wanted`, or all of the packet. -/
  | header (first : UInt8) (size wanted : Nat) (held : Gathered)
  /-- `held` are payload bytes that came with the header. -/
  | payload (publish : Publish) (total delivered : Nat) (held : Bytes)
  | failed
deriving DecidableEq, Repr

namespace State

/-- Orders the states in which a step may use no input. -/
def rank : State → Nat
  | header .. => 2
  | payload .. | body .. => 1
  | _ => 0

/-- How many bytes a state keeps. -/
def held : State → Nat
  | length _ seen => seen.length
  | body _ _ h | header _ _ _ h => h.size
  | payload _ _ _ h => h.length
  | _ => 0

end State

/-- Runs the decoder over one piece of input: the state after it and the items completed in it.
`failed` is reached at the first error. -/
def run (limit : Nat) (state : State) (input : Bytes) : State × List DecodedItem :=
  match state with
  | .start =>
    match input with
    | [] => (.start, [])
    | b :: rest => run limit (.length b []) rest
  | .length first seen =>
    match input with
    | [] => (.length first seen, [])
    | b :: rest =>
      match VarLength.decode (seen ++ [b]) with
      | .ok (.value n _) =>
        if n ≤ limit then run limit (.body first n .empty) rest
        else if first >>> 4 = 3 then run limit (.header first n 0 .empty) rest
        else (.failed, [])
      | _ =>
        if 4 ≤ seen.length + 1 then (.failed, [])
        else run limit (.length first (seen ++ [b])) rest
  | .body first size held =>
    let needed := size - held.size
    let front := input.take needed
    if front.length < needed then (.body first size (held.append input), [])
    else
      match Packet.decode first (held.append front).toList with
      | .ok p =>
        let (state', items) := run limit .start (input.drop needed)
        (state', .packet p :: items)
      | .error _ => (.failed, [])
  | .header first size wanted held =>
    let left := size - held.size
    let held' := held.append (input.take left)
    if input.isEmpty || held'.size < min wanted size then (.header first size wanted held', [])
    else
      match Publish.decodeHeader first held'.toList with
      | .ok (some (p, used)) =>
        if size < used then (.failed, [])
        else if used = size then
          let (state', items) := run limit .start (input.drop left)
          (state', .packet (.publish p) :: items)
        else run limit (.payload p (size - used) 0 (held'.toList.drop used)) (input.drop left)
      | .ok none =>
        if size ≤ held'.size then (.failed, [])
        else (.header first size (Publish.headerSize first held'.toList) held', [])
      | .error _ => (.failed, [])
  | .payload p total delivered held =>
    let wanted := total - delivered - held.length
    let data := held ++ input.take wanted
    if data.isEmpty then (.payload p total delivered [], [])
    else
      let item := DecodedItem.chunk ⟨p, data, delivered, total⟩
      if delivered + data.length = total then
        let (state', items) := run limit .start (input.drop wanted)
        (state', item :: items)
      else (.payload p total (delivered + data.length) [], [item])
  | .failed => (.failed, [])
termination_by 3 * input.length + state.rank
decreasing_by all_goals simp_wf; simp only [State.rank]; omega

end Decoder

structure Decoder where
  limit : Nat
  state : Decoder.State
deriving DecidableEq, Repr

namespace Decoder

def new (limit : Nat) : Decoder := ⟨limit, .start⟩

def reset (d : Decoder) : Decoder := { d with state := .start }

/-- Feeds one piece of input: the items completed in it, and whether the bytes are still good. -/
def feed (d : Decoder) (input : Bytes) : Decoder × List DecodedItem × Except Error Unit :=
  let (state, items) := run d.limit d.state input
  ({ d with state }, items, if state = .failed then .error .malformedPacket else .ok ())

/-- Feeds pieces one after the other, up to the first that holds an error. -/
def feedAll (d : Decoder) : List Bytes → Decoder × List DecodedItem × Except Error Unit
  | [] => (d, [], .ok ())
  | piece :: pieces =>
    match d.feed piece with
    | (d, items, .ok ()) =>
      let (d, more, result) := feedAll d pieces
      (d, items ++ more, result)
    | (d, items, .error e) => (d, items, .error e)

end Decoder

end Mqtt
