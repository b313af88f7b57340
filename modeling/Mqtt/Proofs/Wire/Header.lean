import Mathlib.Control.Monad.Basic
import Mqtt.Wire.FixedHeader
import Mqtt.Proofs.Wire.Packet

/-!
The header at the start of an encoding is that of the packet: its kind, its flags, the id that it
carries and the length that follows, whatever comes behind.
-/

namespace Mqtt
set_option autoImplicit false

namespace FixedHeader
open Mqtt.Field (Spells)

/-! ### What is told -/

section
variable {first : UInt8} {type : PacketType}

/-- Whether a packet of this kind can begin with this byte. -/
def Begins (first : UInt8) (type : PacketType) : Prop :=
  PacketType.ofCode? (first >>> 4) = some type ∧ flagsAllowed type (first &&& 0x0f) = true

/-- What is told of a packet of this kind whose length `n` is spelled in `width` bytes, when `body`
is what has come behind them. -/
def told (first : UInt8) (type : PacketType) (n width : Nat) (body : Bytes) : FixedHeader :=
  let flags := first &&& 0x0f
  let isPublish : Bool := type = .publish
  let qos := if isPublish then (QoS.ofByte? ((flags >>> 1) &&& 3)).getD .atMostOnce
    else .atMostOnce
  { type, flags, qos
    duplicate := isPublish && flags &&& 8 ≠ 0
    retain := isPublish && flags &&& 1 ≠ 0
    packetId := packetIdIn type qos (body.take n)
    remainingLength := n
    headerLength := 1 + width }

theorem decode_of_begins (h : Begins first type) (rest : Bytes) :
    decode (first :: rest) = match VarLength.decode rest with
      | .error e => .error e
      | .ok .incomplete => .ok none
      | .ok (.value n body) => .ok (some (told first type n (rest.length - body.length) body)) := by
  have htype : PacketType.ofCode (first >>> 4) = .ok type := by
    unfold PacketType.ofCode
    rw [h.1]
  simp only [decode, htype, h.2, bind, Except.bind, not_true_eq_false, if_false]
  cases VarLength.decode rest with
  | error e => rfl
  | ok reading => cases reading <;> rfl

theorem decode_of_not_begins (h : ∀ type, ¬ Begins first type) (rest : Bytes) :
    decode (first :: rest) = .error .malformedPacket := by
  cases hcode : PacketType.ofCode? (first >>> 4) with
  | none =>
    have htype : PacketType.ofCode (first >>> 4) = .error .malformedPacket := by
      unfold PacketType.ofCode
      rw [hcode]
    simp only [decode, htype, bind, Except.bind]
  | some type =>
    have htype : PacketType.ofCode (first >>> 4) = .ok type := by
      unfold PacketType.ofCode
      rw [hcode]
    have hflags : ¬ flagsAllowed type (first &&& 0x0f) = true := fun hflags =>
      h type ⟨hcode, hflags⟩
    simp only [decode, htype, hflags, bind, Except.bind]
    rfl

end

/-! ### What is told of a packet -/

variable {p : Packet} {body size : Bytes}

/-- The header of a packet whose length is spelled in `width` bytes. -/
def ofPacket (p : Packet) (width : Nat) : FixedHeader :=
  let own : FixedHeader :=
    { type := p.type
      flags := p.firstByte &&& 0x0f
      qos := .atMostOnce
      duplicate := false
      retain := false
      packetId := p.packetId?
      remainingLength := p.remainingLength
      headerLength := 1 + width }
  match p with
  | .publish m => { own with qos := m.qos, duplicate := m.duplicate, retain := m.retain }
  | _ => own

theorem packetId_ofPacket (p : Packet) (width : Nat) :
    (ofPacket p width).packetId = p.packetId? := by
  cases p <;> rfl

theorem type_ofPacket (p : Packet) (width : Nat) : (ofPacket p width).type = p.type := by
  cases p <;> rfl

theorem flags_ofPacket (p : Packet) (width : Nat) :
    (ofPacket p width).flags = p.firstByte &&& 0x0f := by
  cases p <;> rfl

theorem headerLength_ofPacket (p : Packet) (width : Nat) :
    (ofPacket p width).headerLength = 1 + width := by
  cases p <;> rfl

theorem remainingLength_ofPacket (p : Packet) (width : Nat) :
    (ofPacket p width).remainingLength = p.remainingLength := by
  cases p <;> rfl

theorem totalLength_ofPacket (p : Packet) (width : Nat) :
    (ofPacket p width).totalLength = 1 + width + p.remainingLength := by
  rw [totalLength, headerLength_ofPacket, remainingLength_ofPacket]

theorem leadingId_of_spells {i : UInt16} {fs : List Field} {rest : Bytes}
    (h : Spells (.uint16 i :: fs) body rest) : leadingId body = some i := by
  rw [h.2, List.flatMap_cons]
  exact congrArg some (Bytes.toUInt16_ofUInt16 i)

/-- The id of a message is looked up behind its topic. -/
theorem packetIdIn_publish {m : Publish} {rest : Bytes} (h : Spells m.headerFields body rest) :
    packetIdIn .publish m.qos body = (Packet.publish m).packetId? := by
  by_cases hqos : m.qos = .atMostOnce
  · calc packetIdIn .publish m.qos body = none := if_pos hqos
      _ = (Packet.publish m).packetId? := (if_pos hqos).symm
  · have hid : (Packet.publish m).packetId? = some m.packetId := if_neg hqos
    rw [Publish.headerFields, if_neg hqos] at h
    obtain ⟨mid, htopic, hmid⟩ := Field.spells_cons.mp h
    obtain ⟨hi, lo, tail, hbody, hsize⟩ := Publish.toUInt16_of_spells_text htopic
    have hlead : leadingId body = some (Bytes.toUInt16 hi lo) := by rw [hbody]; rfl
    have hdrop : body.drop (m.topic.utf8ByteSize + 2) = mid := by
      rw [htopic.2, List.flatMap_singleton]
      apply List.drop_left'
      rw [Field.length_bytes_text, Nat.add_comm]
    calc packetIdIn .publish m.qos body
        = (leadingId body).bind fun n => leadingId (body.drop (n.toNat + 2)) := if_neg hqos
      _ = leadingId mid := by rw [hlead, Option.bind_some, hsize, hdrop]
      _ = (Packet.publish m).packetId? := by rw [leadingId_of_spells hmid, hid]

theorem packetIdIn_of_spells (h : Spells p.fields body []) (width : Nat) :
    packetIdIn p.type (ofPacket p width).qos body = p.packetId? := by
  cases p with
  | publish m =>
    rw [Packet.fields_publish] at h
    obtain ⟨mid, hheader, _⟩ := Field.spells_append.mp h
    exact packetIdIn_publish hheader
  | puback i | pubrec i | pubrel i | pubcomp i | unsuback i => exact leadingId_of_spells h
  | subscribe i subs => exact leadingId_of_spells h
  | suback i codes => exact leadingId_of_spells h
  | unsubscribe i filters => exact leadingId_of_spells h
  | _ => rfl

theorem flagsAllowed_fixed (t : PacketType) (h : t ≠ .publish) :
    flagsAllowed t (t.firstByte &&& 0x0f) = true := by
  cases t with
  | publish => exact absurd rfl h
  | _ => decide

theorem flagsAllowed_firstByte (p : Packet) :
    flagsAllowed p.type (p.firstByte &&& 0x0f) = true := by
  by_cases h : p.type = .publish
  · cases p with
    | publish m =>
      change decide ((Publish.firstByte m.qos m.duplicate m.retain &&& 0x0f) >>> 1 &&& 3 ≠ 3) = true
      cases m.qos <;> cases m.duplicate <;> cases m.retain <;> decide
    | _ => cases h
  · rw [Packet.firstByte_of_type_ne_publish h]
    exact flagsAllowed_fixed p.type h

theorem flags_publish (qos : QoS) (duplicate retain : Bool) :
    let flags := Publish.firstByte qos duplicate retain &&& 0x0f
    (QoS.ofByte? ((flags >>> 1) &&& 3)).getD .atMostOnce = qos
      ∧ decide (flags &&& 8 ≠ 0) = duplicate ∧ decide (flags &&& 1 ≠ 0) = retain := by
  cases qos <;> cases duplicate <;> cases retain <;> decide

/-- The delivery flags are read off a first byte as they were put there. -/
theorem flags_firstByte (p : Packet) (width : Nat) :
    let flags := p.firstByte &&& 0x0f
    let isPublish : Bool := p.type = .publish
    (if isPublish then (QoS.ofByte? ((flags >>> 1) &&& 3)).getD .atMostOnce else .atMostOnce)
        = (ofPacket p width).qos
      ∧ (isPublish && flags &&& 8 ≠ 0) = (ofPacket p width).duplicate
      ∧ (isPublish && flags &&& 1 ≠ 0) = (ofPacket p width).retain := by
  cases p with
  | publish m => exact flags_publish m.qos m.duplicate m.retain
  | _ => exact ⟨rfl, rfl, rfl⟩

theorem begins_firstByte (p : Packet) : Begins p.firstByte p.type :=
  ⟨p.ofCode?_firstByte, flagsAllowed_firstByte p⟩

theorem told_of_spells (h : Spells p.fields body []) (width : Nat) (rest : Bytes) :
    told p.firstByte p.type p.remainingLength width (body ++ rest) = ofPacket p width := by
  have htake : (body ++ rest).take p.remainingLength = body := by
    rw [← Packet.length_of_spells h, List.take_left]
  have hid := packetIdIn_of_spells h width
  obtain ⟨hqos, hduplicate, hretain⟩ := flags_firstByte p width
  simp only [told, hqos, hduplicate, hretain, htake, hid]
  cases p <;> rfl

/-- What is read of a packet that is spelled out, with its length in any spelling. -/
theorem decode_of_spells (hspells : Spells p.fields body []) (rest : Bytes)
    (hsize : VarLength.decode (size ++ (body ++ rest)) =
      .ok (.value p.remainingLength (body ++ rest))) :
    FixedHeader.decode (p.firstByte :: (size ++ (body ++ rest)))
      = .ok (some (ofPacket p size.length)) := by
  have hwidth : (size ++ (body ++ rest)).length - (body ++ rest).length = size.length := by
    rw [List.length_append, Nat.add_sub_cancel]
  rw [decode_of_begins (begins_firstByte p), hsize]
  dsimp only
  rw [hwidth, told_of_spells hspells]

/-- The header at the start of an encoding, and of whatever it is the start of. -/
theorem decode_encoding {bytes : Bytes} (h : p.encode = .ok bytes) (rest : Bytes) :
    ∃ header, FixedHeader.decode (bytes ++ rest) = .ok (some header) ∧ header.type = p.type
      ∧ header.packetId = p.packetId? ∧ header.totalLength = bytes.length := by
  obtain ⟨hmaximum, body, hspells, rfl⟩ := Packet.encode_eq_ok_iff.mp h
  refine ⟨_, ?_, type_ofPacket p (VarLength.digits p.remainingLength).length,
    packetId_ofPacket p _, ?_⟩
  · rw [List.cons_append, List.append_assoc]
    exact decode_of_spells hspells rest (VarLength.decode_digits hmaximum _)
  · rw [totalLength_ofPacket, List.length_cons, List.length_append,
      Packet.length_of_spells hspells]
    omega

end FixedHeader
end Mqtt
