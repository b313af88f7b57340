import Mathlib.Control.Monad.Basic
import Mqtt.Encoder
import Mqtt.Proofs.Wire.Lengths

/-!
What an encoder writes, and what can go wrong: a packet is too long, one of its fields is, or it
does not fit the buffer.
-/

namespace Mqtt
set_option autoImplicit false

/-- The kind that a packet's first byte tells. -/
def PacketType.ofBytes? (bytes : Bytes) : Option PacketType :=
  bytes.head?.bind fun first => ofCode? (first >>> 4)

theorem Packet.ofBytes?_encode {p : Packet} {bytes : Bytes} (h : p.encode = .ok bytes) :
    PacketType.ofBytes? bytes = some p.type := by
  obtain ⟨_, body, _, hcons⟩ := encode_eq_ok_iff.mp h
  rw [hcons]
  exact ofCode?_firstByte p

namespace Encoder

/-- The errors of an encoder. -/
def CanFailWith (e : Error) : Prop :=
  e = .variableLengthIntegerMaximumExceeded ∨ e = .payloadTooLarge ∨ e = .encodeBufferTooSmall

theorem encode_of_error {encoder : Encoder} {p : Packet} {e : Error} (h : p.encode = .error e) :
    encoder.encode p = .error e := by
  unfold encode
  rw [h]
  rfl

theorem encode_of_ok {encoder : Encoder} {p : Packet} {bytes : Bytes} (h : p.encode = .ok bytes) :
    encoder.encode p =
      if bytes.length ≤ encoder.bufferSize then .ok bytes else .error .encodeBufferTooSmall := by
  unfold encode
  rw [h]
  rfl

theorem encode_error {encoder : Encoder} {p : Packet} {e : Error}
    (h : encoder.encode p = .error e) : CanFailWith e := by
  cases hp : p.encode with
  | error e' =>
    rw [encode_of_error hp] at h
    cases h
    rw [Packet.encode_error hp]
    split
    · exact .inl rfl
    · exact .inr (.inl rfl)
  | ok bytes =>
    rw [encode_of_ok hp] at h
    split at h
    · cases h
    · cases h
      exact .inr (.inr rfl)

theorem numbered_of_ok {encoder : Encoder} {p : UInt16 → Packet} {bytes : Bytes}
    (h : encoder.encode (p encoder.nextId) = .ok bytes) : encoder.numbered p =
      ({ encoder with lastId := encoder.nextId }, .ok ⟨bytes, encoder.nextId⟩) := by
  unfold numbered
  rw [h]

theorem numbered_of_error {encoder : Encoder} {p : UInt16 → Packet} {e : Error}
    (h : encoder.encode (p encoder.nextId) = .error e) :
    encoder.numbered p = (encoder, .error e) := by
  unfold numbered
  rw [h]

/-- A packet that cannot be encoded uses no id up. -/
theorem numbered_fst_of_error {encoder : Encoder} {p : UInt16 → Packet} {e : Error}
    (h : (encoder.numbered p).2 = .error e) : (encoder.numbered p).1 = encoder := by
  cases hp : encoder.encode (p encoder.nextId) with
  | ok bytes =>
    rw [numbered_of_ok hp] at h
    cases h
  | error e' => rw [numbered_of_error hp]

theorem publish_of_atMostOnce (encoder : Encoder) (topic : String) (payload : Bytes)
    (retain duplicate : Bool) : encoder.publish topic payload .atMostOnce retain duplicate =
      (encoder, (⟨·, 0⟩) <$>
        encoder.encode (.publish ⟨0, topic, .atMostOnce, duplicate, retain, payload⟩)) := by
  unfold publish
  exact if_pos rfl

theorem numbered_error {encoder : Encoder} {p : UInt16 → Packet} {e : Error}
    (h : (encoder.numbered p).2 = .error e) : CanFailWith e := by
  cases hp : encoder.encode (p encoder.nextId) with
  | ok bytes =>
    rw [numbered_of_ok hp] at h
    cases h
  | error e' =>
    rw [numbered_of_error hp] at h
    cases h
    exact encode_error hp

theorem encode_eq_ok_iff {encoder : Encoder} {p : Packet} {bytes : Bytes} :
    encoder.encode p = .ok bytes ↔ p.encode = .ok bytes ∧ bytes.length ≤ encoder.bufferSize := by
  cases hp : p.encode with
  | error e => simp [encode_of_error hp]
  | ok bs =>
    rw [encode_of_ok hp, Except.ok.injEq]
    constructor
    · intro h
      split at h
      · rename_i hsize
        cases h
        exact ⟨rfl, hsize⟩
      · cases h
    · intro ⟨heq, hsize⟩
      rw [heq, if_pos hsize]

/-- What is numbered is the packet that is built around the next id. -/
theorem numbered_eq_ok {encoder : Encoder} {p : UInt16 → Packet} {out : Outgoing}
    (h : (encoder.numbered p).2 = .ok out) :
    out.packetId = encoder.nextId ∧ encoder.encode (p out.packetId) = .ok out.bytes := by
  cases hp : encoder.encode (p encoder.nextId) with
  | error e =>
    rw [numbered_of_error hp] at h
    cases h
  | ok bytes =>
    rw [numbered_of_ok hp] at h
    cases h
    exact ⟨rfl, hp⟩

theorem lastId_numbered {encoder : Encoder} {p : UInt16 → Packet} {out : Outgoing}
    (h : (encoder.numbered p).2 = .ok out) : (encoder.numbered p).1.lastId = out.packetId := by
  cases hp : encoder.encode (p encoder.nextId) with
  | error e =>
    rw [numbered_of_error hp] at h
    cases h
  | ok bytes =>
    rw [numbered_of_ok hp] at h ⊢
    cases h
    rfl

theorem publish_eq_ok {encoder : Encoder} {topic : String} {payload : Bytes} {qos : QoS}
    {retain duplicate : Bool} {out : Outgoing}
    (h : (encoder.publish topic payload qos retain duplicate).2 = .ok out) :
    (qos ≠ .atMostOnce → out.packetId = encoder.nextId) ∧ encoder.encode
      (.publish ⟨out.packetId, topic, qos, duplicate, retain, payload⟩) = .ok out.bytes := by
  unfold publish at h
  dsimp only at h
  split at h
  · rename_i hqos
    cases hp : encoder.encode (.publish ⟨0, topic, qos, duplicate, retain, payload⟩) with
    | error e =>
      rw [hp] at h
      cases h
    | ok bytes =>
      rw [hp] at h
      cases h
      exact ⟨fun hne => absurd hqos hne, hp⟩
  · obtain ⟨hid, hencode⟩ := numbered_eq_ok h
    exact ⟨fun _ => hid, hencode⟩

theorem not_canFailWith_outboxFull : ¬ CanFailWith .outboxFull := by
  intro h
  rcases h with h | h | h <;> cases h

end Encoder
end Mqtt
