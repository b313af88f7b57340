import Mqtt.Proofs.Wire.Packet

/-!
# When a packet can be written

A packet is written where its parts fit in their own length fields and its body in the length field
of the packet. Then just as many bytes follow the length field as it says, and what was in the
buffer before is never touched.
-/

namespace Mqtt
set_option autoImplicit false

namespace Field

theorem fits_byte (b : UInt8) : (byte b).Fits := trivial

theorem fits_uint16 (n : UInt16) : (uint16 n).Fits := trivial

theorem fits_plain (bs : Bytes) : (plain bs).Fits := trivial

theorem fits_sized {bs : Bytes} : (sized bs).Fits ↔ bs.length ≤ maximumSize := Iff.rfl

theorem fits_text {s : String} : (text s).Fits ↔ s.utf8ByteSize ≤ maximumSize := by
  unfold text
  rw [fits_sized, Bytes.length_ofText]

theorem encodeAll_ok_iff {fs : List Field} :
    (encodeAll fs).2 = .ok () ↔ ∀ f ∈ fs, f.Fits := by
  constructor
  · intro h
    exact (encodeAll_eq_ok_iff.mp (Prod.ext rfl h)).1
  · intro h
    rw [encodeAll_eq_ok_iff.mpr ⟨h, rfl⟩]

end Field

namespace Packet
open Mqtt.Field (maximumSize)

/-- The sizes of the parts that are written after a length of their own. -/
def sizes : Packet → List Nat
  | connect c =>
    c.clientId.utf8ByteSize
      :: (match c.will with
        | some w => [w.topic.utf8ByteSize, w.payload.length]
        | none => [])
      ++ (c.username.map String.utf8ByteSize).toList
      ++ (c.password.map List.length).toList
  | publish p => [p.topic.utf8ByteSize]
  | subscribe _ subs => subs.map fun s => s.filter.utf8ByteSize
  | unsubscribe _ filters => filters.map String.utf8ByteSize
  | _ => []

theorem fits_iff (p : Packet) :
    (∀ f ∈ p.fields, f.Fits) ↔ ∀ size ∈ p.sizes, size ≤ maximumSize := by
  cases p with
  | connect c =>
    obtain ⟨clientId, keepAlive, cleanSession, username, password, will⟩ := c
    have hname : (Field.text Connect.protocolName).Fits := by
      rw [Field.fits_text]
      decide
    cases will <;> cases username <;> cases password <;>
      simp [fields, Connect.fields, sizes, hname, Field.fits_text, Field.fits_sized,
        Field.fits_byte, Field.fits_uint16]
  | publish q =>
    rw [fields_publish]
    unfold Publish.headerFields
    split <;> simp [sizes, Field.fits_text, Field.fits_uint16, Field.fits_plain]
  | subscribe i subs =>
    simp only [fields, sizes, List.forall_mem_cons, List.forall_mem_flatMap, List.forall_mem_map,
      Field.fits_uint16, Field.fits_text, Field.fits_byte]
    simp
  | unsubscribe i filters =>
    simp [fields, sizes, Field.fits_uint16, Field.fits_text]
  | suback i codes => simp [fields, sizes, Field.fits_uint16, Field.fits_plain]
  | _ => simp [fields, sizes, Field.fits_uint16, Field.fits_byte]

variable {p : Packet} {buffer : Bytes} {e : Error}

/-- A body that is too long is found out after the first byte. -/
theorem writeTo_of_long (h : VarLength.maximum < p.remainingLength) :
    p.writeTo buffer = (buffer ++ [p.firstByte], .error .variableLengthIntegerMaximumExceeded) := by
  unfold writeTo VarLength.encode
  rw [if_neg (Nat.not_le.mpr h)]

theorem writeTo_of_short (h : p.remainingLength ≤ VarLength.maximum) : p.writeTo buffer =
    (buffer ++ p.firstByte :: (VarLength.digits p.remainingLength ++ (Field.encodeAll p.fields).1),
      (Field.encodeAll p.fields).2) := by
  unfold writeTo VarLength.encode
  rw [if_pos h]

theorem writeTo_ok_iff : (p.writeTo buffer).2 = .ok () ↔
    (∀ size ∈ p.sizes, size ≤ maximumSize) ∧ p.remainingLength ≤ VarLength.maximum := by
  rcases Nat.lt_or_ge VarLength.maximum p.remainingLength with hlong | hshort
  · rw [writeTo_of_long hlong]
    constructor
    · intro h
      cases h
    · intro h
      omega
  · rw [writeTo_of_short hshort, Field.encodeAll_ok_iff, fits_iff]
    exact (and_iff_left hshort).symm

theorem writeTo_of_ok (h : (p.writeTo buffer).2 = .ok ()) (prior : Bytes) : p.writeTo prior =
    (prior ++ p.firstByte :: (VarLength.digits p.remainingLength ++ p.fields.flatMap Field.bytes),
      .ok ()) := by
  obtain ⟨hsizes, hshort⟩ := writeTo_ok_iff.mp h
  have hspells : Field.Spells p.fields (p.fields.flatMap Field.bytes) [] :=
    ⟨p.fits_iff.mpr hsizes, (List.append_nil _).symm⟩
  rw [writeTo_of_short hshort, Field.encodeAll_eq_ok_iff.mpr hspells]

theorem writeTo_error (h : (p.writeTo buffer).2 = .error e) :
    e = if VarLength.maximum < p.remainingLength then .variableLengthIntegerMaximumExceeded
      else .payloadTooLarge := by
  rcases Nat.lt_or_ge VarLength.maximum p.remainingLength with hlong | hshort
  · rw [writeTo_of_long hlong] at h
    rw [if_pos hlong]
    cases h
    rfl
  · rw [writeTo_of_short hshort] at h
    rw [if_neg (Nat.not_lt.mpr hshort)]
    exact Field.encodeAll_error h

theorem prior_writeTo (p : Packet) (buffer : Bytes) : buffer <+: (p.writeTo buffer).1 := by
  rcases Nat.lt_or_ge VarLength.maximum p.remainingLength with hlong | hshort
  · rw [writeTo_of_long hlong]
    exact List.prefix_append _ _
  · rw [writeTo_of_short hshort]
    exact List.prefix_append _ _

theorem encode_error (h : p.encode = .error e) :
    e = if VarLength.maximum < p.remainingLength then .variableLengthIntegerMaximumExceeded
      else .payloadTooLarge := by
  unfold encode at h
  split at h
  · cases h
  · rename_i bs e' hwrite
    cases h
    exact writeTo_error (congrArg Prod.snd hwrite)

/-- A packet is written just where its parts and its body fit. As many bytes follow the length as it
says, whatever the buffer held, and the length is in its shortest spelling. -/
theorem declared_length_is_truthful (p : Packet) (buffer : Bytes) :
    ((p.writeTo buffer).2 = .ok () ↔
      (∀ size ∈ p.sizes, size ≤ maximumSize) ∧ p.remainingLength ≤ VarLength.maximum)
    ∧ ((p.writeTo buffer).2 = .ok () → ∃ length body,
      (∀ prior, p.writeTo prior = (prior ++ p.firstByte :: (length ++ body), .ok ()))
      ∧ body.length = p.remainingLength
      ∧ VarLength.encode p.remainingLength = .ok length
      ∧ ∀ spelling rest,
        VarLength.decode (spelling ++ rest) = .ok (.value p.remainingLength rest) →
        length.length ≤ spelling.length ∧ (length.length = spelling.length → spelling = length))
    ∧ ∀ e, (p.writeTo buffer).2 = .error e → buffer <+: (p.writeTo buffer).1
      ∧ e = if VarLength.maximum < p.remainingLength then .variableLengthIntegerMaximumExceeded
        else .payloadTooLarge := by
  refine ⟨writeTo_ok_iff, ?_, fun e he => ⟨prior_writeTo p buffer, writeTo_error he⟩⟩
  intro h
  obtain ⟨hencode, hminimal⟩ := VarLength.encode_minimal (writeTo_ok_iff.mp h).2
  exact ⟨_, _, writeTo_of_ok h, p.length_body, hencode, hminimal⟩

/-- A SUBSCRIBE behind other bytes, and a CONNECT whose password is too long by one byte. -/
theorem declared_length_is_truthful_of_two :
    let subscribe : Packet := .subscribe 7 [⟨"a/b", .atLeastOnce⟩, ⟨"c", .atMostOnce⟩]
    let connect : Packet := .connect ⟨"", 0, true, none, some (List.replicate 65536 0), none⟩
    (∃ body, (subscribe.writeTo [1, 2]).1 = 1 :: 2 :: 0x82 :: 12 :: body ∧ body.length = 12)
    ∧ (connect.writeTo [1, 2]).2 = .error .payloadTooLarge
    ∧ [1, 2] <+: (connect.writeTo [1, 2]).1 := by
  intro subscribe connect
  constructor
  · have hsize : subscribe.remainingLength = 12 := by decide
    have hfirst : subscribe.firstByte = 0x82 := by decide
    obtain ⟨hiff, hwritten, _⟩ := declared_length_is_truthful subscribe [1, 2]
    obtain ⟨length, body, hwrite, hbody, hlength, _⟩ := hwritten (hiff.mpr (by decide))
    rw [hsize] at hbody hlength
    have htwelve : VarLength.encode 12 = .ok [12] := by
      simp [VarLength.encode, VarLength.digits, VarLength.maximum]
    rw [htwelve, Except.ok.injEq] at hlength
    subst hlength
    refine ⟨body, ?_, hbody⟩
    rw [hwrite, hfirst]
    rfl
  · obtain ⟨password, hpassword⟩ : ∃ bs, bs = List.replicate 65536 (0 : UInt8) := ⟨_, rfl⟩
    have hconnect : connect = .connect ⟨"", 0, true, none, some password, none⟩ := by rw [hpassword]
    have hlong : password.length = 65536 := by rw [hpassword, List.length_replicate]
    clear_value connect
    obtain ⟨hiff, _, hfails⟩ := declared_length_is_truthful connect [1, 2]
    cases hresult : (connect.writeTo [1, 2]).2 with
    | ok u =>
      have hfits := (hiff.mp hresult).1 password.length (by simp [hconnect, sizes])
      rw [hlong] at hfits
      exact absurd hfits (by decide)
    | error e =>
      obtain ⟨hprior, he⟩ := hfails e hresult
      have hsize : connect.remainingLength = 14 + password.length := by
        simp [hconnect, remainingLength, Connect.remainingLength]
        omega
      rw [hsize, hlong, if_neg (by decide)] at he
      exact ⟨congrArg Except.error he, hprior⟩

end Packet

namespace VarLength

/-- A number up to `maximum` is written in as many bytes as `encodedSize` says. They are read back
whatever stands behind them, and not before the last of them has come. Only such numbers are read,
and no other spelling of one is as short as the written one. A larger number is not written, so
nothing follows the first byte of a packet of that length. -/
theorem numbers_read_back :
    (∀ n ≤ maximum, ∃ bytes, encode n = .ok bytes ∧ encodedSize n = .ok bytes.length
      ∧ (∀ rest, decode (bytes ++ rest) = .ok (.value n rest))
      ∧ (∀ front, front <+: bytes → front ≠ bytes → decode front = .ok .incomplete)
      ∧ ∀ (p : Packet) buffer, p.remainingLength = n →
        ∃ body, (p.writeTo buffer).1 = buffer ++ p.firstByte :: (bytes ++ body))
    ∧ (∀ bs n rest, decode bs = .ok (.value n rest) → n ≤ maximum
      ∧ ∃ spelling bytes, bs = spelling ++ rest ∧ encode n = .ok bytes
        ∧ 1 ≤ spelling.length ∧ spelling.length ≤ 4 ∧ bytes.length ≤ spelling.length
        ∧ (bytes.length = spelling.length ↔ spelling = bytes))
    ∧ ∀ n, maximum < n → encode n = .error .variableLengthIntegerMaximumExceeded
      ∧ encodedSize n = .error .variableLengthIntegerMaximumExceeded
      ∧ ∀ (p : Packet) buffer, p.remainingLength = n →
        p.writeTo buffer = (buffer ++ [p.firstByte], .error .variableLengthIntegerMaximumExceeded) := by
  refine ⟨?_, ?_, ?_⟩
  · intro n hn
    have hread : decode (digits n) = .ok (.value n []) := by
      simpa using decode_digits hn []
    refine ⟨digits n, if_pos hn, encodedSize_of_le hn, decode_digits hn, ?_, ?_⟩
    · intro front hfront hne
      rw [List.prefix_iff_eq_take.mp hfront]
      refine decode_take hread (Nat.lt_of_le_of_ne hfront.length_le fun hlength => ?_)
      exact hne (hfront.eq_of_length hlength)
    · rintro p buffer rfl
      exact ⟨_, congrArg Prod.fst (Packet.writeTo_of_short hn)⟩
  · intro bs n rest hread
    have hn := le_maximum_of_decode hread
    obtain ⟨hencode, hminimal⟩ := encode_minimal hn
    obtain ⟨spelling, rfl, hspelling⟩ := exists_spelling hread
    obtain ⟨hshort, hsame⟩ := hminimal spelling rest hread
    have hpos : 0 < (digits n).length := List.length_pos_iff.mpr (digits_ne_nil n)
    refine ⟨hn, spelling, digits n, rfl, hencode, by omega, ?_, hshort, hsame, ?_⟩
    · exact length_le_of_decodeUpTo hspelling
    · rintro rfl
      rfl
  · intro n hn
    refine ⟨encode_of_lt hn, encodedSize_of_lt hn, ?_⟩
    rintro p buffer rfl
    exact Packet.writeTo_of_long hn

/-- 300 in its two bytes and in a spelling of three, and the first number that is too large. -/
theorem numbers_read_back_of_padded :
    (∃ bytes, encode 300 = .ok bytes ∧ bytes.length = 2
      ∧ decode (bytes ++ [7]) = .ok (.value 300 [7]))
    ∧ (∃ spelling bytes : Bytes, [172, 130, 0, 7] = spelling ++ [7] ∧ encode 300 = .ok bytes
      ∧ bytes.length < spelling.length)
    ∧ encode 268435456 = .error .variableLengthIntegerMaximumExceeded := by
  obtain ⟨hwritten, hread, hlong⟩ := numbers_read_back
  obtain ⟨bytes, hencode, hsize, hback, -⟩ := hwritten 300 (by decide)
  have htwo : bytes.length = 2 := (Except.ok.inj hsize).symm
  obtain ⟨-, spelling, bytes', hbytes, hencode', -⟩ := hread [172, 130, 0, 7] 300 [7] rfl
  have hthree := congrArg List.length hbytes
  simp only [List.length_append, List.length_cons, List.length_nil] at hthree
  rw [hencode, Except.ok.injEq] at hencode'
  subst hencode'
  refine ⟨⟨bytes, hencode, htwo, hback [7]⟩, ⟨spelling, bytes, hbytes, hencode, by omega⟩, ?_⟩
  exact (hlong 268435456 (by decide)).1

end VarLength
end Mqtt
