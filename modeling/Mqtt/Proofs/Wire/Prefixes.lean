import Mqtt.Proofs.Wire.Header

/-!
What the beginning of some bytes tells of the header stands when more of them come. Only a packet id
may be added, while its packet is not complete, and nothing behind the packet is looked at.
-/

namespace Mqtt.FixedHeader
set_option autoImplicit false

/-- A header is read exactly off a first byte, a spelled length and the beginning of a body. -/
theorem decode_eq_some_iff {bytes : Bytes} {h : FixedHeader} :
    decode bytes = .ok (some h) ↔ ∃ first type size n body, Begins first type
      ∧ VarLength.decode size = .ok (.value n []) ∧ bytes = first :: (size ++ body)
      ∧ h = told first type n size.length body := by
  constructor
  · intro hread
    cases bytes with
    | nil => cases hread
    | cons first rest =>
      by_cases hfirst : ∃ type, Begins first type
      · obtain ⟨type, htype⟩ := hfirst
        rw [decode_of_begins htype] at hread
        split at hread
        · cases hread
        · cases hread
        · rename_i n body hvalue
          obtain ⟨size, rfl, hsize⟩ := VarLength.exists_spelling hvalue
          have hwidth : (size ++ body).length - body.length = size.length := by
            rw [List.length_append, Nat.add_sub_cancel]
          rw [hwidth] at hread
          cases hread
          exact ⟨first, type, size, n, body, htype, hsize, rfl, rfl⟩
      · rw [decode_of_not_begins (not_exists.mp hfirst)] at hread
        cases hread
  · rintro ⟨first, type, size, n, body, htype, hsize, rfl, rfl⟩
    have hvalue := VarLength.decode_append_of_value hsize body
    rw [List.nil_append] at hvalue
    rw [decode_of_begins htype, hvalue]
    simp only [List.length_append, Nat.add_sub_cancel]

theorem decode_append_of_error {bytes : Bytes} {e : Error} (h : decode bytes = .error e)
    (more : Bytes) : decode (bytes ++ more) = .error e := by
  cases bytes with
  | nil => cases h
  | cons first rest =>
    rw [List.cons_append]
    by_cases hfirst : ∃ type, Begins first type
    · obtain ⟨type, htype⟩ := hfirst
      rw [decode_of_begins htype] at h ⊢
      split at h
      · rename_i e' hlength
        cases h
        rw [VarLength.decode_append_of_error hlength]
      · cases h
      · cases h
    · rw [decode_of_not_begins (not_exists.mp hfirst)] at h ⊢
      exact h

/-! ### The packet id -/

theorem leadingId_append_of_some {body : Bytes} {i : UInt16} (h : leadingId body = some i)
    (more : Bytes) : leadingId (body ++ more) = some i := by
  match body with
  | _ :: _ :: _ => exact h

theorem packetIdIn_append_of_some {type : PacketType} {qos : QoS} {body : Bytes} {i : UInt16}
    (h : packetIdIn type qos body = some i) (more : Bytes) :
    packetIdIn type qos (body ++ more) = some i := by
  cases type with
  | publish =>
    by_cases hqos : qos = .atMostOnce
    · have hnone : packetIdIn .publish qos body = none := if_pos hqos
      rw [hnone] at h
      cases h
    · have hsome : ∀ bs, packetIdIn .publish qos bs =
          (leadingId bs).bind fun n => leadingId (bs.drop (n.toNat + 2)) := fun bs => if_neg hqos
      rw [hsome] at h ⊢
      obtain ⟨n, hn, hid⟩ := Option.bind_eq_some_iff.mp h
      rw [leadingId_append_of_some hn, Option.bind_some, List.drop_append]
      exact leadingId_append_of_some hid _
  | puback | pubrec | pubrel | pubcomp | subscribe | suback | unsubscribe | unsuback =>
    exact leadingId_append_of_some h more
  | connect | connack | pingreq | pingresp | disconnect => cases h

theorem packetId_told_append {first : UInt8} {type : PacketType} {n width : Nat} {body : Bytes}
    {i : UInt16} (h : (told first type n width body).packetId = some i) (more : Bytes) :
    (told first type n width (body ++ more)).packetId = some i := by
  have htake : (body ++ more).take n = body.take n ++ more.take (n - body.length) :=
    List.take_append
  simp only [told] at h ⊢
  rw [htake]
  exact packetIdIn_append_of_some h _

/-! ### More bytes -/

/-- Nothing but the packet itself tells of it. -/
theorem decode_of_totalLength_le {bytes : Bytes} {h : FixedHeader}
    (hread : decode bytes = .ok (some h)) (hall : h.totalLength ≤ bytes.length) (more : Bytes) :
    decode (bytes.take h.totalLength ++ more) = .ok (some h) := by
  obtain ⟨first, type, size, n, body, htype, hsize, rfl, rfl⟩ := decode_eq_some_iff.mp hread
  have htotal : (told first type n size.length body).totalLength = size.length + n + 1 := by
    simp only [totalLength, told]
    omega
  rw [htotal] at hall ⊢
  have hbody : n ≤ body.length := by
    simp only [List.length_cons, List.length_append] at hall
    omega
  have htake : (first :: (size ++ body)).take (size.length + n + 1) =
      first :: (size ++ body.take n) := by
    rw [List.take_succ_cons, List.take_length_add_append]
  have hsame : (body.take n ++ more).take n = body.take n :=
    List.take_left' (List.length_take_of_le hbody)
  rw [htake, List.cons_append, List.append_assoc]
  refine decode_eq_some_iff.mpr ⟨first, type, size, n, _, htype, hsize, rfl, ?_⟩
  simp only [told, hsame]

/-- What is told of a header stands however the bytes go on: an error, and all of a header that is
told but for a packet id that has not come yet. -/
theorem header_stands (bytes more : Bytes) :
    (∀ e, decode bytes = .error e → decode (bytes ++ more) = .error e)
    ∧ ∀ h, decode bytes = .ok (some h) →
      (∃ h', decode (bytes ++ more) = .ok (some h') ∧ h' = { h with packetId := h'.packetId }
        ∧ ∀ i, h.packetId = some i → h'.packetId = some i)
      ∧ (h.totalLength ≤ bytes.length →
        decode (bytes ++ more) = .ok (some h)
          ∧ decode (bytes.take h.totalLength ++ more) = .ok (some h)) := by
  refine ⟨fun e he => decode_append_of_error he more, fun h hread => ⟨?_, fun hall => ⟨?_, ?_⟩⟩⟩
  · obtain ⟨first, type, size, n, body, htype, hsize, rfl, rfl⟩ := decode_eq_some_iff.mp hread
    refine ⟨told first type n size.length (body ++ more), ?_, rfl, fun i hi =>
      packetId_told_append hi more⟩
    rw [List.cons_append, List.append_assoc]
    exact decode_eq_some_iff.mpr ⟨first, type, size, n, _, htype, hsize, rfl, rfl⟩
  · have hsplit : bytes ++ more =
        bytes.take h.totalLength ++ (bytes.drop h.totalLength ++ more) := by
      rw [← List.append_assoc, List.take_append_drop]
    rw [hsplit]
    exact decode_of_totalLength_le hread hall _
  · exact decode_of_totalLength_le hread hall more

/-- A message at a QoS that there is not; one whose packet id is cut off, and one that is cut off
behind it; and all of a message. -/
theorem header_stands_of_message :
    let h : FixedHeader := ⟨.publish, 2, .atLeastOnce, false, false, none, 8, 2⟩
    decode ([54] ++ [8, 0]) = .error .malformedPacket
    ∧ (∃ h', decode ([50, 8, 0, 1, 97, 0] ++ [5, 1, 2, 3]) = .ok (some h')
      ∧ h' = { h with packetId := h'.packetId })
    ∧ (∃ h', decode ([50, 8, 0, 1, 97, 0, 5] ++ [1]) = .ok (some h') ∧ h'.packetId = some 5)
    ∧ decode ([50, 8, 0, 1, 97, 0, 5, 1, 2, 3] ++ [50, 8]) =
      .ok (some { h with packetId := some 5 }) := by
  intro h
  let known : FixedHeader := { h with packetId := some 5 }
  refine ⟨(header_stands [54] [8, 0]).1 _ rfl, ?_, ?_, ?_⟩
  · obtain ⟨h', hread, hsame, _⟩ :=
      ((header_stands [50, 8, 0, 1, 97, 0] [5, 1, 2, 3]).2 h rfl).1
    exact ⟨h', hread, hsame⟩
  · obtain ⟨h', hread, _, hid⟩ := ((header_stands [50, 8, 0, 1, 97, 0, 5] [1]).2 known rfl).1
    exact ⟨h', hread, hid 5 rfl⟩
  · exact (((header_stands [50, 8, 0, 1, 97, 0, 5, 1, 2, 3] [50, 8]).2 known rfl).2
      (by decide)).1

end Mqtt.FixedHeader
