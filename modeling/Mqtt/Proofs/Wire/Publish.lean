import Mqtt.Wire.Decoding
import Mqtt.Wire.Encoding
import Mqtt.Proofs.Wire.Connect

/-!
The header of a PUBLISH is read exactly where it was written, and what has been read of a body is
never taken back when more of the body comes.
-/

namespace Mqtt

theorem QoS.ofByte?_eq_some_iff {b : UInt8} {qos : QoS} :
    ofByte? b = some qos ↔ b = qos.toByte := by
  constructor
  · intro h
    unfold ofByte? at h
    split at h <;> cases h <;> exact UInt8.toNat_inj.mp ‹_›
  · rintro rfl
    exact ofByte?_toByte qos

theorem QoS.eq_zero_iff_of_ofByte? {b : UInt8} {qos : QoS} (h : ofByte? b = some qos) :
    b = 0 ↔ qos = .atMostOnce := by
  rw [ofByte?_eq_some_iff] at h
  subst h
  cases qos <;> decide

namespace Publish
set_option autoImplicit false
open Mqtt.Field (Spells)

/-- A message at QoS 0 has no packet id and is never a duplicate; any other has a packet id. -/
def WellFormed (p : Publish) : Prop :=
  if p.qos = .atMostOnce then p.packetId = 0 ∧ p.duplicate = false else p.packetId ≠ 0

instance (p : Publish) : Decidable p.WellFormed := by unfold WellFormed; infer_instance

set_option maxRecDepth 2000 in
theorem eq_firstByte_of_qos {qos : QoS} : ∀ first : UInt8, first >>> 4 = 3 →
    QoS.ofByte? ((first >>> 1) &&& 3) = some qos →
    first = firstByte qos (first &&& 8 ≠ 0) (first &&& 1 ≠ 0) :=
  forall_byte (by cases qos <;> decide)

theorem eq_firstByte_iff {first : UInt8} {qos : QoS} {duplicate retain : Bool} :
    first = firstByte qos duplicate retain ↔
      first >>> 4 = 3 ∧ QoS.ofByte? ((first >>> 1) &&& 3) = some qos
        ∧ duplicate = decide (first &&& 8 ≠ 0) ∧ retain = decide (first &&& 1 ≠ 0) := by
  constructor
  · intro h
    subst h
    cases qos <;> cases duplicate <;> cases retain <;> decide
  · intro h
    obtain ⟨hkind, hqos, rfl, rfl⟩ := h
    exact eq_firstByte_of_qos first hkind hqos

/-- The fields before the payload. -/
def headerFields (p : Publish) : List Field :=
  if p.qos = .atMostOnce then [.text p.topic] else [.text p.topic, .uint16 p.packetId]

def headerLength (p : Publish) : Nat :=
  2 + p.topic.utf8ByteSize + if p.qos = .atMostOnce then 0 else 2

theorem length_headerFields (p : Publish) :
    (p.headerFields.flatMap Field.bytes).length = p.headerLength := by
  unfold headerFields headerLength
  split
  · simp
  · rw [List.flatMap_cons, List.length_append, Field.length_bytes_text]
    rfl

theorem toUInt16_of_spells_text {s : String} {bs rest : Bytes} (h : Spells [.text s] bs rest) :
    ∃ hi lo tail, bs = hi :: lo :: tail ∧ (Bytes.toUInt16 hi lo).toNat = s.utf8ByteSize := by
  obtain ⟨hfit, rfl⟩ := h
  rw [List.forall_mem_singleton] at hfit
  have hsize := Bytes.length_ofText s
  simp only [Field.text, Field.Fits, Field.maximumSize, hsize] at hfit
  refine ⟨(s.utf8ByteSize.toUInt16 >>> 8).toUInt8, s.utf8ByteSize.toUInt16.toUInt8,
    Bytes.ofText s ++ rest, ?_, ?_⟩
  · simp [Field.text, Field.bytes, Bytes.ofUInt16]
  · rw [Bytes.toUInt16_ofUInt16]
    simp only [Nat.toUInt16_eq, UInt16.toNat_ofNat']
    omega

theorem headerSize_of_spells {p : Publish} {first : UInt8} {bs rest : Bytes}
    (hqos : QoS.ofByte? ((first >>> 1) &&& 3) = some p.qos) (h : Spells p.headerFields bs rest) :
    headerSize first bs = p.headerLength := by
  have htopic : ∃ mid, Spells [.text p.topic] bs mid := by
    unfold headerFields at h
    split at h
    · exact ⟨rest, h⟩
    · obtain ⟨mid, hmid, _⟩ := Field.spells_cons.mp h
      exact ⟨mid, hmid⟩
  obtain ⟨mid, hmid⟩ := htopic
  obtain ⟨hi, lo, tail, rfl, hsize⟩ := toUInt16_of_spells_text hmid
  unfold headerSize headerLength
  simp only [hsize, QoS.eq_zero_iff_of_ofByte? hqos]

theorem headerLength_le_of_spells {p : Publish} {bs rest : Bytes}
    (h : Spells p.headerFields bs rest) : p.headerLength ≤ bs.length := by
  rw [← length_headerFields, h.2, List.length_append]
  omega

/-- A header that is read is well-formed, and spelled at the front of the bytes. -/
theorem of_decodeHeader_eq_some {first : UInt8} {bs : Bytes} {p : Publish} {used : Nat}
    (h : decodeHeader first bs = .ok (some (p, used))) :
    p.WellFormed ∧ p.payload = [] ∧ first = firstByte p.qos p.duplicate p.retain
      ∧ used = p.headerLength ∧ ∃ rest, Spells p.headerFields bs rest := by
  unfold decodeHeader at h
  split at h
  · cases h
  rename_i hkind
  split at h
  · cases h
  rename_i qos hqos
  dsimp only at h
  split at h
  · cases h
  rename_i hdup
  split at h
  · cases h
  cases htext : Reader.text bs with
  | error e =>
    rw [htext] at h
    cases h
  | ok r =>
    obtain ⟨topic, mid⟩ := r
    rw [htext] at h
    have hmid := Reader.text_eq_ok_iff.mp htext
    simp only [bind, Except.bind] at h
    split at h
    · rename_i hzero
      simp only [Except.ok.injEq, Option.some.injEq, Prod.mk.injEq] at h
      obtain ⟨rfl, rfl⟩ := h
      have hspells : Spells (headerFields ⟨0, topic, qos, decide (first &&& 8 ≠ 0),
          decide (first &&& 1 ≠ 0), []⟩) bs mid := by
        simpa [headerFields, hzero] using hmid
      refine ⟨?_, rfl, ?_, headerSize_of_spells hqos hspells, mid, hspells⟩
      · simpa [WellFormed, hzero] using hdup
      · exact eq_firstByte_iff.mpr ⟨by simpa using hkind, hqos, rfl, rfl⟩
    · rename_i hnonzero
      cases hid : Reader.uint16 mid with
      | error e =>
        rw [hid] at h
        cases h
      | ok r =>
        obtain ⟨packetId, rest⟩ := r
        rw [hid] at h
        dsimp only at h
        split at h
        · cases h
        rename_i hidpos
        simp only [Except.ok.injEq, Option.some.injEq, Prod.mk.injEq] at h
        obtain ⟨rfl, rfl⟩ := h
        have hspells : Spells (headerFields ⟨packetId, topic, qos, decide (first &&& 8 ≠ 0),
            decide (first &&& 1 ≠ 0), []⟩) bs rest := by
          simp only [headerFields, if_neg hnonzero]
          exact Field.spells_cons.mpr ⟨mid, hmid, Reader.uint16_eq_ok_iff.mp hid⟩
        refine ⟨?_, rfl, ?_, headerSize_of_spells hqos hspells, rest, hspells⟩
        · simpa [WellFormed, hnonzero] using hidpos
        · exact eq_firstByte_iff.mpr ⟨by simpa using hkind, hqos, rfl, rfl⟩

/-- A well-formed header that is spelled at the front of the bytes is read. -/
theorem decodeHeader_of_spells {first : UInt8} {bs rest : Bytes} {p : Publish}
    (hwf : p.WellFormed) (hpayload : p.payload = [])
    (hfirst : first = firstByte p.qos p.duplicate p.retain)
    (hspells : Spells p.headerFields bs rest) :
    decodeHeader first bs = .ok (some (p, p.headerLength)) := by
  obtain ⟨hkind, hqos, hdup, hretain⟩ := eq_firstByte_iff.mp hfirst
  have hsize := headerSize_of_spells hqos hspells
  have hlen := headerLength_le_of_spells hspells
  obtain ⟨packetId, topic, qos, duplicate, retain, payload⟩ := p
  dsimp only at hpayload hqos hdup hretain
  subst hpayload hdup hretain
  unfold decodeHeader
  rw [if_neg (by simp [hkind]), hqos]
  dsimp only
  rw [hsize, if_neg, if_neg]
  · unfold headerFields at hspells
    unfold WellFormed at hwf
    dsimp only at hspells hwf
    split at hspells
    · rename_i hzero
      rw [if_pos hzero] at hwf
      simp only [Reader.text_eq_ok_iff.mpr hspells, bind, Except.bind, if_pos hzero, hwf.1]
    · rename_i hnonzero
      rw [if_neg hnonzero] at hwf
      obtain ⟨mid, hmid, hid⟩ := Field.spells_cons.mp hspells
      simp only [Reader.text_eq_ok_iff.mpr hmid, Reader.uint16_eq_ok_iff.mpr hid, bind,
        Except.bind, if_neg hnonzero, if_neg hwf]
  · rw [List.length_take]
    omega
  · intro h
    obtain ⟨hzero, hdup⟩ := h
    unfold WellFormed at hwf
    rw [if_pos hzero] at hwf
    exact Bool.false_ne_true (hwf.2.symm.trans hdup)

theorem decodeHeader_eq_some_iff {first : UInt8} {bs : Bytes} {p : Publish} {used : Nat} :
    decodeHeader first bs = .ok (some (p, used)) ↔
      p.WellFormed ∧ p.payload = [] ∧ first = firstByte p.qos p.duplicate p.retain
        ∧ used = p.headerLength ∧ ∃ rest, Spells p.headerFields bs rest := by
  constructor
  · exact of_decodeHeader_eq_some
  · intro ⟨hwf, hpayload, hfirst, hused, rest, hspells⟩
    rw [hused]
    exact decodeHeader_of_spells hwf hpayload hfirst hspells

/-! ### Unfinished bodies -/

/-- Whether a PUBLISH can begin with this byte. -/
def Opens (first : UInt8) : Prop :=
  ∃ qos duplicate retain, first = firstByte qos duplicate retain
    ∧ (qos = .atMostOnce → duplicate = false)

theorem WellFormed.opens {p : Publish} (h : p.WellFormed) {first : UInt8}
    (hfirst : first = firstByte p.qos p.duplicate p.retain) : Opens first := by
  refine ⟨_, _, _, hfirst, fun hzero => ?_⟩
  unfold WellFormed at h
  rw [if_pos hzero] at h
  exact h.2

theorem two_le_headerSize (first : UInt8) (bs : Bytes) : 2 ≤ headerSize first bs := by
  unfold headerSize
  split
  · omega
  · exact Nat.le_refl 2

theorem headerSize_of_short {first : UInt8} {bs : Bytes} (h : bs.length < 2) :
    headerSize first bs = 2 := by
  match bs with
  | [] | [_] => rfl

/-- A topic, the two lengths before it, and a packet id. -/
theorem headerSize_le (first : UInt8) (bs : Bytes) : headerSize first bs ≤ 65539 := by
  unfold headerSize
  split
  · rename_i hi lo _
    have htopic := (Bytes.toUInt16 hi lo).toNat_lt
    split <;> omega
  · decide

theorem headerSize_append {first : UInt8} {bs : Bytes} (h : 2 ≤ bs.length) (more : Bytes) :
    headerSize first (bs ++ more) = headerSize first bs := by
  match bs with
  | _ :: _ :: _ => rfl

theorem headerSize_le_append (first : UInt8) (bs more : Bytes) :
    headerSize first bs ≤ headerSize first (bs ++ more) := by
  rcases Nat.lt_or_ge bs.length 2 with hshort | hlong
  · rw [headerSize_of_short hshort]
    exact two_le_headerSize first (bs ++ more)
  · exact Nat.le_of_eq (headerSize_append hlong more).symm

theorem headerSize_of_decodeHeader {first : UInt8} {bs : Bytes} {p : Publish} {used : Nat}
    (h : decodeHeader first bs = .ok (some (p, used))) : headerSize first bs = used := by
  obtain ⟨_, _, hfirst, hused, rest, hspells⟩ := decodeHeader_eq_some_iff.mp h
  rw [hused]
  exact headerSize_of_spells (eq_firstByte_iff.mp hfirst).2.1 hspells

theorem decodeHeader_eq_none_iff {first : UInt8} {bs : Bytes} :
    decodeHeader first bs = .ok none ↔ Opens first ∧ bs.length < headerSize first bs := by
  constructor
  · intro h
    unfold decodeHeader at h
    split at h
    · cases h
    rename_i hkind
    split at h
    · cases h
    rename_i qos hqos
    dsimp only at h
    split at h
    · cases h
    rename_i hdup
    split at h
    · rename_i hshort
      rw [List.length_take] at hshort
      refine ⟨⟨qos, _, _, eq_firstByte_iff.mpr ⟨by simpa using hkind, hqos, rfl, rfl⟩, ?_⟩, by omega⟩
      intro hzero
      simpa [hzero] using hdup
    · exfalso
      cases htext : Reader.text bs with
      | error e =>
        rw [htext] at h
        cases h
      | ok r =>
        rw [htext] at h
        simp only [bind, Except.bind] at h
        split at h
        · simp at h
        cases hid : Reader.uint16 r.2 with
        | error e =>
          rw [hid] at h
          cases h
        | ok r' =>
          rw [hid] at h
          dsimp only at h
          split at h <;> simp at h
  · intro h
    obtain ⟨⟨qos, duplicate, retain, hfirst, hdup⟩, hshort⟩ := h
    obtain ⟨hkind, hqos, rfl, rfl⟩ := eq_firstByte_iff.mp hfirst
    unfold decodeHeader
    rw [if_neg (by simp [hkind]), hqos]
    dsimp only
    rw [if_neg, if_pos]
    · rw [List.length_take]
      omega
    · intro h
      obtain ⟨hzero, hset⟩ := h
      exact Bool.false_ne_true ((hdup hzero).symm.trans hset)

/-- A header that is known not to be there whole need not be looked for before enough has come. -/
theorem decodeHeader_append_of_none {first : UInt8} {bs more : Bytes}
    (h : decodeHeader first bs = .ok none) (hshort : (bs ++ more).length < headerSize first bs) :
    headerSize first (bs ++ more) = headerSize first bs
      ∧ decodeHeader first (bs ++ more) = .ok none := by
  have hsize : headerSize first (bs ++ more) = headerSize first bs := by
    by_cases htwo : 2 ≤ bs.length
    · exact headerSize_append htwo more
    · have htwo' := @headerSize_of_short first bs (by omega)
      rw [htwo'] at hshort
      rw [htwo', headerSize_of_short hshort]
  obtain ⟨hopens, _⟩ := decodeHeader_eq_none_iff.mp h
  exact ⟨hsize, decodeHeader_eq_none_iff.mpr ⟨hopens, hsize ▸ hshort⟩⟩

theorem decodeHeader_append_of_some {first : UInt8} {bs : Bytes} {r : Publish × Nat}
    (h : decodeHeader first bs = .ok (some r)) (more : Bytes) :
    decodeHeader first (bs ++ more) = .ok (some r) := by
  obtain ⟨p, used⟩ := r
  obtain ⟨hwf, hpayload, hfirst, hused, rest, hspells⟩ := decodeHeader_eq_some_iff.mp h
  exact decodeHeader_eq_some_iff.mpr
    ⟨hwf, hpayload, hfirst, hused, rest ++ more, hspells.extend more⟩

theorem decodeHeader_append_of_error {first : UInt8} {bs : Bytes} {e : Error}
    (h : decodeHeader first bs = .error e) (more : Bytes) :
    ∃ e', decodeHeader first (bs ++ more) = .error e' := by
  -- A header that is cut short is no error, so all of it is in the bytes that came first.
  have hlong : Opens first → headerSize first bs ≤ bs.length := by
    intro hopens
    refine Nat.le_of_not_lt fun hshort => ?_
    rw [decodeHeader_eq_none_iff.mpr ⟨hopens, hshort⟩] at h
    cases h
  match hmore : decodeHeader first (bs ++ more) with
  | .error e' => exact ⟨e', rfl⟩
  | .ok none =>
    obtain ⟨hopens, hshort⟩ := decodeHeader_eq_none_iff.mp hmore
    have hsize := hlong hopens
    rw [headerSize_append (Nat.le_trans (two_le_headerSize first bs) hsize),
      List.length_append] at hshort
    omega
  | .ok (some (p, used)) =>
    obtain ⟨hwf, hpayload, hfirst, hused, rest, hspells⟩ := decodeHeader_eq_some_iff.mp hmore
    have hsize := hlong (hwf.opens hfirst)
    have hlength := headerSize_of_spells (eq_firstByte_iff.mp hfirst).2.1 hspells
    rw [headerSize_append (Nat.le_trans (two_le_headerSize first bs) hsize)] at hlength
    obtain ⟨hfit, hbytes⟩ := hspells
    have hfront : (p.headerFields.flatMap Field.bytes).length ≤ bs.length := by
      rw [length_headerFields, ← hlength]
      exact hsize
    obtain ⟨tail, htail⟩ := List.prefix_of_prefix_length_le ⟨rest, hbytes.symm⟩
      (List.prefix_append bs more) hfront
    rw [decodeHeader_eq_some_iff.mpr ⟨hwf, hpayload, hfirst, hused, tail, hfit, htail.symm⟩] at h
    cases h

end Publish
end Mqtt
