import Mqtt.Proofs.Decoder.Cuttings
import Mqtt.Proofs.Wire.Prefixes

/-!
A header, a packet and a decoder make the same of the same bytes: the header tells what the packet
will be, and the decoder takes for it as many bytes as the header says.
-/

namespace Mqtt
set_option autoImplicit false

/-! ### First bytes -/

namespace Publish
open FixedHeader (flagsAllowed)

set_option maxRecDepth 2000 in
theorem ofByte?_of_not_flagsAllowed : ∀ first : UInt8,
    ¬ flagsAllowed .publish (first &&& 0x0f) = true → QoS.ofByte? ((first >>> 1) &&& 3) = none :=
  forall_byte (by decide)

theorem decode_of_not_flagsAllowed {first : UInt8}
    (h : ¬ flagsAllowed .publish (first &&& 0x0f) = true) (body : Bytes) :
    decode first body = .error .malformedPacket := by
  unfold decode decodeHeader
  rw [ofByte?_of_not_flagsAllowed first h]
  by_cases hkind : first >>> 4 = 3
  · rw [if_neg (not_not.mpr hkind)]
  · rw [if_pos hkind]

end Publish

namespace Packet
open FixedHeader (Begins flagsAllowed)

theorem decode_of_not_begins {first : UInt8} (h : ∀ type, ¬ Begins first type) (body : Bytes) :
    decode first body = .error .malformedPacket := by
  unfold decode
  cases hcode : PacketType.ofCode? (first >>> 4) with
  | none => rfl
  | some type =>
    have hflags : ¬ flagsAllowed type (first &&& 0x0f) = true := fun hflags =>
      h type ⟨hcode, hflags⟩
    dsimp only
    by_cases htype : type = .publish
    · subst htype
      rw [if_neg (fun hne => hne.1 rfl)]
      dsimp only
      rw [Publish.decode_of_not_flagsAllowed hflags]
      rfl
    · have hfirst : first ≠ type.firstByte := by
        intro heq
        rw [heq] at hflags
        exact hflags (FixedHeader.flagsAllowed_fixed type htype)
      rw [if_pos ⟨htype, hfirst⟩]

/-- What is wrong with a header, apart from its length, is wrong with every packet. -/
theorem decode_of_header_error {first : UInt8} {rest : Bytes} {e : Error}
    (h : FixedHeader.decode (first :: rest) = .error e) (hlength : VarLength.decode rest ≠ .error e)
    (body : Bytes) : decode first body = .error e := by
  by_cases hfirst : ∃ type, Begins first type
  · obtain ⟨type, htype⟩ := hfirst
    rw [FixedHeader.decode_of_begins htype] at h
    split at h
    · rename_i hsize
      cases h
      exact absurd hsize hlength
    · cases h
    · cases h
  · have hnone := not_exists.mp hfirst
    rw [FixedHeader.decode_of_not_begins hnone] at h
    cases h
    exact decode_of_not_begins hnone body

end Packet

/-! ### A frame that has not come whole -/

namespace Decoder
open DecodedItem (joined)

variable {limit : Nat} {first : UInt8}

/-- A result in the middle of a packet, none of which has been delivered whole. -/
def IsPartial (r : State × List DecodedItem) : Prop :=
  r.1 ≠ .start ∧ ∀ item ∈ r.2, item.toPacket? = none

theorem isPartial_of_nil {state : State} (h : state ≠ .start) : IsPartial (state, []) :=
  ⟨h, List.forall_mem_nil _⟩

theorem run_length_take {n i : Nat} {seen spelling : Bytes}
    (hdecode : VarLength.decode (seen ++ spelling) = .ok (.value n [])) (hi : i < spelling.length) :
    run limit (.length first seen) (spelling.take i) =
      (.length first (seen ++ spelling.take i), []) := by
  induction i generalizing seen spelling with
  | zero => rw [List.take_zero, List.append_nil, run_length_nil]
  | succ i ih =>
    cases spelling with
    | nil => cases hi
    | cons b spelling =>
      have hi' : i < spelling.length := Nat.lt_of_succ_lt_succ hi
      have hmove : seen ++ b :: spelling = seen ++ [b] ++ spelling := by simp
      rw [List.take_succ_cons, run_length_part hdecode (List.ne_nil_of_length_pos (by omega))]
      rw [hmove] at hdecode
      rw [ih hdecode hi', List.append_assoc]
      rfl

theorem isPartial_body {size : Nat} {front : Bytes} (h : front.length < size) :
    IsPartial (run limit (.body first size .empty) front) := by
  rw [run_body_short h]
  exact isPartial_of_nil State.noConfusion

/-- The payload of a message that has not come whole is short of its size. -/
theorem isPartial_payload {p : Publish} {total : Nat} {held : Bytes} (h : held.length < total) :
    IsPartial (run limit (.payload p total 0 held) []) := by
  by_cases hheld : held = []
  · rw [run_payload_none (by rw [hheld, List.take_nil, List.append_nil])]
    exact isPartial_of_nil State.noConfusion
  · rw [run_payload_some (by rw [List.take_nil, List.append_nil]) hheld, if_neg (by omega)]
    refine ⟨State.noConfusion, List.forall_mem_singleton.mpr (if_neg fun hwhole => ?_)⟩
    exact Nat.ne_of_lt h hwhole.2

theorem isPartial_header {size : Nat} {front : Bytes} (h : front.length < size) :
    IsPartial (run limit (.header first size 0 .empty) front) := by
  by_cases hfront : front = []
  · rw [hfront, run_header_nil]
    exact isPartial_of_nil State.noConfusion
  have hall : front.take (size - Gathered.empty.size) = front :=
    List.take_of_length_le (Nat.le_of_lt h)
  have hnone : front.drop (size - Gathered.empty.size) = [] :=
    List.drop_of_length_le (Nat.le_of_lt h)
  have hsize : (Gathered.empty.append front).size = front.length := Nat.zero_add _
  rw [run_header hfront, hall, hnone]
  unfold readHeader
  rw [if_neg (by omega), Gathered.toList_append, Gathered.toList_empty, List.nil_append]
  cases hread : Publish.decodeHeader first front with
  | error e => exact isPartial_of_nil State.noConfusion
  | ok r =>
    cases r with
    | none =>
      dsimp only
      split
      · exact isPartial_of_nil State.noConfusion
      · exact isPartial_of_nil State.noConfusion
    | some r =>
      obtain ⟨p, used⟩ := r
      obtain ⟨_, _, _, hused, tail, hspells⟩ := Publish.decodeHeader_eq_some_iff.mp hread
      have hfits := Publish.headerLength_le_of_spells hspells
      rw [← hused] at hfits
      dsimp only
      rw [if_neg (by omega), if_neg (by omega)]
      apply isPartial_payload
      rw [List.length_drop]
      omega

/-- A frame is not delivered before the last of its bytes has come. -/
theorem isPartial_frame {f : Frame} {front : Bytes} (hcut : front <+: f.bytes) (hne : front ≠ [])
    (hpart : front.length < f.bytes.length) : IsPartial (run limit .start front) := by
  cases front with
  | nil => exact absurd rfl hne
  | cons b front =>
    unfold Frame.bytes at hcut hpart
    obtain ⟨rfl, hrest⟩ := List.cons_prefix_cons.mp hcut
    have hsized : VarLength.decode ([] ++ f.size) = .ok (.value f.body.length []) := f.sized
    have hfront : f.size <+: f.size ++ f.body := List.prefix_append _ _
    rw [run_start_cons]
    by_cases hsize : front.length < f.size.length
    · have htake : front = f.size.take front.length :=
        List.prefix_iff_eq_take.mp
          (List.prefix_of_prefix_length_le hrest hfront (Nat.le_of_lt hsize))
      rw [htake, run_length_take hsized hsize]
      exact isPartial_of_nil State.noConfusion
    · obtain ⟨body, rfl⟩ : f.size <+: front :=
        List.prefix_of_prefix_length_le hfront hrest (Nat.le_of_not_lt hsize)
      have hbody : body.length < f.body.length := by
        simp only [List.length_cons, List.length_append] at hpart
        omega
      rw [run_spelling hsized f.size_ne_nil]
      split
      · exact isPartial_body hbody
      · split
        · exact isPartial_header hbody
        · exact isPartial_of_nil State.noConfusion

/-- What begins a good frame is not worse than all of it. -/
theorem run_prefix_ne_failed {f : Frame} {p : Packet} (hdecode : f.decode = .ok p)
    (hfits : f.IsPublish ∨ f.body.length ≤ limit) {front : Bytes} (hcut : front <+: f.bytes) :
    (run limit .start front).1 ≠ .failed := by
  obtain ⟨back, hback⟩ := hcut
  intro hfailed
  obtain ⟨hsplit, _⟩ := @splits limit .start front back
  have hwhole := run_frame hfits []
  rw [hdecode, List.append_nil, run_start_nil] at hwhole
  unfold followedBy at hsplit
  rw [hback, hwhole, hfailed, run_failed] at hsplit
  cases hsplit

/-! ### A frame among other bytes -/

/-- Every chunk that comes of one piece of input begins its message, so none continues another. -/
theorem joined_run_start (input : Bytes) :
    joined (run limit .start input).2 = (run limit .start input).2 := by
  have hstart : State.start.Untouched := trivial
  exact DecodedItem.joined_of_begins ((runs _ _ input).begins hstart)

/-- A new decoder takes the first `n` of some bytes for a packet, however they are cut: before all
of them have come it is neither done with the packet nor at odds with it, and of what comes behind
them it makes what a new decoder makes. -/
structure Takes (limit : Nat) (bytes : Bytes) (n : Nat) (p : Packet) : Prop where
  during : ∀ (pieces : List Bytes) (k : Nat), 0 < k → k < n → pieces.flatten = bytes.take k →
    ((Decoder.new limit).feedAll pieces).2.2 = .ok ()
      ∧ ((Decoder.new limit).feedAll pieces).1.state ≠ .start
      ∧ ∀ item ∈ joined ((Decoder.new limit).feedAll pieces).2.1, item.toPacket? = none
  after : ∀ pieces later : List Bytes, pieces.flatten = bytes → later.flatten = bytes.drop n →
    ((Decoder.new limit).feedAll pieces).1 = ((Decoder.new limit).feedAll later).1
      ∧ ((Decoder.new limit).feedAll pieces).2.2 = ((Decoder.new limit).feedAll later).2.2
      ∧ ∃ item : DecodedItem, item.toPacket? = some p
        ∧ joined ((Decoder.new limit).feedAll pieces).2.1 =
          item :: joined ((Decoder.new limit).feedAll later).2.1

theorem takes_frame {f : Frame} {p : Packet} (hdecode : f.decode = .ok p)
    (hfits : f.IsPublish ∨ f.body.length ≤ limit) (rest : Bytes) :
    Takes limit (f.bytes ++ rest) f.bytes.length p := by
  have hrun := fun next => @run_frame limit f hfits next
  simp only [hdecode] at hrun
  constructor
  case during =>
    intro pieces k hpos hk hpieces
    rw [List.take_append_of_le_length (Nat.le_of_lt hk)] at hpieces
    obtain ⟨items, hfeed, hjoined⟩ := feedAll_new limit pieces
    rw [hpieces] at hfeed hjoined
    have hlength : (f.bytes.take k).length = k := List.length_take_of_le (Nat.le_of_lt hk)
    have hcut : f.bytes.take k <+: f.bytes := List.take_prefix _ _
    obtain ⟨hstate, hitems⟩ := @isPartial_frame limit f (f.bytes.take k) hcut
      (List.ne_nil_of_length_pos (by omega)) (by omega)
    rw [hfeed, hjoined, joined_run_start]
    exact ⟨if_neg (run_prefix_ne_failed hdecode hfits hcut), hstate, hitems⟩
  case after =>
    intro pieces later hpieces hlater
    rw [List.drop_left] at hlater
    obtain ⟨items, hfeed, hjoined⟩ := feedAll_new limit pieces
    obtain ⟨items', hfeed', hjoined'⟩ := feedAll_new limit later
    rw [hpieces, hrun] at hfeed
    rw [hpieces, joined_run_start, hrun] at hjoined
    rw [hlater] at hfeed'
    rw [hlater, joined_run_start] at hjoined'
    refine ⟨by rw [hfeed, hfeed']; rfl, by rw [hfeed, hfeed']; rfl,
      itemOf limit f.body.length p, toPacket?_itemOf _ _ _, ?_⟩
    rw [hfeed, hfeed', hjoined, hjoined']
    rfl

end Decoder

namespace FixedHeader

section
variable {f : Frame} {p : Packet}

theorem decode_frame (h : f.decode = .ok p) (rest : Bytes) :
    decode (f.bytes ++ rest) = .ok (some (ofPacket p f.size.length)) := by
  obtain ⟨_, hfirst, hspells⟩ := Packet.decode_eq_ok_iff.mp h
  have hsize := VarLength.decode_append_of_value f.sized (f.body ++ rest)
  rw [List.nil_append, f.length_body_of_decode h] at hsize
  rw [Frame.bytes, hfirst, List.cons_append, List.append_assoc]
  exact decode_of_spells hspells rest hsize

theorem totalLength_frame (h : f.decode = .ok p) :
    (ofPacket p f.size.length).totalLength = f.bytes.length := by
  rw [totalLength_ofPacket, ← f.length_body_of_decode h, Frame.bytes, List.length_cons,
    List.length_append]
  omega

end

/-- Of a packet that a body decodes to, the header that stands before the body tells the kind, the
flags, the size and the packet id, and of a message how it is delivered; a decoder takes as many
bytes for it as the header says. A first byte that no header begins with begins no packet. -/
theorem header_agrees_with_packet :
    (∀ (f : Frame) (p : Packet) (rest : Bytes), f.decode = .ok p →
      ∃ h, decode (f.bytes ++ rest) = .ok (some h)
        ∧ h.type = p.type ∧ h.flags = f.first &&& 0x0f
        ∧ h.headerLength = 1 + f.size.length ∧ h.remainingLength = f.body.length
        ∧ h.packetId = p.packetId?
        ∧ (∀ m, p = .publish m →
          h.qos = m.qos ∧ h.duplicate = m.duplicate ∧ h.retain = m.retain)
        ∧ ∀ limit, p.type = .publish ∨ f.body.length ≤ limit →
          Decoder.Takes limit (f.bytes ++ rest) h.totalLength p)
    ∧ ∀ (first : UInt8) (rest : Bytes) (e : Error), decode (first :: rest) = .error e →
      VarLength.decode rest ≠ .error e → ∀ body, Packet.decode first body = .error e := by
  constructor
  · intro f p rest hdecode
    obtain ⟨_, hfirst, _⟩ := Packet.decode_eq_ok_iff.mp hdecode
    refine ⟨ofPacket p f.size.length, decode_frame hdecode rest, type_ofPacket p _, ?_,
      headerLength_ofPacket p _, ?_, packetId_ofPacket p _, ?_, ?_⟩
    · rw [hfirst, flags_ofPacket]
    · rw [remainingLength_ofPacket, f.length_body_of_decode hdecode]
    · rintro m rfl
      exact ⟨rfl, rfl, rfl⟩
    · intro limit hfits
      rw [totalLength_frame hdecode]
      exact Decoder.takes_frame hdecode (hfits.imp_left (f.isPublish_of_decode hdecode)) rest
  · intro first rest e herror hlength body
    exact Packet.decode_of_header_error herror hlength body

/-- A message whose size is spelled in two bytes, streamed by one decoder, with the start of another
packet behind it; and a first byte with flags that no PINGREQ has. -/
theorem header_agrees_with_packet_of_message :
    let f : Frame := ⟨50, [136, 0], [0, 1, 97, 0, 5, 1, 2, 3], rfl⟩
    let q : Publish := ⟨5, "a", .atLeastOnce, false, false, [1, 2, 3]⟩
    (∃ h, decode (f.bytes ++ [192]) = .ok (some h) ∧ h.packetId = some 5 ∧ h.retain = false
      ∧ Decoder.Takes 2 (f.bytes ++ [192]) h.totalLength (.publish q))
    ∧ Packet.decode 193 [] = .error .malformedPacket := by
  intro f q
  have hdecode : f.decode = .ok (.publish q) := by decide +kernel
  obtain ⟨h, hread, _, _, _, _, hid, hmessage, htakes⟩ :=
    header_agrees_with_packet.1 f (.publish q) [192] hdecode
  refine ⟨⟨h, hread, hid, (hmessage q rfl).2.2, htakes 2 (.inl rfl)⟩, ?_⟩
  exact header_agrees_with_packet.2 193 [0] .malformedPacket rfl (by decide) []

end FixedHeader
end Mqtt
