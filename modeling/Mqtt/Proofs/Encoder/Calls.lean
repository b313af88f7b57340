import Mqtt.Proofs.Encoder
import Mqtt.Proofs.PacketId
import Mqtt.Proofs.Wire.Canonical
import Mqtt.Proofs.Wire.Header

/-!
The calls on an encoder as data, and runs of them. A call that fails leaves the encoder as it was,
so the ids of the packets that are handed out have no gap, and each packet is the one that was asked
for around its own id.
-/

namespace Mqtt
set_option autoImplicit false

namespace Encoder

/-- A call on an encoder. -/
inductive Call where
  | connect (c : Connect)
  | publish (topic : String) (payload : Bytes) (qos : QoS) (retain duplicate : Bool)
  | subscribe (filter : String) (qos : QoS)
  | unsubscribe (filter : String)
  | puback (packetId : UInt16)
  | pubrec (packetId : UInt16)
  | pubrel (packetId : UInt16)
  | pubcomp (packetId : UInt16)
  | pingreq
  | pingresp
  | disconnect
deriving DecidableEq, Repr

namespace Call

/-- The packet that is asked for, around an id where it takes one. -/
def packet (packetId : UInt16) : Call → Packet
  | connect c => .connect c
  | publish topic payload qos retain duplicate =>
    .publish ⟨packetId, topic, qos, duplicate, retain, payload⟩
  | subscribe filter qos => .subscribe packetId [⟨filter, qos⟩]
  | unsubscribe filter => .unsubscribe packetId [filter]
  | puback i => .puback i
  | pubrec i => .pubrec i
  | pubrel i => .pubrel i
  | pubcomp i => .pubcomp i
  | pingreq => .pingreq
  | pingresp => .pingresp
  | disconnect => .disconnect

/-- Whether the packet takes the next id. -/
def TakesId : Call → Prop
  | publish _ _ qos _ _ => qos ≠ .atMostOnce
  | subscribe .. | unsubscribe .. => True
  | _ => False

instance (c : Call) : Decidable c.TakesId := by
  unfold TakesId
  split <;> infer_instance

/-- A message that is sent at most once is never sent again. -/
def IsSound : Call → Prop
  | publish _ _ qos _ duplicate => qos = .atMostOnce → duplicate = false
  | _ => True

theorem wellFormed_packet {c : Call} (hsound : c.IsSound) {packetId : UInt16}
    (hid : packetId ≠ 0 ↔ c.TakesId) : (c.packet packetId).WellFormed := by
  cases c with
  | publish topic payload qos retain duplicate =>
    change Publish.WellFormed _
    unfold Publish.WellFormed
    split
    · rename_i hqos
      exact ⟨Decidable.not_not.mp fun hne => hid.mp hne hqos, hsound hqos⟩
    · rename_i hqos
      exact hid.mpr hqos
  | subscribe filter qos => exact List.cons_ne_nil _ _
  | unsubscribe filter => exact List.cons_ne_nil _ _
  | _ => trivial

end Call

variable {e : Encoder} {c : Call} {calls : List Call} {bytes : Bytes} {err : Error} {out : Outgoing}

def call (e : Encoder) : Call → Encoder × Except Error Outgoing
  | .publish topic payload qos retain duplicate => e.publish topic payload qos retain duplicate
  | .subscribe filter qos => e.subscribe filter qos
  | .unsubscribe filter => e.unsubscribe filter
  | c => (e, (⟨·, 0⟩) <$> e.encode (c.packet 0))

/-- The id that a call answers with if it succeeds; 0 where its packet takes none. -/
def idFor (e : Encoder) (c : Call) : UInt16 := if c.TakesId then e.nextId else 0

theorem idFor_ne_zero_iff : e.idFor c ≠ 0 ↔ c.TakesId := by
  unfold idFor
  by_cases h : c.TakesId
  · rw [if_pos h]
    exact iff_of_true (PacketId.next_ne_zero _) h
  · rw [if_neg h]
    exact iff_of_false (fun hne => hne rfl) h

theorem call_of_takesId (h : c.TakesId) : e.call c = e.numbered fun i => c.packet i := by
  cases c with
  | publish topic payload qos retain duplicate => exact if_neg h
  | subscribe filter qos => rfl
  | unsubscribe filter => rfl
  | _ => exact h.elim

theorem call_of_not_takesId (h : ¬ c.TakesId) :
    e.call c = (e, (⟨·, 0⟩) <$> e.encode (c.packet 0)) := by
  cases c with
  | publish topic payload qos retain duplicate => exact if_pos (Decidable.not_not.mp h)
  | subscribe filter qos => exact absurd trivial h
  | unsubscribe filter => exact absurd trivial h
  | _ => rfl

/-- Where the packet around the id is encoded, the call hands out both, and the id is used up if the
packet takes it. -/
theorem call_of_ok (h : e.encode (c.packet (e.idFor c)) = .ok bytes) :
    e.call c =
      (if c.TakesId then { e with lastId := e.nextId } else e, .ok ⟨bytes, e.idFor c⟩) := by
  unfold idFor at h ⊢
  by_cases hid : c.TakesId
  · rw [if_pos hid] at h ⊢
    rw [call_of_takesId hid, if_pos hid, @numbered_of_ok e (fun i => c.packet i) _ h]
  · rw [if_neg hid] at h ⊢
    rw [call_of_not_takesId hid, if_neg hid, h]
    rfl

theorem call_of_error (h : e.encode (c.packet (e.idFor c)) = .error err) :
    e.call c = (e, .error err) := by
  unfold idFor at h
  by_cases hid : c.TakesId
  · rw [if_pos hid] at h
    rw [call_of_takesId hid, @numbered_of_error e (fun i => c.packet i) _ h]
  · rw [if_neg hid] at h
    rw [call_of_not_takesId hid, h]
    rfl

theorem call_eq_ok (h : (e.call c).2 = .ok out) :
    out.packetId = e.idFor c ∧ e.encode (c.packet out.packetId) = .ok out.bytes := by
  cases hencode : e.encode (c.packet (e.idFor c)) with
  | error err =>
    rw [call_of_error hencode] at h
    cases h
  | ok bytes =>
    rw [call_of_ok hencode] at h
    cases h
    exact ⟨rfl, hencode⟩

theorem bufferSize_call (e : Encoder) (c : Call) : (e.call c).1.bufferSize = e.bufferSize := by
  cases hencode : e.encode (c.packet (e.idFor c)) with
  | error err => rw [call_of_error hencode]
  | ok bytes =>
    rw [call_of_ok hencode]
    dsimp only
    split <;> rfl

/-! ### Runs -/

def callAll (e : Encoder) (calls : List Call) : Encoder := calls.foldl (fun e c => (e.call c).1) e

/-- The id that a call used up, if it did. -/
def handedOut? (e : Encoder) (c : Call) : Option UInt16 :=
  if c.TakesId then (e.call c).2.toOption.map Outgoing.packetId else none

/-- The ids that calls hand out, in order. -/
def ids (e : Encoder) : List Call → List UInt16
  | [] => []
  | c :: calls => (e.handedOut? c).toList ++ (e.call c).1.ids calls

theorem bufferSize_callAll (e : Encoder) (calls : List Call) :
    (e.callAll calls).bufferSize = e.bufferSize := by
  induction calls generalizing e with
  | nil => rfl
  | cons c calls ih => exact (ih (e.call c).1).trans (e.bufferSize_call c)

/-- A call hands out the next id, or none and leaves the encoder as it is. -/
theorem handedOut_cases (e : Encoder) (c : Call) :
    (e.handedOut? c = none ∧ (e.call c).1 = e)
      ∨ e.handedOut? c = some e.nextId ∧ (e.call c).1.lastId = e.nextId := by
  unfold handedOut?
  cases hencode : e.encode (c.packet (e.idFor c)) with
  | error err =>
    rw [call_of_error hencode]
    exact .inl ⟨ite_self _, rfl⟩
  | ok bytes =>
    rw [call_of_ok hencode]
    by_cases hid : c.TakesId
    · rw [if_pos hid, if_pos hid]
      exact .inr ⟨congrArg some (if_pos hid), rfl⟩
    · rw [if_neg hid, if_neg hid]
      exact .inl ⟨rfl, rfl⟩

theorem callAll_countsUp (e : Encoder) (calls : List Call) :
    PacketId.CountsUp e.lastId (e.ids calls) (e.callAll calls).lastId := by
  induction calls generalizing e with
  | nil => exact .nil _
  | cons c calls ih =>
    change PacketId.CountsUp _ ((e.handedOut? c).toList ++ (e.call c).1.ids calls)
      ((e.call c).1.callAll calls).lastId
    have hrest := ih (e.call c).1
    rcases e.handedOut_cases c with ⟨hnone, hsame⟩ | ⟨hsome, hlast⟩
    · rw [hnone, hsame]
      rw [hsame] at hrest
      exact hrest
    · rw [hsome]
      rw [hlast] at hrest
      exact .cons hrest

/-! ### What a call answers -/

/-- The packet that was asked for is read back from the bytes that were handed out. -/
theorem decode_of_call (hsound : c.IsSound) (h : (e.call c).2 = .ok out) :
    ∃ first size body, out.bytes = first :: (size ++ body)
      ∧ VarLength.decode (size ++ body) = .ok (.value body.length body)
      ∧ Packet.decode first body = .ok (c.packet out.packetId) := by
  obtain ⟨hid, hencode⟩ := call_eq_ok h
  obtain ⟨hmaximum, body, hspells, hbytes⟩ :=
    Packet.encode_eq_ok_iff.mp (encode_eq_ok_iff.mp hencode).1
  have hwf : (c.packet out.packetId).WellFormed := by
    apply Call.wellFormed_packet hsound
    rw [hid]
    exact idFor_ne_zero_iff
  refine ⟨_, _, body, hbytes, ?_, Packet.decode_eq_ok_iff.mpr ⟨hwf, rfl, hspells⟩⟩
  rw [Packet.length_of_spells hspells]
  exact VarLength.decode_digits hmaximum body

theorem call_of_packet (h : (c.packet (e.idFor c)).encode = .ok bytes) : (e.call c).2 =
    if e.bufferSize < bytes.length then .error .encodeBufferTooSmall
    else .ok ⟨bytes, e.idFor c⟩ := by
  have hencode := @encode_of_ok e _ _ h
  by_cases hsize : bytes.length ≤ e.bufferSize
  · rw [if_pos hsize] at hencode
    rw [call_of_ok hencode, if_neg (Nat.not_lt.mpr hsize)]
  · rw [if_neg hsize] at hencode
    rw [call_of_error hencode, if_pos (Nat.lt_of_not_le hsize)]

/-- After any calls on a new encoder, the ids handed out so far are 1, 2, 3 and so on in a cycle of
65535, and the next call goes on from there: what it hands out is no longer than the buffer and is
read back as the packet that was asked for, with the id that was answered and no other. It fails for
want of space just where the packet is longer. -/
theorem calls_are_numbered (bufferSize : Nat) (calls : List Call) :
    let e := (new bufferSize).callAll calls
    let ids := (new bufferSize).ids calls
    ids.map UInt16.toNat = (List.range ids.length).map (fun k => k % 65535 + 1)
    ∧ ∀ c : Call,
      (∀ out, (e.call c).2 = .ok out →
        out.packetId.toNat = (if c.TakesId then ids.length % 65535 + 1 else 0)
        ∧ out.bytes.length ≤ bufferSize
        ∧ (∃ header, FixedHeader.decode out.bytes = .ok (some header)
          ∧ header.packetId = (c.packet out.packetId).packetId?
          ∧ header.totalLength = out.bytes.length)
        ∧ (c.IsSound → ∃ first size body, out.bytes = first :: (size ++ body)
          ∧ VarLength.decode (size ++ body) = .ok (.value body.length body)
          ∧ Packet.decode first body = .ok (c.packet out.packetId)))
      ∧ ∀ bytes, (c.packet (e.idFor c)).encode = .ok bytes → (e.call c).2 =
        if bufferSize < bytes.length then .error .encodeBufferTooSmall
        else .ok ⟨bytes, e.idFor c⟩ := by
  intro e ids
  have hcounts : PacketId.CountsUp 0 ids e.lastId := (new bufferSize).callAll_countsUp calls
  have hsize : e.bufferSize = bufferSize := (new bufferSize).bufferSize_callAll calls
  refine ⟨hcounts.from_zero, fun c => ⟨fun out hout => ?_, fun bytes hbytes => ?_⟩⟩
  · obtain ⟨hid, hencode⟩ := call_eq_ok hout
    obtain ⟨hpacket, hlength⟩ := encode_eq_ok_iff.mp hencode
    refine ⟨?_, hsize ▸ hlength, ?_, fun hsound => decode_of_call hsound hout⟩
    · rw [hid, idFor, nextId, hcounts.last, PacketId.next_advance]
      split
      · exact PacketId.toNat_advance_zero _
      · rfl
    · obtain ⟨header, hdecode, -, hheader, htotal⟩ := FixedHeader.decode_encoding hpacket []
      rw [List.append_nil] at hdecode
      exact ⟨header, hdecode, hheader, htotal⟩
  · rw [← hsize]
    exact call_of_packet hbytes

/-- A message that is too long for the buffer, one at QoS 0 and an acknowledgement use up no id: the
SUBSCRIBE after them has the second one. -/
theorem calls_are_numbered_of_subscribe :
    let calls : List Call := [.publish "a" [] .atLeastOnce false false,
      .publish "a" [1, 2, 3] .exactlyOnce false false, .publish "b" [] .atMostOnce false false,
      .puback 9]
    let e := (new 8).callAll calls
    (new 8).ids calls = [1] ∧ (e.call (.publish "a" [1, 2, 3] .exactlyOnce false false)).2
        = .error .encodeBufferTooSmall
      ∧ ∃ out, (e.call (.subscribe "b" .atMostOnce)).2 = .ok out ∧ out.packetId.toNat = 2
        ∧ ∃ first size body, out.bytes = first :: (size ++ body)
          ∧ Packet.decode first body = .ok (.subscribe 2 [⟨"b", .atMostOnce⟩]) := by
  intro calls e
  have hids : (new 8).ids calls = [1] := by decide +kernel
  have hlast : e.lastId = 1 := by
    rw [((new 8).callAll_countsUp calls).last, hids]
    rfl
  obtain ⟨-, hcalls⟩ := calls_are_numbered 8 calls
  obtain ⟨-, hfails⟩ := hcalls (.publish "a" [1, 2, 3] .exactlyOnce false false)
  obtain ⟨hsucceeds, hfits⟩ := hcalls (.subscribe "b" .atMostOnce)
  have hlong : (Packet.publish ⟨2, "a", .exactlyOnce, false, false, [1, 2, 3]⟩).encode
      = .ok [0x34, 8, 0, 1, 97, 0, 2, 1, 2, 3] := by
    refine Packet.encode_eq_ok_iff.mpr ⟨by decide, [0, 1, 97, 0, 2, 1, 2, 3], ⟨?_, by decide⟩, ?_⟩
    · exact (Packet.fits_iff _).mpr (by decide)
    · rw [VarLength.digits]
      rfl
  have hshort : (Packet.subscribe 2 [⟨"b", .atMostOnce⟩]).encode
      = .ok [0x82, 6, 0, 2, 0, 1, 98, 0] := by
    refine Packet.encode_eq_ok_iff.mpr ⟨by decide, [0, 2, 0, 1, 98, 0], ⟨?_, by decide⟩, ?_⟩
    · exact (Packet.fits_iff _).mpr (by decide)
    · rw [VarLength.digits]
      rfl
  have hid : ∀ c : Call, c.TakesId → e.idFor c = 2 := by
    intro c hc
    rw [idFor, if_pos hc, nextId, hlast]
    rfl
  refine ⟨hids, ?_, ?_⟩
  · have hfail := hfails [0x34, 8, 0, 1, 97, 0, 2, 1, 2, 3]
    rw [hid _ (by decide)] at hfail
    exact hfail hlong
  · have hsuccess := hfits [0x82, 6, 0, 2, 0, 1, 98, 0]
    rw [hid _ (by decide)] at hsuccess
    have hout := hsuccess hshort
    obtain ⟨-, -, -, hreads⟩ := hsucceeds _ hout
    refine ⟨_, hout, rfl, ?_⟩
    obtain ⟨first, size, body, hbytes, -, hread⟩ := hreads trivial
    exact ⟨first, size, body, hbytes, hread⟩

end Encoder
end Mqtt
