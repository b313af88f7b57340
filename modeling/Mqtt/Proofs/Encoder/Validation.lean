import Mqtt.Session
import Mqtt.Proofs.Decoder.Frames
import Mqtt.Proofs.Encoder.Calls
import Mqtt.Proofs.Topic

/-!
What was checked can be written: every part that a packet puts after a length of its own has been
measured before, so that only the packet as a whole can still be too long.
-/

namespace Mqtt
set_option autoImplicit false

namespace Topic

theorem size_of_checkFilter {filter : String} (h : checkFilter filter = .ok ()) :
    filter.utf8ByteSize ≤ Field.maximumSize :=
  ((isValidFilter_iff filter).mp ((checkFilter_eq_ok_iff filter).mp h)).2.1

theorem size_of_check {topic : String} (h : check topic = .ok ()) :
    topic.utf8ByteSize ≤ Field.maximumSize :=
  ((isValid_iff topic).mp ((check_eq_ok_iff topic).mp h)).2.1

end Topic

/-! ### Configurations -/

namespace Config

theorem size_of_checkClientId {clientId : String} (h : checkClientId clientId = .ok ()) :
    clientId.utf8ByteSize ≤ Field.maximumSize := by
  unfold checkClientId at h
  split at h
  · exact (Field.fits_eq_true_iff clientId).mp ‹_›
  · cases h

theorem sizes_of_checkCredentials {username : Option String} {password : Option Bytes}
    (h : checkCredentials username password = .ok ()) :
    (∀ u, username = some u → u.utf8ByteSize ≤ Field.maximumSize)
      ∧ ∀ p, password = some p → p.length ≤ Field.maximumSize := by
  unfold checkCredentials at h
  dsimp only at h
  split at h
  · rename_i hall
    simp only [Bool.and_eq_true] at hall
    obtain ⟨⟨husername, hpassword⟩, _⟩ := hall
    constructor
    · rintro u rfl
      exact (Field.fits_eq_true_iff u).mp husername
    · rintro p rfl
      exact of_decide_eq_true hpassword
  · cases h

theorem sizes_of_checkWill {w : LastWill} (h : checkWill w = .ok ()) :
    w.topic.utf8ByteSize ≤ Field.maximumSize ∧ w.payload.length ≤ Field.maximumSize := by
  unfold checkWill at h
  cases htopic : Topic.check w.topic with
  | error e =>
    rw [htopic] at h
    cases h
  | ok u =>
    rw [htopic] at h
    simp only [bind, Except.bind] at h
    split at h
    · exact ⟨Topic.size_of_check htopic, ‹_›⟩
    · cases h

/-- All that a client demands of its configuration. -/
theorem check_eq_ok {config : Config} (h : config.check = .ok ()) :
    checkClientId config.clientId = .ok ()
      ∧ checkCredentials config.username config.password = .ok ()
      ∧ ∀ w, config.will = some w → checkWill w = .ok () := by
  unfold check at h
  cases hid : checkClientId config.clientId with
  | error e =>
    rw [hid] at h
    cases h
  | ok u =>
    cases hcredentials : checkCredentials config.username config.password with
    | error e =>
      rw [hid, hcredentials] at h
      cases h
    | ok u' =>
      rw [hid, hcredentials] at h
      refine ⟨rfl, rfl, fun w hw => ?_⟩
      rw [hw] at h
      exact h

end Config

/-! ### Packets -/

namespace Packet
open Mqtt.Field (maximumSize)

theorem mem_sizes_connect {c : Connect} {size : Nat} : size ∈ (connect c).sizes ↔
    size = c.clientId.utf8ByteSize
      ∨ (∃ w, c.will = some w ∧ (size = w.topic.utf8ByteSize ∨ size = w.payload.length))
      ∨ (∃ u, c.username = some u ∧ size = u.utf8ByteSize)
      ∨ ∃ p, c.password = some p ∧ size = p.length := by
  obtain ⟨clientId, keepAlive, cleanSession, username, password, will⟩ := c
  cases will <;> cases username <;> cases password <;> simp [sizes, or_assoc]

/-- Five parts do not fill the length field of a packet. -/
theorem remainingLength_connect_le {c : Connect}
    (h : ∀ size ∈ (connect c).sizes, size ≤ maximumSize) :
    (connect c).remainingLength ≤ VarLength.maximum := by
  obtain ⟨clientId, keepAlive, cleanSession, username, password, will⟩ := c
  unfold sizes maximumSize at h
  unfold remainingLength Connect.remainingLength VarLength.maximum
  cases will <;> cases username <;> cases password <;> simp at h ⊢ <;> omega

theorem remainingLength_subscribe_le {i : UInt16} {filter : String} (qos : QoS)
    (h : filter.utf8ByteSize ≤ maximumSize) :
    (subscribe i [⟨filter, qos⟩]).remainingLength ≤ VarLength.maximum := by
  unfold maximumSize at h
  simp only [remainingLength, VarLength.maximum, List.map_cons, List.map_nil, List.foldr_cons,
    List.foldr_nil]
  omega

theorem remainingLength_unsubscribe_le {i : UInt16} {filter : String}
    (h : filter.utf8ByteSize ≤ maximumSize) :
    (unsubscribe i [filter]).remainingLength ≤ VarLength.maximum := by
  unfold maximumSize at h
  simp only [remainingLength, VarLength.maximum, List.map_cons, List.map_nil, List.foldr_cons,
    List.foldr_nil]
  omega

theorem encode_of_long {p : Packet} (h : VarLength.maximum < p.remainingLength) :
    p.encode = .error .variableLengthIntegerMaximumExceeded := by
  unfold encode
  rw [writeTo_of_long h]

/-- Where each part fits in its own length field, only the length of the packet is left to fail. -/
theorem encode_of_short {p : Packet} (hsizes : ∀ size ∈ p.sizes, size ≤ maximumSize)
    (h : p.remainingLength ≤ VarLength.maximum) : ∃ bytes, p.encode = .ok bytes :=
  ⟨_, encode_eq_ok_iff.mpr ⟨h, _, ⟨p.fits_iff.mpr hsizes, (List.append_nil _).symm⟩, rfl⟩⟩

end Packet

/-- Each part of the CONNECT has been measured. -/
theorem Config.sizes_of_check {config : Config} (h : config.check = .ok ()) :
    ∀ size ∈ (Packet.connect config.toConnect).sizes, size ≤ Field.maximumSize := by
  obtain ⟨hid, hcredentials, hwill⟩ := check_eq_ok h
  obtain ⟨husername, hpassword⟩ := sizes_of_checkCredentials hcredentials
  intro size hsize
  rcases Packet.mem_sizes_connect.mp hsize with rfl | ⟨w, hw, hsize⟩ | ⟨u, hu, rfl⟩ | ⟨p, hp, rfl⟩
  · exact size_of_checkClientId hid
  · obtain ⟨htopic, hpayload⟩ := sizes_of_checkWill (hwill w hw)
    rcases hsize with rfl | rfl
    · exact htopic
    · exact hpayload
  · exact husername u hu
  · exact hpassword p hp

/-! ### Calls on an encoder -/

namespace Encoder
open Mqtt.Field (maximumSize)

variable {e : Encoder} {c : Call}

theorem encode_eq_ite {p : Packet} {bytes : Bytes} (h : p.encode = .ok bytes) : e.encode p =
    if e.bufferSize < bytes.length then .error .encodeBufferTooSmall else .ok bytes := by
  rw [encode_of_ok h]
  by_cases hsize : bytes.length ≤ e.bufferSize
  · rw [if_pos hsize, if_neg (Nat.not_lt.mpr hsize)]
  · rw [if_neg hsize, if_pos (Nat.lt_of_not_le hsize)]

/-- The packet of the call can be written, and the call fails just where the buffer is too small. -/
def NeedsOnlySpace (e : Encoder) (c : Call) : Prop :=
  ∃ bytes, (c.packet (e.idFor c)).encode = .ok bytes
    ∧ (e.call c).2 = if e.bufferSize < bytes.length then .error .encodeBufferTooSmall
      else .ok ⟨bytes, e.idFor c⟩

theorem needsOnlySpace_of_short
    (hsizes : ∀ size ∈ (c.packet (e.idFor c)).sizes, size ≤ maximumSize)
    (h : (c.packet (e.idFor c)).remainingLength ≤ VarLength.maximum) : e.NeedsOnlySpace c := by
  obtain ⟨bytes, hbytes⟩ := Packet.encode_of_short hsizes h
  exact ⟨bytes, hbytes, call_of_packet hbytes⟩

theorem call_of_long (h : VarLength.maximum < (c.packet (e.idFor c)).remainingLength) :
    (e.call c).2 = .error .variableLengthIntegerMaximumExceeded := by
  rw [call_of_error (encode_of_error (Packet.encode_of_long h))]

theorem needsOnlySpace_subscribe {filter : String} (h : Topic.checkFilter filter = .ok ())
    (qos : QoS) : e.NeedsOnlySpace (.subscribe filter qos) := by
  have hsize := Topic.size_of_checkFilter h
  exact needsOnlySpace_of_short (List.forall_mem_singleton.mpr hsize)
    (Packet.remainingLength_subscribe_le qos hsize)

theorem needsOnlySpace_unsubscribe {filter : String} (h : Topic.checkFilter filter = .ok ()) :
    e.NeedsOnlySpace (.unsubscribe filter) := by
  have hsize := Topic.size_of_checkFilter h
  exact needsOnlySpace_of_short (List.forall_mem_singleton.mpr hsize)
    (Packet.remainingLength_unsubscribe_le hsize)

theorem call_publish {topic : String} (h : Topic.check topic = .ok ()) (payload : Bytes) (qos : QoS)
    (retain duplicate : Bool) :
    let c : Call := .publish topic payload qos retain duplicate
    if VarLength.maximum < (c.packet (e.idFor c)).remainingLength then
      (e.call c).2 = .error .variableLengthIntegerMaximumExceeded
    else e.NeedsOnlySpace c := by
  intro c
  by_cases hlong : VarLength.maximum < (c.packet (e.idFor c)).remainingLength
  · rw [if_pos hlong]
    exact call_of_long hlong
  · rw [if_neg hlong]
    exact needsOnlySpace_of_short (List.forall_mem_singleton.mpr (Topic.size_of_check h))
      (Nat.not_lt.mp hlong)

end Encoder

/-- The CONNECT of a configuration that was checked is written, if the buffer has room for it, and
reads as what the configuration says. -/
theorem Session.encode_connect {config : Config} (h : config.check = .ok ())
    (defaultPort : UInt16) :
    ∃ f : Frame, f.decode = .ok (.connect config.toConnect)
      ∧ (Session.new config defaultPort).encode (.connect config.toConnect) =
        if config.bufferSize < f.bytes.length then .error .encodeBufferTooSmall
        else .ok f.bytes := by
  have hsizes := Config.sizes_of_check h
  obtain ⟨bytes, hbytes⟩ :=
    Packet.encode_of_short hsizes (Packet.remainingLength_connect_le hsizes)
  obtain ⟨f, rfl, hread⟩ := Frame.exists_of_encode hbytes trivial
  exact ⟨f, hread, Encoder.encode_eq_ite hbytes⟩

end Mqtt
