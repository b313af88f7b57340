import Mqtt.Proofs.Encoder
import Mqtt.Proofs.Ledger.Tracking

/-!
The calls on a ledger as data, and the ledgers that a sequence of calls leads to. While every packet
id that is handed out is free, no two of the operations that wait share one.
-/

namespace Mqtt
set_option autoImplicit false

/-- What a caller asks for. -/
inductive Operation where
  | publish (topic : String) (payload : Bytes) (qos : QoS) (retain : Bool)
  | subscribe (filter : String) (qos : QoS)
  | unsubscribe (filter : String)
deriving DecidableEq, Repr

namespace Operation

def kind : Operation → PacketType
  | publish .. => .publish
  | subscribe .. => .subscribe
  | unsubscribe .. => .unsubscribe

/-- The level that is remembered with the operation. -/
def qos : Operation → QoS
  | publish _ _ qos _ => qos
  | subscribe _ qos => qos
  | unsubscribe _ => .atLeastOnce

/-- The packet of the operation. -/
def packet (packetId : UInt16) : Operation → Packet
  | publish topic payload qos retain => .publish ⟨packetId, topic, qos, false, retain, payload⟩
  | subscribe filter qos => .subscribe packetId [⟨filter, qos⟩]
  | unsubscribe filter => .unsubscribe packetId [filter]

theorem type_packet (o : Operation) (packetId : UInt16) : (o.packet packetId).type = o.kind := by
  cases o <;> rfl

/-- Whether the operation will be acknowledged. -/
def IsTracked : Operation → Prop
  | publish _ _ qos _ => qos ≠ .atMostOnce
  | _ => True

end Operation

namespace Ledger

/-- Issues an operation. -/
def begin (l : Ledger) (now : Nat) : Operation → Ledger × Except Error Outgoing
  | .publish topic payload qos retain => l.beginPublish now topic payload qos retain
  | .subscribe filter qos => l.beginSubscribe now filter qos
  | .unsubscribe filter => l.beginUnsubscribe now filter

/-- A call on a ledger. -/
inductive Move where
  | begin (now : Nat) (o : Operation)
  | resolve (kind : PacketType) (packetId : UInt16)
  | advance (packetId : UInt16) (pubrel : Bytes)
  | abandon (kind : PacketType) (packetId : UInt16)
  | evict (now : Nat)
  | clear
  | setState (state : SessionState)
deriving DecidableEq, Repr

/-- Whether a call is one that a session makes on its own account. -/
def Move.IsOwn : Move → Prop
  | .begin .. | .abandon .. => False
  | _ => True

def move (l : Ledger) : Move → Ledger
  | .begin now o => (l.begin now o).1
  | .resolve kind packetId => (l.resolve kind packetId).1
  | .advance packetId pubrel => (l.advanceToPubrel packetId pubrel).1
  | .abandon kind packetId => l.abandon kind packetId
  | .evict now => l.evictStale now
  | .clear => l.clearTracked
  | .setState state => { l with state }

/-- Whether none of the operations that wait has this id. -/
def IsFree (l : Ledger) (packetId : UInt16) : Prop := ∀ t ∈ l.tracked, t.packetId ≠ packetId

/-- Whether the id that the call hands out, if it does, is free. -/
def TakesFreeId (l : Ledger) : Move → Prop
  | .begin now o => o.IsTracked → ∀ out, (l.begin now o).2 = .ok out → l.IsFree out.packetId
  | _ => True

/-- The ledgers that calls lead to, where each call is allowed in the ledger it is made on. -/
inductive Reachable (allowed : Ledger → Move → Prop) (c : Config) : Ledger → Prop where
  | new : Reachable allowed c (.new c)
  | move {l : Ledger} (m : Move) :
    Reachable allowed c l → allowed l m → Reachable allowed c (l.move m)

/-- How an operation that is tracked is issued: as one packet around the next id. -/
theorem begin_eq {o : Operation} (h : o.IsTracked) (l : Ledger) (now : Nat) :
    l.begin now o = l.beginTracked now o.kind o.qos fun encoder =>
      encoder.numbered fun packetId => o.packet packetId := by
  cases o with
  | subscribe filter qos => rfl
  | unsubscribe filter => rfl
  | publish topic payload qos retain =>
    have hqos : qos ≠ .atMostOnce := h
    unfold begin beginPublish Encoder.publish
    simp only [if_neg hqos]
    rfl

/-- A message at QoS 0 is not remembered, and takes no id. -/
theorem begin_of_not_tracked {l : Ledger} {now : Nat} {o : Operation} (h : ¬ o.IsTracked) :
    (l.begin now o).1 = l := by
  cases o with
  | publish topic payload qos retain =>
    have hqos : qos = .atMostOnce := Decidable.not_not.mp h
    change (l.beginPublish now topic payload qos retain).1 = l
    unfold beginPublish
    rw [if_pos hqos, hqos]
    split
    · rfl
    · rw [Encoder.publish_of_atMostOnce]
  | subscribe filter qos => exact absurd trivial h
  | unsubscribe filter => exact absurd trivial h

/-- An operation that is issued has been encoded, around the next id if it is tracked. -/
theorem encode_of_begin {l : Ledger} {now : Nat} {o : Operation} {out : Outgoing}
    (h : (l.begin now o).2 = .ok out) : (o.IsTracked → out.packetId = l.encoder.nextId)
      ∧ l.encoder.encode (o.packet out.packetId) = .ok out.bytes := by
  by_cases ho : o.IsTracked
  · rw [begin_eq ho] at h
    obtain ⟨hid, hencode⟩ := Encoder.numbered_eq_ok (encode_of_beginTracked h)
    exact ⟨fun _ => hid, hencode⟩
  · cases o with
    | publish topic payload qos retain =>
      change (l.beginPublish now topic payload qos retain).2 = .ok out at h
      unfold beginPublish at h
      rw [if_pos (Decidable.not_not.mp ho)] at h
      split at h
      · cases h
      · exact ⟨fun htracked => absurd htracked ho, (Encoder.publish_eq_ok h).2⟩
    | subscribe filter qos => exact absurd trivial ho
    | unsubscribe filter => exact absurd trivial ho

/-- Just the operations that will be acknowledged have an id. -/
theorem packetId_of_begin {l : Ledger} {now : Nat} {o : Operation} {out : Outgoing}
    (h : (l.begin now o).2 = .ok out) : out.packetId ≠ 0 ↔ o.IsTracked := by
  constructor
  · intro hid
    by_contra ho
    cases o with
    | publish topic payload qos retain =>
      have hqos : qos = .atMostOnce := Decidable.not_not.mp ho
      change (l.beginPublish now topic payload qos retain).2 = .ok out at h
      unfold beginPublish Encoder.publish at h
      rw [if_pos hqos] at h
      split at h
      · cases h
      · dsimp only at h
        cases hencode : l.encoder.encode (.publish ⟨0, topic, qos, false, retain, payload⟩) with
        | error e =>
          rw [hencode] at h
          cases h
        | ok bytes =>
          rw [hencode] at h
          cases h
          exact hid rfl
    | subscribe filter qos => exact ho trivial
    | unsubscribe filter => exact ho trivial
  · intro ho
    rw [(encode_of_begin h).1 ho]
    exact PacketId.next_ne_zero _

theorem begin_of_error {l : Ledger} {now : Nat} {o : Operation} {e : Error}
    (h : (l.begin now o).2 = .error e) : (l.begin now o).1 = l := by
  by_cases ho : o.IsTracked
  · rw [begin_eq ho] at h ⊢
    exact beginTracked_of_error Encoder.numbered_fst_of_error h
  · exact begin_of_not_tracked ho

/-- What is remembered of an operation that was issued. -/
def issued (now : Nat) (o : Operation) (out : Outgoing) : Tracked :=
  ⟨out.packetId, o.kind, o.qos, out.bytes, now⟩

theorem tracked_begin {l : Ledger} (hd : l.Distinct) {now : Nat} {o : Operation}
    (ho : o.IsTracked) {out : Outgoing} (h : (l.begin now o).2 = .ok out) :
    (l.begin now o).1.tracked = l.tracked ++ [issued now o out] := by
  rw [begin_eq ho] at h ⊢
  obtain ⟨hroom, encoder, hl'⟩ := beginTracked_of_ok h
  rw [hl']
  exact @tracked_track { l with encoder } hd hroom (issued now o out)

/-! ### Invariants -/

theorem Distinct.of_sublist {l l' : Ledger} (h : l.Distinct)
    (hsub : l'.tracked.Sublist l.tracked) : l'.Distinct :=
  h.sublist (hsub.map _)

theorem Distinct.move {l : Ledger} (hd : l.Distinct) {m : Move} (hm : l.TakesFreeId m) :
    (l.move m).Distinct := by
  cases m with
  | begin now o =>
    by_cases ho : o.IsTracked
    · cases hout : (l.begin now o).2 with
      | error e =>
        have hsame := begin_of_error hout
        change (l.begin now o).1.Distinct
        rw [hsame]
        exact hd
      | ok out =>
        have hfree := hm ho out hout
        change ((l.begin now o).1.tracked.map Tracked.packetId).Nodup
        rw [tracked_begin hd ho hout, List.map_append, List.nodup_append]
        refine ⟨hd, by simp, ?_⟩
        intro i hi j hj
        obtain ⟨t, ht, hti⟩ := List.mem_map.mp hi
        rw [List.map_singleton, List.mem_singleton] at hj
        rw [← hti, hj]
        exact hfree t ht
    · have hsame := @begin_of_not_tracked l now o ho
      change (l.begin now o).1.Distinct
      rw [hsame]
      exact hd
  | resolve kind packetId =>
    change (l.resolve kind packetId).1.Distinct
    rcases resolve_cases hd kind packetId with ⟨_, _, htracked⟩ | ⟨hsame, _⟩
    · apply hd.of_sublist
      rw [htracked]
      exact List.filter_sublist
    · rw [hsame]
      exact hd
  | advance packetId pubrel =>
    change (l.advanceToPubrel packetId pubrel).1.Distinct
    rcases advance_cases hd packetId pubrel with ⟨_, hdistinct, _⟩ | ⟨hsame, _⟩
    · exact hdistinct
    · rw [hsame]
      exact hd
  | abandon kind packetId =>
    apply hd.of_sublist
    change (l.abandon kind packetId).tracked.Sublist _
    rw [tracked_abandon hd]
    exact List.filter_sublist
  | evict now => exact hd.of_sublist (tracked_evictStale_sublist l now)
  | clear => exact List.nodup_nil
  | setState state => exact hd

theorem capacity_preempt (l : Ledger) : l.preempt.outbox.capacity = l.outbox.capacity := by
  unfold preempt
  split
  · exact Outbox.capacity_enqueue _ _
  · rfl

theorem capacity_begin (l : Ledger) (now : Nat) (o : Operation) :
    (l.begin now o).1.outbox.capacity = l.outbox.capacity := by
  cases h : (l.begin now o).2 with
  | error e => rw [begin_of_error h]
  | ok out =>
    by_cases ho : o.IsTracked
    · rw [begin_eq ho] at h ⊢
      obtain ⟨_, encoder, hl'⟩ := beginTracked_of_ok h
      rw [hl']
      exact capacity_preempt { l with encoder }
    · rw [begin_of_not_tracked ho]

theorem capacity_move (l : Ledger) (m : Move) :
    (l.move m).outbox.capacity = l.outbox.capacity := by
  cases m with
  | begin now o => exact capacity_begin l now o
  | resolve kind packetId =>
    unfold move resolve
    dsimp only
    split
    · split <;> rfl
    · split
      · split <;> rfl
      · rfl
  | advance packetId pubrel =>
    unfold move advanceToPubrel
    dsimp only
    split
    · exact Outbox.capacity_enqueue _ _
    · split
      · split <;> rfl
      · rfl
  | abandon kind packetId =>
    unfold move abandon
    dsimp only
    split <;> rfl
  | _ => rfl

theorem capacity_of_reachable {allowed : Ledger → Move → Prop} {c : Config} {l : Ledger}
    (h : Reachable allowed c l) : l.outbox.capacity = c.outboxCapacity := by
  induction h with
  | new => rfl
  | move m _ _ ih => exact (capacity_move _ m).trans ih

theorem distinct_of_reachable {c : Config} {l : Ledger} (h : Reachable TakesFreeId c l) :
    l.Distinct := by
  induction h with
  | new => exact List.nodup_nil
  | move m _ hm ih => exact ih.move hm

end Ledger
end Mqtt
