import Mqtt.Proofs.Ledger.Tally

/-!
Calls on a ledger that come to nothing: an operation that is rejected, a message at QoS 0, an
acknowledgement that no operation waits for. They leave the ledger as it is, so that a run may do
without them.
-/

namespace Mqtt
set_option autoImplicit false

/-- What is wrong with a packet that is to be encoded. -/
def Encoder.error? (encoder : Encoder) (p : Packet) : Option Error :=
  match encoder.encode p with
  | .ok _ => none
  | .error e => some e

theorem Encoder.error?_eq_some_iff {encoder : Encoder} {p : Packet} {e : Error} :
    encoder.error? p = some e ↔ encoder.encode p = .error e := by
  unfold Encoder.error?
  cases encoder.encode p with
  | ok bytes => exact ⟨nofun, nofun⟩
  | error e' => simp

theorem Encoder.numbered_eq_error_iff {encoder : Encoder} {p : UInt16 → Packet} {e : Error} :
    (encoder.numbered p).2 = .error e ↔ encoder.error? (p encoder.nextId) = some e := by
  unfold Encoder.numbered Encoder.error?
  cases encoder.encode (p encoder.nextId) with
  | ok bytes => exact ⟨nofun, nofun⟩
  | error e' => simp

namespace Ledger

variable {l : Ledger}

/-! ### When an operation is rejected -/

/-- Why an operation is rejected, if it is. The ledger is looked at before the packet, which is
built around the next id; a message at QoS 0 needs neither room nor an id. -/
def refusal? (l : Ledger) (o : Operation) : Option Error :=
  if l.state ≠ .connected then some .notConnected
  else
    match o with
    | .publish _ _ .atMostOnce _ => l.encoder.error? (o.packet 0)
    | _ =>
      if l.hasRoom then l.encoder.error? (o.packet l.encoder.nextId) else some .outboxFull

theorem beginTracked_eq_error_iff {now : Nat} {kind : PacketType} {qos : QoS}
    {encode : Encoder → Encoder × Except Error Outgoing} {e : Error} :
    (l.beginTracked now kind qos encode).2 = .error e ↔
      if l.state ≠ .connected then e = .notConnected
      else if l.hasRoom then (encode l.encoder).2 = .error e
      else e = .outboxFull := by
  unfold beginTracked
  by_cases hstate : l.state ≠ .connected
  · rw [if_pos hstate, if_pos hstate]
    simp [eq_comm]
  · rw [if_neg hstate, if_neg hstate]
    cases l.hasRoom with
    | false => simp [eq_comm]
    | true =>
      cases encode l.encoder with
      | mk encoder result => cases result <;> simp

theorem begin_eq_error_iff_of_tracked {now : Nat} {o : Operation} {e : Error} (ho : o.IsTracked) :
    (l.begin now o).2 = .error e ↔
      (if l.state ≠ .connected then some .notConnected
        else if l.hasRoom then l.encoder.error? (o.packet l.encoder.nextId)
        else some .outboxFull) = some e := by
  rw [begin_eq ho, beginTracked_eq_error_iff]
  split
  · simp [eq_comm]
  · split
    · exact Encoder.numbered_eq_error_iff
    · simp [eq_comm]

theorem begin_eq_error_iff {now : Nat} {o : Operation} {e : Error} :
    (l.begin now o).2 = .error e ↔ l.refusal? o = some e := by
  cases o with
  | subscribe filter qos => exact begin_eq_error_iff_of_tracked trivial
  | unsubscribe filter => exact begin_eq_error_iff_of_tracked trivial
  | publish topic payload qos retain =>
    cases qos with
    | atLeastOnce => exact begin_eq_error_iff_of_tracked nofun
    | exactlyOnce => exact begin_eq_error_iff_of_tracked nofun
    | atMostOnce =>
      unfold begin beginPublish refusal?
      dsimp only
      rw [if_pos rfl]
      split
      · simp
      · rw [Encoder.error?_eq_some_iff, Encoder.publish_of_atMostOnce]
        dsimp only [Operation.packet]
        cases l.encoder.encode (.publish ⟨0, topic, .atMostOnce, false, retain, payload⟩) with
        | ok bytes => exact ⟨nofun, nofun⟩
        | error e' =>
          change (Except.error e' : Except Error Outgoing) = .error e ↔ _
          simp

def refusals : List Error :=
  [.notConnected, .outboxFull, .encodeBufferTooSmall, .variableLengthIntegerMaximumExceeded,
    .payloadTooLarge]

theorem mem_refusals {o : Operation} {e : Error} (h : l.refusal? o = some e) : e ∈ refusals := by
  have hencode : ∀ p, l.encoder.error? p = some e → e ∈ refusals := by
    intro p hp
    rcases Encoder.encode_error (Encoder.error?_eq_some_iff.mp hp) with he | he | he <;>
      simp [he, refusals]
  unfold refusal? at h
  split at h
  · cases h
    simp [refusals]
  · split at h
    · exact hencode _ h
    · split at h
      · exact hencode _ h
      · cases h
        simp [refusals]

/-! ### Calls that come to nothing -/

theorem resolve_of_false {kind : PacketType} {packetId : UInt16}
    (h : (l.resolve kind packetId).2 = false) : (l.resolve kind packetId).1 = l := by
  unfold resolve at h ⊢
  split at h
  · split at h
    · rename_i hawaits
      rw [if_pos hawaits]
    · cases h
  · split at h
    · split at h
      · cases h
      · rename_i hnot
        rw [if_neg hnot]
    · rfl

theorem advanceToPubrel_of_false {packetId : UInt16} {pubrel : Bytes}
    (h : (l.advanceToPubrel packetId pubrel).2 = false) :
    (l.advanceToPubrel packetId pubrel).1 = l := by
  unfold advanceToPubrel at h ⊢
  dsimp only at h ⊢
  split at h
  · cases h
  · split at h
    · split at h
      · cases h
      · rename_i hnot
        rw [if_neg hnot]
    · rfl

/-- Whether a call comes to nothing: an operation is rejected or has no id, or an acknowledgement
belongs to no operation. -/
def isIdle (l : Ledger) : Move → Bool
  | .begin now o =>
    match (l.begin now o).2 with
    | .ok out => out.packetId = 0
    | .error _ => true
  | .resolve kind packetId => !(l.resolve kind packetId).2
  | .advance packetId pubrel => !(l.advanceToPubrel packetId pubrel).2
  | _ => false

theorem move_of_isIdle {m : Move} (h : l.isIdle m = true) : l.move m = l := by
  cases m with
  | begin now o =>
    unfold isIdle at h
    dsimp only at h
    split at h
    · rename_i out hout
      refine begin_of_not_tracked fun ho => ?_
      exact (packetId_of_begin hout).mpr ho (of_decide_eq_true h)
    · rename_i e he
      exact begin_of_error he
  | resolve kind packetId => exact resolve_of_false (by simpa [isIdle] using h)
  | advance packetId pubrel => exact advanceToPubrel_of_false (by simpa [isIdle] using h)
  | _ => cases h

/-- The calls of a run that do not come to nothing. -/
def effective (l : Ledger) : List Move → List Move
  | [] => []
  | m :: moves =>
    if l.isIdle m then l.effective moves else m :: (l.move m).effective moves

theorem moveAll_effective (moves : List Move) :
    l.moveAll (l.effective moves) = l.moveAll moves := by
  induction moves generalizing l with
  | nil => rfl
  | cons m moves ih =>
    unfold effective
    split
    · rename_i hidle
      have hsame : l.moveAll (m :: moves) = (l.move m).moveAll moves := rfl
      rw [ih, hsame, move_of_isIdle hidle]
    · exact ih

/-- An operation that is rejected, an acknowledgement that no operation waits for and a message at
QoS 0 leave the ledger as it is, with its state, its operations in their places and order, and its
numbering; and whatever run they are a part of leads to the same ledger without them. -/
theorem refusals_leave_no_trace (l : Ledger) :
    (∀ now o e, ((l.begin now o).2 = .error e ↔ l.refusal? o = some e)
      ∧ ((l.begin now o).2 = .error e → (l.begin now o).1 = l ∧ e ∈ refusals))
    ∧ (∀ kind packetId, (l.resolve kind packetId).2 = false → (l.resolve kind packetId).1 = l)
    ∧ (∀ packetId pubrel, (l.advanceToPubrel packetId pubrel).2 = false →
      (l.advanceToPubrel packetId pubrel).1 = l)
    ∧ (∀ now topic payload retain, (l.beginPublish now topic payload .atMostOnce retain).1 = l)
    ∧ ∀ moves, l.moveAll (l.effective moves) = l.moveAll moves := by
  refine ⟨?_, fun _ _ => resolve_of_false, fun _ _ => advanceToPubrel_of_false, ?_,
    moveAll_effective⟩
  · intro now o e
    refine ⟨begin_eq_error_iff, fun h => ⟨begin_of_error h, ?_⟩⟩
    exact mem_refusals (begin_eq_error_iff.mp h)
  · intro now topic payload retain
    exact begin_of_not_tracked (o := .publish topic payload .atMostOnce retain) fun ho => ho rfl

/-- With a full outbox a third operation is rejected, a PUBACK does not complete a QoS 2 PUBLISH,
and a PUBREC does not release one at QoS 1. -/
theorem refusals_leave_no_trace_of_full_outbox :
    let c := ({ host := "h", outboxCapacity := 1 } : Settings).toConfig "c"
    let l := (Ledger.new c).moveAll [.setState .connected,
      .begin 0 (.publish "a" [1] .atLeastOnce false), .begin 5 (.publish "b" [] .exactlyOnce true)]
    l.tracked.map Tracked.packetId = [1, 2]
      ∧ (l.begin 7 (.subscribe "#" .atMostOnce)).2 = .error .outboxFull
      ∧ (l.begin 7 (.subscribe "#" .atMostOnce)).1 = l
      ∧ (l.resolve .publish 2).2 = false ∧ (l.resolve .publish 2).1 = l
      ∧ (l.advanceToPubrel 1 [98, 2, 0, 1]).2 = false
      ∧ (l.advanceToPubrel 1 [98, 2, 0, 1]).1 = l := by
  intro c l
  have hfull : l.tracked.map Tracked.packetId = [1, 2]
      ∧ l.refusal? (.subscribe "#" .atMostOnce) = some .outboxFull := by
    subst l c
    decide +kernel
  have hstray : (l.resolve .publish 2).2 = false
      ∧ (l.advanceToPubrel 1 [98, 2, 0, 1]).2 = false := by
    subst l c
    decide +kernel
  obtain ⟨hbegin, hresolve, hadvance, _⟩ := refusals_leave_no_trace l
  have hrejected := (hbegin 7 (.subscribe "#" .atMostOnce) .outboxFull).1.mpr hfull.2
  exact ⟨hfull.1, hrejected, ((hbegin 7 _ _).2 hrejected).1, hstray.1, hresolve _ _ hstray.1,
    hstray.2, hadvance _ _ hstray.2⟩

end Ledger
end Mqtt
