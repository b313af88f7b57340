import Mqtt.Proofs.Client.Ownership
import Mqtt.Proofs.Ledger.Numbering

/-!
Packet ids before they run out. Until 65535 operations with an id were issued, no id is handed out
that anything under way still carries.
-/

namespace Mqtt
set_option autoImplicit false

/-! ### Ids in order -/

def LogEntry.isNumbered : LogEntry → Bool
  | .accepted r => r.packetId ≠ 0
  | _ => false

namespace Scene

variable {κ : Type} {react : κ → Event → Reaction κ} {s s' : Scene κ} {log es : List LogEntry}
  {r : Request}

theorem issued_of_fits {x : Call} (hx : x.Fits s.places log) (h : Kept s log) {kind : PacketType}
    {packetId : UInt16} {answer : Option (Except Error Unit)}
    (hgoal : x.goal = .operation kind packetId answer) :
    ∃ r, .accepted r ∈ log ∧ r.packetId = packetId := by
  cases hx with
  | stop _ => cases hgoal
  | waits hplace _ =>
    cases hgoal
    exact ⟨_, h.accepted_of_place hplace, rfl⟩
  | answered haccepted _ =>
    cases hgoal
    exact ⟨_, haccepted, rfl⟩

/-- Whatever may still fail was issued. -/
theorem Kept.issued_of_carries (h : Kept s log) (hr : s.Carries r) :
    ∃ r', .accepted r' ∈ log ∧ r'.packetId = r.packetId := by
  rcases hr with ⟨x, hx, hxr⟩ | hqueue | hflight | ⟨answer, hanswer, hmem⟩
  · have hplace : (x.request, x.stage.place) ∈ s.places :=
      List.mem_append_left _ (List.mem_map_of_mem hx)
    rw [← hxr]
    exact ⟨x.request, h.accepted_of_place hplace, rfl⟩
  · have hplace : (r, .queued) ∈ s.places :=
      List.mem_append_right _ (List.mem_append_left _ (List.mem_map_of_mem hqueue))
    exact ⟨r, h.accepted_of_place hplace, rfl⟩
  · have hplace : (r, .inFlight) ∈ s.places := by
      unfold places
      rw [hflight]
      exact placesOf_flight.mem_iff.mpr List.mem_cons_self
    exact ⟨r, h.accepted_of_place hplace, rfl⟩
  · exact issued_of_fits (h.attended.fits _ hmem) h rfl

/-- Whether the ids that were handed out are those up to the last one. -/
structure InSequence (s : Scene κ) (log : List LogEntry) : Prop where
  few : s.client.ledger.encoder.lastId.toNat ≤ log.countP LogEntry.isNumbered
  handed : ∀ r, .accepted r ∈ log → r.packetId ≤ s.client.ledger.encoder.lastId
  records : ∀ t ∈ s.client.ledger.tracked, ∃ r, .accepted r ∈ log ∧ r.packetId = t.packetId

/-- The next id is beyond those that were handed out. -/
theorem InSequence.spares (h : InSequence s log) (hkept : Kept s log)
    (hlast : s.client.ledger.encoder.lastId.toNat < 65535) :
    s.Spares s.client.ledger.encoder.nextId := by
  have hnew : ∀ r, .accepted r ∈ log → r.packetId ≠ s.client.ledger.encoder.nextId := by
    intro r hr heq
    have hle := UInt16.le_iff_toNat_le.mp (h.handed r hr)
    rw [heq] at hle
    unfold Encoder.nextId at hle
    rw [PacketId.toNat_next hlast] at hle
    omega
  constructor
  · intro t ht heq
    obtain ⟨r, hr, hrt⟩ := h.records t ht
    exact hnew r hr (hrt.trans heq)
  · intro r hr heq
    obtain ⟨r', hr', hrr⟩ := hkept.issued_of_carries hr
    exact hnew r' hr' (hrr.trans heq)

theorem InSequence.lessen (h : InSequence s log) (hlessens : s.Lessens s' es) :
    InSequence s' (log ++ es) where
  few := by
    rw [hlessens.encoder, List.countP_append]
    exact Nat.le_trans h.few (Nat.le_add_right _ _)
  handed r hr := by
    rw [hlessens.encoder]
    exact h.handed r (hlessens.accepted hr)
  records t' ht' := by
    obtain ⟨t, ht, hid, _⟩ := hlessens.origin t' ht'
    obtain ⟨r, hr, hrt⟩ := h.records t ht
    exact ⟨r, List.mem_append_left es hr, hrt.trans hid.symm⟩

section Begins

variable {now : Nat} {o : Operation} {out : Outgoing}

theorem Begins.countP_isNumbered (h : s.Begins s' es now o out) (hid : out.packetId ≠ 0) :
    es.countP LogEntry.isNumbered = 1 := by
  simp [h.log, LogEntry.isNumbered, hid]

/-- There is an id left for an operation that is issued under one. -/
theorem InSequence.lastId_lt (h : InSequence s log) (hbegins : s.Begins s' es now o out)
    (hid : out.packetId ≠ 0) (hfew : (log ++ es).countP LogEntry.isNumbered ≤ 65535) :
    s.client.ledger.encoder.lastId.toNat < 65535 := by
  have hone := hbegins.countP_isNumbered hid
  have hbound := h.few
  rw [List.countP_append] at hfew
  omega

/-- The last id goes up by one if the operation has one, or stays. -/
theorem InSequence.lastId_begin (h : InSequence s log) (hbegins : s.Begins s' es now o out)
    (hfew : (log ++ es).countP LogEntry.isNumbered ≤ 65535) :
    (out.packetId = 0 ∧ s'.client.ledger.encoder.lastId = s.client.ledger.encoder.lastId)
    ∨ (out.packetId ≠ 0 ∧ s'.client.ledger.encoder.lastId = out.packetId
      ∧ out.packetId.toNat = s.client.ledger.encoder.lastId.toNat + 1) := by
  by_cases ho : o.IsTracked
  · have hid := (Ledger.packetId_of_begin hbegins.begin).mpr ho
    refine .inr ⟨hid, ?_, ?_⟩
    · rw [hbegins.ledger]
      exact Ledger.lastId_begin ho hbegins.begin
    · rw [(Ledger.encode_of_begin hbegins.begin).1 ho]
      exact PacketId.toNat_next (h.lastId_lt hbegins hid hfew)
  · refine .inl ⟨?_, ?_⟩
    · by_contra hid
      exact ho ((Ledger.packetId_of_begin hbegins.begin).mp hid)
    · rw [hbegins.ledger, Ledger.begin_of_not_tracked ho]

theorem InSequence.begin (h : InSequence s log) (hd : s.client.ledger.Distinct)
    (hbegins : s.Begins s' es now o out)
    (hfew : (log ++ es).countP LogEntry.isNumbered ≤ 65535) : InSequence s' (log ++ es) := by
  have hlast := h.lastId_begin hbegins hfew
  have hbound := h.few
  -- `hlast` says how far the last id went; each field looks at an operation without an id, then at
  -- one that took the next id.
  refine ⟨?_, fun r hr => ?_, fun t ht => ?_⟩
  · rw [List.countP_append]
    rcases hlast with ⟨_, hsame⟩ | ⟨hid, hlast, hnext⟩
    · rw [hsame]
      omega
    · have hone := hbegins.countP_isNumbered hid
      rw [hlast]
      omega
  · rcases List.mem_append.mp hr with hr | hr
    · have hle := UInt16.le_iff_toNat_le.mp (h.handed r hr)
      rcases hlast with ⟨_, hsame⟩ | ⟨_, hlast, hnext⟩
      · rw [hsame]
        exact h.handed r hr
      · rw [hlast]
        exact UInt16.le_iff_toNat_le.mpr (by omega)
    · rw [hbegins.accepted_iff.mp hr]
      dsimp only
      rcases hlast with ⟨hzero, _⟩ | ⟨_, hlast, _⟩
      · rw [hzero]
        exact UInt16.zero_le
      · rw [hlast]
        exact UInt16.le_refl _
  · rcases hbegins.mem_tracked hd ht with ht | ⟨ht, _⟩
    · obtain ⟨r, hr, hrt⟩ := h.records t ht
      exact ⟨r, List.mem_append_left es hr, hrt⟩
    · refine ⟨_, List.mem_append_right log (hbegins.accepted_iff.mpr rfl), ?_⟩
      rw [ht]
      rfl

end Begins

theorem InSequence.turn (h : InSequence s log) (howned : Owned s log) (hturn : Turn s s' log es)
    (hfew : (log ++ es).countP LogEntry.isNumbered ≤ 65535) : InSequence s' (log ++ es) := by
  rcases hturn.begins_or_lessens howned.distinct with ⟨now, o, out, hbegins⟩ | hlessens
  · exact h.begin howned.distinct hbegins hfew
  · exact h.lessen hlessens

/-- Until the ids run out, one that an act hands out is spared. -/
theorem InSequence.takesSparedId (h : InSequence s log) (hkept : Kept s log)
    (howned : Owned s log) {a : Act κ}
    (hfew : (log ++ (s.act react a).2).countP LogEntry.isNumbered ≤ 65535) :
    s.TakesSparedId react a := by
  intro r hr hid
  -- Only a turn that begins an operation issues anything.
  rcases (hkept.turn react a).begins_or_lessens howned.distinct with
    ⟨now, o, out, hbegins⟩ | hlessens
  · rw [hbegins.accepted_iff.mp hr] at hid ⊢
    dsimp only at hid ⊢
    have hspares := h.spares hkept (h.lastId_lt hbegins hid hfew)
    have ho := (Ledger.packetId_of_begin hbegins.begin).mp hid
    rw [(Ledger.encode_of_begin hbegins.begin).1 ho]
    exact hspares
  · exact absurd hr (hlessens.issues r)

theorem InSequence.takesSparedIds (h : InSequence s log) (hkept : Kept s log)
    (hdrained : s.client.IsDrained) (howned : Owned s log) {acts : List (Act κ)}
    (hfew : (log ++ (s.play react acts).2).countP LogEntry.isNumbered ≤ 65535) :
    s.TakesSparedIds react acts := by
  -- Each act needs the bound on what is issued up to it, which the bound on the whole run gives.
  induction acts generalizing s log with
  | nil => trivial
  | cons a acts ih =>
    have hplay : (s.play react (a :: acts)).2 =
        (s.act react a).2 ++ ((s.act react a).1.play react acts).2 := rfl
    rw [hplay, ← List.append_assoc] at hfew
    have hfew' : (log ++ (s.act react a).2).countP LogEntry.isNumbered ≤ 65535 := by
      rw [List.countP_append] at hfew
      omega
    have hid := h.takesSparedId hkept howned hfew'
    obtain ⟨hkept', hdrained'⟩ := hkept.act hdrained react a
    refine ⟨hid, ih (h.turn howned (hkept.turn react a) hfew') hkept' hdrained' ?_ hfew⟩
    exact howned.act hkept hdrained hid

/-- While no more operations are issued than there are ids, every id is spared. -/
theorem takesSparedIds_of_few (react : κ → Event → Reaction κ) {config : Config}
    {defaultPort : UInt16} {listener : Option (Listener κ)} {c : Client κ}
    (h : Client.new config defaultPort listener = .ok c) {acts : List (Act κ)}
    (hfew : (({ client := c } : Scene κ).play react acts).2.countP LogEntry.isNumbered ≤ 65535) :
    ({ client := c } : Scene κ).TakesSparedIds react acts := by
  obtain ⟨hkept, hdrained⟩ := kept_of_new h
  have hledger := ledger_of_new h
  have hsequence : InSequence ({ client := c } : Scene κ) [] := by
    refine ⟨?_, nofun, ?_⟩
    · dsimp only
      rw [hledger]
      exact Nat.le_refl 0
    · dsimp only
      rw [hledger]
      exact List.forall_mem_nil _
  exact hsequence.takesSparedIds hkept hdrained (owned_of_new h) hfew

end Scene
end Mqtt
