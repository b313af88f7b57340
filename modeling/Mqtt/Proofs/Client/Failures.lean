import Mqtt.Proofs.Client.Numbering

/-!
Operations that fail. An operation that fails takes its own record with it, unless a PUBREC came
before its PUBLISH was written, and no other record.
-/

namespace Mqtt
set_option autoImplicit false

namespace Scene

variable {κ : Type}

/-- While every id that is handed out is spared, a call that fails leaves nothing behind. One that
is refused has changed nothing. One that was issued leaves no record under its id, as long as no
PUBREC has released it; and whatever else happens, a record waits with its level and its time until
the log tells why it is gone. -/
theorem failures_leave_nothing (react : κ → Event → Reaction κ) {config : Config}
    {defaultPort : UInt16} {listener : Option (Listener κ)} {c : Client κ}
    (h : Client.new config defaultPort listener = .ok c) (acts : List (Act κ))
    (hids : ({ client := c } : Scene κ).TakesSparedIds react acts) :
    let run := ({ client := c } : Scene κ).play react acts
    (∀ a ticket e, .refused ticket e ∈ (run.1.act react a).2 →
      (run.1.act react a).1.client.ledger = run.1.client.ledger)
    ∧ (∀ a r e before since, .returned r.ticket (.error e) ∈ (run.1.act react a).2 →
      r.packetId ≠ 0 → run.2 = before ++ .accepted r :: since →
      .noted (.released r.packetId) ∉ since →
      (run.1.act react a).1.client.ledger.IsFree r.packetId)
    ∧ ∀ more, run.1.TakesSparedIds react more → ∀ t ∈ run.1.client.ledger.tracked,
      (∃ t' ∈ (run.1.play react more).1.client.ledger.tracked, t'.Continues t)
        ∨ IsGone run.2 (run.1.play react more).2 t := by
  intro run
  -- Both invariants hold at the end of the run; what fails or stays is read off the turn behind it.
  obtain ⟨hnew, hnewDrained⟩ := kept_of_new h
  obtain ⟨hkept, hdrained⟩ := hnew.play hnewDrained react acts
  obtain ⟨howned, _⟩ := (owned_of_new h).play hnew hnewDrained hids
  rw [List.nil_append] at hkept howned
  refine ⟨fun a ticket e hrefused => ?_, ?_, ?_⟩
  · exact (hkept.turn react a).ledger_of_refused hrefused
  · intro a r e before since hreturned hid hlog hreleased
    exact howned.isFree hkept (hkept.turn react a) hlog hid hreleased hreturned
  · intro more hmore
    exact (howned.play hkept hdrained hmore).2

/-- Behind a subscription that waits, a PUBLISH is issued whose write fails. -/
theorem failures_leave_nothing_of_write :
    let config := ({ host := "h" } : Settings).toConfig "c"
    let r : Request := ⟨[0x34, 6, 0, 1, 97, 0, 2, 98], .publish, 2, 1⟩
    let acts : List (Act Unit) := Act.connecting ++
      [.call 0 (.subscribe "b" .atMostOnce), .reach 0, .offer 0, .session 0 .request,
        .session 0 (.written (.ok ())), .session 0 .run, .session 0 .run,
        .call 0 (.publish "a" [98] .exactlyOnce false), .reach 1, .offer 1, .session 0 .request,
        .session 0 (.written (.error .streamWriteFailure))]
    ∃ c, Client.new config 1883 none = .ok c ∧
      let run := ({ client := c } : Scene Unit).play (fun _ _ => {}) acts
      let after := run.1.act (fun _ _ => {}) (.conclude 1)
      ({ client := c } : Scene Unit).TakesSparedIds (fun _ _ => {}) acts
        ∧ .returned r.ticket (.error .streamWriteFailure) ∈ after.2
        ∧ after.1.client.ledger.IsFree r.packetId
        ∧ after.1.client.ledger.tracked.map Tracked.packetId = [1] := by
  intro config r acts
  have hnew : Client.new (κ := Unit) config 1883 none = .ok _ := rfl
  refine ⟨_, hnew, ?_⟩
  intro run after
  have hrun : run.2.countP LogEntry.isNumbered = 2 ∧ run.2.drop 12 = .accepted r ::
      [.noted (.issued .publish .exactlyOnce 2), .queued r, .taken r, .forgot 1,
        .answered 1 (.error .streamWriteFailure)] := by
    subst run acts config r
    decide +kernel
  have hafter : after.2 = [.forgot 1, .returned 1 (.error .streamWriteFailure)]
      ∧ after.1.client.ledger.tracked.map Tracked.packetId = [1] := by
    subst after run acts config
    decide +kernel
  have hids := takesSparedIds_of_few (fun _ _ => {}) hnew (hrun.1.trans_le (by decide))
  have hreturned : .returned r.ticket (.error .streamWriteFailure) ∈ after.2 := by
    rw [hafter.1]
    simp [r]
  have hfree := (failures_leave_nothing (fun _ _ => {}) hnew acts hids).2.1 (.conclude 1) r
    .streamWriteFailure (run.2.take 12) _ hreturned (by decide)
    (by rw [← hrun.2, List.take_append_drop]) (by simp)
  refine ⟨hids, hreturned, ?_, hafter.2⟩
  subst after run
  exact hfree

/-- A PUBREC that comes while the PUBLISH waits for its turn makes a PUBREL of the record, and the
write that fails afterwards does not find it: the call has failed, and its record stays. -/
theorem failure_leaves_early_pubrec :
    let config := ({ host := "broker", cleanSession := false } : Settings).toConfig "c"
    let r : Request := ⟨[0x34, 6, 0, 1, 116, 0, 1, 0xAA], .publish, 1, 0⟩
    let acts : List (Act Unit) := Act.connecting ++
      [.call 0 (.publish "t" [0xAA] .exactlyOnce false), .reach 0, .offer 0,
        .session 0 (.read (.ok [0x50, 2, 0, 1])), .session 0 .run, .session 0 .run,
        .session 0 (.written (.ok ())), .session 0 .run, .session 0 .run, .session 0 .run,
        .session 0 .request, .session 0 (.written (.error .streamWriteFailure))]
    ∃ c, Client.new config 1883 none = .ok c ∧
      let run := ({ client := c } : Scene Unit).play (fun _ _ => {}) acts
      let after := run.1.act (fun _ _ => {}) (.conclude 0)
      ({ client := c } : Scene Unit).TakesSparedIds (fun _ _ => {}) acts
        ∧ .accepted r ∈ run.2
        ∧ .returned r.ticket (.error .streamWriteFailure) ∈ after.2
        ∧ after.1.client.ledger.tracked.map (fun t => (t.kind, t.packetId)) = [(.pubrel, 1)] := by
  intro config r acts
  have hnew : Client.new (κ := Unit) config 1883 none = .ok _ := rfl
  refine ⟨_, hnew, ?_⟩
  intro run after
  have hrun : run.2.countP LogEntry.isNumbered = 1 ∧ run.2[5]? = some (.accepted r) := by
    subst run acts config r
    decide +kernel
  have hafter : after.2 = [.forgot 0, .returned 0 (.error .streamWriteFailure)]
      ∧ after.1.client.ledger.tracked.map (fun t => (t.kind, t.packetId)) = [(.pubrel, 1)] := by
    subst after run acts config
    decide +kernel
  refine ⟨takesSparedIds_of_few _ hnew (hrun.1.trans_le (by decide)),
    List.mem_of_getElem? hrun.2, ?_, hafter.2⟩
  rw [hafter.1]
  simp [r]

end Scene
end Mqtt
