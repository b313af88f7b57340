import Mqtt.Proofs.Session.Conduct

/-!
The state that a session ends in. While there is a session, the ledger is never in the state of a
client without one, not even when the session is over.
-/

namespace Mqtt
set_option autoImplicit false

/-- Whether the session was not lost, and will not end as if there had been none. -/
def Phase.IsRegular : Phase → Prop
  | .leaving final => final ≠ .unknown
  | .crashed => False
  | _ => True

namespace Ledger

variable {l : Ledger}

theorem state_preempt : l.preempt.state = l.state := by
  unfold preempt
  split <;> rfl

theorem state_begin (l : Ledger) (now : Nat) (o : Operation) :
    (l.begin now o).1.state = l.state := by
  cases h : (l.begin now o).2 with
  | error e => rw [begin_of_error h]
  | ok out =>
    by_cases ho : o.IsTracked
    · rw [begin_eq ho] at h ⊢
      obtain ⟨_, encoder, hl'⟩ := beginTracked_of_ok h
      rw [hl']
      exact @state_preempt { l with encoder }
    · rw [begin_of_not_tracked ho]

theorem state_abandon {kind : PacketType} {packetId : UInt16} :
    (l.abandon kind packetId).state = l.state := by
  unfold abandon
  split <;> rfl

theorem state_forget {kind : PacketType} {packetId : UInt16} :
    (l.forget kind packetId).state = l.state := by
  unfold forget
  split
  · rfl
  · exact state_abandon

theorem state_resolve {kind : PacketType} {packetId : UInt16} :
    (l.resolve kind packetId).1.state = l.state := by
  unfold resolve
  split
  · split <;> rfl
  · split
    · split <;> rfl
    · rfl

theorem state_advanceToPubrel {packetId : UInt16} {pubrel : Bytes} :
    (l.advanceToPubrel packetId pubrel).1.state = l.state := by
  unfold advanceToPubrel
  dsimp only
  split
  · rfl
  · split
    · split <;> rfl
    · rfl

/-- Only a call that sets the state changes it. -/
theorem state_move {m : Move} : (∃ state, m = .setState state ∧ (l.move m).state = state)
    ∨ (l.move m).state = l.state := by
  cases m with
  | setState state => exact .inl ⟨state, rfl, rfl⟩
  | begin now o => exact .inr (state_begin l now o)
  | resolve kind packetId => exact .inr state_resolve
  | advance packetId pubrel => exact .inr state_advanceToPubrel
  | abandon kind packetId => exact .inr state_abandon
  | evict now => exact .inr rfl
  | clear => exact .inr rfl

theorem state_moveAll_ne_unknown {moves : List Move} (hmoves : .setState .unknown ∉ moves)
    (hstate : l.state ≠ .unknown) : (l.moveAll moves).state ≠ .unknown := by
  induction moves generalizing l with
  | nil => exact hstate
  | cons m moves ih =>
    rw [List.mem_cons, not_or] at hmoves
    refine ih hmoves.2 ?_
    rcases state_move (l := l) (m := m) with ⟨state, hm, hmoved⟩ | hmoved
    · rintro hunknown
      rw [hmoved] at hunknown
      subst hunknown
      exact hmoves.1 hm.symm
    · rwa [hmoved]

end Ledger

namespace Session

variable {s : Session} {l : Ledger}

theorem isRegular_send {purpose : Purpose} {p : Packet} :
    (s.send l purpose p).session.phase.IsRegular := by
  unfold send
  split <;> trivial

theorem isRegular_disconnect : (s.disconnect l).session.phase.IsRegular := by
  unfold disconnect
  split
  · trivial
  · exact nofun

theorem isRegular_attempt {stopRequested : Bool} :
    (s.attempt l stopRequested).session.phase.IsRegular := by
  unfold attempt
  split
  · exact nofun
  · trivial

theorem isRegular_greet {now deadline : Nat} :
    (s.greet l now deadline).session.phase.IsRegular := by
  unfold greet
  split
  · dsimp only
    split <;> trivial
  · trivial
  · split <;> trivial

theorem isRegular_receive {next : Phase} {result : Except Error Bytes} (hnext : next.IsRegular) :
    (s.receive l next result).session.phase.IsRegular := by
  unfold receive
  split
  · trivial
  · exact hnext
  · dsimp only
    split
    · exact hnext
    · trivial

theorem isRegular_acknowledge {p : Publish} {e : Event} :
    (s.acknowledge l p e).session.phase.IsRegular := by
  unfold acknowledge
  split
  · trivial
  · exact isRegular_send
  · exact isRegular_send

theorem isRegular_settle {kind : PacketType} {packetId : UInt16} {e : Event} :
    (s.settle l kind packetId e).session.phase.IsRegular := by
  unfold settle
  split <;> trivial

theorem isRegular_handle {item : DecodedItem} : (s.handle l item).session.phase.IsRegular := by
  cases item with
  | chunk c =>
    unfold handle
    dsimp only
    split
    · exact isRegular_acknowledge
    · trivial
  | packet p =>
    cases p with
    | publish p => exact isRegular_acknowledge
    | puback i => exact isRegular_settle
    | pubcomp i => exact isRegular_settle
    | suback i codes => exact isRegular_settle
    | unsuback i => exact isRegular_settle
    | pubrel i => exact isRegular_send
    | pingreq => exact isRegular_send
    | pubrec i =>
      unfold handle
      dsimp only
      split <;> trivial
    | _ => trivial

theorem isRegular_listen {now : Nat} : (s.listen l now).session.phase.IsRegular := by
  unfold listen
  dsimp only
  split
  · exact isRegular_send
  · trivial

theorem isRegular_wrote {now : Nat} {purpose : Purpose} :
    (s.wrote l now purpose).session.phase.IsRegular := by
  cases purpose with
  | response event => cases event <;> trivial
  | farewell => exact nofun
  | _ => trivial

theorem isRegular_writeFailed {e : Error} {purpose : Purpose} :
    (s.writeFailed l e purpose).session.phase.IsRegular := by
  cases purpose with
  | farewell => exact nofun
  | _ => trivial

theorem isRegular_step {now : Nat} {stopRequested : Bool} {w : Wake} (h : s.phase.IsRegular) :
    (s.step l now stopRequested w).session.phase.IsRegular := by
  unfold step
  split
  · exact isRegular_attempt
  · exact nofun
  · exact isRegular_send
  · trivial
  · exact isRegular_wrote
  · exact isRegular_writeFailed
  · exact isRegular_greet
  · exact nofun
  · exact nofun
  · trivial
  · exact isRegular_receive trivial
  · split
    · exact isRegular_disconnect
    · trivial
  · split
    · exact isRegular_handle
    · exact isRegular_listen
  · trivial
  · trivial
  · exact isRegular_disconnect
  · exact isRegular_receive trivial
  · trivial
  · split
    · trivial
    · exact nofun
  · split
    · exact nofun
    · split <;> trivial
  · exact nofun
  · exact nofun
  · trivial
  · trivial
  · trivial
  · exact h

theorem setState_unknown_notMem_moves {m : Moment} (h : s.phase.IsRegular) :
    .setState .unknown ∉ s.moves m := by
  intro hmem
  cases makes_of_mem_moves hmem with
  | finishes _ hp =>
    rw [hp] at h
    exact h rfl

end Session

end Mqtt
