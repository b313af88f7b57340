import Mqtt.Proofs.Session.Clock

/-!
Deadlines. A pause between two attempts ends when the delay has passed since it began, and the wait
for the broker's answer when the timeout has passed since the greeting was written, whatever comes
in between.
-/

namespace Mqtt
set_option autoImplicit false

/-- The broker has been greeted and has not answered. -/
def Phase.AwaitsAnswer : Phase → Prop
  | .greeting _ | .awaitingAnswer _ => True
  | _ => False

theorem Phase.AwaitsAnswer.not_isConnected {phase : Phase} (h : phase.AwaitsAnswer) :
    ¬ phase.IsConnected := by
  cases phase with
  | greeting | awaitingAnswer => exact id
  | _ => exact h.elim

theorem Phase.AwaitsAnswer.ne_writing {phase : Phase} (h : phase.AwaitsAnswer) (purpose : Purpose) :
    phase ≠ .writing purpose := by
  rintro rfl
  exact h

/-- From a lost connection to the next attempt or the end. -/
def Phase.IsPause : Phase → Prop
  | .retrying | .pausing _ | .sleeping _ | .leaving _ => True
  | _ => False

theorem Session.respond_of_sleeping {s : Session} {m : Moment} {deadline : Nat} {r : Request}
    (hp : s.phase = .sleeping deadline) (hwake : m.wake = .request r) :
    s.respond m = s.reject m.ledger r (.pausing deadline) := by
  unfold respond step
  rw [hp, hwake]

theorem Session.respond_of_late {s : Session} {m : Moment} {deadline : Nat}
    (hp : s.phase = .greeting deadline) (hwake : m.wake = .run) (hitems : s.items = [])
    (hlate : deadline ≤ m.now) : s.respond m = s.fail m.ledger .connectionTimeout := by
  unfold respond step
  rw [hp, hwake]
  dsimp only
  unfold greet
  rw [hitems]
  exact if_pos hlate

theorem Session.respond_of_pausing {s : Session} {m : Moment} {deadline : Nat}
    (hp : s.phase = .pausing deadline) (hwake : m.wake = .run) (hstop : m.stopRequested = false)
    (hlate : deadline ≤ m.now) : s.respond m = s.reopen m.ledger := by
  unfold respond step
  rw [hp, hwake, hstop]
  exact if_pos hlate

theorem Session.respond_of_elapsed {s : Session} {m : Moment} {deadline : Nat}
    (hp : s.phase = .sleeping deadline) (hwake : m.wake = .elapsed) :
    s.respond m = s.reopen m.ledger := by
  unfold respond step
  rw [hp, hwake]

namespace Timed

variable {config : Config} {x y : Timed} {m : Moment} {writing : Option Nat}

/-- What holds of a session in this phase. -/
def OnTime (config : Config) (x : Timed) : Phase → Prop
  | .connecting | .writing .greeting => x.state ≠ .waitTimeout ∧ x.session.lastError = none
  | .greeting deadline =>
    (x.state ≠ .waitTimeout ∧ x.session.lastError = none)
      ∧ deadline = x.written + config.networkTimeout ∧ x.due = some x.now ∧ x.now ≤ deadline
  | .awaitingAnswer deadline =>
    (x.state ≠ .waitTimeout ∧ x.session.lastError = none)
      ∧ deadline = x.written + config.networkTimeout ∧ x.due = some deadline
  | .retrying => x.state = .waitTimeout ∧ x.since = x.now ∧ x.due = some x.now
  | .pausing deadline =>
    x.state = .waitTimeout ∧ deadline = x.since + config.reconnectDelay ∧ x.due = some x.now
      ∧ x.now ≤ deadline
  | .sleeping deadline =>
    x.state = .waitTimeout ∧ deadline = x.since + config.reconnectDelay ∧ x.due = some deadline
  | .leaving final =>
    final ≠ .waitTimeout ∧ x.due = some x.now ∧ (x.state = .waitTimeout →
      x.now ≤ x.since + config.reconnectDelay ∧ (config.autoReconnect = true → final = .stopped))
  | _ => x.state ≠ .waitTimeout

structure Punctual (config : Config) (x : Timed) : Prop where
  configured : x.session.config = config
  onTime : x.OnTime config x.session.phase

theorem punctual_new (config : Config) (defaultPort : UInt16) (start : Nat) :
    (Timed.new config defaultPort start).Punctual config :=
  ⟨rfl, nofun⟩

theorem OnTime.state_ne {phase : Phase} (h : x.OnTime config phase)
    (hp : phase.IsAttempt ∨ phase.IsConnected) : x.state ≠ .waitTimeout := by
  cases phase with
  | connecting => exact h.1
  | greeting => exact h.1.1
  | awaitingAnswer => exact h.1.1
  | serving | handling | listening => exact h
  | writing purpose =>
    cases purpose with
    | greeting => exact h.1
    | _ => exact h
  | _ => simp [Phase.IsAttempt, Phase.IsConnected] at hp

theorem onTime_of_isConnected {phase : Phase} (hp : phase.IsConnected)
    (hstate : x.state ≠ .waitTimeout) : x.OnTime config phase := by
  cases phase with
  | serving | handling | listening => exact hstate
  | writing purpose =>
    cases purpose with
    | greeting => exact hp.elim
    | _ => exact hstate
  | _ => exact hp.elim

theorem OnTime.isPause {phase : Phase} (h : x.OnTime config phase)
    (hstate : x.state = .waitTimeout) : phase.IsPause := by
  cases phase with
  | retrying | pausing | sleeping | leaving => trivial
  | connecting => exact h.1 hstate
  | greeting => exact h.1.1 hstate
  | awaitingAnswer => exact h.1.1 hstate
  | writing purpose =>
    cases purpose with
    | greeting => exact h.1 hstate
    | _ => exact h hstate
  | _ => exact h hstate

/-- A pause is never longer than the delay. -/
theorem Punctual.pause (h : x.Punctual config) (hadmits : x.Admits m)
    (hstate : x.state = .waitTimeout) : m.now ≤ x.since + config.reconnectDelay := by
  have honTime := h.onTime
  have hpause := honTime.isPause hstate
  have hin := hadmits.in_time
  cases hp : x.session.phase with
  | retrying =>
    obtain ⟨_, hsince, hdue⟩ := hp ▸ honTime
    have hnow := hin _ hdue
    omega
  | pausing deadline =>
    obtain ⟨_, hdeadline, hdue, hnear⟩ := hp ▸ honTime
    have hnow := hin _ hdue
    omega
  | sleeping deadline =>
    obtain ⟨_, hdeadline, hdue⟩ := hp ▸ honTime
    have hnow := hin _ hdue
    omega
  | leaving final =>
    obtain ⟨_, hdue, hleaving⟩ := hp ▸ honTime
    have hnow := hin _ hdue
    have hnear := (hleaving hstate).1
    omega
  | _ => exact absurd hpause (hp ▸ id)

/-- The broker has no longer to answer than the timeout. -/
theorem Punctual.wait (h : x.Punctual config) (hadmits : x.Admits m)
    (hp : x.session.phase.AwaitsAnswer) : m.now ≤ x.written + config.networkTimeout := by
  have honTime := h.onTime
  have hin := hadmits.in_time
  cases hphase : x.session.phase with
  | greeting deadline =>
    obtain ⟨_, hdeadline, hdue, hnear⟩ := hphase ▸ honTime
    have hnow := hin _ hdue
    omega
  | awaitingAnswer deadline =>
    obtain ⟨_, hdeadline, hdue⟩ := hphase ▸ honTime
    have hnow := hin _ hdue
    omega
  | _ => exact absurd hp (hphase ▸ id)

theorem config_respond (s : Session) (m : Moment) : (s.respond m).session.config = s.config :=
  Session.config_turn s m

theorem punctual_of_phase (h : x.Punctual config) (haccepts : x.session.phase.accepts m.wake = true)
    {phase : Phase} (hphase : (x.session.respond m).session.phase = phase)
    (honTime : (x.advance writing m).OnTime config phase) :
    (x.advance writing m).Punctual config := by
  rw [advance_of_accepts haccepts] at honTime ⊢
  exact ⟨(config_respond x.session m).trans h.configured, hphase ▸ honTime⟩

/-- After a step that leaves the state as it is. -/
theorem punctual_of_steady (h : x.Punctual config) (hadmits : x.Admits m)
    (haccepts : x.session.phase.accepts m.wake = true) {phase : Phase}
    (hphase : (x.session.respond m).session.phase = phase)
    (hstate : (x.session.respond m).ledger.state = m.ledger.state)
    (honTime : OnTime config
      { session := (x.session.respond m).session
        state := x.state
        now := m.now
        since := x.since
        written := if m.wake.isWritten then m.now else x.written
        pinged := if (x.session.respond m).effects.any Effect.isPing then m.now else x.pinged
        due := (x.session.respond m).due writing m.now } phase) :
    (x.advance writing m).Punctual config := by
  apply punctual_of_phase h haccepts hphase
  rw [advance_of_steady haccepts hadmits hstate]
  exact honTime

/-- A session that is about to end does so at once. -/
theorem punctual_leaving (h : x.Punctual config) (hadmits : x.Admits m)
    (haccepts : x.session.phase.accepts m.wake = true) {final : SessionState}
    (hphase : (x.session.respond m).session.phase = .leaving final)
    (hstate : (x.session.respond m).ledger.state = m.ledger.state) (hfinal : final ≠ .waitTimeout)
    (hstopped : config.autoReconnect = true → final = .stopped) :
    (x.advance writing m).Punctual config := by
  apply punctual_of_steady h hadmits haccepts hphase hstate
  refine ⟨hfinal, ?_, fun hwaits => ⟨h.pause hadmits hwaits, hstopped⟩⟩
  unfold Session.Outcome.due
  rw [hphase]

theorem due_of_isRunnable {phase : Phase} (hphase : (x.session.respond m).session.phase = phase)
    (hrunnable : phase.isRunnable = true) :
    (x.session.respond m).due writing m.now = some m.now := by
  unfold Session.Outcome.due
  rw [hphase]
  cases phase with
  | opening | serving | handling | failing | retrying => rfl
  | greeting _ | pausing _ | leaving _ => rfl
  | _ => cases hrunnable

section
variable (h : x.Punctual config) (hadmits : x.Admits m)
  (haccepts : x.session.phase.accepts m.wake = true) {deadline : Nat}
include h hadmits haccepts

/-- The timeout runs from the moment at which the greeting is written. -/
theorem punctual_waiting (hp : x.session.phase = .writing .greeting)
    (hwake : m.wake = .written (.ok ()))
    (hphase : (x.session.respond m).session.phase =
      .greeting (m.now + x.session.config.networkTimeout))
    (hlast : (x.session.respond m).session.lastError = x.session.lastError)
    (hstate : (x.session.respond m).ledger.state = m.ledger.state) :
    (x.advance writing m).Punctual config := by
  obtain ⟨hnot, hfirst⟩ := hp ▸ h.onTime
  apply punctual_of_steady h hadmits haccepts hphase hstate
  refine ⟨⟨hnot, hlast.trans hfirst⟩, ?_, due_of_isRunnable hphase rfl, Nat.le_add_right _ _⟩
  rw [h.configured, hwake]
  rfl

theorem punctual_asking (hp : x.session.phase = .greeting deadline) (hearly : m.now < deadline)
    (hphase : (x.session.respond m).session.phase = .awaitingAnswer deadline)
    (hlast : (x.session.respond m).session.lastError = x.session.lastError)
    (heffects : (x.session.respond m).effects = [.read (deadline - m.now)])
    (hstate : (x.session.respond m).ledger.state = m.ledger.state) :
    (x.advance writing m).Punctual config := by
  have hwritten := Phase.isWritten_of_accepts haccepts (by simp [hp])
  obtain ⟨⟨hnot, hfirst⟩, hdeadline, _⟩ := hp ▸ h.onTime
  apply punctual_of_steady h hadmits haccepts hphase hstate
  rw [hwritten]
  refine ⟨⟨hnot, hlast.trans hfirst⟩, hdeadline, ?_⟩
  unfold Session.Outcome.due
  rw [hphase, heffects]
  exact congrArg some (Nat.add_sub_cancel' (Nat.le_of_lt hearly))

theorem punctual_hearing (hp : x.session.phase = .awaitingAnswer deadline)
    (hphase : (x.session.respond m).session.phase = .greeting deadline)
    (hlast : (x.session.respond m).session.lastError = x.session.lastError)
    (hstate : (x.session.respond m).ledger.state = m.ledger.state) :
    (x.advance writing m).Punctual config := by
  have hwritten := Phase.isWritten_of_accepts haccepts (by simp [hp])
  obtain ⟨⟨hnot, hfirst⟩, hdeadline, hdue⟩ := hp ▸ h.onTime
  apply punctual_of_steady h hadmits haccepts hphase hstate
  rw [hwritten]
  exact ⟨⟨hnot, hlast.trans hfirst⟩, hdeadline, due_of_isRunnable hphase rfl,
    hadmits.in_time _ hdue⟩

/-- The delay runs from the moment at which the failure was told. -/
theorem punctual_pausing (hp : x.session.phase = .retrying)
    (hphase : (x.session.respond m).session.phase =
      .pausing (m.now + x.session.config.reconnectDelay))
    (hstate : (x.session.respond m).ledger.state = m.ledger.state) :
    (x.advance writing m).Punctual config := by
  obtain ⟨hwaits, hsince, hdue⟩ := hp ▸ h.onTime
  have hlater := hadmits.later
  have hearly := hadmits.in_time _ hdue
  apply punctual_of_steady h hadmits haccepts hphase hstate
  refine ⟨hwaits, ?_, due_of_isRunnable hphase rfl, Nat.le_add_right _ _⟩
  rw [h.configured]
  dsimp only
  omega

theorem punctual_sleeping (hp : x.session.phase = .pausing deadline)
    (hphase : (x.session.respond m).session.phase = .sleeping deadline)
    (hstate : (x.session.respond m).ledger.state = m.ledger.state) :
    (x.advance writing m).Punctual config := by
  obtain ⟨hwaits, hdeadline, _⟩ := hp ▸ h.onTime
  apply punctual_of_steady h hadmits haccepts hphase hstate
  refine ⟨hwaits, hdeadline, ?_⟩
  unfold Session.Outcome.due
  rw [hphase]

/-- A request does not move the deadline. -/
theorem punctual_rejecting (hp : x.session.phase = .sleeping deadline)
    (hphase : (x.session.respond m).session.phase = .pausing deadline)
    (hstate : (x.session.respond m).ledger.state = m.ledger.state) :
    (x.advance writing m).Punctual config := by
  obtain ⟨hwaits, hdeadline, hdue⟩ := hp ▸ h.onTime
  exact punctual_of_steady h hadmits haccepts hphase hstate
    ⟨hwaits, hdeadline, due_of_isRunnable hphase rfl, hadmits.in_time _ hdue⟩

end

/-- The pause begins when the failure is told. -/
theorem punctual_reporting (h : x.Punctual config)
    (haccepts : x.session.phase.accepts m.wake = true) (hp : x.session.phase = .failing)
    (hphase : (x.session.respond m).session.phase = .retrying)
    (hstate : (x.session.respond m).ledger.state = .waitTimeout) :
    (x.advance writing m).Punctual config := by
  have honTime := h.onTime
  rw [hp] at honTime
  apply punctual_of_phase h haccepts hphase
  rw [advance_of_accepts haccepts, hstate, if_neg (Ne.symm honTime)]
  exact ⟨rfl, rfl, due_of_isRunnable hphase rfl⟩

theorem punctual_of_accepts (haccepts : x.session.phase.accepts m.wake = true)
    (h : x.Punctual config) (hadmits : x.Admits m) (hm : m.IsProper) :
    (x.advance writing m).Punctual config := by
  have honTime := h.onTime
  have hleaving := @punctual_leaving config x m writing h hadmits haccepts
  have hsteady := @punctual_of_steady config x m writing h hadmits haccepts
  cases Session.stride_spec hm haccepts with
  | attempts hp hphase hlast hcalm =>
    rw [hp] at honTime
    exact hsteady hphase hcalm.state ⟨honTime, hlast⟩
  | greets hp hphase hlast hcalm =>
    rw [hp] at honTime
    exact hsteady hphase hcalm.state ⟨honTime.1, hlast.trans honTime.2⟩
  | waits hp hwake hphase hlast hcalm =>
    exact punctual_waiting h hadmits haccepts hp hwake hphase hlast hcalm.state
  | asks deadline hp _ hearly hphase hlast heffects hstate =>
    exact punctual_asking h hadmits haccepts hp hearly hphase hlast heffects hstate
  | hears deadline hp hphase hlast hcalm =>
    exact punctual_hearing h hadmits haccepts hp hphase hlast hcalm.state
  | despairs deadline hp _ _ hphase _ hcalm =>
    exact hsteady hphase hcalm.state (honTime.state_ne (.inl (hp ▸ trivial)))
  | fails hp _ _ hphase hcalm => exact hsteady hphase hcalm.state (honTime.state_ne hp)
  | enters deadline hp _ hphase _ _ hstate =>
    apply punctual_of_phase h haccepts hphase
    rw [advance_of_accepts haccepts, hstate]
    exact nofun
  | serves hp _ hp' _ _ _ hcalm =>
    exact hsteady rfl hcalm.state (onTime_of_isConnected hp' (honTime.state_ne (.inr hp)))
  | pinged hp hphase _ hcalm =>
    exact hsteady hphase hcalm.state (honTime.state_ne (.inr (hp ▸ trivial)))
  | pings _ _ hp _ hphase _ _ hstate =>
    exact hsteady hphase hstate (honTime.state_ne (.inr (hp ▸ trivial)))
  | listens hp _ hphase _ _ hstate =>
    exact hsteady hphase hstate (honTime.state_ne (.inr (hp ▸ trivial)))
  | departs hp hphase hcalm =>
    rcases hphase with hphase | hphase
    · exact hsteady hphase hcalm.state (honTime.state_ne (.inr hp))
    · exact hleaving hphase hcalm.state nofun fun _ => rfl
  | departed _ hphase hcalm => exact hleaving hphase hcalm.state nofun fun _ => rfl
  | leaves _ _ _ hphase hcalm => exact hleaving hphase hcalm.state nofun fun _ => rfl
  | resigns _ hretry hphase hcalm =>
    apply hleaving hphase hcalm.state nofun
    rw [← h.configured, hretry]
    exact nofun
  | reports hp hphase _ hstate => exact punctual_reporting h haccepts hp hphase hstate
  | pauses hp _ hphase hcalm =>
    exact punctual_pausing h hadmits haccepts hp hphase hcalm.state
  | sleeps deadline hp _ hphase hcalm =>
    exact punctual_sleeping h hadmits haccepts hp hphase hcalm.state
  | rejects deadline hp hphase hcalm =>
    exact punctual_rejecting h hadmits haccepts hp hphase hcalm.state
  | reopens _ _ hphase _ hstate =>
    apply punctual_of_phase h haccepts hphase
    rw [advance_of_accepts haccepts, hstate]
    exact nofun
  | finishes final hp hphase _ hstate =>
    rw [hp] at honTime
    apply punctual_of_phase h haccepts hphase
    rw [advance_of_accepts haccepts, hstate]
    exact honTime.1

/-- To look at a session changes nothing, if the time for it has not passed. -/
theorem onTime_of_later {phase : Phase} (h : x.OnTime config phase) (hadmits : x.Admits m) :
    { x with now := m.now }.OnTime config phase := by
  have hlater := hadmits.later
  have hnow : x.due = some x.now → x.now = m.now := by
    intro hdue
    have hin := hadmits.in_time _ hdue
    omega
  cases phase with
  | greeting deadline => rwa [← hnow h.2.2.1]
  | retrying => rwa [← hnow h.2.2]
  | pausing deadline => rwa [← hnow h.2.2.1]
  | leaving final => rwa [← hnow h.2.1]
  | writing purpose => cases purpose <;> exact h
  | _ => exact h

theorem punctual_advance (h : x.Punctual config) (hadmits : x.Admits m) (hm : m.IsProper) :
    (x.advance writing m).Punctual config := by
  cases haccepts : x.session.phase.accepts m.wake with
  | true => exact punctual_of_accepts haccepts h hadmits hm
  | false =>
    rw [advance_of_not_accepts haccepts]
    exact ⟨h.configured, onTime_of_later h.onTime hadmits⟩

/-! ### What comes of a pause and of a wait -/

/-- What a moment makes of a pause between two attempts. -/
structure Pauses (config : Config) (x : Timed) (m : Moment) (y : Timed) : Prop where
  in_time : m.now ≤ x.since + config.reconnectDelay
  next : y.state = .waitTimeout
    ∨ y.state = .init ∧ m.now = x.since + config.reconnectDelay
    ∨ y.state = .stopped ∧ x.session.phase = .leaving .stopped
  ending : ∀ final, y.session.phase = .leaving final →
    x.session.phase = .leaving final ∨ m.IsEnding
  rejected : ∀ r, m.wake = .request r → x.session.phase.accepts m.wake = true →
    (x.session.respond m).effects = [.answer r.ticket (.error .notConnected)]
  late : ∀ deadline, x.session.phase = .pausing deadline → m.wake = .run →
    m.stopRequested = false → m.now = x.since + config.reconnectDelay →
      y.state = .init ∧ y.session.phase = .opening
  elapsed : ∀ deadline, x.session.phase = .sleeping deadline → m.wake = .elapsed →
    m.now = x.since + config.reconnectDelay ∧ y.state = .init ∧ y.session.phase = .opening

/-- What a moment makes of the wait for the broker's answer. -/
structure Waits (config : Config) (x : Timed) (m : Moment) (y : Timed) : Prop where
  in_time : m.now ≤ x.written + config.networkTimeout
  reads : ∀ timeout, .read timeout ∈ (x.session.respond m).effects →
    0 < timeout ∧ m.now + timeout ≤ x.written + config.networkTimeout
  next : y.session.phase.AwaitsAnswer ∧ y.written = x.written
    ∨ x.session.items ≠ []
    ∨ (∃ e, m.wake = .read (.error e))
    ∨ (∃ bytes e, m.wake = .read (.ok bytes) ∧ (x.session.decoder.feed bytes).2.2 = .error e)
    ∨ m.IsEnding
    ∨ m.now = x.written + config.networkTimeout ∧ y.session.phase = .failing
      ∧ y.session.lastError = some .connectionTimeout
  late : x.session.phase.accepts m.wake = true → m.wake = .run → x.session.items = [] →
    m.now = x.written + config.networkTimeout →
      y.session.phase = .failing ∧ y.session.lastError = some .connectionTimeout

theorem Punctual.rejected (h : x.Punctual config) (hstate : x.state = .waitTimeout) {r : Request}
    (hwake : m.wake = .request r) (haccepts : x.session.phase.accepts m.wake = true) :
    (x.session.respond m).effects = [.answer r.ticket (.error .notConnected)] := by
  have hpause := h.onTime.isPause hstate
  rw [hwake] at haccepts
  cases hp : x.session.phase with
  | sleeping deadline =>
    rw [Session.respond_of_sleeping hp hwake]
    rfl
  | listening => exact absurd hpause (hp ▸ id)
  | awaitingAnswer => exact absurd hpause (hp ▸ id)
  | _ =>
    rw [hp] at haccepts
    cases haccepts

theorem advance_of_reopen (haccepts : x.session.phase.accepts m.wake = true)
    (h : x.session.respond m = x.session.reopen m.ledger) :
    (x.advance writing m).state = .init ∧ (x.advance writing m).session.phase = .opening := by
  rw [advance_of_accepts haccepts, h]
  exact ⟨rfl, rfl⟩

/-- A session that looks at the clock when the delay has passed begins anew. -/
theorem Punctual.pause_late (h : x.Punctual config) {deadline : Nat}
    (hp : x.session.phase = .pausing deadline) (hwake : m.wake = .run)
    (hstop : m.stopRequested = false) (hlate : m.now = x.since + config.reconnectDelay) :
    (x.advance writing m).state = .init ∧ (x.advance writing m).session.phase = .opening := by
  obtain ⟨_, hdeadline, _⟩ := hp ▸ h.onTime
  apply advance_of_reopen
  · rw [hp, hwake]
    rfl
  · exact Session.respond_of_pausing hp hwake hstop (by omega)

/-- So does one whose timer runs out, and that is when the delay has passed. -/
theorem Punctual.pause_elapsed (h : x.Punctual config) (hadmits : x.Admits m)
    (hstate : x.state = .waitTimeout) {deadline : Nat} (hp : x.session.phase = .sleeping deadline)
    (hwake : m.wake = .elapsed) :
    m.now = x.since + config.reconnectDelay
      ∧ (x.advance writing m).state = .init ∧ (x.advance writing m).session.phase = .opening := by
  obtain ⟨_, hdeadline, _⟩ := hp ▸ h.onTime
  have hnear := h.pause hadmits hstate
  have hlate : deadline ≤ m.now := by
    apply hadmits.timer
    · rw [hwake]
      rfl
    · rw [hp]
      rfl
  refine ⟨by omega, ?_⟩
  apply advance_of_reopen
  · rw [hp, hwake]
    rfl
  · exact Session.respond_of_elapsed hp hwake

/-- What comes of a pause: it goes on, or the session begins anew when the delay has passed, or it
ends because of a stop or because nobody is left. -/
theorem Punctual.pause_next (h : x.Punctual config) (hadmits : x.Admits m) (hm : m.IsProper)
    (hretry : config.autoReconnect = true) (hstate : x.state = .waitTimeout) :
    ((x.advance writing m).state = .waitTimeout
      ∨ (x.advance writing m).state = .init ∧ m.now = x.since + config.reconnectDelay
      ∨ (x.advance writing m).state = .stopped ∧ x.session.phase = .leaving .stopped)
    ∧ ∀ final, (x.advance writing m).session.phase = .leaving final →
      x.session.phase = .leaving final ∨ m.IsEnding := by
  have honTime := h.onTime
  have hpause := honTime.isPause hstate
  cases haccepts : x.session.phase.accepts m.wake with
  | false =>
    rw [advance_of_not_accepts haccepts]
    exact ⟨.inl hstate, fun _ => .inl⟩
  | true =>
    have hsteady : (x.session.respond m).ledger.state = m.ledger.state →
        (x.advance writing m).state = .waitTimeout := by
      intro hsame
      rw [advance_of_steady haccepts hadmits hsame]
      exact hstate
    have hsession : (x.advance writing m).session = (x.session.respond m).session := by
      rw [advance_of_accepts haccepts]
    cases Session.stride_spec hm haccepts with
    | attempts hp | greets hp | waits hp | asks _ hp | despairs _ hp | enters _ hp | hears _ hp
    | pinged hp | pings _ _ hp | listens hp | departed hp | reports hp =>
      exact absurd hpause (hp ▸ id)
    | fails hp => exact absurd hstate (honTime.state_ne hp)
    | serves hp | departs hp => exact absurd hstate (honTime.state_ne (.inr hp))
    | pauses _ _ hphase hcalm | sleeps _ _ _ hphase hcalm | rejects _ _ hphase hcalm =>
      refine ⟨.inl (hsteady hcalm.state), ?_⟩
      rw [hsession, hphase]
      exact nofun
    | leaves _ _ hending _ hcalm => exact ⟨.inl (hsteady hcalm.state), fun _ _ => .inr hending⟩
    | resigns _ hnot =>
      rw [h.configured, hretry] at hnot
      cases hnot
    | reopens deadline hp hphase _ hinit =>
      have hnow : m.now = x.since + config.reconnectDelay := by
        rcases hp with ⟨hp, hlate⟩ | ⟨hp, hwake⟩
        · obtain ⟨_, hdeadline, _⟩ := hp ▸ honTime
          have hnear := h.pause hadmits hstate
          omega
        · exact (@Punctual.pause_elapsed config x m writing h hadmits hstate deadline hp hwake).1
      refine ⟨.inr (.inl ⟨?_, hnow⟩), ?_⟩
      · rw [advance_of_accepts haccepts]
        exact hinit
      · rw [hsession, hphase]
        exact nofun
    | finishes final hp hphase _ hended =>
      obtain ⟨_, _, hleaving⟩ := hp ▸ honTime
      have hstopped := (hleaving hstate).2 hretry
      refine ⟨.inr (.inr ⟨?_, hp.trans (congrArg _ hstopped)⟩), ?_⟩
      · rw [advance_of_accepts haccepts]
        exact hended.trans hstopped
      · rw [hsession, hphase]
        exact nofun

theorem Punctual.pauses (h : x.Punctual config) (hadmits : x.Admits m) (hm : m.IsProper)
    (hretry : config.autoReconnect = true) (hstate : x.state = .waitTimeout) :
    x.Pauses config m (x.advance writing m) where
  in_time := h.pause hadmits hstate
  next := (h.pause_next hadmits hm hretry hstate).1
  ending := (h.pause_next hadmits hm hretry hstate).2
  rejected _ := h.rejected hstate
  late _ := h.pause_late
  elapsed _ := h.pause_elapsed hadmits hstate

theorem Punctual.lastError_of_awaitsAnswer (h : x.Punctual config)
    (hp : x.session.phase.AwaitsAnswer) : x.session.lastError = none := by
  have honTime := h.onTime
  cases hphase : x.session.phase with
  | greeting deadline => exact (hphase ▸ honTime : OnTime config x (.greeting deadline)).1.2
  | awaitingAnswer deadline =>
    exact (hphase ▸ honTime : OnTime config x (.awaitingAnswer deadline)).1.2
  | _ => exact absurd hp (hphase ▸ id)

/-- Reads for the broker's answer end with the wait for it. -/
theorem Punctual.reads (h : x.Punctual config) (hm : m.IsProper)
    (hp : x.session.phase.AwaitsAnswer) {timeout : Nat}
    (hread : .read timeout ∈ (x.session.respond m).effects) :
    0 < timeout ∧ m.now + timeout ≤ x.written + config.networkTimeout := by
  have honTime := h.onTime
  cases haccepts : x.session.phase.accepts m.wake with
  | false =>
    rw [Session.respond_of_not_accepts haccepts] at hread
    cases hread
  | true =>
    rcases (Session.stride_spec hm haccepts).effects_cases with hquiet
      | ⟨deadline, hphase, hearly, heffects⟩ | ⟨_, _, hphase, _⟩ | ⟨hphase, _⟩
    · cases (hquiet _ hread).2
    · obtain ⟨_, hdeadline, _⟩ := hphase ▸ honTime
      rw [heffects, List.mem_singleton] at hread
      injection hread with htimeout
      omega
    · exact absurd hp (hphase ▸ id)
    · exact absurd hp (hphase ▸ id)

theorem Punctual.late (h : x.Punctual config) (hp : x.session.phase.AwaitsAnswer)
    (haccepts : x.session.phase.accepts m.wake = true) (hwake : m.wake = .run)
    (hitems : x.session.items = []) (hlate : m.now = x.written + config.networkTimeout) :
    (x.advance writing m).session.phase = .failing
      ∧ (x.advance writing m).session.lastError = some .connectionTimeout := by
  have honTime := h.onTime
  have hfirst := h.lastError_of_awaitsAnswer hp
  cases hphase : x.session.phase with
  | greeting deadline =>
    obtain ⟨_, hdeadline, _⟩ := hphase ▸ honTime
    have hfail := Session.respond_of_late hphase hwake hitems (by omega)
    rw [advance_of_accepts haccepts, hfail]
    refine ⟨rfl, ?_⟩
    unfold Session.fail
    rw [hfirst]
    rfl
  | awaitingAnswer deadline =>
    rw [hphase, hwake] at haccepts
    cases haccepts
  | _ => exact absurd hp (hphase ▸ id)

theorem Punctual.waits (h : x.Punctual config) (hadmits : x.Admits m) (hm : m.IsProper)
    (hp : x.session.phase.AwaitsAnswer) : x.Waits config m (x.advance writing m) := by
  have honTime := h.onTime
  refine ⟨h.wait hadmits hp, fun _ => h.reads hm hp, ?_, h.late hp⟩
  cases haccepts : x.session.phase.accepts m.wake with
  | false =>
    rw [advance_of_not_accepts haccepts]
    exact .inl ⟨hp, rfl⟩
  | true =>
    have hwritten : (x.advance writing m).written = x.written := by
      rw [advance_of_accepts haccepts, Phase.isWritten_of_accepts haccepts hp.ne_writing]
      rfl
    have hsession : (x.advance writing m).session = (x.session.respond m).session := by
      rw [advance_of_accepts haccepts]
    rw [hsession, hwritten]
    cases Session.stride_spec hm haccepts with
    | attempts hq | greets hq | waits hq | pinged hq | pings _ _ hq | listens hq | departed hq
    | reports hq | pauses hq | resigns hq | sleeps _ hq | rejects _ hq | finishes _ hq =>
      exact absurd hp (hq ▸ id)
    | reopens _ hq => rcases hq with ⟨hq, _⟩ | ⟨hq, _⟩ <;> exact absurd hp (hq ▸ id)
    | serves hq | departs hq => exact absurd hq hp.not_isConnected
    | asks _ _ _ _ hphase => exact .inl ⟨hphase ▸ trivial, rfl⟩
    | hears _ _ hphase => exact .inl ⟨hphase ▸ trivial, rfl⟩
    | enters _ _ hitems => exact .inr (.inl hitems)
    | leaves _ _ hending => exact .inr (.inr (.inr (.inr (.inl hending))))
    | despairs deadline hq _ hlate hphase hlast =>
      obtain ⟨_, hdeadline, _⟩ := hq ▸ honTime
      have hnear := h.wait hadmits hp
      rw [h.lastError_of_awaitsAnswer hp] at hlast
      exact .inr (.inr (.inr (.inr (.inr ⟨by omega, hphase, hlast⟩))))
    | fails _ hgreeting hanswer =>
      cases hq : x.session.phase with
      | greeting deadline => exact .inr (.inl (hgreeting deadline hq))
      | awaitingAnswer deadline =>
        rcases hanswer deadline hq with herror | hbroken
        · exact .inr (.inr (.inl herror))
        · exact .inr (.inr (.inr (.inl hbroken)))
      | _ => exact absurd hp (hq ▸ id)

/-- The wait begins when the greeting is written. -/
theorem awaitsAnswer_of_written (hp : x.session.phase = .writing .greeting)
    (hwake : m.wake = .written (.ok ())) :
    (x.advance writing m).session.phase.AwaitsAnswer ∧ (x.advance writing m).written = m.now := by
  have haccepts : x.session.phase.accepts m.wake = true := by
    rw [hp, hwake]
    rfl
  have hrespond : (x.session.respond m).session.phase =
      .greeting (m.now + x.session.config.networkTimeout) := by
    unfold Session.respond Session.step
    rw [hp, hwake]
    rfl
  rw [advance_of_accepts haccepts]
  dsimp only
  rw [hrespond, hwake]
  exact ⟨trivial, rfl⟩

end Timed
end Mqtt
