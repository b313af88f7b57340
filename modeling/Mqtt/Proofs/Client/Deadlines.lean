import Mqtt.Proofs.Client.Numbering
import Mqtt.Proofs.Session.Punctuality

/-!
Deadlines of a client. Requests come while there is no connection, and other things come while one
is made; none of them moves a deadline, and the requests are turned away.
-/

namespace Mqtt
set_option autoImplicit false

namespace Scene

variable {κ : Type} {react : κ → Event → Reaction κ} {s : Scene κ} {log : List LogEntry}

/-- A session that sleeps turns away the request that it takes. -/
theorem session_of_sleeping {t : Task} {deadline now : Nat} {r : Request} {rest : List Request}
    (htask : s.client.task = some t) (hp : t.session.phase = .sleeping deadline)
    (hqueue : t.queue = r :: rest) :
    (s.session react now .request).1.client.ledger = s.client.ledger.forget r.kind r.packetId
      ∧ ∃ deeds : List Ledger.Deed, (s.session react now .request).2 = .taken r ::
        (deeds.map .noted ++ [.forgot r.ticket, .answered r.ticket (.error .notConnected)]) := by
  have hmoment : s.client.moment? now .request = some ({ t with queue := rest },
      ⟨s.client.ledger, now, t.stopRequested, .request r⟩) := by
    simp [Client.moment?, Client.wake?, htask, hqueue, hp, Phase.accepts]
  have hrespond := @Session.respond_of_sleeping t.session
    ⟨s.client.ledger, now, t.stopRequested, .request r⟩ deadline r hp rfl
  have hunheld : s.session react now .request = andThen (s.proceed react { t with queue := rest }
      ⟨s.client.ledger, now, t.stopRequested, .request r⟩) settle := by
    unfold session
    rw [hmoment]
    rfl
  rw [hunheld]
  have hbefore : s.beforeEffects t.session
      ⟨s.client.ledger, now, t.stopRequested, .request r⟩ = [.taken r] := by
    unfold beforeEffects
    rw [hp]
  unfold andThen proceed Client.carryOut
  dsimp only
  rw [hrespond, hbefore]
  exact ⟨rfl, _, (List.append_nil _).trans (List.append_nil _)⟩

theorem queue_of_taken {t : Task} {deadline now : Nat} {r : Request}
    (htask : s.client.task = some t) (hp : t.session.phase = .sleeping deadline)
    (htaken : .taken r ∈ (s.session react now .request).2) : ∃ rest, t.queue = r :: rest := by
  cases hqueue : t.queue with
  | nil =>
    have hnone : s.client.moment? now .request = none := by
      simp [Client.moment?, Client.wake?, htask, hqueue]
    unfold session at htaken
    rw [hnone] at htaken
    cases htaken
  | cons q rest =>
    obtain ⟨_, deeds, hlog⟩ := @session_of_sleeping κ react s t deadline now q rest htask hp hqueue
    have hsame : r = q := by simpa [hlog] using htaken
    exact ⟨rest, by rw [hsame]⟩

/-- In every run in which reads return within their timeouts and timers run out at their deadlines,
whatever requests and bytes come, a pause between two attempts ends when the delay has passed since
it began or with the session: never before, and a session that looks at the clock at that moment, or
whose timer runs out, begins anew. The wait for the broker's answer ends when the timeout has passed
since the greeting was written, if nothing has ended it before. A request that comes in a pause is
answered at once, and leaves no record while every id that is handed out is spared and no PUBREC
came too early. -/
theorem deadlines_are_kept (react : κ → Event → Reaction κ) {config : Config}
    {defaultPort : UInt16} {listener : Option (Listener κ)} {c : Client κ}
    (h : Client.new config defaultPort listener = .ok c) :
    (∀ (writing : Option Nat) (start : Nat) (moments : List Moment), (∀ m ∈ moments, m.IsProper) →
      (Timed.new config defaultPort start).InTime writing moments →
      ∀ front m back, moments = front ++ m :: back →
        let x := (Timed.new config defaultPort start).play writing front
        let y := x.advance writing m
        (config.autoReconnect = true → x.state = .waitTimeout → x.Pauses config m y)
          ∧ (x.session.phase = .writing .greeting → m.wake = .written (.ok ()) →
              y.session.phase.AwaitsAnswer ∧ y.written = m.now)
          ∧ (x.session.phase.AwaitsAnswer → x.Waits config m y))
      ∧ ∀ (acts : List (Act κ)) (now deadline : Nat) (r : Request),
        let new : Scene κ := { client := c }
        let run := new.play react acts
        let after := run.1.act react (.session now .request)
        run.1.client.task.map (fun t => t.session.phase) = some (.sleeping deadline) →
          .taken r ∈ after.2 →
          .accepted r ∈ run.2 ∧ .answered r.ticket (.error .notConnected) ∈ after.2
            ∧ (new.TakesSparedIds react acts → r.packetId ≠ 0 → ∀ before since,
                run.2 = before ++ .accepted r :: since → .noted (.released r.packetId) ∉ since →
                  after.1.client.ledger.IsFree r.packetId) := by
  constructor
  · rintro writing start _ hproper htime front m back rfl x y
    have hm : m.IsProper := hproper m (by simp)
    obtain ⟨hpunctual, hadmits⟩ := Timed.InTime.at_moment (fun _ _ => Timed.punctual_advance)
      (Timed.punctual_new config defaultPort start) htime hproper
    exact ⟨hpunctual.pauses hadmits hm, Timed.awaitsAnswer_of_written, hpunctual.waits hadmits hm⟩
  · intro acts now deadline r new run after hsleeping htaken
    obtain ⟨t, htask, hp⟩ := Option.map_eq_some_iff.mp hsleeping
    obtain ⟨hnew, hnewDrained⟩ := kept_of_new h
    obtain ⟨hkept, hdrained⟩ := hnew.play hnewDrained react acts
    rw [List.nil_append] at hkept
    obtain ⟨rest, hqueue⟩ := queue_of_taken htask hp htaken
    obtain ⟨hledger, deeds, hlog⟩ :=
      @session_of_sleeping κ react run.1 t deadline now r rest htask hp hqueue
    have hmem : r ∈ run.1.client.queue := by
      unfold Client.queue
      rw [htask]
      simp [hqueue]
    have haccepted : .accepted r ∈ run.2 :=
      hkept.accepted_of_place (mem_places.mpr (.inr (.inl ⟨hmem, rfl⟩)))
    refine ⟨haccepted, ?_, fun hids hid before since hsplit hreleased => ?_⟩
    · change _ ∈ (run.1.session react now .request).2
      rw [hlog]
      simp
    · obtain ⟨howned, _⟩ := (owned_of_new h).play hnew hnewDrained hids
      rw [List.nil_append] at howned
      change (run.1.session react now .request).1.client.ledger.IsFree r.packetId
      rw [hledger]
      exact howned.isFree_forget haccepted (.of_queue hmem) hsplit hid hreleased

/-- Reads that bring nothing, and requests, come in the wait for an answer and in the pause after
it. A message that waits behind a write that fails is turned away in a pause. -/
theorem deadlines_are_kept_of_silent_broker :
    let config := ({ host := "h", networkTimeout := 50, reconnectDelay := 100 } :
      Settings).toConfig "c"
    let request : Request := ⟨[0x30, 4, 0, 1, 97, 98], .publish, 0, 1⟩
    let moment : SessionState × Nat × Wake → Moment := fun w =>
      ⟨{ Ledger.new config with state := w.1 }, w.2.1, false, w.2.2⟩
    let front : List Moment := [(.init, 0, .run), (.init, 0, .connected (.ok ())),
      (.init, 5, .written (.ok ())), (.init, 5, .run), (.init, 25, .read (.ok [])),
      (.init, 25, .run), (.init, 40, .request request), (.init, 40, .run),
      (.init, 55, .read (.ok []))].map moment
    let late := moment (.init, 55, .run)
    let pause : List Moment := [(.init, 55, .run), (.waitTimeout, 55, .run),
      (.waitTimeout, 55, .run), (.waitTimeout, 100, .request request),
      (.waitTimeout, 100, .run)].map moment
    let again := moment (.waitTimeout, 155, .elapsed)
    let moments := front ++ late :: (pause ++ [again])
    let new := Timed.new config 1883 0
    let waiting := new.play none front
    let pausing := new.play none (front ++ late :: pause)
    let r : Request := ⟨[0x32, 6, 0, 1, 97, 0, 1, 98], .publish, 1, 0⟩
    let acts : List (Act Unit) := Act.connecting ++
      [.session 0 (.read (.ok [0xC0, 0])), .session 0 .run, .session 0 .run,
        .call 0 (.publish "a" [98] .atLeastOnce false), .reach 0, .offer 0,
        .session 0 (.written (.error .streamWriteFailure)), .session 0 .run, .session 0 .run,
        .session 0 .run]
    ∃ c, Client.new config 1883 none = .ok c ∧
      let run := ({ client := c } : Scene Unit).play (fun _ _ => {}) acts
      let after := run.1.act (fun _ _ => {}) (.session 0 .request)
      (∀ m ∈ moments, m.IsProper) ∧ new.InTime none moments
        ∧ ((waiting.advance none late).session.phase = .failing
          ∧ (waiting.advance none late).session.lastError = some .connectionTimeout)
        ∧ (pausing.advance none again).state = .init
        ∧ again.now = pausing.since + config.reconnectDelay
        ∧ ({ client := c } : Scene Unit).TakesSparedIds (fun _ _ => {}) acts
        ∧ .answered r.ticket (.error .notConnected) ∈ after.2
        ∧ after.1.client.ledger.IsFree r.packetId := by
  intro config request moment front late pause again moments new waiting pausing r acts
  have hnew : Client.new (κ := Unit) config 1883 none = .ok _ := rfl
  refine ⟨_, hnew, ?_⟩
  intro run after
  have hencode : (Encoder.new 6).encode (.publish ⟨0, "a", .atMostOnce, false, false, [98]⟩) =
      .ok [0x30, 4, 0, 1, 97, 98] := by decide +kernel
  have hissued : request.IsIssued := ⟨_, _, hencode, rfl, .publish "a" [98] .atMostOnce false, rfl⟩
  have hproper : ∀ m ∈ moments, m.IsProper := by
    intro m hm q hq
    have hwakes : m.wake ∈ moments.map Moment.wake := List.mem_map_of_mem hm
    rw [hq] at hwakes
    have hsame : q = request := by
      simpa [moments, front, late, pause, again, moment] using hwakes
    rw [hsame]
    exact hissued
  have htime : new.InTime none moments ∧ waiting.session.phase = .greeting 55
      ∧ waiting.session.items = [] ∧ late.now = waiting.written + config.networkTimeout
      ∧ pausing.state = .waitTimeout ∧ pausing.session.phase = .sleeping 155 := by
    subst waiting pausing new moments again pause late front moment request config
    decide +kernel
  have hrun : run.2.countP LogEntry.isNumbered = 1 ∧ run.2.drop 5 = .accepted r ::
        [.noted (.issued .publish .atLeastOnce 1), .queued r,
          .told (.disconnected .streamWriteFailure)]
      ∧ run.1.client.task.map (fun t => t.session.phase) = some (.sleeping 100)
      ∧ .taken r ∈ after.2 := by
    subst after run acts config r
    decide +kernel
  obtain ⟨hinTime, hwaiting, hitems, hlate, hpausing, hasleep⟩ := htime
  obtain ⟨hcount, hlog, hsleeping, htaken⟩ := hrun
  obtain ⟨hkept, hturned⟩ := deadlines_are_kept (fun _ _ => {}) hnew
  obtain ⟨_, _, hwaits⟩ := hkept none 0 moments hproper hinTime front late _ rfl
  obtain ⟨hpauses, _⟩ := hkept none 0 moments hproper hinTime (front ++ late :: pause) again []
    (List.append_assoc front (late :: pause) [again]).symm
  have hids := takesSparedIds_of_few (fun _ _ => {}) hnew (hcount.trans_le (by decide))
  have hsplit : run.2 = run.2.take 5 ++ .accepted r :: [.noted (.issued .publish .atLeastOnce 1),
      .queued r, .told (.disconnected .streamWriteFailure)] := by
    rw [← hlog, List.take_append_drop]
  subst after run
  obtain ⟨_, hanswered, hfree⟩ := hturned acts 0 100 r hsleeping htaken
  obtain ⟨hnow, hagain, _⟩ := (hpauses rfl hpausing).elapsed 155 hasleep rfl
  refine ⟨hproper, hinTime, ?_, hagain, hnow, hids, hanswered, ?_⟩
  · refine (hwaits (hwaiting ▸ trivial)).late ?_ rfl hitems hlate
    rw [hwaiting]
    rfl
  · exact hfree hids (by decide) _ _ hsplit (by simp)

/-- A PUBREC that comes while the PUBLISH waits for its turn makes a PUBREL of the record, and the
connection fails before the PUBLISH is written: the request is turned away, and its record stays. -/
theorem record_outlives_rejection :
    let config := ({ host := "broker", cleanSession := false } : Settings).toConfig "c"
    let r : Request := ⟨[0x34, 6, 0, 1, 116, 0, 1, 0xAA], .publish, 1, 0⟩
    let acts : List (Act Unit) := Act.connecting ++
      [.session 0 (.read (.ok [0xC0, 0, 0x50, 2, 0, 1])), .session 0 .run, .session 0 .run,
        .call 0 (.publish "t" [0xAA] .exactlyOnce false), .reach 0, .offer 0,
        .session 0 (.written (.ok ())), .session 0 .run,
        .session 0 (.written (.error .streamWriteFailure)), .session 0 .run, .session 0 .run,
        .session 0 .run]
    ∃ c, Client.new config 1883 none = .ok c ∧
      let run := ({ client := c } : Scene Unit).play (fun _ _ => {}) acts
      let after := run.1.act (fun _ _ => {}) (.session 0 .request)
      ({ client := c } : Scene Unit).TakesSparedIds (fun _ _ => {}) acts
        ∧ .accepted r ∈ run.2
        ∧ run.1.client.state = .waitTimeout
        ∧ .taken r ∈ after.2 ∧ .answered r.ticket (.error .notConnected) ∈ after.2
        ∧ after.1.client.ledger.tracked.map (fun t => (t.kind, t.packetId)) = [(.pubrel, 1)] := by
  intro config r acts
  have hnew : Client.new (κ := Unit) config 1883 none = .ok _ := rfl
  refine ⟨_, hnew, ?_⟩
  intro run after
  have hrun : run.2.countP LogEntry.isNumbered = 1 ∧ .accepted r ∈ run.2
      ∧ run.1.client.state = .waitTimeout
      ∧ .taken r ∈ after.2 ∧ .answered r.ticket (.error .notConnected) ∈ after.2
      ∧ after.1.client.ledger.tracked.map (fun t => (t.kind, t.packetId)) = [(.pubrel, 1)] := by
    subst after run acts config r
    decide +kernel
  exact ⟨takesSparedIds_of_few _ hnew (hrun.1.trans_le (by decide)), hrun.2⟩

end Scene
end Mqtt
