import Mqtt.Client
import Mqtt.Proofs.Encoder
import Mqtt.Proofs.Ledger.Moves
import Mqtt.Proofs.Session.Chronicle

/-!
The sessions of a client. Whatever callers do, a client's session does what a session does by
itself, and the requests that it takes from its queue are the packets of operations.
-/

namespace Mqtt
set_option autoImplicit false

/-- Whether a request holds the packet of an operation. -/
def Request.IsIssued (r : Request) : Prop :=
  ∃ (encoder : Encoder) (p : Packet), encoder.encode p = .ok r.packet ∧ p.type = r.kind
    ∧ ∃ o : Operation, r.kind = o.kind

/-- Whether a session that is woken by a request finds the packet of an operation in it. -/
def Moment.IsProper (m : Moment) : Prop := ∀ r, m.wake = .request r → r.IsIssued

/-- What a session comes to by itself, or was when a callback failed. -/
def Session.IsPlayed (config : Config) (defaultPort : UInt16) (s : Session) : Prop :=
  ∃ moments : List Moment, (∀ m ∈ moments, m.IsProper)
    ∧ (s = ((Session.new config defaultPort).play moments).1
      ∨ s = { ((Session.new config defaultPort).play moments).1 with phase := .crashed })

theorem Session.IsPlayed.turn {config : Config} {defaultPort : UInt16} {s : Session} {m : Moment}
    (h : s.IsPlayed config defaultPort) (hm : m.IsProper)
    (haccepts : s.phase.accepts m.wake = true) :
    (s.turn m).1.IsPlayed config defaultPort := by
  obtain ⟨moments, hproper, hs | hs⟩ := h
  · refine ⟨moments ++ [m], List.forall_mem_append.mpr ⟨hproper, List.forall_mem_singleton.mpr hm⟩,
      .inl ?_⟩
    rw [play_append, ← hs]
    rfl
  · rw [hs] at haccepts
    cases hwake : m.wake <;> rw [hwake] at haccepts <;> cases haccepts

theorem Session.IsPlayed.crash {config : Config} {defaultPort : UInt16} {s : Session}
    (h : s.IsPlayed config defaultPort) :
    { s with phase := .crashed }.IsPlayed config defaultPort := by
  obtain ⟨moments, hproper, hs | hs⟩ := h
  · exact ⟨moments, hproper, .inr (by rw [hs])⟩
  · exact ⟨moments, hproper, .inr (by rw [hs])⟩

namespace Client

variable {κ : Type} {react : κ → Event → Reaction κ} {c c' : Client κ}

/-- What holds of the session of a client, and of the requests in its queue. -/
def Sound (c : Client κ) : Prop :=
  ∀ t ∈ c.task, (∀ r ∈ t.queue, r.IsIssued) ∧ t.session.IsPlayed c.config c.defaultPort

/-- The clients that can come about. Everything that callers and the session can do is a step. -/
inductive Reachable (react : κ → Event → Reaction κ) : Client κ → Prop where
  | new {config : Config} {defaultPort : UInt16} {listener : Option (Listener κ)} {c : Client κ}
    (h : Client.new config defaultPort listener = .ok c) : Reachable react c
  | start {c : Client κ} (h : Reachable react c) : Reachable react c.start.1
  | stop {c : Client κ} (h : Reachable react c) (ticket : Nat) : Reachable react (c.stop ticket).1
  | release {c : Client κ} (h : Reachable react c) : Reachable react c.release
  | publish {c : Client κ} (h : Reachable react c) (now ticket : Nat) (topic : String)
    (payload : Bytes) (qos : QoS) (retain : Bool) :
    Reachable react (c.publish now ticket topic payload qos retain).1
  | subscribe {c : Client κ} (h : Reachable react c) (now ticket : Nat) (filter : String)
    (qos : QoS) : Reachable react (c.subscribe now ticket filter qos).1
  | unsubscribe {c : Client κ} (h : Reachable react c) (now ticket : Nat) (filter : String) :
    Reachable react (c.unsubscribe now ticket filter).1
  | cancel {c : Client κ} (h : Reachable react c) (ticket : Nat) : Reachable react (c.cancel ticket)
  | conclude {c : Client κ} (h : Reachable react c) (x : Call) : Reachable react (c.conclude x).1
  | listen {c : Client κ} (h : Reachable react c) (listeners : Registry κ) (mailboxes : Mailboxes)
    (nextListener : Nat) : Reachable react { c with listeners, mailboxes, nextListener }
  | step {c c' : Client κ} (h : Reachable react c) (now : Nat) (signal : Signal)
    {actions : List (Action κ)} (hstep : c.step? react now signal = some (c', actions)) :
    Reachable react c'

/-- A task that is there afterwards was there before, with the same session and no new request. -/
theorem Sound.of_task (h : c.Sound) (hconfig : c'.config = c.config)
    (hport : c'.defaultPort = c.defaultPort) (htask : ∀ t' ∈ c'.task, ∃ t ∈ c.task,
      t'.session = t.session ∧ ∀ r ∈ t'.queue, r ∈ t.queue) : c'.Sound := by
  intro t' ht'
  obtain ⟨t, ht, hsession, hqueue⟩ := htask t' ht'
  obtain ⟨hissued, hplayed⟩ := h t ht
  refine ⟨fun r hr => hissued r (hqueue r hr), ?_⟩
  rw [hconfig, hport, hsession]
  exact hplayed

theorem Sound.of_same_task (h : c.Sound) (hconfig : c'.config = c.config)
    (hport : c'.defaultPort = c.defaultPort) (htask : c'.task = c.task) : c'.Sound := by
  apply h.of_task hconfig hport
  intro t ht
  rw [htask] at ht
  exact ⟨t, ht, rfl, fun r hr => hr⟩

theorem Sound.of_no_task (htask : c.task = none) : c.Sound := by
  intro t ht
  rw [htask] at ht
  cases ht

theorem sound_new {config : Config} {defaultPort : UInt16} {listener : Option (Listener κ)}
    (h : Client.new config defaultPort listener = .ok c) : c.Sound := by
  apply Sound.of_no_task
  rw [(Client.new_eq_ok_iff.mp h).2]

theorem Sound.start (h : c.Sound) : c.start.1.Sound := by
  unfold Client.start
  split
  · exact h
  · split
    · exact h
    · intro t ht
      cases ht
      have hplayed : (Session.new c.config c.defaultPort).IsPlayed c.config c.defaultPort :=
        ⟨[], List.forall_mem_nil _, .inl rfl⟩
      exact ⟨List.forall_mem_nil _, hplayed⟩

theorem Sound.release (h : c.Sound) : c.release.Sound := by
  unfold Client.release
  split
  · refine h.of_task ?_ ?_ ?_
    · rfl
    · rfl
    intro t' ht'
    obtain ⟨t, ht, hsignal⟩ := Option.map_eq_some_iff.mp ht'
    rw [← hsignal]
    exact ⟨t, ht, rfl, fun r hr => hr⟩
  · exact h

theorem sound_stopped : c.stopped.1.Sound := by
  apply Sound.of_no_task
  unfold stopped
  dsimp only
  split
  · split <;> rfl
  · rfl

theorem Sound.stop (h : c.Sound) (ticket : Nat) : (c.stop ticket).1.Sound := by
  unfold Client.stop
  split
  · exact h
  · dsimp only
    split
    · exact sound_stopped
    · exact h.release.of_same_task rfl rfl rfl

theorem Sound.enqueue (h : c.Sound) {r : Request} (hr : r.IsIssued) : (c.enqueue r).1.Sound := by
  unfold Client.enqueue
  split
  · exact h
  · split
    · exact h
    · rename_i t ht
      split
      · exact h
      · intro t' ht'
        cases ht'
        obtain ⟨hissued, hplayed⟩ := h t ht
        refine ⟨?_, hplayed⟩
        intro x hx
        rcases List.mem_append.mp hx with hx | hx
        · exact hissued x hx
        · rw [List.mem_singleton.mp hx]
          exact hr

theorem Sound.issue (h : c.Sound) {ticket : Nat} {kind : PacketType}
    {begin : Ledger → Ledger × Except Error Outgoing}
    (hbegin : ∀ out, (begin c.ledger).2 = .ok out →
      (⟨out.bytes, kind, out.packetId, ticket⟩ : Request).IsIssued) :
    (c.issue ticket kind begin).1.Sound := by
  unfold Client.issue
  cases hl : begin c.ledger with
  | mk ledger result =>
    have hledger : { c with ledger }.Sound := h.of_same_task rfl rfl rfl
    cases result with
    | error e => exact hledger
    | ok out =>
      have hissued := hbegin out (congrArg Prod.snd hl)
      have henqueued := hledger.enqueue hissued
      unfold Client.submit
      dsimp only
      generalize { c with ledger }.enqueue ⟨out.bytes, kind, out.packetId, ticket⟩ = r at henqueued
      obtain ⟨c', result⟩ := r
      cases result with
      | error e => exact henqueued.of_same_task rfl rfl rfl
      | ok u => exact henqueued.of_same_task rfl rfl rfl

theorem isIssued_of_begin {l : Ledger} {now ticket : Nat} {o : Operation} {out : Outgoing}
    (h : (l.begin now o).2 = .ok out) :
    (⟨out.bytes, o.kind, out.packetId, ticket⟩ : Request).IsIssued := by
  exact ⟨l.encoder, _, (Ledger.encode_of_begin h).2, o.type_packet _, o, rfl⟩

theorem Sound.publish (h : c.Sound) (now ticket : Nat) (topic : String) (payload : Bytes)
    (qos : QoS) (retain : Bool) : (c.publish now ticket topic payload qos retain).1.Sound := by
  unfold Client.publish
  cases Topic.check topic with
  | error e => exact h
  | ok u =>
    exact h.issue fun out hout => isIssued_of_begin (o := .publish topic payload qos retain) hout

theorem Sound.subscribe (h : c.Sound) (now ticket : Nat) (filter : String) (qos : QoS) :
    (c.subscribe now ticket filter qos).1.Sound := by
  unfold Client.subscribe
  cases Topic.checkFilter filter with
  | error e => exact h
  | ok u => exact h.issue fun out hout => isIssued_of_begin (o := .subscribe filter qos) hout

theorem Sound.unsubscribe (h : c.Sound) (now ticket : Nat) (filter : String) :
    (c.unsubscribe now ticket filter).1.Sound := by
  unfold Client.unsubscribe
  cases Topic.checkFilter filter with
  | error e => exact h
  | ok u => exact h.issue fun out hout => isIssued_of_begin (o := .unsubscribe filter) hout

theorem Sound.conclude (h : c.Sound) (x : Call) : (c.conclude x).1.Sound := by
  have hcancel : (c.cancel x.ticket).Sound := h.of_same_task rfl rfl rfl
  obtain ⟨ticket, goal⟩ := x
  cases goal with
  | stop => exact sound_stopped
  | operation kind packetId answer =>
    cases answer with
    | none => exact hcancel.of_same_task rfl rfl rfl
    | some result =>
      cases result with
      | ok u => exact hcancel
      | error e => exact hcancel.of_same_task rfl rfl rfl

/-- What is carried out leaves the session as it is, or loses it to a callback. -/
theorem perform_cases (react : κ → Event → Reaction κ) (c : Client κ) (effects : List Effect) :
    (c.perform react effects).1.config = c.config
      ∧ (c.perform react effects).1.defaultPort = c.defaultPort
      ∧ ((c.perform react effects).1.task = c.task ∨ (c.perform react effects).1.task = c.task.map
        fun t => { t with session := { t.session with phase := .crashed } }) := by
  induction effects generalizing c with
  | nil => exact ⟨rfl, rfl, .inl rfl⟩
  | cons x rest ih =>
    cases x with
    | tell e =>
      unfold perform
      dsimp only
      split
      · exact ⟨rfl, rfl, .inr rfl⟩
      · exact ih _
    | answer ticket result => exact ih (c.answer ticket result)
    | connect host port timeout => exact ih c
    | write bytes timeout => exact ih c
    | read timeout => exact ih c
    | close => exact ih c

/-- What wakes a session leaves it as it is, and takes no request but the next one from its queue. -/
theorem wake?_cases {t t' : Task} {signal : Signal} {w : Wake}
    (h : c.wake? t signal = some (w, t')) :
    t'.session = t.session ∧ ((∃ r, w = .request r ∧ t.queue = r :: t'.queue)
      ∨ (∀ r, w ≠ .request r) ∧ t'.queue = t.queue) := by
  unfold wake? at h
  cases signal with
  | stop =>
    dsimp only at h
    split at h
    · cases h
      exact ⟨rfl, .inr ⟨nofun, rfl⟩⟩
    · cases h
  | request =>
    dsimp only at h
    split at h
    · rename_i r rest hqueue
      cases h
      exact ⟨rfl, .inl ⟨r, rfl, hqueue⟩⟩
    · cases h
  | abandoned =>
    dsimp only at h
    split at h
    · cases h
      exact ⟨rfl, .inr ⟨nofun, rfl⟩⟩
    · cases h
  | _ =>
    cases h
    exact ⟨rfl, .inr ⟨nofun, rfl⟩⟩

/-- A session that is woken finds no request that was not in its queue. -/
theorem queue_of_wake? {t t' : Task} {signal : Signal} {w : Wake}
    (h : c.wake? t signal = some (w, t')) :
    (∀ r ∈ t'.queue, r ∈ t.queue) ∧ ∀ r, w = .request r → r ∈ t.queue := by
  obtain ⟨_, ⟨r, hw, hqueue⟩ | ⟨hw, hqueue⟩⟩ := wake?_cases h
  · rw [hqueue, hw]
    refine ⟨fun x hx => List.mem_cons_of_mem r hx, ?_⟩
    intro x hx
    cases hx
    exact List.mem_cons_self
  · rw [hqueue]
    exact ⟨fun r hr => hr, fun r hr => absurd hr (hw r)⟩

theorem Sound.perform (h : c.Sound) (react : κ → Event → Reaction κ) (effects : List Effect) :
    (c.perform react effects).1.Sound := by
  obtain ⟨hconfig, hport, htask | htask⟩ := perform_cases react c effects
  · exact h.of_same_task hconfig hport htask
  · intro t' ht'
    rw [htask] at ht'
    obtain ⟨t, ht, hcrash⟩ := Option.map_eq_some_iff.mp ht'
    obtain ⟨hissued, hplayed⟩ := h t ht
    rw [← hcrash, hconfig, hport]
    exact ⟨hissued, hplayed.crash⟩

theorem Sound.closeQueue (h : c.Sound) : c.closeQueue.Sound := by
  refine h.of_task ?_ ?_ ?_
  · rfl
  · rfl
  intro t' ht'
  obtain ⟨t, ht, hclosed⟩ := Option.map_eq_some_iff.mp ht'
  rw [← hclosed]
  exact ⟨t, ht, rfl, nofun⟩

theorem Sound.step (h : c.Sound) {now : Nat} {signal : Signal} {actions : List (Action κ)}
    (hstep : c.step? react now signal = some (c', actions)) : c'.Sound := by
  unfold step? at hstep
  cases ht : c.task with
  | none =>
    rw [ht] at hstep
    cases hstep
  | some t =>
    obtain ⟨hissued, hplayed⟩ := h t ht
    rw [ht] at hstep
    simp only [Option.bind_eq_bind, Option.bind_some] at hstep
    cases hwake : c.wake? t signal with
    | none =>
      rw [hwake] at hstep
      cases hstep
    | some r =>
      obtain ⟨w, t'⟩ := r
      have hsession := (wake?_cases hwake).1
      obtain ⟨hqueue, hrequest⟩ := queue_of_wake? hwake
      rw [hwake] at hstep
      simp only [Option.bind_some] at hstep
      split at hstep
      · rename_i haccepts
        have hproper : (⟨c.ledger, now, t'.stopRequested, w⟩ : Moment).IsProper :=
          fun r hr => hissued r (hrequest r hr)
        rw [hsession] at haccepts
        have hturn := hplayed.turn hproper haccepts
        cases hstep
        have hbefore : { c with
            ledger := (t'.session.step c.ledger now t'.stopRequested w).ledger
            task := some { t' with
              session := (t'.session.step c.ledger now t'.stopRequested w).session } }.Sound := by
          intro x hx
          cases hx
          rw [hsession]
          exact ⟨fun r hr => hissued r (hqueue r hr), hturn⟩
        have hafter := hbefore.perform react
          (t'.session.step c.ledger now t'.stopRequested w).effects
        split
        · exact hafter.closeQueue
        · exact hafter
      · cases hstep

theorem sound_of_reachable (h : Reachable react c) : c.Sound := by
  induction h with
  | new hnew => exact sound_new hnew
  | start _ ih => exact ih.start
  | stop _ ticket ih => exact ih.stop ticket
  | release _ ih => exact ih.release
  | publish _ now ticket topic payload qos retain ih =>
    exact ih.publish now ticket topic payload qos retain
  | subscribe _ now ticket filter qos ih => exact ih.subscribe now ticket filter qos
  | unsubscribe _ now ticket filter ih => exact ih.unsubscribe now ticket filter
  | cancel _ ticket ih => exact ih.of_same_task rfl rfl rfl
  | conclude _ x ih => exact ih.conclude x
  | listen _ listeners mailboxes nextListener ih => exact ih.of_same_task rfl rfl rfl
  | step _ now signal hstep ih => exact ih.step hstep

/-- The session of every client that can come about is one that is played from its beginning, woken
by requests that hold the packets of operations. -/
theorem played_of_reachable (h : Reachable react c) {t : Task} (ht : c.task = some t) :
    t.session.IsPlayed c.config c.defaultPort :=
  (sound_of_reachable h t ht).2

end Client
end Mqtt
