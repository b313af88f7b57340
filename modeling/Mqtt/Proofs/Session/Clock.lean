import Mqtt.Proofs.Session.Endings
import Mqtt.Proofs.Session.Replies

/-!
Sessions in time. The steps of a session take no time of their own; a read returns within its
timeout, and a timer runs out at its deadline. Everything else comes when it likes.
-/

namespace Mqtt
set_option autoImplicit false

namespace Ledger

variable {l : Ledger}

theorem state_moveAll {moves : List Move} (h : ∀ state, .setState state ∉ moves) :
    (l.moveAll moves).state = l.state := by
  induction moves generalizing l with
  | nil => rfl
  | cons m moves ih =>
    have hrest : ∀ state, .setState state ∉ moves :=
      fun state hmem => h state (List.mem_cons_of_mem m hmem)
    refine (ih hrest).trans ?_
    rcases @state_move l m with ⟨state, hm, _⟩ | hmoved
    · rw [hm] at h
      exact absurd List.mem_cons_self (h state)
    · exact hmoved

end Ledger

def Effect.timeout? : Effect → Option Nat
  | .read timeout => some timeout
  | _ => none

/-- Whether a PINGREQ is written. -/
def Effect.isPing : Effect → Bool
  | .write bytes _ => PacketType.ofBytes? bytes = some .pingreq
  | _ => false

/-- Neither a PINGREQ nor a read. -/
def Effect.IsQuiet (x : Effect) : Prop := x.isPing = false ∧ x.timeout? = none

def Wake.isWritten : Wake → Bool
  | .written _ => true
  | _ => false

def Wake.isElapsed : Wake → Bool
  | .elapsed => true
  | _ => false

/-- When the timer runs out that the session waits for. -/
def Phase.alarm? : Phase → Option Nat
  | .sleeping deadline => some deadline
  | _ => none

/-- A stop is asked for, or nobody is left who could make a request. -/
def Moment.IsEnding (m : Moment) : Prop :=
  m.wake = .stop ∨ m.wake = .abandoned ∨ m.stopRequested = true

theorem Phase.isWritten_of_accepts {phase : Phase} {w : Wake} (h : phase.accepts w = true)
    (hp : ∀ purpose, phase ≠ .writing purpose) : w.isWritten = false := by
  cases w with
  | written =>
    cases phase with
    | writing purpose => exact absurd rfl (hp purpose)
    | _ => cases h
  | _ => rfl

namespace Session

/-! ### What a step can do -/

structure Outcome.IsCalm (o : Outcome) (l : Ledger) : Prop where
  quiet : ∀ x ∈ o.effects, x.IsQuiet
  state : o.ledger.state = l.state

/-- The steps of a session, with what matters in time. -/
inductive Stride (s : Session) (m : Moment) (o : Outcome) : Prop where
  | attempts (hp : s.phase = .opening) (hphase : o.session.phase = .connecting)
    (hlast : o.session.lastError = none) (hcalm : o.IsCalm m.ledger)
  | greets (hp : s.phase = .connecting) (hphase : o.session.phase = .writing .greeting)
    (hlast : o.session.lastError = s.lastError) (hcalm : o.IsCalm m.ledger)
  | waits (hp : s.phase = .writing .greeting) (hwake : m.wake = .written (.ok ()))
    (hphase : o.session.phase = .greeting (m.now + s.config.networkTimeout))
    (hlast : o.session.lastError = s.lastError) (hcalm : o.IsCalm m.ledger)
  | asks (deadline : Nat) (hp : s.phase = .greeting deadline) (hitems : s.items = [])
    (hearly : m.now < deadline) (hphase : o.session.phase = .awaitingAnswer deadline)
    (hlast : o.session.lastError = s.lastError) (heffects : o.effects = [.read (deadline - m.now)])
    (hstate : o.ledger.state = m.ledger.state)
  | despairs (deadline : Nat) (hp : s.phase = .greeting deadline) (hitems : s.items = [])
    (hlate : deadline ≤ m.now) (hphase : o.session.phase = .failing)
    (hlast : o.session.lastError = some (s.lastError.getD .connectionTimeout))
    (hcalm : o.IsCalm m.ledger)
  | enters (deadline : Nat) (hp : s.phase = .greeting deadline) (hitems : s.items ≠ [])
    (hphase : o.session.phase = .serving) (hping : o.session.lastPing = m.now)
    (hquiet : ∀ x ∈ o.effects, x.IsQuiet)
    (hstate : o.ledger.state = .connected)
  | hears (deadline : Nat) (hp : s.phase = .awaitingAnswer deadline)
    (hphase : o.session.phase = .greeting deadline)
    (hlast : o.session.lastError = s.lastError) (hcalm : o.IsCalm m.ledger)
  | fails (hp : s.phase.IsAttempt ∨ s.phase.IsConnected)
    (hgreeting : ∀ deadline, s.phase = .greeting deadline → s.items ≠ [])
    (hanswer : ∀ deadline, s.phase = .awaitingAnswer deadline →
      (∃ e, m.wake = .read (.error e))
        ∨ ∃ bytes e, m.wake = .read (.ok bytes) ∧ (s.decoder.feed bytes).2.2 = .error e)
    (hphase : o.session.phase = .failing) (hcalm : o.IsCalm m.ledger)
  | serves (hp : s.phase.IsConnected) (hping : s.phase ≠ .writing .ping)
    (hp' : o.session.phase.IsConnected) (hping' : o.session.phase ≠ .writing .ping)
    (hidle : o.session.phase ≠ .listening) (hlast : o.session.lastPing = s.lastPing)
    (hcalm : o.IsCalm m.ledger)
  | pinged (hp : s.phase = .writing .ping) (hphase : o.session.phase = .serving)
    (hlast : o.session.lastPing = m.now) (hcalm : o.IsCalm m.ledger)
  | pings (bytes : Bytes) (timeout : Nat) (hp : s.phase = .handling)
    (hdue : s.pingInterval < m.now - s.lastPing) (hphase : o.session.phase = .writing .ping)
    (heffects : o.effects = [.write bytes timeout])
    (hkind : PacketType.ofBytes? bytes = some .pingreq) (hstate : o.ledger.state = m.ledger.state)
  | listens (hp : s.phase = .handling) (hearly : m.now - s.lastPing ≤ s.pingInterval)
    (hphase : o.session.phase = .listening) (hlast : o.session.lastPing = s.lastPing)
    (heffects : o.effects =
      [.read (min (max (s.pingInterval - (m.now - s.lastPing)) 1) longestRead)])
    (hstate : o.ledger.state = m.ledger.state)
  | departs (hp : s.phase.IsConnected)
    (hphase : o.session.phase = .writing .farewell ∨ o.session.phase = .leaving .stopped)
    (hcalm : o.IsCalm m.ledger)
  | departed (hp : s.phase = .writing .farewell) (hphase : o.session.phase = .leaving .stopped)
    (hcalm : o.IsCalm m.ledger)
  | reports (hp : s.phase = .failing) (hphase : o.session.phase = .retrying)
    (hquiet : ∀ x ∈ o.effects, x.IsQuiet)
    (hstate : o.ledger.state = .waitTimeout)
  | pauses (hp : s.phase = .retrying) (hretry : s.config.autoReconnect = true)
    (hphase : o.session.phase = .pausing (m.now + s.config.reconnectDelay))
    (hcalm : o.IsCalm m.ledger)
  | resigns (hp : s.phase = .retrying) (hretry : s.config.autoReconnect = false)
    (hphase : o.session.phase = .leaving .error) (hcalm : o.IsCalm m.ledger)
  | sleeps (deadline : Nat) (hp : s.phase = .pausing deadline) (hearly : m.now < deadline)
    (hphase : o.session.phase = .sleeping deadline) (hcalm : o.IsCalm m.ledger)
  | rejects (deadline : Nat) (hp : s.phase = .sleeping deadline)
    (hphase : o.session.phase = .pausing deadline) (hcalm : o.IsCalm m.ledger)
  | reopens (deadline : Nat)
    (hp : s.phase = .pausing deadline ∧ deadline ≤ m.now
      ∨ s.phase = .sleeping deadline ∧ m.wake = .elapsed)
    (hphase : o.session.phase = .opening)
    (hquiet : ∀ x ∈ o.effects, x.IsQuiet)
    (hstate : o.ledger.state = .init)
  | leaves (hp : ¬ s.phase.IsConnected) (hfailing : s.phase ≠ .failing)
    (hending : m.IsEnding)
    (hphase : o.session.phase = .leaving .stopped) (hcalm : o.IsCalm m.ledger)
  | finishes (final : SessionState) (hp : s.phase = .leaving final)
    (hphase : o.session.phase = .finished)
    (hquiet : ∀ x ∈ o.effects, x.IsQuiet)
    (hstate : o.ledger.state = final)

section
variable {s : Session} {l : Ledger} {now : Nat} {stopRequested : Bool}

theorem isCalm_goto {phase : Phase} {effects : List Effect} {l' : Ledger}
    (hquiet : ∀ x ∈ effects, x.IsQuiet) (hstate : l'.state = l.state) :
    (s.goto l' phase effects).IsCalm l :=
  ⟨hquiet, hstate⟩

theorem isCalm_of_no_effects (phase : Phase) : (s.goto l phase []).IsCalm l :=
  isCalm_goto (List.forall_mem_nil _) rfl

theorem isCalm_fail {e : Error} {l' : Ledger} (hstate : l'.state = l.state) :
    (s.fail l' e).IsCalm l :=
  ⟨List.forall_mem_singleton.mpr ⟨rfl, rfl⟩, hstate⟩

theorem isCalm_write {purpose : Purpose} {bytes : Bytes} {l' : Ledger}
    (hkind : PacketType.ofBytes? bytes ≠ some .pingreq) (hstate : l'.state = l.state) :
    (s.write l' purpose bytes).IsCalm l :=
  ⟨List.forall_mem_singleton.mpr ⟨decide_eq_false hkind, rfl⟩, hstate⟩

/-- A failure that is not for want of an answer in time. -/
theorem stride_of_fail {m : Moment} {s' : Session} {l' : Ledger} {e : Error} {effects : List Effect}
    (hp : s.phase.IsAttempt ∨ s.phase.IsConnected) (hgreeting : ∀ d, s.phase ≠ .greeting d)
    (hanswer : ∀ d, s.phase ≠ .awaitingAnswer d) (hquiet : ∀ x ∈ effects, x.IsQuiet)
    (hstate : l'.state = m.ledger.state) :
    Stride s m { s'.fail l' e with effects := effects } :=
  .fails hp (fun d hd => absurd hd (hgreeting d)) (fun d hd => absurd hd (hanswer d)) rfl
    ⟨hquiet, hstate⟩

theorem stride_connecting {wake : Wake} (hp : s.phase = .connecting)
    (h : s.phase.accepts wake = true) :
    Stride s ⟨l, now, stopRequested, wake⟩ (s.respond ⟨l, now, stopRequested, wake⟩) := by
  have hfails : ∀ e, Stride s ⟨l, now, stopRequested, wake⟩ (s.fail l e) := fun e =>
    stride_of_fail (.inl (hp ▸ trivial)) (by simp [hp]) (by simp [hp])
      (List.forall_mem_singleton.mpr ⟨rfl, rfl⟩) rfl
  unfold respond step
  rw [hp] at h ⊢
  cases wake with
  | stop => exact .leaves (hp ▸ id) (by simp [hp]) (.inl rfl) rfl (isCalm_of_no_effects _)
  | connected result =>
    cases result with
    | error e => exact hfails e
    | ok u =>
      dsimp only
      unfold send
      cases hc : s.encode (.connect s.config.toConnect) with
      | error e => exact hfails e
      | ok bytes =>
        refine .greets hp rfl rfl (isCalm_write ?_ rfl)
        rw [ofBytes?_of_encode hc]
        exact nofun
  | _ => cases h

theorem stride_writing {purpose : Purpose} {wake : Wake} (hp : s.phase = .writing purpose)
    (h : s.phase.accepts wake = true) :
    Stride s ⟨l, now, stopRequested, wake⟩ (s.respond ⟨l, now, stopRequested, wake⟩) := by
  have hgreeting : ∀ d, s.phase ≠ .greeting d := by simp [hp]
  have hanswer : ∀ d, s.phase ≠ .awaitingAnswer d := by simp [hp]
  have hclose : ∀ x ∈ [Effect.close], x.IsQuiet := List.forall_mem_singleton.mpr ⟨rfl, rfl⟩
  unfold respond step
  rw [hp] at h ⊢
  cases wake with
  | written result =>
    cases result with
    | error e =>
      cases purpose with
      | farewell => exact .departed hp rfl (isCalm_goto hclose rfl)
      | greeting => exact stride_of_fail (.inl (hp ▸ trivial)) hgreeting hanswer hclose rfl
      | request r =>
        refine stride_of_fail (.inr (hp ▸ trivial)) hgreeting hanswer ?_ Ledger.state_forget
        exact List.forall_mem_cons.mpr ⟨⟨rfl, rfl⟩, hclose⟩
      | _ => exact stride_of_fail (.inr (hp ▸ trivial)) hgreeting hanswer hclose rfl
    | ok u =>
      have hserves : ∀ phase effects, phase = .serving ∨ phase = .handling →
          s.phase.IsConnected → s.phase ≠ .writing .ping → (∀ x ∈ effects, x.IsQuiet) →
          Stride s ⟨l, now, stopRequested, .written (.ok u)⟩ (s.goto l phase effects) := by
        rintro phase effects (rfl | rfl) hlive hping hquiet
        · exact .serves hlive hping trivial nofun nofun rfl (isCalm_goto hquiet rfl)
        · exact .serves hlive hping trivial nofun nofun rfl (isCalm_goto hquiet rfl)
      cases purpose with
      | greeting => exact .waits hp rfl rfl rfl (isCalm_of_no_effects _)
      | ping => exact .pinged hp rfl rfl (isCalm_of_no_effects _)
      | farewell => exact .departed hp rfl (isCalm_goto hclose rfl)
      | request r =>
        refine hserves .serving _ (.inl rfl) (hp ▸ trivial) (by simp [hp]) ?_
        exact List.forall_mem_singleton.mpr ⟨rfl, rfl⟩
      | response event =>
        cases event with
        | none => exact hserves .handling [] (.inr rfl) (hp ▸ trivial) (by simp [hp]) (by simp)
        | some e =>
          refine hserves .handling _ (.inr rfl) (hp ▸ trivial) (by simp [hp]) ?_
          exact List.forall_mem_singleton.mpr ⟨rfl, rfl⟩
  | _ => cases purpose <;> cases h

theorem stride_greeting {deadline : Nat} {wake : Wake} (hp : s.phase = .greeting deadline)
    (h : s.phase.accepts wake = true) :
    Stride s ⟨l, now, stopRequested, wake⟩ (s.respond ⟨l, now, stopRequested, wake⟩) := by
  have hattempt : s.phase.IsAttempt := hp ▸ trivial
  have hanswer : ∀ d, s.phase ≠ .awaitingAnswer d := by simp [hp]
  unfold respond step
  rw [hp] at h ⊢
  cases wake with
  | run =>
    dsimp only
    cases hitems : s.items with
    | nil =>
      unfold greet
      rw [hitems]
      dsimp only
      split
      · rename_i hlate
        exact .despairs deadline hp hitems hlate rfl rfl (isCalm_fail rfl)
      · rename_i hearly
        exact .asks deadline hp hitems (Nat.lt_of_not_le hearly) rfl rfl rfl rfl
    | cons item rest =>
      have hne : s.items ≠ [] := by simp [hitems]
      have hfails : ∀ (s' : Session) e, Stride s ⟨l, now, stopRequested, .run⟩ (s'.fail l e) :=
        fun s' e => .fails (.inl hattempt) (fun d hd => hne) (fun d hd => absurd hd (hanswer d)) rfl
          (isCalm_fail rfl)
      unfold greet
      rw [hitems]
      split
      · dsimp only
        split
        · refine .enters deadline hp hne rfl rfl (List.forall_mem_singleton.mpr ⟨rfl, rfl⟩) ?_
          unfold enter
          dsimp only
          split <;> rfl
        · exact hfails _ _
      · exact hfails _ _
      · rename_i hnil
        cases hnil
  | _ => cases h

theorem stride_awaitingAnswer {deadline : Nat} {wake : Wake}
    (hp : s.phase = .awaitingAnswer deadline) (h : s.phase.accepts wake = true) :
    Stride s ⟨l, now, stopRequested, wake⟩ (s.respond ⟨l, now, stopRequested, wake⟩) := by
  have hgreeting : ∀ d, s.phase ≠ .greeting d := by simp [hp]
  unfold respond step
  rw [hp] at h ⊢
  cases wake with
  | stop => exact .leaves (hp ▸ id) (by simp [hp]) (.inl rfl) rfl (isCalm_of_no_effects _)
  | abandoned =>
    exact .leaves (hp ▸ id) (by simp [hp]) (.inr (.inl rfl)) rfl (isCalm_of_no_effects _)
  | request r =>
    refine .hears deadline hp rfl rfl (isCalm_goto ?_ Ledger.state_forget)
    exact List.forall_mem_singleton.mpr ⟨rfl, rfl⟩
  | read result =>
    have hfails : ∀ (s' : Session) e, ((∃ e, result = .error e)
        ∨ ∃ bytes e, result = .ok bytes ∧ (s.decoder.feed bytes).2.2 = .error e) →
        Stride s ⟨l, now, stopRequested, .read result⟩ (s'.fail l e) := by
      intro s' e hreason
      refine .fails (.inl (hp ▸ trivial)) (fun d hd => absurd hd (hgreeting d)) (fun d hd => ?_) rfl
        (isCalm_fail rfl)
      simpa using hreason
    dsimp only
    unfold receive
    cases result with
    | error e => exact hfails s e (.inl ⟨e, rfl⟩)
    | ok bytes =>
      cases bytes with
      | nil => exact .hears deadline hp rfl rfl (isCalm_of_no_effects _)
      | cons b bs =>
        dsimp only
        cases hfeed : s.decoder.feed (b :: bs) with
        | mk decoder r =>
          obtain ⟨items, result⟩ := r
          cases result with
          | ok u => exact .hears deadline hp rfl rfl (isCalm_of_no_effects _)
          | error e => exact hfails _ e (.inr ⟨b :: bs, e, rfl, by rw [hfeed]⟩)
  | _ => cases h

theorem stride_of_disconnect {m : Moment} (hp : s.phase.IsConnected) :
    Stride s m (s.disconnect m.ledger) := by
  unfold disconnect
  cases hbytes : s.encode .disconnect with
  | error e =>
    exact .departs hp (.inr rfl) (isCalm_goto (List.forall_mem_singleton.mpr ⟨rfl, rfl⟩) rfl)
  | ok bytes =>
    refine .departs hp (.inl rfl) (isCalm_write ?_ rfl)
    rw [ofBytes?_of_encode hbytes]
    exact nofun

theorem stride_serving {wake : Wake} (hp : s.phase = .serving) (h : s.phase.accepts wake = true) :
    Stride s ⟨l, now, stopRequested, wake⟩ (s.respond ⟨l, now, stopRequested, wake⟩) := by
  have hlive : s.phase.IsConnected := hp ▸ trivial
  unfold respond step
  rw [hp] at h ⊢
  cases wake with
  | run =>
    cases stopRequested with
    | true => exact stride_of_disconnect (m := ⟨l, now, true, .run⟩) hlive
    | false => exact .serves hlive (by simp [hp]) trivial nofun nofun rfl (isCalm_of_no_effects _)
  | _ => cases h

theorem stride_listening {wake : Wake} (hp : s.phase = .listening)
    (h : s.phase.accepts wake = true)
    (hproper : Moment.IsProper ⟨l, now, stopRequested, wake⟩) :
    Stride s ⟨l, now, stopRequested, wake⟩ (s.respond ⟨l, now, stopRequested, wake⟩) := by
  have hlive : s.phase.IsConnected := hp ▸ trivial
  have hping : s.phase ≠ .writing .ping := by simp [hp]
  have hfails : ∀ (s' : Session) e, Stride s ⟨l, now, stopRequested, wake⟩ (s'.fail l e) :=
    fun s' e => stride_of_fail (.inr hlive) (by simp [hp]) (by simp [hp])
      (List.forall_mem_singleton.mpr ⟨rfl, rfl⟩) rfl
  unfold respond step
  rw [hp] at h ⊢
  cases wake with
  | stop => exact .serves hlive hping trivial nofun nofun rfl (isCalm_of_no_effects _)
  | abandoned => exact stride_of_disconnect (m := ⟨l, now, stopRequested, .abandoned⟩) hlive
  | request r =>
    refine .serves hlive hping trivial nofun nofun rfl (isCalm_write ?_ rfl)
    obtain ⟨encoder, p, hencode, htype, o, ho⟩ := hproper r rfl
    rw [Packet.ofBytes?_encode (Encoder.encode_eq_ok_iff.mp hencode).1, htype, ho]
    cases o <;> exact nofun
  | read result =>
    dsimp only
    unfold receive
    cases result with
    | error e => exact hfails s e
    | ok bytes =>
      cases bytes with
      | nil => exact .serves hlive hping trivial nofun nofun rfl (isCalm_of_no_effects _)
      | cons b bs =>
        dsimp only
        cases s.decoder.feed (b :: bs) with
        | mk decoder r =>
          obtain ⟨items, result⟩ := r
          cases result with
          | ok u => exact .serves hlive hping trivial nofun nofun rfl (isCalm_of_no_effects _)
          | error e => exact hfails _ e
  | _ => cases h

theorem state_handle (item : DecodedItem) : (s.handle l item).ledger.state = l.state := by
  rw [ledger_handle]
  apply Ledger.state_moveAll
  intro state hmem
  obtain ⟨_, _, hx⟩ | ⟨_, _, hx⟩ := of_mem_movesOf hmem
  · cases hx
  · cases hx

theorem stride_handling {wake : Wake} (hp : s.phase = .handling) (h : s.phase.accepts wake = true) :
    Stride s ⟨l, now, stopRequested, wake⟩ (s.respond ⟨l, now, stopRequested, wake⟩) := by
  have hlive : s.phase.IsConnected := hp ▸ trivial
  have hping : s.phase ≠ .writing .ping := by simp [hp]
  have hfails : ∀ (s' : Session) (l' : Ledger) e, l'.state = l.state →
      Stride s ⟨l, now, stopRequested, wake⟩ (s'.fail l' e) :=
    fun s' l' e hstate => stride_of_fail (.inr hlive) (by simp [hp]) (by simp [hp])
      (List.forall_mem_singleton.mpr ⟨rfl, rfl⟩) hstate
  cases wake with
  | run =>
    cases hitems : s.items with
    | nil =>
      have hrespond : s.respond ⟨l, now, stopRequested, .run⟩ = s.listen l now := by
        unfold respond step
        rw [hp, hitems]
      rw [hrespond]
      unfold listen
      dsimp only
      split
      · rename_i hdue
        unfold send
        cases hbytes : s.encode .pingreq with
        | error e => exact hfails s _ e rfl
        | ok bytes => exact .pings bytes _ hp hdue rfl rfl (ofBytes?_of_encode hbytes) rfl
      · rename_i hearly
        exact .listens hp (Nat.le_of_not_lt hearly) rfl rfl rfl rfl
    | cons item rest =>
      have hrespond : s.respond ⟨l, now, stopRequested, .run⟩ =
          { s with items := rest }.handle l item := by
        unfold respond step
        rw [hp, hitems]
      have hstate := @state_handle { s with items := rest } l item
      rw [hrespond]
      rcases handle_cases { s with items := rest } l item with ⟨e, _, l', hhandle⟩
        | ⟨_, ⟨bytes, hanswer, hhandle⟩ | ⟨_, hhandle⟩⟩
      · rw [hhandle] at hstate ⊢
        exact hfails _ l' e hstate
      · rw [hhandle] at hstate ⊢
        refine .serves hlive hping trivial nofun nofun rfl (isCalm_write ?_ hstate)
        intro hkind
        have hreply := isReply_of_answerTo hanswer
        rw [Mark.isReply_wrote hkind] at hreply
        cases hreply
      · rw [hhandle] at hstate ⊢
        refine .serves hlive hping trivial nofun nofun rfl (isCalm_goto ?_ hstate)
        cases newsOf l item with
        | none => exact List.forall_mem_nil _
        | some e => exact List.forall_mem_singleton.mpr ⟨rfl, rfl⟩
  | _ =>
    rw [hp] at h
    cases h

theorem stride_retrying {wake : Wake} (hp : s.phase = .retrying) (h : s.phase.accepts wake = true) :
    Stride s ⟨l, now, stopRequested, wake⟩ (s.respond ⟨l, now, stopRequested, wake⟩) := by
  unfold respond step
  rw [hp] at h ⊢
  cases wake with
  | run =>
    dsimp only
    split
    · rename_i hretry
      exact .pauses hp hretry rfl (isCalm_of_no_effects _)
    · rename_i hretry
      exact .resigns hp (Bool.eq_false_iff.mpr hretry) rfl (isCalm_of_no_effects _)
  | _ => cases h

theorem stride_pausing {deadline : Nat} {wake : Wake} (hp : s.phase = .pausing deadline)
    (h : s.phase.accepts wake = true) :
    Stride s ⟨l, now, stopRequested, wake⟩ (s.respond ⟨l, now, stopRequested, wake⟩) := by
  unfold respond step
  rw [hp] at h ⊢
  cases wake with
  | run =>
    dsimp only
    split
    · rename_i hstop
      exact .leaves (hp ▸ id) (by simp [hp]) (.inr (.inr hstop)) rfl (isCalm_of_no_effects _)
    · split
      · rename_i hlate
        exact .reopens deadline (.inl ⟨hp, hlate⟩) rfl (List.forall_mem_nil _) rfl
      · rename_i hearly
        exact .sleeps deadline hp (Nat.lt_of_not_le hearly) rfl (isCalm_of_no_effects _)
  | _ => cases h

theorem stride_sleeping {deadline : Nat} {wake : Wake} (hp : s.phase = .sleeping deadline)
    (h : s.phase.accepts wake = true) :
    Stride s ⟨l, now, stopRequested, wake⟩ (s.respond ⟨l, now, stopRequested, wake⟩) := by
  unfold respond step
  rw [hp] at h ⊢
  cases wake with
  | stop => exact .leaves (hp ▸ id) (by simp [hp]) (.inl rfl) rfl (isCalm_of_no_effects _)
  | abandoned =>
    exact .leaves (hp ▸ id) (by simp [hp]) (.inr (.inl rfl)) rfl (isCalm_of_no_effects _)
  | request r =>
    refine .rejects deadline hp rfl (isCalm_goto ?_ Ledger.state_forget)
    exact List.forall_mem_singleton.mpr ⟨rfl, rfl⟩
  | elapsed => exact .reopens deadline (.inr ⟨hp, rfl⟩) rfl (List.forall_mem_nil _) rfl
  | _ => cases h

/-- Whatever wakes a session that waits for it, the session takes one of its steps. -/
theorem stride_spec {m : Moment} (hm : m.IsProper) (h : s.phase.accepts m.wake = true) :
    Stride s m (s.respond m) := by
  obtain ⟨l, now, stopRequested, wake⟩ := m
  cases hp : s.phase with
  | connecting => exact stride_connecting hp h
  | writing purpose => exact stride_writing hp h
  | greeting deadline => exact stride_greeting hp h
  | awaitingAnswer deadline => exact stride_awaitingAnswer hp h
  | serving => exact stride_serving hp h
  | handling => exact stride_handling hp h
  | listening => exact stride_listening hp h hm
  | retrying => exact stride_retrying hp h
  | pausing deadline => exact stride_pausing hp h
  | sleeping deadline => exact stride_sleeping hp h
  | opening =>
    unfold respond step
    rw [hp] at h ⊢
    cases wake with
    | run =>
      cases stopRequested with
      | true =>
        exact .leaves (hp ▸ id) (by simp [hp]) (.inr (.inr rfl)) rfl (isCalm_of_no_effects _)
      | false =>
        exact .attempts hp rfl rfl ⟨List.forall_mem_singleton.mpr ⟨rfl, rfl⟩, rfl⟩
    | _ => cases h
  | failing =>
    unfold respond step
    rw [hp] at h ⊢
    cases wake with
    | run =>
      refine .reports hp rfl ?_ rfl
      unfold tellFailure goto
      dsimp only
      split <;> simp [Effect.IsQuiet, Effect.isPing, Effect.timeout?]
    | _ => cases h
  | leaving final =>
    unfold respond step
    rw [hp] at h ⊢
    cases wake with
    | run => exact .finishes final hp rfl (List.forall_mem_singleton.mpr ⟨rfl, rfl⟩) rfl
    | _ => cases h
  | finished | crashed =>
    rw [hp] at h
    cases wake <;> cases h

theorem respond_of_not_accepts {m : Moment} (h : s.phase.accepts m.wake = false) :
    s.respond m = ⟨s, m.ledger, []⟩ :=
  (ignores h).1

end

/-- Reads are for the broker's answer or for the time until the next PINGREQ. -/
theorem Stride.effects_cases {s : Session} {m : Moment} {o : Outcome} (h : Stride s m o) :
    (∀ x ∈ o.effects, x.IsQuiet)
      ∨ (∃ deadline, s.phase = .greeting deadline ∧ m.now < deadline
          ∧ o.effects = [.read (deadline - m.now)])
      ∨ (∃ bytes timeout, s.phase = .handling ∧ s.pingInterval < m.now - s.lastPing
          ∧ o.effects = [.write bytes timeout])
      ∨ s.phase = .handling ∧ m.now - s.lastPing ≤ s.pingInterval
          ∧ o.effects =
            [.read (min (max (s.pingInterval - (m.now - s.lastPing)) 1) longestRead)] := by
  cases h with
  | asks deadline hp _ hearly _ _ heffects => exact .inr (.inl ⟨deadline, hp, hearly, heffects⟩)
  | pings bytes timeout hp hdue _ heffects =>
    exact .inr (.inr (.inl ⟨bytes, timeout, hp, hdue, heffects⟩))
  | listens hp hearly _ _ heffects => exact .inr (.inr (.inr ⟨hp, hearly, heffects⟩))
  | enters | reports | reopens | finishes => exact .inl ‹∀ x ∈ o.effects, x.IsQuiet›
  | _ => exact .inl ‹o.IsCalm m.ledger›.quiet

end Session

/-- By when the session moves again after this, if there is a bound; `writing` is how long a write
may take, where that is known. -/
def Session.Outcome.due (writing : Option Nat) (now : Nat) (o : Session.Outcome) : Option Nat :=
  match o.session.phase with
  | .connecting | .finished | .crashed => none
  | .writing _ => writing.map (now + ·)
  | .awaitingAnswer _ | .listening => (o.effects.findSome? Effect.timeout?).map (now + ·)
  | .sleeping deadline => some deadline
  | _ => some now

/-- A session at some time. -/
structure Timed where
  session : Session
  /-- The state that everybody sees. -/
  state : SessionState
  now : Nat
  /-- When the state was entered. -/
  since : Nat
  /-- When a write was last done. -/
  written : Nat
  /-- When a PINGREQ was last written. -/
  pinged : Nat
  /-- By when the session moves again. -/
  due : Option Nat

namespace Timed

def new (config : Config) (defaultPort : UInt16) (start : Nat) : Timed where
  session := .new config defaultPort
  state := .init
  now := start
  since := start
  written := start
  pinged := start
  due := some start

/-- The session at a later moment. It may also only be looked at. -/
def advance (writing : Option Nat) (x : Timed) (m : Moment) : Timed :=
  let o := x.session.respond m
  if x.session.phase.accepts m.wake then
    { session := o.session
      state := o.ledger.state
      now := m.now
      since := if o.ledger.state = x.state then x.since else m.now
      written := if m.wake.isWritten then m.now else x.written
      pinged := if o.effects.any Effect.isPing then m.now else x.pinged
      due := o.due writing m.now }
  else { x with now := m.now }

/-- Whether the session can come to this moment. Between two moments callers may do anything to the
ledger but set its state. -/
structure Admits (x : Timed) (m : Moment) : Prop where
  later : x.now ≤ m.now
  in_time : ∀ due ∈ x.due, m.now ≤ due
  timer : m.wake.isElapsed = true → ∀ alarm ∈ x.session.phase.alarm?, alarm ≤ m.now
  state : m.ledger.state = x.state

instance (x : Timed) (m : Moment) : Decidable (x.Admits m) :=
  decidable_of_iff (x.now ≤ m.now ∧ (∀ due ∈ x.due, m.now ≤ due)
      ∧ (m.wake.isElapsed = true → ∀ alarm ∈ x.session.phase.alarm?, alarm ≤ m.now)
      ∧ m.ledger.state = x.state)
    ⟨fun h => ⟨h.1, h.2.1, h.2.2.1, h.2.2.2⟩, fun h => ⟨h.later, h.in_time, h.timer, h.state⟩⟩

def InTime (writing : Option Nat) : Timed → List Moment → Prop
  | _, [] => True
  | x, m :: moments => x.Admits m ∧ InTime writing (x.advance writing m) moments

instance decidableInTime (writing : Option Nat) :
    (x : Timed) → (moments : List Moment) → Decidable (x.InTime writing moments)
  | _, [] => .isTrue trivial
  | x, m :: moments =>
    have := decidableInTime writing (x.advance writing m) moments
    inferInstanceAs (Decidable (x.Admits m ∧ InTime writing (x.advance writing m) moments))

def play (writing : Option Nat) (x : Timed) (moments : List Moment) : Timed :=
  moments.foldl (advance writing) x

variable {writing : Option Nat} {x : Timed} {m : Moment}

theorem session_advance (writing : Option Nat) (x : Timed) (m : Moment) :
    (x.advance writing m).session = (x.session.turn m).1 := by
  cases haccepts : x.session.phase.accepts m.wake with
  | true => simp [advance, haccepts, Session.turn, Session.respond]
  | false => simp [advance, haccepts, Session.turn_of_not_accepts haccepts]

theorem session_play (writing : Option Nat) (x : Timed) (moments : List Moment) :
    (x.play writing moments).session = (x.session.play moments).1 := by
  induction moments generalizing x with
  | nil => rfl
  | cons m moments ih =>
    rw [play, List.foldl_cons, ← play, ih, session_advance]
    rfl

theorem advance_of_not_accepts (h : x.session.phase.accepts m.wake = false) :
    x.advance writing m = { x with now := m.now } := by
  simp [advance, h]

theorem advance_of_accepts (h : x.session.phase.accepts m.wake = true) :
    x.advance writing m =
      { session := (x.session.respond m).session
        state := (x.session.respond m).ledger.state
        now := m.now
        since := if (x.session.respond m).ledger.state = x.state then x.since else m.now
        written := if m.wake.isWritten then m.now else x.written
        pinged := if (x.session.respond m).effects.any Effect.isPing then m.now else x.pinged
        due := (x.session.respond m).due writing m.now } :=
  if_pos h

theorem any_isPing_of_quiet {effects : List Effect} (h : ∀ e ∈ effects, e.IsQuiet) :
    effects.any Effect.isPing = false := by
  rw [List.any_eq_false]
  intro e he
  rw [(h e he).1]
  exact Bool.false_ne_true

/-- A step that leaves the state as it is leaves it as old as it is. -/
theorem advance_of_steady (h : x.session.phase.accepts m.wake = true) (hadmits : x.Admits m)
    (hstate : (x.session.respond m).ledger.state = m.ledger.state) :
    x.advance writing m =
      { session := (x.session.respond m).session
        state := x.state
        now := m.now
        since := x.since
        written := if m.wake.isWritten then m.now else x.written
        pinged := if (x.session.respond m).effects.any Effect.isPing then m.now else x.pinged
        due := (x.session.respond m).due writing m.now } := by
  rw [advance_of_accepts h, hstate, hadmits.state, if_pos rfl]

/-- What holds at the start and is kept by every step holds at every moment of a run. -/
theorem InTime.at_moment {P : Timed → Prop}
    (hstep : ∀ x m, P x → x.Admits m → m.IsProper → P (x.advance writing m)) (hx : P x)
    {front back : List Moment} (h : x.InTime writing (front ++ m :: back))
    (hproper : ∀ n ∈ front ++ m :: back, n.IsProper) :
    P (x.play writing front) ∧ (x.play writing front).Admits m := by
  induction front generalizing x with
  | nil => exact ⟨hx, h.1⟩
  | cons n front ih =>
    obtain ⟨hn, hrest⟩ := List.forall_mem_cons.mp hproper
    exact ih (hstep x n hx h.1 hn) h.2 hrest

end Timed
end Mqtt
