import Mqtt.Proofs.Client.Scene

/-!
What a step of the session makes of a scene: what becomes of the requests in the queue and of the
calls that wait, and what is noted.
-/

namespace Mqtt
set_option autoImplicit false

theorem Phase.not_isOver_of_accepts {phase : Phase} {w : Wake} (h : phase.accepts w = true) :
    phase.isOver = false := by
  cases phase with
  | finished => cases w <;> cases h
  | crashed => cases w <;> cases h
  | _ => rfl

theorem Phase.request?_of_not_writing {phase : Phase} (h : ∀ purpose, phase ≠ .writing purpose) :
    phase.request? = none := by
  cases phase with
  | writing purpose => exact absurd rfl (h purpose)
  | _ => rfl

theorem Phase.request?_of_isOver {phase : Phase} (h : phase.isOver = true) :
    phase.request? = none := by
  cases phase with
  | writing purpose => cases h
  | _ => rfl

/-- Whether bytes are what is to be written for a purpose. -/
def Purpose.Suits (bytes : Bytes) : Purpose → Prop
  | .request r => bytes = r.packet
  | _ => ¬ HoldsOperation bytes

theorem Purpose.IsOwn.request?_eq_none {purpose : Purpose} (h : purpose.IsOwn) :
    purpose.request? = none := by
  cases purpose with
  | request r => cases h
  | _ => rfl

theorem Purpose.IsOwn.suits_iff {purpose : Purpose} (h : purpose.IsOwn) {bytes : Bytes} :
    purpose.Suits bytes ↔ ¬ HoldsOperation bytes := by
  cases purpose with
  | request r => cases h
  | _ => exact Iff.rfl

/-- What is told of a step is among its events. -/
theorem Session.Outcome.IsAside.told {o : Session.Outcome} {deeds : List Ledger.Deed}
    (h : o.IsAside deeds) {told : List Event}
    (hsub : told.Sublist (o.effects.filterMap Effect.event?)) : (∀ e ∈ told, e.deeds = [])
      ∨ ∃ e d, told.Sublist [e] ∧ deeds = [d] ∧ d ∈ e.deeds := by
  rcases h.tells with hnone | ⟨e, d, heffects, hdeeds, hd⟩
  · refine .inl fun e he => hnone e ?_
    obtain ⟨x, hx, hxe⟩ := List.mem_filterMap.mp (hsub.subset he)
    cases x with
    | tell e' =>
      cases hxe
      exact hx
    | _ => cases hxe
  · rw [heffects] at hsub
    exact .inr ⟨e, d, hsub, hdeeds, hd⟩

namespace Client

variable {κ : Type} (react : κ → Event → Reaction κ) {c : Client κ}

/-- The requests in the queue of the session. -/
def queue (c : Client κ) : List Request := (c.task.map Task.queue).getD []

/-- The request that the session is busy with. -/
def flight (c : Client κ) : Option Request := c.task.bind fun t => t.session.phase.request?

/-- Whether there is a session that is not over. -/
def isOpen (c : Client κ) : Bool := c.task.any fun t => !t.isOver

theorem queue_closeQueue (c : Client κ) : c.closeQueue.queue = [] := by
  unfold queue closeQueue
  cases c.task <;> rfl

theorem flight_closeQueue (c : Client κ) : c.closeQueue.flight = c.flight := by
  unfold flight closeQueue
  cases c.task <;> rfl

theorem isOpen_closeQueue (c : Client κ) : c.closeQueue.isOpen = c.isOpen := by
  unfold isOpen closeQueue
  cases c.task <;> rfl

theorem moment?_cases {now : Nat} {signal : Signal} {t : Task} {m : Moment}
    (h : c.moment? now signal = some (t, m)) :
    m.ledger = c.ledger ∧ t.session.phase.accepts m.wake = true
      ∧ ∃ t₀, c.task = some t₀ ∧ t.session = t₀.session
        ∧ ((∃ r, m.wake = .request r ∧ t₀.queue = r :: t.queue)
          ∨ (∀ r, m.wake ≠ .request r) ∧ t.queue = t₀.queue) := by
  unfold moment? at h
  cases htask : c.task with
  | none =>
    rw [htask] at h
    cases h
  | some t₀ =>
    cases hwake : c.wake? t₀ signal with
    | none => simp [htask, hwake] at h
    | some r =>
      obtain ⟨w, t₁⟩ := r
      obtain ⟨hsession, hqueue⟩ := wake?_cases hwake
      simp only [htask, hwake, Option.bind_eq_bind, Option.bind_some] at h
      split at h
      · rename_i haccepts
        cases h
        exact ⟨rfl, haccepts, t₀, rfl, hsession, hqueue⟩
      · cases h

theorem isOpen_of_moment? {now : Nat} {signal : Signal} {t : Task} {m : Moment}
    (h : c.moment? now signal = some (t, m)) : c.isOpen = true := by
  obtain ⟨_, haccepts, t₀, ht₀, hsession, _⟩ := moment?_cases h
  rw [hsession] at haccepts
  have hover : t₀.isOver = false := Phase.not_isOver_of_accepts haccepts
  unfold isOpen
  rw [ht₀]
  simpa using hover

/-- What effects leave as it is when they are carried out. -/
theorem perform_frame (c : Client κ) (effects : List Effect) :
    (c.perform react effects).1.ledger = c.ledger
      ∧ (c.perform react effects).1.holdsTask = c.holdsTask
      ∧ (c.perform react effects).1.transportHere = c.transportHere := by
  induction effects generalizing c with
  | nil => exact ⟨rfl, rfl, rfl⟩
  | cons x rest ih =>
    cases x with
    | tell e =>
      unfold perform
      dsimp only
      split
      · exact ⟨rfl, rfl, rfl⟩
      · exact ih _
    | answer ticket result => exact ih (c.answer ticket result)
    | connect host port timeout => exact ih c
    | write bytes timeout => exact ih c
    | read timeout => exact ih c
    | close => exact ih c

/-- The session is what it was, or it was lost to a callback. -/
theorem task_perform (c : Client κ) (effects : List Effect) :
    (c.perform react effects).1.queue = c.queue
      ∧ ((c.perform react effects).1.task = c.task
        ∨ ∀ t ∈ (c.perform react effects).1.task, t.session.phase = .crashed) := by
  unfold queue
  obtain ⟨_, _, htask | htask⟩ := perform_cases react c effects
  · rw [htask]
    exact ⟨rfl, .inl rfl⟩
  · rw [htask]
    refine ⟨by cases c.task <;> rfl, .inr ?_⟩
    intro t ht
    obtain ⟨t₀, _, hcrash⟩ := Option.map_eq_some_iff.mp ht
    rw [← hcrash]

/-- Effects without an answer leave the calls as they are, and only what they tell is noted. -/
theorem perform_of_unanswered {effects : List Effect}
    (h : ∀ ticket result, .answer ticket result ∉ effects) (c : Client κ) :
    (c.perform react effects).1.calls = c.calls
      ∧ effects.flatMap Effect.entries = []
      ∧ ∃ told : List Event,
        (c.perform react effects).2.flatMap Action.entries = told.map LogEntry.told
        ∧ told.Sublist (effects.filterMap Effect.event?) := by
  induction effects generalizing c with
  | nil => exact ⟨rfl, rfl, [], rfl, .slnil⟩
  | cons x rest ih =>
    have hrest : ∀ ticket result, .answer ticket result ∉ rest := by
      intro ticket result hmem
      exact h ticket result (List.mem_cons_of_mem x hmem)
    cases x with
    | tell e =>
      unfold perform
      dsimp only
      split
      · refine ⟨rfl, (ih hrest c).2.1, [e], rfl, ?_⟩
        exact List.singleton_sublist.mpr List.mem_cons_self
      · obtain ⟨hcalls, hentries, told, htold, hsub⟩ := ih hrest
          { c with
            listeners := (c.listeners.broadcast react e).registry
            mailboxes := c.mailboxes.sendAll (c.listeners.broadcast react e).told e }
        refine ⟨hcalls, hentries, e :: told, ?_, hsub.cons_cons e⟩
        rw [List.flatMap_cons, htold]
        rfl
    | answer ticket result => exact absurd List.mem_cons_self (h ticket result)
    | connect host port timeout => exact ih hrest c
    | write bytes timeout => exact ih hrest c
    | read timeout => exact ih hrest c
    | close => exact ih hrest c

end Client

namespace Scene

variable {κ : Type} {react : κ → Event → Reaction κ} {s s' : Scene κ} {log : List LogEntry}

/-- Whatever the session writes suits its purpose. -/
def WritesSuit (s : Scene κ) : Prop :=
  ∀ t ∈ s.client.task, ∀ purpose, t.session.phase = .writing purpose →
    purpose.Suits s.outgoing ∧ (purpose.request? = none → purpose.IsOwn)

/-- What a step of the session can do to a scene. -/
inductive Proceeds (s s' : Scene κ) (log : List LogEntry) : Prop where
  | takes (r : Request) (hqueue : s.client.queue = r :: s'.client.queue)
    (hidle : s.client.flight = none) (hflight : s'.client.flight = some r)
    (hcalls : s'.client.calls = s.client.calls) (hledger : s'.client.ledger = s.client.ledger)
    (hlog : log = [.taken r])
  | rejects (r : Request) (e : Error) (hqueue : s.client.queue = r :: s'.client.queue)
    (hidle : s.client.flight = none) (hflight : s'.client.flight = none)
    (hcalls : s'.client.calls = (s.client.answer r.ticket (.error e)).calls)
    (hledger : s'.client.ledger = s.client.ledger.forget r.kind r.packetId)
    (hlog : log = [.taken r, .forgot r.ticket, .answered r.ticket (.error e)])
  | writes (r : Request) (hqueue : s.client.queue = s'.client.queue)
    (hbusy : s.client.flight = some r) (hflight : s'.client.flight = none)
    (hcalls : s'.client.calls = (s.client.answer r.ticket (.ok ())).calls)
    (hledger : s'.client.ledger = s.client.ledger)
    (hlog : log = [.wrote (.request r) r.packet, .answered r.ticket (.ok ())])
  | breaks (r : Request) (e : Error) (hqueue : s.client.queue = s'.client.queue)
    (hbusy : s.client.flight = some r) (hflight : s'.client.flight = none)
    (hcalls : s'.client.calls = (s.client.answer r.ticket (.error e)).calls)
    (hledger : s'.client.ledger = s.client.ledger.forget r.kind r.packetId)
    (hlog : log = [.forgot r.ticket, .answered r.ticket (.error e)])
  | aside (moves : List Ledger.Move) (written : List LogEntry) (told : List Event)
    (hqueue : s.client.queue = s'.client.queue) (hidle : s.client.flight = none)
    (hflight : s'.client.flight = none) (hcalls : s'.client.calls = s.client.calls)
    (hledger : s'.client.ledger = s.client.ledger.moveAll moves)
    (hmoves : ∀ x ∈ moves, x.IsOwn)
    (htold : (∀ e ∈ told, e.deeds = [])
      ∨ ∃ e d, told.Sublist [e] ∧ s.client.ledger.deeds moves = [d] ∧ d ∈ e.deeds)
    (hwritten : ∀ x ∈ written, ∃ purpose bytes, x = .wrote purpose bytes ∧ purpose.request? = none
      ∧ ¬ HoldsOperation bytes)
    (hlog : log = written ++ (s.client.ledger.deeds moves).map .noted ++ told.map .told)

theorem mem_aside {written : List LogEntry} {deeds : List Ledger.Deed} {told : List Event}
    {x : LogEntry} (hx : x ∈ written ++ deeds.map .noted ++ told.map .told) :
    x ∈ written ∨ (∃ d, x = .noted d) ∨ ∃ e, x = .told e := by
  rw [List.mem_append, List.mem_append] at hx
  rcases hx with (hx | hx) | hx
  · exact .inl hx
  · obtain ⟨d, _, hd⟩ := List.mem_map.mp hx
    exact .inr (.inl ⟨d, hd.symm⟩)
  · obtain ⟨e, _, he⟩ := List.mem_map.mp hx
    exact .inr (.inr ⟨e, he.symm⟩)

theorem beforeEffects_of_request {session : Session} {m : Moment} {r : Request}
    (h : m.wake = .request r) : s.beforeEffects session m = [.taken r] := by
  unfold beforeEffects
  rw [h]

theorem beforeEffects_of_written {session : Session} {m : Moment} {purpose : Purpose}
    (hphase : session.phase = .writing purpose) (h : m.wake = .written (.ok ())) :
    s.beforeEffects session m = [.wrote purpose s.outgoing] := by
  unfold beforeEffects
  rw [h, hphase]

theorem beforeEffects_of_broken {session : Session} {m : Moment} {e : Error}
    (h : m.wake = .written (.error e)) : s.beforeEffects session m = [] := by
  unfold beforeEffects
  rw [h]

/-- What is written while the session is busy with no request is no packet of an operation. -/
theorem beforeEffects_of_idle {session : Session} {m : Moment}
    (hwake : ∀ r, m.wake ≠ .request r) (hidle : session.phase.request? = none)
    (hsuits : ∀ purpose, session.phase = .writing purpose →
      purpose.Suits s.outgoing ∧ (purpose.request? = none → purpose.IsOwn)) :
    ∀ x ∈ s.beforeEffects session m, ∃ purpose bytes, x = .wrote purpose bytes
      ∧ purpose.request? = none ∧ ¬ HoldsOperation bytes := by
  intro x hx
  unfold beforeEffects at hx
  split at hx
  · rename_i r hr
    exact absurd hr (hwake r)
  · rename_i purpose hphase _
    rw [hphase] at hidle
    obtain ⟨hsuits, hown⟩ := hsuits purpose hphase
    exact ⟨purpose, s.outgoing, List.mem_singleton.mp hx, hidle, (hown hidle).suits_iff.mp hsuits⟩
  · cases hx

/-- A session that does not write has nothing to suit. -/
theorem writesSuit_of_not_writing
    (h : ∀ t ∈ s.client.task, ∀ purpose, t.session.phase ≠ .writing purpose) : s.WritesSuit :=
  fun t ht purpose hpurpose => absurd hpurpose (h t ht purpose)

/-- A session that is woken at a moment: a request is the one at the head of the queue, and
anything else leaves the queue as it is. -/
structure Woken (s : Scene κ) (t : Task) (m : Moment) : Prop where
  accepts : t.session.phase.accepts m.wake = true
  ledger : m.ledger = s.client.ledger
  flight : s.client.flight = t.session.phase.request?
  head : ∀ r, m.wake = .request r → s.client.queue = r :: t.queue
  queue : (∀ r, m.wake ≠ .request r) → s.client.queue = t.queue
  suits : ∀ purpose, t.session.phase = .writing purpose →
    purpose.Suits s.outgoing ∧ (purpose.request? = none → purpose.IsOwn)

theorem woken_of_moment? {now : Nat} {signal : Client.Signal} {t : Task} {m : Moment}
    (hmoment : s.client.moment? now signal = some (t, m)) (hs : s.WritesSuit) : s.Woken t m := by
  obtain ⟨hledger, haccepts, t₀, htask, hsession, hwoken⟩ := Client.moment?_cases hmoment
  have hqueue : s.client.queue = t₀.queue := by
    unfold Client.queue
    rw [htask]
    rfl
  rw [← hqueue] at hwoken
  refine ⟨haccepts, hledger, ?_, ?_, ?_, ?_⟩
  · unfold Client.flight
    rw [htask, hsession]
    rfl
  · intro r hwake
    rcases hwoken with ⟨r', hr', hhead⟩ | ⟨hnone, _⟩
    · cases hwake.symm.trans hr'
      exact hhead
    · exact absurd hwake (hnone r)
  · intro hnone
    rcases hwoken with ⟨r, hr, _⟩ | ⟨_, hsame⟩
    · exact absurd hr (hnone r)
    · exact hsame.symm
  · rw [hsession]
    exact hs t₀ htask

section
variable {t : Task} {m : Moment} {r : Request} {e : Error} {session : Session} {ledger : Ledger}

theorem Woken.ledger_eq (h : s.Woken t m) {effects : List Effect}
    (ho : t.session.respond m = ⟨session, ledger, effects⟩) :
    ledger = s.client.ledger.moveAll (t.session.moves m) := by
  have hledger := Session.ledger_respond t.session m
  rwa [ho, h.ledger] at hledger

theorem Woken.takes (h : s.Woken t m) {timeout : Nat}
    (ho : t.session.respond m = ⟨session, ledger, [.write r.packet timeout]⟩)
    (hwake : m.wake = .request r) (hidle : t.session.phase.request? = none)
    (hphase : session.phase = .writing (.request r)) (hmoves : t.session.moves m = []) :
    Proceeds s (s.proceed react t m).1 (s.proceed react t m).2
      ∧ (s.proceed react t m).1.WritesSuit := by
  have hledger := h.ledger_eq ho
  rw [hmoves] at hledger
  have hbusy : session.phase.request? = some r := by
    rw [hphase]
    rfl
  unfold proceed Client.carryOut
  rw [ho, beforeEffects_of_request hwake, hmoves]
  refine ⟨.takes r (h.head r hwake) (h.flight.trans hidle) hbusy rfl hledger rfl, ?_⟩
  intro t' ht' purpose hpurpose
  cases ht'
  cases hphase.symm.trans hpurpose
  exact ⟨rfl, nofun⟩

theorem Woken.rejects (h : s.Woken t m)
    (ho : t.session.respond m = ⟨session, ledger, [.answer r.ticket (.error e)]⟩)
    (hwake : m.wake = .request r) (hidle : t.session.phase.request? = none)
    (hphase : ∀ purpose, session.phase ≠ .writing purpose)
    (hmoves : t.session.moves m = Ledger.forgetting r.kind r.packetId) :
    Proceeds s (s.proceed react t m).1 (s.proceed react t m).2
      ∧ (s.proceed react t m).1.WritesSuit := by
  have hledger := h.ledger_eq ho
  rw [hmoves, Ledger.moveAll_forgetting] at hledger
  unfold proceed Client.carryOut
  rw [ho, beforeEffects_of_request hwake, hmoves, Ledger.deeds_forgetting]
  refine ⟨.rejects r e (h.head r hwake) (h.flight.trans hidle) (Phase.request?_of_not_writing hphase)
    rfl hledger rfl, writesSuit_of_not_writing ?_⟩
  intro t' ht'
  cases ht'
  exact hphase

theorem Woken.writes (h : s.Woken t m)
    (ho : t.session.respond m = ⟨session, ledger, [.answer r.ticket (.ok ())]⟩)
    (hwake : m.wake = .written (.ok ())) (hbusy : t.session.phase = .writing (.request r))
    (hphase : ∀ purpose, session.phase ≠ .writing purpose) (hmoves : t.session.moves m = []) :
    Proceeds s (s.proceed react t m).1 (s.proceed react t m).2
      ∧ (s.proceed react t m).1.WritesSuit := by
  have hledger := h.ledger_eq ho
  rw [hmoves] at hledger
  have hqueue := h.queue (by rw [hwake]; exact nofun)
  have hflying : s.client.flight = some r := by
    rw [h.flight, hbusy]
    rfl
  have hpacket : s.outgoing = r.packet := (h.suits _ hbusy).1
  unfold proceed Client.carryOut
  rw [ho, beforeEffects_of_written hbusy hwake, hmoves, hpacket]
  refine ⟨.writes r hqueue hflying (Phase.request?_of_not_writing hphase) rfl hledger rfl,
    writesSuit_of_not_writing ?_⟩
  intro t' ht'
  cases ht'
  exact hphase

theorem Woken.breaks (h : s.Woken t m)
    (ho : t.session.respond m = ⟨session, ledger, [.answer r.ticket (.error e), .close]⟩)
    (hwake : m.wake = .written (.error e)) (hbusy : t.session.phase = .writing (.request r))
    (hphase : ∀ purpose, session.phase ≠ .writing purpose)
    (hmoves : t.session.moves m = Ledger.forgetting r.kind r.packetId) :
    Proceeds s (s.proceed react t m).1 (s.proceed react t m).2
      ∧ (s.proceed react t m).1.WritesSuit := by
  have hledger := h.ledger_eq ho
  rw [hmoves, Ledger.moveAll_forgetting] at hledger
  have hqueue := h.queue (by rw [hwake]; exact nofun)
  have hflying : s.client.flight = some r := by
    rw [h.flight, hbusy]
    rfl
  unfold proceed Client.carryOut
  rw [ho, beforeEffects_of_broken hwake, hmoves, Ledger.deeds_forgetting]
  refine ⟨.breaks r e hqueue hflying (Phase.request?_of_not_writing hphase) rfl hledger rfl,
    writesSuit_of_not_writing ?_⟩
  intro t' ht'
  cases ht'
  exact hphase

/-- A callback leaves a session that writes as it is, or ends it. -/
theorem phase_of_writing_perform {c : Client κ} {effects : List Effect}
    (htask : c.task = some { t with session }) {t' : Task}
    (ht' : t' ∈ (c.perform react effects).1.task) {purpose : Purpose}
    (hpurpose : t'.session.phase = .writing purpose) : session.phase = .writing purpose := by
  obtain ⟨_, hsame | hcrashed⟩ := Client.task_perform react c effects
  · rw [hsame, htask] at ht'
    cases ht'
    exact hpurpose
  · cases (hcrashed t' ht').symm.trans hpurpose

theorem Woken.aside (h : s.Woken t m) {effects : List Effect}
    (ho : t.session.respond m = ⟨session, ledger, effects⟩) (hwake : ∀ r, m.wake ≠ .request r)
    (hidle : t.session.phase.request? = none)
    (haside : Session.Outcome.IsAside ⟨session, ledger, effects⟩
      (m.ledger.deeds (t.session.moves m))) :
    Proceeds s (s.proceed react t m).1 (s.proceed react t m).2
      ∧ (s.proceed react t m).1.WritesSuit := by
  have hledger := h.ledger_eq ho
  have hwritten := beforeEffects_of_idle hwake hidle h.suits
  unfold proceed Client.carryOut
  rw [ho, h.ledger]
  rw [h.ledger] at haside
  dsimp only
  generalize s.beforeEffects t.session m = written at hwritten ⊢
  generalize hbefore : ({ s.client with ledger, task := some { t with session } } : Client κ) = c
  have htask : c.task = some { t with session } := by rw [← hbefore]
  obtain ⟨hcalls, hentries, told, htold, hsub⟩ :=
    Client.perform_of_unanswered react haside.unanswered c
  obtain ⟨hledger', _⟩ := Client.perform_frame react c effects
  obtain ⟨hqueue', _⟩ := Client.task_perform react c effects
  rw [hentries, htold, List.append_nil]
  refine ⟨.aside (t.session.moves m) written told ?_ (h.flight.trans hidle) ?_ ?_ ?_
    (Session.isOwn_of_mem_moves hwake hidle) (haside.told hsub) hwritten rfl, ?_⟩
  · rw [hqueue', ← hbefore]
    exact h.queue hwake
  · refine Option.bind_eq_none_iff.mpr fun t' ht' => ?_
    cases hp : t'.session.phase with
    | writing purpose =>
      exact (haside.writes purpose (phase_of_writing_perform htask ht' hp)).1.request?_eq_none
    | _ => rfl
  · rw [hcalls, ← hbefore]
  · rw [hledger', ← hbefore]
    exact hledger
  · intro t' ht' purpose hpurpose
    obtain ⟨hown, bytes, timeout, heffects, hbytes⟩ :=
      haside.writes purpose (phase_of_writing_perform htask ht' hpurpose)
    dsimp only at heffects
    subst heffects
    exact ⟨hown.suits_iff.mpr hbytes, fun _ => hown⟩

end

theorem proceeds (react : κ → Event → Reaction κ) {now : Nat} {signal : Client.Signal} {t : Task}
    {m : Moment} (hmoment : s.client.moment? now signal = some (t, m)) (hs : s.WritesSuit) :
    Proceeds s (s.proceed react t m).1 (s.proceed react t m).2
      ∧ (s.proceed react t m).1.WritesSuit := by
  have h := woken_of_moment? hmoment hs
  have hconduct := Session.conduct h.accepts fun e he => (h.suits _ he).2 rfl
  cases ho : t.session.respond m with
  | mk session ledger effects =>
    rw [ho] at hconduct
    cases hconduct with
    | takes r timeout hwake hidle hphase heffects hmoves =>
      cases heffects
      exact h.takes ho hwake hidle hphase hmoves
    | rejects r e hwake hidle hphase heffects hmoves =>
      cases heffects
      exact h.rejects ho hwake hidle hphase hmoves
    | writes r hwake hbusy hphase heffects hmoves =>
      cases heffects
      exact h.writes ho hwake hbusy hphase hmoves
    | breaks r e hwake hbusy hphase heffects hmoves =>
      cases heffects
      exact h.breaks ho hwake hbusy hphase hmoves
    | aside hwake hidle haside => exact h.aside ho hwake hidle haside

theorem transportHere_proceed (t : Task) (m : Moment) :
    (s.proceed react t m).1.client.transportHere = s.client.transportHere :=
  (Client.perform_frame react _ _).2.2

/-! ### Acts that leave the session alone -/

end Scene

namespace Client

variable {κ : Type} {react : κ → Event → Reaction κ} {c c' c'' : Client κ}

/-- Whether a session is never there while the transport is. -/
def IsAlone (c : Client κ) : Prop := c.transportHere = true → c.task = none

/-- Whether the session, and what it is busy with, stayed the same. -/
structure Rests (c c' : Client κ) : Prop where
  queue : c'.queue = c.queue
  flight : c'.flight = c.flight
  isOpen : c'.isOpen = c.isOpen
  alone : c.IsAlone → c'.IsAlone
  phase : ∀ t' ∈ c'.task, ∃ t ∈ c.task, t'.session.phase = t.session.phase

theorem Rests.of_task (htask : c'.task = c.task) (hhere : c'.transportHere = c.transportHere) :
    Rests c c' := by
  refine ⟨?_, ?_, ?_, ?_, ?_⟩
  · unfold Client.queue
    rw [htask]
  · unfold Client.flight
    rw [htask]
  · unfold Client.isOpen
    rw [htask]
  · intro halone
    unfold IsAlone
    rw [htask, hhere]
    exact halone
  · intro t ht
    rw [htask] at ht
    exact ⟨t, ht, rfl⟩

theorem Rests.trans (h : Rests c c') (h' : Rests c' c'') : Rests c c'' where
  queue := h'.queue.trans h.queue
  flight := h'.flight.trans h.flight
  isOpen := h'.isOpen.trans h.isOpen
  alone halone := h'.alone (h.alone halone)
  phase t ht := by
    obtain ⟨t', ht', hphase'⟩ := h'.phase t ht
    obtain ⟨t'', ht'', hphase⟩ := h.phase t' ht'
    exact ⟨t'', ht'', hphase'.trans hphase⟩

theorem rests_release (c : Client κ) : Rests c c.release := by
  unfold release
  split
  · refine ⟨?_, ?_, ?_, ?_, ?_⟩
    · unfold queue
      cases c.task <;> rfl
    · unfold flight
      cases c.task <;> rfl
    · unfold isOpen
      cases c.task <;> rfl
    · intro halone hhere
      change c.task.map Task.signalStop = none
      rw [halone hhere]
      rfl
    · intro t' ht'
      obtain ⟨t, ht, hsignal⟩ := Option.map_eq_some_iff.mp ht'
      exact ⟨t, ht, by rw [← hsignal]; rfl⟩
  · exact .of_task rfl rfl

theorem calls_release (c : Client κ) : c.release.calls = c.calls := by
  unfold release
  split <;> rfl

/-- A session that is over, with nothing in its queue, can be put away. -/
theorem rests_stopped (hover : c.task.all Task.isOver = true) (hqueue : c.queue = []) :
    Rests c c.stopped.1 := by
  have htask : c.stopped.1.task = none := by
    unfold stopped
    dsimp only
    split
    · split <;> rfl
    · rfl
  refine ⟨?_, ?_, ?_, fun _ _ => htask, ?_⟩
  · unfold queue at hqueue ⊢
    rw [htask, hqueue]
    rfl
  · unfold flight
    rw [htask]
    cases ht : c.task with
    | none => rfl
    | some t =>
      rw [ht] at hover
      exact (Phase.request?_of_isOver (by simpa [Task.isOver] using hover)).symm
  · unfold isOpen
    rw [htask]
    cases ht : c.task with
    | none => rfl
    | some t =>
      rw [ht] at hover
      simpa using hover
  · intro t ht
    rw [htask] at ht
    cases ht

theorem calls_stopped (c : Client κ) : c.stopped.1.calls = c.calls := by
  unfold stopped
  dsimp only
  split
  · split <;> rfl
  · rfl

/-- Whether nothing is left in the queue of a session that is over. -/
def IsDrained (c : Client κ) : Prop := c.isOpen = false → c.queue = []

theorem Rests.isDrained (h : Rests c c') (hc : c.IsDrained) : c'.IsDrained := by
  intro hopen
  rw [h.queue]
  exact hc (h.isOpen.symm.trans hopen)

theorem isOpen_of_all_isOver (h : c.task.all Task.isOver = true) : c.isOpen = false := by
  unfold isOpen
  cases ht : c.task with
  | none => rfl
  | some t =>
    rw [ht] at h
    simpa using h

/-- A client starts a session, or stays as it is. -/
theorem start_cases (c : Client κ) : (∃ e, c.start = (c, .error e)) ∨ (c.transportHere = true
    ∧ ∃ client, c.start = (client, .ok ())
      ∧ client.task = some { session := .new c.config c.defaultPort }
      ∧ client.calls = c.calls ∧ client.transportHere = false) := by
  unfold start
  split
  · exact .inl ⟨_, rfl⟩
  · split
    · exact .inl ⟨_, rfl⟩
    · rename_i hhere
      exact .inr ⟨by simpa using hhere, _, rfl, rfl, rfl, rfl⟩

theorem rests_stop (hdrained : c.IsDrained) (ticket : Nat) : Rests c (c.stop ticket).1
    ∧ ((c.stop ticket).1.calls = c.calls
      ∨ (c.stop ticket).1.calls = c.calls ++ [⟨ticket, .stop⟩]) := by
  unfold stop
  split
  · exact ⟨.of_task rfl rfl, .inl rfl⟩
  · dsimp only
    split
    · rename_i hover
      have hempty := (rests_release c).isDrained hdrained (isOpen_of_all_isOver hover)
      exact ⟨(rests_release c).trans (rests_stopped hover hempty),
        .inl ((calls_stopped _).trans (calls_release c))⟩
    · refine ⟨(rests_release c).trans (.of_task rfl rfl), .inr ?_⟩
      rw [← calls_release c]

theorem rests_conclude (hdrained : c.IsDrained) {x : Call} (hready : c.isReady x = true) :
    Rests c (c.conclude x).1
      ∧ (c.conclude x).1.calls = c.calls.filter fun y => y.ticket ≠ x.ticket := by
  obtain ⟨ticket, goal⟩ := x
  have hcancel : Rests c (c.cancel ticket) := .of_task rfl rfl
  cases goal with
  | stop =>
    have hover : (c.cancel ticket).task.all Task.isOver = true := hready
    have hempty := hcancel.isDrained hdrained (isOpen_of_all_isOver hover)
    exact ⟨hcancel.trans (rests_stopped hover hempty), calls_stopped _⟩
  | operation kind packetId answer =>
    cases answer with
    | none => cases hready
    | some result =>
      cases result with
      | ok u => exact ⟨hcancel, rfl⟩
      | error e => exact ⟨.of_task rfl rfl, rfl⟩

/-- A request enters the queue of a session that is not over, or is not taken. -/
theorem offer_cases (c : Client κ) (r : Request) : (∃ e, c.offer r = (c, .error e))
    ∨ ∃ t, c.task = some t ∧ t.isOver = false
      ∧ c.offer r = ({ c with task := some { t with queue := t.queue ++ [r] } }, .ok ()) := by
  unfold offer
  cases ht : c.task with
  | none => exact .inl ⟨_, rfl⟩
  | some t =>
    dsimp only
    split
    · exact .inl ⟨_, rfl⟩
    · rename_i hfull
      rw [Bool.or_eq_true, not_or] at hfull
      exact .inr ⟨t, rfl, Bool.eq_false_iff.mpr hfull.1, rfl⟩

end Client
end Mqtt
