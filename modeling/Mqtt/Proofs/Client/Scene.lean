import Mqtt.Proofs.Session.Conduct
import Mqtt.Proofs.Session.Requests

/-!
A client among callers, in acts that anything else may come between. An operation is issued, its
caller looks for the queue of a session, puts the packet there, and waits; a call that fails forgets
its operation before it returns. What happened is noted in a log.
-/

namespace Mqtt
set_option autoImplicit false

namespace Operation

/-- What is looked at before an operation is issued. -/
def check : Operation → Except Error Unit
  | publish topic _ _ _ => Topic.check topic
  | subscribe filter _ | unsubscribe filter => Topic.checkFilter filter

end Operation

namespace Client

variable {κ : Type} (react : κ → Event → Reaction κ) (c : Client κ)

/-- Makes a call of an operation. -/
def operate (now ticket : Nat) : Operation → Client κ × Option Return
  | .publish topic payload qos retain => c.publish now ticket topic payload qos retain
  | .subscribe filter qos => c.subscribe now ticket filter qos
  | .unsubscribe filter => c.unsubscribe now ticket filter

/-- Puts a packet into the queue of the session, which is at hand. -/
def offer (r : Request) : Client κ × Except Error Unit :=
  match c.task with
  | none => (c, .error .operationChannelSendError)
  | some t =>
    if t.isOver || Task.queueSize ≤ t.queue.length then (c, .error .operationChannelSendError)
    else ({ c with task := some { t with queue := t.queue ++ [r] } }, .ok ())

/-- What the session finds at a signal that it waits for, with the task after it was woken. -/
def moment? (now : Nat) (signal : Signal) : Option (Task × Moment) := do
  let t ← c.task
  let (w, t) ← c.wake? t signal
  if t.session.phase.accepts w then pure (t, ⟨c.ledger, now, t.stopRequested, w⟩) else none

/-- Carries out what the session does at a moment. -/
def carryOut (t : Task) (m : Moment) : Client κ × List (Action κ) :=
  let o := t.session.respond m
  { c with ledger := o.ledger, task := some { t with session := o.session } }.perform react
    o.effects

end Client

/-! ### Acts -/

/-- How far a call has come whose operation is issued and whose packet is not in a queue. -/
inductive Stage where
  | issued
  /-- It holds the queue of the session with this number. -/
  | bound (session : Nat)
  | failed (e : Error)
deriving DecidableEq, Repr

structure Caller where
  request : Request
  stage : Stage
deriving DecidableEq, Repr

/-- An entry of the log. -/
inductive LogEntry where
  /-- A session begins. -/
  | started
  | called (ticket now : Nat) (o : Operation)
  /-- A call fails before its operation is issued. -/
  | refused (ticket : Nat) (e : Error)
  /-- An operation is issued as a request of its caller. -/
  | accepted (r : Request)
  /-- A request enters the queue of the session. -/
  | queued (r : Request)
  /-- The session takes a request from its queue. -/
  | taken (r : Request)
  /-- The transport has written bytes. -/
  | wrote (purpose : Purpose) (bytes : Bytes)
  /-- It is settled what a call comes to. -/
  | answered (ticket : Nat) (result : Except Error Unit)
  /-- The operation of a call that failed is forgotten. -/
  | forgot (ticket : Nat)
  | cancelled (ticket : Nat)
  | returned (ticket : Nat) (result : Except Error UInt16)
  | noted (d : Ledger.Deed)
  | told (e : Event)
deriving DecidableEq, Repr

/-- The result that a call comes back with. -/
def LogEntry.result? : LogEntry → Option (Nat × Except Error UInt16)
  | .refused ticket e => some (ticket, .error e)
  | .returned ticket result => some (ticket, result)
  | _ => none

structure Scene (κ : Type) where
  client : Client κ
  /-- In no particular order. -/
  callers : List Caller := []
  /-- The ticket of the next call. -/
  tickets : Nat := 0
  /-- How many sessions have begun. -/
  sessions : Nat := 0
  /-- What the transport was last asked to write. -/
  outgoing : Bytes := []

inductive Act (κ : Type) where
  | start
  | stop
  /-- Whoever held the client lets go of its session. -/
  | release
  | listen (listeners : Registry κ) (mailboxes : Mailboxes) (nextListener : Nat)
  /-- A call begins, and its operation is issued. -/
  | call (now : Nat) (o : Operation)
  /-- A caller looks for the queue of the session. -/
  | reach (ticket : Nat)
  /-- A caller puts its packet into the queue that it holds. -/
  | offer (ticket : Nat)
  /-- A call that failed before it could wait forgets its operation and returns. -/
  | giveUp (ticket : Nat)
  /-- A call returns that has what it waits for. -/
  | conclude (ticket : Nat)
  /-- A call that waits is given up by its caller. -/
  | cancel (ticket : Nat)
  | session (now : Nat) (signal : Client.Signal)

/-- A session begins, and the broker accepts it at once. -/
def Act.connecting {κ : Type} : List (Act κ) :=
  [.start, .session 0 .run, .session 0 (.connected (.ok ())), .session 0 (.written (.ok ())),
    .session 0 .run, .session 0 (.read (.ok [0x20, 2, 0, 0])), .session 0 .run, .session 0 .run,
    .session 0 .run]

namespace Scene

variable {κ : Type} (react : κ → Event → Reaction κ) (s : Scene κ)

def caller? (ticket : Nat) : Option Caller := s.callers.find? fun x => x.request.ticket = ticket

/-- The callers without the one with a ticket. -/
def others (ticket : Nat) : List Caller := s.callers.eraseP fun x => x.request.ticket = ticket

/-- The scene after a caller has come to a stage. -/
def put (r : Request) (stage : Stage) : Scene κ :=
  { s with callers := ⟨r, stage⟩ :: s.others r.ticket }

def start : Scene κ × List LogEntry :=
  match s.client.start with
  | (client, .ok ()) => ({ s with client, sessions := s.sessions + 1 }, [.started])
  | (client, .error _) => ({ s with client }, [])

def call (now : Nat) (o : Operation) : Scene κ × List LogEntry :=
  let next := { s with tickets := s.tickets + 1 }
  match o.check with
  | .error e => (next, [.called s.tickets now o, .refused s.tickets e])
  | .ok () =>
    match s.client.ledger.begin now o with
    | (ledger, .error e) =>
      ({ next with client := { s.client with ledger } },
        [.called s.tickets now o, .refused s.tickets e])
    | (ledger, .ok out) =>
      let r : Request := ⟨out.bytes, o.kind, out.packetId, s.tickets⟩
      ({ next with client := { s.client with ledger }, callers := ⟨r, .issued⟩ :: s.callers },
        .called s.tickets now o :: .accepted r ::
          (s.client.ledger.deedsOf (.begin now o)).map .noted)

def reach (ticket : Nat) : Scene κ × List LogEntry :=
  match s.caller? ticket with
  | some ⟨r, .issued⟩ =>
    if s.client.holdsTask then (s.put r (.bound s.sessions), [])
    else (s.put r (.failed .notConnected), [.answered r.ticket (.error .notConnected)])
  | _ => (s, [])

def offer (ticket : Nat) : Scene κ × List LogEntry :=
  match s.caller? ticket with
  | some ⟨r, .bound session⟩ =>
    match if session = s.sessions then s.client.offer r
      else (s.client, .error .operationChannelSendError) with
    | (client, .ok ()) =>
      ({ s with
          callers := s.others r.ticket
          client := { client with
            calls := client.calls ++ [⟨r.ticket, .operation r.kind r.packetId none⟩] } },
        [.queued r])
    | (client, .error e) =>
      ({ s with client }.put r (.failed e), [.answered r.ticket (.error e)])
  | _ => (s, [])

def giveUp (ticket : Nat) : Scene κ × List LogEntry :=
  match s.caller? ticket with
  | some ⟨r, .failed e⟩ =>
    ({ s with
        callers := s.others r.ticket
        client := s.client.operationFailed r.kind r.packetId },
      [.forgot r.ticket, .returned r.ticket (.error e)])
  | _ => (s, [])

/-- What is noted of a call that returns. -/
def returning (ticket : Nat) : Return → List LogEntry
  | .done _ => []
  | .issued (.ok packetId) => [.returned ticket (.ok packetId)]
  | .issued (.error e) => [.forgot ticket, .returned ticket (.error e)]

def conclude (ticket : Nat) : Scene κ × List LogEntry :=
  match s.client.calls.find? fun x => x.ticket = ticket with
  | some x =>
    if s.client.isReady x then
      let (client, r) := s.client.conclude x
      ({ s with client }, returning x.ticket r)
    else (s, [])
  | none => (s, [])

def cancel (ticket : Nat) : Scene κ × List LogEntry :=
  if s.client.calls.any fun x => x.ticket = ticket then
    ({ s with client := s.client.cancel ticket }, [.cancelled ticket])
  else (s, [])

/-- Whether a caller holds the queue of the session. -/
def isBound : Bool := s.callers.any fun x => x.stage = .bound s.sessions

/-- Whether a signal cannot come because of the callers. -/
def withholds : Client.Signal → Bool
  | .abandoned => s.isBound
  | _ => false

/-- What is noted of a step before its effects. -/
def beforeEffects (session : Session) (m : Moment) : List LogEntry :=
  match session.phase, m.wake with
  | _, .request r => [.taken r]
  | .writing purpose, .written (.ok ()) => [.wrote purpose s.outgoing]
  | _, _ => []

end Scene

/-- What is noted of an effect. -/
def Effect.entries : Effect → List LogEntry
  | .answer ticket (.ok ()) => [.answered ticket (.ok ())]
  | .answer ticket (.error e) => [.forgot ticket, .answered ticket (.error e)]
  | _ => []

def Effect.bytes? : Effect → Option Bytes
  | .write bytes _ => some bytes
  | _ => none

def Client.Action.entries {κ : Type} : Client.Action κ → List LogEntry
  | .told e _ => [.told e]
  | .transport _ => []

namespace Scene

variable {κ : Type} (react : κ → Event → Reaction κ) (s : Scene κ)

/-- The session does at a moment what it does. -/
def proceed (t : Task) (m : Moment) : Scene κ × List LogEntry :=
  let o := t.session.respond m
  let (client, actions) := s.client.carryOut react t m
  ({ s with client, outgoing := (o.effects.findSome? Effect.bytes?).getD s.outgoing },
    s.beforeEffects t.session m ++ (m.ledger.deeds (t.session.moves m)).map .noted
      ++ o.effects.flatMap Effect.entries ++ actions.flatMap Client.Action.entries)

end Scene

/-- Whether a call waits for an answer. -/
def Call.isWaiting (x : Call) : Bool :=
  match x.goal with
  | .operation _ _ none => true
  | _ => false

namespace Scene

variable {κ : Type} (react : κ → Event → Reaction κ) (s : Scene κ)

/-- The tickets of the calls that wait for an answer. -/
def waiting : List Nat := (s.client.calls.filter Call.isWaiting).map Call.ticket

/-- The end of the session is also that of its queue. -/
def close : Scene κ × List LogEntry :=
  ({ s with client := s.client.closeQueue },
    s.waiting.map fun ticket => .answered ticket (.error .operationChannelReceiveError))

/-- Acts one after the other on a scene. -/
def andThen (r : Scene κ × List LogEntry) (next : Scene κ → Scene κ × List LogEntry) :
    Scene κ × List LogEntry :=
  ((next r.1).1, r.2 ++ (next r.1).2)

def settle : Scene κ × List LogEntry :=
  if s.client.task.all Task.isOver then s.close else (s, [])

def session (now : Nat) (signal : Client.Signal) : Scene κ × List LogEntry :=
  if s.withholds signal then (s, [])
  else
    match s.client.moment? now signal with
    | some (t, m) => andThen (s.proceed react t m) settle
    | none => (s, [])

/-- One act. An act that cannot come about changes nothing. -/
def act : Act κ → Scene κ × List LogEntry
  | .start => s.start
  | .stop =>
    ({ s with client := (s.client.stop s.tickets).1, tickets := s.tickets + 1 }, [])
  | .release => ({ s with client := s.client.release }, [])
  | .listen listeners mailboxes nextListener =>
    ({ s with client := { s.client with listeners, mailboxes, nextListener } }, [])
  | .call now o => s.call now o
  | .reach ticket => s.reach ticket
  | .offer ticket => s.offer ticket
  | .giveUp ticket => s.giveUp ticket
  | .conclude ticket => s.conclude ticket
  | .cancel ticket => s.cancel ticket
  | .session now signal => s.session react now signal

/-- Any acts in any order: where they lead, and the log. -/
def play : Scene κ → List (Act κ) → Scene κ × List LogEntry
  | s, [] => (s, [])
  | s, a :: acts =>
    let (s', log) := s.act react a
    ((play s' acts).1, log ++ (play s' acts).2)

theorem play_append (front back : List (Act κ)) : s.play react (front ++ back) =
    (((s.play react front).1.play react back).1,
      (s.play react front).2 ++ ((s.play react front).1.play react back).2) := by
  induction front generalizing s with
  | nil => rfl
  | cons a front ih => simp only [List.cons_append, play, ih, List.append_assoc]

/-! ### Acts as calls and steps of the client -/

end Scene

namespace Client

variable {κ : Type} (react : κ → Event → Reaction κ) (c : Client κ)

theorem operate_eq (now ticket : Nat) (o : Operation) : c.operate now ticket o =
    match o.check with
    | .ok () => c.issue ticket o.kind fun l => l.begin now o
    | .error e => (c, some (.issued (.error e))) := by
  cases o <;> rfl

theorem enqueue_eq (r : Request) :
    c.enqueue r = if c.holdsTask then c.offer r else (c, .error .notConnected) := by
  unfold enqueue offer
  cases c.holdsTask <;> rfl

theorem step?_eq (now : Nat) (signal : Signal) :
    c.step? react now signal = (c.moment? now signal).map fun (t, m) =>
      let (c, actions) := c.carryOut react t m
      (if c.task.all Task.isOver then c.closeQueue else c, actions) := by
  unfold step? moment?
  cases c.task with
  | none => rfl
  | some t =>
    cases hwake : c.wake? t signal with
    | none => simp [hwake]
    | some r =>
      obtain ⟨w, t⟩ := r
      simp only [Option.bind_eq_bind, Option.bind_some, hwake]
      split <;> rfl

end Client

namespace Scene

variable {κ : Type} {react : κ → Event → Reaction κ} {s : Scene κ} {rest : List Caller}

/-- The session's part in a scene is to take steps. -/
theorem client_session {now : Nat} {signal : Client.Signal} (h : s.withholds signal = false) :
    (s.session react now signal).1.client =
      ((s.client.step? react now signal).map Prod.fst).getD s.client := by
  unfold session
  rw [h, if_neg Bool.false_ne_true, Client.step?_eq]
  cases s.client.moment? now signal with
  | none => rfl
  | some r =>
    obtain ⟨t, m⟩ := r
    unfold andThen proceed settle
    dsimp only [Option.map_some, Option.getD_some]
    split <;> rfl

theorem caller?_cons {r : Request} {stage : Stage} {rest : List Caller}
    (h : s.callers = ⟨r, stage⟩ :: rest) : s.caller? r.ticket = some ⟨r, stage⟩ := by
  unfold caller?
  rw [h]
  simp

theorem others_cons {r : Request} {stage : Stage} {rest : List Caller}
    (h : s.callers = ⟨r, stage⟩ :: rest) : s.others r.ticket = rest := by
  unfold others
  rw [h]
  simp

theorem caller?_eq_none {ticket : Nat} (h : ∀ x ∈ s.callers, x.request.ticket ≠ ticket) :
    s.caller? ticket = none := by
  unfold caller?
  rw [List.find?_eq_none]
  intro x hx
  simpa using h x hx

theorem play_of_no_caller {ticket : Nat} (h : s.caller? ticket = none) :
    s.play react [.reach ticket, .offer ticket, .giveUp ticket] = (s, []) := by
  have hreach : s.reach ticket = (s, []) := by simp only [reach, h]
  have hoffer : s.offer ticket = (s, []) := by simp only [offer, h]
  have hgiveUp : s.giveUp ticket = (s, []) := by simp only [giveUp, h]
  simp only [play, act, hreach, hoffer, hgiveUp, List.append_nil]

theorem callers_put {r : Request} {stage : Stage} (h : s.callers = ⟨r, stage⟩ :: rest)
    (stage' : Stage) : (s.put r stage').callers = ⟨r, stage'⟩ :: rest := by
  unfold put
  dsimp only
  rw [others_cons h]

/-- The acts of a call whose operation is issued, with nothing in between. -/
theorem play_caller {r : Request} (h : s.callers = ⟨r, .issued⟩ :: rest)
    (hfresh : ∀ x ∈ rest, x.request.ticket ≠ r.ticket) :
    let run := s.play react [.reach r.ticket, .offer r.ticket, .giveUp r.ticket]
    let submitted := s.client.submit r.ticket r.kind ⟨r.packet, r.packetId⟩
    run.1.client = submitted.1 ∧ run.1.callers = rest
      ∧ ∀ result, (r.ticket, result) ∈ run.2.filterMap LogEntry.result? ↔
        submitted.2 = some (.issued result) := by
  intro run submitted
  have hcaller := caller?_cons h
  have hsubmitted : submitted = s.client.submit r.ticket r.kind ⟨r.packet, r.packetId⟩ := rfl
  have hrun : run = s.play react [.reach r.ticket, .offer r.ticket, .giveUp r.ticket] := rfl
  unfold Client.submit at hsubmitted
  rw [Client.enqueue_eq] at hsubmitted
  -- The call ends where it does not reach a session, where the session has no room, or queued.
  cases hholds : s.client.holdsTask with
  | false =>
    have hreach : s.reach r.ticket = (s.put r (.failed .notConnected),
        [.answered r.ticket (.error .notConnected)]) := by
      simp only [reach, hcaller, hholds, Bool.false_eq_true, if_false]
    have hput := callers_put h (.failed .notConnected)
    have hoffer : (s.put r (.failed .notConnected)).offer r.ticket =
        (s.put r (.failed .notConnected), []) := by
      simp only [offer, caller?_cons hput]
    rw [hholds] at hsubmitted
    simp only [play, act, hreach, hoffer, giveUp, caller?_cons hput, others_cons hput] at hrun
    rw [hrun, hsubmitted]
    refine ⟨rfl, rfl, fun result => ?_⟩
    simp [LogEntry.result?, eq_comm]
  | true =>
    have hreach : s.reach r.ticket = (s.put r (.bound s.sessions), []) := by
      simp only [reach, hcaller, hholds, if_true]
    have hput := callers_put h (.bound s.sessions)
    rw [hholds] at hsubmitted
    dsimp only at hsubmitted
    rw [if_pos rfl] at hsubmitted
    cases hoffered : s.client.offer r with
    | mk client result =>
      rw [show s.client.offer ⟨r.packet, r.kind, r.packetId, r.ticket⟩ = (client, result) from
        hoffered] at hsubmitted
      cases result with
      | ok u =>
        let queued : Scene κ := { s.put r (.bound s.sessions) with
          callers := rest
          client := { client with
            calls := client.calls ++ [⟨r.ticket, .operation r.kind r.packetId none⟩] } }
        have hoffer : (s.put r (.bound s.sessions)).offer r.ticket = (queued, [.queued r]) := by
          simp only [offer, caller?_cons hput, others_cons hput]
          simp only [put, if_true, hoffered, queued]
        have hgiveUp : queued.giveUp r.ticket = (queued, []) := by
          simp only [giveUp, caller?_eq_none (s := queued) hfresh]
        simp only [play, act, hreach, hoffer, hgiveUp] at hrun
        rw [hrun, hsubmitted]
        refine ⟨rfl, rfl, fun result => ?_⟩
        simp [LogEntry.result?]
      | error e =>
        let failed : Scene κ := { s.put r (.bound s.sessions) with client }.put r (.failed e)
        have hoffer : (s.put r (.bound s.sessions)).offer r.ticket =
            (failed, [.answered r.ticket (.error e)]) := by
          simp only [offer, caller?_cons hput]
          simp only [put, if_true, hoffered, failed]
        have hfailed : failed.callers = ⟨r, .failed e⟩ :: rest :=
          callers_put (s := { s.put r (.bound s.sessions) with client }) hput (.failed e)
        simp only [play, act, hreach, hoffer, giveUp, caller?_cons hfailed, others_cons hfailed]
          at hrun
        rw [hrun, hsubmitted]
        refine ⟨rfl, rfl, fun result => ?_⟩
        simp [LogEntry.result?, eq_comm]

/-- A call that nothing comes between is a call of the client. -/
theorem play_call {now : Nat} {o : Operation}
    (hfresh : ∀ x ∈ s.callers, x.request.ticket ≠ s.tickets) :
    let run := s.play react [.call now o, .reach s.tickets, .offer s.tickets, .giveUp s.tickets]
    let called := s.client.operate now s.tickets o
    run.1.client = called.1 ∧ run.1.callers = s.callers
      ∧ ∀ result, (s.tickets, result) ∈ run.2.filterMap LogEntry.result? ↔
        called.2 = some (.issued result) := by
  intro run called
  -- A call that is refused leaves no caller, so the acts behind it do nothing.
  have hrun : run = (((s.call now o).1.play react _).1,
    ((s.call now o).2 ++ []) ++ ((s.call now o).1.play react _).2) := play_append react s [_] _
  rw [List.append_nil] at hrun
  have hcalled : called = s.client.operate now s.tickets o := rfl
  rw [Client.operate_eq] at hcalled
  unfold call at hrun
  cases hcheck : o.check with
  | error e =>
    rw [hcheck] at hrun hcalled
    dsimp only at hrun
    have hnone := caller?_eq_none (s := { s with tickets := s.tickets + 1 }) hfresh
    rw [play_of_no_caller hnone] at hrun
    rw [hrun, hcalled]
    refine ⟨rfl, rfl, fun result => ?_⟩
    simp [LogEntry.result?, eq_comm]
  | ok u =>
    rw [hcheck] at hrun hcalled
    unfold Client.issue at hcalled
    dsimp only at hcalled
    cases hbegin : s.client.ledger.begin now o with
    | mk ledger result =>
      rw [hbegin] at hrun hcalled
      cases result with
      | error e =>
        dsimp only at hrun
        rw [play_of_no_caller (caller?_eq_none (s := { s with
          tickets := s.tickets + 1, client := { s.client with ledger } }) hfresh)] at hrun
        rw [hrun, hcalled]
        refine ⟨rfl, rfl, fun result => ?_⟩
        simp [LogEntry.result?, eq_comm]
      | ok out =>
        dsimp only at hrun hcalled
        rw [hrun, hcalled]
        have hcaller := @play_caller κ react { s with
          tickets := s.tickets + 1, client := { s.client with ledger }
          callers := ⟨⟨out.bytes, o.kind, out.packetId, s.tickets⟩, .issued⟩ :: s.callers }
          _ _ rfl hfresh
        obtain ⟨hclient, hcallers, hreturned⟩ := hcaller
        refine ⟨hclient, hcallers, fun result => ?_⟩
        have hnoted : (LogEntry.called s.tickets now o ::
            .accepted ⟨out.bytes, o.kind, out.packetId, s.tickets⟩ ::
              (s.client.ledger.deedsOf (.begin now o)).map .noted).filterMap LogEntry.result? =
                [] := by
          simp [LogEntry.result?]
        rw [← hreturned, List.filterMap_append, hnoted]
        rfl

end Scene
end Mqtt
