import Mqtt.Proofs.Client.Connections

/-!
A connection and those before it. What a session keeps of a connection that has ended (a decoder in
the middle of a packet or in an error, received items, the time of the last ping, the error that was
told) makes no difference to anything that comes after the next attempt has begun, and neither do
the two variables that a session overwrites before it reads them: the buffer that the transport
reads into, and what the broker last said of a session that it remembers.
-/

namespace Mqtt
set_option autoImplicit false

/-! ### What a session overwrites before it reads it -/

structure Registers where
  /-- What the broker last said of a session that it remembers. -/
  sessionPresent : Bool
  /-- Where the transport puts the bytes that it reads. -/
  buffer : Bytes

namespace Registers

/-- The transport puts bytes at the front of the buffer, and what lies behind them stays. -/
def fill (g : Registers) (bytes : Bytes) : Registers :=
  { g with buffer := bytes ++ g.buffer.drop bytes.length }

/-- The registers as a session writes them at a moment, before it goes on. -/
def write (g : Registers) (s : Session) (m : Moment) : Registers :=
  match s.phase, m.wake with
  | .opening, .run => if m.stopRequested then g else { g with sessionPresent := false }
  | .greeting _, .run =>
    match s.items with
    | .packet (.connack sessionPresent .accepted) :: _ => { g with sessionPresent }
    | _ => g
  | .awaitingAnswer _, .read (.ok bytes) | .listening, .read (.ok bytes) => g.fill bytes
  | _, _ => g

end Registers

namespace Session

/-- What a session's step comes to when it decodes what lies in the buffer, and tells what the
register says of the broker's answer. -/
def respondFrom (s : Session) (g : Registers) (m : Moment) : Outcome :=
  match s.phase, m.wake with
  | .greeting _, .run =>
    match s.items with
    | .packet (.connack _ .accepted) :: rest =>
      { s with items := rest }.enter m.ledger m.now g.sessionPresent
    | _ => s.respond m
  | .awaitingAnswer deadline, .read (.ok bytes) =>
    s.receive m.ledger (.greeting deadline) (.ok (g.buffer.take bytes.length))
  | .listening, .read (.ok bytes) =>
    s.receive m.ledger .serving (.ok (g.buffer.take bytes.length))
  | _, _ => s.respond m

theorem respondFrom_write (s : Session) (g : Registers) (m : Moment) :
    s.respondFrom (g.write s m) m = s.respond m := by
  obtain ⟨config, port, phase, decoder, items, lastPing, lastError⟩ := s
  obtain ⟨l, now, stopRequested, wake⟩ := m
  have hfill : ∀ bytes : Bytes, (g.fill bytes).buffer.take bytes.length = bytes :=
    fun bytes => List.take_left
  cases phase with
  | greeting deadline =>
    cases wake with
    | run =>
      unfold respondFrom
      dsimp only
      split
      · rfl
      · rfl
    | _ => rfl
  | awaitingAnswer deadline =>
    cases wake with
    | read result =>
      cases result with
      | error e => rfl
      | ok bytes =>
        unfold respondFrom Registers.write
        dsimp only
        rw [hfill]
        rfl
    | _ => rfl
  | listening =>
    cases wake with
    | read result =>
      cases result with
      | error e => rfl
      | ok bytes =>
        unfold respondFrom Registers.write
        dsimp only
        rw [hfill]
        rfl
    | _ => rfl
  | _ => rfl

end Session

/-! ### What is to be seen of an act -/

structure Sight (κ : Type) where
  log : List LogEntry
  /-- What the session asks of the transport, and who is told of what. -/
  actions : List (Client.Action κ)
  /-- What a call returns whose end the act is. -/
  reply : Option Return
  /-- The state and what is tracked, after the act. -/
  ledger : Ledger

namespace Scene

variable {κ : Type} (react : κ → Event → Reaction κ) (s : Scene κ)

def actions : Act κ → List (Client.Action κ)
  | .session now signal =>
    if s.withholds signal then [] else ((s.client.step? react now signal).map Prod.snd).getD []
  | _ => []

/-- What a call returns whose end an act is, when the call is not one that is noted in the log. -/
def reply : Act κ → Option Return
  | .start => some (.done s.client.start.2)
  | .stop => (s.client.stop s.tickets).2
  | .conclude ticket =>
    (s.client.calls.find? fun x => x.ticket = ticket).bind fun x =>
      if s.client.isReady x then some (s.client.conclude x).2 else none
  | _ => none

def sight (a : Act κ) : Sight κ :=
  ⟨(s.act react a).2, s.actions react a, s.reply a, (s.act react a).1.client.ledger⟩

end Scene

/-! ### A scene with the registers of its session -/

structure Runtime (κ : Type) where
  scene : Scene κ
  registers : Registers

namespace Runtime

variable {κ : Type} (react : κ → Event → Reaction κ) (r : Runtime κ)

/-- The session writes its registers at a moment, and does what they make it do. -/
def proceed (t : Task) (m : Moment) : Runtime κ × List LogEntry × List (Client.Action κ) :=
  let registers := r.registers.write t.session m
  let o := t.session.respondFrom registers m
  let (client, actions) := { r.scene.client with
    ledger := o.ledger, task := some { t with session := o.session } }.perform react o.effects
  (⟨{ r.scene with
        client, outgoing := (o.effects.findSome? Effect.bytes?).getD r.scene.outgoing }, registers⟩,
    r.scene.beforeEffects t.session m ++ (m.ledger.deeds (t.session.moves m)).map .noted
      ++ o.effects.flatMap Effect.entries ++ actions.flatMap Client.Action.entries,
    actions)

def session (now : Nat) (signal : Client.Signal) : Runtime κ × Sight κ :=
  if r.scene.withholds signal then (r, ⟨[], [], none, r.scene.client.ledger⟩)
  else
    match r.scene.client.moment? now signal with
    | some (t, m) =>
      let (r, log, actions) := r.proceed react t m
      let (scene, closing) := r.scene.settle
      ({ r with scene }, ⟨log ++ closing, actions, none, scene.client.ledger⟩)
    | none => (r, ⟨[], [], none, r.scene.client.ledger⟩)

def act : Act κ → Runtime κ × Sight κ
  | .session now signal => r.session react now signal
  | a => ({ r with scene := (r.scene.act react a).1 }, r.scene.sight react a)

/-- So many acts, each chosen by what was to be seen before it. -/
def watch (world : List (Sight κ) → Act κ) : Nat → Runtime κ × List (Sight κ)
  | 0 => (r, [])
  | n + 1 =>
    let (r, seen) := watch world n
    let (r, sight) := r.act react (world seen)
    (r, seen ++ [sight])

/-- The registers of a session make no difference to what it does. -/
theorem act_eq (a : Act κ) : ∃ registers,
    r.act react a = (⟨(r.scene.act react a).1, registers⟩, r.scene.sight react a) := by
  obtain ⟨s, g⟩ := r
  cases a with
  | session now signal =>
    unfold act session Scene.sight Scene.act Scene.session Scene.actions Scene.reply
    dsimp only
    split
    · exact ⟨g, rfl⟩
    · rw [Client.step?_eq]
      cases s.client.moment? now signal with
      | none => exact ⟨g, rfl⟩
      | some x =>
        obtain ⟨t, m⟩ := x
        refine ⟨g.write t.session m, ?_⟩
        unfold proceed
        dsimp only
        rw [t.session.respondFrom_write]
        rfl
  | _ => exact ⟨g, rfl⟩

end Runtime

/-! ### What still matters of a session -/

namespace Session

/-- The session without what it will not look at again. While no connection is wanted that is all
that connections leave, and the time of the last ping until the broker has accepted. -/
def essence (s : Session) : Session :=
  match s.phase with
  | .opening | .leaving _ | .finished | .crashed =>
    { s with decoder := s.decoder.reset, items := [], lastPing := 0, lastError := none }
  | .serving | .handling | .listening | .writing (.request _) | .writing .ping
  | .writing (.response _) => s
  | _ => { s with lastPing := 0 }

theorem phase_essence (s : Session) : s.essence.phase = s.phase := by
  unfold essence
  split <;> rfl

theorem essence_essence (s : Session) : s.essence.essence = s.essence := by
  obtain ⟨config, port, phase, decoder, items, lastPing, lastError⟩ := s
  cases phase with
  | writing purpose => cases purpose <;> rfl
  | _ => rfl

def Outcome.essence (o : Outcome) : Outcome := { o with session := o.session.essence }

/-- A step depends on what matters of the session, and leads to what matters of the next one. -/
theorem essence_respond (s : Session) (m : Moment) :
    (s.essence.respond m).essence = (s.respond m).essence := by
  obtain ⟨config, port, phase, decoder, items, lastPing, lastError⟩ := s
  obtain ⟨l, now, stopRequested, wake⟩ := m
  -- A phase keeps in its essence what a step from it reads, so each step is made alike.
  cases phase with
  | opening =>
    cases wake with
    | run => cases stopRequested <;> rfl
    | _ => rfl
  | connecting =>
    cases wake with
    | connected result =>
      cases result with
      | error e => rfl
      | ok u =>
        unfold essence respond step send encode
        dsimp only
        split <;> rfl
    | _ => rfl
  | writing purpose =>
    cases purpose with
    | greeting | farewell =>
      cases wake with
      | written result => cases result <;> rfl
      | _ => rfl
    | _ => rfl
  | greeting deadline =>
    cases wake with
    | run =>
      unfold essence respond step greet
      dsimp only
      split
      · split <;> rfl
      · rfl
      · split <;> rfl
    | _ => rfl
  | awaitingAnswer deadline =>
    cases wake with
    | read result =>
      unfold essence respond step receive
      dsimp only
      split
      · rfl
      · rfl
      · split <;> rfl
    | _ => rfl
  | retrying =>
    cases wake with
    | run =>
      unfold essence respond step
      dsimp only
      split <;> rfl
    | _ => rfl
  | pausing deadline =>
    cases wake with
    | run =>
      unfold essence respond step
      dsimp only
      split
      · rfl
      · split <;> rfl
    | _ => rfl
  | failing | sleeping _ | leaving _ => cases wake <;> rfl
  | serving | handling | listening | finished | crashed => rfl

theorem moves_essence (s : Session) (m : Moment) : s.essence.moves m = s.moves m := by
  obtain ⟨config, port, phase, decoder, items, lastPing, lastError⟩ := s
  obtain ⟨l, now, stopRequested, wake⟩ := m
  cases phase with
  | writing purpose => cases purpose <;> rfl
  | leaving final => cases wake <;> rfl
  | _ => rfl

end Session

namespace Client

variable {κ : Type} (react : κ → Event → Reaction κ) (c : Client κ)

def essence : Client κ :=
  { c with task := c.task.map fun t => { t with session := t.session.essence } }

theorem essence_essence : c.essence.essence = c.essence := by
  unfold essence
  cases c.task with
  | none => rfl
  | some t => simp [t.session.essence_essence]

theorem isOver_essence : c.essence.task.all Task.isOver = c.task.all Task.isOver := by
  unfold essence
  cases c.task with
  | none => rfl
  | some t => exact congrArg Phase.isOver t.session.phase_essence

theorem essence_crash : c.essence.crash.essence = c.crash.essence := by
  obtain ⟨_, _, _, _, _, _, _, _, task, _⟩ := c
  cases task with
  | none => rfl
  | some t =>
    obtain ⟨⟨config, port, phase, decoder, items, lastPing, lastError⟩, queue, _, _⟩ := t
    cases phase with
    | writing purpose => cases purpose <;> rfl
    | _ => rfl

theorem essence_closeQueue : c.essence.closeQueue = c.closeQueue.essence := by
  unfold closeQueue essence
  cases c.task <;> rfl

theorem essence_release : c.essence.release = c.release.essence := by
  obtain ⟨_, _, _, _, _, _, _, holdsTask, task, _⟩ := c
  cases holdsTask <;> cases task <;> rfl

theorem essence_stopped : c.essence.stopped = (c.stopped.1.essence, c.stopped.2) := by
  obtain ⟨_, _, _, _, _, _, _, _, task, _⟩ := c
  cases task with
  | none => rfl
  | some t =>
    unfold stopped essence
    dsimp only [Option.map_some]
    rw [t.session.phase_essence]
    split <;> rfl

theorem essence_stop (ticket : Nat) :
    c.essence.stop ticket = ((c.stop ticket).1.essence, (c.stop ticket).2) := by
  have hholds : c.essence.holdsTask = c.holdsTask := rfl
  unfold stop
  rw [hholds, essence_release]
  dsimp only
  rw [isOver_essence, essence_stopped]
  split
  · rfl
  · split <;> rfl

theorem essence_start : c.essence.start = (c.start.1.essence, c.start.2) := by
  obtain ⟨_, _, _, _, _, _, _, _, task, _⟩ := c
  unfold start essence state
  dsimp only
  split
  · rfl
  · split <;> rfl

theorem essence_offer (r : Request) :
    c.essence.offer r = ((c.offer r).1.essence, (c.offer r).2) := by
  obtain ⟨_, _, _, _, _, _, _, _, task, _⟩ := c
  cases task with
  | none => rfl
  | some t =>
    unfold offer essence Task.isOver
    dsimp only [Option.map_some]
    rw [t.session.phase_essence]
    split <;> rfl

theorem essence_conclude (x : Call) :
    c.essence.conclude x = ((c.conclude x).1.essence, (c.conclude x).2) := by
  obtain ⟨ticket, goal⟩ := x
  have hcancel : c.essence.cancel ticket = (c.cancel ticket).essence := rfl
  cases goal with
  | stop =>
    unfold conclude
    dsimp only
    rw [hcancel, essence_stopped]
  | operation kind packetId answer =>
    cases answer with
    | none => rfl
    | some result => cases result <;> rfl

theorem isReady_essence (x : Call) : c.essence.isReady x = c.isReady x := by
  unfold isReady
  rw [isOver_essence]

theorem essence_perform (effects : List Effect) :
    (c.essence.perform react effects).1.essence = (c.perform react effects).1.essence
      ∧ (c.essence.perform react effects).2 = (c.perform react effects).2 := by
  induction effects generalizing c with
  | nil => exact ⟨essence_essence c, rfl⟩
  | cons x rest ih =>
    cases x with
    | tell e =>
      let t := c.listeners.broadcast react e
      let told : Client κ :=
        { c with listeners := t.registry, mailboxes := c.mailboxes.sendAll t.told e }
      obtain ⟨hclient, hactions⟩ := ih told
      have hlisteners : c.essence.listeners = c.listeners := rfl
      unfold perform
      rw [hlisteners]
      dsimp only
      split
      · exact ⟨essence_crash told, rfl⟩
      · exact ⟨hclient, congrArg (Action.told e t.told :: ·) hactions⟩
    | answer ticket result => exact ih (c.answer ticket result)
    | connect host port timeout =>
      exact ⟨(ih c).1, congrArg (Action.transport (.connect host port timeout) :: ·) (ih c).2⟩
    | write bytes timeout =>
      exact ⟨(ih c).1, congrArg (Action.transport (.write bytes timeout) :: ·) (ih c).2⟩
    | read timeout =>
      exact ⟨(ih c).1, congrArg (Action.transport (.read timeout) :: ·) (ih c).2⟩
    | close => exact ⟨(ih c).1, congrArg (Action.transport .close :: ·) (ih c).2⟩

theorem perform_of_essence {c c' : Client κ} (h : c'.essence = c.essence)
    (effects : List Effect) :
    (c'.perform react effects).1.essence = (c.perform react effects).1.essence
      ∧ (c'.perform react effects).2 = (c.perform react effects).2 := by
  obtain ⟨hclient, hactions⟩ := essence_perform react c effects
  obtain ⟨hclient', hactions'⟩ := essence_perform react c' effects
  rw [← hclient, ← hactions, ← hclient', ← hactions', h]
  exact ⟨rfl, rfl⟩

theorem wake?_essence (t : Task) (signal : Signal) :
    c.essence.wake? { t with session := t.session.essence } signal =
      (c.wake? t signal).map fun (w, t) => (w, { t with session := t.session.essence }) := by
  have hreachable : c.essence.isReachable = c.isReachable := rfl
  unfold wake?
  cases signal with
  | stop =>
    dsimp only
    split <;> rfl
  | request =>
    dsimp only
    split <;> rfl
  | abandoned =>
    rw [hreachable]
    dsimp only
    split <;> rfl
  | _ => rfl

theorem moment?_essence (now : Nat) (signal : Signal) : c.essence.moment? now signal =
    (c.moment? now signal).map fun (t, m) => ({ t with session := t.session.essence }, m) := by
  cases htask : c.task with
  | none =>
    have hnone : c.essence.task = none := by simp [essence, htask]
    simp [moment?, htask, hnone]
  | some t =>
    have hsome : c.essence.task = some { t with session := t.session.essence } := by
      simp [essence, htask]
    cases hwake : c.wake? t signal with
    | none => simp [moment?, htask, hsome, wake?_essence, hwake]
    | some r =>
      obtain ⟨w, t'⟩ := r
      simp only [moment?, htask, hsome, wake?_essence, hwake, Option.bind_eq_bind, Option.bind_some,
        Option.map_some, t'.session.phase_essence]
      split <;> rfl

end Client

namespace Scene

variable {κ : Type} (react : κ → Event → Reaction κ) (s : Scene κ)

def essence : Scene κ := { s with client := s.client.essence }

theorem essence_essence : s.essence.essence = s.essence :=
  congrArg (fun client => { s with client }) s.client.essence_essence

theorem essence_call (now : Nat) (o : Operation) :
    s.essence.call now o = ((s.call now o).1.essence, (s.call now o).2) := by
  have hledger : s.essence.client.ledger = s.client.ledger := rfl
  unfold call
  rw [hledger]
  cases o.check with
  | error e => rfl
  | ok u =>
    dsimp only
    split <;> rfl

theorem essence_reach (ticket : Nat) :
    s.essence.reach ticket = ((s.reach ticket).1.essence, (s.reach ticket).2) := by
  have hcaller : s.essence.caller? ticket = s.caller? ticket := rfl
  have hholds : s.essence.client.holdsTask = s.client.holdsTask := rfl
  unfold reach
  rw [hcaller, hholds]
  split
  · split <;> rfl
  · rfl

theorem essence_offer (ticket : Nat) :
    s.essence.offer ticket = ((s.offer ticket).1.essence, (s.offer ticket).2) := by
  have hcaller : s.essence.caller? ticket = s.caller? ticket := rfl
  have hsessions : s.essence.sessions = s.sessions := rfl
  have hclient : s.essence.client = s.client.essence := rfl
  unfold offer
  rw [hcaller, hsessions, hclient]
  split
  · rename_i r session _
    by_cases hsession : session = s.sessions
    · rw [if_pos hsession, if_pos hsession, Client.essence_offer]
      cases s.client.offer r with
      | mk client result => cases result <;> rfl
    · rw [if_neg hsession, if_neg hsession]
      rfl
  · rfl

theorem essence_giveUp (ticket : Nat) :
    s.essence.giveUp ticket = ((s.giveUp ticket).1.essence, (s.giveUp ticket).2) := by
  have hcaller : s.essence.caller? ticket = s.caller? ticket := rfl
  unfold giveUp
  rw [hcaller]
  split <;> rfl

theorem essence_conclude (ticket : Nat) :
    s.essence.conclude ticket = ((s.conclude ticket).1.essence, (s.conclude ticket).2) := by
  have hclient : s.essence.client = s.client.essence := rfl
  have hcalls : s.essence.client.calls = s.client.calls := rfl
  unfold conclude
  rw [hcalls, hclient]
  split
  · rw [Client.isReady_essence, Client.essence_conclude]
    split <;> rfl
  · rfl

theorem essence_cancel (ticket : Nat) :
    s.essence.cancel ticket = ((s.cancel ticket).1.essence, (s.cancel ticket).2) := by
  have hcalls : s.essence.client.calls = s.client.calls := rfl
  unfold cancel
  rw [hcalls]
  split <;> rfl

theorem essence_settle : s.essence.settle = (s.settle.1.essence, s.settle.2) := by
  have hclose : s.essence.close = (s.close.1.essence, s.close.2) := by
    have hclient : s.essence.client = s.client.essence := rfl
    unfold close
    rw [hclient, Client.essence_closeQueue]
    rfl
  have hover : s.essence.client.task.all Task.isOver = s.client.task.all Task.isOver :=
    s.client.isOver_essence
  unfold settle
  rw [hover, hclose]
  split <;> rfl

theorem settle_of_essence {s' : Scene κ} (h : s'.essence = s.essence) :
    s'.settle.1.essence = s.settle.1.essence ∧ s'.settle.2 = s.settle.2 := by
  have hsettle := congrArg settle h
  rw [essence_settle, essence_settle] at hsettle
  exact Prod.mk.inj hsettle

theorem essence_proceed (t : Task) (m : Moment) :
    let essential := { t with session := t.session.essence }
    (s.essence.proceed react essential m).1.essence = (s.proceed react t m).1.essence
      ∧ (s.essence.proceed react essential m).2 = (s.proceed react t m).2
      ∧ (s.client.essence.carryOut react essential m).2 = (s.client.carryOut react t m).2 := by
  intro essential
  obtain ⟨hsession, hledger, heffects⟩ := Session.Outcome.mk.inj (t.session.essence_respond m)
  have hbefore : s.essence.beforeEffects essential.session m =
      s.beforeEffects t.session m := by
    unfold beforeEffects
    rw [t.session.phase_essence]
    rfl
  have hcarried : (s.client.essence.carryOut react essential m).1.essence =
        (s.client.carryOut react t m).1.essence
      ∧ (s.client.essence.carryOut react essential m).2 = (s.client.carryOut react t m).2 := by
    unfold Client.carryOut
    dsimp only [essential]
    rw [hledger, heffects]
    apply Client.perform_of_essence
    simp [Client.essence, hsession]
  have hscene : (s.essence.proceed react essential m).1 = { s with
      client := (s.client.essence.carryOut react essential m).1
      outgoing := ((t.session.respond m).effects.findSome? Effect.bytes?).getD s.outgoing } := by
    rw [← heffects]
    rfl
  refine ⟨?_, ?_, hcarried.2⟩
  · rw [hscene]
    unfold essence
    dsimp only
    rw [hcarried.1]
    rfl
  · unfold proceed
    dsimp only [essential] at hbefore ⊢
    rw [hbefore, t.session.moves_essence, heffects]
    dsimp only [essential] at hcarried
    rw [show s.essence.client = s.client.essence from rfl, hcarried.2]

theorem essence_session (now : Nat) (signal : Client.Signal) :
    (s.essence.session react now signal).1.essence = (s.session react now signal).1.essence
      ∧ (s.essence.session react now signal).2 = (s.session react now signal).2
      ∧ s.essence.actions react (.session now signal) = s.actions react (.session now signal) := by
  have hclient : s.essence.client = s.client.essence := rfl
  have hwithholds : s.essence.withholds signal = s.withholds signal := rfl
  unfold session actions
  dsimp only
  rw [hwithholds, Client.step?_eq, Client.step?_eq, hclient, Client.moment?_essence]
  split
  · exact ⟨s.essence_essence, rfl, rfl⟩
  · cases s.client.moment? now signal with
    | none => exact ⟨s.essence_essence, rfl, rfl⟩
    | some r =>
      obtain ⟨t, m⟩ := r
      obtain ⟨hscene, hlog, hactions⟩ := essence_proceed react s t m
      obtain ⟨hsettled, hclosing⟩ := settle_of_essence _ hscene
      refine ⟨hsettled, ?_, ?_⟩
      · unfold andThen
        dsimp only [Option.map_some]
        rw [hlog, hclosing]
      · dsimp only [Option.map_some, Option.getD_some]
        rw [hactions]

theorem essence_start : s.essence.start = (s.start.1.essence, s.start.2) := by
  have hclient : s.essence.client = s.client.essence := rfl
  unfold start
  rw [hclient, Client.essence_start]
  cases s.client.start with
  | mk client result => cases result <;> rfl

theorem reply_essence (a : Act κ) : s.essence.reply a = s.reply a := by
  have hclient : s.essence.client = s.client.essence := rfl
  have hcalls : s.client.essence.calls = s.client.calls := rfl
  have htickets : s.essence.tickets = s.tickets := rfl
  unfold reply
  rw [hclient, htickets]
  cases a with
  | start => rw [Client.essence_start]
  | stop => rw [Client.essence_stop]
  | conclude ticket =>
    simp only [hcalls, Client.isReady_essence, Client.essence_conclude]
  | _ => rfl

/-- An act that is not the session's does not touch what may or may not matter of it. -/
theorem essence_act_of_aside {a : Act κ} (h : ∀ now signal, a ≠ .session now signal) :
    s.essence.act react a = ((s.act react a).1.essence, (s.act react a).2)
      ∧ s.essence.actions react a = s.actions react a := by
  have hclient : s.essence.client = s.client.essence := rfl
  have htickets : s.essence.tickets = s.tickets := rfl
  unfold act actions
  cases a with
  | start => exact ⟨s.essence_start, rfl⟩
  | stop =>
    dsimp only
    rw [hclient, htickets, Client.essence_stop]
    exact ⟨rfl, rfl⟩
  | release =>
    dsimp only
    rw [hclient, Client.essence_release]
    exact ⟨rfl, rfl⟩
  | listen listeners mailboxes nextListener => exact ⟨rfl, rfl⟩
  | call now o => exact ⟨s.essence_call now o, rfl⟩
  | reach ticket => exact ⟨s.essence_reach ticket, rfl⟩
  | offer ticket => exact ⟨s.essence_offer ticket, rfl⟩
  | giveUp ticket => exact ⟨s.essence_giveUp ticket, rfl⟩
  | conclude ticket => exact ⟨s.essence_conclude ticket, rfl⟩
  | cancel ticket => exact ⟨s.essence_cancel ticket, rfl⟩
  | session now signal => exact absurd rfl (h now signal)

/-- What is to be seen of an act depends on what matters of the session, and so does what matters of
it after the act. -/
theorem essence_act (a : Act κ) :
    (s.essence.act react a).1.essence = (s.act react a).1.essence
      ∧ s.essence.sight react a = s.sight react a := by
  have hact : (s.essence.act react a).1.essence = (s.act react a).1.essence
      ∧ (s.essence.act react a).2 = (s.act react a).2
      ∧ s.essence.actions react a = s.actions react a := by
    by_cases hsession : ∃ now signal, a = .session now signal
    · obtain ⟨now, signal, rfl⟩ := hsession
      exact essence_session react s now signal
    · obtain ⟨hact, hactions⟩ := essence_act_of_aside react s
        fun now signal heq => hsession ⟨now, signal, heq⟩
      rw [hact]
      exact ⟨essence_essence _, rfl, hactions⟩
  obtain ⟨hscene, hlog, hactions⟩ := hact
  refine ⟨hscene, ?_⟩
  unfold sight
  rw [hlog, hactions, reply_essence]
  have hledger := congrArg (fun s => s.client.ledger) hscene
  exact congrArg _ hledger

end Scene

namespace Runtime

variable {κ : Type} {react : κ → Event → Reaction κ} {r r' : Runtime κ}

/-- Scenes that agree on what matters of their sessions show the same for any number of acts. -/
theorem watch_of_essence (world : List (Sight κ) → Act κ)
    (h : r'.scene.essence = r.scene.essence) (n : Nat) :
    (r'.watch react world n).1.scene.essence = (r.watch react world n).1.scene.essence
      ∧ (r'.watch react world n).2 = (r.watch react world n).2 := by
  induction n with
  | zero => exact ⟨h, rfl⟩
  | succ n ih =>
    -- What was seen so far is the same, so the world chooses the same act.
    obtain ⟨hscene, hseen⟩ := ih
    have hact (past : Runtime κ) (a : Act κ) :
        (past.act react a).1.scene.essence = (past.scene.essence.act react a).1.essence
          ∧ (past.act react a).2 = past.scene.essence.sight react a := by
      obtain ⟨hessence, hsight⟩ := past.scene.essence_act react a
      obtain ⟨registers, heq⟩ := past.act_eq react a
      rw [heq]
      exact ⟨hessence.symm, hsight.symm⟩
    unfold watch
    dsimp only
    rw [hseen, (hact _ _).1, (hact _ _).2, (hact (r.watch react world n).1 _).1,
      (hact (r.watch react world n).1 _).2, hscene]
    exact ⟨rfl, rfl⟩

end Runtime

/-! ### What earlier connections leave -/

/-- What a session keeps of the connections that it has had. -/
structure Leftovers where
  decoder : Decoder.State
  items : List DecodedItem
  lastPing : Nat
  lastError : Option Error
  registers : Registers

def Session.keeping (s : Session) (old : Leftovers) : Session :=
  { s with
    decoder := { s.decoder with state := old.decoder }
    items := old.items, lastPing := old.lastPing, lastError := old.lastError }

namespace Scene

variable {κ : Type}

def keeping (s : Scene κ) (old : Leftovers) : Runtime κ :=
  ⟨{ s with client := { s.client with
      task := s.client.task.map fun t => { t with session := t.session.keeping old } } },
    old.registers⟩

theorem essence_keeping {s : Scene κ} (h : ∀ t ∈ s.client.task, t.session.phase = .opening)
    (old : Leftovers) : (s.keeping old).scene.essence = s.essence := by
  have hsession : ∀ t ∈ s.client.task, (t.session.keeping old).essence = t.session.essence := by
    intro t ht
    have hphase : (t.session.keeping old).phase = .opening := h t ht
    unfold Session.essence
    rw [hphase, h t ht]
    rfl
  unfold keeping essence Client.essence
  cases htask : s.client.task with
  | none => rfl
  | some t => simp [hsession t htask]

/-- Whatever earlier connections left in a session that is about to connect again, the same is to be
seen from there on: calls of the transport, bytes, events, states, results and what is tracked. The
world may choose what comes next by all that it has seen. -/
theorem earlier_connections_leave_no_trace (react : κ → Event → Reaction κ)
    (world : List (Sight κ) → Act κ) {s : Scene κ}
    (h : ∀ t ∈ s.client.task, t.session.phase = .opening) (old old' : Leftovers) (n : Nat) :
    ((s.keeping old).watch react world n).2 = ((s.keeping old').watch react world n).2 := by
  have hessence : (s.keeping old).scene.essence = (s.keeping old').scene.essence :=
    (essence_keeping h old).trans (essence_keeping h old').symm
  exact (Runtime.watch_of_essence world hessence n).2

/-- A connection was lost in the middle of a message, with a pong not handled yet. -/
theorem earlier_connections_leave_no_trace_of_message :
    let config := ({ host := "h", reconnectDelay := 0 } : Settings).toConfig "c"
    let react : Unit → Event → Reaction Unit := fun _ _ => {}
    let attempt : List (Act Unit) := Act.reconnecting
    let world (seen : List (Sight Unit)) : Act Unit :=
      (attempt.drop 4).getD seen.length .release
    let old : Leftovers :=
      ⟨.payload ⟨1, "a", .atLeastOnce, false, false, []⟩ 9 4 [], [.packet .pingresp], 7,
        some .malformedPacket, ⟨true, [0x20, 2, 1, 0]⟩⟩
    let new : Leftovers := ⟨.start, [], 0, none, ⟨false, []⟩⟩
    ∃ c, Client.new config 1883 none = .ok c ∧
      let s := (({ client := c } : Scene Unit).play react (Act.connecting ++
        [.session 0 (.read (.ok [0xC0, 0])), .session 0 .run, .session 0 .run]
        ++ attempt.take 4)).1
      let run := (s.keeping old).watch react world 8
      (s.client.task.map fun t => t.session.phase) = some .opening
        ∧ .told (.connected false) ∈ run.2.flatMap Sight.log
        ∧ run.2 = ((s.keeping new).watch react world 8).2 := by
  intro config react attempt world old new
  have hnew : Client.new (κ := Unit) config 1883 none = .ok _ := rfl
  refine ⟨_, hnew, ?_⟩
  intro s run
  have hphase : (s.client.task.map fun t => t.session.phase) = some .opening := by
    subst s attempt react config
    decide +kernel
  have htold : .told (.connected false) ∈ run.2.flatMap Sight.log := by
    subst run s old world attempt react config
    decide +kernel
  refine ⟨hphase, htold, earlier_connections_leave_no_trace react world ?_ old new 8⟩
  intro t ht
  have hmap : (s.client.task.map fun t => t.session.phase) = some t.session.phase := by
    rw [Option.mem_def.mp ht]
    rfl
  exact Option.some.inj (hmap.symm.trans hphase)

end Scene
end Mqtt
