import Mqtt.Proofs.Ledger.Tally
import Mqtt.Proofs.Session.Chronicle

/-!
What a step of a session does to the ledger, as calls on it, and to the request that it is busy
with. A step tells of the end of an operation just when one of its calls completes it.
-/

namespace Mqtt
set_option autoImplicit false

namespace Ledger

/-- The calls that forget an operation that failed. -/
def forgetting (kind : PacketType) (packetId : UInt16) : List Move :=
  if packetId = 0 then [] else [.abandon kind packetId]

theorem moveAll_forgetting (l : Ledger) (kind : PacketType) (packetId : UInt16) :
    l.moveAll (forgetting kind packetId) = l.forget kind packetId := by
  unfold forgetting forget
  split <;> rfl

theorem deeds_forgetting (l : Ledger) (kind : PacketType) (packetId : UInt16) :
    l.deeds (forgetting kind packetId) = [] := by
  unfold forgetting
  split <;> rfl

end Ledger

def Purpose.request? : Purpose → Option Request
  | .request r => some r
  | _ => none

/-- The request that a session is busy with. -/
def Phase.request? : Phase → Option Request
  | .writing purpose => purpose.request?
  | _ => none

/-- What an event can tell of. -/
def Event.deeds : Event → List Ledger.Deed
  | .published i => [.completed .publish i, .completed .pubrel i]
  | .subscribed i _ => [.completed .subscribe i]
  | .unsubscribed i => [.completed .unsubscribe i]
  | _ => []

/-- Whether bytes begin like the packet of an operation. -/
def HoldsOperation (bytes : Bytes) : Prop :=
  ∃ o : Operation, PacketType.ofBytes? bytes = some o.kind

def Effect.event? : Effect → Option Event
  | .tell e => some e
  | _ => none

/-- What is written on the session's own account, with no end of an operation to tell of. -/
def Purpose.IsOwn : Purpose → Prop
  | .request _ => False
  | .response (some e) => e.deeds = []
  | _ => True

namespace Session

/-- What a session's step at a moment comes to. -/
def respond (s : Session) (m : Moment) : Outcome := s.step m.ledger m.now m.stopRequested m.wake

/-- The calls on the ledger that a received item leads to. -/
def movesOf (s : Session) : DecodedItem → List Ledger.Move
  | .packet (.puback i) => [.resolve .publish i]
  | .packet (.pubcomp i) => [.resolve .pubrel i]
  | .packet (.suback i _) => [.resolve .subscribe i]
  | .packet (.unsuback i) => [.resolve .unsubscribe i]
  | .packet (.pubrec i) =>
    match s.encode (.pubrel i) with
    | .ok bytes => [.advance i bytes]
    | .error _ => []
  | _ => []

/-- The calls on the ledger that a step makes. -/
def moves (s : Session) (m : Moment) : List Ledger.Move :=
  match s.phase, m.wake with
  | .writing (.request r), .written (.error _) => Ledger.forgetting r.kind r.packetId
  | .greeting _, .run =>
    match s.items with
    | .packet (.connack sessionPresent .accepted) :: _ =>
      .setState .connected :: if sessionPresent then [] else [.clear]
    | _ => []
  | .awaitingAnswer _, .request r | .sleeping _, .request r =>
    Ledger.forgetting r.kind r.packetId
  | .handling, .run =>
    match s.items with
    | item :: _ => s.movesOf item
    | [] => [.evict m.now]
  | .failing, .run => [.setState .waitTimeout]
  | .pausing deadline, .run =>
    if m.stopRequested then [] else if deadline ≤ m.now then [.setState .init] else []
  | .sleeping _, .elapsed => [.setState .init]
  | .leaving final, .run => [.setState final]
  | _, _ => []

/-! ### The ledger -/

section
variable (s : Session) (l : Ledger)

theorem ledger_send (purpose : Purpose) (p : Packet) : (s.send l purpose p).ledger = l := by
  unfold send
  split <;> rfl

theorem ledger_disconnect : (s.disconnect l).ledger = l := by
  unfold disconnect
  split <;> rfl

theorem ledger_receive (next : Phase) (result : Except Error Bytes) :
    (s.receive l next result).ledger = l := by
  unfold receive
  dsimp only
  split
  · rfl
  · rfl
  · split <;> rfl

theorem ledger_acknowledge (p : Publish) (e : Event) : (s.acknowledge l p e).ledger = l := by
  unfold acknowledge
  split
  · rfl
  · exact ledger_send s l _ _
  · exact ledger_send s l _ _

theorem ledger_settle (kind : PacketType) (packetId : UInt16) (e : Event) :
    (s.settle l kind packetId e).ledger = (l.resolve kind packetId).1 := by
  unfold settle
  split
  · rename_i heq
    rw [heq]
    rfl
  · rename_i heq
    rw [heq]
    rfl

theorem ledger_handle (item : DecodedItem) :
    (s.handle l item).ledger = l.moveAll (s.movesOf item) := by
  cases item with
  | chunk c =>
    unfold handle
    dsimp only
    split
    · exact ledger_acknowledge s l _ _
    · rfl
  | packet p =>
    cases p with
    | publish p => exact ledger_acknowledge s l _ _
    | puback i => exact ledger_settle s l _ _ _
    | pubcomp i => exact ledger_settle s l _ _ _
    | suback i codes => exact ledger_settle s l _ _ _
    | unsuback i => exact ledger_settle s l _ _ _
    | pubrel i => exact ledger_send s l _ _
    | pingreq => exact ledger_send s l _ _
    | pubrec i =>
      unfold handle movesOf
      dsimp only
      cases s.encode (.pubrel i) <;> rfl
    | _ => rfl

theorem ledger_listen (now : Nat) : (s.listen l now).ledger = l.evictStale now := by
  unfold listen
  dsimp only
  split
  · exact ledger_send s _ _ _
  · rfl

end

theorem ledger_respond_run (s : Session) (l : Ledger) (now : Nat) (stopRequested : Bool) :
    (s.respond ⟨l, now, stopRequested, .run⟩).ledger =
      l.moveAll (s.moves ⟨l, now, stopRequested, .run⟩) := by
  obtain ⟨config, port, phase, decoder, items, lastPing, lastError⟩ := s
  cases phase with
  | opening => cases stopRequested <;> rfl
  | greeting deadline =>
    unfold respond step greet moves
    dsimp only
    split
    · rename_i sessionPresent code rest
      cases code with
      | accepted => cases sessionPresent <;> rfl
      | _ => rfl
    · rename_i item rest hitem
      cases item with
      | chunk c => rfl
      | packet p =>
        cases p with
        | connack sessionPresent code => exact absurd rfl (hitem sessionPresent code)
        | _ => rfl
    · split <;> rfl
  | serving =>
    cases stopRequested with
    | true => exact ledger_disconnect _ l
    | false => rfl
  | handling =>
    cases items with
    | nil => exact ledger_listen _ l now
    | cons item rest => exact ledger_handle _ l item
  | retrying =>
    unfold respond step
    dsimp only
    split <;> rfl
  | pausing deadline =>
    unfold respond step moves
    dsimp only
    split
    · rfl
    · split <;> rfl
  | writing purpose => cases purpose <;> rfl
  | _ => rfl

theorem ledger_respond_written (s : Session) (l : Ledger) (now : Nat) (stopRequested : Bool)
    (result : Except Error Unit) :
    (s.respond ⟨l, now, stopRequested, .written result⟩).ledger =
      l.moveAll (s.moves ⟨l, now, stopRequested, .written result⟩) := by
  obtain ⟨config, port, phase, decoder, items, lastPing, lastError⟩ := s
  cases phase with
  | writing purpose =>
    cases result with
    | ok u =>
      cases purpose with
      | response event => cases event <;> rfl
      | _ => rfl
    | error e =>
      cases purpose with
      | request r => exact (Ledger.moveAll_forgetting l r.kind r.packetId).symm
      | _ => rfl
  | _ => rfl

/-- A step changes the ledger by its calls. -/
theorem ledger_respond (s : Session) (m : Moment) :
    (s.respond m).ledger = m.ledger.moveAll (s.moves m) := by
  obtain ⟨l, now, stopRequested, wake⟩ := m
  cases wake with
  | run => exact ledger_respond_run s l now stopRequested
  | written result => exact ledger_respond_written s l now stopRequested result
  | request r =>
    obtain ⟨config, port, phase, decoder, items, lastPing, lastError⟩ := s
    cases phase with
    | awaitingAnswer | sleeping => exact (Ledger.moveAll_forgetting l r.kind r.packetId).symm
    | writing purpose => cases purpose <;> rfl
    | _ => rfl
  | connected result =>
    obtain ⟨config, port, phase, decoder, items, lastPing, lastError⟩ := s
    cases phase with
    | connecting =>
      cases result with
      | ok u => exact ledger_send _ l _ _
      | error e => rfl
    | writing purpose => cases purpose <;> rfl
    | _ => rfl
  | read result =>
    obtain ⟨config, port, phase, decoder, items, lastPing, lastError⟩ := s
    cases phase with
    | awaitingAnswer | listening => exact ledger_receive _ l _ result
    | writing purpose => cases purpose <;> rfl
    | _ => rfl
  | abandoned =>
    obtain ⟨config, port, phase, decoder, items, lastPing, lastError⟩ := s
    cases phase with
    | listening => exact ledger_disconnect _ l
    | writing purpose => cases purpose <;> rfl
    | _ => rfl
  | stop | elapsed =>
    obtain ⟨config, port, phase, decoder, items, lastPing, lastError⟩ := s
    cases phase with
    | writing purpose => cases purpose <;> rfl
    | _ => rfl

/-! ### Requests and events -/

/-- A step that has nothing to do with requests, and whose calls came to some deeds. -/
structure Outcome.IsAside (o : Outcome) (deeds : List Ledger.Deed) : Prop where
  unanswered : ∀ ticket result, .answer ticket result ∉ o.effects
  /-- Whatever is written is not the packet of an operation. -/
  writes : ∀ purpose, o.session.phase = .writing purpose → purpose.IsOwn
    ∧ ∃ bytes timeout, o.effects = [.write bytes timeout] ∧ ¬ HoldsOperation bytes
  tells : (∀ e, .tell e ∈ o.effects → e.deeds = [])
    ∨ ∃ e d, o.effects = [.tell e] ∧ deeds = [d] ∧ d ∈ e.deeds

/-- What a step does about requests. -/
inductive Conduct (s : Session) (m : Moment) (o : Outcome) : Prop where
  | takes (r : Request) (timeout : Nat) (hwake : m.wake = .request r)
    (hidle : s.phase.request? = none) (hphase : o.session.phase = .writing (.request r))
    (heffects : o.effects = [.write r.packet timeout]) (hmoves : s.moves m = [])
  | rejects (r : Request) (e : Error) (hwake : m.wake = .request r)
    (hidle : s.phase.request? = none) (hphase : ∀ purpose, o.session.phase ≠ .writing purpose)
    (heffects : o.effects = [.answer r.ticket (.error e)])
    (hmoves : s.moves m = Ledger.forgetting r.kind r.packetId)
  | writes (r : Request) (hwake : m.wake = .written (.ok ()))
    (hbusy : s.phase = .writing (.request r))
    (hphase : ∀ purpose, o.session.phase ≠ .writing purpose)
    (heffects : o.effects = [.answer r.ticket (.ok ())]) (hmoves : s.moves m = [])
  | breaks (r : Request) (e : Error) (hwake : m.wake = .written (.error e))
    (hbusy : s.phase = .writing (.request r))
    (hphase : ∀ purpose, o.session.phase ≠ .writing purpose)
    (heffects : o.effects = [.answer r.ticket (.error e), .close])
    (hmoves : s.moves m = Ledger.forgetting r.kind r.packetId)
  | aside (hwake : ∀ r, m.wake ≠ .request r) (hidle : s.phase.request? = none)
    (haside : o.IsAside (m.ledger.deeds (s.moves m)))

section
variable (s : Session) (l : Ledger) (deeds : List Ledger.Deed)

theorem isAside_goto {phase : Phase} {effects : List Effect}
    (hphase : ∀ purpose, phase ≠ .writing purpose)
    (hsilent : ∀ x ∈ effects, x.event? = none ∧ ∀ ticket result, x ≠ .answer ticket result) :
    (s.goto l phase effects).IsAside deeds where
  unanswered ticket result h := (hsilent _ h).2 ticket result rfl
  writes purpose h := absurd h (hphase purpose)
  tells := .inl fun _ h => absurd (hsilent _ h).1 nofun

theorem isAside_of_no_effects {phase : Phase} (hphase : ∀ purpose, phase ≠ .writing purpose) :
    (s.goto l phase []).IsAside deeds :=
  isAside_goto s l deeds hphase (List.forall_mem_nil _)

theorem isAside_close {phase : Phase} (hphase : ∀ purpose, phase ≠ .writing purpose) :
    (s.goto l phase [.close]).IsAside deeds := by
  refine isAside_goto s l deeds hphase ?_
  intro x hx
  rw [List.mem_singleton.mp hx]
  exact ⟨rfl, nofun⟩

theorem isAside_fail (e : Error) : (s.fail l e).IsAside deeds where
  unanswered ticket result h := by cases List.mem_singleton.mp h
  writes purpose h := by cases h
  tells := .inl fun _ h => by cases List.mem_singleton.mp h

theorem isAside_write (purpose : Purpose) (hpurpose : purpose.IsOwn) {bytes : Bytes}
    (hbytes : ¬ HoldsOperation bytes) : (s.write l purpose bytes).IsAside deeds where
  unanswered ticket result h := by cases List.mem_singleton.mp h
  writes purpose' h := by
    cases h
    exact ⟨hpurpose, bytes, _, rfl, hbytes⟩
  tells := .inl fun _ h => by cases List.mem_singleton.mp h

theorem not_holdsOperation {p : Packet} {bytes : Bytes} (h : s.encode p = .ok bytes)
    (hp : ∀ o : Operation, p.type ≠ o.kind) : ¬ HoldsOperation bytes := by
  intro ⟨o, ho⟩
  rw [Packet.ofBytes?_encode (Encoder.encode_eq_ok_iff.mp h).1] at ho
  exact hp o (Option.some.inj ho)

theorem isAside_send (purpose : Purpose) (hpurpose : purpose.IsOwn) {p : Packet}
    (hp : ∀ o : Operation, p.type ≠ o.kind) : (s.send l purpose p).IsAside deeds := by
  unfold send
  split
  · rename_i bytes hbytes
    exact isAside_write s l deeds purpose hpurpose (not_holdsOperation s hbytes hp)
  · exact isAside_fail s l deeds _

theorem isAside_disconnect : (s.disconnect l).IsAside deeds := by
  unfold disconnect
  split
  · rename_i bytes hbytes
    refine isAside_write s l deeds .farewell trivial (not_holdsOperation s hbytes ?_)
    intro o
    cases o <;> exact nofun
  · exact isAside_close s l deeds nofun

theorem isAside_tell {e : Event} (he : e.deeds = []) :
    (s.goto l .handling [.tell e]).IsAside deeds where
  unanswered ticket result h := by cases List.mem_singleton.mp h
  writes purpose h := by cases h
  tells := .inl fun _ h => by
    cases List.mem_singleton.mp h
    exact he

theorem isAside_receive (next : Phase) (hnext : ∀ purpose, next ≠ .writing purpose)
    (result : Except Error Bytes) : (s.receive l next result).IsAside deeds := by
  unfold receive
  split
  · exact isAside_fail s l deeds _
  · exact isAside_of_no_effects s l deeds hnext
  · dsimp only
    split
    · exact isAside_of_no_effects _ l deeds hnext
    · exact isAside_fail _ l deeds _

theorem isAside_acknowledge (p : Publish) {e : Event} (he : e.deeds = []) :
    (s.acknowledge l p e).IsAside deeds := by
  unfold acknowledge
  split
  · exact isAside_tell s l deeds he
  · refine isAside_send s l deeds (.response (some e)) he ?_
    intro o
    cases o <;> exact nofun
  · refine isAside_send s l deeds (.response (some e)) he ?_
    intro o
    cases o <;> exact nofun

theorem isAside_settle {kind : PacketType} {packetId : UInt16} {e : Event}
    (he : .completed kind packetId ∈ e.deeds) :
    (s.settle l kind packetId e).IsAside (l.deeds [.resolve kind packetId]) := by
  unfold settle
  split
  · rename_i l' heq
    have hdeeds : l.deeds [.resolve kind packetId] = [.completed kind packetId] := by
      simp [Ledger.deeds, Ledger.deedsOf, heq]
    exact {
      unanswered := fun ticket result h => by cases List.mem_singleton.mp h
      writes := fun purpose h => by cases h
      tells := .inr ⟨e, _, rfl, hdeeds, he⟩ }
  · exact isAside_of_no_effects s _ _ fun purpose h => by cases h

theorem isAside_handle (item : DecodedItem) :
    (s.handle l item).IsAside (l.deeds (s.movesOf item)) := by
  cases item with
  | chunk c =>
    unfold handle
    dsimp only
    split
    · exact isAside_acknowledge s l _ _ rfl
    · exact isAside_tell s l _ rfl
  | packet p =>
    cases p with
    | publish p => exact isAside_acknowledge s l _ p rfl
    | puback i => exact isAside_settle s l (by simp [Event.deeds])
    | pubcomp i => exact isAside_settle s l (by simp [Event.deeds])
    | suback i codes => exact isAside_settle s l (by simp [Event.deeds])
    | unsuback i => exact isAside_settle s l (by simp [Event.deeds])
    | pubrel i =>
      refine isAside_send s l _ (.response none) trivial ?_
      intro o
      cases o <;> exact nofun
    | pingreq =>
      refine isAside_send s l _ (.response none) trivial ?_
      intro o
      cases o <;> exact nofun
    | pubrec i =>
      unfold handle movesOf
      dsimp only
      cases hbytes : s.encode (.pubrel i) with
      | ok bytes =>
        refine isAside_write s _ _ (.response none) trivial (not_holdsOperation s hbytes ?_)
        intro o
        cases o <;> exact nofun
      | error e => exact isAside_fail s l _ e
    | pingresp => exact isAside_of_no_effects s l _ nofun
    | _ => exact isAside_fail s l _ _

theorem isAside_listen (now : Nat) : (s.listen l now).IsAside deeds := by
  unfold listen
  dsimp only
  split
  · refine isAside_send s _ deeds .ping trivial ?_
    intro o
    cases o <;> exact nofun
  · refine isAside_goto s _ deeds nofun ?_
    intro x hx
    rw [List.mem_singleton.mp hx]
    exact ⟨rfl, nofun⟩

theorem isAside_greet (now deadline : Nat) : (s.greet l now deadline).IsAside deeds := by
  unfold greet
  split
  · dsimp only
    split
    · exact {
        unanswered := fun ticket result h => by cases List.mem_singleton.mp h
        writes := nofun
        tells := .inl fun _ h => by
          cases List.mem_singleton.mp h
          rfl }
    · exact isAside_fail _ l deeds _
  · exact isAside_fail _ l deeds _
  · split
    · exact isAside_fail s l deeds _
    · refine isAside_goto s l deeds nofun ?_
      intro x hx
      rw [List.mem_singleton.mp hx]
      exact ⟨rfl, nofun⟩

theorem isAside_attempt (stopRequested : Bool) : (s.attempt l stopRequested).IsAside deeds := by
  unfold attempt
  split
  · exact isAside_of_no_effects s l deeds nofun
  · exact {
      unanswered := fun ticket result h => by cases List.mem_singleton.mp h
      writes := nofun
      tells := .inl fun _ h => by cases List.mem_singleton.mp h }

theorem isAside_tellFailure : (s.tellFailure l).IsAside deeds := by
  unfold tellFailure
  dsimp only
  refine {
    unanswered := fun ticket result h => ?_
    writes := nofun
    tells := .inl fun e h => ?_ }
  · rcases List.mem_append.mp h with h | h
    · split at h <;> simp at h
    · simp at h
  · rcases List.mem_append.mp h with h | h
    · split at h
      · cases List.mem_singleton.mp h
        rfl
      · cases h
    · cases List.mem_singleton.mp h
      rfl

end

/-- What is received settles an operation, or releases one. -/
theorem of_mem_movesOf {s : Session} {item : DecodedItem} {x : Ledger.Move}
    (hx : x ∈ s.movesOf item) :
    (∃ kind packetId, x = .resolve kind packetId) ∨ ∃ packetId pubrel, x = .advance packetId pubrel
    := by
  unfold movesOf at hx
  split at hx
  · exact .inl ⟨_, _, List.mem_singleton.mp hx⟩
  · exact .inl ⟨_, _, List.mem_singleton.mp hx⟩
  · exact .inl ⟨_, _, List.mem_singleton.mp hx⟩
  · exact .inl ⟨_, _, List.mem_singleton.mp hx⟩
  · split at hx
    · exact .inr ⟨_, _, List.mem_singleton.mp hx⟩
    · cases hx
  · cases hx

theorem isOwn_of_mem_movesOf (s : Session) (item : DecodedItem) :
    ∀ x ∈ s.movesOf item, x.IsOwn := by
  intro x hx
  obtain ⟨_, _, rfl⟩ | ⟨_, _, rfl⟩ := of_mem_movesOf hx
  · trivial
  · trivial

/-- The calls that a step can make, and where it makes them. -/
inductive Makes (s : Session) (m : Moment) : Ledger.Move → Prop where
  | forgets (r : Request) (hr : m.wake = .request r ∨ s.phase.request? = some r) :
    Makes s m (.abandon r.kind r.packetId)
  | enters (deadline : Nat) (hp : s.phase = .greeting deadline) : Makes s m (.setState .connected)
  | clears (deadline : Nat) (items : List DecodedItem) (hp : s.phase = .greeting deadline)
    (hwake : m.wake = .run) (hitems : s.items = .packet (.connack false .accepted) :: items) :
    Makes s m .clear
  | settles (kind : PacketType) (packetId : UInt16) (hp : s.phase = .handling) :
    Makes s m (.resolve kind packetId)
  | releases (packetId : UInt16) (pubrel : Bytes) (hp : s.phase = .handling) :
    Makes s m (.advance packetId pubrel)
  | evicts (hp : s.phase = .handling) : Makes s m (.evict m.now)
  | reports (hp : s.phase = .failing) : Makes s m (.setState .waitTimeout)
  | reopens (deadline : Nat) (hp : s.phase = .pausing deadline ∨ s.phase = .sleeping deadline) :
    Makes s m (.setState .init)
  | finishes (final : SessionState) (hp : s.phase = .leaving final) : Makes s m (.setState final)

theorem Makes.of_mem_forgetting {s : Session} {m : Moment} {r : Request} {x : Ledger.Move}
    (hr : m.wake = .request r ∨ s.phase.request? = some r)
    (hx : x ∈ Ledger.forgetting r.kind r.packetId) : s.Makes m x := by
  unfold Ledger.forgetting at hx
  split at hx
  · cases hx
  · rw [List.mem_singleton.mp hx]
    exact .forgets r hr

theorem makes_of_mem_moves {s : Session} {m : Moment} {x : Ledger.Move} (hx : x ∈ s.moves m) :
    s.Makes m x := by
  unfold moves at hx
  split at hx
  · rename_i r e hp _
    exact .of_mem_forgetting (.inr (hp ▸ rfl)) hx
  · rename_i deadline hp hwake
    split at hx
    · rename_i sessionPresent items hitems
      rcases List.mem_cons.mp hx with hx | hx
      · rw [hx]
        exact .enters deadline hp
      · cases sessionPresent with
        | true => cases hx
        | false =>
          rw [List.mem_singleton.mp hx]
          exact .clears deadline items hp hwake hitems
    · cases hx
  · rename_i r _ hwake
    exact .of_mem_forgetting (.inl hwake) hx
  · rename_i r _ hwake
    exact .of_mem_forgetting (.inl hwake) hx
  · rename_i hp _
    split at hx
    · obtain ⟨kind, packetId, rfl⟩ | ⟨packetId, pubrel, rfl⟩ := of_mem_movesOf hx
      · exact .settles kind packetId hp
      · exact .releases packetId pubrel hp
    · rw [List.mem_singleton.mp hx]
      exact .evicts hp
  · rename_i hp _
    rw [List.mem_singleton.mp hx]
    exact .reports hp
  · rename_i deadline hp _
    split at hx
    · cases hx
    · split at hx
      · rw [List.mem_singleton.mp hx]
        exact .reopens deadline (.inl hp)
      · cases hx
  · rename_i deadline hp _
    rw [List.mem_singleton.mp hx]
    exact .reopens deadline (.inr hp)
  · rename_i final hp _
    rw [List.mem_singleton.mp hx]
    exact .finishes final hp
  · cases hx

/-- A step that is about no request makes the calls of the session only. -/
theorem isOwn_of_mem_moves {s : Session} {m : Moment} (hwake : ∀ r, m.wake ≠ .request r)
    (hidle : s.phase.request? = none) : ∀ x ∈ s.moves m, x.IsOwn := by
  intro x hx
  cases makes_of_mem_moves hx with
  | forgets r hr =>
    rcases hr with hr | hr
    · exact absurd hr (hwake r)
    · cases hidle.symm.trans hr
  | _ => trivial

section
variable {s : Session} {l : Ledger} {now : Nat} {stopRequested : Bool}

theorem isAside_run (h : s.phase.accepts .run = true) :
    (s.respond ⟨l, now, stopRequested, .run⟩).IsAside
      (l.deeds (s.moves ⟨l, now, stopRequested, .run⟩)) := by
  obtain ⟨config, port, phase, decoder, items, lastPing, lastError⟩ := s
  cases phase with
  | opening => exact isAside_attempt _ l _ stopRequested
  | greeting deadline => exact isAside_greet _ l _ now deadline
  | serving =>
    cases stopRequested with
    | true => exact isAside_disconnect _ l _
    | false => exact isAside_of_no_effects _ l _ nofun
  | handling =>
    cases items with
    | nil => exact isAside_listen _ l _ now
    | cons item rest => exact isAside_handle _ l item
  | failing => exact isAside_tellFailure _ l _
  | retrying =>
    unfold respond step
    dsimp only
    split
    · exact isAside_of_no_effects _ l _ nofun
    · exact isAside_of_no_effects _ l _ nofun
  | pausing deadline =>
    unfold respond step
    dsimp only
    split
    · exact isAside_of_no_effects _ l _ nofun
    · split
      · exact isAside_of_no_effects _ _ _ nofun
      · exact isAside_of_no_effects _ l _ nofun
  | leaving final => exact isAside_close _ _ _ nofun
  | _ => cases h

theorem isAside_stop (h : s.phase.accepts .stop = true) :
    (s.respond ⟨l, now, stopRequested, .stop⟩).IsAside
      (l.deeds (s.moves ⟨l, now, stopRequested, .stop⟩)) := by
  obtain ⟨config, port, phase, decoder, items, lastPing, lastError⟩ := s
  cases phase with
  | connecting | awaitingAnswer | listening | sleeping =>
    exact isAside_of_no_effects _ l _ nofun
  | _ => cases h

theorem isAside_abandoned (h : s.phase.accepts .abandoned = true) :
    (s.respond ⟨l, now, stopRequested, .abandoned⟩).IsAside
      (l.deeds (s.moves ⟨l, now, stopRequested, .abandoned⟩)) := by
  obtain ⟨config, port, phase, decoder, items, lastPing, lastError⟩ := s
  cases phase with
  | awaitingAnswer | sleeping => exact isAside_of_no_effects _ l _ nofun
  | listening => exact isAside_disconnect _ l _
  | _ => cases h

theorem isAside_connected {result : Except Error Unit}
    (h : s.phase.accepts (.connected result) = true) :
    (s.respond ⟨l, now, stopRequested, .connected result⟩).IsAside
      (l.deeds (s.moves ⟨l, now, stopRequested, .connected result⟩)) := by
  obtain ⟨config, port, phase, decoder, items, lastPing, lastError⟩ := s
  cases phase with
  | connecting =>
    cases result with
    | ok u =>
      refine isAside_send _ l _ .greeting trivial ?_
      intro o
      cases o <;> exact nofun
    | error e => exact isAside_fail _ l _ e
  | _ => cases h

theorem isAside_read {result : Except Error Bytes} (h : s.phase.accepts (.read result) = true) :
    (s.respond ⟨l, now, stopRequested, .read result⟩).IsAside
      (l.deeds (s.moves ⟨l, now, stopRequested, .read result⟩)) := by
  obtain ⟨config, port, phase, decoder, items, lastPing, lastError⟩ := s
  cases phase with
  | awaitingAnswer deadline => exact isAside_receive _ l _ (.greeting deadline) nofun result
  | listening => exact isAside_receive _ l _ .serving nofun result
  | _ => cases h

theorem isAside_elapsed (h : s.phase.accepts .elapsed = true) :
    (s.respond ⟨l, now, stopRequested, .elapsed⟩).IsAside
      (l.deeds (s.moves ⟨l, now, stopRequested, .elapsed⟩)) := by
  obtain ⟨config, port, phase, decoder, items, lastPing, lastError⟩ := s
  cases phase with
  | sleeping => exact isAside_of_no_effects _ _ _ nofun
  | _ => cases h

/-- A request is taken by a session that listens, and turned away by one that waits. -/
theorem conduct_of_request {r : Request} (h : s.phase.accepts (.request r) = true) :
    Conduct s ⟨l, now, stopRequested, .request r⟩
      (s.respond ⟨l, now, stopRequested, .request r⟩) := by
  obtain ⟨config, port, phase, decoder, items, lastPing, lastError⟩ := s
  cases phase with
  | listening => exact .takes r _ rfl rfl rfl rfl rfl
  | awaitingAnswer | sleeping => exact .rejects r .notConnected rfl rfl nofun rfl rfl
  | _ => cases h

theorem conduct_of_written {result : Except Error Unit}
    (h : s.phase.accepts (.written result) = true)
    (hheld : ∀ e, s.phase = .writing (.response (some e)) → e.deeds = []) :
    Conduct s ⟨l, now, stopRequested, .written result⟩
      (s.respond ⟨l, now, stopRequested, .written result⟩) := by
  obtain ⟨config, port, phase, decoder, items, lastPing, lastError⟩ := s
  cases phase with
  | writing purpose =>
    cases result with
    | ok u =>
      cases purpose with
      | request r => exact .writes r rfl rfl nofun rfl rfl
      | greeting | ping => exact .aside nofun rfl (isAside_of_no_effects _ l _ nofun)
      | response event =>
        cases event with
        | none => exact .aside nofun rfl (isAside_of_no_effects _ l _ nofun)
        | some e => exact .aside nofun rfl (isAside_tell _ l _ (hheld e rfl))
      | farewell => exact .aside nofun rfl (isAside_close _ l _ nofun)
    | error e =>
      cases purpose with
      | request r => exact .breaks r e rfl rfl nofun rfl rfl
      | farewell => exact .aside nofun rfl (isAside_close _ l _ nofun)
      | _ => exact .aside nofun rfl (isAside_fail _ l _ e)
  | _ => cases h

end

theorem request?_of_accepts {phase : Phase} {w : Wake} (h : phase.accepts w = true)
    (hw : ∀ result, w ≠ .written result) : phase.request? = none := by
  cases phase with
  | writing purpose =>
    cases w with
    | written result => exact absurd rfl (hw result)
    | _ => cases h
  | _ => rfl

/-- What a step does about requests, when it comes at something the session waits for. -/
theorem conduct {s : Session} {m : Moment} (haccepts : s.phase.accepts m.wake = true)
    (hheld : ∀ e, s.phase = .writing (.response (some e)) → e.deeds = []) :
    Conduct s m (s.respond m) := by
  obtain ⟨l, now, stopRequested, wake⟩ := m
  cases wake with
  | request r => exact conduct_of_request haccepts
  | written result => exact conduct_of_written haccepts hheld
  | run => exact .aside nofun (request?_of_accepts haccepts nofun) (isAside_run haccepts)
  | stop => exact .aside nofun (request?_of_accepts haccepts nofun) (isAside_stop haccepts)
  | abandoned =>
    exact .aside nofun (request?_of_accepts haccepts nofun) (isAside_abandoned haccepts)
  | connected result =>
    exact .aside nofun (request?_of_accepts haccepts nofun) (isAside_connected haccepts)
  | read result => exact .aside nofun (request?_of_accepts haccepts nofun) (isAside_read haccepts)
  | elapsed => exact .aside nofun (request?_of_accepts haccepts nofun) (isAside_elapsed haccepts)

end Session
end Mqtt
