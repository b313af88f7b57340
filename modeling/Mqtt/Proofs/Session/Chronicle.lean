import Mqtt.Session.Step

/-!
What a session does and what happens to it, in one list. A moment is a step of a session together
with all that the step depends on: between two moments callers may do anything to the ledger.
-/

namespace Mqtt
set_option autoImplicit false

/-- What a session finds when it moves. -/
structure Moment where
  ledger : Ledger
  now : Nat
  stopRequested : Bool
  wake : Wake

inductive Mark where
  /-- An attempt to connect begins. -/
  | attempt
  /-- The transport is connected. -/
  | opened
  | received (bytes : Bytes)
  /-- A write failed. -/
  | lost
  /-- An error that ends the attempt or the connection. -/
  | fault (e : Error)
  /-- A connected session is to end, because of a stop or because nobody is left. -/
  | leaving
  /-- A write begins. -/
  | wrote (bytes : Bytes)
  | closed
  | told (e : Event)
deriving DecidableEq, Repr

def Effect.mark? : Effect → Option Mark
  | .connect .. => some .attempt
  | .write bytes _ => some (.wrote bytes)
  | .close => some .closed
  | .tell e => some (.told e)
  | _ => none

namespace Session

/-- What the world does to a session at a moment. -/
def observed (s : Session) (m : Moment) : List Mark :=
  match s.phase, m.wake with
  | .connecting, .connected (.ok ()) => [.opened]
  | .awaitingAnswer _, .read (.ok (b :: bs)) => [.received (b :: bs)]
  | .listening, .read (.ok (b :: bs)) => [.received (b :: bs)]
  | .writing _, .written (.error _) => [.lost]
  | .serving, .run => if m.stopRequested then [.leaving] else []
  | .listening, .abandoned => [.leaving]
  | _, _ => []

def encodeError? (s : Session) (p : Packet) : Option Error :=
  match s.encode p with
  | .ok _ => none
  | .error e => some e

/-- What is wrong with the packet that has to be the broker's answer. -/
def answerError? : DecodedItem → Option Error
  | .packet (.connack _ code) => if code = .accepted then none else some (.connectionRefused code)
  | _ => some .protocolError

/-- The packet that a received item is answered with. -/
def responseTo : DecodedItem → Option Packet
  | .packet (.publish p) =>
    match p.qos with
    | .atMostOnce => none
    | .atLeastOnce => some (.puback p.packetId)
    | .exactlyOnce => some (.pubrec p.packetId)
  | .chunk c =>
    if c.offset = 0 then
      match c.publish.qos with
      | .atMostOnce => none
      | .atLeastOnce => some (.puback c.publish.packetId)
      | .exactlyOnce => some (.pubrec c.publish.packetId)
    else none
  | .packet (.pubrec i) => some (.pubrel i)
  | .packet (.pubrel i) => some (.pubcomp i)
  | .packet .pingreq => some .pingresp
  | _ => none

/-- What is wrong with a packet that comes while connected. -/
def itemError? (s : Session) : DecodedItem → Option Error
  | .packet (.connect _) | .packet (.connack _ _) | .packet (.subscribe _ _)
  | .packet (.unsubscribe _ _) | .packet .disconnect => some .unexpectedPacket
  | item => (responseTo item).bind s.encodeError?

/-- The error that a session meets at a moment. -/
def fault? (s : Session) (m : Moment) : Option Error :=
  match s.phase, m.wake with
  | .connecting, .connected (.ok ()) => s.encodeError? (.connect s.config.toConnect)
  | .connecting, .connected (.error e) => some e
  | .writing .farewell, _ => none
  | .writing _, .written (.error e) => some e
  | .greeting deadline, .run =>
    match s.items with
    | item :: _ => answerError? item
    | [] => if deadline ≤ m.now then some .connectionTimeout else none
  | .awaitingAnswer _, .read (.error e) | .listening, .read (.error e) => some e
  | .awaitingAnswer _, .read (.ok (b :: bs)) | .listening, .read (.ok (b :: bs)) =>
    match (s.decoder.feed (b :: bs)).2.2 with
    | .ok () => none
    | .error e => some e
  | .handling, .run =>
    match s.items with
    | item :: _ => s.itemError? item
    | [] => if s.pingInterval < m.now - s.lastPing then s.encodeError? .pingreq else none
  | _, _ => none

/-- A session's step, and what is to be seen of it. -/
def turn (s : Session) (m : Moment) : Session × List Mark :=
  let o := s.step m.ledger m.now m.stopRequested m.wake
  (o.session,
    s.observed m ++ ((s.fault? m).map Mark.fault).toList ++ o.effects.filterMap Effect.mark?)

/-- A run of a session: where it leads, and what is to be seen of it. -/
def play (s : Session) : List Moment → Session × List Mark
  | [] => (s, [])
  | m :: ms =>
    let (s', marks) := (s.turn m).1.play ms
    (s', (s.turn m).2 ++ marks)

/-- The session after an error. -/
def failed (s : Session) (e : Error) : Session :=
  { s with phase := .failing, lastError := some (s.lastError.getD e) }

end Session

/-! ### What a turn can be -/

/-- Whether an event tells of a message or of the end of an operation. -/
def Event.IsDelivery : Event → Prop
  | .data _ | .published _ | .subscribed _ _ | .unsubscribed _ => True
  | _ => False

/-- What is told of a lost connection: the peer's fault if it is one, and then the loss. -/
def Error.closing (e : Error) : List Event :=
  (if e.isProtocolFailure then [.failure e] else []) ++ [.disconnected e]

/-- Whether this kind of packet is written in response to another one. -/
def PacketType.IsResponse : PacketType → Prop
  | .puback | .pubrec | .pubrel | .pubcomp | .pingresp => True
  | _ => False

namespace Phase

/-- A connection is wanted and not yet there. -/
def IsAttempt : Phase → Prop
  | connecting | writing .greeting | greeting _ | awaitingAnswer _ => True
  | _ => False

/-- The session will do nothing but end, as after a stop. -/
def IsEnding : Phase → Prop
  | writing .farewell | leaving _ | finished => True
  | _ => False

/-- The broker has accepted, and the session is not about to end. -/
def IsConnected : Phase → Prop
  | serving | handling | listening => True
  | writing (.request _) | writing .ping | writing (.response _) => True
  | _ => False

theorem IsConnected.ne_failing {phase : Phase} (h : phase.IsConnected) : phase ≠ .failing := by
  rintro rfl
  exact h

end Phase

namespace Session

/-- The turns of a session, with what is to be seen of each. -/
inductive Turn (s : Session) (m : Moment) : Session × List Mark → Prop where
  | stays : Turn s m (s, [])
  | leaves (final : SessionState) (hp : s.phase ≠ .failing) :
    Turn s m ({ s with phase := .leaving final }, [])
  | attempts (hp : s.phase = .opening) :
    Turn s m ({ s with phase := .connecting, decoder := s.decoder.reset, items := [],
                       lastError := none }, [.attempt])
  | greets {c : Bytes} (hp : s.phase = .connecting)
    (hc : s.encode (.connect s.config.toConnect) = .ok c) :
    Turn s m ({ s with phase := .writing .greeting }, [.opened, .wrote c])
  | cannotGreet {e : Error} (hp : s.phase = .connecting)
    (he : s.encode (.connect s.config.toConnect) = .error e) :
    Turn s m (s.failed e, [.opened, .fault e, .closed])
  | fails (items : List DecodedItem) (e : Error) (hp : s.phase.IsAttempt ∨ s.phase.IsConnected) :
    Turn s m ({ s with items }.failed e, [.fault e, .closed])
  | loses (e : Error) (hp : s.phase.IsAttempt ∨ s.phase.IsConnected) :
    Turn s m (s.failed e, [.lost, .fault e, .closed])
  | chokes (decoder : Decoder) (items : List DecodedItem) (bytes : Bytes) (e : Error)
    (hp : s.phase.IsAttempt ∨ s.phase.IsConnected) (hlimit : decoder.limit = s.decoder.limit) :
    Turn s m ({ s with decoder, items }.failed e, [.received bytes, .fault e, .closed])
  | waits (deadline : Nat) (hp : s.phase = .writing .greeting ∨ s.phase = .greeting deadline
      ∨ s.phase = .awaitingAnswer deadline) (phase : Phase)
    (hphase : phase = .greeting deadline ∨ phase = .awaitingAnswer deadline) :
    Turn s m ({ s with phase }, [])
  | hears (deadline : Nat) (bytes : Bytes) (hp : s.phase = .awaitingAnswer deadline)
    (hgood : (s.decoder.feed bytes).2.2 = .ok ()) :
    Turn s m ({ s with phase := .greeting deadline, decoder := (s.decoder.feed bytes).1,
                       items := s.items ++ (s.decoder.feed bytes).2.1 }, [.received bytes])
  | enters (deadline : Nat) (sessionPresent : Bool) (rest : List DecodedItem)
    (hp : s.phase = .greeting deadline)
    (hitems : s.items = .packet (.connack sessionPresent .accepted) :: rest) :
    Turn s m ({ s with phase := .serving, items := rest, lastPing := m.now },
      [.told (.connected sessionPresent)])
  | works (s' : Session) (hp : s.phase.IsConnected)
    (hp' : s'.phase.IsConnected) (hidle : ∀ purpose, s'.phase ≠ .writing purpose)
    (hconfig : s'.config = s.config) (hlast : s'.lastError = s.lastError)
    (hdecoder : s'.decoder = s.decoder) :
    Turn s m (s', [])
  | reads (decoder : Decoder) (items : List DecodedItem) (bytes : Bytes)
    (hp : s.phase = .listening) (hlimit : decoder.limit = s.decoder.limit) :
    Turn s m ({ s with phase := .serving, decoder, items }, [.received bytes])
  | delivers (items : List DecodedItem) (e : Event) (hp : s.phase = .handling)
    (he : e.IsDelivery) :
    Turn s m ({ s with phase := .handling, items }, [.told e])
  | confirms (e : Event) (hp : s.phase = .writing (.response (some e))) :
    Turn s m ({ s with phase := .handling }, [.told e])
  | responds (items : List DecodedItem) (event : Option Event) (p : Packet) (bytes : Bytes)
    (hp : s.phase = .handling) (hevent : ∀ e ∈ event, e.IsDelivery) (htype : p.type.IsResponse)
    (hbytes : s.encode p = .ok bytes) :
    Turn s m ({ s with phase := .writing (.response event), items }, [.wrote bytes])
  | pings (bytes : Bytes) (hp : s.phase = .handling) (hbytes : s.encode .pingreq = .ok bytes) :
    Turn s m ({ s with phase := .writing .ping }, [.wrote bytes])
  | serves (r : Request) (hp : s.phase = .listening) (hwake : m.wake = .request r) :
    Turn s m ({ s with phase := .writing (.request r) }, [.wrote r.packet])
  | departs (bytes : Bytes) (hp : s.phase.IsConnected) (hbytes : s.encode .disconnect = .ok bytes) :
    Turn s m ({ s with phase := .writing .farewell }, [.leaving, .wrote bytes])
  | cannotDepart (e : Error) (hp : s.phase.IsConnected)
    (hbytes : s.encode .disconnect = .error e) :
    Turn s m ({ s with phase := .leaving .stopped }, [.leaving, .closed])
  | departed (hp : s.phase = .writing .farewell) :
    Turn s m ({ s with phase := .leaving .stopped }, [.closed])
  | departedUnheard (hp : s.phase = .writing .farewell) :
    Turn s m ({ s with phase := .leaving .stopped }, [.lost, .closed])
  | reports (hp : s.phase = .failing) :
    Turn s m ({ s with phase := .retrying },
      (s.lastError.getD .connectionClosed).closing.map Mark.told)
  | pauses (deadline : Nat) (hp : s.phase = .retrying) (hr : s.config.autoReconnect = true) :
    Turn s m ({ s with phase := .pausing deadline }, [])
  | sleeps (deadline : Nat) (hp : s.phase = .pausing deadline) :
    Turn s m ({ s with phase := .sleeping deadline }, [])
  | wakes (deadline : Nat) (hp : s.phase = .sleeping deadline) :
    Turn s m ({ s with phase := .pausing deadline }, [])
  | reopens (deadline : Nat) (hp : s.phase = .pausing deadline ∨ s.phase = .sleeping deadline) :
    Turn s m ({ s with phase := .opening }, [])
  | finishes (final : SessionState) (hp : s.phase = .leaving final) :
    Turn s m ({ s with phase := .finished }, [.closed])

/-- A session that is woken by something it does not wait for stays as it is, and nothing is seen. -/
theorem ignores {s : Session} {m : Moment} (h : s.phase.accepts m.wake = false) :
    s.step m.ledger m.now m.stopRequested m.wake = ⟨s, m.ledger, []⟩ ∧ s.observed m = []
      ∧ s.fault? m = none := by
  obtain ⟨config, port, phase, decoder, items, lastPing, lastError⟩ := s
  obtain ⟨l, now, stopRequested, wake⟩ := m
  cases phase with
  | writing purpose =>
    cases wake with
    | written result => cases h
    | _ => cases purpose <;> exact ⟨rfl, rfl, rfl⟩
  | opening | serving | handling | failing | retrying =>
    cases wake with
    | run => cases h
    | _ => exact ⟨rfl, rfl, rfl⟩
  | greeting _ | pausing _ | leaving _ =>
    cases wake with
    | run => cases h
    | _ => exact ⟨rfl, rfl, rfl⟩
  | connecting =>
    cases wake with
    | stop | connected _ => cases h
    | _ => exact ⟨rfl, rfl, rfl⟩
  | awaitingAnswer _ | listening =>
    cases wake with
    | stop | request _ | abandoned | read _ => cases h
    | _ => exact ⟨rfl, rfl, rfl⟩
  | sleeping _ =>
    cases wake with
    | stop | request _ | abandoned | elapsed => cases h
    | _ => exact ⟨rfl, rfl, rfl⟩
  | finished | crashed => cases wake <;> exact ⟨rfl, rfl, rfl⟩

theorem turn_of_not_accepts {s : Session} {m : Moment} (h : s.phase.accepts m.wake = false) :
    s.turn m = (s, []) := by
  obtain ⟨hstep, hobserved, hfault⟩ := ignores h
  unfold turn
  rw [hstep, hobserved, hfault]
  rfl

section
variable {s : Session} {l : Ledger} {now : Nat} {stopRequested : Bool}

theorem turn_connecting {wake : Wake} (hp : s.phase = .connecting)
    (h : s.phase.accepts wake = true) :
    Turn s ⟨l, now, stopRequested, wake⟩ (s.turn ⟨l, now, stopRequested, wake⟩) := by
  obtain ⟨config, port, phase, decoder, items, lastPing, lastError⟩ := s
  cases hp
  cases wake with
  | stop => exact .leaves .stopped nofun
  | connected result =>
    cases result with
    | error e => exact .fails items e (.inl trivial)
    | ok u =>
      cases hc : encode ⟨config, port, .connecting, decoder, items, lastPing, lastError⟩
          (.connect config.toConnect) with
      | ok c =>
        have hturn := Turn.greets (m := ⟨l, now, stopRequested, .connected (.ok u)⟩) rfl hc
        unfold turn step observed fault? encodeError? send
        dsimp only
        rw [hc]
        exact hturn
      | error e =>
        have hturn := Turn.cannotGreet (m := ⟨l, now, stopRequested, .connected (.ok u)⟩) rfl hc
        unfold turn step observed fault? encodeError? send
        dsimp only
        rw [hc]
        exact hturn
  | _ => cases h

theorem turn_writing {purpose : Purpose} {wake : Wake} (hp : s.phase = .writing purpose)
    (h : s.phase.accepts wake = true) :
    Turn s ⟨l, now, stopRequested, wake⟩ (s.turn ⟨l, now, stopRequested, wake⟩) := by
  obtain ⟨config, port, phase, decoder, items, lastPing, lastError⟩ := s
  cases hp
  cases wake with
  | written result =>
    cases result with
    | error e =>
      cases purpose with
      | farewell => exact .departedUnheard rfl
      | greeting => exact .loses e (.inl trivial)
      | _ => exact .loses e (.inr trivial)
    | ok u =>
      cases purpose with
      | greeting => exact .waits (now + config.networkTimeout) (.inl rfl) _ (.inl rfl)
      | request r => exact .works _ trivial trivial nofun rfl rfl rfl
      | ping => exact .works _ trivial trivial nofun rfl rfl rfl
      | response event =>
        cases event with
        | none => exact .works _ trivial trivial nofun rfl rfl rfl
        | some e => exact .confirms e rfl
      | farewell => exact .departed rfl
  | _ => cases h

theorem turn_greeting {deadline : Nat} {wake : Wake} (hp : s.phase = .greeting deadline)
    (h : s.phase.accepts wake = true) :
    Turn s ⟨l, now, stopRequested, wake⟩ (s.turn ⟨l, now, stopRequested, wake⟩) := by
  obtain ⟨config, port, phase, decoder, items, lastPing, lastError⟩ := s
  cases hp
  cases wake with
  | run =>
    cases items with
    | nil =>
      by_cases hlate : deadline ≤ now
      · have hturn := Turn.fails (m := ⟨l, now, stopRequested, .run⟩)
          (s := ⟨config, port, .greeting deadline, decoder, [], lastPing, lastError⟩) []
          .connectionTimeout (.inl trivial)
        unfold turn step observed fault? greet
        dsimp only
        rw [if_pos hlate, if_pos hlate]
        exact hturn
      · have hturn := Turn.waits (m := ⟨l, now, stopRequested, .run⟩)
          (s := ⟨config, port, .greeting deadline, decoder, [], lastPing, lastError⟩) deadline
          (.inr (.inl rfl)) _ (.inr rfl)
        unfold turn step observed fault? greet
        dsimp only
        rw [if_neg hlate, if_neg hlate]
        exact hturn
    | cons item rest =>
      cases item with
      | chunk c => exact .fails rest .protocolError (.inl trivial)
      | packet p =>
        cases p with
        | connack sessionPresent code =>
          cases code with
          | accepted => exact .enters deadline sessionPresent rest rfl rfl
          | _ => exact .fails rest (.connectionRefused _) (.inl trivial)
        | _ => exact .fails rest .protocolError (.inl trivial)
  | _ => cases h

theorem turn_awaitingAnswer {deadline : Nat} {wake : Wake} (hp : s.phase = .awaitingAnswer deadline)
    (h : s.phase.accepts wake = true) :
    Turn s ⟨l, now, stopRequested, wake⟩ (s.turn ⟨l, now, stopRequested, wake⟩) := by
  obtain ⟨config, port, phase, decoder, items, lastPing, lastError⟩ := s
  cases hp
  cases wake with
  | stop => exact .leaves .stopped nofun
  | abandoned => exact .leaves .stopped nofun
  | request r => exact .waits deadline (.inr (.inr rfl)) _ (.inl rfl)
  | read result =>
    cases result with
    | error e => exact .fails items e (.inl trivial)
    | ok bytes =>
      cases bytes with
      | nil => exact .waits deadline (.inr (.inr rfl)) _ (.inl rfl)
      | cons b bs =>
        have hturn := Turn.hears (m := ⟨l, now, stopRequested, .read (.ok (b :: bs))⟩)
          (s := ⟨config, port, .awaitingAnswer deadline, decoder, items, lastPing, lastError⟩)
          deadline (b :: bs) rfl
        have hlimit : (decoder.feed (b :: bs)).1.limit = decoder.limit := rfl
        unfold turn step observed fault? receive
        dsimp only at hturn ⊢
        cases hfeed : decoder.feed (b :: bs) with
        | mk decoder' r =>
          cases r with
          | mk items' result =>
            rw [hfeed] at hturn hlimit
            cases result with
            | ok u => exact hturn rfl
            | error e => exact .chokes decoder' (items ++ items') (b :: bs) e (.inl trivial) hlimit
  | _ => cases h

theorem turn_of_disconnect {m : Moment} (hp : s.phase.IsConnected)
    (hstep : s.step m.ledger m.now m.stopRequested m.wake = s.disconnect m.ledger)
    (hobserved : s.observed m = [.leaving]) (hfault : s.fault? m = none) :
    Turn s m (s.turn m) := by
  unfold turn
  rw [hstep, hobserved, hfault]
  unfold disconnect
  cases hbytes : s.encode .disconnect with
  | ok bytes => exact .departs bytes hp hbytes
  | error e => exact .cannotDepart e hp hbytes

theorem turn_serving {wake : Wake} (hp : s.phase = .serving) (h : s.phase.accepts wake = true) :
    Turn s ⟨l, now, stopRequested, wake⟩ (s.turn ⟨l, now, stopRequested, wake⟩) := by
  obtain ⟨config, port, phase, decoder, items, lastPing, lastError⟩ := s
  cases hp
  cases wake with
  | run =>
    cases stopRequested with
    | false => exact .works _ trivial trivial nofun rfl rfl rfl
    | true => exact turn_of_disconnect trivial rfl rfl rfl
  | _ => cases h

theorem turn_listening {wake : Wake} (hp : s.phase = .listening)
    (h : s.phase.accepts wake = true) :
    Turn s ⟨l, now, stopRequested, wake⟩ (s.turn ⟨l, now, stopRequested, wake⟩) := by
  obtain ⟨config, port, phase, decoder, items, lastPing, lastError⟩ := s
  cases hp
  cases wake with
  | stop => exact .works _ trivial trivial nofun rfl rfl rfl
  | abandoned => exact turn_of_disconnect trivial rfl rfl rfl
  | request r => exact .serves r rfl rfl
  | read result =>
    cases result with
    | error e => exact .fails items e (.inr trivial)
    | ok bytes =>
      cases bytes with
      | nil => exact .works _ trivial trivial nofun rfl rfl rfl
      | cons b bs =>
        have hlimit : (decoder.feed (b :: bs)).1.limit = decoder.limit := rfl
        unfold turn step observed fault? receive
        dsimp only
        cases hfeed : decoder.feed (b :: bs) with
        | mk decoder' r =>
          rw [hfeed] at hlimit
          cases r with
          | mk items' result =>
            cases result with
            | ok u => exact .reads decoder' (items ++ items') (b :: bs) rfl hlimit
            | error e => exact .chokes decoder' (items ++ items') (b :: bs) e (.inr trivial) hlimit
  | _ => cases h

/-- A response, and an event that is held back until it is written. -/
theorem turn_of_send {m : Moment} {p : Packet} {items : List DecodedItem} {event : Option Event}
    (hp : s.phase = .handling)
    (hstep : s.step m.ledger m.now m.stopRequested m.wake =
      { s with items }.send m.ledger (.response event) p)
    (hobserved : s.observed m = []) (hfault : s.fault? m = s.encodeError? p)
    (hevent : ∀ e ∈ event, e.IsDelivery) (htype : p.type.IsResponse) : Turn s m (s.turn m) := by
  unfold turn
  rw [hstep, hobserved, hfault]
  unfold send encodeError?
  cases hbytes : s.encode p with
  | ok bytes =>
    have hbytes' : { s with items }.encode p = .ok bytes := hbytes
    rw [hbytes']
    exact .responds items event p bytes hp hevent htype hbytes
  | error e =>
    have hbytes' : { s with items }.encode p = .error e := hbytes
    rw [hbytes']
    exact .fails items e (.inr (hp ▸ trivial))

/-- A message or the beginning of one, acknowledged as its level asks. -/
theorem turn_of_acknowledge {m : Moment} {p : Publish} {items : List DecodedItem} {e : Event}
    (hp : s.phase = .handling)
    (hstep : s.step m.ledger m.now m.stopRequested m.wake =
      { s with items }.acknowledge m.ledger p e)
    (hobserved : s.observed m = [])
    (hfault : s.fault? m = (responseTo (.packet (.publish p))).bind s.encodeError?)
    (he : e.IsDelivery) : Turn s m (s.turn m) := by
  have hevent : ∀ x ∈ some e, x.IsDelivery := by
    intro x hx
    cases hx
    exact he
  unfold acknowledge at hstep
  unfold responseTo at hfault
  cases hqos : p.qos with
  | atMostOnce =>
    simp only [hqos] at hstep hfault
    unfold turn
    rw [hstep, hobserved, hfault]
    exact .delivers items e hp he
  | atLeastOnce =>
    simp only [hqos] at hstep hfault
    exact turn_of_send hp hstep hobserved hfault hevent trivial
  | exactlyOnce =>
    simp only [hqos] at hstep hfault
    exact turn_of_send hp hstep hobserved hfault hevent trivial

theorem turn_of_settle {m : Moment} {kind : PacketType} {packetId : UInt16}
    {items : List DecodedItem} {e : Event} (hp : s.phase = .handling)
    (hstep : s.step m.ledger m.now m.stopRequested m.wake =
      { s with items }.settle m.ledger kind packetId e)
    (hobserved : s.observed m = []) (hfault : s.fault? m = none) (he : e.IsDelivery) :
    Turn s m (s.turn m) := by
  unfold turn
  rw [hstep, hobserved, hfault]
  unfold settle
  cases m.ledger.resolve kind packetId with
  | mk l' completed =>
    cases completed with
    | true => exact .delivers items e hp he
    | false => exact .works _ (hp ▸ trivial) trivial nofun rfl rfl rfl

theorem turn_of_item {item : DecodedItem} {rest : List DecodedItem} (hp : s.phase = .handling)
    (hitems : s.items = item :: rest) :
    Turn s ⟨l, now, stopRequested, .run⟩ (s.turn ⟨l, now, stopRequested, .run⟩) := by
  obtain ⟨config, port, phase, decoder, items, lastPing, lastError⟩ := s
  cases hp
  cases hitems
  cases item with
  | chunk c =>
    by_cases hfirst : c.offset = 0
    · have hstep : step ⟨config, port, .handling, decoder, .chunk c :: rest, lastPing, lastError⟩
          l now stopRequested .run = acknowledge
            ⟨config, port, .handling, decoder, rest, lastPing, lastError⟩ l c.publish
            (arrival c.publish c.data c.offset c.total) := if_pos hfirst
      have hresponse : responseTo (.chunk c) = responseTo (.packet (.publish c.publish)) :=
        if_pos hfirst
      exact turn_of_acknowledge rfl hstep rfl
        (congrArg (Option.bind · (encodeError? _)) hresponse) trivial
    · have hstep : step ⟨config, port, .handling, decoder, .chunk c :: rest, lastPing, lastError⟩
          l now stopRequested .run = goto
            ⟨config, port, .handling, decoder, rest, lastPing, lastError⟩ l .handling
            [.tell (arrival c.publish c.data c.offset c.total)] := if_neg hfirst
      have hresponse : responseTo (.chunk c) = none := if_neg hfirst
      have hfault : fault? ⟨config, port, .handling, decoder, .chunk c :: rest, lastPing, lastError⟩
          ⟨l, now, stopRequested, .run⟩ = none :=
        congrArg (Option.bind · (encodeError? _)) hresponse
      unfold turn
      rw [hstep, hfault]
      exact .delivers rest _ rfl trivial
  | packet p =>
    cases p with
    | publish p => exact turn_of_acknowledge rfl rfl rfl rfl trivial
    | puback i => exact turn_of_settle rfl rfl rfl rfl trivial
    | pubcomp i => exact turn_of_settle rfl rfl rfl rfl trivial
    | suback i codes => exact turn_of_settle rfl rfl rfl rfl trivial
    | unsuback i => exact turn_of_settle rfl rfl rfl rfl trivial
    | pubrel i => exact turn_of_send rfl rfl rfl rfl nofun trivial
    | pingreq => exact turn_of_send rfl rfl rfl rfl nofun trivial
    | pingresp => exact .works _ trivial trivial nofun rfl rfl rfl
    | pubrec i =>
      unfold turn step observed fault? handle itemError? responseTo encodeError?
      dsimp only [Option.bind_some]
      cases hbytes : encode ⟨config, port, .handling, decoder, .packet (.pubrec i) :: rest,
          lastPing, lastError⟩ (.pubrel i) with
      | ok bytes =>
        have hbytes' : encode ⟨config, port, .handling, decoder, rest, lastPing, lastError⟩
            (.pubrel i) = .ok bytes := hbytes
        rw [hbytes']
        exact .responds rest none (.pubrel i) bytes rfl nofun trivial hbytes
      | error e =>
        have hbytes' : encode ⟨config, port, .handling, decoder, rest, lastPing, lastError⟩
            (.pubrel i) = .error e := hbytes
        rw [hbytes']
        exact .fails rest e (.inr trivial)
    | _ => exact .fails rest .unexpectedPacket (.inr trivial)

theorem turn_of_nothing_to_handle (hp : s.phase = .handling) (hitems : s.items = []) :
    Turn s ⟨l, now, stopRequested, .run⟩ (s.turn ⟨l, now, stopRequested, .run⟩) := by
  obtain ⟨config, port, phase, decoder, items, lastPing, lastError⟩ := s
  cases hp
  cases hitems
  unfold turn step observed fault? listen
  dsimp only
  split
  · unfold send encodeError?
    cases hbytes : encode ⟨config, port, .handling, decoder, [], lastPing, lastError⟩ .pingreq with
    | ok bytes => exact .pings bytes rfl hbytes
    | error e => exact .fails [] e (.inr trivial)
  · exact .works _ trivial trivial nofun rfl rfl rfl

theorem turn_handling {wake : Wake} (hp : s.phase = .handling)
    (h : s.phase.accepts wake = true) :
    Turn s ⟨l, now, stopRequested, wake⟩ (s.turn ⟨l, now, stopRequested, wake⟩) := by
  cases wake with
  | run =>
    cases hitems : s.items with
    | nil => exact turn_of_nothing_to_handle hp hitems
    | cons item rest => exact turn_of_item hp hitems
  | _ =>
    rw [hp] at h
    cases h

theorem turn_pausing {deadline : Nat} {wake : Wake} (hp : s.phase = .pausing deadline)
    (h : s.phase.accepts wake = true) :
    Turn s ⟨l, now, stopRequested, wake⟩ (s.turn ⟨l, now, stopRequested, wake⟩) := by
  obtain ⟨config, port, phase, decoder, items, lastPing, lastError⟩ := s
  cases hp
  cases wake with
  | run =>
    cases stopRequested with
    | true => exact .leaves .stopped nofun
    | false =>
      by_cases hlate : deadline ≤ now
      · have hstep : step ⟨config, port, .pausing deadline, decoder, items, lastPing, lastError⟩ l
            now false .run =
              reopen ⟨config, port, .pausing deadline, decoder, items, lastPing, lastError⟩ l :=
          if_pos hlate
        unfold turn
        rw [hstep]
        exact .reopens deadline (.inl rfl)
      · have hstep : step ⟨config, port, .pausing deadline, decoder, items, lastPing, lastError⟩ l
            now false .run =
              goto ⟨config, port, .pausing deadline, decoder, items, lastPing, lastError⟩ l
                (.sleeping deadline) [] :=
          if_neg hlate
        unfold turn
        rw [hstep]
        exact .sleeps deadline rfl
  | _ => cases h

theorem turn_retrying {wake : Wake} (hp : s.phase = .retrying)
    (h : s.phase.accepts wake = true) :
    Turn s ⟨l, now, stopRequested, wake⟩ (s.turn ⟨l, now, stopRequested, wake⟩) := by
  obtain ⟨config, port, phase, decoder, items, lastPing, lastError⟩ := s
  cases hp
  cases wake with
  | run =>
    unfold turn step observed fault?
    dsimp only
    split
    · rename_i hreconnect
      exact .pauses (now + config.reconnectDelay) rfl hreconnect
    · exact .leaves .error nofun
  | _ => cases h

theorem turn_of_failing {m : Moment} (hp : s.phase = .failing) (hwake : m.wake = .run) :
    s.turn m = ({ s with phase := .retrying },
      (s.lastError.getD .connectionClosed).closing.map Mark.told) := by
  unfold turn step observed fault?
  rw [hp, hwake]
  dsimp only
  unfold tellFailure goto Error.closing
  dsimp only
  split <;> rfl

theorem turn_failing {wake : Wake} (hp : s.phase = .failing)
    (h : s.phase.accepts wake = true) :
    Turn s ⟨l, now, stopRequested, wake⟩ (s.turn ⟨l, now, stopRequested, wake⟩) := by
  cases wake with
  | run =>
    rw [turn_of_failing hp rfl]
    exact .reports hp
  | _ =>
    rw [hp] at h
    cases h

/-- Whatever a session finds, it takes one of its turns. -/
theorem turn_spec (s : Session) (m : Moment) : Turn s m (s.turn m) := by
  obtain ⟨l, now, stopRequested, wake⟩ := m
  cases haccepts : s.phase.accepts wake with
  | false =>
    rw [turn_of_not_accepts haccepts]
    exact .stays
  | true =>
    cases hp : s.phase with
    | connecting => exact turn_connecting hp haccepts
    | writing purpose => exact turn_writing hp haccepts
    | greeting deadline => exact turn_greeting hp haccepts
    | awaitingAnswer deadline => exact turn_awaitingAnswer hp haccepts
    | serving => exact turn_serving hp haccepts
    | handling => exact turn_handling hp haccepts
    | listening => exact turn_listening hp haccepts
    | failing => exact turn_failing hp haccepts
    | retrying => exact turn_retrying hp haccepts
    | pausing deadline => exact turn_pausing hp haccepts
    | opening =>
      obtain ⟨config, port, phase, decoder, items, lastPing, lastError⟩ := s
      cases hp
      cases wake with
      | run =>
        cases stopRequested with
        | true => exact .leaves .stopped nofun
        | false => exact .attempts rfl
      | _ => cases haccepts
    | sleeping deadline =>
      obtain ⟨config, port, phase, decoder, items, lastPing, lastError⟩ := s
      cases hp
      cases wake with
      | stop => exact .leaves .stopped nofun
      | abandoned => exact .leaves .stopped nofun
      | request r => exact .wakes deadline rfl
      | elapsed => exact .reopens deadline (.inr rfl)
      | _ => cases haccepts
    | leaving final =>
      obtain ⟨config, port, phase, decoder, items, lastPing, lastError⟩ := s
      cases hp
      cases wake with
      | run => exact .finishes final rfl
      | _ => cases haccepts
    | finished =>
      rw [hp] at haccepts
      cases wake <;> cases haccepts
    | crashed =>
      rw [hp] at haccepts
      cases wake <;> cases haccepts

end

/-! ### Runs -/

theorem play_cons (s : Session) (m : Moment) (ms : List Moment) :
    s.play (m :: ms) =
      (((s.turn m).1.play ms).1, (s.turn m).2 ++ ((s.turn m).1.play ms).2) := rfl

theorem play_append (s : Session) (first rest : List Moment) :
    s.play (first ++ rest) =
      (((s.play first).1.play rest).1, (s.play first).2 ++ ((s.play first).1.play rest).2) := by
  induction first generalizing s with
  | nil => rfl
  | cons m first ih =>
    rw [List.cons_append, play_cons, play_cons, ih, List.append_assoc]

theorem config_turn (s : Session) (m : Moment) : (s.turn m).1.config = s.config := by
  have hturn := turn_spec s m
  generalize s.turn m = r at hturn ⊢
  cases hturn with
  | works s' _ _ _ hconfig => exact hconfig
  | _ => rfl

theorem config_play (s : Session) (moments : List Moment) :
    (s.play moments).1.config = s.config := by
  induction moments generalizing s with
  | nil => rfl
  | cons m moments ih => exact (ih (s.turn m).1).trans (config_turn s m)

end Session
end Mqtt
