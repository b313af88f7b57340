import Mqtt.Proofs.Decoder.Segments
import Mqtt.Proofs.Session.Requests

/-!
What a session writes on a connection: first the greeting, and nothing else before the broker has
accepted it; at most one DISCONNECT, as the last that is written; and nothing after a write failed.
-/

namespace Mqtt
set_option autoImplicit false

/-- Whether what was received begins with the broker's acceptance. -/
def Accepts (limit : Nat) (received : List Bytes) : Prop :=
  ∃ sessionPresent, ((Decoder.new limit).feedAll received).2.1.head? =
    some (.packet (.connack sessionPresent .accepted))

theorem Accepts.append {limit : Nat} {received : List Bytes} (h : Accepts limit received)
    (more : List Bytes) : Accepts limit (received ++ more) := by
  obtain ⟨sessionPresent, hhead⟩ := h
  obtain ⟨items, hitems⟩ := (Decoder.new limit).items_feedAll_append received more
  refine ⟨sessionPresent, ?_⟩
  rw [hitems, List.head?_append, hhead]
  rfl

/-- The CONNECT of a configuration, within the size of its buffer. -/
def Config.greeting (c : Config) : Except Error Bytes :=
  (Encoder.new c.bufferSize).encode (.connect c.toConnect)

/-- What was seen of a connection. -/
structure Connection where
  /-- Oldest first. -/
  writes : List Bytes := []
  received : List Bytes := []
  /-- Whether the broker's acceptance was told. -/
  entered : Bool := false
  /-- Whether a write failed. -/
  broken : Bool := false
deriving DecidableEq

namespace Connection

/-- The connection that there is after a mark. -/
def next : Option Connection → Mark → Option Connection
  | _, .opened => some {}
  | _, .attempt | _, .closed => none
  | some k, .wrote bytes => some { k with writes := k.writes ++ [bytes] }
  | some k, .received bytes => some { k with received := k.received ++ [bytes] }
  | some k, .told (.connected _) => some { k with entered := true }
  | some k, .lost => some { k with broken := true }
  | k, _ => k

/-- The connection that there is after some marks. -/
def after (k : Option Connection) (marks : List Mark) : Option Connection := marks.foldl next k

/-- Whether these bytes may be written now. -/
structure Permits (k : Connection) (config : Config) (bytes : Bytes) : Prop where
  whole : k.broken = false
  present : ∀ w ∈ k.writes, PacketType.ofBytes? w ≠ some .disconnect
  first : k.writes = [] → config.greeting = .ok bytes
  later : ∀ c ws, k.writes = c :: ws → config.greeting = .ok c ∧ k.entered = true
    ∧ Accepts config.bufferSize k.received ∧ PacketType.ofBytes? bytes ≠ some .connect

end Connection

/-- What a mark demands of the connection before it and of the marks after it. -/
def Mark.Allowed (config : Config) (k : Option Connection) (rest : List Mark) : Mark → Prop
  | .wrote bytes => ∃ l, k = some l ∧ l.Permits config bytes
  | .opened => (∃ c more, config.greeting = .ok c ∧ rest = .wrote c :: more)
      ∨ ∃ e more, config.greeting = .error e ∧ rest = .fault e :: .closed :: more
  | _ => True

theorem Mark.Allowed.append {config : Config} {k : Option Connection} {rest : List Mark} {x : Mark}
    (h : x.Allowed config k rest) (more : List Mark) : x.Allowed config k (rest ++ more) := by
  cases x with
  | opened =>
    rcases h with ⟨c, more', hc, hrest⟩ | ⟨e, more', he, hrest⟩
    · exact .inl ⟨c, more' ++ more, hc, by rw [hrest]; rfl⟩
    · exact .inr ⟨e, more' ++ more, he, by rw [hrest]; rfl⟩
  | _ => exact h

/-- Whether the mark is neither a connection nor a write. -/
def Mark.IsQuiet : Mark → Prop
  | .opened | .wrote _ => False
  | _ => True

/-- Whether every mark is allowed where it stands. -/
def Orderly (config : Config) (k : Option Connection) : List Mark → Prop
  | [] => True
  | x :: rest => x.Allowed config k rest ∧ Orderly config (Connection.next k x) rest

namespace Orderly

variable {config : Config} {k : Option Connection} {front back : List Mark}

theorem append (hfront : Orderly config k front)
    (hback : Orderly config (Connection.after k front) back) :
    Orderly config k (front ++ back) := by
  induction front generalizing k with
  | nil => exact hback
  | cons x front ih => exact ⟨hfront.1.append back, ih hfront.2 hback⟩

theorem of_append (h : Orderly config k (front ++ back)) :
    Orderly config (Connection.after k front) back := by
  induction front generalizing k with
  | nil => exact h
  | cons x front ih => exact ih h.2

theorem allowed {x : Mark} (h : Orderly config k (front ++ x :: back)) :
    x.Allowed config (Connection.after k front) back := h.of_append.1

/-- Nothing is demanded where no connection is opened and nothing is written. -/
theorem of_quiet {marks : List Mark} (h : ∀ x ∈ marks, x.IsQuiet) : Orderly config k marks := by
  induction marks generalizing k with
  | nil => trivial
  | cons x marks ih =>
    obtain ⟨hx, hmarks⟩ := List.forall_mem_cons.mp h
    refine ⟨?_, ih hmarks⟩
    cases x with
    | opened | wrote => exact hx.elim
    | _ => trivial

end Orderly

namespace Connection

/-- The greeting was written and nothing else. -/
def Greeted (k : Option Connection) (s : Session) : Prop :=
  ∃ c received, s.config.greeting = .ok c ∧ k = some { writes := [c], received }
    ∧ (Decoder.new s.config.bufferSize).feedAll received = (s.decoder, s.items, .ok ())

/-- The broker has accepted, every write was done, and no leave was taken. -/
def Open (k : Option Connection) (config : Config) : Prop :=
  ∃ c ws received, config.greeting = .ok c
    ∧ k = some { writes := c :: ws, received, entered := true }
    ∧ Accepts config.bufferSize received
    ∧ ∀ w ∈ c :: ws, PacketType.ofBytes? w ≠ some .disconnect

variable {k : Option Connection} {config : Config} {bytes : Bytes}

theorem Open.permits (h : Open k config) (hkind : PacketType.ofBytes? bytes ≠ some .connect) :
    ∃ l, k = some l ∧ l.Permits config bytes := by
  obtain ⟨c, ws, received, hc, hk, haccepts, hpresent⟩ := h
  refine ⟨_, hk, rfl, hpresent, nofun, ?_⟩
  intro c' ws' hcons
  cases hcons
  exact ⟨hc, rfl, haccepts, hkind⟩

theorem Open.write (h : Open k config) (hkind : PacketType.ofBytes? bytes ≠ some .disconnect) :
    Open (next k (.wrote bytes)) config := by
  obtain ⟨c, ws, received, hc, hk, haccepts, hpresent⟩ := h
  refine ⟨c, ws ++ [bytes], received, hc, by rw [hk]; rfl, haccepts, ?_⟩
  intro w hw
  rw [← List.cons_append, List.mem_append, List.mem_singleton] at hw
  rcases hw with hw | hw
  · exact hpresent w hw
  · rw [hw]
    exact hkind

theorem Open.tell (h : Open k config) (e : Event) : Open (next k (.told e)) config := by
  have hnext : next k (.told e) = k := by
    obtain ⟨c, ws, received, _, hk, _⟩ := h
    rw [hk]
    cases e <;> rfl
  rw [hnext]
  exact h

theorem Open.receive (h : Open k config) (bytes : Bytes) :
    Open (next k (.received bytes)) config := by
  obtain ⟨c, ws, received, hc, hk, haccepts, hpresent⟩ := h
  exact ⟨c, ws, received ++ [bytes], hc, by rw [hk]; rfl, haccepts.append [bytes], hpresent⟩

end Connection

theorem Request.IsIssued.kind {r : Request} (h : r.IsIssued) :
    PacketType.ofBytes? r.packet ≠ some .connect
      ∧ PacketType.ofBytes? r.packet ≠ some .disconnect := by
  obtain ⟨encoder, p, hencode, htype, o, ho⟩ := h
  rw [Packet.ofBytes?_encode (Encoder.encode_eq_ok_iff.mp hencode).1, htype, ho]
  cases o <;> exact ⟨nofun, nofun⟩

theorem Phase.not_isConnected_of_isAttempt {phase : Phase} (h : phase.IsAttempt) :
    ¬ phase.IsConnected := by
  cases phase with
  | writing purpose =>
    cases purpose with
    | greeting => exact id
    | _ => cases h
  | connecting | greeting _ | awaitingAnswer _ => exact id
  | _ => cases h

namespace Session

variable {s : Session} {m : Moment} {k : Option Connection}

/-- How a session and its connection belong together. -/
structure Keeps (s : Session) (k : Option Connection) : Prop where
  limit : s.decoder.limit = s.config.bufferSize
  fresh : s.phase = .connecting → s.decoder = .new s.config.bufferSize ∧ s.items = []
  greeted : s.phase.IsAttempt → s.phase ≠ .connecting → Connection.Greeted k s
  connected : s.phase.IsConnected → Connection.Open k s.config

theorem Keeps.of_idle (hlimit : s.decoder.limit = s.config.bufferSize)
    (hattempt : ¬ s.phase.IsAttempt) (hconnected : ¬ s.phase.IsConnected) : Keeps s k where
  limit := hlimit
  fresh := by
    intro hp
    rw [hp] at hattempt
    exact absurd trivial hattempt
  greeted h := absurd h hattempt
  connected h := absurd h hconnected

theorem Keeps.of_connected (hlimit : s.decoder.limit = s.config.bufferSize)
    (hp : s.phase.IsConnected) (hopen : Connection.Open k s.config) : Keeps s k where
  limit := hlimit
  fresh := by
    intro hp'
    rw [hp'] at hp
    cases hp
  greeted hattempt := absurd hp (Phase.not_isConnected_of_isAttempt hattempt)
  connected _ := hopen

theorem ofBytes?_of_encode {p : Packet} {bytes : Bytes} (h : s.encode p = .ok bytes) :
    PacketType.ofBytes? bytes = some p.type :=
  Packet.ofBytes?_encode (Encoder.encode_eq_ok_iff.mp h).1

/-- A turn whose marks are in order, and after which a session and its connection still belong
together. -/
structure Carries (s : Session) (k : Option Connection) (r : Session × List Mark) : Prop where
  orderly : Orderly s.config k r.2
  keeps : Keeps r.1 (Connection.after k r.2)

/-- A turn to a session that is not connected, without a connection and a write. -/
theorem Carries.of_idle {s' : Session} {marks : List Mark} (hmarks : ∀ x ∈ marks, x.IsQuiet)
    (hlimit : s'.decoder.limit = s'.config.bufferSize) (hattempt : ¬ s'.phase.IsAttempt)
    (hconnected : ¬ s'.phase.IsConnected) : Carries s k (s', marks) :=
  ⟨.of_quiet hmarks, .of_idle hlimit hattempt hconnected⟩

theorem Keeps.attempts (h : Keeps s k) : Carries s k ({ s with
    phase := .connecting, decoder := s.decoder.reset, items := [], lastError := none },
    [.attempt]) := by
  refine ⟨⟨trivial, trivial⟩, h.limit, ?_, ?_, nofun⟩
  · intro _
    refine ⟨?_, rfl⟩
    change Decoder.mk s.decoder.limit .start = Decoder.new s.config.bufferSize
    rw [h.limit]
    rfl
  · intro _ hne
    exact absurd rfl hne

theorem Keeps.greets (h : Keeps s k) {c : Bytes} (hp : s.phase = .connecting)
    (hc : s.encode (.connect s.config.toConnect) = .ok c) :
    Carries s k ({ s with phase := .writing .greeting }, [.opened, .wrote c]) := by
  obtain ⟨hdecoder, hitems⟩ := h.fresh hp
  refine ⟨⟨.inl ⟨c, [], hc, rfl⟩, ⟨_, rfl, rfl, nofun, fun _ => hc, nofun⟩, trivial⟩, h.limit,
    nofun, ?_, nofun⟩
  intro _ _
  refine ⟨c, [], hc, rfl, ?_⟩
  change _ = (s.decoder, s.items, _)
  rw [hdecoder, hitems]
  rfl

theorem Keeps.cannotGreet (h : Keeps s k) {e : Error}
    (he : s.encode (.connect s.config.toConnect) = .error e) :
    Carries s k (s.failed e, [.opened, .fault e, .closed]) :=
  ⟨⟨.inr ⟨e, [], he, rfl⟩, trivial, trivial, trivial⟩, .of_idle h.limit id id⟩

theorem Keeps.waits (h : Keeps s k) {deadline : Nat} {phase : Phase}
    (hp : s.phase = .writing .greeting ∨ s.phase = .greeting deadline
      ∨ s.phase = .awaitingAnswer deadline)
    (hphase : phase = .greeting deadline ∨ phase = .awaitingAnswer deadline) :
    Carries s k ({ s with phase }, []) := by
  have hgreeted : Connection.Greeted k s := by
    rcases hp with hp | hp | hp
    · exact h.greeted (hp ▸ trivial) (hp ▸ nofun)
    · exact h.greeted (hp ▸ trivial) (hp ▸ nofun)
    · exact h.greeted (hp ▸ trivial) (hp ▸ nofun)
  refine ⟨trivial, ?_⟩
  rcases hphase with rfl | rfl
  · exact ⟨h.limit, nofun, fun _ _ => hgreeted, nofun⟩
  · exact ⟨h.limit, nofun, fun _ _ => hgreeted, nofun⟩

theorem Keeps.hears (h : Keeps s k) {deadline : Nat} {bytes : Bytes}
    (hp : s.phase = .awaitingAnswer deadline) (hgood : (s.decoder.feed bytes).2.2 = .ok ()) :
    Carries s k ({ s with
      phase := .greeting deadline, decoder := (s.decoder.feed bytes).1
      items := s.items ++ (s.decoder.feed bytes).2.1 }, [.received bytes]) := by
  obtain ⟨c, received, hc, hk, hfeed⟩ := h.greeted (hp ▸ trivial) (hp ▸ nofun)
  refine ⟨⟨trivial, trivial⟩, h.limit, nofun, ?_, nofun⟩
  intro _ _
  refine ⟨c, received ++ [bytes], hc, ?_, Decoder.feedAll_concat hfeed hgood⟩
  rw [hk]
  rfl

theorem Keeps.enters (h : Keeps s k) {deadline now : Nat} {sessionPresent : Bool}
    {rest : List DecodedItem} (hp : s.phase = .greeting deadline)
    (hitems : s.items = .packet (.connack sessionPresent .accepted) :: rest) :
    Carries s k ({ s with phase := .serving, items := rest, lastPing := now },
      [.told (.connected sessionPresent)]) := by
  obtain ⟨c, received, hc, hk, hfeed⟩ := h.greeted (hp ▸ trivial) (hp ▸ nofun)
  refine ⟨⟨trivial, trivial⟩, .of_connected h.limit trivial ?_⟩
  refine ⟨c, [], received, hc, ?_, ⟨sessionPresent, ?_⟩, ?_⟩
  · rw [hk]
    rfl
  · rw [hfeed, hitems]
    rfl
  · intro w hw
    rw [List.mem_singleton.mp hw, ofBytes?_of_encode (s := s) hc]
    exact nofun

theorem Keeps.works (h : Keeps s k) {s' : Session} (hp : s.phase.IsConnected)
    (hp' : s'.phase.IsConnected) (hconfig : s'.config = s.config)
    (hdecoder : s'.decoder = s.decoder) : Carries s k (s', []) := by
  have hopen := h.connected hp
  rw [← hconfig] at hopen
  refine ⟨trivial, .of_connected ?_ hp' hopen⟩
  rw [hdecoder, hconfig]
  exact h.limit

/-- A connected session is told something. -/
theorem Keeps.tells (h : Keeps s k) (hp : s.phase.IsConnected) (e : Event)
    (items : List DecodedItem) :
    Carries s k ({ s with phase := .handling, items }, [.told e]) :=
  ⟨⟨trivial, trivial⟩, .of_connected h.limit trivial ((h.connected hp).tell e)⟩

/-- A connected session writes a packet that is neither a CONNECT nor a DISCONNECT. -/
theorem Keeps.writes (h : Keeps s k) (hp : s.phase.IsConnected) {bytes : Bytes} {purpose : Purpose}
    {items : List DecodedItem} (hp' : (Phase.writing purpose).IsConnected)
    (hconnect : PacketType.ofBytes? bytes ≠ some .connect)
    (hdisconnect : PacketType.ofBytes? bytes ≠ some .disconnect) :
    Carries s k ({ s with phase := .writing purpose, items }, [.wrote bytes]) := by
  have hopen := h.connected hp
  exact ⟨⟨hopen.permits hconnect, trivial⟩, .of_connected h.limit hp' (hopen.write hdisconnect)⟩

/-- The last that a session writes. -/
theorem Keeps.departs (h : Keeps s k) (hp : s.phase.IsConnected) {bytes : Bytes}
    (hbytes : s.encode .disconnect = .ok bytes) :
    Carries s k ({ s with phase := .writing .farewell }, [.leaving, .wrote bytes]) := by
  have hconnect : PacketType.ofBytes? bytes ≠ some .connect := by
    rw [ofBytes?_of_encode hbytes]
    exact nofun
  obtain ⟨l, hl, hpermits⟩ := (h.connected hp).permits hconnect
  refine ⟨⟨trivial, ⟨l, ?_, hpermits⟩, trivial⟩, .of_idle h.limit id id⟩
  rw [hl]
  rfl

end Session

end Mqtt
