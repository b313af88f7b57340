import Mqtt.Proofs.Session.Chronicle

/-!
The events of a session. They come in rounds: an attempt, perhaps a time of being connected, the
error that ended it, and then the one disconnection that tells of this error. After the last round
there may be an attempt, or a connection, that no error has ended.
-/

namespace Mqtt
set_option autoImplicit false

/-- What is told while connected. -/
structure Span where
  sessionPresent : Bool
  deliveries : List Event
  proper : ∀ e ∈ deliveries, e.IsDelivery

namespace Span

def events (x : Span) : List Event := .connected x.sessionPresent :: x.deliveries

def eventsOf : Option Span → List Event
  | none => []
  | some x => x.events

def extend (x : Span) (e : Event) (he : e.IsDelivery) : Span where
  sessionPresent := x.sessionPresent
  deliveries := x.deliveries ++ [e]
  proper := List.forall_mem_append.mpr ⟨x.proper, List.forall_mem_singleton.mpr he⟩

theorem events_extend (x : Span) (e : Event) (he : e.IsDelivery) :
    (x.extend e he).events = x.events ++ [e] := rfl

end Span

/-- An attempt that an error ended, before or after the broker accepted. -/
structure Round where
  span : Option Span
  error : Error

namespace Round

def marks (r : Round) : List Mark :=
  .attempt :: (Span.eventsOf r.span).map .told ++ .fault r.error :: r.error.closing.map .told

def events (r : Round) : List Event := Span.eventsOf r.span ++ r.error.closing

end Round

/-- What comes after the last round. -/
inductive Rest where
  | nothing
  | running (span : Option Span)
  /-- An error has come and has not been told. -/
  | faulted (span : Option Span) (e : Error)

namespace Rest

def marks : Rest → List Mark
  | nothing => []
  | running span => .attempt :: (Span.eventsOf span).map .told
  | faulted span e => .attempt :: (Span.eventsOf span).map .told ++ [.fault e]

def events : Rest → List Event
  | nothing => []
  | running span | faulted span _ => Span.eventsOf span

/-- Whether every error has been told. -/
def IsSettled : Rest → Prop
  | faulted _ _ => False
  | _ => True

end Rest

namespace Mark

/-- Whether a mark belongs to the story that the events tell. -/
def isTale : Mark → Bool
  | attempt | fault _ | told _ => true
  | _ => false

def event? : Mark → Option Event
  | told e => some e
  | _ => none

def events (marks : List Mark) : List Event := marks.filterMap event?

theorem events_append (xs ys : List Mark) : events (xs ++ ys) = events xs ++ events ys :=
  List.filterMap_append

theorem events_told (es : List Event) : events (es.map told) = es := by
  induction es with
  | nil => rfl
  | cons e es ih => exact congrArg (e :: ·) ih

theorem events_tale (marks : List Mark) : events (marks.filter isTale) = events marks := by
  induction marks with
  | nil => rfl
  | cons x marks ih =>
    cases x with
    | told e => exact congrArg (e :: ·) ih
    | _ => exact ih

end Mark

/-- Rounds, and what comes after them. -/
def Tells (marks : List Mark) (rounds : List Round) (rest : Rest) : Prop :=
  marks.filter Mark.isTale = rounds.flatMap Round.marks ++ rest.marks

namespace Tells

variable {marks more : List Mark} {rounds : List Round} {rest : Rest}

theorem append (h : Tells marks rounds rest) {rest' : Rest}
    (hmore : rest'.marks = rest.marks ++ more.filter Mark.isTale) :
    Tells (marks ++ more) rounds rest' := by
  unfold Tells at h ⊢
  rw [List.filter_append, h, hmore, List.append_assoc]

theorem silent (h : Tells marks rounds rest) (hmore : more.filter Mark.isTale = []) :
    Tells (marks ++ more) rounds rest :=
  h.append (by rw [hmore, List.append_nil])

/-- The error is told, and the round is over. -/
theorem close {span : Option Span} {e : Error} (h : Tells marks rounds (.faulted span e)) :
    Tells (marks ++ e.closing.map .told) (rounds ++ [⟨span, e⟩]) .nothing := by
  have hall : (e.closing.map Mark.told).filter Mark.isTale = e.closing.map .told := by
    apply List.filter_eq_self.mpr
    intro x hx
    obtain ⟨y, _, hy⟩ := List.mem_map.mp hx
    rw [← hy]
    rfl
  unfold Tells at h ⊢
  rw [List.filter_append, h, hall, List.flatMap_append]
  simp [Rest.marks, Round.marks]

theorem events_eq (h : Tells marks rounds rest) :
    Mark.events marks = rounds.flatMap Round.events ++ rest.events := by
  have hround : ∀ r : Round, Mark.events r.marks = r.events := by
    intro r
    have hsplit : r.marks = [.attempt] ++ (Span.eventsOf r.span).map .told ++ [.fault r.error]
        ++ r.error.closing.map .told := by
      simp [Round.marks]
    rw [hsplit]
    simp only [Mark.events_append, Mark.events_told]
    exact congrArg (· ++ _) (List.append_nil _)
  have hrounds : Mark.events (rounds.flatMap Round.marks) = rounds.flatMap Round.events := by
    clear h
    induction rounds with
    | nil => rfl
    | cons r rounds ih =>
      rw [List.flatMap_cons, List.flatMap_cons, Mark.events_append, hround, ih]
  have hrest : Mark.events rest.marks = rest.events := by
    cases rest with
    | nothing => rfl
    | running span => exact Mark.events_told _
    | faulted span e =>
      change Mark.events ((Mark.attempt :: (Span.eventsOf span).map .told) ++ [.fault e]) = _
      rw [Mark.events_append]
      exact (List.append_nil _).trans (Mark.events_told _)
  unfold Tells at h
  rw [← Mark.events_tale, h, Mark.events_append, hrounds, hrest]

end Tells

namespace Session

/-- Without reconnecting the only round is the last. -/
def Once (s : Session) (rounds : List Round) (rest : Rest) : Prop :=
  s.config.autoReconnect = false → rounds = [] ∨ (∃ r, rounds = [r]) ∧ rest = .nothing

/-- How the story stands in each phase. -/
def Fits (s : Session) (rounds : List Round) (rest : Rest) : Prop :=
  match s.phase with
  | .opening | .pausing _ | .sleeping _ =>
    rest = .nothing ∧ (s.config.autoReconnect = false → rounds = [])
  | .connecting | .writing .greeting | .greeting _ | .awaitingAnswer _ =>
    rest = .running none ∧ s.lastError = none ∧ (s.config.autoReconnect = false → rounds = [])
  | .serving | .handling | .listening | .writing (.request _) | .writing .ping
  | .writing (.response none) =>
    (∃ span, rest = .running (some span)) ∧ s.lastError = none
      ∧ (s.config.autoReconnect = false → rounds = [])
  | .writing (.response (some e)) =>
    (∃ span, rest = .running (some span)) ∧ s.lastError = none
      ∧ (s.config.autoReconnect = false → rounds = []) ∧ e.IsDelivery
  | .failing =>
    (∃ span e, rest = .faulted span e ∧ s.lastError = some e)
      ∧ (s.config.autoReconnect = false → rounds = [])
  | .retrying => rest = .nothing ∧ s.Once rounds rest
  | .writing .farewell | .leaving _ | .finished | .crashed =>
    rest.IsSettled ∧ s.Once rounds rest

variable {s : Session} {rounds : List Round} {rest : Rest}

theorem Fits.of_isAttempt (h : s.Fits rounds rest) (hp : s.phase.IsAttempt) :
    rest = .running none ∧ s.lastError = none ∧ (s.config.autoReconnect = false → rounds = []) := by
  unfold Fits at h
  cases hphase : s.phase with
  | writing purpose =>
    rw [hphase] at h hp
    cases purpose with
    | greeting => exact h
    | _ => cases hp
  | connecting | greeting _ | awaitingAnswer _ =>
    rw [hphase] at h
    exact h
  | _ =>
    rw [hphase] at hp
    cases hp

theorem Fits.of_isConnected (h : s.Fits rounds rest) (hp : s.phase.IsConnected) :
    (∃ span, rest = .running (some span)) ∧ s.lastError = none
      ∧ (s.config.autoReconnect = false → rounds = []) := by
  unfold Fits at h
  cases hphase : s.phase with
  | writing purpose =>
    rw [hphase] at h hp
    cases purpose with
    | request _ | ping => exact h
    | response event =>
      cases event with
      | none => exact h
      | some e => exact ⟨h.1, h.2.1, h.2.2.1⟩
    | greeting | farewell => cases hp
  | serving | handling | listening =>
    rw [hphase] at h
    exact h
  | _ =>
    rw [hphase] at hp
    cases hp

theorem Fits.settled (h : s.Fits rounds rest) (hp : s.phase ≠ .failing) :
    rest.IsSettled ∧ s.Once rounds rest := by
  by_cases hattempt : s.phase.IsAttempt
  · obtain ⟨hrest, _, honce⟩ := h.of_isAttempt hattempt
    rw [hrest]
    exact ⟨trivial, fun hoff => .inl (honce hoff)⟩
  by_cases hconnected : s.phase.IsConnected
  · obtain ⟨⟨span, hrest⟩, _, honce⟩ := h.of_isConnected hconnected
    rw [hrest]
    exact ⟨trivial, fun hoff => .inl (honce hoff)⟩
  unfold Fits at h
  cases hphase : s.phase with
  | failing => exact absurd hphase hp
  | opening | pausing _ | sleeping _ =>
    rw [hphase] at h
    obtain ⟨hrest, honce⟩ := h
    rw [hrest]
    exact ⟨trivial, fun hoff => .inl (honce hoff)⟩
  | connecting | greeting _ | awaitingAnswer _ =>
    rw [hphase] at hattempt
    exact absurd trivial hattempt
  | serving | handling | listening =>
    rw [hphase] at hconnected
    exact absurd trivial hconnected
  | retrying =>
    rw [hphase] at h
    obtain ⟨hrest, honce⟩ := h
    refine ⟨?_, honce⟩
    rw [hrest]
    trivial
  | leaving _ | finished | crashed =>
    rw [hphase] at h
    exact h
  | writing purpose =>
    rw [hphase] at h hattempt hconnected
    cases purpose with
    | farewell => exact h
    | greeting => exact absurd trivial hattempt
    | _ => exact absurd trivial hconnected

theorem fits_of_isAttempt (hrest : rest = .running none) (hnone : s.lastError = none)
    (honce : s.config.autoReconnect = false → rounds = []) (hp : s.phase.IsAttempt) :
    s.Fits rounds rest := by
  unfold Fits
  cases hphase : s.phase with
  | connecting | greeting _ | awaitingAnswer _ => exact ⟨hrest, hnone, honce⟩
  | writing purpose =>
    rw [hphase] at hp
    cases purpose with
    | greeting => exact ⟨hrest, hnone, honce⟩
    | _ => cases hp
  | _ =>
    rw [hphase] at hp
    cases hp

/-- Still no answer from the broker, and nothing told. -/
theorem Fits.stay_attempting (h : s.Fits rounds rest) (hp : s.phase.IsAttempt) {s' : Session}
    (hp' : s'.phase.IsAttempt) (hlast : s'.lastError = s.lastError)
    (hconfig : s'.config = s.config) : s'.Fits rounds rest := by
  obtain ⟨hrest, hnone, honce⟩ := h.of_isAttempt hp
  exact fits_of_isAttempt hrest (hlast.trans hnone) (hconfig ▸ honce) hp'

/-- From here on nothing is told. -/
theorem Fits.ended (h : s.Fits rounds rest) (hp : s.phase ≠ .failing) {s' : Session}
    (hp' : s'.phase.IsEnding) (hconfig : s'.config = s.config) : s'.Fits rounds rest := by
  obtain ⟨hsettled, honce⟩ := h.settled hp
  have honce' : s'.Once rounds rest := by
    unfold Once
    rw [hconfig]
    exact honce
  unfold Fits
  cases hphase : s'.phase with
  | leaving _ | finished => exact ⟨hsettled, honce'⟩
  | writing purpose =>
    rw [hphase] at hp'
    cases purpose with
    | farewell => exact ⟨hsettled, honce'⟩
    | _ => cases hp'
  | _ =>
    rw [hphase] at hp'
    cases hp'

theorem Fits.of_failing (h : s.Fits rounds rest) (hp : s.phase = .failing) :
    (∃ span e, rest = .faulted span e ∧ s.lastError.getD .connectionClosed = e)
      ∧ (s.config.autoReconnect = false → rounds = []) := by
  unfold Fits at h
  rw [hp] at h
  obtain ⟨⟨span, e, hrest, hlast⟩, honce⟩ := h
  exact ⟨⟨span, e, hrest, by rw [hlast]; rfl⟩, honce⟩

theorem Fits.of_pause (h : s.Fits rounds rest) {deadline : Nat}
    (hp : s.phase = .pausing deadline ∨ s.phase = .sleeping deadline) :
    rest = .nothing ∧ (s.config.autoReconnect = false → rounds = []) := by
  unfold Fits at h
  rcases hp with hp | hp
  · rwa [hp] at h
  · rwa [hp] at h

/-- The error is told that ended the round. -/
theorem Fits.report {marks : List Mark} (h : s.Fits rounds rest) (htells : Tells marks rounds rest)
    (hp : s.phase = .failing) :
    ∃ rounds', Tells (marks ++ (s.lastError.getD .connectionClosed).closing.map .told) rounds'
        .nothing
      ∧ Fits { s with phase := .retrying } rounds' .nothing := by
  obtain ⟨⟨span, e, hrest, herror⟩, honce⟩ := h.of_failing hp
  subst hrest
  rw [herror]
  refine ⟨rounds ++ [⟨span, e⟩], htells.close, rfl, ?_⟩
  intro hoff
  refine .inr ⟨⟨⟨span, e⟩, ?_⟩, rfl⟩
  rw [honce hoff]
  rfl

/-- Whatever the session was busy with, an error is the first one of this round. -/
theorem Fits.failed {marks : List Mark} (h : s.Fits rounds rest) (obs : List Mark)
    (htells : Tells marks rounds rest) (hp : s.phase.IsAttempt ∨ s.phase.IsConnected)
    (hobs : obs.filter Mark.isTale = []) (e : Error) (s' : Session)
    (hlast : s'.lastError = s.lastError) (hconfig : s'.config = s.config) :
    ∃ rest', Tells (marks ++ (obs ++ [.fault e, .closed])) rounds rest'
      ∧ (s'.failed e).Fits rounds rest' := by
  have hspan : ∃ span, rest = .running span ∧ s.lastError = none
      ∧ (s.config.autoReconnect = false → rounds = []) := by
    rcases hp with hp | hp
    · obtain ⟨hrest, hnone, honce⟩ := h.of_isAttempt hp
      exact ⟨none, hrest, hnone, honce⟩
    · obtain ⟨⟨span, hrest⟩, hnone, honce⟩ := h.of_isConnected hp
      exact ⟨some span, hrest, hnone, honce⟩
  obtain ⟨span, hrest, hnone, honce⟩ := hspan
  subst hrest
  refine ⟨.faulted span e, htells.append ?_, ⟨span, e, rfl, ?_⟩, ?_⟩
  · rw [List.filter_append, hobs]
    rfl
  · change some (s'.lastError.getD e) = some e
    rw [hlast, hnone]
    rfl
  · change s'.config.autoReconnect = false → rounds = []
    rw [hconfig]
    exact honce

/-- A delivery goes to the end of what was told while connected. -/
theorem Fits.deliver {marks : List Mark} (h : s.Fits rounds rest)
    (htells : Tells marks rounds rest) (hp : s.phase.IsConnected) {e : Event} (he : e.IsDelivery)
    (s' : Session) (hp' : s'.phase = .handling) (hlast : s'.lastError = s.lastError)
    (hconfig : s'.config = s.config) :
    ∃ rest', Tells (marks ++ [.told e]) rounds rest' ∧ s'.Fits rounds rest' := by
  obtain ⟨⟨span, hrest⟩, hnone, honce⟩ := h.of_isConnected hp
  subst hrest
  refine ⟨.running (some (span.extend e he)), htells.append ?_, ?_⟩
  · simp [Rest.marks, Span.eventsOf, Span.events_extend]
    rfl
  · unfold Fits
    rw [hp', hlast, hconfig]
    exact ⟨⟨_, rfl⟩, hnone, honce⟩

/-- Still connected, and nothing told. -/
theorem Fits.stay_connected (h : s.Fits rounds rest) (hp : s.phase.IsConnected) {s' : Session}
    (hp' : s'.phase.IsConnected)
    (hheld : ∀ e, s'.phase = .writing (.response (some e)) → e.IsDelivery)
    (hlast : s'.lastError = s.lastError) (hconfig : s'.config = s.config) :
    s'.Fits rounds rest := by
  obtain ⟨hrest, hnone, honce⟩ := h.of_isConnected hp
  unfold Fits
  rw [hlast, hconfig]
  cases hphase : s'.phase with
  | serving | handling | listening => exact ⟨hrest, hnone, honce⟩
  | writing purpose =>
    cases purpose with
    | request _ | ping => exact ⟨hrest, hnone, honce⟩
    | response event =>
      cases event with
      | none => exact ⟨hrest, hnone, honce⟩
      | some e => exact ⟨hrest, hnone, honce, hheld e hphase⟩
    | greeting | farewell =>
      rw [hphase] at hp'
      cases hp'
  | _ =>
    rw [hphase] at hp'
    cases hp'

/-- An event that a response was written for first. -/
theorem Fits.isDelivery (h : s.Fits rounds rest) {e : Event}
    (hp : s.phase = .writing (.response (some e))) : e.IsDelivery := by
  unfold Fits at h
  rw [hp] at h
  exact h.2.2.2

/-- The story goes on as the session does. -/
def Continues (marks : List Mark) (s : Session) : Prop :=
  ∃ rounds rest, Tells marks rounds rest ∧ s.Fits rounds rest

theorem Continues.silent {marks more : List Mark} {s' : Session} (htells : Tells marks rounds rest)
    (hmore : more.filter Mark.isTale = []) (hfits : s'.Fits rounds rest) :
    Continues (marks ++ more) s' :=
  ⟨rounds, rest, htells.silent hmore, hfits⟩

theorem story_turn {marks : List Mark} (htells : Tells marks rounds rest)
    (h : s.Fits rounds rest) (m : Moment) : Continues (marks ++ (s.turn m).2) (s.turn m).1 := by
  have hturn := turn_spec s m
  generalize s.turn m = r at hturn ⊢
  cases hturn with
  | stays => exact .silent htells rfl h
  | attempts hp =>
    unfold Fits at h
    rw [hp] at h
    obtain ⟨hrest, honce⟩ := h
    subst hrest
    exact ⟨rounds, .running none, htells.append rfl, rfl, rfl, honce⟩
  | greets hp hc => exact .silent htells rfl (h.stay_attempting (hp ▸ trivial) trivial rfl rfl)
  | waits deadline hp phase hphase =>
    have hattempt : s.phase.IsAttempt := by
      rcases hp with hp | hp | hp <;> exact hp ▸ trivial
    have hattempt' : phase.IsAttempt := by
      rcases hphase with hphase | hphase <;> exact hphase ▸ trivial
    exact .silent htells rfl (h.stay_attempting hattempt hattempt' rfl rfl)
  | hears deadline bytes hp _ =>
    exact .silent htells rfl (h.stay_attempting (hp ▸ trivial) trivial rfl rfl)
  | enters deadline sessionPresent items hp _ =>
    obtain ⟨hrest, hnone, honce⟩ := h.of_isAttempt (hp ▸ trivial)
    subst hrest
    exact ⟨rounds, .running (some ⟨sessionPresent, [], nofun⟩), htells.append rfl, ⟨_, rfl⟩, hnone,
      honce⟩
  | cannotGreet hp he =>
    exact ⟨rounds, h.failed [.opened] htells (.inl (hp ▸ trivial)) rfl _ s rfl rfl⟩
  | fails items e hp => exact ⟨rounds, h.failed [] htells hp rfl e { s with items } rfl rfl⟩
  | loses e hp => exact ⟨rounds, h.failed [.lost] htells hp rfl e s rfl rfl⟩
  | chokes decoder items bytes e hp =>
    exact ⟨rounds, h.failed [.received bytes] htells hp rfl e { s with decoder, items } rfl rfl⟩
  | works s' hp hp' hidle hconfig hlast =>
    exact .silent htells rfl
      (h.stay_connected hp hp' (fun e he => absurd he (hidle _)) hlast hconfig)
  | reads decoder items bytes hp =>
    exact .silent htells rfl (h.stay_connected (hp ▸ trivial) trivial nofun rfl rfl)
  | delivers items e hp he =>
    exact ⟨rounds, h.deliver htells (hp ▸ trivial) he _ rfl rfl rfl⟩
  | confirms e hp =>
    exact ⟨rounds, h.deliver htells (hp ▸ trivial) (h.isDelivery hp) _ rfl rfl rfl⟩
  | responds items event p bytes hp hevent _ _ =>
    refine .silent htells rfl (h.stay_connected (hp ▸ trivial) trivial ?_ rfl rfl)
    intro e he
    cases he
    exact hevent e rfl
  | pings bytes hp _ =>
    exact .silent htells rfl (h.stay_connected (hp ▸ trivial) trivial nofun rfl rfl)
  | serves r hp _ =>
    exact .silent htells rfl (h.stay_connected (hp ▸ trivial) trivial nofun rfl rfl)
  | leaves final hp => exact .silent htells rfl (h.ended hp trivial rfl)
  | departs bytes hp _ => exact .silent htells rfl (h.ended hp.ne_failing trivial rfl)
  | cannotDepart e hp _ => exact .silent htells rfl (h.ended hp.ne_failing trivial rfl)
  | departed hp => exact .silent htells rfl (h.ended (hp ▸ nofun) trivial rfl)
  | departedUnheard hp => exact .silent htells rfl (h.ended (hp ▸ nofun) trivial rfl)
  | finishes final hp => exact .silent htells rfl (h.ended (hp ▸ nofun) trivial rfl)
  | reports hp =>
    obtain ⟨rounds', htells', hfits⟩ := h.report htells hp
    exact ⟨rounds', .nothing, htells', hfits⟩
  | pauses deadline hp hr =>
    unfold Fits at h
    rw [hp] at h
    exact .silent htells rfl ⟨h.1, fun hoff => by cases hr.symm.trans hoff⟩
  | sleeps deadline hp => exact .silent htells rfl (h.of_pause (.inl hp))
  | wakes deadline hp => exact .silent htells rfl (h.of_pause (.inr hp))
  | reopens deadline hp => exact .silent htells rfl (h.of_pause hp)

theorem story_play {marks : List Mark} (htells : Tells marks rounds rest)
    (h : s.Fits rounds rest) (moments : List Moment) :
    Continues (marks ++ (s.play moments).2) (s.play moments).1 := by
  induction moments generalizing s marks rounds rest with
  | nil => exact .silent htells rfl h
  | cons m moments ih =>
    obtain ⟨rounds', rest', htells', hfits⟩ := story_turn htells h m
    have hplay := ih htells' hfits
    rw [List.append_assoc] at hplay
    exact hplay

/-- A session that is ending tells nothing more. -/
theorem ending_turn {m : Moment} (h : s.phase.IsEnding) :
    (s.turn m).1.phase.IsEnding ∧ Mark.events (s.turn m).2 = [] := by
  obtain ⟨config, port, phase, decoder, items, lastPing, lastError⟩ := s
  obtain ⟨l, now, stopRequested, wake⟩ := m
  cases phase with
  | writing purpose =>
    cases purpose with
    | farewell =>
      cases wake with
      | written result => cases result <;> exact ⟨trivial, rfl⟩
      | _ => exact ⟨trivial, rfl⟩
    | _ => cases h
  | leaving final => cases wake <;> exact ⟨trivial, rfl⟩
  | finished => cases wake <;> exact ⟨trivial, rfl⟩
  | _ => cases h

theorem events_of_ending (h : s.phase.IsEnding) (moments : List Moment) :
    Mark.events (s.play moments).2 = [] := by
  induction moments generalizing s with
  | nil => rfl
  | cons m moments ih =>
    obtain ⟨hending, hnone⟩ := ending_turn (m := m) h
    rw [play_cons, Mark.events_append, hnone, ih hending]
    rfl

/-- The events of every run of a session come in rounds. Each round is an attempt, perhaps a time of
being connected, the error that ended it, and one disconnection with this error. After the last
round the session has told that it is connected just when it is, and every error but that of a
connection closed right now; such an error is told by the next step, the only one that there can be,
and with it the round is over. After a stop nothing more is told, and without reconnecting nothing
after the first round. -/
theorem events_in_rounds (config : Config) (defaultPort : UInt16) (moments : List Moment) :
    ∃ (rounds : List Round) (rest : Rest),
      ((new config defaultPort).play moments).2.filter Mark.isTale =
        rounds.flatMap Round.marks ++ rest.marks
      ∧ Mark.events ((new config defaultPort).play moments).2 =
        rounds.flatMap Round.events ++ rest.events
      ∧ (((new config defaultPort).play moments).1.phase.IsAttempt → rest = .running none)
      ∧ (((new config defaultPort).play moments).1.phase.IsConnected →
        ∃ span, rest = .running (some span))
      ∧ (((new config defaultPort).play moments).1.phase ≠ .failing → rest.IsSettled)
      ∧ (((new config defaultPort).play moments).1.phase = .failing →
        ∃ span e, rest = .faulted span e ∧ ∀ m : Moment,
          (m.wake = .run →
            (((new config defaultPort).play moments).1.turn m).2 = e.closing.map .told
            ∧ (((new config defaultPort).play moments).1.turn m).1.phase = .retrying
            ∧ Tells ((new config defaultPort).play (moments ++ [m])).2 (rounds ++ [⟨span, e⟩])
              .nothing)
          ∧ (m.wake ≠ .run → ((new config defaultPort).play moments).1.turn m =
            (((new config defaultPort).play moments).1, [])))
      ∧ (((new config defaultPort).play moments).1.phase.IsEnding → ∀ more,
        Mark.events ((new config defaultPort).play (moments ++ more)).2 =
          Mark.events ((new config defaultPort).play moments).2)
      ∧ (config.autoReconnect = false →
        rounds = [] ∨ (∃ r, rounds = [r]) ∧ rest = .nothing) := by
  have hstart : (new config defaultPort).Fits [] .nothing := ⟨rfl, fun _ => rfl⟩
  have hnothing : Tells [] [] .nothing := rfl
  obtain ⟨rounds, rest, htells, hfits⟩ := story_play hnothing hstart moments
  rw [List.nil_append] at htells
  have hconfig := config_play (new config defaultPort) moments
  refine ⟨rounds, rest, htells, htells.events_eq, ?_, ?_, ?_, ?_, ?_, ?_⟩
  · intro hattempt
    exact (hfits.of_isAttempt hattempt).1
  · intro hconnected
    exact (hfits.of_isConnected hconnected).1
  · intro hfailing
    exact (hfits.settled hfailing).1
  · intro hfailing
    obtain ⟨⟨span, e, hrest, herror⟩, _⟩ := hfits.of_failing hfailing
    subst hrest
    -- Neither the clock nor a stop changes the step out of this phase, so only the wake counts.
    refine ⟨span, e, rfl, fun m => ⟨fun hwake => ?_, fun hwake => ?_⟩⟩
    · have hturn := turn_of_failing hfailing hwake
      rw [herror] at hturn
      refine ⟨by rw [hturn], by rw [hturn], ?_⟩
      rw [play_append, play_cons, hturn]
      change Tells (_ ++ (e.closing.map Mark.told ++ [])) _ _
      rw [List.append_nil]
      exact htells.close
    · refine turn_of_not_accepts ?_
      rw [hfailing]
      cases hm : m.wake with
      | run => exact absurd hm hwake
      | _ => rfl
  · intro hending more
    rw [play_append, Mark.events_append, events_of_ending hending, List.append_nil]
  · intro hoff
    have hoff' : ((new config defaultPort).play moments).1.config.autoReconnect = false := by
      rw [hconfig]
      exact hoff
    by_cases hp : ((new config defaultPort).play moments).1.phase = .failing
    · exact .inl ((hfits.of_failing hp).2 hoff')
    · exact (hfits.settled hp).2 hoff'

/-- An attempt that takes too long, with one disconnection for it. -/
example (l : Ledger) : Mark.events ((new (({ host := "h" } : Settings).toConfig "c") 1883).play
    [⟨l, 0, false, .run⟩, ⟨l, 9, false, .connected (.error .connectionTimeout)⟩,
      ⟨l, 9, false, .run⟩]).2 = [.disconnected .connectionTimeout] := by
  rfl

end Session

end Mqtt
