import Mqtt.Proofs.Decoder.Harvest
import Mqtt.Proofs.Ledger.Staleness
import Mqtt.Proofs.Session.Reactions

/-!
A connection that nothing disturbs. However the broker's bytes are cut into reads, the session
writes and tells the same, with the data of every message joined, as long as a read that holds a
malformed byte completes nothing before it.
-/

namespace Mqtt
set_option autoImplicit false

/-- Phases that no timer bounds, other than the wait for a ping. -/
def Phase.IsBusy : Phase → Prop
  | .connecting | .writing _ | .serving | .handling | .failing | .retrying | .leaving _ => True
  | _ => False

/-- A session with its ledger, and what its next reads will bring. -/
structure Reception where
  session : Session
  ledger : Ledger
  reads : List Bytes

namespace Reception

/-- What wakes the session next, and the reads after that: whatever it asks for is done. A session
that waits for more than the reads bring, or has told of an error, is at rest. -/
def next? (x : Reception) : Option (Wake × List Bytes) :=
  match x.session.phase, x.reads with
  | .opening, reads | .greeting _, reads | .serving, reads | .handling, reads | .failing, reads =>
    some (.run, reads)
  | .connecting, reads => some (.connected (.ok ()), reads)
  | .writing _, reads => some (.written (.ok ()), reads)
  | .awaitingAnswer _, bytes :: reads | .listening, bytes :: reads =>
    some (.read (.ok bytes), reads)
  | _, _ => none

/-- A step, and what is to be seen of it. -/
def step (x : Reception) (now : Nat) (wake : Wake) (reads : List Bytes) : Reception × List Mark :=
  let o := x.session.step x.ledger now false wake
  (⟨o.session, o.ledger, reads⟩, o.effects.filterMap Effect.mark?)

/-- Steps at these times, up to where the session is at rest. -/
def play (x : Reception) : List Nat → Reception × List Mark
  | [] => (x, [])
  | now :: times =>
    match x.next? with
    | none => (x, [])
    | some (wake, reads) =>
      let (y, marks) := x.step now wake reads
      let (z, more) := y.play times
      (z, marks ++ more)

/-- What is to be seen when no read brings more. -/
def ending (x : Reception) : List Mark :=
  ((x.session.decoder.harvest x.reads).2.map x.session.ended).getD []

/-- The items that will be handled, if none before is an error. -/
def items (x : Reception) : List DecodedItem :=
  x.session.items ++ (x.session.decoder.harvest x.reads).1

/-- What is to be seen of a session that the broker has not answered. -/
def unanswered (x : Reception) : List Mark := x.session.greeted x.ending x.ledger x.items

/-- What is to be seen of a session that the broker has accepted. -/
def accepted (x : Reception) : List Mark := x.session.handling x.ending x.ledger x.items

/-- What is still to be seen. -/
def prospect (x : Reception) : List Mark :=
  match x.session.phase with
  | .connecting =>
    match x.session.encode (.connect x.session.config.toConnect) with
    | .ok c => .wrote c :: x.unanswered
    | .error e => x.session.ended e
  | .writing .greeting | .greeting _ | .awaitingAnswer _ => x.unanswered
  | .writing (.response event) => (event.map Mark.told).toList ++ x.accepted
  | .serving | .handling | .listening | .writing (.request _) | .writing .ping => x.accepted
  | .writing .farewell => [.closed]
  | .failing => (x.session.lastError.getD .connectionClosed).closing.map .told
  | _ => []

/-- More than the steps that are still to come. -/
def budget (x : Reception) : Nat :=
  let work := 3 * x.reads.length + 2 * x.items.length
  match x.session.phase with
  | .connecting => work + 7
  | .writing .greeting => work + 6
  | .greeting _ => work + 5
  | .awaitingAnswer _ => work + 4
  | .writing (.response _) => work + 3
  | .writing _ => work + 4
  | .serving => work + 3
  | .handling => work + 2
  | .listening => work + 1
  | .failing => 1
  | _ => 0

/-- No timer of the session expires at these times. -/
structure IsQuiet (fits : Ledger → Prop) (times : List Nat) (x : Reception) : Prop where
  begun : x.session.phase ≠ .opening
  spans : ∀ t ∈ times, ∀ t' ∈ times,
    t' < t + x.session.config.networkTimeout ∧ t' - t ≤ x.session.pingInterval
  early : ∀ deadline,
    x.session.phase = .greeting deadline ∨ x.session.phase = .awaitingAnswer deadline →
      ∀ t ∈ times, t < deadline
  pinged : x.session.phase.IsConnected → ∀ t ∈ times,
    t - x.session.lastPing ≤ x.session.pingInterval
  sated : x.session.phase = .listening ∨ (∃ deadline, x.session.phase = .awaitingAnswer deadline) →
    x.session.items = []
  fits : fits x.ledger

/-- Ledgers in which no eviction at these times is seen. -/
structure Overlooks (see : Mark → Bool) (times : List Nat) (fits : Ledger → Prop) : Prop where
  unseen : ∀ l, fits l → ∀ now ∈ times, ∀ (s : Session) next items,
    (s.handling next (l.evictStale now) items).filter see = (s.handling next l items).filter see
  keeps : ∀ l (m : Ledger.Move), fits l → m.IsOwn → fits (l.move m)

/-- A step shows the first of what is still to be seen, and the rest is still to be seen. -/
structure Advances (see : Mark → Bool) (fits : Ledger → Prop) (times : List Nat) (x : Reception)
    (r : Reception × List Mark) : Prop where
  quiet : r.1.IsQuiet fits times
  seen : x.prospect.filter see = (r.2 ++ r.1.prospect).filter see
  budget : r.1.budget < x.budget

section
variable {see : Mark → Bool} {fits : Ledger → Prop} {times : List Nat} {x : Reception}
  {reads : List Bytes} {now : Nat}

theorem unanswered_congr {y : Reception} (hconfig : y.session.config = x.session.config)
    (hlast : y.session.lastError = x.session.lastError) (hledger : y.ledger = x.ledger)
    (hitems : y.items = x.items) (hending : y.ending = x.ending) : y.unanswered = x.unanswered := by
  unfold unanswered
  rw [hledger, hitems, hending]
  exact Session.greeted_congr hconfig hlast _

theorem accepted_congr {y : Reception} (hconfig : y.session.config = x.session.config)
    (hlast : y.session.lastError = x.session.lastError) (hledger : y.ledger = x.ledger)
    (hitems : y.items = x.items) (hending : y.ending = x.ending) : y.accepted = x.accepted := by
  unfold accepted
  rw [hledger, hitems, hending]
  exact Session.handling_congr hconfig hlast _

theorem Overlooks.moveAll (h : Overlooks see times fits) {l : Ledger} (hl : fits l)
    {moves : List Ledger.Move} (hmoves : ∀ m ∈ moves, m.IsOwn) : fits (l.moveAll moves) := by
  induction moves generalizing l with
  | nil => exact hl
  | cons m moves ih =>
    rw [List.forall_mem_cons] at hmoves
    exact ih (h.keeps l m hl hmoves.1) hmoves.2

theorem IsQuiet.move (hx : x.IsQuiet fits times) {y : Reception}
    (hconfig : y.session.config = x.session.config) (hfits : fits y.ledger)
    (hbusy : y.session.phase.IsBusy) (hping : y.session.phase.IsConnected →
      x.session.phase.IsConnected ∧ y.session.lastPing = x.session.lastPing) :
    y.IsQuiet fits times := by
  have hphase : ∀ phase : Phase, y.session.phase = phase → phase.IsBusy := fun _ h => h ▸ hbusy
  refine ⟨hphase .opening, ?_, ?_, ?_, ?_, hfits⟩
  · intro t ht t' ht'
    unfold Session.pingInterval
    rw [hconfig]
    exact hx.spans t ht t' ht'
  · exact fun deadline h => h.elim (fun h => (hphase _ h).elim) fun h => (hphase _ h).elim
  · intro h
    obtain ⟨hconnected, hlast⟩ := hping h
    unfold Session.pingInterval
    rw [hconfig, hlast]
    exact hx.pinged hconnected
  · exact fun h => h.elim (fun h => (hphase _ h).elim) fun ⟨_, h⟩ => (hphase _ h).elim

theorem advances_fail (hx : x.IsQuiet fits times) {s : Session} {l : Ledger} {e : Error}
    (hconfig : s.config = x.session.config) (hlast : s.lastError = x.session.lastError)
    (hfits : fits l) (hprospect : x.prospect = x.session.ended e) (hbudget : 1 < x.budget) :
    Advances see fits times x
      (⟨(s.fail l e).session, (s.fail l e).ledger, reads⟩,
        (s.fail l e).effects.filterMap Effect.mark?) where
  quiet := hx.move hconfig hfits trivial nofun
  seen := by
    rw [hprospect]
    unfold Session.ended
    rw [← hlast]
    rfl
  budget := hbudget

theorem advances_connecting (hx : x.IsQuiet fits times) (hp : x.session.phase = .connecting) :
    Advances see fits times x (x.step now (.connected (.ok ())) x.reads) := by
  obtain ⟨⟨config, port, phase, decoder, items, lastPing, lastError⟩, l, reads⟩ := x
  cases hp
  unfold step Session.step
  dsimp only
  unfold Session.send
  split
  · rename_i c hc
    refine ⟨hx.move rfl hx.fits trivial nofun, ?_, Nat.lt_succ_self _⟩
    refine congrArg (List.filter see) ?_
    unfold prospect
    dsimp only
    rw [hc]
    refine congrArg (Mark.wrote c :: ·) ?_
    refine (unanswered_congr ?_ ?_ ?_ ?_ ?_).symm <;> rfl
  · rename_i e he
    refine advances_fail hx rfl rfl hx.fits ?_ (by simp only [budget]; omega)
    unfold prospect
    dsimp only
    rw [he]

theorem advances_writing {purpose : Purpose} (hx : x.IsQuiet fits times)
    (hp : x.session.phase = .writing purpose) (hnow : now ∈ times) :
    Advances see fits times x (x.step now (.written (.ok ())) x.reads) := by
  obtain ⟨⟨config, port, phase, decoder, items, lastPing, lastError⟩, l, reads⟩ := x
  cases hp
  have hspans := hx.spans now hnow
  cases purpose with
  | greeting =>
    refine ⟨⟨nofun, hx.spans, ?_, nofun, nofun, hx.fits⟩, ?_, Nat.lt_succ_self _⟩
    · intro deadline hdeadline t ht
      rcases hdeadline with hdeadline | hdeadline
      · cases hdeadline
        exact (hspans t ht).1
      · cases hdeadline
    · refine congrArg (List.filter see) ?_
      refine (unanswered_congr ?_ ?_ ?_ ?_ ?_).symm <;> rfl
  | request r =>
    refine ⟨hx.move rfl hx.fits trivial fun _ => ⟨trivial, rfl⟩, ?_,
      Nat.lt_succ_self _⟩
    refine congrArg (List.filter see) ?_
    refine (accepted_congr ?_ ?_ ?_ ?_ ?_).symm <;> rfl
  | ping =>
    refine ⟨⟨nofun, hx.spans, ?_, fun _ t ht => (hspans t ht).2, nofun, hx.fits⟩, ?_,
      Nat.lt_succ_self _⟩
    · exact fun deadline h => h.elim nofun nofun
    · refine congrArg (List.filter see) ?_
      refine (accepted_congr ?_ ?_ ?_ ?_ ?_).symm <;> rfl
  | response event =>
    cases event with
    | none =>
      refine ⟨hx.move rfl hx.fits trivial fun _ => ⟨trivial, rfl⟩, ?_,
        Nat.lt_succ_self _⟩
      refine congrArg (List.filter see) ?_
      refine (accepted_congr ?_ ?_ ?_ ?_ ?_).symm <;> rfl
    | some e =>
      refine ⟨hx.move rfl hx.fits trivial fun _ => ⟨trivial, rfl⟩, ?_,
        Nat.lt_succ_self _⟩
      refine congrArg (List.filter see) ?_
      refine congrArg (Mark.told e :: ·) ?_
      refine (accepted_congr ?_ ?_ ?_ ?_ ?_).symm <;> rfl
  | farewell =>
    refine ⟨hx.move rfl hx.fits trivial nofun, rfl, ?_⟩
    exact Nat.succ_pos _

theorem advances_greeting {deadline : Nat} (h : Overlooks see times fits)
    (hx : x.IsQuiet fits times) (hp : x.session.phase = .greeting deadline) (hnow : now ∈ times) :
    Advances see fits times x (x.step now .run x.reads) := by
  obtain ⟨⟨config, port, phase, decoder, items, lastPing, lastError⟩, l, reads⟩ := x
  cases hp
  unfold step Session.step
  dsimp only
  unfold Session.greet
  split
  · rename_i sessionPresent code rest hitems
    cases hitems
    by_cases hcode : code = .accepted
    · rw [if_pos hcode]
      subst hcode
      have hfits : fits (l.moveAll (Session.entering sessionPresent)) :=
        h.moveAll hx.fits (by cases sessionPresent <;> simp [Session.entering, Ledger.Move.IsOwn])
      have hledger : ∀ s : Session, (s.enter l now sessionPresent).ledger =
          l.moveAll (Session.entering sessionPresent) := by
        intro s
        cases sessionPresent <;> rfl
      refine ⟨⟨?_, hx.spans, ?_, fun _ t ht => (hx.spans now hnow t ht).2, ?_, ?_⟩, ?_, ?_⟩
      · rintro ⟨⟩
      · rintro deadline (h | h) <;> cases h
      · rintro (h | ⟨_, h⟩) <;> cases h
      · rw [hledger]
        exact hfits
      · refine congrArg (List.filter see) ?_
        refine congrArg (Mark.told (.connected sessionPresent) :: ·) ?_
        cases sessionPresent <;> refine (Session.handling_congr ?_ ?_ _).symm <;> rfl
      · unfold budget items
        dsimp only [Session.enter]
        rw [List.cons_append, List.length_cons]
        omega
    · rw [if_neg hcode]
      refine advances_fail hx rfl rfl hx.fits ?_ (by simp only [budget]; omega)
      cases code with
      | accepted => exact absurd rfl hcode
      | _ => rfl
  · rename_i item rest hnot hitems
    cases hitems
    refine advances_fail hx rfl rfl hx.fits ?_ (by simp only [budget]; omega)
    cases item with
    | chunk c => rfl
    | packet p =>
      cases p with
      | connack sessionPresent code => exact absurd rfl (hnot sessionPresent code)
      | _ => rfl
  · rename_i hitems
    rw [if_neg (Nat.not_le_of_lt (hx.early deadline (.inl rfl) now hnow))]
    refine ⟨⟨?_, hx.spans, ?_, ?_, fun _ => hitems, hx.fits⟩, ?_, Nat.lt_succ_self _⟩
    · rintro ⟨⟩
    · intro deadline' h t ht
      refine hx.early deadline' (.inl ?_) t ht
      rcases h with h | h <;> cases h
      rfl
    · rintro ⟨⟩
    · refine congrArg (List.filter see) ?_
      refine (unanswered_congr ?_ ?_ ?_ ?_ ?_).symm <;> rfl

/-- A read moves what it brings from the reads to the items, or it ends the connection. -/
theorem receive_cases {bytes : Bytes} (hreads : x.reads = bytes :: reads)
    (hitems : x.session.items = []) (phase : Phase) : ∃ decoder items,
    let y : Reception := ⟨{ x.session with phase, decoder, items }, x.ledger, reads⟩
    (∃ e, x.session.receive x.ledger phase (.ok bytes) = y.session.fail x.ledger e
        ∧ x.items = [] ∧ x.ending = x.session.ended e)
      ∨ x.session.receive x.ledger phase (.ok bytes) = ⟨y.session, y.ledger, []⟩
        ∧ y.items = x.items ∧ y.ending = x.ending := by
  obtain ⟨⟨config, port, phase', decoder, items, lastPing, lastError⟩, l, reads'⟩ := x
  cases hreads
  cases hitems
  cases bytes with
  | nil => exact ⟨decoder, [], .inr ⟨rfl, rfl, rfl⟩⟩
  | cons b bs =>
    cases hfeed : decoder.feed (b :: bs) with
    | mk decoder' answer =>
      obtain ⟨received, result⟩ := answer
      refine ⟨decoder', received, ?_⟩
      unfold Session.receive Reception.items Reception.ending
      dsimp only
      cases result with
      | ok u =>
        rw [Decoder.harvest_of_ok hfeed, hfeed]
        exact .inr ⟨rfl, rfl, rfl⟩
      | error e =>
        rw [Decoder.harvest_of_error hfeed, hfeed]
        exact .inl ⟨e, rfl, rfl, rfl⟩

theorem advances_awaitingAnswer {deadline : Nat} {bytes : Bytes} (hx : x.IsQuiet fits times)
    (hp : x.session.phase = .awaitingAnswer deadline) (hreads : x.reads = bytes :: reads) :
    Advances see fits times x (x.step now (.read (.ok bytes)) reads) := by
  have hbudget : x.budget = 3 * (reads.length + 1) + 2 * x.items.length + 4 := by
    unfold budget
    rw [hp, hreads]
    rfl
  have hprospect : x.prospect = x.unanswered := by
    unfold prospect
    rw [hp]
  have hstep : x.session.step x.ledger now false (.read (.ok bytes)) =
      x.session.receive x.ledger (.greeting deadline) (.ok bytes) := by
    unfold Session.step
    rw [hp]
  obtain ⟨decoder, items, ⟨e, ho, hitems, hending⟩ | ⟨ho, hitems, hending⟩⟩ :=
    receive_cases hreads (hx.sated (.inr ⟨deadline, hp⟩)) (.greeting deadline)
  · unfold step
    rw [hstep, ho]
    refine advances_fail hx rfl rfl hx.fits ?_ (by omega)
    rw [hprospect, unanswered, hitems, hending]
    rfl
  · unfold step
    rw [hstep, ho]
    dsimp only
    refine ⟨⟨nofun, hx.spans, ?_, nofun, ?_, hx.fits⟩, ?_, ?_⟩
    · intro deadline' h
      rcases h with h | h <;> cases h
      exact hx.early deadline (.inr hp)
    · exact fun h => h.elim nofun nofun
    · rw [hprospect]
      refine congrArg (List.filter see) ?_
      refine (unanswered_congr ?_ ?_ ?_ hitems hending).symm <;> rfl
    · rw [hbudget, ← hitems]
      unfold budget
      dsimp only
      omega

theorem advances_listening {bytes : Bytes} (hx : x.IsQuiet fits times)
    (hp : x.session.phase = .listening) (hreads : x.reads = bytes :: reads) :
    Advances see fits times x (x.step now (.read (.ok bytes)) reads) := by
  have hbudget : x.budget = 3 * (reads.length + 1) + 2 * x.items.length + 1 := by
    unfold budget
    rw [hp, hreads]
    rfl
  have hprospect : x.prospect = x.accepted := by
    unfold prospect
    rw [hp]
  have hstep : x.session.step x.ledger now false (.read (.ok bytes)) =
      x.session.receive x.ledger .serving (.ok bytes) := by
    unfold Session.step
    rw [hp]
  obtain ⟨decoder, items, ⟨e, ho, hitems, hending⟩ | ⟨ho, hitems, hending⟩⟩ :=
    receive_cases hreads (hx.sated (.inl hp)) .serving
  · unfold step
    rw [hstep, ho]
    refine advances_fail hx rfl rfl hx.fits ?_ (by omega)
    rw [hprospect, accepted, hitems, hending]
    rfl
  · unfold step
    rw [hstep, ho]
    dsimp only
    refine ⟨hx.move rfl hx.fits trivial fun _ => ⟨hp ▸ trivial, rfl⟩, ?_, ?_⟩
    · rw [hprospect]
      refine congrArg (List.filter see) ?_
      refine (accepted_congr ?_ ?_ ?_ hitems hending).symm <;> rfl
    · rw [hbudget, ← hitems]
      unfold budget
      dsimp only
      omega

theorem advances_serving (hx : x.IsQuiet fits times) (hp : x.session.phase = .serving) :
    Advances see fits times x (x.step now .run x.reads) := by
  obtain ⟨⟨config, port, phase, decoder, items, lastPing, lastError⟩, l, reads⟩ := x
  cases hp
  refine ⟨hx.move rfl hx.fits trivial fun _ => ⟨trivial, rfl⟩, ?_,
    Nat.lt_succ_self _⟩
  refine congrArg (List.filter see) ?_
  refine (accepted_congr ?_ ?_ ?_ ?_ ?_).symm <;> rfl

theorem advances_failing (hx : x.IsQuiet fits times) (hp : x.session.phase = .failing)
    (h : Overlooks see times fits) : Advances see fits times x (x.step now .run x.reads) := by
  obtain ⟨⟨config, port, phase, decoder, items, lastPing, lastError⟩, l, reads⟩ := x
  cases hp
  have hfits : fits (l.move (.setState .waitTimeout)) := h.keeps l _ hx.fits trivial
  refine ⟨hx.move rfl hfits trivial nofun, ?_, Nat.one_pos⟩
  refine congrArg (List.filter see) ?_
  change (lastError.getD .connectionClosed).closing.map Mark.told = List.filterMap Effect.mark?
    ((if (lastError.getD .connectionClosed).isProtocolFailure then _ else _) ++ _) ++ []
  unfold Error.closing
  split <;> rfl

theorem advances_handling (h : Overlooks see times fits) (hx : x.IsQuiet fits times)
    (hp : x.session.phase = .handling) (hnow : now ∈ times) :
    Advances see fits times x (x.step now .run x.reads) := by
  obtain ⟨⟨config, port, phase, decoder, items, lastPing, lastError⟩, l, reads⟩ := x
  cases hp
  unfold step Session.step
  dsimp only
  cases items with
  | nil =>
    -- With nothing left to handle the session looks for what is stale, and then waits.
    have hsince := Nat.not_lt_of_le (hx.pinged trivial now hnow)
    unfold Session.listen
    dsimp only
    rw [if_neg hsince]
    have hfits : fits (l.move (.evict now)) := h.keeps l _ hx.fits trivial
    refine ⟨⟨nofun, hx.spans, ?_, fun _ => hx.pinged trivial, fun _ => rfl, hfits⟩, ?_,
      Nat.lt_succ_self _⟩
    · exact fun deadline h => h.elim nofun nofun
    · refine (h.unseen l hx.fits now hnow _ _ _).symm.trans (congrArg (List.filter see) ?_)
      refine (Session.handling_congr ?_ ?_ _).symm <;> rfl
  | cons item rest =>
    let s : Session := ⟨config, port, .handling, decoder, rest, lastPing, lastError⟩
    have hledger : (s.handle l item).ledger = l.moveAll (s.movesOf item) := s.ledger_handle l item
    have hfits : fits (l.moveAll (s.movesOf item)) :=
      h.moveAll hx.fits (Session.isOwn_of_mem_movesOf s item)
    let left := rest ++ (decoder.harvest reads).1
    let x : Reception :=
      ⟨⟨config, port, .handling, decoder, item :: rest, lastPing, lastError⟩, l, reads⟩
    have hprospect : x.prospect = s.handling x.ending l (item :: left) := by
      refine Session.handling_congr ?_ ?_ _ <;> rfl
    change Advances see fits times x (⟨(s.handle l item).session, (s.handle l item).ledger, reads⟩,
      (s.handle l item).effects.filterMap Effect.mark?)
    rcases s.handle_cases l item with ⟨e, he, l', hhandle⟩
      | ⟨hgood, ⟨bytes, hanswer, hhandle⟩ | ⟨hanswer, hhandle⟩⟩
    · rw [hhandle] at hledger ⊢
      have hl' : fits l' := by
        rw [show l' = l.moveAll (s.movesOf item) from hledger]
        exact hfits
      rw [Session.handling_of_error he] at hprospect
      exact advances_fail hx rfl rfl hl' hprospect (by simp only [budget]; omega)
    · rw [Session.handling_of_good hgood] at hprospect
      rw [hhandle]
      refine ⟨hx.move rfl hfits trivial fun _ => ⟨trivial, rfl⟩, ?_, ?_⟩
      · refine congrArg (List.filter see) (hprospect.trans ?_)
        unfold Session.handled
        rw [hanswer]
        refine congrArg (fun marks => Mark.wrote bytes ::
          (((Session.newsOf l item).map Mark.told).toList ++ marks)) ?_
        refine (Session.handling_congr ?_ ?_ _).symm <;> rfl
      · change 3 * reads.length + 2 * left.length + 3
          < 3 * reads.length + 2 * (left.length + 1) + 2
        omega
    · rw [Session.handling_of_good hgood] at hprospect
      rw [hhandle]
      refine ⟨hx.move rfl hfits trivial fun _ => ⟨trivial, rfl⟩, ?_, ?_⟩
      · refine congrArg (List.filter see) (hprospect.trans ?_)
        unfold Session.handled
        rw [hanswer]
        cases Session.newsOf l item with
        | none => refine (Session.handling_congr ?_ ?_ _).symm <;> rfl
        | some e =>
          refine congrArg (Mark.told e :: ·) ?_
          refine (Session.handling_congr ?_ ?_ _).symm <;> rfl
      · change 3 * reads.length + 2 * left.length + 2
          < 3 * reads.length + 2 * (left.length + 1) + 2
        omega

theorem advances {wake : Wake} (h : Overlooks see times fits) (hx : x.IsQuiet fits times)
    (hnext : x.next? = some (wake, reads)) (hnow : now ∈ times) :
    Advances see fits times x (x.step now wake reads) := by
  unfold next? at hnext
  split at hnext
  · rename_i hp
    exact absurd hp hx.begun
  · rename_i deadline _ hp
    cases hnext
    exact advances_greeting h hx hp hnow
  · rename_i hp
    cases hnext
    exact advances_serving hx hp
  · rename_i hp
    cases hnext
    exact advances_handling h hx hp hnow
  · rename_i hp
    cases hnext
    exact advances_failing hx hp h
  · rename_i hp
    cases hnext
    exact advances_connecting hx hp
  · rename_i purpose _ hp
    cases hnext
    exact advances_writing hx hp hnow
  · rename_i deadline bytes _ hp hreads
    cases hnext
    exact advances_awaitingAnswer hx hp hreads
  · rename_i bytes _ hp hreads
    cases hnext
    exact advances_listening hx hp hreads
  · cases hnext

theorem prospect_of_rest (hx : x.IsQuiet fits times) (hrest : x.next? = none) :
    x.prospect = [] := by
  obtain ⟨⟨config, port, phase, decoder, items, lastPing, lastError⟩, l, reads⟩ := x
  cases phase with
  | awaitingAnswer deadline =>
    cases reads with
    | nil =>
      have hitems : items = [] := hx.sated (.inr ⟨deadline, rfl⟩)
      subst hitems
      rfl
    | cons bytes reads => cases hrest
  | listening =>
    cases reads with
    | nil =>
      have hitems : items = [] := hx.sated (.inl rfl)
      subst hitems
      rfl
    | cons bytes reads => cases hrest
  | connecting => cases hrest
  | writing purpose => cases hrest
  | greeting deadline => cases hrest
  | serving => cases hrest
  | handling => cases hrest
  | failing => cases hrest
  | _ => rfl

theorem budget_pos (hx : x.IsQuiet fits times) (hnext : x.next? ≠ none) : 0 < x.budget := by
  obtain ⟨⟨config, port, phase, decoder, items, lastPing, lastError⟩, l, reads⟩ := x
  cases phase with
  | opening => exact absurd rfl hx.begun
  | writing purpose => cases purpose <;> exact Nat.succ_pos _
  | pausing deadline => exact absurd rfl hnext
  | sleeping deadline => exact absurd rfl hnext
  | retrying => exact absurd rfl hnext
  | leaving final => exact absurd rfl hnext
  | finished => exact absurd rfl hnext
  | crashed => exact absurd rfl hnext
  | _ => exact Nat.succ_pos _

/-- A run shows what is to be seen, as far as it goes, and comes to rest within the budget. -/
theorem play_spec (h : Overlooks see times fits) (hx : x.IsQuiet fits times) {ts : List Nat}
    (hts : ∀ t ∈ ts, t ∈ times) :
    (x.play ts).1.IsQuiet fits times
      ∧ x.prospect.filter see = ((x.play ts).2 ++ (x.play ts).1.prospect).filter see
      ∧ (x.budget ≤ ts.length → (x.play ts).1.next? = none) := by
  induction ts generalizing x with
  | nil =>
    refine ⟨hx, rfl, fun hbudget => ?_⟩
    by_contra hnext
    exact absurd (budget_pos hx hnext) (Nat.not_lt_of_le hbudget)
  | cons now ts ih =>
    rw [List.forall_mem_cons] at hts
    unfold play
    cases hnext : x.next? with
    | none => exact ⟨hx, rfl, fun _ => hnext⟩
    | some wakes =>
      obtain ⟨wake, reads⟩ := wakes
      obtain ⟨hquiet, hseen, hless⟩ := advances h hx hnext hts.1
      obtain ⟨hlast, hmore, hrest⟩ := ih hquiet hts.2
      refine ⟨hlast, ?_, fun hbudget => hrest ?_⟩
      · rw [hseen, List.filter_append, hmore, ← List.filter_append, ← List.append_assoc]
      · rw [List.length_cons] at hbudget
        omega

end

end Reception

/-! ### Whole connections -/

namespace Session

/-- Whether no timer of a session expires between two of these times: neither the one for the
broker's answer nor the one for the next ping. -/
def IsCalm (s : Session) (times : List Nat) : Prop :=
  ∀ t ∈ times, ∀ t' ∈ times, t' < t + s.config.networkTimeout ∧ t' - t ≤ s.pingInterval

instance (s : Session) (times : List Nat) : Decidable (s.IsCalm times) := by
  unfold IsCalm
  infer_instance

/-- What is to be seen of a connection on which the broker sends these bytes. All that they hold is
handled, and what is malformed ends the connection after that. -/
def conversation (s : Session) (l : Ledger) (stream : Bytes) : List Mark :=
  let begun : Session := { s with lastError := none }
  let answer := ((Decoder.new s.decoder.limit).feed stream).2
  let next := match answer.2 with
    | .ok () => []
    | .error e => begun.ended e
  .attempt :: match s.encode (.connect s.config.toConnect) with
    | .ok c => .wrote c :: begun.greeted next l answer.1
    | .error e => begun.ended e

end Session

namespace Reception

section
variable {s : Session} {l : Ledger} {reads : List Bytes} {times : List Nat} {see : Mark → Bool}
  {fits : Ledger → Prop}

def attempt (s : Session) (l : Ledger) (reads : List Bytes) : Reception :=
  ⟨{ s with phase := .connecting, decoder := s.decoder.reset, items := [], lastError := none }, l,
    reads⟩

theorem play_opening (hs : s.phase = .opening) (now : Nat) (times : List Nat) :
    (Reception.mk s l reads).play (now :: times) =
      (((attempt s l reads).play times).1, .attempt :: ((attempt s l reads).play times).2) := by
  obtain ⟨config, port, phase, decoder, items, lastPing, lastError⟩ := s
  cases hs
  rfl

theorem isQuiet_attempt (reads : List Bytes) (hcalm : s.IsCalm times) (hfits : fits l) :
    (attempt s l reads).IsQuiet fits times :=
  ⟨nofun, hcalm, fun _ h => h.elim nofun nofun, nofun, fun h => h.elim nofun nofun, hfits⟩

theorem joined_prospect_attempt (hsee : ∀ a, see (.told (.data a)) = true)
    (hclean : (Decoder.new s.decoder.limit).FailsCleanly reads) :
    Mark.joined ((.attempt :: (attempt s l reads).prospect).filter see) =
      Mark.joined ((s.conversation l reads.flatten).filter see) := by
  let limit := s.decoder.limit
  let x := attempt s l reads
  let begun : Session := { s with lastError := none }
  let all := Decoder.run limit .start reads.flatten
  let received := ((Decoder.new limit).harvest reads).1
  obtain ⟨hitems, herror⟩ := Decoder.harvest_new hclean
  have hending : x.ending = match Decoder.verdict all.1 with
      | .ok () => []
      | .error e => begun.ended e := by
    unfold ending Decoder.verdict
    change ((((Decoder.new limit).harvest reads).2.map x.session.ended).getD [] : List Mark) = _
    rw [herror]
    split <;> rfl
  have hprospect : x.prospect = match s.encode (.connect s.config.toConnect) with
      | .ok c => .wrote c :: begun.greeted x.ending l received
      | .error e => begun.ended e := by
    have hgreeted : x.unanswered = begun.greeted x.ending l received := by
      refine Session.greeted_congr ?_ ?_ _ <;> rfl
    rw [← hgreeted]
    rfl
  have hconversation : s.conversation l reads.flatten = .attempt ::
      match s.encode (.connect s.config.toConnect) with
      | .ok c => .wrote c :: begun.greeted x.ending l all.2
      | .error e => begun.ended e := by
    rw [hending]
    rfl
  rw [hconversation, hprospect]
  cases s.encode (.connect s.config.toConnect) with
  | error e => rfl
  | ok c =>
    have hsame : Mark.joined ((begun.greeted x.ending l received).filter see) =
        Mark.joined ((begun.greeted x.ending l all.2).filter see) := by
      rw [← Session.joined_greeted hsee (Decoder.data_ne_nil_of_mem_harvest _ _),
        ← Session.joined_greeted hsee (Decoder.runs _ _ _).data_ne_nil, hitems]
    have hfront : ∀ marks : List Mark, Mark.joined ((.attempt :: .wrote c :: marks).filter see) =
        ([.attempt, .wrote c].filter see).foldr Mark.joinTo (Mark.joined (marks.filter see)) := by
      intro marks
      rw [← Mark.joined_append, ← List.filter_append]
      rfl
    rw [hfront, hfront, hsame]

/-- A whole run shows what the bytes have in them. -/
theorem joined_play (hs : s.phase = .opening) (hsee : ∀ a, see (.told (.data a)) = true)
    (h : Overlooks see times fits) (hfits : fits l) (hcalm : s.IsCalm times)
    (hclean : (Decoder.new s.decoder.limit).FailsCleanly reads)
    (hrest : ((Reception.mk s l reads).play times).1.next? = none) :
    Mark.joined (((Reception.mk s l reads).play times).2.filter see) =
      Mark.joined ((s.conversation l reads.flatten).filter see) := by
  rw [← joined_prospect_attempt hsee hclean]
  cases times with
  | nil =>
    unfold play next? at hrest
    rw [hs] at hrest
    cases hrest
  | cons now times =>
    rw [play_opening hs] at hrest ⊢
    have hts : ∀ t ∈ times, t ∈ now :: times := fun t ht => List.mem_cons_of_mem _ ht
    obtain ⟨hquiet, hseen, _⟩ := play_spec h (isQuiet_attempt reads hcalm hfits) hts
    rw [prospect_of_rest hquiet hrest, List.append_nil] at hseen
    simp only [List.filter_cons, hseen]

theorem overlooks_besides (times : List Nat) :
    Overlooks (!·.endsOperation) times fun _ => True where
  unseen _ _ _ _ _ _ _ := Session.handling_besides _ _
  keeps _ _ _ _ := trivial

theorem overlooks_of_fresh (times : List Nat) :
    Overlooks (fun _ => true) times fun l => ∀ t ∈ times, l.IsFresh t where
  unseen l hfresh now hnow s next items := by
    rw [Ledger.evictStale_eq_self_iff.mpr (hfresh now hnow)]
  keeps l m hfresh hm t ht := (hfresh t ht).move hm

end

/-- A session that nothing disturbs on its next connection comes to rest, and then has shown what
the broker's bytes have in them: with the data of every message joined, it is the same however they
were cut into reads, if a read that holds a malformed byte completes nothing before it. Of the ends
of operations this holds if no operation is stale at the time. -/
theorem cutting_is_not_seen {s : Session} (hs : s.phase = .opening) (l : Ledger) :
    (∀ reads, ∃ n, ∀ times, s.IsCalm times → n ≤ times.length →
      ((Reception.mk s l reads).play times).1.next? = none)
    ∧ (∀ reads reads' times times', reads.flatten = reads'.flatten →
      (Decoder.new s.decoder.limit).FailsCleanly reads →
      (Decoder.new s.decoder.limit).FailsCleanly reads' →
      s.IsCalm times → s.IsCalm times' →
      ((Reception.mk s l reads).play times).1.next? = none →
      ((Reception.mk s l reads').play times').1.next? = none →
        Mark.joined (((Reception.mk s l reads).play times).2.filter (!·.endsOperation)) =
          Mark.joined (((Reception.mk s l reads').play times').2.filter (!·.endsOperation))
        ∧ ((∀ t ∈ times ++ times', l.evictStale t = l) →
          Mark.joined ((Reception.mk s l reads).play times).2 =
            Mark.joined ((Reception.mk s l reads').play times').2))
    ∧ ∀ reads times, (Decoder.new s.decoder.limit).FailsCleanly reads → s.IsCalm times →
      ((Reception.mk s l reads).play times).1.next? = none → (∀ t ∈ times, l.evictStale t = l) →
        Mark.joined ((Reception.mk s l reads).play times).2 =
          Mark.joined (s.conversation l reads.flatten) := by
  have hwhole : ∀ reads times, (Decoder.new s.decoder.limit).FailsCleanly reads → s.IsCalm times →
      ((Reception.mk s l reads).play times).1.next? = none → (∀ t ∈ times, l.evictStale t = l) →
        Mark.joined ((Reception.mk s l reads).play times).2 =
          Mark.joined (s.conversation l reads.flatten) := by
    intro reads times hclean hcalm hrest hfresh
    have hall := joined_play hs (fun _ => rfl) (overlooks_of_fresh times)
      (fun t ht => Ledger.evictStale_eq_self_iff.mp (hfresh t ht)) hcalm hclean hrest
    simpa only [List.filter_true] using hall
  refine ⟨?_, ?_, hwhole⟩
  · intro reads
    refine ⟨(attempt s l reads).budget + 1, fun times hcalm hlength => ?_⟩
    cases times with
    | nil => exact absurd hlength (Nat.not_succ_le_zero _)
    | cons now times =>
      have hquiet : (attempt s l reads).IsQuiet (fun _ => True) (now :: times) :=
        isQuiet_attempt reads hcalm trivial
      have hts : ∀ t ∈ times, t ∈ now :: times := fun t ht => List.mem_cons_of_mem _ ht
      obtain ⟨_, _, hrest⟩ := play_spec (overlooks_besides _) hquiet hts
      rw [play_opening hs]
      exact hrest (Nat.le_of_succ_le_succ hlength)
  · intro reads reads' times times' hsame hclean hclean' hcalm hcalm' hrest hrest'
    refine ⟨?_, fun hfresh => ?_⟩
    · rw [joined_play hs (fun _ => rfl) (overlooks_besides times) trivial hcalm hclean hrest,
        joined_play hs (fun _ => rfl) (overlooks_besides times') trivial hcalm' hclean' hrest', hsame]
    · rw [hwhole reads times hclean hcalm hrest fun t ht => hfresh t (List.mem_append_left _ ht),
        hwhole reads' times' hclean' hcalm' hrest' fun t ht => hfresh t (List.mem_append_right _ ht),
        hsame]

/-- A long message, the end of an operation and a byte that begins no packet, in two cuttings. -/
theorem cutting_is_not_seen_of_long_message :
    let config := ({ host := "h", bufferSize := 16 } : Settings).toConfig "c"
    let s : Session := .new config 1883
    let l : Ledger := { Ledger.new config with pending := some ⟨1, .publish, .atLeastOnce, [], 0⟩ }
    let reads : List Bytes := [[32, 2, 1, 0], [50, 17, 0, 1, 97, 0, 5, 1, 2, 3], [4, 5, 6, 7],
      [8, 9, 10, 11, 12, 64, 2], [0, 1], [], [0xf0, 0]]
    let reads' : List Bytes := [[32, 2, 1],
      [0, 50, 17, 0, 1, 97, 0, 5, 1, 2, 3, 4, 5, 6, 7, 8, 9, 10, 11, 12, 64, 2, 0, 1], [0xf0], [0]]
    let times := List.replicate 40 0
    reads.flatten = reads'.flatten
      ∧ (Decoder.new s.decoder.limit).FailsCleanly reads
      ∧ (Decoder.new s.decoder.limit).FailsCleanly reads'
      ∧ s.IsCalm times
      ∧ ((Reception.mk s l reads).play times).1.next? = none
      ∧ ((Reception.mk s l reads').play times).1.next? = none
      ∧ (∀ t ∈ times ++ times, l.evictStale t = l)
      ∧ .told (.published 1) ∈ ((Reception.mk s l reads).play times).2
      ∧ Mark.joined ((Reception.mk s l reads).play times).2 =
        Mark.joined ((Reception.mk s l reads').play times).2 := by
  intro config s l reads reads' times
  have hclean : (Decoder.new s.decoder.limit).FailsCleanly reads
      ∧ (Decoder.new s.decoder.limit).FailsCleanly reads' := by
    subst reads reads' s config
    decide +kernel
  have hcalm : s.IsCalm times ∧ ∀ t ∈ times ++ times, l.evictStale t = l := by
    subst times l s config
    decide +kernel
  have hrest : ((Reception.mk s l reads).play times).1.next?.isNone
      ∧ ((Reception.mk s l reads').play times).1.next?.isNone
      ∧ .told (.published 1) ∈ ((Reception.mk s l reads).play times).2 := by
    subst reads reads' times l s config
    decide +kernel
  obtain ⟨hrest, hrest', hpublished⟩ := hrest
  rw [Option.isNone_iff_eq_none] at hrest hrest'
  have hsame := (cutting_is_not_seen (s := s) rfl l).2.1 reads reads' times times rfl hclean.1
    hclean.2 hcalm.1 hcalm.1 hrest hrest'
  exact ⟨rfl, hclean.1, hclean.2, hcalm.1, hrest, hrest', hcalm.2, hpublished, hsame.2 hcalm.2⟩

/-- What a read completes before a malformed byte is lost: a message that comes together with one
is neither acknowledged nor told of. -/
theorem cutting_is_seen :
    let config := ({ host := "h" } : Settings).toConfig "c"
    let s : Session := .new config 1883
    let l := Ledger.new config
    let reads : List Bytes := [[32, 2, 0, 0], [50, 6, 0, 1, 97, 0, 5, 1], [0xf0, 0]]
    let reads' : List Bytes := [[32, 2, 0, 0], [50, 6, 0, 1, 97, 0, 5, 1, 0xf0, 0]]
    let times := List.replicate 20 0
    let run := (Reception.mk s l reads).play times
    let run' := (Reception.mk s l reads').play times
    reads.flatten = reads'.flatten ∧ s.IsCalm times ∧ (∀ t ∈ times, l.evictStale t = l)
      ∧ run.1.next?.isNone ∧ run'.1.next?.isNone
      ∧ run.2 = [.attempt, .wrote [16, 13, 0, 4, 77, 81, 84, 84, 4, 2, 0, 120, 0, 1, 99],
        .told (.connected false), .wrote [64, 2, 0, 5],
        .told (.data ⟨5, "a", .atLeastOnce, false, false, [1], 0, 1⟩), .closed,
        .told (.failure .malformedPacket), .told (.disconnected .malformedPacket)]
      ∧ run'.2 = [.attempt, .wrote [16, 13, 0, 4, 77, 81, 84, 84, 4, 2, 0, 120, 0, 1, 99],
        .told (.connected false), .closed, .told (.failure .malformedPacket),
        .told (.disconnected .malformedPacket)]
      ∧ Mark.joined (run.2.filter (!·.endsOperation)) ≠
        Mark.joined (run'.2.filter (!·.endsOperation)) := by
  decide +kernel

end Reception

end Mqtt
