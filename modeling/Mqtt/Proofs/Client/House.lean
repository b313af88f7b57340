import Mqtt.Proofs.Client.Abiding

/-!
# Starting and stopping in steps

A call of `start` holds a lock from its look at the client to its return. A call of `stop` lets go
of the lock as soon as it has taken the session over; when the session is over it resets the state,
and puts the transport back after that. Anything else may come between two steps.
-/

namespace Mqtt
set_option autoImplicit false

namespace Client

variable {κ : Type} (c : Client κ)

def launch : Client κ :=
  { c with
      holdsTask := true
      ledger := { c.ledger with state := .init }
      task := some { session := .new c.config c.defaultPort } }

/-- Takes the session over from the client, to wait for its end. -/
def await (ticket : Nat) : Client κ :=
  { c.release with calls := c.release.calls ++ [⟨ticket, .stop⟩] }

def retire : Client κ := { c with ledger := { c.ledger with state := .unknown }, task := none }

theorem cancel_await {ticket : Nat} (hfresh : ∀ x ∈ c.calls, x.ticket ≠ ticket) :
    (c.await ticket).cancel ticket = c.release := by
  have hcalls : c.release.calls.filter (fun x => x.ticket ≠ ticket) = c.release.calls := by
    rw [calls_release, List.filter_eq_self]
    exact fun x hx => decide_eq_true (hfresh x hx)
  unfold cancel await
  dsimp only
  rw [List.filter_append, hcalls]
  simp

theorem await_eq {ticket : Nat} (hholds : c.holdsTask = true) : c.await ticket =
    { c with
        holdsTask := false
        task := c.task.map Task.signalStop
        calls := c.calls ++ [⟨ticket, .stop⟩] } := by
  unfold await release
  rw [if_pos hholds]

theorem start_eq_ok_iff : c.start.2 = .ok () ↔
    c.holdsTask = false ∧ c.state = .unknown ∧ c.transportHere = true := by
  unfold start
  cases c.holdsTask with
  | true => exact ⟨nofun, nofun⟩
  | false =>
    by_cases hstate : c.state = .unknown
    · cases c.transportHere <;> simp [hstate]
    · simp [hstate]

theorem stopped_cancel (ticket : Nat) : (c.cancel ticket).stopped.2 = c.stopped.2 := by
  unfold stopped cancel
  dsimp only
  split
  · split <;> rfl
  · rfl

theorem stopped_cases : c.stopped = ({ c.retire with transportHere := true }, .ok ())
    ∨ c.stopped = (c.retire, .error .internalStateError) := by
  unfold stopped
  dsimp only
  split
  · split
    · exact .inr rfl
    · exact .inl rfl
  · exact .inr rfl

end Client

/-- How far a call of `start` has come that holds the lock. -/
inductive Opening where
  /-- It has found the client idle. -/
  | admitted
  /-- It has the transport. -/
  | equipped
deriving DecidableEq, Repr

/-- What there is to be seen of the calls that start and stop a client, and of its sessions. -/
inductive Report where
  | began
  /-- A session is over. -/
  | ended
  | started (result : Except Error Unit)
  | stopped (result : Except Error Unit)
  /-- A call of `stop` that waits is given up by its caller. -/
  | gaveUp
deriving DecidableEq

/-- A scene with the calls of `start` and `stop` that are under way. Those that wait for the end of
the session are among the scene's calls. -/
structure House (κ : Type) where
  scene : Scene κ
  opening : Option Opening := none
  /-- Whether a call of `stop` has the transport. -/
  closing : Bool := false

inductive Beat (κ : Type) where
  /-- A call of `start` takes the lock and looks at the client. -/
  | look
  /-- It takes the transport. -/
  | equip
  /-- It begins a session, and returns. -/
  | launch
  /-- A call of `stop` takes the session over, or finds none and returns. -/
  | stop
  /-- A call of `stop` has waited for the end of the session, and resets the state. -/
  | reset (ticket : Nat)
  /-- It puts the transport back, and returns. -/
  | restore
  /-- Anything else. -/
  | act (a : Act κ)

/-- A session begins, and the broker accepts it at once. -/
def Beat.connecting {κ : Type} : List (Beat κ) :=
  [.look, .equip, .launch] ++ Act.connecting.tail.map .act

/-- A session that waits for bytes sees that it shall stop, takes leave and ends. -/
def Beat.leaving {κ : Type} : List (Beat κ) :=
  [.act (.session 0 .stop), .act (.session 0 .run), .act (.session 0 (.written (.ok ()))),
    .act (.session 0 .run)]

namespace House

variable {κ : Type} (react : κ → Event → Reaction κ) (h : House κ)

def client : Client κ := h.scene.client

def withClient (client : Client κ) : House κ := { h with scene := { h.scene with client } }

def look : House κ × List Report :=
  if h.opening.isSome then (h, [])
  else if h.client.holdsTask || h.client.state ≠ .unknown then
    (h, [.started (.error .alreadyStarted)])
  else ({ h with opening := some .admitted }, [])

def equip : House κ × List Report :=
  if h.opening ≠ some .admitted then (h, [])
  else if h.client.transportHere then
    ({ h.withClient { h.client with transportHere := false } with opening := some .equipped }, [])
  else ({ h with opening := none }, [.started (.error .internalStateError)])

def launched : House κ :=
  { h with
      scene := { h.scene with client := h.client.launch, sessions := h.scene.sessions + 1 }
      opening := none }

def launch : House κ × List Report :=
  if h.opening ≠ some .equipped then (h, []) else (h.launched, [.began, .started (.ok ())])

def counted : House κ := { h with scene := { h.scene with tickets := h.scene.tickets + 1 } }

def stop : House κ × List Report :=
  if h.opening.isSome then (h, [])
  else
    if h.client.holdsTask then (h.counted.withClient (h.client.await h.scene.tickets), [])
    else (h.counted, [.stopped (.ok ())])

def reset (ticket : Nat) : House κ × List Report :=
  if ticket ∈ h.client.stops ∧ h.client.task.all Task.isOver = true then
    let next := h.withClient (h.client.cancel ticket).retire
    match h.client.stopped.2 with
    | .ok () => ({ next with closing := true }, [])
    | .error e => (next, [.stopped (.error e)])
  else (h, [])

def restore : House κ × List Report :=
  if h.closing then
    ({ h.withClient { h.client with transportHere := true } with closing := false },
      [.stopped (.ok ())])
  else (h, [])

/-- Whether an act can come about: it is no part of a call of `start` or `stop`, the client is not
let go, and whoever looks for the session waits for the lock. -/
def admits : Act κ → Bool
  | .start | .stop | .release => false
  | .reach _ => h.opening.isNone
  | .conclude ticket => ticket ∉ h.client.stops
  | _ => true

/-- Whether a caller gives up a call of `stop` with an act. -/
def givesUp : Act κ → Bool
  | .cancel ticket => ticket ∈ h.client.stops
  | _ => false

def seenOfAct (a : Act κ) : List Report :=
  (if h.client.isOpen && !(h.scene.act react a).1.client.isOpen then [.ended] else [])
    ++ if h.givesUp a then [.gaveUp] else []

def act (a : Act κ) : House κ × List Report :=
  if h.admits a then ({ h with scene := (h.scene.act react a).1 }, h.seenOfAct react a)
  else (h, [])

/-- One step of a call, or an act. One that cannot come about changes nothing. -/
def beat : Beat κ → House κ × List Report
  | .look => h.look
  | .equip => h.equip
  | .launch => h.launch
  | .stop => h.stop
  | .reset ticket => h.reset ticket
  | .restore => h.restore
  | .act a => h.act react a

/-- Any steps in any order: where they lead, and what is to be seen. -/
def play : House κ → List (Beat κ) → House κ × List Report
  | h, [] => (h, [])
  | h, b :: beats =>
    let (h', seen) := h.beat react b
    ((play h' beats).1, seen ++ (play h' beats).2)

inductive Course : Beat κ → House κ × List Report → Prop where
  | stays (b : Beat κ) : Course b (h, [])
  | refuses (hopening : h.opening = none)
    (hbusy : h.client.holdsTask = true ∨ h.client.state ≠ .unknown) :
    Course .look (h, [.started (.error .alreadyStarted)])
  | admits (hopening : h.opening = none) (hholds : h.client.holdsTask = false)
    (hstate : h.client.state = .unknown) : Course .look ({ h with opening := some .admitted }, [])
  | equips (hopening : h.opening = some .admitted) (hhere : h.client.transportHere = true) :
    Course .equip ({ h.withClient { h.client with transportHere := false } with
      opening := some .equipped }, [])
  | lacks (hopening : h.opening = some .admitted) (hhere : h.client.transportHere = false) :
    Course .equip ({ h with opening := none }, [.started (.error .internalStateError)])
  | launches (hopening : h.opening = some .equipped) :
    Course .launch (h.launched, [.began, .started (.ok ())])
  | waits (hopening : h.opening = none) (hholds : h.client.holdsTask = true) :
    Course .stop (h.counted.withClient (h.client.await h.scene.tickets), [])
  | passes (hopening : h.opening = none) (hholds : h.client.holdsTask = false) :
    Course .stop (h.counted, [.stopped (.ok ())])
  | resets (ticket : Nat) (hstops : ticket ∈ h.client.stops)
    (hover : h.client.task.all Task.isOver = true) (hstopped : h.client.stopped.2 = .ok ()) :
    Course (.reset ticket)
      ({ h.withClient (h.client.cancel ticket).retire with closing := true }, [])
  | loses (ticket : Nat) (hstops : ticket ∈ h.client.stops)
    (hover : h.client.task.all Task.isOver = true) (e : Error)
    (hstopped : h.client.stopped.2 = .error e) :
    Course (.reset ticket) (h.withClient (h.client.cancel ticket).retire, [.stopped (.error e)])
  | restores (hclosing : h.closing = true) :
    Course .restore ({ h.withClient { h.client with transportHere := true } with closing := false },
      [.stopped (.ok ())])
  | acts (a : Act κ) (hadmits : h.admits a = true) :
    Course (.act a) ({ h with scene := (h.scene.act react a).1 }, h.seenOfAct react a)

theorem course (b : Beat κ) : h.Course react b (h.beat react b) := by
  cases b with
  | look =>
    unfold beat look
    dsimp only
    split
    · exact .stays _
    · rename_i hopening
      have hnone : h.opening = none := by simpa using hopening
      split
      · rename_i hbusy
        exact .refuses hnone (by simpa using hbusy)
      · rename_i hbusy
        rw [Bool.or_eq_true, not_or] at hbusy
        exact .admits hnone (by simpa using hbusy.1) (by simpa using hbusy.2)
  | equip =>
    unfold beat equip
    dsimp only
    split
    · exact .stays _
    · rename_i hopening
      split
      · rename_i hhere
        exact .equips (not_not.mp hopening) hhere
      · rename_i hhere
        exact .lacks (not_not.mp hopening) (Bool.eq_false_iff.mpr hhere)
  | launch =>
    unfold beat launch
    dsimp only
    split
    · exact .stays _
    · rename_i hopening
      exact .launches (not_not.mp hopening)
  | stop =>
    unfold beat stop
    dsimp only
    split
    · exact .stays _
    · rename_i hopening
      have hnone : h.opening = none := by simpa using hopening
      split
      · rename_i hholds
        exact .waits hnone hholds
      · rename_i hholds
        exact .passes hnone (Bool.eq_false_iff.mpr hholds)
  | reset ticket =>
    unfold beat reset
    dsimp only
    split
    · rename_i hready
      split
      · rename_i hstopped
        exact .resets ticket hready.1 hready.2 hstopped
      · rename_i e hstopped
        exact .loses ticket hready.1 hready.2 e hstopped
    · exact .stays _
  | restore =>
    unfold beat restore
    dsimp only
    split
    · rename_i hclosing
      exact .restores hclosing
    · exact .stays _
  | act a =>
    unfold beat act
    dsimp only
    split
    · rename_i hadmits
      exact .acts a hadmits
    · exact .stays _

/-! ### Calls that nothing comes between -/

variable {h}

def seenOfStart : Except Error Unit → List Report
  | .ok () => [.began, .started (.ok ())]
  | .error e => [.started (.error e)]

/-- A call of `start` that nothing comes between is one act of the client. -/
theorem play_start (hopening : h.opening = none) : h.play react [.look, .equip, .launch] =
    ({ h with scene := h.scene.start.1 }, seenOfStart h.client.start.2) := by
  obtain ⟨scene, opening, closing⟩ := h
  cases hopening
  change _ = (_, seenOfStart scene.client.start.2)
  unfold Scene.start
  cases hheld : (scene.client.holdsTask || decide (scene.client.state ≠ .unknown)) with
  | true =>
    have hstart : scene.client.start = (scene.client, .error .alreadyStarted) := if_pos hheld
    have hlook : look ⟨scene, none, closing⟩ =
        (⟨scene, none, closing⟩, [.started (.error .alreadyStarted)]) := if_pos hheld
    rw [hstart]
    simp only [play, beat, hlook]
    rfl
  | false =>
    have hlook : look ⟨scene, none, closing⟩ = (⟨scene, some .admitted, closing⟩, []) :=
      if_neg (Bool.eq_false_iff.mp hheld)
    unfold Client.start
    rw [hheld, if_neg Bool.false_ne_true]
    simp only [play, beat, hlook]
    cases hhere : scene.client.transportHere with
    | true =>
      have hequip : equip ⟨scene, some .admitted, closing⟩ = (⟨{ scene with
          client := { scene.client with transportHere := false } }, some .equipped, closing⟩, []) :=
        if_pos hhere
      simp only [hequip]
      rfl
    | false =>
      have hequip : equip ⟨scene, some .admitted, closing⟩ =
          (⟨scene, none, closing⟩, [.started (.error .internalStateError)]) :=
        if_neg (Bool.eq_false_iff.mp hhere)
      simp only [hequip]
      rfl

def seenOfStop : Option Return → List Report
  | some (.done result) => [.stopped result]
  | _ => []

/-- A call of `stop` that has waited, and that nothing comes between, is one act of the client. -/
theorem play_conclude {ticket : Nat} (hclosing : h.closing = false)
    (hstops : ticket ∈ h.client.stops) (hover : h.client.task.all Task.isOver = true) :
    h.play react [.reset ticket, .restore] =
      (h.withClient (h.client.conclude ⟨ticket, .stop⟩).1,
        seenOfStop (some (h.client.conclude ⟨ticket, .stop⟩).2)) := by
  have hreset : h.reset ticket =
      match (h.client.cancel ticket).stopped.2 with
      | .ok () => ({ h.withClient (h.client.cancel ticket).retire with closing := true }, [])
      | .error e => (h.withClient (h.client.cancel ticket).retire, [.stopped (.error e)]) := by
    rw [Client.stopped_cancel]
    exact if_pos ⟨hstops, hover⟩
  change _ = (h.withClient (h.client.cancel ticket).stopped.1,
    [Report.stopped (h.client.cancel ticket).stopped.2])
  simp only [play, beat]
  rcases (h.client.cancel ticket).stopped_cases with hstopped | hstopped
  · rw [hstopped] at hreset ⊢
    rw [hreset]
    obtain ⟨scene, opening, closing⟩ := h
    cases hclosing
    rfl
  · rw [hstopped] at hreset ⊢
    rw [hreset]
    obtain ⟨scene, opening, closing⟩ := h
    cases hclosing
    rfl

/-- A call of `stop` that nothing comes between is one act of the client. -/
theorem play_stop (hopening : h.opening = none) (hclosing : h.closing = false)
    (hfresh : ∀ x ∈ h.client.calls, x.ticket ≠ h.scene.tickets) :
    h.play react [.stop, .reset h.scene.tickets, .restore] =
      (h.counted.withClient (h.client.stop h.scene.tickets).1,
        seenOfStop (h.client.stop h.scene.tickets).2) := by
  have hrestore : ∀ h : House κ, h.closing = false → h.restore = (h, []) := fun h hc =>
    if_neg (Bool.eq_false_iff.mp hc)
  have hstop : h.stop = if h.client.holdsTask then
      (h.counted.withClient (h.client.await h.scene.tickets), [])
      else (h.counted, [.stopped (.ok ())]) := by
    unfold stop
    rw [hopening]
    rfl
  generalize hticket : h.scene.tickets = ticket at hfresh hstop ⊢
  cases hholds : h.client.holdsTask with
  | false =>
    have hreset : h.counted.reset ticket = (h.counted, []) :=
      if_neg fun hready => hfresh _ (Client.mem_stops.mp hready.1) rfl
    have hpasses : h.client.stop ticket = (h.client, some (.done (.ok ()))) := by
      unfold Client.stop
      rw [hholds]
      rfl
    rw [hholds, if_neg Bool.false_ne_true] at hstop
    simp only [play, beat, hstop, hreset, hpasses]
    rw [hrestore h.counted hclosing]
    rfl
  | true =>
    rw [hholds, if_pos rfl] at hstop
    cases hover : h.client.release.task.all Task.isOver with
    | true =>
      have hmem : ticket ∈ (h.client.await ticket).stops :=
        Client.mem_stops.mpr (List.mem_append_right _ List.mem_cons_self)
      have hconclude := play_conclude react
        (h := h.counted.withClient (h.client.await ticket)) hclosing hmem hover
      have hreturns : h.client.stop ticket =
          (h.client.release.stopped.1, some (.done h.client.release.stopped.2)) := by
        unfold Client.stop
        simp only [hholds, hover]
        rfl
      change _ = (h.counted.withClient ((h.client.await ticket).cancel ticket).stopped.1,
        [Report.stopped ((h.client.await ticket).cancel ticket).stopped.2]) at hconclude
      rw [h.client.cancel_await hfresh] at hconclude
      rw [hreturns]
      unfold play
      simp only [beat, hstop]
      rw [hconclude]
      rfl
    | false =>
      have hreset : (h.counted.withClient (h.client.await ticket)).reset ticket =
          (h.counted.withClient (h.client.await ticket), []) :=
        if_neg fun hready => Bool.eq_false_iff.mp hover hready.2
      have hwaits : h.client.stop ticket = (h.client.await ticket, none) := by
        unfold Client.stop
        simp only [hholds, hover]
        rfl
      rw [hwaits]
      simp only [play, beat, hstop, hreset]
      rw [hrestore (h.counted.withClient (h.client.await ticket)) hclosing]
      rfl

end House

end Mqtt
