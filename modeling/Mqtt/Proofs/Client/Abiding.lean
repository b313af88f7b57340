import Mqtt.Proofs.Client.Steps
import Mqtt.Proofs.Listeners
import Mqtt.Proofs.Session.Endings

/-!
What is left of a client by acts that neither start nor stop it: one without a session stays
without, a session stays until it is done away with, and so do those who wait for its end.
-/

namespace Mqtt
set_option autoImplicit false

def Call.stop? (x : Call) : Option Nat :=
  match x.goal with
  | .stop => some x.ticket
  | _ => none

/-- Where no callback ever fails, no telling is cut short. -/
theorem Registry.not_failed_broadcast {κ : Type} {react : κ → Event → Reaction κ}
    (hcalm : ∀ k e, (react k e).fails = false) (r : Registry κ) (e : Event) :
    (r.broadcast react e).failed = false := by
  rw [failed_broadcast]
  apply List.any_eq_false.mpr
  rintro ⟨id, number | k⟩ _
  · exact Bool.false_ne_true
  · exact Bool.eq_false_iff.mp (hcalm k e)

namespace Client

variable {κ : Type} {react : κ → Event → Reaction κ} {c c' : Client κ}

/-- Whether there is no session, and the state is that of a client without one. -/
def IsIdle (c : Client κ) : Prop := c.task = none ∧ c.state = .unknown

/-- Whether there is a session, running or over, and the state is not that of a client without
one. -/
def IsStaffed (c : Client κ) : Prop :=
  (∃ t, c.task = some t ∧ t.session.phase.IsRegular) ∧ c.state ≠ .unknown

/-- The tickets of the calls that wait for the end of the session. -/
def stops (c : Client κ) : List Nat := c.calls.filterMap Call.stop?

theorem mem_stops {ticket : Nat} : ticket ∈ c.stops ↔ ⟨ticket, .stop⟩ ∈ c.calls := by
  unfold stops
  rw [List.mem_filterMap]
  constructor
  · rintro ⟨⟨other, _ | _⟩, hx, hstop⟩
    · cases hstop
      exact hx
    · cases hstop
  · exact fun hx => ⟨_, hx, rfl⟩

/-- What neither starts nor stops a client leaves of it. -/
structure Abides (c c' : Client κ) : Prop where
  holds : c'.holdsTask = c.holdsTask
  here : c'.transportHere = c.transportHere
  idle : c.IsIdle → c'.IsIdle
  staffed : c.IsStaffed → c'.IsStaffed
  opens : c'.isOpen = true → c.isOpen = true

theorem Abides.of_task (htask : c'.task = c.task) (hstate : c'.state = c.state)
    (hholds : c'.holdsTask = c.holdsTask) (hhere : c'.transportHere = c.transportHere) :
    Abides c c' := by
  refine ⟨hholds, hhere, ?_, ?_, ?_⟩
  · unfold IsIdle
    rw [htask, hstate]
    exact id
  · unfold IsStaffed
    rw [htask, hstate]
    exact id
  · unfold isOpen
    rw [htask]
    exact id

theorem Abides.trans {c'' : Client κ} (h : Abides c c') (h' : Abides c' c'') : Abides c c'' where
  holds := h'.holds.trans h.holds
  here := h'.here.trans h.here
  idle hidle := h'.idle (h.idle hidle)
  staffed hstaffed := h'.staffed (h.staffed hstaffed)
  opens hopen := h.opens (h'.opens hopen)

/-- The task may be replaced by one with the same session. -/
theorem Abides.of_session {t t' : Task} (htask : c.task = some t)
    (hsession : t'.session = t.session) : Abides c { c with task := some t' } := by
  refine ⟨rfl, rfl, ?_, ?_, ?_⟩
  · rintro ⟨hnone, _⟩
    cases htask.symm.trans hnone
  · rintro ⟨⟨t₀, ht₀, hregular⟩, hstate⟩
    cases htask.symm.trans ht₀
    exact ⟨⟨t', rfl, hsession ▸ hregular⟩, hstate⟩
  · unfold isOpen Task.isOver
    rw [htask]
    simp only [Option.any_some, hsession]
    exact id

theorem abides_closeQueue : Abides c c.closeQueue := by
  cases ht : c.task with
  | none =>
    refine .of_task ?_ rfl rfl rfl
    unfold closeQueue
    rw [ht]
    rfl
  | some t =>
    have hsession : Abides c { c with task := some { t with queue := [] } } := .of_session ht rfl
    refine hsession.trans (.of_task ?_ rfl rfl rfl)
    unfold closeQueue
    rw [ht]
    rfl

theorem stops_map {f : Call → Call} (h : ∀ x, (f x).stop? = x.stop?) (calls : List Call) :
    (calls.map f).filterMap Call.stop? = calls.filterMap Call.stop? := by
  rw [List.filterMap_map]
  exact congrArg (calls.filterMap ·) (funext h)

theorem stops_closeQueue : c.closeQueue.stops = c.stops := by
  refine stops_map ?_ c.calls
  rintro ⟨ticket, _ | ⟨kind, packetId, _ | result⟩⟩ <;> rfl

theorem stops_answer (ticket : Nat) (result : Except Error Unit) :
    (c.answer ticket result).stops = c.stops := by
  refine stops_map ?_ c.calls
  rintro ⟨ticket', _ | ⟨kind, packetId, _ | answer⟩⟩
  · rfl
  · dsimp only
    split <;> rfl
  · rfl

theorem stops_cancel (ticket : Nat) :
    (c.cancel ticket).stops = c.stops.filter fun other => other ≠ ticket := by
  unfold stops cancel
  dsimp only
  rw [List.filterMap_filter, List.filter_filterMap]
  refine congrArg (c.calls.filterMap ·) (funext fun x => ?_)
  obtain ⟨other, _ | ⟨kind, packetId, answer⟩⟩ := x
  · by_cases hother : other = ticket <;> simp [Call.stop?, Option.filter, hother]
  · simp [Call.stop?]

/-- Without a callback that fails, effects leave the session alone. -/
theorem task_perform_of_calm (hcalm : ∀ k e, (react k e).fails = false) (effects : List Effect) :
    (c.perform react effects).1.task = c.task := by
  induction effects generalizing c with
  | nil => rfl
  | cons x rest ih =>
    cases x with
    | tell e =>
      unfold perform
      dsimp only
      rw [Registry.not_failed_broadcast hcalm, if_neg Bool.false_ne_true]
      exact ih
    | answer ticket result => exact ih (c := c.answer ticket result)
    | connect host port timeout => exact ih
    | write bytes timeout => exact ih
    | read timeout => exact ih
    | close => exact ih

theorem stops_perform (effects : List Effect) : (c.perform react effects).1.stops = c.stops := by
  induction effects generalizing c with
  | nil => rfl
  | cons x rest ih =>
    cases x with
    | tell e =>
      unfold perform
      dsimp only
      split
      · rfl
      · exact ih
    | answer ticket result =>
      exact (ih (c := c.answer ticket result)).trans (stops_answer ticket result)
    | connect host port timeout => exact ih
    | write bytes timeout => exact ih
    | read timeout => exact ih
    | close => exact ih

theorem abides_carryOut (hcalm : ∀ k e, (react k e).fails = false) {now : Nat} {signal : Signal}
    {t : Task} {m : Moment} (h : c.moment? now signal = some (t, m)) :
    Abides c (c.carryOut react t m).1 := by
  obtain ⟨hl, _, t₀, ht₀, hsession, _⟩ := moment?_cases h
  unfold carryOut
  dsimp only
  obtain ⟨hledger, hholds, hhere⟩ := perform_frame react
    { c with ledger := (t.session.respond m).ledger
             task := some { t with session := (t.session.respond m).session } }
    (t.session.respond m).effects
  refine ⟨hholds, hhere, ?_, ?_, fun _ => isOpen_of_moment? h⟩
  · rintro ⟨hnone, _⟩
    cases ht₀.symm.trans hnone
  · rintro ⟨⟨t₁, ht₁, hregular⟩, hstate⟩
    cases ht₀.symm.trans ht₁
    rw [← hsession] at hregular
    refine ⟨⟨_, task_perform_of_calm hcalm _, Session.isRegular_step hregular⟩, ?_⟩
    unfold Client.state
    rw [hledger]
    dsimp only
    rw [Session.ledger_respond]
    refine Ledger.state_moveAll_ne_unknown (Session.setState_unknown_notMem_moves hregular) ?_
    rw [hl]
    exact hstate

end Client

namespace Scene

variable {κ : Type} {react : κ → Event → Reaction κ} {s : Scene κ}

/-- What an act leaves of the client and of those who wait for its session. -/
def Abides (s s' : Scene κ) : Prop :=
  s.client.Abides s'.client ∧ s'.client.stops = s.client.stops

theorem abides_of_calls {s' : Scene κ} (htask : s'.client.task = s.client.task)
    (hstate : s'.client.state = s.client.state) (hholds : s'.client.holdsTask = s.client.holdsTask)
    (hhere : s'.client.transportHere = s.client.transportHere)
    (hcalls : s'.client.calls = s.client.calls) : Abides s s' :=
  ⟨.of_task htask hstate hholds hhere, congrArg (·.filterMap Call.stop?) hcalls⟩

theorem abides_call (now : Nat) (o : Operation) : Abides s (s.call now o).1 := by
  have hstate := s.client.ledger.state_begin now o
  unfold Scene.call
  dsimp only
  split
  · exact abides_of_calls rfl rfl rfl rfl rfl
  · split
    · rename_i heq
      rw [heq] at hstate
      exact abides_of_calls rfl hstate rfl rfl rfl
    · rename_i heq
      rw [heq] at hstate
      exact abides_of_calls rfl hstate rfl rfl rfl

theorem abides_reach (ticket : Nat) : Abides s (s.reach ticket).1 := by
  unfold Scene.reach
  split
  · split <;> exact abides_of_calls rfl rfl rfl rfl rfl
  · exact abides_of_calls rfl rfl rfl rfl rfl

theorem abides_offer (ticket : Nat) : Abides s (s.offer ticket).1 := by
  unfold Scene.offer
  split
  · rename_i r session _
    have hoffered : s.client.Abides (if session = s.sessions then s.client.offer r
        else (s.client, .error .operationChannelSendError)).1
          ∧ (if session = s.sessions then s.client.offer r
            else (s.client, .error .operationChannelSendError)).1.calls = s.client.calls := by
      split
      · rcases s.client.offer_cases r with ⟨e, he⟩ | ⟨t, ht, _, hok⟩
        · rw [he]
          exact ⟨.of_task rfl rfl rfl rfl, rfl⟩
        · rw [hok]
          exact ⟨.of_session ht rfl, rfl⟩
      · exact ⟨.of_task rfl rfl rfl rfl, rfl⟩
    split
    · rename_i client heq
      rw [heq] at hoffered
      refine ⟨hoffered.1.trans (.of_task rfl rfl rfl rfl), ?_⟩
      unfold Client.stops
      dsimp only
      rw [hoffered.2, List.filterMap_append]
      exact List.append_nil _
    · rename_i client e heq
      rw [heq] at hoffered
      exact ⟨hoffered.1, congrArg (·.filterMap Call.stop?) hoffered.2⟩
  · exact abides_of_calls rfl rfl rfl rfl rfl

theorem abides_giveUp (ticket : Nat) : Abides s (s.giveUp ticket).1 := by
  unfold Scene.giveUp
  split
  · exact abides_of_calls rfl Ledger.state_forget rfl rfl rfl
  · exact abides_of_calls rfl rfl rfl rfl rfl

/-- A call that returns without having waited for the end of the session. -/
theorem abides_conclude {ticket : Nat} (h : ticket ∉ s.client.stops) :
    Abides s (s.conclude ticket).1 := by
  have hcancel : (s.client.cancel ticket).stops = s.client.stops := by
    rw [Client.stops_cancel, List.filter_eq_self]
    intro other hother
    simpa using ne_of_mem_of_not_mem hother h
  unfold Scene.conclude
  split
  · rename_i x hfind
    have hx := List.mem_of_find?_eq_some hfind
    have hticket : x.ticket = ticket := by simpa using List.find?_some hfind
    obtain ⟨_, goal⟩ := x
    cases hticket
    split
    · cases goal with
      | stop => exact absurd (Client.mem_stops.mpr hx) h
      | operation kind packetId answer =>
        rcases answer with _ | _ | _
        · exact ⟨.of_task rfl Ledger.state_forget rfl rfl, hcancel⟩
        · exact ⟨.of_task rfl Ledger.state_forget rfl rfl, hcancel⟩
        · exact ⟨.of_task rfl rfl rfl rfl, hcancel⟩
    · exact abides_of_calls rfl rfl rfl rfl rfl
  · exact abides_of_calls rfl rfl rfl rfl rfl

theorem abides_cancel (ticket : Nat) : s.client.Abides (s.cancel ticket).1.client
    ∧ (s.cancel ticket).1.client.stops = s.client.stops.filter fun other => other ≠ ticket := by
  unfold Scene.cancel
  split
  · exact ⟨.of_task rfl rfl rfl rfl, Client.stops_cancel ticket⟩
  · rename_i hnone
    refine ⟨.of_task rfl rfl rfl rfl, (List.filter_eq_self.mpr fun other hother => ?_).symm⟩
    refine decide_eq_true fun hticket => ?_
    rw [List.any_eq_true, not_exists] at hnone
    exact hnone _ ⟨Client.mem_stops.mp hother, decide_eq_true hticket⟩

theorem abides_settle : Abides s s.settle.1 := by
  unfold settle
  split
  · exact ⟨Client.abides_closeQueue, Client.stops_closeQueue⟩
  · exact abides_of_calls rfl rfl rfl rfl rfl

theorem abides_session (hcalm : ∀ k e, (react k e).fails = false) (now : Nat)
    (signal : Client.Signal) : Abides s (s.session react now signal).1 := by
  unfold Scene.session
  split
  · exact abides_of_calls rfl rfl rfl rfl rfl
  · split
    · rename_i t m hmoment
      obtain ⟨hsettle, hsettled⟩ := abides_settle (s := (s.proceed react t m).1)
      have hstops : (s.proceed react t m).1.client.stops = s.client.stops := Client.stops_perform _
      exact ⟨(Client.abides_carryOut hcalm hmoment).trans hsettle, hsettled.trans hstops⟩
    · exact abides_of_calls rfl rfl rfl rfl rfl

end Scene

end Mqtt
