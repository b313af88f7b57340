import Mqtt.Proofs.Client.Keeping

/-!
What an act does to the ledger: it issues an operation, forgets one that failed, or is the session
at its own calls. The end of an operation is told of in the act that completes it.
-/

namespace Mqtt
set_option autoImplicit false

namespace LogEntry

def noted? : LogEntry → Option Ledger.Deed
  | .noted d => some d
  | _ => none

def told? : LogEntry → Option Event
  | .told e => some e
  | _ => none

/-- Entries that are neither about the ledger nor about a call that failed. -/
def IsAloof : LogEntry → Prop
  | .refused .. | .accepted _ | .noted _ | .told _ | .returned _ (.error _) => False
  | _ => True

theorem IsAloof.noted? {x : LogEntry} (h : x.IsAloof) : x.noted? = none := by
  cases x with
  | noted _ => cases h
  | _ => rfl

theorem IsAloof.told? {x : LogEntry} (h : x.IsAloof) : x.told? = none := by
  cases x with
  | told _ => cases h
  | _ => rfl

theorem noted?_eq_nil {es : List LogEntry} (h : ∀ x ∈ es, x.IsAloof) : es.filterMap noted? = [] :=
  List.filterMap_eq_nil_iff.mpr fun x hx => (h x hx).noted?

theorem told?_eq_nil {es : List LogEntry} (h : ∀ x ∈ es, x.IsAloof) : es.filterMap told? = [] :=
  List.filterMap_eq_nil_iff.mpr fun x hx => (h x hx).told?

theorem noted?_map (ds : List Ledger.Deed) : (ds.map LogEntry.noted).filterMap noted? = ds := by
  rw [List.filterMap_map]
  exact List.filterMap_some

theorem told?_map (events : List Event) : (events.map LogEntry.told).filterMap told? = events := by
  rw [List.filterMap_map]
  exact List.filterMap_some

theorem told?_noted (ds : List Ledger.Deed) : (ds.map LogEntry.noted).filterMap told? = [] := by
  rw [List.filterMap_map, List.filterMap_eq_nil_iff]
  exact fun _ _ => rfl

theorem noted?_told (events : List Event) : (events.map LogEntry.told).filterMap noted? = [] := by
  rw [List.filterMap_map, List.filterMap_eq_nil_iff]
  exact fun _ _ => rfl

end LogEntry

/-- Whether events tell of no end of an operation, or of just the one that was completed. -/
def TellsOf (events : List Event) (deeds : List Ledger.Deed) : Prop :=
  (∀ e ∈ events, e.deeds = []) ∨ ∃ e d, events.Sublist [e] ∧ deeds = [d] ∧ d ∈ e.deeds

namespace Scene

variable {κ : Type} {react : κ → Event → Reaction κ} {s s' : Scene κ} {log es : List LogEntry}

/-- Whether a request may still fail, and its operation be forgotten for that: a caller has it, the
session has it or will take it, or a call that has not succeeded is about it. -/
def Carries (s : Scene κ) (r : Request) : Prop :=
  (∃ x ∈ s.callers, x.request = r) ∨ r ∈ s.client.queue ∨ s.client.flight = some r
    ∨ ∃ answer, answer ≠ some (.ok ())
      ∧ ⟨r.ticket, .operation r.kind r.packetId answer⟩ ∈ s.client.calls

/-- What an act does to the ledger. -/
inductive Turn (s s' : Scene κ) (log es : List LogEntry) : Prop where
  | refuses (now : Nat) (o : Operation) (e : Error)
    (hledger : s'.client.ledger = s.client.ledger)
    (hlog : es = [.called s.tickets now o, .refused s.tickets e])
  | begins (now : Nat) (o : Operation) (out : Outgoing)
    (hbegin : (s.client.ledger.begin now o).2 = .ok out)
    (hledger : s'.client.ledger = (s.client.ledger.begin now o).1)
    (hlog : es = [.called s.tickets now o, .accepted ⟨out.bytes, o.kind, out.packetId, s.tickets⟩,
      .noted (.issued o.kind o.qos out.packetId)])
  | forgets (r : Request) (haccepted : .accepted r ∈ log) (hcarries : s.Carries r)
    (hledger : s'.client.ledger = s.client.ledger.forget r.kind r.packetId)
    (hforgot : .forgot r.ticket ∈ es)
    (hes : ∀ x ∈ es, x.IsAloof ∨ ∃ e, x = .returned r.ticket (.error e))
  | aside (moves : List Ledger.Move) (hmoves : ∀ x ∈ moves, x.IsOwn)
    (hledger : s'.client.ledger = s.client.ledger.moveAll moves)
    (hnoted : es.filterMap LogEntry.noted? = s.client.ledger.deeds moves)
    (htold : TellsOf (es.filterMap LogEntry.told?) (s.client.ledger.deeds moves))
    (hes : ∀ x ∈ es, x.IsAloof ∨ (∃ d, x = .noted d) ∨ ∃ e, x = .told e)

theorem Turn.of_state (hledger : ∃ state, s'.client.ledger = { s.client.ledger with state })
    (hes : ∀ x ∈ es, x.IsAloof) : Turn s s' log es := by
  obtain ⟨state, hledger⟩ := hledger
  refine .aside [.setState state] (List.forall_mem_singleton.mpr trivial) hledger ?_ ?_ ?_
  · exact LogEntry.noted?_eq_nil hes
  · rw [LogEntry.told?_eq_nil hes]
    exact .inl (List.forall_mem_nil _)
  · exact fun x hx => .inl (hes x hx)

theorem Turn.of_ledger (hledger : s'.client.ledger = s.client.ledger)
    (hes : ∀ x ∈ es, x.IsAloof) : Turn s s' log es :=
  .of_state ⟨s.client.ledger.state, hledger⟩ hes

theorem Turn.ledger_of_refused (h : Turn s s' log es) {ticket : Nat} {e : Error}
    (hrefused : .refused ticket e ∈ es) : s'.client.ledger = s.client.ledger := by
  cases h with
  | refuses now o e hledger hlog => exact hledger
  | begins now o out hbegin hledger hlog =>
    rw [hlog] at hrefused
    simp at hrefused
  | forgets r haccepted hcarries hledger hforgot hes =>
    rcases hes _ hrefused with haloof | ⟨e, he⟩
    · exact haloof.elim
    · cases he
  | aside moves hmoves hledger hnoted htold hes =>
    rcases hes _ hrefused with haloof | ⟨d, hd⟩ | ⟨e, he⟩
    · exact haloof.elim
    · cases hd
    · cases he

theorem ledger_of_new {config : Config} {defaultPort : UInt16} {listener : Option (Listener κ)}
    {c : Client κ} (h : Client.new config defaultPort listener = .ok c) :
    c.ledger = .new config := by
  rw [(Client.new_eq_ok_iff.mp h).2]

theorem ledger_stopped (c : Client κ) :
    c.stopped.1.ledger = { c.ledger with state := .unknown } := by
  unfold Client.stopped
  dsimp only
  split
  · split <;> rfl
  · rfl

theorem ledger_release (c : Client κ) : c.release.ledger = c.ledger := by
  unfold Client.release
  split <;> rfl

theorem ledger_stop (c : Client κ) (ticket : Nat) :
    ∃ state, (c.stop ticket).1.ledger = { c.ledger with state } := by
  unfold Client.stop
  split
  · exact ⟨c.ledger.state, rfl⟩
  · dsimp only
    split
    · refine ⟨.unknown, ?_⟩
      rw [← ledger_release c]
      exact ledger_stopped c.release
    · exact ⟨c.ledger.state, ledger_release c⟩

theorem ledger_start (c : Client κ) : ∃ state, c.start.1.ledger = { c.ledger with state } := by
  unfold Client.start
  split
  · exact ⟨c.ledger.state, rfl⟩
  · split
    · exact ⟨c.ledger.state, rfl⟩
    · exact ⟨.init, rfl⟩

theorem turn_start : Turn s s.start.1 log s.start.2 := by
  have hledger := ledger_start s.client
  unfold Scene.start
  split
  · rename_i client hstart
    rw [hstart] at hledger
    exact .of_state hledger (by simp [LogEntry.IsAloof])
  · rename_i client e hstart
    rw [hstart] at hledger
    exact .of_state hledger (List.forall_mem_nil _)

theorem turn_call (now : Nat) (o : Operation) : Turn s (s.call now o).1 log (s.call now o).2 := by
  unfold Scene.call
  dsimp only
  split
  · exact .refuses now o _ rfl rfl
  · split
    · rename_i ledger e hbegin
      have hsame : ledger = s.client.ledger := by
        have hresult : (s.client.ledger.begin now o).2 = .error e := by rw [hbegin]
        have herror := Ledger.begin_of_error hresult
        rw [hbegin] at herror
        exact herror
      exact .refuses now o e hsame rfl
    · rename_i ledger out hbegin
      refine .begins now o out (by rw [hbegin]) (by rw [hbegin]) ?_
      have hdeeds : s.client.ledger.deedsOf (.begin now o) =
          [.issued o.kind o.qos out.packetId] := by
        simp only [Ledger.deedsOf, hbegin]
      rw [hdeeds]
      rfl

theorem turn_reach (ticket : Nat) : Turn s (s.reach ticket).1 log (s.reach ticket).2 := by
  unfold Scene.reach
  split
  · split
    · exact .of_ledger rfl (List.forall_mem_nil _)
    · exact .of_ledger rfl (by simp [LogEntry.IsAloof])
  · exact .of_ledger rfl (List.forall_mem_nil _)

theorem turn_offer (ticket : Nat) : Turn s (s.offer ticket).1 log (s.offer ticket).2 := by
  unfold Scene.offer
  split
  · rename_i r session _
    have hoffered : (if session = s.sessions then s.client.offer r
        else (s.client, .error .operationChannelSendError)).1.ledger = s.client.ledger := by
      split
      · rcases s.client.offer_cases r with ⟨e, he⟩ | ⟨t, _, _, hok⟩
        · rw [he]
        · rw [hok]
      · rfl
    split
    · rename_i client heq
      rw [heq] at hoffered
      exact .of_ledger hoffered (by simp [LogEntry.IsAloof])
    · rename_i client e heq
      rw [heq] at hoffered
      exact .of_ledger hoffered (by simp [LogEntry.IsAloof])
  · exact .of_ledger rfl (List.forall_mem_nil _)

theorem Kept.accepted_of_place (h : Kept s log) {x : Request × Place} (hx : x ∈ s.places) :
    .accepted x.1 ∈ log := (mem_story.mp (h.tidy.under x hx).accepted_mem).1

theorem Kept.turn_giveUp (h : Kept s log) (ticket : Nat) :
    Turn s (s.giveUp ticket).1 log (s.giveUp ticket).2 := by
  unfold Scene.giveUp
  split
  · rename_i r e hcaller
    have hplace := (places_of_caller hcaller).mem_iff.mpr List.mem_cons_self
    have hmem := List.mem_of_find?_eq_some hcaller
    exact .forgets r (h.accepted_of_place hplace) (.inl ⟨_, hmem, rfl⟩) rfl List.mem_cons_self
      (by simp [LogEntry.IsAloof])
  · exact .of_ledger rfl (List.forall_mem_nil _)

theorem Kept.turn_conclude (h : Kept s log) (ticket : Nat) :
    Turn s (s.conclude ticket).1 log (s.conclude ticket).2 := by
  unfold Scene.conclude
  split
  · rename_i x hfind
    have hx := List.mem_of_find?_eq_some hfind
    split
    · rename_i hready
      have hfits := h.attended.fits x hx
      -- A call that concludes has its answer, and a failed one forgets its record.
      cases hfits with
      | stop _ => exact .of_state ⟨.unknown, ledger_stopped _⟩ (List.forall_mem_nil _)
      | waits _ _ => cases hready
      | answered haccepted hanswered =>
        rename_i r answer
        cases answer with
        | ok u =>
          exact .of_ledger rfl (by
            simp [returning, Client.conclude, Call.answered, Request.call, LogEntry.IsAloof])
        | error e =>
          have hfailed : (some (.error e) : Option (Except Error Unit)) ≠ some (.ok ()) := by
            intro h
            cases h
          have hcarries : s.Carries r := .inr (.inr (.inr ⟨some (.error e), hfailed, hx⟩))
          exact .forgets r haccepted hcarries rfl List.mem_cons_self (by
            simp [returning, Client.conclude, Call.answered, Request.call, LogEntry.IsAloof])
    · exact .of_ledger rfl (List.forall_mem_nil _)
  · exact .of_ledger rfl (List.forall_mem_nil _)

theorem turn_cancel (ticket : Nat) : Turn s (s.cancel ticket).1 log (s.cancel ticket).2 := by
  unfold Scene.cancel
  split
  · exact .of_ledger rfl (by simp [LogEntry.IsAloof])
  · exact .of_ledger rfl (List.forall_mem_nil _)

theorem aloof_settle :
    s.settle.1.client.ledger = s.client.ledger ∧ ∀ x ∈ s.settle.2, x.IsAloof := by
  unfold settle
  split
  · refine ⟨rfl, fun x hx => ?_⟩
    obtain ⟨ticket, _, hxt⟩ := List.mem_map.mp hx
    rw [← hxt]
    trivial
  · exact ⟨rfl, List.forall_mem_nil _⟩

/-- The end of a session, if it comes with a step, makes no difference to the ledger. -/
theorem Kept.turn_proceed (h : Kept s log) {now : Nat} {signal : Client.Signal} {t : Task}
    {m : Moment} (hmoment : s.client.moment? now signal = some (t, m)) :
    Turn s (andThen (s.proceed react t m) Scene.settle).1 log
      (andThen (s.proceed react t m) Scene.settle).2 := by
  obtain ⟨hproceeds, _⟩ := proceeds react hmoment h.writes
  unfold andThen
  generalize s.proceed react t m = after at hproceeds ⊢
  obtain ⟨s', es⟩ := after
  -- What `settle` adds to the log is aloof, so each case is the step's alone.
  obtain ⟨hsettled, hmore⟩ := aloof_settle (s := s')
  dsimp only at hproceeds ⊢
  generalize s'.settle = settled at hsettled hmore ⊢
  cases hproceeds with
  | takes r hqueue hidle hflight hcalls hledger hlog =>
    refine .of_ledger (hsettled.trans hledger) (List.forall_mem_append.mpr ⟨?_, hmore⟩)
    simp [hlog, LogEntry.IsAloof]
  | rejects r e hqueue hidle hflight hcalls hledger hlog =>
    have hplace : (r, .queued) ∈ s.places := by
      unfold places
      rw [hqueue]
      exact placesOf_queue.mem_iff.mpr List.mem_cons_self
    refine .forgets r (h.accepted_of_place hplace) (.inr (.inl (by simp [hqueue])))
      (hsettled.trans hledger) (by simp [hlog])
      (List.forall_mem_append.mpr ⟨?_, fun x hx => .inl (hmore x hx)⟩)
    simp [hlog, LogEntry.IsAloof]
  | writes r hqueue hbusy hflight hcalls hledger hlog =>
    refine .of_ledger (hsettled.trans hledger) (List.forall_mem_append.mpr ⟨?_, hmore⟩)
    simp [hlog, LogEntry.IsAloof]
  | breaks r e hqueue hbusy hflight hcalls hledger hlog =>
    have hplace : (r, .inFlight) ∈ s.places := by
      unfold places
      rw [hbusy]
      exact placesOf_flight.mem_iff.mpr List.mem_cons_self
    refine .forgets r (h.accepted_of_place hplace) (.inr (.inr (.inl hbusy)))
      (hsettled.trans hledger) (by simp [hlog])
      (List.forall_mem_append.mpr ⟨?_, fun x hx => .inl (hmore x hx)⟩)
    simp [hlog, LogEntry.IsAloof]
  | aside moves written told hqueue hidle hflight hcalls hledger hmoves htold hwritten hlog =>
    have haloof : ∀ x ∈ written, x.IsAloof := by
      intro x hx
      obtain ⟨_, _, hx, _⟩ := hwritten x hx
      rw [hx]
      trivial
    have hnoted : (es ++ settled.2).filterMap LogEntry.noted? = s.client.ledger.deeds moves := by
      rw [hlog, List.filterMap_append, List.filterMap_append, List.filterMap_append,
        LogEntry.noted?_eq_nil haloof, LogEntry.noted?_map, LogEntry.noted?_told,
        LogEntry.noted?_eq_nil hmore, List.append_nil, List.append_nil]
      rfl
    have htells : (es ++ settled.2).filterMap LogEntry.told? = told := by
      rw [hlog, List.filterMap_append, List.filterMap_append, List.filterMap_append,
        LogEntry.told?_eq_nil haloof, LogEntry.told?_map, LogEntry.told?_noted,
        LogEntry.told?_eq_nil hmore, List.append_nil]
      rfl
    refine .aside moves hmoves (hsettled.trans hledger) hnoted (by rw [htells]; exact htold) ?_
    refine List.forall_mem_append.mpr ⟨fun x hx => ?_, fun x hx => .inl (hmore x hx)⟩
    rw [hlog] at hx
    exact (mem_aside hx).imp_left (haloof x)

theorem Kept.turn (h : Kept s log) (react : κ → Event → Reaction κ) (a : Act κ) :
    Turn s (s.act react a).1 log (s.act react a).2 := by
  cases a with
  | start => exact turn_start
  | stop => exact .of_state (ledger_stop s.client s.tickets) (List.forall_mem_nil _)
  | release => exact .of_ledger (ledger_release s.client) (List.forall_mem_nil _)
  | listen listeners mailboxes nextListener => exact .of_ledger rfl (List.forall_mem_nil _)
  | call now o => exact turn_call now o
  | reach ticket => exact turn_reach ticket
  | offer ticket => exact turn_offer ticket
  | giveUp ticket => exact h.turn_giveUp ticket
  | conclude ticket => exact h.turn_conclude ticket
  | cancel ticket => exact turn_cancel ticket
  | session now signal =>
    change Turn s (s.session react now signal).1 log (s.session react now signal).2
    unfold Scene.session
    split
    · exact .of_ledger rfl (List.forall_mem_nil _)
    · split
      · rename_i t m hmoment
        exact h.turn_proceed hmoment
      · exact .of_ledger rfl (List.forall_mem_nil _)

end Scene
end Mqtt
