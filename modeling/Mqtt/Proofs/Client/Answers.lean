import Mqtt.Proofs.Client.Keeping

/-!
The answers that calls get. However callers, the session and a stop come between each other, an
operation that was issued is answered at most once, with success just when its packet was written,
and once the session is over nobody waits any more.
-/

namespace Mqtt
set_option autoImplicit false

/-- Whether an entry is an answer to a call. -/
def LogEntry.answers (ticket : Nat) : LogEntry → Bool
  | .answered own _ => own = ticket
  | _ => false

/-- Whether an entry is a write on behalf of a call. -/
def LogEntry.writes (ticket : Nat) : LogEntry → Bool
  | .wrote (.request r) _ => r.ticket = ticket
  | _ => false

/-- Whether the log tells the truth about a call whose operation was issued. -/
structure Truthful (log : List LogEntry) (r : Request) : Prop where
  /-- It is about the packet that the call asked for. -/
  packet : ∃ now o, .called r.ticket now o ∈ log ∧ r.kind = o.kind
    ∧ ∃ encoder : Encoder, encoder.encode (o.packet r.packetId) = .ok r.packet
  once : (log.filter (LogEntry.answers r.ticket)).length ≤ 1
  written : .answered r.ticket (.ok ()) ∈ log ↔
    log.filter (LogEntry.writes r.ticket) = [.wrote (.request r) r.packet]
  unwritten : .answered r.ticket (.ok ()) ∉ log → log.filter (LogEntry.writes r.ticket) = []
  failed : ∀ e, .answered r.ticket (.error e) ∈ log → log.filter (LogEntry.writes r.ticket) = []
  returned : ∀ result, .returned r.ticket result ∈ log →
    ∃ answer, .answered r.ticket answer ∈ log ∧ result = answer.map fun _ => r.packetId

/-- What a story says of answers and writes, whatever has become of the operation. -/
theorem Progress.truthful {r : Request} {place : Option Place} {xs : List LogEntry}
    (h : Progress r place xs) : (xs.filter (LogEntry.answers r.ticket)).length ≤ 1
      ∧ (.answered r.ticket (.ok ()) ∈ xs ↔
        xs.filter (LogEntry.writes r.ticket) = [.wrote (.request r) r.packet])
      ∧ (.answered r.ticket (.ok ()) ∉ xs → xs.filter (LogEntry.writes r.ticket) = [])
      ∧ ∀ e, .answered r.ticket (.error e) ∈ xs → xs.filter (LogEntry.writes r.ticket) = [] := by
  cases place with
  | none =>
    rcases h.eq_of_settled with hxs | ⟨e, hxs | hxs | hxs⟩ | hxs <;> rw [hxs] <;>
      simp [LogEntry.answers, LogEntry.writes]
  | some place =>
    cases place with
    | called => rw [h.eq_of_called]; simp [LogEntry.answers, LogEntry.writes]
    | failed e => rw [h.eq_of_failed]; simp [LogEntry.answers, LogEntry.writes]
    | queued => rw [h.eq_of_queued]; simp [LogEntry.answers, LogEntry.writes]
    | inFlight => rw [h.eq_of_inFlight]; simp [LogEntry.answers, LogEntry.writes]

namespace Scene

variable {κ : Type} {react : κ → Event → Reaction κ} {s : Scene κ} {log : List LogEntry}

/-- A write is that of the packet of an operation that was issued, or no such packet. -/
theorem Kept.wrote (h : Kept s log) {purpose : Purpose} {bytes : Bytes}
    (hmem : .wrote purpose bytes ∈ log) :
    (∃ r, purpose = .request r ∧ bytes = r.packet ∧ .accepted r ∈ log)
      ∨ ¬ HoldsOperation bytes := by
  cases hpurpose : purpose.request? with
  | none => exact .inr (h.faithful.own purpose bytes hmem hpurpose)
  | some r =>
    have hrequest : purpose = .request r := by
      cases purpose <;> cases hpurpose
      rfl
    rw [hrequest] at hmem
    obtain ⟨r', place, _, hprogress⟩ := h.progress hmem rfl
    obtain ⟨hsame, hbytes⟩ := hprogress.eq_of_wrote_mem (mem_story.mpr ⟨hmem, rfl⟩)
    have haccepted := hprogress.accepted_mem
    rw [← hsame] at haccepted hbytes
    exact .inl ⟨r, hrequest, hbytes, (mem_story.mp haccepted).1⟩

theorem filter_story (log : List LogEntry) (ticket : Nat) {p : LogEntry → Bool}
    (hp : ∀ x, p x = true → x.ticket? = some ticket) :
    (story log ticket).filter p = log.filter p := by
  unfold story
  rw [List.filter_filter]
  refine List.filter_congr fun x _ => ?_
  cases hx : p x with
  | false => rfl
  | true => simp [hp x hx]

theorem Kept.truthful (h : Kept s log) {r : Request} (hr : .accepted r ∈ log) : Truthful log r := by
  obtain ⟨place, hprogress⟩ := h.progress_of_accepted hr
  obtain ⟨honce, hwritten, hunwritten, hfailed⟩ := hprogress.truthful
  have hanswers : ∀ x, LogEntry.answers r.ticket x = true → x.ticket? = some r.ticket := by
    intro x hx
    cases x with
    | answered own result => simpa [LogEntry.answers, LogEntry.ticket?] using hx
    | _ => cases hx
  have hwrites : ∀ x, LogEntry.writes r.ticket x = true → x.ticket? = some r.ticket := by
    intro x hx
    cases x with
    | wrote purpose bytes =>
      cases purpose with
      | request r' => simpa [LogEntry.writes, LogEntry.ticket?] using hx
      | _ => cases hx
    | _ => cases hx
  have hstory : ∀ result, .answered r.ticket result ∈ story log r.ticket ↔
      .answered r.ticket result ∈ log := by
    intro result
    rw [mem_story]
    exact ⟨fun hmem => hmem.1, fun hmem => ⟨hmem, rfl⟩⟩
  rw [filter_story log r.ticket hanswers] at honce
  rw [filter_story log r.ticket hwrites] at hwritten hunwritten hfailed
  rw [hstory] at hwritten hunwritten
  refine ⟨h.faithful.packet r hr, honce, hwritten, hunwritten, ?_, ?_⟩
  · intro e he
    exact hfailed e ((hstory _).mpr he)
  · intro result hmem
    obtain ⟨r', answer, hr', hticket, hanswer, hresult⟩ := h.faithful.returned _ _ hmem
    rw [h.eq_of_ticket hr hr' hticket] at hresult
    exact ⟨answer, hanswer, hresult⟩

/-! ### After the session -/

theorem flight_of_not_isOpen {c : Client κ} (h : c.isOpen = false) : c.flight = none := by
  unfold Client.flight
  unfold Client.isOpen at h
  cases ht : c.task with
  | none => rfl
  | some t =>
    rw [ht, Option.any_some, Bool.not_eq_false'] at h
    exact Phase.request?_of_isOver h

/-- Without a session no packet enters a queue. -/
theorem offer_of_not_isOpen {c : Client κ} (h : c.isOpen = false) (r : Request) :
    ∃ e, c.offer r = (c, .error e) := by
  rcases c.offer_cases r with hrefused | ⟨t, ht, hover, _⟩
  · exact hrefused
  · unfold Client.isOpen at h
    rw [ht, Option.any_some, hover] at h
    cases h

theorem answered_of_late_offer (hclosed : s.client.isOpen = false) {ticket : Nat} {r : Request}
    {session : Nat} (hcaller : s.caller? ticket = some ⟨r, .bound session⟩)
    (hr : r.ticket = ticket) : ∃ e, .answered ticket (.error e) ∈ (s.offer ticket).2 := by
  obtain ⟨e, he⟩ := offer_of_not_isOpen hclosed r
  unfold Scene.offer
  rw [hcaller]
  dsimp only
  rw [he]
  split
  · rename_i hsession
    split at hsession <;> cases hsession
  · exact ⟨_, by rw [hr]; exact List.mem_singleton_self _⟩

/-- A caller that comes too late gets an error. -/
theorem answered_of_late (react : κ → Event → Reaction κ) (hclosed : s.client.isOpen = false)
    {ticket : Nat} {r : Request} {stage : Stage} (hcaller : s.caller? ticket = some ⟨r, stage⟩)
    (hstage : stage.place = .called) (hr : r.ticket = ticket) :
    ∃ e, .answered ticket (.error e) ∈ (s.play react [.reach ticket, .offer ticket]).2 := by
  simp only [play, act, List.append_nil]
  cases stage with
  | issued =>
    unfold reach
    rw [hcaller]
    dsimp only
    split
    · have hbound : (s.put r (.bound s.sessions)).caller? ticket = some ⟨r, .bound s.sessions⟩ := by
        rw [← hr]
        exact caller?_cons rfl
      exact answered_of_late_offer (s := s.put r (.bound s.sessions)) hclosed hbound hr
    · exact ⟨_, List.mem_append_left _ (by rw [hr]; exact List.mem_singleton_self _)⟩
  | bound session =>
    have hreach : s.reach ticket = (s, []) := by
      unfold reach
      rw [hcaller]
    rw [hreach]
    exact answered_of_late_offer hclosed hcaller hr
  | failed e => cases hstage

theorem Kept.places_of_closed (hdrained : s.client.IsDrained) (hclosed : s.client.isOpen = false)
    {x : Request × Place} (hx : x ∈ s.places) :
    ∃ y ∈ s.callers, (y.request, y.stage.place) = x := by
  unfold places at hx
  rw [hdrained hclosed, flight_of_not_isOpen hclosed] at hx
  exact mem_placesOf_callers.mp hx

/-- Whoever waits once the session is over can return. -/
theorem Kept.isReady (h : Kept s log) (hdrained : s.client.IsDrained)
    (hclosed : s.client.isOpen = false) {x : Call} (hx : x ∈ s.client.calls) :
    s.client.isReady x = true := by
  have hfits := h.attended.fits x hx
  cases hfits with
  | stop _ =>
    unfold Client.isOpen at hclosed
    change s.client.task.all Task.isOver = true
    cases ht : s.client.task with
    | none => rfl
    | some t =>
      rw [ht] at hclosed
      simpa using hclosed
  | waits hplace hposted =>
    obtain ⟨y, _, hy⟩ := places_of_closed hdrained hclosed hplace
    cases hy
    exact absurd hposted y.stage.not_isPosted
  | answered _ _ => rfl

/-- Once the session is over an operation is answered, or its caller is about to learn that it
came too late. -/
theorem Kept.answered (h : Kept s log) (hdrained : s.client.IsDrained)
    (hclosed : s.client.isOpen = false) {r : Request} (hr : .accepted r ∈ log) :
    (∃ result, .answered r.ticket result ∈ log) ∨ .cancelled r.ticket ∈ log
      ∨ ∃ e, .answered r.ticket (.error e) ∈
        (s.play react [.reach r.ticket, .offer r.ticket]).2 := by
  rcases h.attended.settled r hr with hticket | hanswered | hcancelled
  · obtain ⟨x, hx, hxr⟩ := mem_ticketsOf.mp hticket
    -- It is still with its caller, who finds no session, or has failed already.
    obtain ⟨y, hy, hyx⟩ := places_of_closed hdrained hclosed hx
    cases hcaller : s.caller? r.ticket with
    | none =>
      have hne := List.find?_eq_none.mp hcaller y hy
      rw [← hyx] at hxr
      exact absurd (decide_eq_true hxr) hne
    | some y' =>
      obtain ⟨r', stage⟩ := y'
      have hmem := (places_of_caller hcaller).mem_iff.mpr List.mem_cons_self
      have hticket' : r'.ticket = r.ticket := by simpa using List.find?_some hcaller
      cases hstage : stage.place with
      | called => exact .inr (.inr (answered_of_late react hclosed hcaller hstage hticket'))
      | failed e =>
        have hprogress := h.tidy.under _ hmem
        dsimp only at hprogress
        rw [hstage] at hprogress
        have hanswered : .answered r'.ticket (.error e) ∈ story log r'.ticket := by
          rw [hprogress.eq_of_failed]
          simp
        rw [hticket'] at hanswered
        exact .inl ⟨_, (mem_story.mp hanswered).1⟩
      | queued =>
        refine absurd ?_ stage.not_isPosted
        rw [hstage]
        trivial
      | inFlight =>
        refine absurd ?_ stage.not_isPosted
        rw [hstage]
        trivial
  · exact .inl hanswered
  · exact .inr (.inl hcancelled)

/-- However calls, the session, a stop and new sessions come between each other, every operation
that was issued has at most one answer, which is the truth about the write of its packet; requests
are taken in the order in which they were queued; and nobody waits for a session that is over. -/
theorem answers_are_truthful (react : κ → Event → Reaction κ) {config : Config}
    {defaultPort : UInt16} {listener : Option (Listener κ)} {c : Client κ}
    (h : Client.new config defaultPort listener = .ok c) (acts : List (Act κ)) :
    let run := ({ client := c } : Scene κ).play react acts
    (∀ r, .accepted r ∈ run.2 → Truthful run.2 r)
      ∧ (∀ purpose bytes, .wrote purpose bytes ∈ run.2 →
        (∃ r, purpose = .request r ∧ bytes = r.packet ∧ .accepted r ∈ run.2)
          ∨ ¬ HoldsOperation bytes)
      ∧ (sinceStarted run.2).filterMap LogEntry.taken? <+:
        (sinceStarted run.2).filterMap LogEntry.queued?
      ∧ (run.1.client.isOpen = false → (∀ x ∈ run.1.client.calls, run.1.client.isReady x = true)
        ∧ ∀ r, .accepted r ∈ run.2 → (∃ result, .answered r.ticket result ∈ run.2)
          ∨ .cancelled r.ticket ∈ run.2
          ∨ ∃ e, .answered r.ticket (.error e) ∈
            (run.1.play react [.reach r.ticket, .offer r.ticket]).2) := by
  intro run
  obtain ⟨hnew, hnewDrained⟩ := kept_of_new h
  obtain ⟨hkept, hdrained⟩ := hnew.play hnewDrained react acts
  rw [List.nil_append] at hkept
  refine ⟨fun r hr => hkept.truthful hr, fun purpose bytes hmem => hkept.wrote hmem,
    hkept.order.isPrefix, fun hclosed => ⟨fun x hx => hkept.isReady hdrained hclosed hx, ?_⟩⟩
  intro r hr
  exact hkept.answered hdrained hclosed hr

/-- Of a publish and a subscribe the session has written the first when it is stopped. -/
theorem answers_are_truthful_of_stop :
    let config := ({ host := "h" } : Settings).toConfig "c"
    let first : Request := ⟨[0x30, 4, 0, 1, 97, 98], .publish, 0, 0⟩
    let second : Request := ⟨[0x82, 6, 0, 1, 0, 1, 98, 0], .subscribe, 1, 1⟩
    let acts : List (Act Unit) := Act.connecting ++
      [.call 0 (.publish "a" [98] .atMostOnce false), .call 0 (.subscribe "b" .atMostOnce),
        .reach 0, .reach 1, .offer 0, .offer 1, .session 0 .request, .stop,
        .session 0 (.written (.ok ())), .session 0 .run, .session 0 .stop, .session 0 .run,
        .session 0 (.written (.ok ())), .session 0 .run]
    ∃ c, Client.new config 1883 none = .ok c ∧
      let run := ({ client := c } : Scene Unit).play (fun _ _ => {}) acts
      run.1.client.isOpen = false ∧ .answered 0 (.ok ()) ∈ run.2
        ∧ .answered 1 (.error .operationChannelReceiveError) ∈ run.2
        ∧ Truthful run.2 first ∧ Truthful run.2 second := by
  intro config first second acts
  have hnew : Client.new (κ := Unit) config 1883 none = .ok _ := rfl
  refine ⟨_, hnew, ?_⟩
  intro run
  have hclosed : run.1.client.isOpen = false := by
    subst run acts config
    decide +kernel
  have hend : run.2.drop 5 = [.accepted first, .noted (.issued .publish .atMostOnce 0),
      .called 1 0 (.subscribe "b" .atMostOnce), .accepted second,
      .noted (.issued .subscribe .atMostOnce 1), .queued first, .queued second, .taken first,
      .wrote (.request first) first.packet, .answered 0 (.ok ()), .wrote .farewell [0xE0, 0],
      .answered 1 (.error .operationChannelReceiveError)] := by
    subst run acts config first second
    decide +kernel
  have hmem : ∀ x ∈ run.2.drop 5, x ∈ run.2 := fun x hx => List.mem_of_mem_drop hx
  rw [hend] at hmem
  have htruthful := (answers_are_truthful (fun _ _ => {}) hnew acts).1
  exact ⟨hclosed, hmem _ (by simp), hmem _ (by simp), htruthful first (hmem _ (by simp)),
    htruthful second (hmem _ (by simp))⟩

end Scene
end Mqtt
