import Mqtt.Proofs.Client.Errands
import Mqtt.Proofs.Client.Steps

/-!
What every act keeps: each operation on its way has its story in the log, whoever waits for an
answer has an operation on its way, the queue is taken in order, and what is written suits its
purpose.
-/

namespace Mqtt
set_option autoImplicit false

/-! ### Where operations are -/

def placesOf (callers : List Caller) (queue : List Request) (flight : Option Request) :
    List (Request × Place) :=
  callers.map (fun x => (x.request, x.stage.place))
    ++ (queue.map (fun r => (r, .queued)) ++ flight.toList.map fun r => (r, .inFlight))

section
variable {callers rest : List Caller} {queue : List Request} {flight : Option Request} {r : Request}

theorem placesOf_caller {x : Caller} (h : callers.Perm (x :: rest)) :
    (placesOf callers queue flight).Perm
      ((x.request, x.stage.place) :: placesOf rest queue flight) :=
  (h.map _).append_right _

theorem placesOf_queue : (placesOf callers (r :: queue) flight).Perm
    ((r, .queued) :: placesOf callers queue flight) := List.perm_middle

theorem placesOf_enqueue : (placesOf callers (queue ++ [r]) flight).Perm
    ((r, .queued) :: placesOf callers queue flight) := by
  unfold placesOf
  rw [List.map_append, List.append_assoc]
  refine List.Perm.trans (List.Perm.append_left _ ?_) List.perm_middle
  exact List.perm_middle

theorem placesOf_flight : (placesOf callers queue (some r)).Perm
    ((r, .inFlight) :: placesOf callers queue none) := by
  unfold placesOf
  rw [← List.append_assoc, ← List.append_assoc]
  exact List.perm_append_singleton _ _ |>.trans (by simp)

/-- Without a session all that is left are callers. -/
theorem mem_placesOf_callers {x : Request × Place} :
    x ∈ placesOf callers [] none ↔ ∃ y ∈ callers, (y.request, y.stage.place) = x := by
  simp [placesOf]

end

theorem Stage.not_isPosted (stage : Stage) : ¬ stage.place.IsPosted := by
  cases stage <;> exact id

/-! ### The order of the queue -/

def LogEntry.taken? : LogEntry → Option Request
  | .taken r => some r
  | _ => none

def LogEntry.queued? : LogEntry → Option Request
  | .queued r => some r
  | _ => none

def LogEntry.isStart : LogEntry → Bool
  | .started => true
  | _ => false

/-- What was noted since the last session began. -/
def sinceStarted (log : List LogEntry) : List LogEntry := log.rtakeWhile fun x => !x.isStart

theorem sinceStarted_append {log es : List LogEntry} (h : ∀ x ∈ es, x.isStart = false) :
    sinceStarted (log ++ es) = sinceStarted log ++ es :=
  rtakeWhile_append fun x hx => by simp [h x hx]

theorem sinceStarted_started (log : List LogEntry) : sinceStarted (log ++ [.started]) = [] :=
  List.rtakeWhile_concat_neg _ _ _ (by simp [LogEntry.isStart])

/-- Entries that say nothing by themselves. -/
def LogEntry.IsPlain : LogEntry → Prop
  | .accepted _ | .wrote .. | .returned .. => False
  | _ => True

namespace Scene

variable {κ : Type} {react : κ → Event → Reaction κ} {s s' : Scene κ} {log es : List LogEntry}

/-- The operations that are on their way. -/
def places (s : Scene κ) : List (Request × Place) :=
  placesOf s.callers s.client.queue s.client.flight

theorem mem_places {r : Request} {place : Place} : (r, place) ∈ s.places ↔
    (∃ x ∈ s.callers, x.request = r ∧ x.stage.place = place)
      ∨ (r ∈ s.client.queue ∧ place = .queued) ∨ s.client.flight = some r ∧ place = .inFlight := by
  simp [places, placesOf, eq_comm]

/-- Whether the session takes requests in the order in which they were queued, up to a number that
it has still to take. -/
structure InOrder (c : Client κ) (log : List LogEntry) : Prop where
  isPrefix : (sinceStarted log).filterMap LogEntry.taken? <+:
    (sinceStarted log).filterMap LogEntry.queued?
  exact : c.isOpen = true → (sinceStarted log).filterMap LogEntry.taken? ++ c.queue =
    (sinceStarted log).filterMap LogEntry.queued?

/-- What every entry of a log says by itself. -/
structure Faithful (log : List LogEntry) : Prop where
  packet : ∀ r, .accepted r ∈ log → ∃ now o, .called r.ticket now o ∈ log ∧ r.kind = o.kind
    ∧ ∃ encoder : Encoder, encoder.encode (o.packet r.packetId) = .ok r.packet
  own : ∀ purpose bytes, .wrote purpose bytes ∈ log → purpose.request? = none →
    ¬ HoldsOperation bytes
  returned : ∀ ticket result, .returned ticket result ∈ log → ∃ r answer, .accepted r ∈ log
    ∧ r.ticket = ticket ∧ .answered ticket answer ∈ log ∧ result = answer.map fun _ => r.packetId

/-- What holds of every scene and its log. -/
structure Kept (s : Scene κ) (log : List LogEntry) : Prop where
  tidy : Tidy s.places s.tickets log
  attended : Attended s.places s.client.calls s.tickets log
  order : InOrder s.client log
  alone : s.client.IsAlone
  writes : s.WritesSuit
  faithful : Faithful log

theorem WritesSuit.of_rests (h : s.WritesSuit) (hrests : s.client.Rests s'.client)
    (houtgoing : s'.outgoing = s.outgoing) : s'.WritesSuit := by
  intro t' ht' purpose hpurpose
  obtain ⟨t, ht, hphase⟩ := hrests.phase t' ht'
  rw [houtgoing]
  exact h t ht purpose (hphase.symm.trans hpurpose)

theorem InOrder.quiet {c c' : Client κ} (h : InOrder c log)
    (hes : ∀ x ∈ es, x.isStart = false ∧ x.taken? = none ∧ x.queued? = none)
    (hqueue : c'.queue = c.queue) (hopen : c'.isOpen = true → c.isOpen = true) :
    InOrder c' (log ++ es) := by
  have htaken : es.filterMap LogEntry.taken? = [] :=
    List.filterMap_eq_nil_iff.mpr fun x hx => (hes x hx).2.1
  have hqueued : es.filterMap LogEntry.queued? = [] :=
    List.filterMap_eq_nil_iff.mpr fun x hx => (hes x hx).2.2
  have hsince : sinceStarted (log ++ es) = sinceStarted log ++ es :=
    sinceStarted_append fun x hx => (hes x hx).1
  constructor
  · rw [hsince, List.filterMap_append, List.filterMap_append, htaken, hqueued, List.append_nil,
      List.append_nil]
    exact h.isPrefix
  · rw [hsince, List.filterMap_append, List.filterMap_append, htaken, hqueued, List.append_nil,
      List.append_nil, hqueue]
    exact fun hopen' => h.exact (hopen hopen')

theorem Faithful.append (h : Faithful log)
    (hpacket : ∀ r, .accepted r ∈ es → ∃ now o, .called r.ticket now o ∈ log ++ es
      ∧ r.kind = o.kind ∧ ∃ encoder : Encoder, encoder.encode (o.packet r.packetId) = .ok r.packet)
    (hown : ∀ purpose bytes, .wrote purpose bytes ∈ es → purpose.request? = none →
      ¬ HoldsOperation bytes)
    (hreturned : ∀ ticket result, .returned ticket result ∈ es → ∃ r answer, .accepted r ∈ log
      ∧ r.ticket = ticket ∧ .answered ticket answer ∈ log
      ∧ result = answer.map fun _ => r.packetId) : Faithful (log ++ es) where
  packet r hr := by
    rcases List.mem_append.mp hr with hr | hr
    · obtain ⟨now, o, hcalled, hrest⟩ := h.packet r hr
      exact ⟨now, o, List.mem_append_left es hcalled, hrest⟩
    · exact hpacket r hr
  own purpose bytes hmem := by
    rcases List.mem_append.mp hmem with hmem | hmem
    · exact h.own purpose bytes hmem
    · exact hown purpose bytes hmem
  returned ticket result hmem := by
    have hbefore : ∃ r answer, .accepted r ∈ log ∧ r.ticket = ticket ∧ .answered ticket answer ∈ log
        ∧ result = answer.map fun _ => r.packetId := by
      rcases List.mem_append.mp hmem with hmem | hmem
      · exact h.returned ticket result hmem
      · exact hreturned ticket result hmem
    obtain ⟨r, answer, haccepted, hr, hanswered, hresult⟩ := hbefore
    exact ⟨r, answer, List.mem_append_left es haccepted, hr, List.mem_append_left es hanswered,
      hresult⟩

theorem Faithful.plain (h : Faithful log) (hes : ∀ x ∈ es, x.IsPlain) : Faithful (log ++ es) :=
  h.append (fun _ hr => (hes _ hr).elim) (fun _ _ hmem => (hes _ hmem).elim)
    fun _ _ hmem => (hes _ hmem).elim

theorem mem_issuing {ticket now : Nat} {o : Operation} {r : Request} {deeds : List Ledger.Deed}
    {x : LogEntry} (h : x ∈ LogEntry.called ticket now o :: .accepted r :: deeds.map .noted) :
    x = .called ticket now o ∨ x = .accepted r ∨ ∃ d, x = .noted d := by
  rcases List.mem_cons.mp h with h | h
  · exact .inl h
  · rcases List.mem_cons.mp h with h | h
    · exact .inr (.inl h)
    · obtain ⟨d, _, hd⟩ := List.mem_map.mp h
      exact .inr (.inr ⟨d, hd.symm⟩)

/-! ### Acts that bring no operation on its way -/

theorem Kept.rest (h : Kept s log) (hcallers : s'.callers = s.callers)
    (houtgoing : s'.outgoing = s.outgoing) (hle : s.tickets ≤ s'.tickets)
    (hrests : s.client.Rests s'.client) (hsub : s'.client.calls.Sublist s.client.calls)
    (hkept : ∀ r : Request, r.call ∈ s.client.calls →
      r.call ∈ s'.client.calls ∨ .cancelled r.ticket ∈ es)
    (hes : ∀ x ∈ es, x.ticket? = none ∧ x.isStart = false) (hfaithful : Faithful (log ++ es)) :
    Kept s' (log ++ es) := by
  have hplaces : s'.places = s.places := by
    unfold places
    rw [hcallers, hrests.queue, hrests.flight]
  have hquiet : ∀ x ∈ es, x.isStart = false ∧ x.taken? = none ∧ x.queued? = none := by
    intro x hx
    obtain ⟨hticket, hstart⟩ := hes x hx
    refine ⟨hstart, ?_, ?_⟩
    · cases x with
      | taken _ => cases hticket
      | _ => rfl
    · cases x with
      | queued _ => cases hticket
      | _ => rfl
  refine ⟨?_, ?_, h.order.quiet hquiet hrests.queue hrests.isOpen.symm.trans, hrests.alone h.alone,
    h.writes.of_rests hrests houtgoing, hfaithful⟩
  · rw [hplaces]
    exact h.tidy.quiet (fun x hx => (hes x hx).1) hle
  · rw [hplaces]
    exact h.attended.quiet (fun x hx => (hes x hx).1) hle hsub hkept

/-- Nothing is noted, and every call goes on. -/
theorem Kept.silent (h : Kept s log) (hcallers : s'.callers = s.callers)
    (houtgoing : s'.outgoing = s.outgoing) (hle : s.tickets ≤ s'.tickets)
    (hrests : s.client.Rests s'.client) (hcalls : s'.client.calls = s.client.calls) :
    Kept s' log := by
  have hkept : Kept s' (log ++ []) := h.rest hcallers houtgoing hle hrests (by rw [hcalls])
    (fun r hr => .inl (by rw [hcalls]; exact hr)) (List.forall_mem_nil _)
    (by rw [List.append_nil]; exact h.faithful)
  rw [List.append_nil] at hkept
  exact hkept

theorem Kept.start (h : Kept s log) : Kept s.start.1 (log ++ s.start.2) := by
  unfold Scene.start
  rcases s.client.start_cases with ⟨e, hstart⟩ | ⟨hhere, client, hstart, htask, hcalls, hnot⟩
  · rw [hstart]
    dsimp only
    rw [List.append_nil]
    exact h.silent rfl rfl (Nat.le_refl _) (.of_task rfl rfl) rfl
  · rw [hstart]
    have hnone := h.alone hhere
    have hplaces : { s with client, sessions := s.sessions + 1 }.places = s.places := by
      unfold places Client.queue Client.flight
      rw [htask, hnone]
      rfl
    refine ⟨?_, ?_, ?_, ?_, ?_, ?_⟩
    · rw [hplaces]
      exact h.tidy.quiet (by simp [LogEntry.ticket?]) (Nat.le_refl _)
    · rw [hplaces, hcalls]
      exact h.attended.quiet (by simp [LogEntry.ticket?]) (Nat.le_refl _) (List.Sublist.refl _)
        fun r hr => .inl hr
    · have hsince := sinceStarted_started log
      dsimp only
      constructor
      · rw [hsince]
        exact List.prefix_refl _
      · intro _
        rw [hsince]
        unfold Client.queue
        rw [htask]
        rfl
    · intro hhere'
      exact absurd hhere' (Bool.eq_false_iff.mp hnot)
    · apply writesSuit_of_not_writing
      intro t ht purpose hpurpose
      rw [htask] at ht
      cases ht
      cases hpurpose
    · exact h.faithful.plain (by simp [LogEntry.IsPlain])

theorem Kept.stop (h : Kept s log) (hdrained : s.client.IsDrained) :
    Kept (s.act react .stop).1 (log ++ (s.act react .stop).2) := by
  obtain ⟨hrests, hcalls⟩ := Client.rests_stop hdrained s.tickets
  change Kept { s with client := (s.client.stop s.tickets).1, tickets := s.tickets + 1 } (log ++ [])
  rw [List.append_nil]
  rcases hcalls with hcalls | hcalls
  · exact h.silent rfl rfl (Nat.le_succ _) hrests hcalls
  · -- The call is looked at on its own: all else is as if it had returned at once.
    have hplaces : placesOf s.callers (s.client.stop s.tickets).1.queue
        (s.client.stop s.tickets).1.flight = s.places := by
      unfold places
      rw [hrests.queue, hrests.flight]
    have htidy : Tidy s.places (s.tickets + 1) (log ++ []) :=
      h.tidy.quiet (List.forall_mem_nil _) (Nat.le_succ _)
    have horder : InOrder (s.client.stop s.tickets).1 (log ++ []) :=
      h.order.quiet (List.forall_mem_nil _) hrests.queue hrests.isOpen.symm.trans
    rw [List.append_nil] at htidy horder
    refine ⟨?_, ?_, horder, hrests.alone h.alone, h.writes.of_rests hrests rfl, h.faithful⟩
    · unfold places
      rw [hplaces]
      exact htidy
    · unfold places
      rw [hplaces, hcalls]
      exact h.attended.stop (h.tidy.fresh _ (Nat.le_refl _))

/-- A call that waits for an answer stays when another one goes. -/
theorem Kept.call_mem_filter (h : Kept s log) {x : Call} (hx : x ∈ s.client.calls) {r : Request}
    (hr : r.call ∈ s.client.calls) (hne : r.call ≠ x) :
    r.call ∈ s.client.calls.filter fun y => y.ticket ≠ x.ticket := by
  rw [List.mem_filter]
  refine ⟨hr, ?_⟩
  have hticket : r.call.ticket ≠ x.ticket :=
    fun heq => hne (List.inj_on_of_nodup_map h.attended.nodup hr hx heq)
  simpa using hticket

theorem mem_returning {ticket : Nat} {r : Return} {x : LogEntry} (h : x ∈ returning ticket r) :
    x = .forgot ticket ∨ ∃ result, x = .returned ticket result ∧ r = .issued result := by
  unfold returning at h
  split at h
  · cases h
  · exact .inr ⟨_, List.mem_singleton.mp h, rfl⟩
  · rcases List.mem_cons.mp h with h | h
    · exact .inl h
    · exact .inr ⟨_, List.mem_singleton.mp h, rfl⟩

/-- A call returns with the answer it got, and with the id of its operation. -/
theorem Kept.returned_of_conclude (h : Kept s log) {x : Call} (hx : x ∈ s.client.calls)
    (hready : s.client.isReady x = true) {result : Except Error UInt16}
    (hreturn : (s.client.conclude x).2 = .issued result) : ∃ r answer, .accepted r ∈ log
      ∧ r.ticket = x.ticket ∧ .answered x.ticket answer ∈ log
      ∧ result = answer.map fun _ => r.packetId := by
  have hfits := h.attended.fits x hx
  cases hfits with
  | stop _ => cases hreturn
  | waits _ _ => cases hready
  | answered haccepted hanswered =>
    rename_i r answer
    refine ⟨r, answer, haccepted, rfl, hanswered, ?_⟩
    cases answer <;> cases hreturn <;> rfl

theorem Kept.conclude (h : Kept s log) (hdrained : s.client.IsDrained) (ticket : Nat) :
    Kept (s.conclude ticket).1 (log ++ (s.conclude ticket).2) := by
  unfold Scene.conclude
  cases hfind : s.client.calls.find? fun x => x.ticket = ticket with
  | none =>
    dsimp only
    rw [List.append_nil]
    exact h
  | some x =>
    have hx := List.mem_of_find?_eq_some hfind
    dsimp only
    split
    · rename_i hready
      obtain ⟨hrests, hcalls⟩ := Client.rests_conclude hdrained hready
      refine h.rest rfl rfl (Nat.le_refl _) hrests ?_ ?_ ?_ ?_
      · rw [hcalls]
        exact List.filter_sublist
      · intro r hr
        rw [hcalls]
        refine .inl (h.call_mem_filter hx hr fun heq => ?_)
        rw [← heq] at hready
        cases hready
      · intro y hy
        rcases mem_returning hy with hy | ⟨result, hy, _⟩ <;> rw [hy] <;> exact ⟨rfl, rfl⟩
      · refine h.faithful.append ?_ ?_ ?_
        · intro r hr
          rcases mem_returning hr with hr | ⟨_, hr, _⟩ <;> cases hr
        · intro purpose bytes hmem
          rcases mem_returning hmem with hmem | ⟨_, hmem, _⟩ <;> cases hmem
        · intro ticket' result hmem
          rcases mem_returning hmem with hmem | ⟨result', hmem, hreturn⟩
          · cases hmem
          · cases hmem
            exact h.returned_of_conclude hx hready hreturn
    · rw [List.append_nil]
      exact h

theorem Kept.cancel (h : Kept s log) (ticket : Nat) :
    Kept (s.cancel ticket).1 (log ++ (s.cancel ticket).2) := by
  unfold Scene.cancel
  split
  · refine h.rest rfl rfl (Nat.le_refl _) (.of_task rfl rfl) List.filter_sublist ?_ ?_ ?_
    · intro r hr
      by_cases heq : r.ticket = ticket
      · rw [heq]
        exact .inr (List.mem_singleton_self _)
      · exact .inl (List.mem_filter.mpr ⟨hr, decide_eq_true heq⟩)
    · simp [LogEntry.ticket?, LogEntry.isStart]
    · exact h.faithful.plain (by simp [LogEntry.IsPlain])
  · rw [List.append_nil]
    exact h

/-! ### Acts that bring an operation on its way -/

theorem Kept.call (h : Kept s log) (now : Nat) (o : Operation) :
    Kept (s.call now o).1 (log ++ (s.call now o).2) := by
  have hrefused : ∀ (client : Client κ) (e : Error), client.task = s.client.task →
      client.transportHere = s.client.transportHere → client.calls = s.client.calls →
      Kept { s with client, tickets := s.tickets + 1 }
        (log ++ [.called s.tickets now o, .refused s.tickets e]) := by
    intro client e htask hhere hcalls
    refine h.rest rfl rfl (Nat.le_succ _) (.of_task htask hhere) (by rw [hcalls]) ?_ ?_ ?_
    · intro r hr
      rw [hcalls]
      exact .inl hr
    · simp [LogEntry.ticket?, LogEntry.isStart]
    · exact h.faithful.plain (by simp [LogEntry.IsPlain])
  unfold Scene.call
  dsimp only
  cases o.check with
  | error e => exact hrefused s.client e rfl rfl rfl
  | ok u =>
    dsimp only
    cases hbegin : s.client.ledger.begin now o with
    | mk ledger result =>
      cases result with
      | error e => exact hrefused { s.client with ledger } e rfl rfl rfl
      | ok out =>
        have hout : (s.client.ledger.begin now o).2 = .ok out := by rw [hbegin]
        dsimp only
        -- Of what is noted only the operation that was issued has a ticket.
        generalize s.client.ledger.deedsOf (.begin now o) = deeds
        have hmem := fun x => @mem_issuing s.tickets now o
          ⟨out.bytes, o.kind, out.packetId, s.tickets⟩ deeds x
        have hrests : s.client.Rests { s.client with ledger } := .of_task rfl rfl
        refine ⟨?_, ?_, ?_, hrests.alone h.alone, h.writes.of_rests hrests rfl, ?_⟩
        · refine h.tidy.accept rfl ?_ ?_
          · intro x hx
            rcases hmem x hx with hx | hx | ⟨d, hx⟩
            · exact .inl (by rw [hx]; rfl)
            · exact .inr hx
            · exact .inl (by rw [hx]; rfl)
          · simp [story, LogEntry.ticket?]
        · refine h.attended.accept rfl ?_
          intro x hx
          rcases hmem x hx with hx | hx | ⟨d, hx⟩
          · exact .inl (by rw [hx]; rfl)
          · exact .inr hx
          · exact .inl (by rw [hx]; rfl)
        · refine h.order.quiet ?_ rfl id
          intro x hx
          rcases hmem x hx with hx | hx | ⟨d, hx⟩ <;> rw [hx] <;> exact ⟨rfl, rfl, rfl⟩
        · refine h.faithful.append ?_ ?_ ?_
          · intro r hr
            rcases hmem _ hr with hr | hr | ⟨d, hr⟩
            · cases hr
            · cases hr
              refine ⟨now, o, List.mem_append_right log List.mem_cons_self, rfl,
                s.client.ledger.encoder, (Ledger.encode_of_begin hout).2⟩
            · cases hr
          · intro purpose bytes hx
            rcases hmem _ hx with hx | hx | ⟨d, hx⟩ <;> cases hx
          · intro ticket result hx
            rcases hmem _ hx with hx | hx | ⟨d, hx⟩ <;> cases hx

/-! ### Callers -/

theorem perm_others {ticket : Nat} {x : Caller} (h : s.caller? ticket = some x) :
    s.callers.Perm (x :: s.others x.request.ticket) := by
  unfold caller? at h
  have hx : x.request.ticket = ticket := by simpa using List.find?_some h
  obtain ⟨_, front, back, hcallers, hfront⟩ := List.find?_eq_some_iff_append.mp h
  unfold others
  rw [hcallers, hx, List.eraseP_append_right _ (fun y hy => by simpa using hfront y hy),
    List.eraseP_cons_of_pos (by simpa using hx)]
  exact List.perm_middle

theorem places_of_caller {ticket : Nat} {x : Caller} (h : s.caller? ticket = some x) :
    s.places.Perm ((x.request, x.stage.place)
      :: placesOf (s.others x.request.ticket) s.client.queue s.client.flight) :=
  placesOf_caller (perm_others h)

theorem Kept.fail (h : Kept s log) {ticket : Nat} {r : Request} {stage : Stage}
    (hcaller : s.caller? ticket = some ⟨r, stage⟩) (hstage : stage.place = .called) (e : Error) :
    Kept (s.put r (.failed e)) (log ++ [.answered r.ticket (.error e)]) := by
  have hplaces := places_of_caller hcaller
  have htidy := h.tidy.perm hplaces
  have hattended := h.attended.perm hplaces
  dsimp only at htidy hattended
  rw [hstage] at htidy hattended
  have hes : ∀ x ∈ [LogEntry.answered r.ticket (.error e)],
      x.ticket? = none ∨ x.ticket? = some r.ticket := by
    simp [LogEntry.ticket?]
  refine ⟨?_, ?_, ?_, h.alone, h.writes, ?_⟩
  · exact htidy.go (some (.failed e)) hes
      fun xs hxs => by simpa [story, LogEntry.ticket?] using hxs.fails e
  · exact hattended.go (.failed e) Iff.rfl (by simp)
      (htidy.story_eq_nil List.mem_cons_self hes)
  · exact h.order.quiet (by simp [LogEntry.isStart, LogEntry.taken?, LogEntry.queued?]) rfl id
  · exact h.faithful.plain (by simp [LogEntry.IsPlain])

theorem Kept.reach (h : Kept s log) (ticket : Nat) :
    Kept (s.reach ticket).1 (log ++ (s.reach ticket).2) := by
  unfold Scene.reach
  split
  · rename_i r hcaller
    split
    · -- The operation stays where it is.
      have hplaces := (places_of_caller hcaller).symm
      rw [List.append_nil]
      have hsame : (s.put r (.bound s.sessions)).places.Perm s.places := hplaces
      exact ⟨h.tidy.perm hsame.symm, h.attended.perm hsame.symm, h.order, h.alone, h.writes,
        h.faithful⟩
    · exact h.fail hcaller rfl .notConnected
  · rw [List.append_nil]
    exact h

theorem InOrder.enter {c c' : Client κ} {r : Request} (h : InOrder c log)
    (hopen : c.isOpen = true) (hqueue : c'.queue = c.queue ++ [r]) :
    InOrder c' (log ++ [.queued r]) := by
  have hsince : sinceStarted (log ++ [.queued r]) = sinceStarted log ++ [.queued r] :=
    sinceStarted_append (by simp [LogEntry.isStart])
  have htaken : (sinceStarted log ++ [LogEntry.queued r]).filterMap LogEntry.taken? =
      (sinceStarted log).filterMap LogEntry.taken? := by
    simp [LogEntry.taken?]
  have hqueued : (sinceStarted log ++ [LogEntry.queued r]).filterMap LogEntry.queued? =
      (sinceStarted log).filterMap LogEntry.queued? ++ [r] := by
    simp [LogEntry.queued?]
  constructor
  · rw [hsince, htaken, hqueued]
    exact h.isPrefix.trans (List.prefix_append _ _)
  · intro _
    rw [hsince, htaken, hqueued, hqueue, ← h.exact hopen, List.append_assoc]

theorem Kept.enter (h : Kept s log) {ticket : Nat} {r : Request} {session : Nat}
    (hcaller : s.caller? ticket = some ⟨r, .bound session⟩) {t : Task}
    (ht : s.client.task = some t) (hover : t.isOver = false) :
    Kept { s with
      callers := s.others r.ticket
      client := { s.client with
        task := some { t with queue := t.queue ++ [r] }
        calls := s.client.calls ++ [r.call] } } (log ++ [.queued r]) := by
  have hplaces := places_of_caller hcaller
  have htidy := h.tidy.perm hplaces
  have hattended := h.attended.perm hplaces
  have hqueue : s.client.queue = t.queue := by
    unfold Client.queue
    rw [ht]
    rfl
  have hopen : s.client.isOpen = true := by
    unfold Client.isOpen
    rw [ht]
    simpa using hover
  have hes : ∀ x ∈ [LogEntry.queued r], x.ticket? = none ∨ x.ticket? = some r.ticket := by
    simp [LogEntry.ticket?]
  have hentered : (placesOf (s.others r.ticket) (t.queue ++ [r]) t.session.phase.request?).Perm
      ((r, .queued) :: placesOf (s.others r.ticket) s.client.queue s.client.flight) := by
    have hflight : s.client.flight = t.session.phase.request? := by
      unfold Client.flight
      rw [ht]
      rfl
    rw [hqueue, hflight]
    exact placesOf_enqueue
  refine ⟨?_, ?_, h.order.enter hopen (by rw [hqueue]; rfl), ?_, ?_, ?_⟩
  · have hgo := htidy.go (some .queued) hes
      fun xs hxs => by simpa [story, LogEntry.ticket?] using hxs.queued
    exact hgo.perm hentered.symm
  · have henter := hattended.enter (Stage.not_isPosted (.bound session))
      (fun x hx => htidy.ticket_ne_of_called (hattended.fits x hx))
      (htidy.lt_of_mem List.mem_cons_self) (by simp) (htidy.story_eq_nil List.mem_cons_self hes)
    exact henter.perm hentered.symm
  · intro hhere
    have hnone := h.alone hhere
    rw [ht] at hnone
    cases hnone
  · intro t' ht' purpose hpurpose
    cases ht'
    exact h.writes t ht purpose hpurpose
  · exact h.faithful.plain (by simp [LogEntry.IsPlain])

theorem Kept.offer (h : Kept s log) (ticket : Nat) :
    Kept (s.offer ticket).1 (log ++ (s.offer ticket).2) := by
  unfold Scene.offer
  split
  · rename_i r session hcaller
    split
    · rename_i client hoffer
      split at hoffer
      · rcases s.client.offer_cases r with ⟨e, he⟩ | ⟨t, ht, hover, hok⟩
        · cases he.symm.trans hoffer
        · cases hok.symm.trans hoffer
          exact h.enter hcaller ht hover
      · cases hoffer
    · rename_i client e hoffer
      have hclient : client = s.client := by
        split at hoffer
        · rcases s.client.offer_cases r with ⟨e, he⟩ | ⟨t, _, _, hok⟩
          · cases he.symm.trans hoffer
            rfl
          · cases hok.symm.trans hoffer
        · cases hoffer
          rfl
      rw [hclient]
      exact h.fail hcaller rfl e
  · rw [List.append_nil]
    exact h

theorem Kept.giveUp (h : Kept s log) (ticket : Nat) :
    Kept (s.giveUp ticket).1 (log ++ (s.giveUp ticket).2) := by
  unfold Scene.giveUp
  split
  · rename_i r e hcaller
    have hplaces := places_of_caller hcaller
    have htidy := h.tidy.perm hplaces
    have hattended := h.attended.perm hplaces
    have hes : ∀ x ∈ [LogEntry.forgot r.ticket, .returned r.ticket (.error e)],
        x.ticket? = none := by
      simp [LogEntry.ticket?]
    have hstory := (htidy.under (r, .failed e) List.mem_cons_self).eq_of_failed
    have hmem : ∀ x ∈ [.accepted r, .answered r.ticket (.error e)], x ∈ log := by
      rw [← hstory]
      exact fun x hx => (mem_story.mp hx).1
    have haccepted : .accepted r ∈ log := hmem _ List.mem_cons_self
    have hanswered : .answered r.ticket (.error e) ∈ log :=
      hmem _ (List.mem_cons_of_mem _ List.mem_cons_self)
    have hrests : s.client.Rests (s.client.operationFailed r.kind r.packetId) := .of_task rfl rfl
    refine ⟨?_, ?_, ?_, hrests.alone h.alone, h.writes.of_rests hrests rfl, ?_⟩
    · exact htidy.go none (fun x hx => .inl (hes x hx))
        fun xs hxs => by simpa [story, LogEntry.ticket?] using hxs.givesUp
    · exact hattended.leave (Stage.not_isPosted (.failed e)) hes ⟨_, hanswered⟩
    · exact h.order.quiet (by simp [LogEntry.isStart, LogEntry.taken?, LogEntry.queued?]) rfl id
    · refine h.faithful.append (by simp) (by simp) ?_
      intro ticket' result hmem
      have hsame : ticket' = r.ticket ∧ result = .error e := by simpa using hmem
      rw [hsame.1, hsame.2]
      exact ⟨r, .error e, haccepted, rfl, hanswered, rfl⟩
  · rw [List.append_nil]
    exact h

/-! ### Steps of the session -/

theorem InOrder.take {c c' : Client κ} {r : Request} (h : InOrder c log) (hopen : c.isOpen = true)
    (hqueue : c.queue = r :: c'.queue) : InOrder c' (log ++ [.taken r]) := by
  have hsince : sinceStarted (log ++ [.taken r]) = sinceStarted log ++ [.taken r] :=
    sinceStarted_append (by simp [LogEntry.isStart])
  have htaken : (sinceStarted log ++ [LogEntry.taken r]).filterMap LogEntry.taken? =
      (sinceStarted log).filterMap LogEntry.taken? ++ [r] := by
    simp [LogEntry.taken?]
  have hqueued : (sinceStarted log ++ [LogEntry.taken r]).filterMap LogEntry.queued? =
      (sinceStarted log).filterMap LogEntry.queued? := by
    simp [LogEntry.queued?]
  have hexact := h.exact hopen
  rw [hqueue, ← List.singleton_append, ← List.append_assoc] at hexact
  constructor
  · rw [hsince, htaken, hqueued, ← hexact]
    exact List.prefix_append _ _
  · intro _
    rw [hsince, htaken, hqueued]
    exact hexact

/-- An operation that the session was busy with, or had before it, is answered. -/
theorem Kept.answer (h : Kept s log) {r : Request} {place : Place}
    (hplaces : s.places.Perm ((r, place) :: s'.places)) (hplace : place.IsPosted)
    (htickets : s'.tickets = s.tickets) (result : Except Error Unit)
    (hcalls : s'.client.calls = (s.client.answer r.ticket result).calls)
    (hes : ∀ x ∈ es, x.ticket? = none ∨ x.ticket? = some r.ticket) (hnew : ∀ r', .accepted r' ∉ es)
    (hgo : ∀ xs, Progress r (some place) xs → Progress r none (xs ++ story es r.ticket))
    (hanswered : .answered r.ticket result ∈ es) (horder : InOrder s'.client (log ++ es))
    (halone : s'.client.IsAlone) (hwrites : s'.WritesSuit) (hfaithful : Faithful (log ++ es)) :
    Kept s' (log ++ es) := by
  have htidy := h.tidy.perm hplaces
  have hattended := h.attended.perm hplaces
  rw [← htickets] at htidy hattended
  refine ⟨htidy.go none hes hgo, ?_, horder, halone, hwrites, hfaithful⟩
  rw [hcalls, Call.calls_answer]
  -- The calls that are answered are those with the ticket, and no other place has it.
  refine Attended.answer [(r, place)] hattended (fun t => decide (t = r.ticket)) result ?_ ?_
    ?_ hnew (htidy.story_eq_nil List.mem_cons_self hes)
  · intro x hx
    rw [List.mem_singleton.mp hx]
    have haccepted := (htidy.under (r, place) List.mem_cons_self).accepted_mem
    exact ⟨hplace, decide_eq_true rfl, (mem_story.mp haccepted).1⟩
  · intro x hx _
    refine decide_eq_false fun heq => ?_
    exact (List.nodup_cons.mp htidy.nodup).1 (mem_ticketsOf.mpr ⟨x, hx, heq⟩)
  · intro x hx _
    rw [List.mem_singleton.mp hx]
    exact hanswered

/-- A step that is about no request. -/
theorem Kept.aside (h : Kept s log) (hplaces : s'.places = s.places)
    (htickets : s'.tickets = s.tickets) (hcalls : s'.client.calls = s.client.calls)
    (hqueue : s'.client.queue = s.client.queue) (hopen : s.client.isOpen = true)
    (halone : s'.client.IsAlone) (hwrites : s'.WritesSuit)
    (hes : ∀ x ∈ es, (∃ purpose bytes, x = .wrote purpose bytes ∧ purpose.request? = none
      ∧ ¬ HoldsOperation bytes) ∨ (∃ d, x = .noted d) ∨ ∃ e, x = .told e) :
    Kept s' (log ++ es) := by
  have hticket : ∀ x ∈ es, x.ticket? = none := by
    intro x hx
    rcases hes x hx with ⟨purpose, bytes, hx, hnone, _⟩ | ⟨d, hx⟩ | ⟨e, hx⟩
    · rw [hx]
      cases purpose with
      | request _ => cases hnone
      | _ => rfl
    · rw [hx]
      rfl
    · rw [hx]
      rfl
  have horder : InOrder s'.client (log ++ es) := by
    refine h.order.quiet (fun x hx => ?_) hqueue fun _ => hopen
    rcases hes x hx with ⟨_, _, hx, _⟩ | ⟨_, hx⟩ | ⟨_, hx⟩ <;> rw [hx] <;> exact ⟨rfl, rfl, rfl⟩
  refine ⟨?_, ?_, horder, halone, hwrites, h.faithful.append ?_ ?_ ?_⟩
  · rw [hplaces, htickets]
    exact h.tidy.quiet hticket (Nat.le_refl _)
  · rw [hplaces, htickets, hcalls]
    exact h.attended.quiet hticket (Nat.le_refl _) (List.Sublist.refl _) fun r hr => .inl hr
  · intro r hr
    cases hticket _ hr
  · intro purpose bytes hmem _
    rcases hes _ hmem with ⟨_, _, hx, _, hbytes⟩ | ⟨_, hx⟩ | ⟨_, hx⟩
    · cases hx
      exact hbytes
    · cases hx
    · cases hx
  · intro ticket result hmem
    rcases hes _ hmem with ⟨_, _, hx, _⟩ | ⟨_, hx⟩ | ⟨_, hx⟩ <;> cases hx

/-- What every step of the session leaves as it is, and what it sees to. -/
structure Stepped (s s' : Scene κ) : Prop where
  isOpen : s.client.isOpen = true
  callers : s'.callers = s.callers
  tickets : s'.tickets = s.tickets
  alone : s'.client.IsAlone
  writes : s'.WritesSuit

theorem Kept.stepped (h : Kept s log) {now : Nat} {signal : Client.Signal} {t : Task} {m : Moment}
    (hmoment : s.client.moment? now signal = some (t, m))
    (hwrites : (s.proceed react t m).1.WritesSuit) : Stepped s (s.proceed react t m).1 := by
  refine ⟨Client.isOpen_of_moment? hmoment, rfl, rfl, ?_, hwrites⟩
  intro hhere
  rw [transportHere_proceed] at hhere
  have hnone := h.alone hhere
  obtain ⟨_, _, t₀, ht₀, _⟩ := Client.moment?_cases hmoment
  rw [hnone] at ht₀
  cases ht₀

theorem Stepped.places_eq (h : Stepped s s') {queue : List Request} {flight : Option Request}
    (hqueue : s'.client.queue = queue) (hflight : s'.client.flight = flight) :
    s'.places = placesOf s.callers queue flight := by
  unfold places
  rw [h.callers, hqueue, hflight]

section
variable {r : Request} {e : Error}

theorem perm_places_of_queue {queue : List Request} (hqueue : s.client.queue = r :: queue)
    (hidle : s.client.flight = none) :
    s.places.Perm ((r, .queued) :: placesOf s.callers queue none) := by
  unfold places
  rw [hqueue, hidle]
  exact placesOf_queue

/-- The request that the session was busy with has left. -/
theorem Stepped.perm_places (h : Stepped s s') (hqueue : s.client.queue = s'.client.queue)
    (hbusy : s.client.flight = some r) (hflight : s'.client.flight = none) :
    s.places.Perm ((r, .inFlight) :: s'.places) := by
  rw [h.places_eq hqueue.symm hflight]
  unfold places
  rw [hbusy]
  exact placesOf_flight

/-- The operation changes its place, from the head of the queue to the session. -/
theorem Kept.after_taken (h : Kept s log) (hstep : Stepped s s')
    (hqueue : s.client.queue = r :: s'.client.queue) (hidle : s.client.flight = none)
    (hflight : s'.client.flight = some r) (hcalls : s'.client.calls = s.client.calls) :
    Kept s' (log ++ [.taken r]) := by
  have hbefore := perm_places_of_queue hqueue hidle
  have hplaces : s'.places.Perm ((r, .inFlight) :: placesOf s.callers s'.client.queue none) := by
    rw [hstep.places_eq rfl hflight]
    exact placesOf_flight
  have htidy := h.tidy.perm hbefore
  have hes : ∀ x ∈ [LogEntry.taken r], x.ticket? = none ∨ x.ticket? = some r.ticket := by
    simp [LogEntry.ticket?]
  refine ⟨?_, ?_, h.order.take hstep.isOpen hqueue, hstep.alone, hstep.writes,
    h.faithful.plain (by simp [LogEntry.IsPlain])⟩
  · have hgo := htidy.go (some .inFlight) hes
      fun xs hxs => by simpa [story, LogEntry.ticket?] using hxs.taken
    rw [hstep.tickets]
    exact hgo.perm hplaces.symm
  · have hgo := (h.attended.perm hbefore).go .inFlight Iff.rfl (by simp)
      (htidy.story_eq_nil List.mem_cons_self hes)
    rw [hstep.tickets, hcalls]
    exact hgo.perm hplaces.symm

theorem Kept.after_rejected (h : Kept s log) (hstep : Stepped s s')
    (hqueue : s.client.queue = r :: s'.client.queue) (hidle : s.client.flight = none)
    (hflight : s'.client.flight = none)
    (hcalls : s'.client.calls = (s.client.answer r.ticket (.error e)).calls) :
    Kept s' (log ++ [.taken r, .forgot r.ticket, .answered r.ticket (.error e)]) := by
  have hbefore : s.places.Perm ((r, .queued) :: s'.places) := by
    rw [hstep.places_eq rfl hflight]
    exact perm_places_of_queue hqueue hidle
  have horder : InOrder s'.client
      (log ++ [.taken r] ++ [.forgot r.ticket, .answered r.ticket (.error e)]) :=
    (h.order.take hstep.isOpen hqueue).quiet
      (by simp [LogEntry.isStart, LogEntry.taken?, LogEntry.queued?]) rfl id
  rw [List.append_assoc] at horder
  exact h.answer hbefore trivial hstep.tickets (.error e) hcalls (by simp [LogEntry.ticket?])
    (by simp) (fun xs hxs => by simpa [story, LogEntry.ticket?] using hxs.taken.breaks e)
    (by simp) horder hstep.alone hstep.writes (h.faithful.plain (by simp [LogEntry.IsPlain]))

theorem Kept.after_written (h : Kept s log) (hstep : Stepped s s')
    (hqueue : s.client.queue = s'.client.queue) (hbusy : s.client.flight = some r)
    (hflight : s'.client.flight = none)
    (hcalls : s'.client.calls = (s.client.answer r.ticket (.ok ())).calls) :
    Kept s' (log ++ [.wrote (.request r) r.packet, .answered r.ticket (.ok ())]) := by
  have horder : InOrder s'.client
      (log ++ [.wrote (.request r) r.packet, .answered r.ticket (.ok ())]) :=
    h.order.quiet (by simp [LogEntry.isStart, LogEntry.taken?, LogEntry.queued?]) hqueue.symm
      fun _ => hstep.isOpen
  refine h.answer (hstep.perm_places hqueue hbusy hflight) trivial hstep.tickets (.ok ()) hcalls
    (by simp [LogEntry.ticket?]) (by simp)
    (fun xs hxs => by simpa [story, LogEntry.ticket?] using hxs.writes) (by simp) horder
    hstep.alone hstep.writes (h.faithful.append (by simp) ?_ (by simp))
  intro purpose bytes hmem hnone
  have hpurpose : purpose = .request r := by
    have hboth : purpose = .request r ∧ bytes = r.packet := by simpa using hmem
    exact hboth.1
  rw [hpurpose] at hnone
  cases hnone

theorem Kept.after_broken (h : Kept s log) (hstep : Stepped s s')
    (hqueue : s.client.queue = s'.client.queue) (hbusy : s.client.flight = some r)
    (hflight : s'.client.flight = none)
    (hcalls : s'.client.calls = (s.client.answer r.ticket (.error e)).calls) :
    Kept s' (log ++ [.forgot r.ticket, .answered r.ticket (.error e)]) := by
  have horder : InOrder s'.client (log ++ [.forgot r.ticket, .answered r.ticket (.error e)]) :=
    h.order.quiet (by simp [LogEntry.isStart, LogEntry.taken?, LogEntry.queued?]) hqueue.symm
      fun _ => hstep.isOpen
  exact h.answer (hstep.perm_places hqueue hbusy hflight) trivial hstep.tickets (.error e) hcalls
    (by simp [LogEntry.ticket?]) (by simp)
    (fun xs hxs => by simpa [story, LogEntry.ticket?] using hxs.breaks e) (by simp) horder
    hstep.alone hstep.writes (h.faithful.plain (by simp [LogEntry.IsPlain]))

end

theorem Kept.proceed (h : Kept s log) {now : Nat} {signal : Client.Signal} {t : Task} {m : Moment}
    (hmoment : s.client.moment? now signal = some (t, m)) :
    Kept (s.proceed react t m).1 (log ++ (s.proceed react t m).2) := by
  obtain ⟨hproceeds, hwrites⟩ := proceeds react hmoment h.writes
  have hstep := h.stepped hmoment hwrites
  cases hproceeds with
  | takes r hqueue hidle hflight hcalls _ hlog =>
    rw [hlog]
    exact h.after_taken hstep hqueue hidle hflight hcalls
  | rejects r e hqueue hidle hflight hcalls _ hlog =>
    rw [hlog]
    exact h.after_rejected hstep hqueue hidle hflight hcalls
  | writes r hqueue hbusy hflight hcalls _ hlog =>
    rw [hlog]
    exact h.after_written hstep hqueue hbusy hflight hcalls
  | breaks r e hqueue hbusy hflight hcalls _ hlog =>
    rw [hlog]
    exact h.after_broken hstep hqueue hbusy hflight hcalls
  | aside moves written told hqueue hidle hflight hcalls _ _ _ hwritten hlog =>
    have hplaces : (s.proceed react t m).1.places = s.places := by
      rw [hstep.places_eq hqueue.symm hflight]
      unfold places
      rw [hidle]
    refine h.aside hplaces hstep.tickets hcalls hqueue.symm hstep.isOpen hstep.alone hstep.writes
      fun x hx => ?_
    rw [hlog] at hx
    exact (mem_aside hx).imp_left (hwritten x)

/-- Whoever waits has an operation on its way. -/
theorem Kept.place_of_waiting (h : Kept s log) {ticket : Nat} (hticket : ticket ∈ s.waiting) :
    ∃ r place, (r, place) ∈ s.places ∧ place.IsPosted ∧ r.ticket = ticket := by
  obtain ⟨x, hx, hxt⟩ := List.mem_map.mp hticket
  obtain ⟨hmem, hwaits⟩ := List.mem_filter.mp hx
  have hfits := h.attended.fits x hmem
  cases hfits with
  | stop _ => cases hwaits
  | waits hplace hposted => exact ⟨_, _, hplace, hposted, hxt⟩
  | answered _ _ => cases hwaits

/-- While the session is not busy with a request, what is under way is with a caller or in the
queue. -/
theorem places_of_idle (hidle : s.client.flight = none) : s.places =
    s.callers.map (fun x => (x.request, x.stage.place))
      ++ s.client.queue.map fun r => (r, .queued) := by
  unfold places placesOf
  rw [hidle, Option.toList_none, List.map_nil, List.append_nil]

theorem Kept.request_of_waiting (h : Kept s log) (hidle : s.client.flight = none) {ticket : Nat}
    (hticket : ticket ∈ s.waiting) : ∃ r ∈ s.client.queue, r.ticket = ticket := by
  obtain ⟨r, place, hmem, hposted, hr⟩ := h.place_of_waiting hticket
  rw [places_of_idle hidle, List.mem_append] at hmem
  rcases hmem with hmem | hmem
  · obtain ⟨x, _, hx⟩ := List.mem_map.mp hmem
    cases hx
    exact absurd hposted x.stage.not_isPosted
  · obtain ⟨r', hr', heq⟩ := List.mem_map.mp hmem
    cases heq
    exact ⟨r, hr', hr⟩

/-- At the end of a session its queue is given up. -/
theorem Kept.close (h : Kept s log) (hidle : s.client.flight = none)
    (hclosed : s.client.isOpen = false) : Kept s.close.1 (log ++ s.close.2) := by
  let callers : List (Request × Place) := s.callers.map fun x => (x.request, x.stage.place)
  let queue : List (Request × Place) := s.client.queue.map fun r => (r, .queued)
  have hplaces : s.places = callers ++ queue := places_of_idle hidle
  have hafter : s.close.1.places = callers := by
    change placesOf s.callers s.client.closeQueue.queue s.client.closeQueue.flight = callers
    rw [Client.queue_closeQueue, Client.flight_closeQueue, hidle]
    exact List.append_nil _
  -- Nobody is answered whose operation is not in the queue that is lost.
  have hqueued : ∀ ticket ∈ s.waiting, ∃ r ∈ s.client.queue, r.ticket = ticket :=
    fun _ => h.request_of_waiting hidle
  have htidy := h.tidy
  have hattended := h.attended
  rw [hplaces] at htidy hattended
  have hes : ∀ x ∈ s.close.2, ∃ ticket ∈ s.waiting,
      x = .answered ticket (.error .operationChannelReceiveError) := by
    intro x hx
    obtain ⟨ticket, hticket, hxt⟩ := List.mem_map.mp hx
    exact ⟨ticket, hticket, hxt.symm⟩
  have hunder : ∀ x ∈ queue, .accepted x.1 ∈ log := by
    intro x hx
    exact (mem_story.mp (htidy.under x (List.mem_append_right _ hx)).accepted_mem).1
  refine ⟨?_, ?_, ?_, ?_, ?_, ?_⟩
  · rw [hafter]
    exact htidy.lose (h.attended.nodup.sublist (List.filter_sublist.map _)) hqueued
  · rw [hafter]
    change Attended callers s.client.closeQueue.calls s.tickets _
    rw [Call.calls_closeQueue]
    refine (hattended.perm List.perm_append_comm).answer queue (fun _ => true) _ ?_ ?_ ?_ ?_ ?_
    · intro x hx
      obtain ⟨r, _, hr⟩ := List.mem_map.mp hx
      exact ⟨by rw [← hr]; trivial, rfl, hunder x hx⟩
    · intro x hx hposted
      obtain ⟨y, _, hy⟩ := List.mem_map.mp hx
      rw [← hy] at hposted
      exact absurd hposted y.stage.not_isPosted
    · intro x _ hcall
      exact List.mem_map_of_mem (List.mem_map.mpr ⟨_, List.mem_filter.mpr ⟨hcall, rfl⟩, rfl⟩)
    · intro r hr
      obtain ⟨_, _, hx⟩ := hes _ hr
      cases hx
    · intro ticket hnone
      refine story_eq_nil fun x hx hxt => ?_
      obtain ⟨own, hown, hx⟩ := hes x hx
      obtain ⟨r, hr, hrt⟩ := hqueued own hown
      rw [hx] at hxt
      have haccepted := (htidy.under (r, .queued)
        (List.mem_append_right _ (List.mem_map_of_mem hr))).accepted_mem
      have heq : r.ticket = ticket := hrt.trans (Option.some.inj hxt)
      dsimp only at haccepted
      rw [heq, hnone] at haccepted
      cases haccepted
  · have horder : InOrder s.client (log ++ s.close.2) := by
      refine h.order.quiet (fun x hx => ?_) rfl id
      obtain ⟨_, _, hx⟩ := hes x hx
      rw [hx]
      exact ⟨rfl, rfl, rfl⟩
    refine ⟨horder.isPrefix, fun hopen => ?_⟩
    cases hclosed.symm.trans ((Client.isOpen_closeQueue s.client).symm.trans hopen)
  · intro hhere
    change s.client.task.map _ = none
    rw [h.alone hhere]
    rfl
  · intro t' ht' purpose hpurpose
    obtain ⟨t, ht, hclose⟩ := Option.map_eq_some_iff.mp ht'
    rw [← hclose] at hpurpose
    exact h.writes t ht purpose hpurpose
  · refine h.faithful.plain fun x hx => ?_
    obtain ⟨_, _, hx⟩ := hes x hx
    rw [hx]
    trivial

/-! ### Stories -/

/-- Every story is that of an operation that was issued. -/
theorem Kept.progress (h : Kept s log) {x : LogEntry} {ticket : Nat} (hx : x ∈ log)
    (hticket : x.ticket? = some ticket) :
    ∃ r place, r.ticket = ticket ∧ Progress r place (story log ticket) := by
  have hmem : x ∈ story log ticket := mem_story.mpr ⟨hx, hticket⟩
  by_cases hplaced : ticket ∈ ticketsOf s.places
  · obtain ⟨⟨r, place⟩, hr, hown⟩ := mem_ticketsOf.mp hplaced
    have hprogress := h.tidy.under (r, place) hr
    dsimp only at hown hprogress
    rw [hown] at hprogress
    exact ⟨r, some place, hown, hprogress⟩
  · rcases h.tidy.settled ticket hplaced with hnone | ⟨r, hown, hprogress⟩
    · rw [hnone] at hmem
      cases hmem
    · exact ⟨r, none, hown, hprogress⟩

theorem Kept.progress_of_accepted (h : Kept s log) {r : Request} (hr : .accepted r ∈ log) :
    ∃ place, Progress r place (story log r.ticket) := by
  obtain ⟨r', place, _, hprogress⟩ := h.progress hr rfl
  have hsame : r = r' := hprogress.eq_of_accepted_mem (mem_story.mpr ⟨hr, rfl⟩)
  rw [← hsame] at hprogress
  exact ⟨place, hprogress⟩

/-- A ticket belongs to one operation. -/
theorem Kept.eq_of_ticket (h : Kept s log) {r r' : Request} (hr : .accepted r ∈ log)
    (hr' : .accepted r' ∈ log) (hticket : r'.ticket = r.ticket) : r' = r := by
  obtain ⟨place, hprogress⟩ := h.progress_of_accepted hr
  exact hprogress.eq_of_accepted_mem (mem_story.mpr ⟨hr', by rw [← hticket]; rfl⟩)

/-! ### Runs -/

theorem Kept.settle (h : Kept s log) :
    Kept s.settle.1 (log ++ s.settle.2) ∧ s.settle.1.client.IsDrained := by
  unfold Scene.settle
  split
  · rename_i hover
    have hidle : s.client.flight = none := by
      unfold Client.flight
      cases ht : s.client.task with
      | none => rfl
      | some t =>
        rw [ht] at hover
        exact Phase.request?_of_isOver (by simpa [Task.isOver] using hover)
    exact ⟨h.close hidle (Client.isOpen_of_all_isOver hover), fun _ => s.client.queue_closeQueue⟩
  · rename_i hover
    rw [List.append_nil]
    refine ⟨h, fun hclosed => absurd ?_ hover⟩
    unfold Client.isOpen at hclosed
    cases ht : s.client.task with
    | none => rfl
    | some t =>
      rw [ht] at hclosed
      simpa using hclosed

theorem Kept.session (h : Kept s log) (hdrained : s.client.IsDrained) (now : Nat)
    (signal : Client.Signal) : Kept (s.session react now signal).1
      (log ++ (s.session react now signal).2)
      ∧ (s.session react now signal).1.client.IsDrained := by
  unfold Scene.session
  split
  · rw [List.append_nil]
    exact ⟨h, hdrained⟩
  · split
    · rename_i t m hmoment
      unfold andThen
      rw [← List.append_assoc]
      exact (h.proceed hmoment).settle
    · rw [List.append_nil]
      exact ⟨h, hdrained⟩

theorem isDrained_start (hdrained : s.client.IsDrained) : s.start.1.client.IsDrained := by
  unfold Scene.start
  rcases s.client.start_cases with ⟨e, hstart⟩ | ⟨_, client, hstart, htask, _⟩
  · rw [hstart]
    exact hdrained
  · rw [hstart]
    intro hclosed
    unfold Client.isOpen at hclosed
    dsimp only at hclosed
    rw [htask] at hclosed
    cases hclosed

theorem isDrained_offer (hdrained : s.client.IsDrained) (ticket : Nat) :
    (s.offer ticket).1.client.IsDrained := by
  unfold Scene.offer
  split
  · rename_i r session _
    -- Whatever is offered, a queue that is not empty belongs to a session that is not over.
    have hoffered : (if session = s.sessions then s.client.offer r
        else (s.client, .error .operationChannelSendError)).1.IsDrained := by
      split
      · rcases s.client.offer_cases r with ⟨e, he⟩ | ⟨t, ht, hover, hok⟩
        · rw [he]
          exact hdrained
        · rw [hok]
          intro hclosed
          unfold Client.isOpen at hclosed
          rw [Option.any_some, Bool.not_eq_false'] at hclosed
          cases hover.symm.trans hclosed
      · exact hdrained
    split
    · rename_i heq
      rw [heq] at hoffered
      exact hoffered
    · rename_i heq
      rw [heq] at hoffered
      exact hoffered
  · exact hdrained

theorem rests_call (now : Nat) (o : Operation) : s.client.Rests (s.call now o).1.client := by
  unfold Scene.call
  dsimp only
  split
  · exact .of_task rfl rfl
  · split <;> exact .of_task rfl rfl

theorem rests_reach (ticket : Nat) : s.client.Rests (s.reach ticket).1.client := by
  unfold Scene.reach
  split
  · split <;> exact .of_task rfl rfl
  · exact .of_task rfl rfl

theorem rests_giveUp (ticket : Nat) : s.client.Rests (s.giveUp ticket).1.client := by
  unfold Scene.giveUp
  split <;> exact .of_task rfl rfl

theorem rests_conclude (hdrained : s.client.IsDrained) (ticket : Nat) :
    s.client.Rests (s.conclude ticket).1.client := by
  unfold Scene.conclude
  split
  · split
    · rename_i hready
      exact (Client.rests_conclude hdrained hready).1
    · exact .of_task rfl rfl
  · exact .of_task rfl rfl

theorem rests_cancel (ticket : Nat) : s.client.Rests (s.cancel ticket).1.client := by
  unfold Scene.cancel
  split <;> exact .of_task rfl rfl

theorem Kept.act (h : Kept s log) (hdrained : s.client.IsDrained)
    (react : κ → Event → Reaction κ) (a : Act κ) :
    Kept (s.act react a).1 (log ++ (s.act react a).2) ∧ (s.act react a).1.client.IsDrained := by
  cases a with
  | start => exact ⟨h.start, isDrained_start hdrained⟩
  | stop => exact ⟨h.stop hdrained, (Client.rests_stop hdrained s.tickets).1.isDrained hdrained⟩
  | release =>
    have hrests := Client.rests_release s.client
    refine ⟨?_, hrests.isDrained hdrained⟩
    change Kept _ (log ++ [])
    rw [List.append_nil]
    exact h.silent rfl rfl (Nat.le_refl _) hrests (Client.calls_release s.client)
  | listen listeners mailboxes nextListener =>
    refine ⟨?_, hdrained⟩
    change Kept _ (log ++ [])
    rw [List.append_nil]
    exact h.silent rfl rfl (Nat.le_refl _) (.of_task rfl rfl) rfl
  | call now o => exact ⟨h.call now o, (rests_call now o).isDrained hdrained⟩
  | reach ticket => exact ⟨h.reach ticket, (rests_reach ticket).isDrained hdrained⟩
  | offer ticket => exact ⟨h.offer ticket, isDrained_offer hdrained ticket⟩
  | giveUp ticket => exact ⟨h.giveUp ticket, (rests_giveUp ticket).isDrained hdrained⟩
  | conclude ticket =>
    exact ⟨h.conclude hdrained ticket, (rests_conclude hdrained ticket).isDrained hdrained⟩
  | cancel ticket => exact ⟨h.cancel ticket, (rests_cancel ticket).isDrained hdrained⟩
  | session now signal => exact h.session hdrained now signal

theorem Kept.play (h : Kept s log) (hdrained : s.client.IsDrained)
    (react : κ → Event → Reaction κ) (acts : List (Act κ)) :
    Kept (s.play react acts).1 (log ++ (s.play react acts).2)
      ∧ (s.play react acts).1.client.IsDrained := by
  induction acts generalizing s log with
  | nil =>
    change Kept s (log ++ []) ∧ _
    rw [List.append_nil]
    exact ⟨h, hdrained⟩
  | cons a acts ih =>
    obtain ⟨hkept, hdrained'⟩ := h.act hdrained react a
    have hplay := ih hkept hdrained'
    rw [List.append_assoc] at hplay
    exact hplay

theorem kept_of_new {config : Config} {defaultPort : UInt16} {listener : Option (Listener κ)}
    {c : Client κ} (h : Client.new config defaultPort listener = .ok c) :
    Kept { client := c } [] ∧ c.IsDrained := by
  have hc : c.task = none ∧ c.calls = [] := by
    rw [(Client.new_eq_ok_iff.mp h).2]
    exact ⟨rfl, rfl⟩
  obtain ⟨htask, hcalls⟩ := hc
  have hqueue : c.queue = [] := by
    unfold Client.queue
    rw [htask]
    rfl
  have hplaces : places { client := c } = [] := by
    unfold places Client.flight
    dsimp only
    rw [hqueue, htask]
    rfl
  refine ⟨⟨?_, ?_, ?_, fun _ => htask, ?_, ?_⟩, fun _ => hqueue⟩
  · rw [hplaces]
    exact ⟨List.nodup_nil, List.forall_mem_nil _, fun _ _ => .inl rfl, fun _ _ => rfl⟩
  · rw [hplaces]
    dsimp only
    rw [hcalls]
    exact ⟨List.nodup_nil, List.forall_mem_nil _, List.forall_mem_nil _, List.forall_mem_nil _,
      nofun⟩
  · refine ⟨List.prefix_refl _, fun _ => ?_⟩
    dsimp only
    rw [hqueue]
    rfl
  · intro t ht
    dsimp only at ht
    rw [htask] at ht
    cases ht
  · exact ⟨nofun, nofun, nofun⟩

end Scene

end Mqtt
