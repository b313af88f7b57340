import Mqtt.Proofs.Client.Numbering

/-!
# Requests and the connections they are written on

A request is written on the connection on which the session takes it from its queue. One that still
waits for its turn when another connection is accepted can be written there; any other one stays
with the connection it was issued on.
-/

namespace Mqtt
set_option autoImplicit false

namespace LogEntry

/-- Whether another connection takes over: the broker accepts it, or what an earlier one left is
forgotten for it. -/
def IsHandover : LogEntry → Prop
  | .told (.connected _) | .noted .cleared => True
  | _ => False

/-- Entries about no connection, and about no request that the session takes or writes. -/
def IsQuiet : LogEntry → Prop
  | .told (.connected _) | .noted .cleared | .taken _ | .wrote (.request _) _ => False
  | _ => True

theorem IsQuiet.not_isHandover {x : LogEntry} (h : x.IsQuiet) : ¬ x.IsHandover := by
  cases x with
  | told e =>
    cases e with
    | connected _ => exact h.elim
    | _ => exact id
  | noted d =>
    cases d with
    | cleared => exact h.elim
    | _ => exact id
  | _ => exact id

end LogEntry

/-- A write fails, and the broker accepts the next connection, with nothing left of the session. -/
def Act.reconnecting {κ : Type} : List (Act κ) :=
  [.session 0 (.written (.error .streamWriteFailure)), .session 0 .run, .session 0 .run,
    .session 0 .run, .session 0 .run, .session 0 (.connected (.ok ())),
    .session 0 (.written (.ok ())), .session 0 .run, .session 0 (.read (.ok [0x20, 2, 0, 0])),
    .session 0 .run, .session 0 .run, .session 0 .run]

namespace Scene

variable {κ : Type} {react : κ → Event → Reaction κ} {s s' : Scene κ} {log es : List LogEntry}
  {r : Request}

theorem clear_mem_of_deeds {l : Ledger} {moves : List Ledger.Move}
    (h : .cleared ∈ l.deeds moves) : .clear ∈ moves := by
  induction moves generalizing l with
  | nil => cases h
  | cons m moves ih =>
    rcases List.mem_append.mp h with h | h
    · rw [Ledger.cleared_mem_deedsOf h]
      exact List.mem_cons_self
    · exact List.mem_cons_of_mem _ (ih h)

theorem effects_of_clear {session : Session} {m : Moment} (h : .clear ∈ session.moves m) :
    ∃ p, (session.respond m).effects = [.tell (.connected p)] := by
  cases Session.makes_of_mem_moves h with
  | clears deadline rest hp hwake hitems =>
    obtain ⟨config, port, phase, decoder, items, lastPing, lastError⟩ := session
    obtain ⟨l, now, stopRequested, wake⟩ := m
    cases hp
    cases hwake
    cases hitems
    exact ⟨false, rfl⟩

theorem told_of_clear {t : Task} {m : Moment} (h : .clear ∈ t.session.moves m) :
    ∃ p, .told (.connected p) ∈ (s.proceed react t m).2 := by
  obtain ⟨p, heffects⟩ := effects_of_clear h
  refine ⟨p, List.mem_append_right _ ?_⟩
  rw [heffects]
  unfold Client.perform
  dsimp only
  split <;> exact List.mem_cons_self

theorem told_of_cleared {t : Task} {m : Moment} (h : .noted .cleared ∈ (s.proceed react t m).2) :
    ∃ p, .told (.connected p) ∈ (s.proceed react t m).2 := by
  change .noted .cleared ∈ s.beforeEffects t.session m
    ++ (m.ledger.deeds (t.session.moves m)).map LogEntry.noted
    ++ (t.session.respond m).effects.flatMap Effect.entries
    ++ (s.client.carryOut react t m).2.flatMap Client.Action.entries at h
  rw [List.mem_append, List.mem_append, List.mem_append] at h
  rcases h with ((h | h) | h) | h
  · unfold beforeEffects at h
    split at h <;> simp at h
  · obtain ⟨d, hd, hcleared⟩ := List.mem_map.mp h
    cases hcleared
    exact told_of_clear (clear_mem_of_deeds hd)
  · obtain ⟨x, _, hx⟩ := List.mem_flatMap.mp h
    unfold Effect.entries at hx
    split at hx <;> simp at hx
  · obtain ⟨x, _, hx⟩ := List.mem_flatMap.mp h
    unfold Client.Action.entries at hx
    split at hx <;> simp at hx

/-- Whether a request waits for its turn, with its caller or in the queue. -/
def Waits (s : Scene κ) (r : Request) : Prop :=
  (∃ x ∈ s.callers, x.request = r ∧ x.stage.place = .called) ∨ r ∈ s.client.queue

/-- What an act does about the request that the session is busy with. -/
inductive Passage (s s' : Scene κ) (es : List LogEntry) : Prop where
  | takes (r : Request) (rest : List LogEntry) (hqueue : r ∈ s.client.queue)
    (hflight : s'.client.flight = some r ∨ s'.client.flight = none)
    (hlog : es = .taken r :: rest) (hrest : ∀ x ∈ rest, x.IsQuiet)
  | writes (r : Request) (bytes : Bytes) (rest : List LogEntry)
    (hbusy : s.client.flight = some r) (hflight : s'.client.flight = none)
    (hlog : es = .wrote (.request r) bytes :: rest) (hrest : ∀ x ∈ rest, x.IsQuiet)
  | passes (hflight : s'.client.flight = s.client.flight ∨ s'.client.flight = none)
    (hes : ∀ x ∈ es, x.IsQuiet)
  | idles (hidle : s.client.flight = none) (hflight : s'.client.flight = none)
    (hes : ∀ x ∈ es, x.IsQuiet ∨ x.IsHandover)
    (htold : ∀ x ∈ es, x.IsHandover → ∃ p, .told (.connected p) ∈ es)

theorem passage_of_rests (hrests : s.client.Rests s'.client) (hes : ∀ x ∈ es, x.IsQuiet) :
    Passage s s' es := .passes (.inl hrests.flight) hes

theorem passage_start : Passage s s.start.1 s.start.2 := by
  unfold Scene.start
  rcases s.client.start_cases with ⟨e, hstart⟩ | ⟨_, client, hstart, htask, _⟩
  · rw [hstart]
    exact .passes (.inl rfl) (List.forall_mem_nil _)
  · rw [hstart]
    refine .passes (.inr ?_) (by simp [LogEntry.IsQuiet])
    unfold Client.flight
    dsimp only
    rw [htask]
    rfl

theorem isQuiet_deeds {l : Ledger} {m : Ledger.Move} (hm : m ≠ .clear) :
    ∀ x ∈ (l.deedsOf m).map LogEntry.noted, x.IsQuiet := by
  intro x hx
  obtain ⟨d, hd, rfl⟩ := List.mem_map.mp hx
  cases d with
  | cleared => exact absurd (Ledger.cleared_mem_deedsOf hd) hm
  | _ => trivial

theorem passage_call (now : Nat) (o : Operation) :
    Passage s (s.call now o).1 (s.call now o).2 := by
  refine passage_of_rests (rests_call now o) ?_
  unfold Scene.call
  dsimp only
  split
  · simp [LogEntry.IsQuiet]
  · split
    · simp [LogEntry.IsQuiet]
    · rw [List.forall_mem_cons, List.forall_mem_cons]
      exact ⟨trivial, trivial, isQuiet_deeds nofun⟩

theorem passage_reach (ticket : Nat) : Passage s (s.reach ticket).1 (s.reach ticket).2 := by
  refine passage_of_rests (rests_reach ticket) ?_
  unfold Scene.reach
  split
  · split <;> simp [LogEntry.IsQuiet]
  · exact List.forall_mem_nil _

theorem passage_offer (ticket : Nat) : Passage s (s.offer ticket).1 (s.offer ticket).2 := by
  unfold Scene.offer
  split
  · rename_i r session _
    have hoffered : (if session = s.sessions then s.client.offer r
        else (s.client, .error .operationChannelSendError)).1.flight = s.client.flight := by
      split
      · rcases s.client.offer_cases r with ⟨e, he⟩ | ⟨t, ht, _, hok⟩
        · rw [he]
        · rw [hok]
          unfold Client.flight
          rw [ht]
          rfl
      · rfl
    split
    · rename_i heq
      rw [heq] at hoffered
      exact .passes (.inl hoffered) (by simp [LogEntry.IsQuiet])
    · rename_i heq
      rw [heq] at hoffered
      exact .passes (.inl hoffered) (by simp [LogEntry.IsQuiet])
  · exact .passes (.inl rfl) (List.forall_mem_nil _)

theorem passage_giveUp (ticket : Nat) : Passage s (s.giveUp ticket).1 (s.giveUp ticket).2 := by
  refine passage_of_rests (rests_giveUp ticket) ?_
  unfold Scene.giveUp
  split <;> simp [LogEntry.IsQuiet]

theorem passage_conclude (hdrained : s.client.IsDrained) (ticket : Nat) :
    Passage s (s.conclude ticket).1 (s.conclude ticket).2 := by
  refine passage_of_rests (rests_conclude hdrained ticket) ?_
  unfold Scene.conclude
  split
  · split
    · intro x hx
      rcases mem_returning hx with rfl | ⟨result, rfl, _⟩ <;> trivial
    · exact List.forall_mem_nil _
  · exact List.forall_mem_nil _

theorem passage_cancel (ticket : Nat) : Passage s (s.cancel ticket).1 (s.cancel ticket).2 := by
  refine passage_of_rests (rests_cancel ticket) ?_
  unfold Scene.cancel
  split <;> simp [LogEntry.IsQuiet]

/-- The end of a session leaves the request that it is busy with, and is told to those who wait. -/
theorem quiet_settle : s.settle.1.client.flight = s.client.flight ∧ ∀ x ∈ s.settle.2, x.IsQuiet := by
  unfold settle
  split
  · refine ⟨Client.flight_closeQueue s.client, fun x hx => ?_⟩
    obtain ⟨ticket, _, rfl⟩ := List.mem_map.mp hx
    trivial
  · exact ⟨rfl, List.forall_mem_nil _⟩

theorem Kept.passage_session (h : Kept s log) (now : Nat) (signal : Client.Signal) :
    Passage s (s.session react now signal).1 (s.session react now signal).2 := by
  unfold Scene.session
  split
  · exact .passes (.inl rfl) (List.forall_mem_nil _)
  · split
    · rename_i t m hmoment
      obtain ⟨hproceeds, _⟩ := proceeds react hmoment h.writes
      have hcleared : .noted .cleared ∈ (s.proceed react t m).2 →
          ∃ p, .told (.connected p) ∈ (s.proceed react t m).2 := told_of_cleared
      unfold andThen
      generalize s.proceed react t m = after at hproceeds hcleared ⊢
      obtain ⟨s', es⟩ := after
      obtain ⟨hsettled, hquiet⟩ := quiet_settle (s := s')
      dsimp only at hproceeds ⊢
      cases hproceeds with
      | takes r hqueue hidle hflight hcalls hledger hlog =>
        refine .takes r _ (by simp [hqueue]) (.inl (hsettled.trans hflight)) ?_ hquiet
        rw [hlog, List.singleton_append]
      | rejects r e hqueue hidle hflight hcalls hledger hlog =>
        refine .takes r ([.forgot r.ticket, .answered r.ticket (.error e)] ++ s'.settle.2)
          (by simp [hqueue]) (.inr (hsettled.trans hflight)) (by rw [hlog]; rfl) ?_
        rw [List.forall_mem_append]
        exact ⟨by simp [LogEntry.IsQuiet], hquiet⟩
      | writes r hqueue hbusy hflight hcalls hledger hlog =>
        refine .writes r r.packet (.answered r.ticket (.ok ()) :: s'.settle.2) hbusy
          (hsettled.trans hflight) (by rw [hlog]; rfl) ?_
        exact List.forall_mem_cons.mpr ⟨trivial, hquiet⟩
      | breaks r e hqueue hbusy hflight hcalls hledger hlog =>
        refine .passes (.inr (hsettled.trans hflight)) ?_
        rw [hlog, List.forall_mem_append]
        exact ⟨by simp [LogEntry.IsQuiet], hquiet⟩
      | aside moves written told hqueue hidle hflight hcalls hledger hmoves htold hwritten hlog =>
        have hentries : ∀ x ∈ es, x.IsQuiet ∨ x = .noted .cleared
            ∨ ∃ p, x = .told (.connected p) := by
          intro x hx
          rw [hlog] at hx
          rcases mem_aside hx with hx | ⟨d, rfl⟩ | ⟨e, rfl⟩
          · obtain ⟨purpose, bytes, rfl, hpurpose, _⟩ := hwritten x hx
            cases purpose with
            | request _ => cases hpurpose
            | _ => exact .inl trivial
          · cases d with
            | cleared => exact .inr (.inl rfl)
            | _ => exact .inl trivial
          · cases e with
            | connected p => exact .inr (.inr ⟨p, rfl⟩)
            | _ => exact .inl trivial
        refine .idles hidle (hsettled.trans hflight) ?_ ?_
        · rw [List.forall_mem_append]
          refine ⟨fun x hx => ?_, fun x hx => .inl (hquiet x hx)⟩
          rcases hentries x hx with hx | rfl | ⟨p, rfl⟩
          · exact .inl hx
          · exact .inr trivial
          · exact .inr trivial
        · intro x hx hhandover
          have hx' := (List.mem_append.mp hx).resolve_right fun hx =>
            (hquiet x hx).not_isHandover hhandover
          rcases hentries x hx' with hx | rfl | ⟨p, rfl⟩
          · exact absurd hhandover hx.not_isHandover
          · obtain ⟨p, hp⟩ := hcleared hx'
            exact ⟨p, List.mem_append_left _ hp⟩
          · exact ⟨p, hx⟩
    · exact .passes (.inl rfl) (List.forall_mem_nil _)

theorem Kept.passage (h : Kept s log) (hdrained : s.client.IsDrained)
    (react : κ → Event → Reaction κ) (a : Act κ) :
    Passage s (s.act react a).1 (s.act react a).2 := by
  cases a with
  | start => exact passage_start
  | stop => exact passage_of_rests (Client.rests_stop hdrained s.tickets).1 (List.forall_mem_nil _)
  | release => exact passage_of_rests (Client.rests_release s.client) (List.forall_mem_nil _)
  | listen listeners mailboxes nextListener => exact .passes (.inl rfl) (List.forall_mem_nil _)
  | call now o => exact passage_call now o
  | reach ticket => exact passage_reach ticket
  | offer ticket => exact passage_offer ticket
  | giveUp ticket => exact passage_giveUp ticket
  | conclude ticket => exact passage_conclude hdrained ticket
  | cancel ticket => exact passage_cancel ticket
  | session now signal => exact h.passage_session now signal

namespace Passage

/-- The session is busy with a request that it has just taken, or still is. -/
theorem of_flight (h : Passage s s' es) (hr : s'.client.flight = some r) :
    (r ∈ s.client.queue ∧ ∃ rest, es = .taken r :: rest ∧ ∀ x ∈ rest, x.IsQuiet)
    ∨ s.client.flight = some r ∧ ∀ x ∈ es, x.IsQuiet := by
  cases h with
  | takes r' rest hqueue hflight hlog hrest =>
    rcases hflight with hflight | hflight
    · cases hflight.symm.trans hr
      exact .inl ⟨hqueue, rest, hlog, hrest⟩
    · cases hflight.symm.trans hr
  | writes r' bytes rest hbusy hflight hlog hrest => cases hflight.symm.trans hr
  | passes hflight hes =>
    rcases hflight with hflight | hflight
    · exact .inr ⟨hflight.symm.trans hr, hes⟩
    · cases hflight.symm.trans hr
  | idles hidle hflight hes htold => cases hflight.symm.trans hr

/-- What is written is what the session was busy with, and is noted first. -/
theorem of_wrote (h : Passage s s' es) {mid after : List LogEntry} {bytes : Bytes}
    (hes : es = mid ++ .wrote (.request r) bytes :: after) :
    mid = [] ∧ s.client.flight = some r := by
  have hmem : .wrote (.request r) bytes ∈ es := by
    rw [hes]
    exact List.mem_append_right _ List.mem_cons_self
  cases h with
  | takes r' rest hqueue hflight hlog hrest =>
    rw [hlog] at hmem
    rcases List.mem_cons.mp hmem with hmem | hmem
    · cases hmem
    · exact (hrest _ hmem).elim
  | writes r' bytes' rest hbusy hflight hlog hrest =>
    rw [hlog] at hes
    cases mid with
    | nil =>
      cases (List.cons.inj hes).1
      exact ⟨rfl, hbusy⟩
    | cons y mid =>
      have hlater : .wrote (.request r) bytes ∈ rest := by
        rw [(List.cons.inj hes).2]
        exact List.mem_append_right _ List.mem_cons_self
      exact (hrest _ hlater).elim
  | passes hflight hquiet => exact (hquiet _ hmem).elim
  | idles hidle hflight hquiet htold =>
    rcases hquiet _ hmem with hquiet | hhandover
    · exact hquiet.elim
    · exact hhandover.elim

theorem of_handover (h : Passage s s' es) {x : LogEntry} (hx : x ∈ es) (hhandover : x.IsHandover) :
    s.client.flight = none ∧ s'.client.flight = none ∧ ∃ p, .told (.connected p) ∈ es := by
  cases h with
  | takes r rest hqueue hflight hlog hrest =>
    rw [hlog] at hx
    rcases List.mem_cons.mp hx with rfl | hx
    · exact hhandover.elim
    · exact absurd hhandover (hrest x hx).not_isHandover
  | writes r bytes rest hbusy hflight hlog hrest =>
    rw [hlog] at hx
    rcases List.mem_cons.mp hx with rfl | hx
    · exact hhandover.elim
    · exact absurd hhandover (hrest x hx).not_isHandover
  | passes hflight hes => exact absurd hhandover (hes x hx).not_isHandover
  | idles hidle hflight hes htold => exact ⟨hidle, hflight, htold x hx hhandover⟩

end Passage

/-! ### Taken and written on one connection -/

theorem mem_split_append {before after : List LogEntry} {x : LogEntry}
    (h : log ++ es = before ++ x :: after) : (∃ after', log = before ++ x :: after')
      ∨ ∃ mid, before = log ++ mid ∧ es = mid ++ x :: after := by
  rcases List.append_eq_append_iff.mp h with ⟨mid, hbefore, hes⟩ | ⟨mid, hlog, hafter⟩
  · exact .inr ⟨mid, hbefore, hes⟩
  · cases mid with
    | nil =>
      rw [List.append_nil] at hlog
      exact .inr ⟨[], by rw [hlog, List.append_nil], hafter.symm⟩
    | cons y mid =>
      obtain ⟨rfl, _⟩ := List.cons.inj hafter
      exact .inl ⟨mid, hlog⟩

/-- Whether a request was taken from the queue on the connection that is up. -/
def IsAboard (log : List LogEntry) (r : Request) : Prop :=
  ∃ front since, log = front ++ .taken r :: since ∧ ∀ x ∈ since, ¬ x.IsHandover

theorem IsAboard.append (h : IsAboard log r) (hes : ∀ x ∈ es, ¬ x.IsHandover) :
    IsAboard (log ++ es) r := by
  obtain ⟨front, since, rfl, hsince⟩ := h
  refine ⟨front, since ++ es, by rw [List.append_assoc, List.cons_append], ?_⟩
  exact List.forall_mem_append.mpr ⟨hsince, hes⟩

/-- Whether the request that the session is busy with, and every one it has written, was taken from
the queue on the same connection. -/
structure Boarded (s : Scene κ) (log : List LogEntry) : Prop where
  flight : ∀ r, s.client.flight = some r → IsAboard log r
  written : ∀ before r bytes after, log = before ++ .wrote (.request r) bytes :: after →
    IsAboard before r

theorem Boarded.passage (h : Boarded s log) (hpassage : Passage s s' es) :
    Boarded s' (log ++ es) where
  flight r hr := by
    rcases hpassage.of_flight hr with ⟨_, rest, rfl, hrest⟩ | ⟨hbusy, hes⟩
    · exact ⟨log, rest, rfl, fun x hx => (hrest x hx).not_isHandover⟩
    · exact (h.flight r hbusy).append fun x hx => (hes x hx).not_isHandover
  written before r bytes after heq := by
    rcases mem_split_append heq with ⟨after', hlog⟩ | ⟨mid, hbefore, hes⟩
    · exact h.written before r bytes after' hlog
    · obtain ⟨rfl, hbusy⟩ := hpassage.of_wrote hes
      rw [hbefore, List.append_nil]
      exact h.flight r hbusy

theorem Boarded.play (h : Boarded s log) (hkept : Kept s log) (hdrained : s.client.IsDrained)
    (react : κ → Event → Reaction κ) (acts : List (Act κ)) :
    Boarded (s.play react acts).1 (log ++ (s.play react acts).2) := by
  induction acts generalizing s log with
  | nil =>
    change Boarded s (log ++ [])
    rw [List.append_nil]
    exact h
  | cons a acts ih =>
    obtain ⟨hkept', hdrained'⟩ := hkept.act hdrained react a
    have hplay := ih (h.passage (hkept.passage hdrained react a)) hkept' hdrained'
    rw [List.append_assoc] at hplay
    exact hplay

/-! ### Requests that have left the queue -/

theorem Waits.back (h : s'.Waits r) (hcallers : ∀ x ∈ s'.callers, x.stage.place = .called →
      ∃ y ∈ s.callers, y.request = x.request ∧ y.stage.place = .called)
    (hqueue : s'.client.queue ⊆ s.client.queue) : s.Waits r := by
  rcases h with ⟨x, hx, hxr, hplace⟩ | hmem
  · obtain ⟨y, hy, hyx, hyplace⟩ := hcallers x hx hplace
    exact .inl ⟨y, hy, hyx.trans hxr, hyplace⟩
  · exact .inr (hqueue hmem)

theorem Waits.of_rests (h : s'.Waits r) (hcallers : s'.callers ⊆ s.callers)
    (hrests : s.client.Rests s'.client) : s.Waits r :=
  h.back (fun x hx hplace => ⟨x, hcallers hx, rfl, hplace⟩) (by rw [hrests.queue]; exact fun _ => id)

theorem waits_of_start (h : s.start.1.Waits r) : s.Waits r := by
  unfold Scene.start at h
  rcases s.client.start_cases with ⟨e, hstart⟩ | ⟨_, client, hstart, htask, _⟩
  · rw [hstart] at h
    exact h
  · rw [hstart] at h
    refine h.back (fun x hx hplace => ⟨x, hx, rfl, hplace⟩) ?_
    simp [Client.queue, htask]

theorem waits_of_call {now : Nat} {o : Operation} (h : (s.call now o).1.Waits r) :
    s.Waits r ∨ .accepted r ∈ (s.call now o).2 := by
  have hrests := rests_call (s := s) now o
  unfold Scene.call at h hrests ⊢
  dsimp only at h hrests ⊢
  split at h
  · exact .inl (h.of_rests (fun _ => id) (.of_task rfl rfl))
  · split at h
    · exact .inl (h.of_rests (fun _ => id) (.of_task rfl rfl))
    · rename_i hcheck _ ledger out hbegin
      rcases h with ⟨x, hx, hxr, hplace⟩ | hmem
      · rcases List.mem_cons.mp hx with hx | hx
        · right
          rw [← hxr, hx]
          simp
        · exact .inl (.inl ⟨x, hx, hxr, hplace⟩)
      · exact .inl (.inr hmem)

theorem waits_of_reach {ticket : Nat} (h : (s.reach ticket).1.Waits r) : s.Waits r := by
  unfold Scene.reach at h
  split at h
  · rename_i r' hcaller
    have hissued : ⟨r', .issued⟩ ∈ s.callers := List.mem_of_find?_eq_some hcaller
    split at h <;> refine h.back (fun x hx hplace => ?_) (fun _ => id)
    · rcases List.mem_cons.mp hx with rfl | hx
      · exact ⟨_, hissued, rfl, rfl⟩
      · exact ⟨x, mem_others hx, rfl, hplace⟩
    · rcases List.mem_cons.mp hx with rfl | hx
      · cases hplace
      · exact ⟨x, mem_others hx, rfl, hplace⟩
  · exact h

theorem waits_of_offer {ticket : Nat} (h : (s.offer ticket).1.Waits r) : s.Waits r := by
  unfold Scene.offer at h
  split at h
  · rename_i r' session hcaller
    have hbound : ⟨r', .bound session⟩ ∈ s.callers := List.mem_of_find?_eq_some hcaller
    have hoffered : ∀ x ∈ (if session = s.sessions then s.client.offer r'
        else (s.client, .error .operationChannelSendError)).1.queue, s.Waits x := by
      split
      · rcases s.client.offer_cases r' with ⟨e, he⟩ | ⟨t, ht, _, hok⟩
        · rw [he]
          exact fun x hx => .inr hx
        · rw [hok]
          intro x hx
          rcases List.mem_append.mp hx with hx | hx
          · refine .inr ?_
            unfold Client.queue
            rw [ht]
            exact hx
          · exact .inl ⟨_, hbound, (List.mem_singleton.mp hx).symm, rfl⟩
      · exact fun x hx => .inr hx
    split at h
    · rename_i heq
      rw [heq] at hoffered
      rcases h with ⟨x, hx, hxr, hplace⟩ | hmem
      · exact .inl ⟨x, mem_others hx, hxr, hplace⟩
      · exact hoffered r hmem
    · rename_i heq
      rw [heq] at hoffered
      rcases h with ⟨x, hx, hxr, hplace⟩ | hmem
      · rcases List.mem_cons.mp hx with rfl | hx
        · cases hplace
        · exact .inl ⟨x, mem_others hx, hxr, hplace⟩
      · exact hoffered r hmem
  · exact h

theorem waits_of_giveUp {ticket : Nat} (h : (s.giveUp ticket).1.Waits r) : s.Waits r := by
  unfold Scene.giveUp at h
  split at h
  · exact h.of_rests (fun x hx => mem_others hx) (.of_task rfl rfl)
  · exact h

theorem waits_of_conclude (hdrained : s.client.IsDrained) {ticket : Nat}
    (h : (s.conclude ticket).1.Waits r) : s.Waits r := by
  have hcallers : (s.conclude ticket).1.callers = s.callers := by
    unfold Scene.conclude
    split
    · split <;> rfl
    · rfl
  exact h.of_rests (by rw [hcallers]; exact fun _ => id) (rests_conclude hdrained ticket)

theorem waits_of_cancel {ticket : Nat} (h : (s.cancel ticket).1.Waits r) : s.Waits r := by
  unfold Scene.cancel at h
  split at h
  · exact h.of_rests (fun _ => id) (.of_task rfl rfl)
  · exact h

theorem callers_settle : s.settle.1.callers = s.callers := by
  unfold settle
  split <;> rfl

theorem queue_settle : s.settle.1.client.queue ⊆ s.client.queue := by
  unfold settle
  split
  · change s.client.closeQueue.queue ⊆ _
    rw [Client.queue_closeQueue]
    exact List.nil_subset _
  · exact List.Subset.refl _

theorem Proceeds.queue (h : Proceeds s s' es) : s'.client.queue ⊆ s.client.queue := by
  cases h with
  | takes r hqueue _ _ _ _ _ =>
    rw [hqueue]
    exact List.subset_cons_self _ _
  | rejects r e hqueue _ _ _ _ _ =>
    rw [hqueue]
    exact List.subset_cons_self _ _
  | writes r hqueue _ _ _ _ _ =>
    rw [hqueue]
    exact List.Subset.refl _
  | breaks r e hqueue _ _ _ _ _ =>
    rw [hqueue]
    exact List.Subset.refl _
  | aside moves written told hqueue _ _ _ _ _ _ _ _ =>
    rw [hqueue]
    exact List.Subset.refl _

theorem Kept.waits_of_session (hkept : Kept s log) {now : Nat} {signal : Client.Signal}
    (h : (s.session react now signal).1.Waits r) : s.Waits r := by
  unfold Scene.session at h
  split at h
  · exact h
  · split at h
    · rename_i t m hmoment
      obtain ⟨hproceeds, _⟩ := proceeds react hmoment hkept.writes
      refine h.back (fun x hx hplace => ⟨x, ?_, rfl, hplace⟩)
        (List.Subset.trans queue_settle hproceeds.queue)
      change x ∈ (s.proceed react t m).1.settle.1.callers at hx
      rw [callers_settle] at hx
      exact hx
    · exact h

/-- Nothing but being issued makes a request wait. -/
theorem Kept.waits_of_act (hkept : Kept s log) (hdrained : s.client.IsDrained) (a : Act κ)
    (h : (s.act react a).1.Waits r) : s.Waits r ∨ .accepted r ∈ (s.act react a).2 := by
  cases a with
  | start => exact .inl (waits_of_start h)
  | stop => exact .inl (h.of_rests (fun _ => id) (Client.rests_stop hdrained s.tickets).1)
  | release => exact .inl (h.of_rests (fun _ => id) (Client.rests_release s.client))
  | listen listeners mailboxes nextListener =>
    exact .inl (h.of_rests (fun _ => id) (.of_task rfl rfl))
  | call now o => exact waits_of_call h
  | reach ticket => exact .inl (waits_of_reach h)
  | offer ticket => exact .inl (waits_of_offer h)
  | giveUp ticket => exact .inl (waits_of_giveUp h)
  | conclude ticket => exact .inl (waits_of_conclude hdrained h)
  | cancel ticket => exact .inl (waits_of_cancel h)
  | session now signal => exact .inl (hkept.waits_of_session h)

theorem Turn.ticket_of_accepted (h : Turn s s' log es) (hr : .accepted r ∈ es) :
    r.ticket = s.tickets ∧ ∀ x ∈ es, ¬ x.IsHandover := by
  cases h with
  | refuses now o e hledger hlog =>
    rw [hlog] at hr
    simp at hr
  | begins now o out hbegin hledger hlog =>
    rw [hlog] at hr ⊢
    have hsame : r = ⟨out.bytes, o.kind, out.packetId, s.tickets⟩ := by simpa using hr
    refine ⟨by rw [hsame], ?_⟩
    simp [LogEntry.IsHandover]
  | forgets r' haccepted hcarried hledger hforgot hes =>
    rcases hes _ hr with haloof | ⟨e, he⟩
    · exact haloof.elim
    · cases he
  | aside moves hmoves hledger hnoted htold hes =>
    rcases hes _ hr with haloof | ⟨d, hd⟩ | ⟨e, he⟩
    · exact haloof.elim
    · cases hd
    · cases he

theorem Kept.not_accepted (h : Kept s log) (hturn : Turn s s' log es) (hr : .accepted r ∈ log) :
    .accepted r ∉ es := by
  intro hagain
  have hfresh := h.tidy.fresh r.ticket (Nat.le_of_eq (hturn.ticket_of_accepted hagain).1.symm)
  have hmem : .accepted r ∈ story log r.ticket := mem_story.mpr ⟨hr, rfl⟩
  rw [hfresh] at hmem
  cases hmem

/-! ### Requests that leave in time -/

/-- Whether a request does not wait any more whenever a connection is accepted. -/
def LeavesInTime (react : κ → Event → Reaction κ) (r : Request) : Scene κ → List (Act κ) → Prop
  | _, [] => True
  | s, a :: acts => ((∃ p, .told (.connected p) ∈ (s.act react a).2) → ¬ s.Waits r)
    ∧ LeavesInTime react r (s.act react a).1 acts

instance (s : Scene κ) (r : Request) : Decidable (s.Waits r) :=
  inferInstanceAs (Decidable ((∃ x ∈ s.callers, x.request = r ∧ x.stage.place = .called) ∨ _))

instance LeavesInTime.decidable (react : κ → Event → Reaction κ) (r : Request) :
    (s : Scene κ) → (acts : List (Act κ)) → Decidable (LeavesInTime react r s acts)
  | _, [] => .isTrue trivial
  | s, a :: acts =>
    have := LeavesInTime.decidable react r (s.act react a).1 acts
    inferInstanceAs (Decidable (((∃ _ : Bool, _) → ¬ s.Waits r) ∧ _))

theorem leavesInTime_append {front back : List (Act κ)} : LeavesInTime react r s (front ++ back) ↔
    LeavesInTime react r s front ∧ LeavesInTime react r (s.play react front).1 back := by
  induction front generalizing s with
  | nil => exact (and_iff_right trivial).symm
  | cons a front ih =>
    change _ ∧ LeavesInTime react r _ (front ++ back) ↔ (_ ∧ _) ∧ _
    rw [ih, and_assoc]
    rfl

/-- Whether a request has been passed by every connection but the one it was issued on. -/
structure Bides (s : Scene κ) (log : List LogEntry) (r : Request) : Prop where
  past : ∀ front since, log = front ++ .accepted r :: since → (∃ x ∈ since, x.IsHandover) →
    ¬ s.Waits r ∧ s.client.flight ≠ some r
  written : ∀ front since bytes after,
    log = (front ++ .accepted r :: since) ++ .wrote (.request r) bytes :: after →
      ∀ x ∈ since, ¬ x.IsHandover

theorem Bides.act (h : Bides s log r) (hkept : Kept s log) (hdrained : s.client.IsDrained)
    {a : Act κ} (hleaves : (∃ p, .told (.connected p) ∈ (s.act react a).2) → ¬ s.Waits r) :
    Bides (s.act react a).1 (log ++ (s.act react a).2) r := by
  have hturn := hkept.turn react a
  have hpassage := hkept.passage hdrained react a
  have hwaits : (s.act react a).1.Waits r → s.Waits r ∨ .accepted r ∈ (s.act react a).2 :=
    hkept.waits_of_act hdrained a
  generalize s.act react a = after at *
  obtain ⟨s', es⟩ := after
  dsimp only at *
  have hnever : .accepted r ∈ log → ¬ s.Waits r → ¬ s'.Waits r := by
    intro hr hnot hwaits'
    rcases hwaits hwaits' with hwaits' | hagain
    · exact hnot hwaits'
    · exact hkept.not_accepted hturn hr hagain
  constructor
  · intro front since heq ⟨x, hx, hxh⟩
    rcases mem_split_append heq with ⟨since', hlog⟩ | ⟨mid, _, hes⟩
    · have hr : .accepted r ∈ log := by
        rw [hlog]
        exact List.mem_append_right _ List.mem_cons_self
      have hsince : since = since' ++ es := by
        rw [hlog, List.append_assoc, List.append_cancel_left_eq, List.cons_append] at heq
        exact (List.cons.inj heq).2.symm
      rw [hsince] at hx
      rcases List.mem_append.mp hx with hx | hx
      · -- It was passed before, and nothing brings it back.
        obtain ⟨hnot, hother⟩ := h.past front since' hlog ⟨x, hx, hxh⟩
        refine ⟨hnever hr hnot, fun hflight => ?_⟩
        rcases hpassage.of_flight hflight with ⟨hqueue, _⟩ | ⟨hbusy, _⟩
        · exact hnot (.inr hqueue)
        · exact hother hbusy
      · obtain ⟨_, hflight, htold⟩ := hpassage.of_handover hx hxh
        refine ⟨hnever hr (hleaves htold), ?_⟩
        rw [hflight]
        exact nofun
    · have hr : .accepted r ∈ es := by
        rw [hes]
        exact List.mem_append_right _ List.mem_cons_self
      have hmem : x ∈ es := by
        rw [hes]
        exact List.mem_append_right _ (List.mem_cons_of_mem _ hx)
      exact absurd hxh ((hturn.ticket_of_accepted hr).2 x hmem)
  · intro front since bytes after heq x hx hxh
    rcases mem_split_append heq with ⟨after', hlog⟩ | ⟨mid, hbefore, hes⟩
    · exact h.written front since bytes after' hlog x hx hxh
    · obtain ⟨rfl, hbusy⟩ := hpassage.of_wrote hes
      rw [List.append_nil] at hbefore
      exact (h.past front since hbefore.symm ⟨x, hx, hxh⟩).2 hbusy

theorem Bides.play (h : Bides s log r) (hkept : Kept s log) (hdrained : s.client.IsDrained)
    {acts : List (Act κ)} (hleaves : LeavesInTime react r s acts) :
    Bides (s.play react acts).1 (log ++ (s.play react acts).2) r := by
  induction acts generalizing s log with
  | nil =>
    change Bides s (log ++ []) r
    rw [List.append_nil]
    exact h
  | cons a acts ih =>
    obtain ⟨hkept', hdrained'⟩ := hkept.act hdrained react a
    have hplay := ih (h.act hkept hdrained hleaves.1) hkept' hdrained' hleaves.2
    rw [List.append_assoc] at hplay
    exact hplay

theorem Kept.settled_of_not_waits (h : Kept s log) (hr : .accepted r ∈ log) (hnot : ¬ s.Waits r)
    (hidle : s.client.flight = none) : (∃ bytes, .wrote (.request r) bytes ∈ log)
      ∨ (∃ e, .answered r.ticket (.error e) ∈ log) ∨ .cancelled r.ticket ∈ log := by
  have hstory : ∀ {x}, x ∈ story log r.ticket → x ∈ log := fun hx => (mem_story.mp hx).1
  by_cases hticket : r.ticket ∈ ticketsOf s.places
  · obtain ⟨⟨r', place⟩, hmem, hown⟩ := mem_ticketsOf.mp hticket
    obtain rfl := h.eq_of_ticket hr (h.accepted_of_place hmem) hown
    cases place with
    | failed e =>
      have hprogress := (h.tidy.under _ hmem).eq_of_failed
      exact .inr (.inl ⟨e, hstory (by rw [hprogress]; simp)⟩)
    | called =>
      rcases mem_places.mp hmem with ⟨x, hx, hxr, hplace⟩ | ⟨_, hplace⟩ | ⟨_, hplace⟩
      · exact absurd (.inl ⟨x, hx, hxr, hplace⟩) hnot
      · cases hplace
      · cases hplace
    | queued =>
      rcases mem_places.mp hmem with ⟨x, _, _, hplace⟩ | ⟨hqueue, _⟩ | ⟨_, hplace⟩
      · refine absurd ?_ x.stage.not_isPosted
        rw [hplace]
        trivial
      · exact absurd (.inr hqueue) hnot
      · cases hplace
    | inFlight =>
      rcases mem_places.mp hmem with ⟨x, _, _, hplace⟩ | ⟨_, hplace⟩ | ⟨hbusy, _⟩
      · refine absurd ?_ x.stage.not_isPosted
        rw [hplace]
        trivial
      · cases hplace
      · cases hidle.symm.trans hbusy
  · rcases h.tidy.settled r.ticket hticket with hnone | ⟨r', hown, hprogress⟩
    · have hmem : .accepted r ∈ story log r.ticket := mem_story.mpr ⟨hr, rfl⟩
      rw [hnone] at hmem
      cases hmem
    · obtain rfl := hprogress.eq_of_accepted_mem (mem_story.mpr ⟨hr, rfl⟩)
      rcases hprogress.eq_of_settled with hdropped | ⟨e, hfailed⟩ | hwritten
      · -- Its queue was lost: only a caller that gave up goes without an answer.
        rcases h.attended.settled r hr with hmem | ⟨result, hresult⟩ | hcancelled
        · exact absurd hmem hticket
        · have hmem : .answered r.ticket result ∈ story log r.ticket :=
            mem_story.mpr ⟨hresult, rfl⟩
          rw [hdropped] at hmem
          simp at hmem
        · exact .inr (.inr hcancelled)
      · refine .inr (.inl ⟨e, hstory ?_⟩)
        rcases hfailed with hfailed | hfailed | hfailed <;> simp [hfailed]
      · exact .inl ⟨r.packet, hstory (by rw [hwritten]; simp)⟩

theorem boarded_of_new {config : Config} {defaultPort : UInt16} {listener : Option (Listener κ)}
    {c : Client κ} (h : Client.new config defaultPort listener = .ok c) :
    Boarded ({ client := c } : Scene κ) [] := by
  obtain ⟨hkept, _⟩ := kept_of_new h
  refine ⟨fun r hr => ?_, fun before r bytes after heq => ?_⟩
  · have hmem : (r, .inFlight) ∈ ({ client := c } : Scene κ).places :=
      mem_places.mpr (.inr (.inr ⟨hr, rfl⟩))
    have haccepted := hkept.accepted_of_place hmem
    cases haccepted
  · simp at heq

/-- However requests, the session and its connections come between each other, what is written was
taken from the queue on the same connection. A request that does not wait any more whenever another
connection is accepted is written on the connection that was up when it was issued, and so not
after its record was forgotten for another one; or it is answered with an error, or its caller has
given up. What is answered with an error leaves no record, while every id that is handed out is
spared and no PUBREC came too early. -/
theorem requests_stay_aboard (react : κ → Event → Reaction κ) {config : Config}
    {defaultPort : UInt16} {listener : Option (Listener κ)} {c : Client κ}
    (h : Client.new config defaultPort listener = .ok c) (acts : List (Act κ)) :
    let new : Scene κ := { client := c }
    let run := new.play react acts
    (∀ before r bytes after, run.2 = before ++ .wrote (.request r) bytes :: after →
      ∃ front since, before = front ++ .taken r :: since ∧ ∀ x ∈ since, ¬ x.IsHandover)
    ∧ (∀ r, LeavesInTime react r new acts →
      (∀ front since bytes after,
        run.2 = (front ++ .accepted r :: since) ++ .wrote (.request r) bytes :: after →
          ∀ x ∈ since, ¬ x.IsHandover)
      ∧ ∀ front a back, acts = front ++ a :: back → .accepted r ∈ (new.play react front).2 →
        (∃ p, .told (.connected p) ∈ ((new.play react front).1.act react a).2) →
          (∃ bytes, .wrote (.request r) bytes ∈ (new.play react front).2)
            ∨ (∃ e, .answered r.ticket (.error e) ∈ (new.play react front).2)
            ∨ .cancelled r.ticket ∈ (new.play react front).2)
    ∧ (new.TakesSparedIds react acts → ∀ a r e before since,
      .returned r.ticket (.error e) ∈ (run.1.act react a).2 → r.packetId ≠ 0 →
        run.2 = before ++ .accepted r :: since → .noted (.released r.packetId) ∉ since →
          (run.1.act react a).1.client.ledger.IsFree r.packetId) := by
  intro new run
  obtain ⟨hnew, hnewDrained⟩ := kept_of_new h
  obtain ⟨hkept, hdrained⟩ := hnew.play hnewDrained react acts
  have hboarded := (boarded_of_new h).play hnew hnewDrained react acts
  rw [List.nil_append] at hkept hboarded
  refine ⟨hboarded.written, fun r hleaves => ⟨?_, ?_⟩, ?_⟩
  · have hbides : Bides new [] r := ⟨by simp, by simp⟩
    have hplay := hbides.play hnew hnewDrained hleaves
    rw [List.nil_append] at hplay
    exact hplay.written
  · intro front a back hacts hr htold
    obtain ⟨hfront, hfrontDrained⟩ := hnew.play hnewDrained react front
    rw [List.nil_append] at hfront
    rw [hacts, leavesInTime_append] at hleaves
    obtain ⟨p, hp⟩ := htold
    obtain ⟨hidle, _⟩ := (hfront.passage hfrontDrained react a).of_handover hp trivial
    exact hfront.settled_of_not_waits hr (hleaves.2.1 ⟨p, hp⟩) hidle
  · intro hids a r e before since hreturned hid hlog hreleased
    obtain ⟨howned, _⟩ := (owned_of_new h).play hnew hnewDrained hids
    rw [List.nil_append] at howned
    exact howned.isFree hkept (hkept.turn react a) hlog hid hreleased hreturned

/-- A message is written, and its connection is lost only after that. -/
theorem requests_stay_aboard_of_publish :
    let config := ({ host := "h", reconnectDelay := 0 } : Settings).toConfig "c"
    let r : Request := ⟨[0x32, 6, 0, 1, 97, 0, 1, 98], .publish, 1, 0⟩
    let front : List (Act Unit) := Act.connecting ++
      [.call 0 (.publish "a" [98] .atLeastOnce false), .reach 0, .offer 0, .session 0 .request,
        .session 0 (.written (.ok ())), .session 0 .run, .session 0 .run,
        .session 0 (.read (.ok [0xC0, 0])), .session 0 .run, .session 0 .run]
        ++ Act.reconnecting.dropLast.dropLast.dropLast
    ∃ c, Client.new config 1883 none = .ok c ∧
      let new : Scene Unit := { client := c }
      let past := new.play (fun _ _ => {}) front
      LeavesInTime (fun _ _ => {}) r new (front ++ [.session 0 .run])
        ∧ .told (.connected false) ∈ (past.1.act (fun _ _ => {}) (.session 0 .run)).2
        ∧ ((∃ bytes, .wrote (.request r) bytes ∈ past.2)
          ∨ (∃ e, .answered r.ticket (.error e) ∈ past.2) ∨ .cancelled r.ticket ∈ past.2) := by
  intro config r front
  have hnew : Client.new (κ := Unit) config 1883 none = .ok _ := rfl
  refine ⟨_, hnew, ?_⟩
  intro new past
  have hleaves : LeavesInTime (fun _ _ => {}) r new (front ++ [.session 0 .run]) := by
    subst new front config r
    decide +kernel
  have hpast : .accepted r ∈ past.2
      ∧ .told (.connected false) ∈ (past.1.act (fun _ _ => {}) (.session 0 .run)).2 := by
    subst past new front config r
    decide +kernel
  obtain ⟨_, hstay, _⟩ := requests_stay_aboard (fun _ _ => {}) hnew (front ++ [.session 0 .run])
  exact ⟨hleaves, hpast.2, (hstay r hleaves).2 front _ [] rfl hpast.1 ⟨false, hpast.2⟩⟩

/-- With no pause before the next attempt, a request that waits behind a write that fails is
written on the next connection, though its record is forgotten by then. -/
theorem request_changes_connection :
    let config := ({ host := "h", reconnectDelay := 0 } : Settings).toConfig "c"
    let r : Request := ⟨[0x32, 6, 0, 1, 97, 0, 1, 98], .publish, 1, 0⟩
    let acts : List (Act Unit) := Act.connecting ++
      [.session 0 (.read (.ok [0xC0, 0])), .session 0 .run, .session 0 .run,
        .call 0 (.publish "a" [98] .atLeastOnce false), .reach 0, .offer 0] ++ Act.reconnecting
        ++ [.session 0 .request, .session 0 (.written (.ok ()))]
    ∃ c, Client.new config 1883 none = .ok c ∧
      let run := ({ client := c } : Scene Unit).play (fun _ _ => {}) acts
      run.1.client.ledger.tracked = []
        ∧ ∃ front since after, run.2 = (front ++ .accepted r :: since)
            ++ .wrote (.request r) r.packet :: after
          ∧ .noted .cleared ∈ since ∧ .told (.connected false) ∈ since := by
  intro config r acts
  have hnew : Client.new (κ := Unit) config 1883 none = .ok _ := rfl
  refine ⟨_, hnew, ?_⟩
  intro run
  let since : List LogEntry := [.noted (.issued .publish .atLeastOnce 1), .queued r,
    .told (.disconnected .streamWriteFailure),
    .wrote .greeting [0x10, 13, 0, 4, 77, 81, 84, 84, 4, 2, 0, 120, 0, 1, 99], .noted .cleared,
    .told (.connected false), .taken r]
  have hrun : run.1.client.ledger.tracked = [] ∧ run.2.drop 5 = .accepted r ::
      (since ++ .wrote (.request r) r.packet :: [.answered 0 (.ok ())]) := by
    subst run acts config r since
    decide +kernel
  refine ⟨hrun.1, run.2.take 5, since, [.answered 0 (.ok ())], ?_, ?_⟩
  · rw [List.append_assoc, List.cons_append, ← hrun.2, List.take_append_drop]
  · simp [since]

end Scene
end Mqtt
