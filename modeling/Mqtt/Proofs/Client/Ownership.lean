import Mqtt.Proofs.Client.Turns
import Mqtt.Proofs.Ledger.Fates

/-!
Whose record is whose. While no packet id is handed out that something under way still carries, the
record of an operation that may still fail is its own, and no failure takes another record away.
-/

namespace Mqtt
set_option autoImplicit false

namespace Scene

variable {κ : Type} {react : κ → Event → Reaction κ} {s s' : Scene κ} {log es : List LogEntry}
  {r : Request}

/-! ### What may still fail -/

theorem Carries.of_caller {x : Caller} (h : x ∈ s.callers) : s.Carries x.request := .inl ⟨x, h, rfl⟩

theorem Carries.of_queue (h : r ∈ s.client.queue) : s.Carries r := .inr (.inl h)

theorem Carries.of_flight (h : s.client.flight = some r) : s.Carries r := .inr (.inr (.inl h))

theorem Carries.of_call {answer : Option (Except Error Unit)} (hanswer : answer ≠ some (.ok ()))
    (h : ⟨r.ticket, .operation r.kind r.packetId answer⟩ ∈ s.client.calls) : s.Carries r :=
  .inr (.inr (.inr ⟨answer, hanswer, h⟩))

theorem Carries.back (h : s'.Carries r)
    (hcallers : ∀ x ∈ s'.callers, ∃ y ∈ s.callers, y.request = x.request)
    (hqueue : ∀ r ∈ s'.client.queue, s.Carries r)
    (hflight : ∀ r, s'.client.flight = some r → s.Carries r)
    (hcalls : ∀ ticket kind packetId answer, answer ≠ some (.ok ()) →
      ⟨ticket, .operation kind packetId answer⟩ ∈ s'.client.calls →
      ∃ answer', answer' ≠ some (.ok ())
        ∧ ⟨ticket, .operation kind packetId answer'⟩ ∈ s.client.calls) : s.Carries r := by
  rcases h with ⟨x, hx, hxr⟩ | hmem | hbusy | ⟨answer, hanswer, hmem⟩
  · obtain ⟨y, hy, hyx⟩ := hcallers x hx
    rw [← hxr, ← hyx]
    exact .of_caller hy
  · exact hqueue r hmem
  · exact hflight r hbusy
  · obtain ⟨answer', hanswer', hmem'⟩ := hcalls _ _ _ _ hanswer hmem
    exact .of_call hanswer' hmem'

theorem Carries.of_rests (h : s'.Carries r)
    (hcallers : ∀ x ∈ s'.callers, ∃ y ∈ s.callers, y.request = x.request)
    (hrests : s.client.Rests s'.client)
    (hcalls : ∀ ticket kind packetId answer, ⟨ticket, .operation kind packetId answer⟩ ∈
      s'.client.calls → ⟨ticket, .operation kind packetId answer⟩ ∈ s.client.calls) :
    s.Carries r := by
  refine h.back hcallers ?_ ?_ fun _ _ _ answer hanswer hmem =>
    ⟨answer, hanswer, hcalls _ _ _ _ hmem⟩
  · rw [hrests.queue]
    exact fun _ => .of_queue
  · rw [hrests.flight]
    exact fun _ => .of_flight

/-- A call that was not answered with success just now was not before. -/
theorem call_of_map {calls : List Call} {p : Nat → Bool} {result : Except Error Unit} {ticket : Nat}
    {kind : PacketType} {packetId : UInt16} {answer : Option (Except Error Unit)}
    (hanswer : answer ≠ some (.ok ()))
    (h : ⟨ticket, .operation kind packetId answer⟩ ∈
      calls.map fun x => if p x.ticket then x.answered result else x) :
    ∃ answer', answer' ≠ some (.ok ()) ∧ ⟨ticket, .operation kind packetId answer'⟩ ∈ calls := by
  obtain ⟨⟨own, goal⟩, hmem, hx⟩ := List.mem_map.mp h
  cases hp : p own with
  | false =>
    rw [hp, if_neg Bool.false_ne_true] at hx
    rw [hx] at hmem
    exact ⟨answer, hanswer, hmem⟩
  | true =>
    rw [hp, if_pos rfl] at hx
    cases goal with
    | stop => cases hx
    | operation kind' packetId' answer' =>
      cases answer' with
      | none =>
        cases hx
        exact ⟨none, nofun, hmem⟩
      | some result' =>
        cases hx
        exact ⟨_, hanswer, hmem⟩

theorem mem_others {ticket : Nat} {x : Caller} (h : x ∈ s.others ticket) : x ∈ s.callers :=
  List.eraseP_sublist.subset h

theorem carries_put {stage stage' : Stage} {ticket : Nat}
    (hcaller : s.caller? ticket = some ⟨r, stage⟩) :
    ∀ x ∈ (s.put r stage').callers, ∃ y ∈ s.callers, y.request = x.request := by
  intro x hx
  rcases List.mem_cons.mp hx with hx | hx
  · exact ⟨⟨r, stage⟩, List.mem_of_find?_eq_some hcaller, by rw [hx]⟩
  · exact ⟨x, mem_others hx, rfl⟩

theorem carries_of_start (h : s.start.1.Carries r) : s.Carries r := by
  unfold Scene.start at h
  rcases s.client.start_cases with ⟨e, hstart⟩ | ⟨_, client, hstart, htask, hcalls, _⟩
  · rw [hstart] at h
    exact h
  · rw [hstart] at h
    refine h.back (fun x hx => ⟨x, hx, rfl⟩) ?_ ?_ ?_
    · simp [Client.queue, htask]
    · intro r hflight
      simp only [Client.flight, htask] at hflight
      cases hflight
    · intro ticket kind packetId answer hanswer hmem
      dsimp only at hmem
      rw [hcalls] at hmem
      exact ⟨answer, hanswer, hmem⟩

theorem carries_of_call {now : Nat} {o : Operation} (h : (s.call now o).1.Carries r) :
    s.Carries r ∨ .accepted r ∈ (s.call now o).2 := by
  unfold Scene.call at h ⊢
  dsimp only at h ⊢
  split
  · rename_i hcheck
    rw [hcheck] at h
    exact .inl h
  · rename_i hcheck
    rw [hcheck] at h
    split
    · rename_i hbegin
      rw [hbegin] at h
      exact .inl h
    · rename_i hbegin
      rw [hbegin] at h
      rcases h with ⟨x, hx, hxr⟩ | hrest
      · rcases List.mem_cons.mp hx with hx | hx
        · rw [← hxr, hx]
          exact .inr (List.mem_cons_of_mem _ List.mem_cons_self)
        · rw [← hxr]
          exact .inl (.of_caller hx)
      · exact .inl (.inr hrest)

theorem carries_of_reach {ticket : Nat} (h : (s.reach ticket).1.Carries r) : s.Carries r := by
  unfold Scene.reach at h
  split at h
  · rename_i hcaller
    split at h
    · exact h.of_rests (carries_put hcaller) (.of_task rfl rfl) fun _ _ _ _ hmem => hmem
    · exact h.of_rests (carries_put hcaller) (.of_task rfl rfl) fun _ _ _ _ hmem => hmem
  · exact h

theorem carries_of_giveUp {ticket : Nat} (h : (s.giveUp ticket).1.Carries r) : s.Carries r := by
  unfold Scene.giveUp at h
  split at h
  · exact h.of_rests (fun x hx => ⟨x, mem_others hx, rfl⟩) (.of_task rfl rfl)
      fun _ _ _ _ hmem => hmem
  · exact h

theorem Kept.carries_of_offer (hkept : Kept s log) (hr : .accepted r ∈ log) {ticket : Nat}
    (h : (s.offer ticket).1.Carries r) : s.Carries r := by
  unfold Scene.offer at h
  split at h
  · rename_i r' session hcaller
    have hown : s.Carries r' := .of_caller (List.mem_of_find?_eq_some hcaller)
    split at h
    · rename_i client hoffer
      split at hoffer
      · rcases s.client.offer_cases r' with ⟨e, he⟩ | ⟨t, ht, hover, hok⟩
        · cases he.symm.trans hoffer
        · cases hok.symm.trans hoffer
          rcases h with ⟨x, hx, hxr⟩ | hqueue | hflight | ⟨answer, hanswer, hmem⟩
          · rw [← hxr]
            exact .of_caller (mem_others hx)
          · rcases List.mem_append.mp hqueue with hqueue | hqueue
            · exact .of_queue (by simpa [Client.queue, ht] using hqueue)
            · rw [List.mem_singleton.mp hqueue]
              exact hown
          · exact .of_flight (by simpa [Client.flight, ht] using hflight)
          · rcases List.mem_append.mp hmem with hmem | hmem
            · exact .of_call hanswer hmem
            · have hticket : r.ticket = r'.ticket := by
                have hcall := List.mem_singleton.mp hmem
                exact congrArg Call.ticket hcall
              have haccepted := hkept.accepted_of_place
                ((places_of_caller hcaller).mem_iff.mpr List.mem_cons_self)
              rw [hkept.eq_of_ticket haccepted hr hticket]
              exact hown
      · cases hoffer
    · rename_i client e hoffer
      have hclient : client = s.client := by
        split at hoffer
        · rcases s.client.offer_cases r' with ⟨e, he⟩ | ⟨t, _, _, hok⟩
          · cases he.symm.trans hoffer
            rfl
          · cases hok.symm.trans hoffer
        · cases hoffer
          rfl
      rw [hclient] at h
      exact h.of_rests (carries_put hcaller) (.of_task rfl rfl) fun _ _ _ _ hmem => hmem
  · exact h

theorem carries_of_conclude (hdrained : s.client.IsDrained) {ticket : Nat}
    (h : (s.conclude ticket).1.Carries r) : s.Carries r := by
  unfold Scene.conclude at h
  split at h
  · split at h
    · rename_i hready
      obtain ⟨hrests, hcalls⟩ := Client.rests_conclude hdrained hready
      refine h.of_rests (fun x hx => ⟨x, hx, rfl⟩) hrests fun ticket kind packetId answer hmem => ?_
      dsimp only at hmem
      rw [hcalls] at hmem
      exact List.mem_of_mem_filter hmem
    · exact h
  · exact h

theorem carries_of_cancel {ticket : Nat} (h : (s.cancel ticket).1.Carries r) : s.Carries r := by
  unfold Scene.cancel at h
  split at h
  · exact h.of_rests (fun x hx => ⟨x, hx, rfl⟩) (.of_task rfl rfl)
      fun _ _ _ _ hmem => List.mem_of_mem_filter hmem
  · exact h

theorem call_of_answer {c : Client κ} {own : Nat} {result : Except Error Unit} {ticket : Nat}
    {kind : PacketType} {packetId : UInt16} {answer : Option (Except Error Unit)}
    (hanswer : answer ≠ some (.ok ()))
    (h : ⟨ticket, .operation kind packetId answer⟩ ∈ (c.answer own result).calls) :
    ∃ answer', answer' ≠ some (.ok ()) ∧ ⟨ticket, .operation kind packetId answer'⟩ ∈ c.calls := by
  rw [Call.calls_answer] at h
  exact call_of_map (p := fun t => decide (t = own)) hanswer h

/-- A step of the session brings no request of its own. -/
theorem Proceeds.carries (hproceeds : Proceeds s s' es) (hcallers : s'.callers = s.callers)
    (h : s'.Carries r) : s.Carries r := by
  have hsame : ∀ x ∈ s'.callers, ∃ y ∈ s.callers, y.request = x.request := by
    rw [hcallers]
    exact fun x hx => ⟨x, hx, rfl⟩
  cases hproceeds with
  | takes r₀ hqueue hidle hflight hcalls hledger hlog =>
    refine h.back hsame ?_ ?_ ?_
    · exact fun r hr => .of_queue (by rw [hqueue]; exact List.mem_cons_of_mem _ hr)
    · intro r hr
      cases hflight.symm.trans hr
      exact .of_queue (by rw [hqueue]; exact List.mem_cons_self)
    · rw [hcalls]
      exact fun _ _ _ answer hanswer hmem => ⟨answer, hanswer, hmem⟩
  | rejects r₀ e hqueue hidle hflight hcalls hledger hlog =>
    refine h.back hsame ?_ ?_ ?_
    · exact fun r hr => .of_queue (by rw [hqueue]; exact List.mem_cons_of_mem _ hr)
    · exact fun r hr => by cases hflight.symm.trans hr
    · rw [hcalls]
      exact fun _ _ _ _ => call_of_answer
  | writes r₀ hqueue hbusy hflight hcalls hledger hlog =>
    refine h.back hsame (fun r hr => .of_queue (by rw [hqueue]; exact hr)) ?_ ?_
    · exact fun r hr => by cases hflight.symm.trans hr
    · rw [hcalls]
      exact fun _ _ _ _ => call_of_answer
  | breaks r₀ e hqueue hbusy hflight hcalls hledger hlog =>
    refine h.back hsame (fun r hr => .of_queue (by rw [hqueue]; exact hr)) ?_ ?_
    · exact fun r hr => by cases hflight.symm.trans hr
    · rw [hcalls]
      exact fun _ _ _ _ => call_of_answer
  | aside moves written told hqueue hidle hflight hcalls hledger hmoves htold hwritten hlog =>
    refine h.back hsame (fun r hr => .of_queue (by rw [hqueue]; exact hr)) ?_ ?_
    · exact fun r hr => by cases hflight.symm.trans hr
    · rw [hcalls]
      exact fun _ _ _ answer hanswer hmem => ⟨answer, hanswer, hmem⟩

theorem carries_of_settle (h : s.settle.1.Carries r) : s.Carries r := by
  unfold settle at h
  split at h
  · refine h.back (fun x hx => ⟨x, hx, rfl⟩) ?_ ?_ ?_
    · change ∀ r ∈ s.client.closeQueue.queue, s.Carries r
      rw [Client.queue_closeQueue]
      exact List.forall_mem_nil _
    · exact fun r hflight => .of_flight ((Client.flight_closeQueue s.client).symm.trans hflight)
    · intro ticket kind packetId answer hanswer hmem
      change _ ∈ s.client.closeQueue.calls at hmem
      rw [Call.calls_closeQueue] at hmem
      exact call_of_map (p := fun _ => true) hanswer hmem
  · exact h

theorem Kept.carries_of_session (hkept : Kept s log) {now : Nat} {signal : Client.Signal}
    (h : (s.session react now signal).1.Carries r) : s.Carries r := by
  unfold Scene.session at h
  split at h
  · exact h
  · split at h
    · rename_i t m hmoment
      exact (proceeds react hmoment hkept.writes).1.carries rfl (carries_of_settle h)
    · exact h

/-- What may still fail after an act might have failed before, or is issued by the act. -/
theorem Kept.carries_of_act (hkept : Kept s log) (hdrained : s.client.IsDrained)
    (hr : .accepted r ∈ log) (a : Act κ) (h : (s.act react a).1.Carries r) :
    s.Carries r ∨ .accepted r ∈ (s.act react a).2 := by
  cases a with
  | start => exact .inl (carries_of_start h)
  | stop =>
    obtain ⟨hrests, hcalls⟩ := Client.rests_stop hdrained s.tickets
    refine .inl (Carries.of_rests h (fun x hx => ⟨x, hx, rfl⟩) hrests ?_)
    intro ticket kind packetId answer hmem
    change _ ∈ (s.client.stop s.tickets).1.calls at hmem
    rcases hcalls with hcalls | hcalls
    · rw [hcalls] at hmem
      exact hmem
    · rw [hcalls] at hmem
      rcases List.mem_append.mp hmem with hmem | hmem
      · exact hmem
      · cases List.mem_singleton.mp hmem
  | release =>
    refine .inl (Carries.of_rests h (fun x hx => ⟨x, hx, rfl⟩) (Client.rests_release s.client) ?_)
    intro ticket kind packetId answer hmem
    change _ ∈ s.client.release.calls at hmem
    rw [Client.calls_release] at hmem
    exact hmem
  | listen listeners mailboxes nextListener =>
    exact .inl (Carries.of_rests h (fun x hx => ⟨x, hx, rfl⟩) (.of_task rfl rfl)
      fun _ _ _ _ hmem => hmem)
  | call now o => exact carries_of_call h
  | reach ticket => exact .inl (carries_of_reach h)
  | offer ticket => exact .inl (hkept.carries_of_offer hr h)
  | giveUp ticket => exact .inl (carries_of_giveUp h)
  | conclude ticket => exact .inl (carries_of_conclude hdrained h)
  | cancel ticket => exact .inl (carries_of_cancel h)
  | session now signal => exact .inl (hkept.carries_of_session h)

end Scene

theorem mem_noted?_iff {log : List LogEntry} {d : Ledger.Deed} :
    d ∈ log.filterMap LogEntry.noted? ↔ .noted d ∈ log := by
  rw [List.mem_filterMap]
  constructor
  · intro ⟨x, hx, hxd⟩
    cases x <;> cases hxd
    exact hx
  · exact fun hmem => ⟨_, hmem, rfl⟩

/-! ### Whose record it is -/

/-- Whether an operation is the last that was issued under its id, and what was noted since. -/
structure Owns (log : List LogEntry) (r : Request) (since : List LogEntry) : Prop where
  issued : ∃ before, log = before ++ .accepted r :: since
  last : ∀ r', .accepted r' ∈ since → r'.packetId ≠ r.packetId

namespace Owns

variable {log es since : List LogEntry} {r : Request}

theorem append (h : Owns log r since) (hes : ∀ r', .accepted r' ∈ es → r'.packetId ≠ r.packetId) :
    Owns (log ++ es) r (since ++ es) := by
  obtain ⟨before, hlog⟩ := h.issued
  refine ⟨⟨before, by rw [hlog, List.append_assoc, List.cons_append]⟩, fun r' hr' => ?_⟩
  rcases List.mem_append.mp hr' with hr' | hr'
  · exact h.last r' hr'
  · exact hes r' hr'

/-- Nothing that was issued later under the id is lost by looking back. -/
theorem of_append (h : Owns (log ++ es) r since)
    (hes : ∀ r', .accepted r' ∈ es → r'.packetId ≠ r.packetId) : ∃ since', Owns log r since' := by
  obtain ⟨before, hlog⟩ := h.issued
  rcases List.append_eq_append_iff.mp hlog with ⟨more, _, hes'⟩ | ⟨more, hlog', hsince⟩
  · have hr : .accepted r ∈ es := by
      rw [hes']
      exact List.mem_append_right _ List.mem_cons_self
    exact absurd rfl (hes r hr)
  · cases more with
    | nil =>
      have hr : .accepted r ∈ es := by
        rw [List.nil_append] at hsince
        rw [← hsince]
        exact List.mem_cons_self
      exact absurd rfl (hes r hr)
    | cons x more =>
      obtain ⟨hx, hsince⟩ := List.cons.inj hsince
      rw [← hx] at hlog'
      refine ⟨more, ⟨before, hlog'⟩, fun r' hr' => h.last r' ?_⟩
      rw [hsince]
      exact List.mem_append_left es hr'

/-- What was noted since is part of what was noted since the operation was issued. -/
theorem subset (h : Owns log r since) {before since' : List LogEntry}
    (hlog : log = before ++ .accepted r :: since') : since ⊆ since' := by
  obtain ⟨before', hlog'⟩ := h.issued
  rw [hlog'] at hlog
  rcases List.append_eq_append_iff.mp hlog with ⟨more, _, hmore⟩ | ⟨more, _, hmore⟩
  · cases more with
    | nil =>
      rw [(List.cons.inj hmore).2]
      exact List.Subset.refl _
    | cons x more =>
      -- The operation was issued twice, once after it was issued last.
      have hr : .accepted r ∈ since := by
        rw [(List.cons.inj hmore).2]
        exact List.mem_append_right _ List.mem_cons_self
      exact absurd rfl (h.last r hr)
  · cases more with
    | nil =>
      rw [(List.cons.inj hmore).2]
      exact List.Subset.refl _
    | cons x more =>
      rw [(List.cons.inj hmore).2]
      exact List.Subset.trans (List.subset_cons_self _ _) (List.subset_append_right _ _)

end Owns

namespace Scene

variable {κ : Type} {react : κ → Event → Reaction κ} {s s' : Scene κ} {log es : List LogEntry}
  {r : Request}

/-- Whether an id is that of no operation that waits, and of nothing that may still fail. -/
structure Spares (s : Scene κ) (packetId : UInt16) : Prop where
  free : s.client.ledger.IsFree packetId
  unused : ∀ r, s.Carries r → r.packetId ≠ packetId

/-- Whether the id that an act hands out, if it does, is spared. -/
def TakesSparedId (react : κ → Event → Reaction κ) (s : Scene κ) (a : Act κ) : Prop :=
  ∀ r, .accepted r ∈ (s.act react a).2 → r.packetId ≠ 0 → s.Spares r.packetId

/-- Whether every id that acts hand out is spared. -/
def TakesSparedIds (react : κ → Event → Reaction κ) : Scene κ → List (Act κ) → Prop
  | _, [] => True
  | s, a :: acts => s.TakesSparedId react a ∧ TakesSparedIds react (s.act react a).1 acts

/-- What the records have to do with what may still fail. -/
structure Owned (s : Scene κ) (log : List LogEntry) : Prop where
  distinct : s.client.ledger.Distinct
  numbered : ∀ t ∈ s.client.ledger.tracked, t.packetId ≠ 0
  owner : ∀ r, .accepted r ∈ log → s.Carries r → r.packetId ≠ 0 → ∃ since, Owns log r since
    ∧ ∀ t ∈ s.client.ledger.tracked, t.packetId = r.packetId →
      t.kind = r.kind ∨ .noted (.released r.packetId) ∈ since

/-- An act that issues an operation, and does nothing else. -/
structure Begins (s s' : Scene κ) (es : List LogEntry) (now : Nat) (o : Operation)
    (out : Outgoing) : Prop where
  begin : (s.client.ledger.begin now o).2 = .ok out
  ledger : s'.client.ledger = (s.client.ledger.begin now o).1
  log : es = [.called s.tickets now o, .accepted ⟨out.bytes, o.kind, out.packetId, s.tickets⟩,
    .noted (.issued o.kind o.qos out.packetId)]

/-- An act that issues no operation, and changes records only as the session does. -/
structure Lessens (s s' : Scene κ) (es : List LogEntry) : Prop where
  issues : ∀ r, .accepted r ∉ es
  encoder : s'.client.ledger.encoder = s.client.ledger.encoder
  distinct : s'.client.ledger.Distinct
  origin : ∀ t' ∈ s'.client.ledger.tracked, ∃ t ∈ s.client.ledger.tracked,
    t'.packetId = t.packetId ∧ (t'.kind = t.kind ∨ .noted (.released t.packetId) ∈ es)

section Begins

variable {now : Nat} {o : Operation} {out : Outgoing}

theorem Begins.accepted_iff (h : s.Begins s' es now o out) :
    .accepted r ∈ es ↔ r = ⟨out.bytes, o.kind, out.packetId, s.tickets⟩ := by
  simp [h.log]

theorem Begins.mem_tracked (h : s.Begins s' es now o out) (hd : s.client.ledger.Distinct)
    {t : Tracked} (ht : t ∈ s'.client.ledger.tracked) :
    t ∈ s.client.ledger.tracked ∨ t = Ledger.issued now o out ∧ out.packetId ≠ 0 := by
  rw [h.ledger] at ht
  by_cases ho : o.IsTracked
  · rw [Ledger.tracked_begin hd ho h.begin, List.mem_append, List.mem_singleton] at ht
    exact ht.imp_right fun hnew => ⟨hnew, (Ledger.packetId_of_begin h.begin).mpr ho⟩
  · rw [Ledger.begin_of_not_tracked ho] at ht
    exact .inl ht

end Begins

theorem Lessens.accepted (h : s.Lessens s' es) (hr : .accepted r ∈ log ++ es) :
    .accepted r ∈ log := by
  rcases List.mem_append.mp hr with hr | hr
  · exact hr
  · exact absurd hr (h.issues r)

theorem Turn.begins_or_lessens (h : Turn s s' log es) (hd : s.client.ledger.Distinct) :
    (∃ now o out, s.Begins s' es now o out) ∨ s.Lessens s' es := by
  cases h with
  | refuses now o e hledger hlog =>
    refine .inr ⟨by simp [hlog], by rw [hledger], by rw [hledger]; exact hd, ?_⟩
    rw [hledger]
    exact fun t ht => ⟨t, ht, rfl, .inl rfl⟩
  | begins now o out hbegin hledger hlog => exact .inl ⟨now, o, out, hbegin, hledger, hlog⟩
  | forgets r haccepted hcarried hledger hforgot hes =>
    have hsub := Ledger.tracked_forget_sublist hd r.kind r.packetId
    refine .inr ⟨fun r' hr' => ?_, ?_, ?_, ?_⟩
    · rcases hes _ hr' with haloof | ⟨e, he⟩
      · exact haloof
      · cases he
    · rw [hledger]
      exact Ledger.encoder_forget _ _
    · rw [hledger]
      exact hd.of_sublist hsub
    · rw [hledger]
      exact fun t ht => ⟨t, hsub.subset ht, rfl, .inl rfl⟩
  | aside moves hmoves hledger hnoted htold hes =>
    refine .inr ⟨fun r hr => ?_, ?_, ?_, ?_⟩
    · rcases hes _ hr with haloof | ⟨d, hd⟩ | ⟨e, he⟩
      · exact haloof
      · cases hd
      · cases he
    · rw [hledger]
      exact Ledger.encoder_moveAll hmoves
    · rw [hledger]
      exact Ledger.distinct_moveAll hd hmoves
    · rw [hledger]
      intro t' ht'
      obtain ⟨t, ht, hcontinues, hkind⟩ := Ledger.origin_of_moveAll hd hmoves ht'
      refine ⟨t, ht, hcontinues.packetId, hkind.imp_right fun hreleased => ?_⟩
      rw [← hnoted] at hreleased
      exact mem_noted?_iff.mp hreleased

theorem Owned.lessen (h : Owned s log) (hlessens : s.Lessens s' es)
    (hcarries : ∀ r, .accepted r ∈ log → s'.Carries r → s.Carries r) : Owned s' (log ++ es) where
  distinct := hlessens.distinct
  numbered t' ht' := by
    obtain ⟨t, ht, hid, _⟩ := hlessens.origin t' ht'
    rw [hid]
    exact h.numbered t ht
  owner r hr hcarried hid := by
    have hr' := hlessens.accepted hr
    obtain ⟨since, howns, hkinds⟩ := h.owner r hr' (hcarries r hr' hcarried) hid
    refine ⟨since ++ es, howns.append fun r' hr' => absurd hr' (hlessens.issues r'),
      fun t' ht' ht'r => ?_⟩
    -- The record was one of the same operation, or has just been released.
    obtain ⟨t, ht, hsame, hkind⟩ := hlessens.origin t' ht'
    have htr : t.packetId = r.packetId := hsame.symm.trans ht'r
    rcases hkind with hkind | hreleased
    · rcases hkinds t ht htr with hkind' | hreleased
      · exact .inl (hkind.trans hkind')
      · exact .inr (List.mem_append_left _ hreleased)
    · rw [htr] at hreleased
      exact .inr (List.mem_append_right _ hreleased)

/-- An operation is issued under an id that is spared. -/
theorem Owned.begin (h : Owned s log) {now : Nat} {o : Operation} {out : Outgoing}
    (hbegins : s.Begins s' es now o out)
    (hcarries : ∀ r, .accepted r ∈ log → s'.Carries r → s.Carries r ∨ .accepted r ∈ es)
    (hspares : out.packetId ≠ 0 → s.Spares out.packetId) : Owned s' (log ++ es) := by
  refine ⟨?_, ?_, ?_⟩
  · rw [hbegins.ledger]
    refine h.distinct.move (m := .begin now o) fun ho out' hout' => ?_
    cases hbegins.begin.symm.trans hout'
    exact (hspares ((Ledger.packetId_of_begin hbegins.begin).mpr ho)).free
  · intro t ht
    rcases hbegins.mem_tracked h.distinct ht with ht | ⟨ht, hid⟩
    · exact h.numbered t ht
    · rw [ht]
      exact hid
  · intro r hr hcarried hid
    by_cases hissued : .accepted r ∈ es
    · -- The new operation has the only record under its id.
      rw [hbegins.accepted_iff.mp hissued] at hid ⊢
      refine ⟨[.noted (.issued o.kind o.qos out.packetId)],
        ⟨⟨log ++ [.called s.tickets now o], by simp [hbegins.log]⟩, by simp⟩,
        fun t ht htid => ?_⟩
      rcases hbegins.mem_tracked h.distinct ht with ht | ⟨ht, _⟩
      · exact absurd htid ((hspares hid).free t ht)
      · rw [ht]
        exact .inl rfl
    · have hr' : .accepted r ∈ log := by
        rcases List.mem_append.mp hr with hr | hr
        · exact hr
        · exact absurd hr hissued
      have hcarried' := (hcarries r hr' hcarried).resolve_right hissued
      have hother : out.packetId ≠ r.packetId := by
        intro heq
        have hspared := hspares (by rw [heq]; exact hid)
        exact hspared.unused r hcarried' heq.symm
      obtain ⟨since, howns, hkinds⟩ := h.owner r hr' hcarried' hid
      refine ⟨since ++ es, howns.append fun r' hr' => ?_, fun t ht htid => ?_⟩
      · rw [hbegins.accepted_iff.mp hr']
        exact hother
      · rcases hbegins.mem_tracked h.distinct ht with ht | ⟨ht, _⟩
        · exact (hkinds t ht htid).imp_right fun hreleased => List.mem_append_left _ hreleased
        · rw [ht] at htid
          exact absurd htid hother

theorem Owned.turn (h : Owned s log) (hturn : Turn s s' log es)
    (hcarries : ∀ r, .accepted r ∈ log → s'.Carries r → s.Carries r ∨ .accepted r ∈ es)
    (hspares : ∀ r, .accepted r ∈ es → r.packetId ≠ 0 → s.Spares r.packetId) :
    Owned s' (log ++ es) := by
  rcases hturn.begins_or_lessens h.distinct with ⟨now, o, out, hbegins⟩ | hlessens
  · exact h.begin hbegins hcarries (hspares _ (hbegins.accepted_iff.mpr rfl))
  · refine h.lessen hlessens fun r hr hcarried => ?_
    exact (hcarries r hr hcarried).resolve_right (hlessens.issues r)

/-- Whether the log tells why a record is gone: its operation was acknowledged, evicted, or
forgotten with all others, or the call that it belongs to has failed. -/
def IsGone (log es : List LogEntry) (t : Tracked) : Prop :=
  t.IsSettledBy (es.filterMap LogEntry.noted?)
    ∨ ∃ r since, Owns log r since ∧ r.packetId = t.packetId ∧ .forgot r.ticket ∈ es

theorem IsGone.mono {more : List LogEntry} {t : Tracked} (h : IsGone log es t) :
    IsGone log (es ++ more) t := by
  rcases h with hsettled | ⟨r, since, howns, hid, hforgot⟩
  · refine .inl (hsettled.mono ?_)
    rw [List.filterMap_append]
    exact List.subset_append_left _ _
  · exact .inr ⟨r, since, howns, hid, List.mem_append_left _ hforgot⟩

theorem Owned.survives (h : Owned s log) (hturn : Turn s s' log es) {t : Tracked}
    (ht : t ∈ s.client.ledger.tracked) :
    (∃ t' ∈ s'.client.ledger.tracked, t'.Continues t) ∨ IsGone log es t := by
  cases hturn with
  | refuses now o e hledger hlog =>
    rw [hledger]
    exact .inl ⟨t, ht, .refl t⟩
  | begins now o out hbegin hledger hlog =>
    rw [hledger]
    by_cases ho : o.IsTracked
    · rw [Ledger.tracked_begin h.distinct ho hbegin]
      exact .inl ⟨t, List.mem_append_left _ ht, .refl t⟩
    · rw [Ledger.begin_of_not_tracked ho]
      exact .inl ⟨t, ht, .refl t⟩
  | forgets r haccepted hcarried hledger hforgot hes =>
    -- A record under the same id is that of the operation that failed.
    by_cases hid : t.packetId = r.packetId
    · have hnumbered : r.packetId ≠ 0 := by
        rw [← hid]
        exact h.numbered t ht
      obtain ⟨since, howns, _⟩ := h.owner r haccepted hcarried hnumbered
      exact .inr (.inr ⟨r, since, howns, hid.symm, hforgot⟩)
    · rw [hledger]
      refine .inl ⟨t, ?_, .refl t⟩
      by_cases hzero : r.packetId = 0
      · unfold Ledger.forget
        rw [if_pos hzero]
        exact ht
      · rw [Ledger.tracked_forget h.distinct hzero, List.mem_filter]
        refine ⟨ht, decide_eq_true fun hkey => hid ?_⟩
        exact Ledger.packetId_of_key hkey
  | aside moves hmoves hledger hnoted htold hes =>
    rw [hledger]
    rcases Ledger.fate_of_moveAll h.distinct hmoves ht with hkept | hsettled
    · exact .inl hkept
    · rw [← hnoted] at hsettled
      exact .inr (.inl hsettled)

/-- A record is gone if one that continues it is, and its id was not handed out in between. -/
theorem IsGone.of_append {more : List LogEntry} {t t' : Tracked} (h : IsGone (log ++ es) more t')
    (ht' : t'.Continues t) (hes : ∀ r, .accepted r ∈ es → r.packetId ≠ t.packetId) :
    IsGone log (es ++ more) t := by
  rcases h with hsettled | ⟨r, since, howns, hid, hforgot⟩
  · refine .inl ((hsettled.of_continues ht').mono ?_)
    rw [List.filterMap_append]
    exact List.subset_append_right _ _
  · have hrt : r.packetId = t.packetId := hid.trans ht'.packetId
    obtain ⟨since', howns'⟩ := howns.of_append fun r' hr' => by
      rw [hrt]
      exact hes r' hr'
    exact .inr ⟨r, since', howns', hrt, List.mem_append_right _ hforgot⟩

theorem Owned.act (h : Owned s log) (hkept : Kept s log) (hdrained : s.client.IsDrained)
    {a : Act κ} (hid : s.TakesSparedId react a) :
    Owned (s.act react a).1 (log ++ (s.act react a).2) :=
  h.turn (hkept.turn react a) (fun _ hr => hkept.carries_of_act hdrained hr a) hid

theorem Owned.play (h : Owned s log) (hkept : Kept s log) (hdrained : s.client.IsDrained)
    {acts : List (Act κ)} (hids : s.TakesSparedIds react acts) :
    Owned (s.play react acts).1 (log ++ (s.play react acts).2)
      ∧ ∀ t ∈ s.client.ledger.tracked,
        (∃ t' ∈ (s.play react acts).1.client.ledger.tracked, t'.Continues t)
          ∨ IsGone log (s.play react acts).2 t := by
  induction acts generalizing s log with
  | nil =>
    change Owned s (log ++ []) ∧ _
    rw [List.append_nil]
    exact ⟨h, fun t ht => .inl ⟨t, ht, .refl t⟩⟩
  | cons a acts ih =>
    obtain ⟨hid, hids⟩ := hids
    obtain ⟨hkept', hdrained'⟩ := hkept.act hdrained react a
    obtain ⟨howned, hsurvives⟩ := ih (h.act hkept hdrained hid) hkept' hdrained' hids
    rw [List.append_assoc] at howned
    refine ⟨howned, fun t ht => ?_⟩
    rcases h.survives (hkept.turn react a) ht with ⟨t', ht', hcontinues⟩ | hgone
    · -- What it has become may be gone later, but for a reason that is its own.
      rcases hsurvives t' ht' with ⟨t'', ht'', hcontinues'⟩ | hgone
      · exact .inl ⟨t'', ht'', hcontinues'.trans hcontinues⟩
      · refine .inr (hgone.of_append hcontinues fun r hr heq => ?_)
        have hnumbered := h.numbered t ht
        rw [← heq] at hnumbered
        exact (hid r hr hnumbered).free t ht heq.symm
    · exact .inr hgone.mono

/-- An operation that may still fail is forgotten with all that is left under its id, unless it has
been released. -/
theorem Owned.isFree_forget (h : Owned s log) (haccepted : .accepted r ∈ log)
    (hcarried : s.Carries r) {before since : List LogEntry}
    (hlog : log = before ++ .accepted r :: since)
    (hid : r.packetId ≠ 0) (hreleased : .noted (.released r.packetId) ∉ since) :
    (s.client.ledger.forget r.kind r.packetId).IsFree r.packetId := by
  -- What is left under the id has another kind, so it has been released.
  obtain ⟨since', howns, hkinds⟩ := h.owner r haccepted hcarried hid
  intro t ht htid
  rw [Ledger.tracked_forget h.distinct hid, List.mem_filter] at ht
  rcases hkinds t ht.1 htid with hkind | hnoted
  · have hkey : t.key = (r.kind, r.packetId) := by
      unfold Tracked.key
      rw [hkind, htid]
    simp [hkey] at ht
  · exact hreleased (howns.subset hlog hnoted)

/-- The call of an operation that failed has taken its record with it. -/
theorem Owned.isFree (h : Owned s log) (hkept : Kept s log) (hturn : Turn s s' log es)
    {before since : List LogEntry} (hlog : log = before ++ .accepted r :: since)
    (hid : r.packetId ≠ 0) (hreleased : .noted (.released r.packetId) ∉ since) {e : Error}
    (hreturned : .returned r.ticket (.error e) ∈ es) :
    s'.client.ledger.IsFree r.packetId := by
  cases hturn with
  | refuses now o e hledger hes =>
    rw [hes] at hreturned
    simp at hreturned
  | begins now o out hbegin hledger hes =>
    rw [hes] at hreturned
    simp at hreturned
  | aside moves hmoves hledger hnoted htold hes =>
    rcases hes _ hreturned with haloof | ⟨d, hd⟩ | ⟨e, he⟩
    · exact haloof.elim
    · cases hd
    · cases he
  | forgets r' haccepted hcarried hledger hforgot hes =>
    have hr : .accepted r ∈ log := by
      rw [hlog]
      exact List.mem_append_right _ List.mem_cons_self
    have hsame : r' = r := by
      rcases hes _ hreturned with haloof | ⟨e', he'⟩
      · exact haloof.elim
      · exact hkept.eq_of_ticket hr haccepted (LogEntry.returned.inj he').1.symm
    rw [hsame] at hcarried hledger
    rw [hledger]
    exact h.isFree_forget hr hcarried hlog hid hreleased

theorem owned_of_new {config : Config} {defaultPort : UInt16} {listener : Option (Listener κ)}
    {c : Client κ} (h : Client.new config defaultPort listener = .ok c) :
    Owned ({ client := c } : Scene κ) [] := by
  have htracked : c.ledger.tracked = [] := by
    rw [ledger_of_new h]
    rfl
  refine ⟨?_, ?_, nofun⟩
  · unfold Ledger.Distinct
    dsimp only
    rw [htracked]
    exact List.nodup_nil
  · dsimp only
    rw [htracked]
    exact List.forall_mem_nil _

end Scene
end Mqtt
