import Mqtt.Proofs.Client.House

/-!
# Sessions take turns

The transport goes from the client to a call of `start`, to the session, to the call of `stop` that
has waited for the session, and back to the client. Sessions do not overlap because only one of
these has it.
-/

namespace Mqtt
set_option autoImplicit false

/-- Whether there is neither a session nor anything left of one. -/
def Client.IsVacant {κ : Type} (c : Client κ) : Prop :=
  c.IsIdle ∧ c.holdsTask = false ∧ c.stops = []

theorem Client.IsIdle.isOpen {κ : Type} {c : Client κ} (h : c.IsIdle) : c.isOpen = false := by
  unfold Client.isOpen
  rw [h.1]
  rfl

/-- Who has the transport, and what that says of the client and the calls that are under way. -/
inductive Custody {κ : Type} (log : List Report) : Client κ → Option Opening → Bool → Prop where
  | client {c : Client κ} {opening : Option Opening} (hvacant : c.IsVacant)
    (hhere : c.transportHere = true) (hopening : opening ≠ some .equipped) :
    Custody log c opening false
  | starter {c : Client κ} (hvacant : c.IsVacant) (hhere : c.transportHere = false) :
    Custody log c (some .equipped) false
  | session {c : Client κ} (hstaffed : c.IsStaffed) (hhere : c.transportHere = false)
    (hheld : c.holdsTask = true ∧ c.stops = [] ∨ c.holdsTask = false
      ∧ ((∃ ticket, c.stops = [ticket]) ∨ c.stops = [] ∧ .gaveUp ∈ log)) :
    Custody log c none false
  | stopper {c : Client κ} {opening : Option Opening} (hvacant : c.IsVacant)
    (hhere : c.transportHere = false) (hopening : opening ≠ some .equipped) :
    Custody log c opening true

namespace Custody

variable {κ : Type} {react : κ → Event → Reaction κ} {c : Client κ} {opening : Option Opening}
  {closing : Bool} {log log' : List Report}

theorem mono (h : Custody log c opening closing) (hlog : log ⊆ log') :
    Custody log' c opening closing := by
  cases h with
  | client hvacant hhere hopening => exact .client hvacant hhere hopening
  | starter hvacant hhere => exact .starter hvacant hhere
  | session hstaffed hhere hheld =>
    exact .session hstaffed hhere
      (hheld.imp_right (And.imp_right (Or.imp_right (And.imp_right fun hx => hlog hx))))
  | stopper hvacant hhere hopening => exact .stopper hvacant hhere hopening

theorem of_holds (h : Custody log c opening closing) (hholds : c.holdsTask = true) :
    opening = none ∧ closing = false ∧ c.IsStaffed ∧ c.transportHere = false ∧ c.stops = [] := by
  cases h with
  | client hv _ _ => cases hholds.symm.trans hv.2.1
  | starter hv _ => cases hholds.symm.trans hv.2.1
  | stopper hv _ _ => cases hholds.symm.trans hv.2.1
  | session hstaffed hhere hheld =>
    rcases hheld with ⟨_, hnone⟩ | ⟨hleft, _⟩
    · exact ⟨rfl, rfl, hstaffed, hhere, hnone⟩
    · cases hholds.symm.trans hleft

theorem of_mem_stops {ticket : Nat} (h : Custody log c opening closing)
    (hmem : ticket ∈ c.stops) : opening = none ∧ closing = false ∧ c.IsStaffed
      ∧ c.transportHere = false ∧ c.holdsTask = false ∧ c.stops = [ticket] := by
  have hnot : c.stops ≠ [] := List.ne_nil_of_mem hmem
  cases h with
  | client hv _ _ => exact absurd hv.2.2 hnot
  | starter hv _ => exact absurd hv.2.2 hnot
  | stopper hv _ _ => exact absurd hv.2.2 hnot
  | session hstaffed hhere hheld =>
    rcases hheld with ⟨_, hnone⟩ | ⟨hleft, ⟨other, hone⟩ | ⟨hnone, _⟩⟩
    · exact absurd hnone hnot
    · rw [hone, List.mem_singleton] at hmem
      exact ⟨rfl, rfl, hstaffed, hhere, hleft, hmem ▸ hone⟩
    · exact absurd hnone hnot

theorem isVacant_of_opening (h : Custody log c opening closing) (hopening : opening.isSome = true) :
    c.IsVacant := by
  cases h with
  | client hvacant _ _ => exact hvacant
  | starter hvacant _ => exact hvacant
  | session _ _ _ => cases hopening
  | stopper hvacant _ _ => exact hvacant

theorem isVacant (h : Custody log c opening closing) (hstate : c.state = .unknown) :
    c.IsVacant := by
  cases h with
  | client hvacant _ _ => exact hvacant
  | starter hvacant _ => exact hvacant
  | session hstaffed _ _ => exact absurd hstate hstaffed.2
  | stopper hvacant _ _ => exact hvacant

theorem await (h : Custody log c opening closing) (hholds : c.holdsTask = true) (ticket : Nat) :
    Custody log (c.await ticket) opening closing := by
  obtain ⟨hopening, hclosing, ⟨⟨t, ht, hregular⟩, hstate⟩, hhere, hstops⟩ := h.of_holds hholds
  rw [hopening, hclosing, c.await_eq hholds]
  refine .session ⟨⟨t.signalStop, congrArg (Option.map Task.signalStop) ht, hregular⟩, hstate⟩
    hhere (.inr ⟨rfl, .inl ⟨ticket, ?_⟩⟩)
  change c.calls.filterMap Call.stop? = [] at hstops
  unfold Client.stops
  rw [List.filterMap_append, hstops]
  rfl

/-- The call that has waited for a session gets the transport from it. -/
theorem retire (h : Custody log c opening closing) {ticket : Nat} (hmem : ticket ∈ c.stops) :
    Custody log (c.cancel ticket).retire opening true := by
  obtain ⟨hopening, _, _, hhere, hleft, hone⟩ := h.of_mem_stops hmem
  rw [hopening]
  refine .stopper ⟨⟨rfl, rfl⟩, hleft, ?_⟩ hhere nofun
  change (c.cancel ticket).stops = []
  rw [Client.stops_cancel, hone]
  simp

end Custody

namespace House

variable {κ : Type} {react : κ → Event → Reaction κ} {h : House κ} {log : List Report}

theorem abides_act (hcalm : ∀ k e, (react k e).fails = false) {a : Act κ}
    (ha : h.admits a = true) : h.client.Abides (h.scene.act react a).1.client
      ∧ (h.scene.act react a).1.client.stops.Sublist h.client.stops
      ∧ ((h.scene.act react a).1.client.stops = h.client.stops ∨ h.givesUp a = true) := by
  have hquiet : ∀ {s' : Scene κ}, h.scene.Abides s' → h.client.Abides s'.client
      ∧ s'.client.stops.Sublist h.client.stops
      ∧ (s'.client.stops = h.client.stops ∨ h.givesUp a = true) := by
    rintro s' ⟨habides, hstops⟩
    exact ⟨habides, hstops ▸ .refl _, .inl hstops⟩
  cases a with
  | start => cases ha
  | stop => cases ha
  | release => cases ha
  | listen listeners mailboxes nextListener =>
    exact hquiet (Scene.abides_of_calls rfl rfl rfl rfl rfl)
  | call now o => exact hquiet (Scene.abides_call now o)
  | reach ticket => exact hquiet (Scene.abides_reach ticket)
  | offer ticket => exact hquiet (Scene.abides_offer ticket)
  | giveUp ticket => exact hquiet (Scene.abides_giveUp ticket)
  | conclude ticket => exact hquiet (Scene.abides_conclude (of_decide_eq_true ha))
  | cancel ticket =>
    obtain ⟨habides, hstops⟩ := Scene.abides_cancel (s := h.scene) ticket
    change h.client.Abides (h.scene.cancel ticket).1.client
      ∧ (h.scene.cancel ticket).1.client.stops.Sublist h.client.stops
      ∧ ((h.scene.cancel ticket).1.client.stops = h.client.stops ∨ _)
    rw [hstops]
    refine ⟨habides, List.filter_sublist, ?_⟩
    by_cases hmem : ticket ∈ h.client.stops
    · exact .inr (decide_eq_true hmem)
    · refine .inl (List.filter_eq_self.mpr fun other hother => ?_)
      exact decide_eq_true (ne_of_mem_of_not_mem hother hmem)
  | session now signal => exact hquiet (Scene.abides_session hcalm now signal)

theorem custody_act (hcalm : ∀ k e, (react k e).fails = false) {a : Act κ}
    (ha : h.admits a = true) (hcustody : Custody log h.client h.opening h.closing) :
    Custody (log ++ h.seenOfAct react a) (h.scene.act react a).1.client h.opening h.closing := by
  obtain ⟨habides, hsub, hstops⟩ := abides_act hcalm ha
  have hvacant : h.client.IsVacant → (h.scene.act react a).1.client.IsVacant := by
    rintro ⟨hidle, hholds, hnone⟩
    refine ⟨habides.idle hidle, habides.holds.trans hholds, ?_⟩
    rw [hnone] at hsub
    exact List.sublist_nil.mp hsub
  have hseen : h.givesUp a = true → .gaveUp ∈ log ++ h.seenOfAct react a := by
    intro hup
    unfold seenOfAct
    rw [hup]
    simp
  have hlog : log ⊆ log ++ h.seenOfAct react a := List.subset_append_left _ _
  generalize hopening : h.opening = opening at hcustody
  generalize hclosing : h.closing = closing at hcustody
  cases hcustody with
  | client hv hhere ho => exact .client (hvacant hv) (habides.here.trans hhere) ho
  | starter hv hhere => exact .starter (hvacant hv) (habides.here.trans hhere)
  | stopper hv hhere ho => exact .stopper (hvacant hv) (habides.here.trans hhere) ho
  | session hstaffed hhere hheld =>
    refine .session (habides.staffed hstaffed) (habides.here.trans hhere) ?_
    rw [habides.holds]
    refine hheld.imp ?_ ?_
    · rintro ⟨hholds, hnone⟩
      rw [hnone] at hsub
      exact ⟨hholds, List.sublist_nil.mp hsub⟩
    · rintro ⟨hholds, ⟨ticket, hone⟩ | ⟨hnone, hup⟩⟩
      · refine ⟨hholds, ?_⟩
        rcases hstops with hsame | hup
        · exact .inl ⟨ticket, hsame.trans hone⟩
        · rw [hone] at hsub
          rcases List.sublist_singleton.mp hsub with hnone | hsame
          · exact .inr ⟨hnone, hseen hup⟩
          · exact .inl ⟨ticket, hsame⟩
      · rw [hnone] at hsub
        exact ⟨hholds, .inr ⟨List.sublist_nil.mp hsub, hlog hup⟩⟩

/-- A session that was not lost gives the transport back. -/
theorem stopped_of_isStaffed {c : Client κ} (h : c.IsStaffed) : c.stopped.2 = .ok () := by
  obtain ⟨⟨t, ht, hregular⟩, _⟩ := h
  have hphase : t.session.phase ≠ .crashed := by
    intro hcrashed
    rw [hcrashed] at hregular
    exact hregular
  unfold Client.stopped
  rw [ht]
  exact congrArg Prod.snd (if_neg hphase)

theorem custody_beat (hcalm : ∀ k e, (react k e).fails = false) (b : Beat κ)
    (hcustody : Custody log h.client h.opening h.closing) :
    Custody (log ++ (h.beat react b).2) (h.beat react b).1.client (h.beat react b).1.opening
      (h.beat react b).1.closing := by
  have hcourse := course react h b
  generalize h.beat react b = r at hcourse ⊢
  have hsame : Custody (log ++ r.2) h.client h.opening h.closing :=
    hcustody.mono (List.subset_append_left _ _)
  obtain ⟨scene, opening, closing⟩ := h
  cases hcourse with
  | stays => exact hsame
  | refuses hopening hbusy => exact hsame
  | passes hopening hholds => exact hsame
  -- In the other places of the transport a step cannot be taken, for want of the lock or of it.
  | admits hopening hholds hstate =>
    cases hsame with
    | client hv hhere _ => exact .client hv hhere nofun
    | starter _ _ => cases hopening
    | session hstaffed _ _ => exact absurd hstate hstaffed.2
    | stopper hv hhere _ => exact .stopper hv hhere nofun
  | equips hopening hhere =>
    cases hsame with
    | client hv _ _ => exact .starter hv rfl
    | starter _ hgone => cases hhere.symm.trans hgone
    | session _ hgone _ => cases hhere.symm.trans hgone
    | stopper _ hgone _ => cases hhere.symm.trans hgone
  | lacks hopening hgone =>
    cases hsame with
    | client _ hhere _ => cases hhere.symm.trans hgone
    | starter _ _ => cases hopening
    | session _ _ _ => cases hopening
    | stopper hv hhere _ => exact .stopper hv hhere nofun
  | launches hopening =>
    cases hsame with
    | client _ _ ho => exact absurd hopening ho
    | session _ _ _ => cases hopening
    | stopper _ _ ho => exact absurd hopening ho
    | starter hv hhere =>
      exact .session ⟨⟨_, rfl, trivial⟩, nofun⟩ hhere (.inl ⟨rfl, hv.2.2⟩)
  | waits hopening hholds =>
    exact hsame.await hholds scene.tickets
  | resets ticket hstops hover hstopped => exact hsame.retire hstops
  | loses ticket hstops hover e hstopped =>
    obtain ⟨_, _, hstaffed, _⟩ := hsame.of_mem_stops hstops
    cases (stopped_of_isStaffed hstaffed).symm.trans hstopped
  | restores hclosing =>
    cases hsame with
    | client _ _ _ => cases hclosing
    | starter _ _ => cases hclosing
    | session _ _ _ => cases hclosing
    | stopper hv hhere ho => exact .client hv rfl ho
  | acts a hadmits => exact custody_act hcalm hadmits hcustody

/-- A step begins a session only where there is none, and ends only one that there is. -/
theorem turns_beat (hcalm : ∀ k e, (react k e).fails = false) (b : Beat κ)
    (hcustody : Custody log h.client h.opening h.closing) :
    (h.beat react b).2.count .began + h.client.isOpen.toNat =
      (h.beat react b).2.count .ended + (h.beat react b).1.client.isOpen.toNat := by
  have hcourse := course react h b
  generalize h.beat react b = r at hcourse ⊢
  cases hcourse with
  | stays => rfl
  | refuses hopening hbusy => rfl
  | admits hopening hholds hstate => rfl
  | equips hopening hhere => rfl
  | lacks hopening hgone => rfl
  | restores hclosing => rfl
  | passes hopening hholds => rfl
  | launches hopening =>
    rw [(hcustody.isVacant_of_opening (by rw [hopening]; rfl)).1.isOpen]
    rfl
  | waits hopening hholds =>
    have hsame : (h.client.await h.scene.tickets).isOpen = h.client.isOpen :=
      (Client.rests_release h.client).isOpen
    exact congrArg (0 + ·.toNat) hsame.symm
  | resets ticket hstops hover hstopped =>
    rw [Client.isOpen_of_all_isOver hover]
    rfl
  | loses ticket hstops hover e hstopped =>
    rw [Client.isOpen_of_all_isOver hover]
    rfl
  | acts a hadmits =>
    have hopens := (abides_act hcalm hadmits).1.opens
    change (h.seenOfAct react a).count .began + h.client.isOpen.toNat =
      (h.seenOfAct react a).count .ended + (h.scene.act react a).1.client.isOpen.toNat
    unfold seenOfAct
    generalize h.client.isOpen = before at hopens ⊢
    generalize (h.scene.act react a).1.client.isOpen = after at hopens ⊢
    cases before with
    | true => cases after <;> cases h.givesUp a <;> rfl
    | false =>
      cases after with
      | true => cases hopens rfl
      | false => cases h.givesUp a <;> rfl

/-- However steps come between each other, one has the transport, and sessions take turns. -/
theorem custody_play (hcalm : ∀ k e, (react k e).fails = false)
    (hcustody : Custody log h.client h.opening h.closing)
    (hturns : log.count .began = log.count .ended + h.client.isOpen.toNat) (beats : List (Beat κ)) :
    Custody (log ++ (h.play react beats).2) (h.play react beats).1.client
        (h.play react beats).1.opening (h.play react beats).1.closing
      ∧ (log ++ (h.play react beats).2).count .began =
        (log ++ (h.play react beats).2).count .ended
          + (h.play react beats).1.client.isOpen.toNat := by
  induction beats generalizing h log with
  | nil =>
    change Custody (log ++ []) _ _ _ ∧ (log ++ []).count _ = (log ++ []).count _ + _
    rw [List.append_nil]
    exact ⟨hcustody, hturns⟩
  | cons b beats ih =>
    have hstep := turns_beat hcalm b hcustody
    have hnext := ih (custody_beat hcalm b hcustody) (by
      rw [List.count_append, List.count_append]
      omega)
    rw [List.append_assoc] at hnext
    exact hnext

theorem custody_of_new {config : Config} {defaultPort : UInt16} {listener : Option (Listener κ)}
    {c : Client κ} (hnew : Client.new config defaultPort listener = .ok c) :
    Custody [] c none false ∧ c.isOpen = false := by
  rw [(Client.new_eq_ok_iff.mp hnew).2]
  exact ⟨.client ⟨⟨rfl, rfl⟩, rfl, rfl⟩ rfl nofun, rfl⟩

theorem start_eq_ok_iff (hcustody : Custody log h.client h.opening h.closing) :
    h.client.start.2 = .ok () ↔
      h.client.IsIdle ∧ h.closing = false ∧ h.opening ≠ some .equipped := by
  rw [Client.start_eq_ok_iff]
  generalize h.opening = opening at hcustody ⊢
  generalize h.closing = closing at hcustody ⊢
  constructor
  · rintro ⟨_, hstate, hhere⟩
    have hidle := (hcustody.isVacant hstate).1
    cases hcustody with
    | client _ _ ho => exact ⟨hidle, rfl, ho⟩
    | starter _ hgone => cases hhere.symm.trans hgone
    | session _ hgone _ => cases hhere.symm.trans hgone
    | stopper _ hgone _ => cases hhere.symm.trans hgone
  · rintro ⟨⟨_, hstate⟩, hclosing, ho⟩
    cases hcustody with
    | client hv hhere _ => exact ⟨hv.2.1, hstate, hhere⟩
    | starter _ _ => exact absurd rfl ho
    | session hstaffed _ _ => exact absurd hstate hstaffed.2
    | stopper _ _ _ => cases hclosing

/-- What holds of the calls that start and stop a client. Two things are left open: a call of `stop`
that finds no session because another one waits for it, or did so until it was given up, returns
too early; and no call of `start` succeeds while a call of `stop` has the transport. -/
structure Orderly (react : κ → Event → Reaction κ) (h : House κ) (log : List Report) : Prop where
  /-- Sessions begin and end in turn. -/
  turns : log.count .began = log.count .ended + h.client.isOpen.toNat
  /-- A call of `start` that nothing comes between. -/
  start : h.opening = none → (h.client.start.2 = .ok () ↔ h.client.IsIdle ∧ h.closing = false)
  /-- While a call of `start` is under way the client stays idle. -/
  opening : h.opening ≠ none → h.client.IsIdle
  started (b : Beat κ) : .started (.ok ()) ∈ (h.beat react b).2 →
    h.client.IsIdle ∧ (h.beat react b).1.client.isOpen = true
  refused (b : Beat κ) (e : Error) : .started (.error e) ∈ (h.beat react b).2 →
    (h.beat react b).1.scene = h.scene
      ∧ (e = .alreadyStarted ∧ h.client.state ≠ .unknown
        ∨ e = .internalStateError ∧ h.closing = true)
  stopped (b : Beat κ) : .stopped (.ok ()) ∈ (h.beat react b).2 →
    b = .restore ∨ h.client.stops = [] ∧ .gaveUp ∉ log →
      (h.beat react b).1.client.IsIdle
        ∧ ((h.beat react b).1.closing = false → (h.beat react b).1.client.start.2 = .ok ())

theorem mem_seenOfAct {a : Act κ} {x : Report} (hx : x ∈ h.seenOfAct react a) :
    x = .ended ∨ x = .gaveUp := by
  unfold seenOfAct at hx
  rcases List.mem_append.mp hx with hx | hx
  · split at hx
    · exact .inl (List.mem_singleton.mp hx)
    · cases hx
  · split at hx
    · exact .inr (List.mem_singleton.mp hx)
    · cases hx

theorem idle_of_started (hcustody : Custody log h.client h.opening h.closing) {b : Beat κ}
    (hb : .started (.ok ()) ∈ (h.beat react b).2) :
    h.client.IsIdle ∧ (h.beat react b).1.client.isOpen = true := by
  have hcourse := course react h b
  generalize h.beat react b = r at hcourse hb ⊢
  cases hcourse with
  | launches hopening =>
    exact ⟨(hcustody.isVacant_of_opening (by rw [hopening]; rfl)).1, rfl⟩
  | acts a hadmits => rcases mem_seenOfAct hb with hb | hb <;> cases hb
  | _ => simp at hb

theorem busy_of_refused (hcustody : Custody log h.client h.opening h.closing) {b : Beat κ}
    {e : Error} (hb : .started (.error e) ∈ (h.beat react b).2) :
    (h.beat react b).1.scene = h.scene
      ∧ (e = .alreadyStarted ∧ h.client.state ≠ .unknown
        ∨ e = .internalStateError ∧ h.closing = true) := by
  have hcourse := course react h b
  generalize h.beat react b = r at hcourse hb ⊢
  cases hcourse with
  | refuses hopening hbusy =>
    cases List.mem_singleton.mp hb
    refine ⟨rfl, .inl ⟨rfl, ?_⟩⟩
    rcases hbusy with hholds | hstate
    · exact (hcustody.of_holds hholds).2.2.1.2
    · exact hstate
  | lacks hopening hgone =>
    cases List.mem_singleton.mp hb
    refine ⟨rfl, .inr ⟨rfl, ?_⟩⟩
    rw [hopening] at hcustody
    generalize h.closing = closing at hcustody
    cases hcustody with
    | client _ hhere _ => cases hhere.symm.trans hgone
    | stopper _ _ _ => rfl
  | acts a hadmits => rcases mem_seenOfAct hb with hb | hb <;> cases hb
  | _ => simp at hb

theorem idle_of_stopped (hcalm : ∀ k e, (react k e).fails = false)
    (hcustody : Custody log h.client h.opening h.closing) {b : Beat κ}
    (hb : .stopped (.ok ()) ∈ (h.beat react b).2)
    (hlast : b = .restore ∨ h.client.stops = [] ∧ .gaveUp ∉ log) :
    (h.beat react b).1.client.IsIdle
      ∧ ((h.beat react b).1.closing = false → (h.beat react b).1.client.start.2 = .ok ()) := by
  have hnext := custody_beat hcalm b hcustody
  have hcourse := course react h b
  generalize h.beat react b = r at hcourse hb hnext ⊢
  have hidle : r.1.client.IsIdle ∧ r.1.opening ≠ some .equipped := by
    obtain ⟨scene, opening, closing⟩ := h
    cases hcourse with
    | passes hopening hholds =>
      cases hopening
      refine ⟨?_, nofun⟩
      cases hcustody with
      | client hv _ _ => exact hv.1
      | stopper hv _ _ => exact hv.1
      | session _ _ hheld =>
        -- A session that the client does not hold has a call that waits for it, or that gave up.
        obtain ⟨hnone, hstays⟩ := hlast.resolve_left nofun
        rcases hheld with ⟨hheld, _⟩ | ⟨_, ⟨ticket, hone⟩ | ⟨_, hup⟩⟩
        · cases hheld.symm.trans hholds
        · cases hnone.symm.trans hone
        · exact absurd hup hstays
    | restores hclosing =>
      cases hclosing
      cases hcustody with
      | stopper hv _ ho => exact ⟨hv.1, ho⟩
    | acts a hadmits => rcases mem_seenOfAct hb with hb | hb <;> cases hb
    | _ => simp at hb
  exact ⟨hidle.1, fun hclosing => (start_eq_ok_iff hnext).mpr ⟨hidle.1, hclosing, hidle.2⟩⟩

/-- However calls of `start` and `stop`, the session and anything else come between each other,
sessions take turns, and the calls return what they should. -/
theorem starts_and_stops_are_orderly (hcalm : ∀ k e, (react k e).fails = false) {config : Config}
    {defaultPort : UInt16} {listener : Option (Listener κ)} {c : Client κ}
    (hnew : Client.new config defaultPort listener = .ok c) (beats : List (Beat κ)) :
    let run := ({ scene := { client := c } } : House κ).play react beats
    run.1.Orderly react run.2 := by
  intro run
  obtain ⟨hfirst, hclosed⟩ := custody_of_new hnew
  obtain ⟨hcustody, hturns⟩ := custody_play hcalm
    (h := { scene := { client := c } }) hfirst (congrArg (0 + ·.toNat) hclosed.symm) beats
  change Custody run.2 run.1.client run.1.opening run.1.closing at hcustody
  refine ⟨hturns, fun hopening => ?_, fun hopening => ?_, fun b hb => idle_of_started hcustody hb,
    fun b e hb => busy_of_refused hcustody hb, fun b hb => idle_of_stopped hcalm hcustody hb⟩
  · rw [start_eq_ok_iff hcustody, hopening]
    simp
  · exact (hcustody.isVacant_of_opening (Option.isSome_iff_ne_none.mpr hopening)).1

/-- A session that the broker has accepted is stopped, and comes to its end. -/
theorem starts_and_stops_are_orderly_of_restore :
    let config := ({ host := "h" } : Settings).toConfig "c"
    let beats : List (Beat Unit) := Beat.connecting ++ .stop :: Beat.leaving ++ [.reset 0]
    ∃ c, Client.new config 1883 none = .ok c ∧
      let run := ({ scene := { client := c } } : House Unit).play (fun _ _ => {}) beats
      let next := run.1.beat (fun _ _ => {}) .restore
      run.2 = [.began, .started (.ok ()), .ended] ∧ run.1.Orderly (fun _ _ => {}) run.2
        ∧ next.2 = [.stopped (.ok ())] ∧ next.1.client.IsIdle ∧ next.1.client.start.2 = .ok () := by
  intro config beats
  have hnew : Client.new (κ := Unit) config 1883 none = .ok _ := rfl
  refine ⟨_, hnew, ?_⟩
  intro run next
  have horderly : run.1.Orderly (fun _ _ => {}) run.2 :=
    starts_and_stops_are_orderly (fun _ _ => rfl) hnew beats
  have hseen : run.2 = [.began, .started (.ok ()), .ended] := by
    subst run beats config
    decide +kernel
  have hnext : next.2 = [.stopped (.ok ())] ∧ next.1.closing = false := by
    subst next run beats config
    decide +kernel
  obtain ⟨hidle, hstart⟩ := horderly.stopped .restore (hnext.1 ▸ List.mem_cons_self) (.inl rfl)
  exact ⟨hseen, horderly, hnext.1, hidle, hstart hnext.2⟩

/-- A second call of `stop` returns while the first one waits for the session, which goes on; and
when the session is over, a call of `start` fails as long as the first one has the transport. -/
theorem stop_returns_early :
    let config := ({ host := "h" } : Settings).toConfig "c"
    ∃ c, Client.new config 1883 none = .ok c ∧
      let waits := (({ scene := { client := c } } : House Unit).play (fun _ _ => {})
        (Beat.connecting ++ [.stop])).1
      let early := waits.beat (fun _ _ => {}) .stop
      let resets := (early.1.play (fun _ _ => {}) (Beat.leaving ++ [.reset 0])).1
      early.2 = [.stopped (.ok ())] ∧ early.1.client.isOpen = true
        ∧ early.1.client.state = .connected ∧ early.1.client.start.2 = .error .alreadyStarted
        ∧ resets.client.isOpen = false ∧ resets.client.state = .unknown
        ∧ resets.client.start.2 = .error .internalStateError := by
  intro config
  have hnew : Client.new (κ := Unit) config 1883 none = .ok _ := rfl
  refine ⟨_, hnew, ?_⟩
  subst config
  decide +kernel

end House
end Mqtt
