import Mqtt.Proofs.Client.Turns

/-!
The ends of operations that a client tells of. Whatever packets arrive, and however ids collide, the
end of an operation is told at most as often as operations of its kind were issued under its id
since the operations were last forgotten.
-/

namespace Mqtt
set_option autoImplicit false

namespace Ledger.Deed

def issues (kind : PacketType) (packetId : UInt16) : Deed → Bool
  | .issued k _ i => k = kind && i = packetId
  | _ => false

/-- Whether an operation was issued that will be acknowledged. -/
def pays (kind : PacketType) (packetId : UInt16) : Deed → Bool
  | .issued k qos i => k = kind && i = packetId && (kind ≠ .publish || qos ≠ .atMostOnce)
  | _ => false

/-- Whether an operation was completed, a QoS 2 PUBLISH by its PUBCOMP. -/
def completes (kind : PacketType) (packetId : UInt16) : Deed → Bool
  | .completed k i => (k = kind || kind = .publish && k = .pubrel) && i = packetId
  | _ => false

end Ledger.Deed

/-- Whether an event tells of the end of an operation. -/
def Event.ends (kind : PacketType) (packetId : UInt16) : Event → Bool
  | .published i => kind = .publish && i = packetId
  | .subscribed i _ => kind = .subscribe && i = packetId
  | .unsubscribed i => kind = .unsubscribe && i = packetId
  | _ => false

theorem Event.completes_of_ends {e : Event} {kind : PacketType} {packetId : UInt16}
    (h : e.ends kind packetId = true) {d : Ledger.Deed} (hd : d ∈ e.deeds) :
    d.completes kind packetId = true := by
  cases e with
  | published i =>
    obtain ⟨hkind, hid⟩ : kind = .publish ∧ i = packetId := by simpa [ends] using h
    rcases List.mem_pair.mp hd with hd | hd <;> simp [hd, Ledger.Deed.completes, hkind, hid]
  | subscribed i codes =>
    obtain ⟨hkind, hid⟩ : kind = .subscribe ∧ i = packetId := by simpa [ends] using h
    simp [List.mem_singleton.mp hd, Ledger.Deed.completes, hkind, hid]
  | unsubscribed i =>
    obtain ⟨hkind, hid⟩ : kind = .unsubscribe ∧ i = packetId := by simpa [ends] using h
    simp [List.mem_singleton.mp hd, Ledger.Deed.completes, hkind, hid]
  | _ => cases hd

theorem Event.not_ends {e : Event} (h : e.deeds = []) (kind : PacketType) (packetId : UInt16) :
    e.ends kind packetId = false := by
  cases e with
  | subscribed _ _ | unsubscribed _ | published _ => cases h
  | _ => rfl

namespace Ledger.Account

theorem pays_acknowledging (kind : PacketType) (hkind : kind ≠ .pubrel) (hnot : kind ≠ .publish)
    (packetId : UInt16) : (acknowledging kind hkind packetId).pays = Deed.issues kind packetId := by
  funext d
  cases d <;> simp [acknowledging, Deed.issues, hnot]

theorem pays_acknowledging_publish (packetId : UInt16) :
    (acknowledging .publish nofun packetId).pays =
      (· == .issued .publish .atLeastOnce packetId) := by
  funext d
  rw [Bool.eq_iff_iff, beq_iff_eq]
  cases d with
  | issued kind qos i => simp [acknowledging, and_assoc, and_comm (a := i = packetId)]
  | _ => simp [acknowledging]

/-- Acknowledgements that complete an operation of a kind, one way or another. -/
def ending (kind : PacketType) (hkind : kind ≠ .pubrel) (packetId : UInt16) : Account where
  spends := Deed.completes kind packetId
  owes t := (t.kind = kind ∨ kind = .publish ∧ t.kind = .pubrel) ∧ t.packetId = packetId
  pays := Deed.pays kind packetId
  issuing now o out := by
    refine ⟨rfl, fun ho howes => ?_⟩
    have hk : o.kind ≠ .pubrel := by cases o <;> exact nofun
    obtain ⟨hsame, hid⟩ : o.kind = kind ∧ out.packetId = packetId := by
      simpa [issued, hk] using howes
    have hqos : kind = .publish → o.qos ≠ .atMostOnce := by
      intro hp
      cases o with
      | publish topic payload qos retain => exact ho
      | _ => cases hsame.trans hp
    by_cases hp : kind = .publish
    · simp [Deed.pays, hsame, hid, hqos hp]
    · simp [Deed.pays, hsame, hid, hp]
  completing t _ hspends := by simpa [Deed.completes] using hspends
  releasing t pubrel hpublish _ := by
    by_cases hp : kind = .publish
    · simp [Deed.completes, Deed.pays, released, hpublish, hp]
    · simp [Deed.completes, Deed.pays, released, hkind.symm, hp]
  evicting t := rfl

end Ledger.Account

/-! ### What is told -/

def LogEntry.isCleared : LogEntry → Bool
  | .noted .cleared => true
  | _ => false

/-- What was noted since the operations were last forgotten. -/
def sinceForgotten (log : List LogEntry) : List LogEntry := log.rtakeWhile fun x => !x.isCleared

/-- The deeds since the operations were last forgotten. -/
theorem noted?_sinceForgotten (log : List LogEntry) :
    (sinceForgotten log).filterMap LogEntry.noted? =
    Ledger.sinceCleared (log.filterMap LogEntry.noted?) := by
  induction log using List.reverseRecOn with
  | nil => rfl
  | append_singleton log x ih =>
    unfold sinceForgotten at ih ⊢
    rw [List.rtakeWhile_concat, List.filterMap_append]
    cases x with
    | noted d =>
      by_cases hd : d = .cleared
      · rw [hd]
        exact (Ledger.sinceCleared_cleared _).symm
      · have hcleared : (LogEntry.noted d).isCleared = false := by
          cases d with
          | cleared => exact absurd rfl hd
          | _ => rfl
        have hnew : Ledger.Deed.cleared ∉ [LogEntry.noted d].filterMap LogEntry.noted? := by
          simpa [LogEntry.noted?] using fun heq => hd heq.symm
        rw [hcleared, Ledger.sinceCleared_append hnew, ← ih, Bool.not_false, if_pos rfl,
          List.filterMap_append]
    | _ =>
      -- The entry is on neither list.
      change (List.rtakeWhile _ log ++ _).filterMap LogEntry.noted? =
        Ledger.sinceCleared (log.filterMap LogEntry.noted? ++ [])
      rw [List.filterMap_append, ih, List.append_nil]
      exact List.append_nil _

namespace Scene

variable {κ : Type} {react : κ → Event → Reaction κ} {s s' : Scene κ} {log es : List LogEntry}

/-- An act is some calls on the ledger, and tells of what they complete. -/
theorem Turn.moves (h : Turn s s' log es) : ∃ moves,
    s'.client.ledger = s.client.ledger.moveAll moves
      ∧ es.filterMap LogEntry.noted? = s.client.ledger.deeds moves
      ∧ TellsOf (es.filterMap LogEntry.told?) (s.client.ledger.deeds moves) := by
  cases h with
  | refuses now o e hledger hlog =>
    rw [hlog]
    exact ⟨[], hledger, rfl, .inl (List.forall_mem_nil _)⟩
  | begins now o out hbegin hledger hlog =>
    refine ⟨[.begin now o], hledger, ?_, ?_⟩
    · simp only [hlog, Ledger.deeds, Ledger.deedsOf, hbegin]
      rfl
    · refine .inl ?_
      simp [hlog, LogEntry.told?]
  | forgets r haccepted hcarries hledger hforgot hes =>
    -- The ledger forgets no operation without an id, which then is no call on it at all.
    have hsilent : ∀ x ∈ es, x.noted? = none ∧ x.told? = none := by
      intro x hx
      rcases hes x hx with haloof | ⟨e, he⟩
      · exact ⟨haloof.noted?, haloof.told?⟩
      · rw [he]
        exact ⟨rfl, rfl⟩
    refine ⟨Ledger.forgetting r.kind r.packetId, ?_, ?_, ?_⟩
    · rw [hledger, Ledger.moveAll_forgetting]
    · rw [Ledger.deeds_forgetting, List.filterMap_eq_nil_iff]
      exact fun x hx => (hsilent x hx).1
    · have hnone : es.filterMap LogEntry.told? = [] :=
        List.filterMap_eq_nil_iff.mpr fun x hx => (hsilent x hx).2
      rw [hnone]
      exact .inl (List.forall_mem_nil _)
  | aside moves hmoves hledger hnoted htold hes => exact ⟨moves, hledger, hnoted, htold⟩

/-- Whether the log accounts for what became of the ledger, and nothing was told beyond that. -/
structure Accounted (config : Config) (s : Scene κ) (log : List LogEntry) : Prop where
  moves : ∃ moves, s.client.ledger = (Ledger.new config).moveAll moves
    ∧ log.filterMap LogEntry.noted? = (Ledger.new config).deeds moves
  told : ∀ kind packetId,
    ((sinceForgotten log).filterMap LogEntry.told?).countP (Event.ends kind packetId) ≤
      ((sinceForgotten log).filterMap LogEntry.noted?).countP (Ledger.Deed.completes kind packetId)

theorem countP_ends_of_tellsOf {events : List Event} {deeds : List Ledger.Deed}
    (h : TellsOf events deeds) (kind : PacketType) (packetId : UInt16) :
    events.countP (Event.ends kind packetId) ≤
      deeds.countP (Ledger.Deed.completes kind packetId) := by
  rcases h with hnone | ⟨e, d, hsub, hdeeds, hd⟩
  · have hzero : events.countP (Event.ends kind packetId) = 0 := by
      rw [List.countP_eq_zero]
      intro e he
      rw [Event.not_ends (hnone e he)]
      exact Bool.false_ne_true
    rw [hzero]
    exact Nat.zero_le _
  · have hle := hsub.countP_le (p := Event.ends kind packetId)
    rw [hdeeds]
    by_cases hends : e.ends kind packetId = true
    · have hcompletes := Event.completes_of_ends hends hd
      simpa [hends, hcompletes] using hle
    · have hnot : [e].countP (Event.ends kind packetId) = 0 := by simp [hends]
      omega

/-- What was told since the operations were last forgotten is part of the act that forgot them. -/
theorem mem_of_mem_sinceForgotten {x : LogEntry} (hx : x ∈ es) (hcleared : x.isCleared = true)
    {y : LogEntry} (hy : y ∈ sinceForgotten (log ++ es)) : y ∈ es := by
  induction es using List.reverseRecOn with
  | nil => cases hx
  | append_singleton es z ih =>
    unfold sinceForgotten at ih hy
    rw [← List.append_assoc, List.rtakeWhile_concat] at hy
    cases hz : z.isCleared with
    | true =>
      rw [hz, Bool.not_true, if_neg Bool.false_ne_true] at hy
      cases hy
    | false =>
      rw [hz, Bool.not_false, if_pos rfl] at hy
      have hx' : x ∈ es := by
        rcases List.mem_append.mp hx with hx | hx
        · exact hx
        · rw [List.mem_singleton.mp hx, hz] at hcleared
          cases hcleared
      rcases List.mem_append.mp hy with hy | hy
      · exact List.mem_append_left _ (ih hx' hy)
      · exact List.mem_append_right _ hy

/-- No end of an operation is told of when the operations are forgotten. -/
theorem countP_ends_of_cleared {moves : List Ledger.Move}
    (hnoted : es.filterMap LogEntry.noted? = s.client.ledger.deeds moves)
    (htold : TellsOf (es.filterMap LogEntry.told?) (s.client.ledger.deeds moves))
    {x : LogEntry} (hx : x ∈ es) (hcleared : x.isCleared = true) (kind : PacketType)
    (packetId : UInt16) : ((sinceForgotten (log ++ es)).filterMap LogEntry.told?).countP
      (Event.ends kind packetId) = 0 := by
  have hmem : .cleared ∈ s.client.ledger.deeds moves := by
    rw [← hnoted, List.mem_filterMap]
    refine ⟨x, hx, ?_⟩
    unfold LogEntry.isCleared at hcleared
    split at hcleared
    · rfl
    · cases hcleared
  rw [List.countP_eq_zero]
  intro e he
  obtain ⟨y, hy, hye⟩ := List.mem_filterMap.mp he
  have hetold := List.mem_filterMap.mpr ⟨y, mem_of_mem_sinceForgotten hx hcleared hy, hye⟩
  rcases htold with hnone | ⟨e', d, _, hdeeds, hd⟩
  · rw [Event.not_ends (hnone e hetold)]
    exact Bool.false_ne_true
  · rw [hdeeds, List.mem_singleton] at hmem
    rw [← hmem] at hd
    cases e' <;> simp [Event.deeds] at hd

theorem Accounted.turn {config : Config} (h : Accounted config s log) (hturn : Turn s s' log es) :
    Accounted config s' (log ++ es) := by
  obtain ⟨before, hbefore, hdeeds⟩ := h.moves
  obtain ⟨moves, hledger, hnoted, htold⟩ := hturn.moves
  refine ⟨⟨before ++ moves, ?_, ?_⟩, fun kind packetId => ?_⟩
  · rw [hledger, hbefore, Ledger.moveAll_append]
  · rw [List.filterMap_append, hdeeds, hnoted, Ledger.deeds_append, hbefore]
  · -- An act that forgets the operations begins both counts anew, and tells of no end.
    by_cases hcleared : ∃ x ∈ es, x.isCleared = true
    · obtain ⟨x, hx, hxcleared⟩ := hcleared
      rw [countP_ends_of_cleared hnoted htold hx hxcleared]
      exact Nat.zero_le _
    · have hsince : sinceForgotten (log ++ es) = sinceForgotten log ++ es := by
        refine rtakeWhile_append fun x hx => ?_
        have hx' := fun hyes => hcleared ⟨x, hx, hyes⟩
        simpa using hx'
      have hmore := countP_ends_of_tellsOf htold kind packetId
      have htolds := h.told kind packetId
      rw [← hnoted] at hmore
      rw [hsince, List.filterMap_append, List.filterMap_append, List.countP_append,
        List.countP_append]
      omega

theorem Accounted.play {config : Config} (h : Accounted config s log) (hkept : Kept s log)
    (hdrained : s.client.IsDrained) (react : κ → Event → Reaction κ) (acts : List (Act κ)) :
    Accounted config (s.play react acts).1 (log ++ (s.play react acts).2) := by
  induction acts generalizing s log with
  | nil =>
    change Accounted config s (log ++ [])
    rw [List.append_nil]
    exact h
  | cons a acts ih =>
    obtain ⟨hkept', hdrained'⟩ := hkept.act hdrained react a
    have hplay := ih (h.turn (hkept.turn react a)) hkept' hdrained'
    rw [List.append_assoc] at hplay
    exact hplay

/-- Since the operations were last forgotten, no acknowledgement was accepted that an operation of
its kind and level does not pay for, nor was the end of an operation told of without one. -/
theorem completions_are_paid (config : Config) (packetId : UInt16) :
    (∀ moves, let ds := Ledger.sinceCleared ((Ledger.new config).deeds moves)
      ds.count (.completed .publish packetId) ≤ ds.count (.issued .publish .atLeastOnce packetId)
        ∧ ds.count (.completed .pubrel packetId) ≤ ds.count (.released packetId)
        ∧ ds.count (.released packetId) ≤ ds.count (.issued .publish .exactlyOnce packetId)
        ∧ ds.count (.completed .subscribe packetId) ≤
          ds.countP (Ledger.Deed.issues .subscribe packetId)
        ∧ ds.count (.completed .unsubscribe packetId) ≤
          ds.countP (Ledger.Deed.issues .unsubscribe packetId))
    ∧ ∀ (react : κ → Event → Reaction κ) (defaultPort : UInt16) (listener : Option (Listener κ))
        (c : Client κ), Client.new config defaultPort listener = .ok c → ∀ acts : List (Act κ),
      let run := ({ client := c } : Scene κ).play react acts
      let told := (sinceForgotten run.2).filterMap LogEntry.told?
      let deeds := (sinceForgotten run.2).filterMap LogEntry.noted?
      (∃ moves, run.1.client.ledger = (Ledger.new config).moveAll moves
        ∧ run.2.filterMap LogEntry.noted? = (Ledger.new config).deeds moves)
      ∧ ∀ o : Operation,
        told.countP (Event.ends o.kind packetId) ≤
          deeds.countP (Ledger.Deed.completes o.kind packetId)
        ∧ deeds.countP (Ledger.Deed.completes o.kind packetId) ≤
          deeds.countP (Ledger.Deed.pays o.kind packetId) := by
  refine ⟨fun moves => ?_, fun react defaultPort listener c hnew acts => ?_⟩
  · intro ds
    have hpublish :=
      (Ledger.Account.acknowledging .publish nofun packetId).spent_le_paid config moves
    have hsubscribe :=
      (Ledger.Account.acknowledging .subscribe nofun packetId).spent_le_paid config moves
    have hunsubscribe :=
      (Ledger.Account.acknowledging .unsubscribe nofun packetId).spent_le_paid config moves
    have hconfirmed := (Ledger.Account.confirming packetId).spent_le_paid config moves
    have hreleased := (Ledger.Account.releasingOf packetId).spent_le_paid config moves
    rw [Ledger.Account.pays_acknowledging_publish] at hpublish
    rw [Ledger.Account.pays_acknowledging .subscribe nofun nofun] at hsubscribe
    rw [Ledger.Account.pays_acknowledging .unsubscribe nofun nofun] at hunsubscribe
    exact ⟨hpublish, hconfirmed, hreleased, hsubscribe, hunsubscribe⟩
  · intro run told deeds
    obtain ⟨hkept, hdrained⟩ := kept_of_new hnew
    have haccounted : Accounted config ({ client := c } : Scene κ) [] :=
      ⟨⟨[], ledger_of_new hnew, rfl⟩, fun _ _ => Nat.le_refl 0⟩
    have hplayed := haccounted.play hkept hdrained react acts
    rw [List.nil_append] at hplayed
    obtain ⟨moves, hledger, hnoted⟩ := hplayed.moves
    refine ⟨⟨moves, hledger, hnoted⟩, fun o => ⟨hplayed.told o.kind packetId, ?_⟩⟩
    have hkind : o.kind ≠ .pubrel := by cases o <;> exact nofun
    have hpaid := (Ledger.Account.ending o.kind hkind packetId).spent_le_paid config moves
    rw [← hnoted, ← noted?_sinceForgotten] at hpaid
    exact hpaid

/-- A QoS 1 PUBLISH that the broker acknowledges twice. -/
theorem completions_are_paid_of_puback :
    let config := ({ host := "h" } : Settings).toConfig "c"
    let o : Operation := .publish "a" [98] .atLeastOnce false
    let acts : List (Act Unit) := Act.connecting ++
      [.call 0 o, .reach 0, .offer 0, .session 0 .request, .session 0 (.written (.ok ())),
        .session 0 .run, .session 0 .run,
        .session 0 (.read (.ok [0x40, 2, 0, 1, 0x40, 2, 0, 1])), .session 0 .run, .session 0 .run,
        .session 0 .run]
    ∃ c, Client.new config 1883 none = .ok c ∧
      let run := ({ client := c } : Scene Unit).play (fun _ _ => {}) acts
      let told := (sinceForgotten run.2).filterMap LogEntry.told?
      let deeds := (sinceForgotten run.2).filterMap LogEntry.noted?
      told = [.connected false, .published 1]
        ∧ told.countP (Event.ends o.kind 1) ≤ deeds.countP (Ledger.Deed.completes o.kind 1)
        ∧ deeds.countP (Ledger.Deed.completes o.kind 1) ≤
          deeds.countP (Ledger.Deed.pays o.kind 1) := by
  intro config o acts
  have hnew : Client.new (κ := Unit) config 1883 none = .ok _ := rfl
  have hpaid := (completions_are_paid config 1).2 (fun _ _ => {}) 1883 none _ hnew acts
  refine ⟨_, hnew, ?_, hpaid.2 o⟩
  decide +kernel

end Scene
end Mqtt
