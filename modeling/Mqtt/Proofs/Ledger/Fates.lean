import Mqtt.Proofs.Ledger.Tally

/-!
What becomes of an operation that waits. While every packet id that is handed out is free, it keeps
its level and the time it was issued at until it is acknowledged, evicted or forgotten.
-/

namespace Mqtt
set_option autoImplicit false

namespace Tracked

/-- Whether an operation that waits is another one, later. -/
structure Continues (t' t : Tracked) : Prop where
  packetId : t'.packetId = t.packetId
  qos : t'.qos = t.qos
  since : t'.since = t.since

theorem Continues.refl (t : Tracked) : t.Continues t := ⟨rfl, rfl, rfl⟩

theorem Continues.trans {t t' t'' : Tracked} (h' : t''.Continues t') (h : t'.Continues t) :
    t''.Continues t :=
  ⟨h'.packetId.trans h.packetId, h'.qos.trans h.qos, h'.since.trans h.since⟩

/-- Whether deeds tell why an operation does not wait any more. -/
def IsSettledBy (t : Tracked) (ds : List Ledger.Deed) : Prop :=
  (∃ kind, .completed kind t.packetId ∈ ds) ∨ (∃ t', .evicted t' ∈ ds ∧ t'.Continues t)
    ∨ .cleared ∈ ds

theorem IsSettledBy.mono {t : Tracked} {ds ds' : List Ledger.Deed} (h : t.IsSettledBy ds)
    (hsub : ds ⊆ ds') : t.IsSettledBy ds' := by
  rcases h with ⟨kind, hmem⟩ | ⟨t', hmem, ht'⟩ | hmem
  · exact .inl ⟨kind, hsub hmem⟩
  · exact .inr (.inl ⟨t', hsub hmem, ht'⟩)
  · exact .inr (.inr (hsub hmem))

theorem IsSettledBy.of_continues {t t' : Tracked} {ds : List Ledger.Deed} (h : t'.IsSettledBy ds)
    (ht' : t'.Continues t) : t.IsSettledBy ds := by
  rcases h with ⟨kind, hmem⟩ | ⟨t'', hmem, ht''⟩ | hmem
  · exact .inl ⟨kind, ht'.packetId ▸ hmem⟩
  · exact .inr (.inl ⟨t'', hmem, ht''.trans ht'⟩)
  · exact .inr (.inr hmem)

end Tracked

namespace Ledger

variable {l : Ledger}

theorem tracked_forget (hd : l.Distinct) {kind : PacketType} {packetId : UInt16}
    (hid : packetId ≠ 0) : (l.forget kind packetId).tracked =
      l.tracked.filter fun t => t.key ≠ (kind, packetId) := by
  unfold forget
  rw [if_neg hid]
  exact tracked_abandon hd kind packetId

theorem tracked_forget_sublist (hd : l.Distinct) (kind : PacketType) (packetId : UInt16) :
    (l.forget kind packetId).tracked.Sublist l.tracked := by
  by_cases hid : packetId = 0
  · unfold forget
    rw [if_pos hid]
  · rw [tracked_forget hd hid]
    exact List.filter_sublist

theorem takesFreeId_of_isOwn {m : Move} (h : m.IsOwn) : l.TakesFreeId m := by
  cases m with
  | begin now o => cases h
  | _ => trivial

/-- An operation goes on waiting through a call that is not about to forget it, or is settled. -/
theorem fate_of_move (hd : l.Distinct) {m : Move} (hm : m.IsOwn) {t : Tracked}
    (ht : t ∈ l.tracked) :
    (∃ t' ∈ (l.move m).tracked, t'.Continues t) ∨ t.IsSettledBy (l.deedsOf m) := by
  cases m with
  | begin now o => cases hm
  | abandon kind packetId => cases hm
  | setState state => exact .inl ⟨t, ht, .refl t⟩
  | clear => exact .inr (.inr (.inr (List.mem_singleton_self _)))
  | resolve kind packetId =>
    change (∃ t' ∈ (l.resolve kind packetId).1.tracked, _) ∨ _
    unfold deedsOf
    dsimp only
    rcases resolve_cases hd kind packetId with ⟨htrue, _, htracked⟩ | ⟨hsame, _⟩
    · by_cases hkey : t.key = (kind, packetId)
      · rw [if_pos htrue, ← packetId_of_key hkey]
        exact .inr (.inl ⟨kind, List.mem_singleton_self _⟩)
      · rw [htracked]
        exact .inl ⟨t, List.mem_filter.mpr ⟨ht, by simpa using hkey⟩, .refl t⟩
    · rw [hsame]
      exact .inl ⟨t, ht, .refl t⟩
  | advance packetId pubrel =>
    change (∃ t' ∈ (l.advanceToPubrel packetId pubrel).1.tracked, _) ∨ _
    rcases advance_cases hd packetId pubrel with ⟨_, _, t₀, ht₀, hkey₀, _, hmembers⟩ | ⟨hsame, _⟩
    · -- The one that is released goes on as another kind.
      by_cases hkey : t.key = (.publish, packetId)
      · have hsame : t = t₀ := hd.eq_of_key ht ht₀ (hkey.trans hkey₀.symm)
        rw [hsame]
        exact .inl ⟨released pubrel t₀, (hmembers _).mpr (.inr rfl), rfl, rfl, rfl⟩
      · exact .inl ⟨t, (hmembers t).mpr (.inl ⟨ht, hkey⟩), .refl t⟩
    · rw [hsame]
      exact .inl ⟨t, ht, .refl t⟩
  | evict now =>
    by_cases hkept : t ∈ (l.evictStale now).tracked
    · exact .inl ⟨t, hkept, .refl t⟩
    · have hgone : t ∈ l.tracked.filter fun t => t ∉ (l.evictStale now).tracked :=
        List.mem_filter.mpr ⟨ht, by simpa using hkept⟩
      exact .inr (.inr (.inl ⟨t, List.mem_map_of_mem hgone, .refl t⟩))

/-- A call of the session brings no new operation, and changes the kind of none but by releasing
it. -/
theorem origin_of_move (hd : l.Distinct) {m : Move} (hm : m.IsOwn) {t' : Tracked}
    (ht' : t' ∈ (l.move m).tracked) : ∃ t ∈ l.tracked, t'.Continues t
      ∧ (t'.kind = t.kind ∨ .released t.packetId ∈ l.deedsOf m) := by
  cases m with
  | begin now o => cases hm
  | abandon kind packetId => cases hm
  | setState state => exact ⟨t', ht', .refl t', .inl rfl⟩
  | clear => cases ht'
  | resolve kind packetId =>
    change t' ∈ (l.resolve kind packetId).1.tracked at ht'
    rcases resolve_cases hd kind packetId with ⟨_, _, htracked⟩ | ⟨hsame, _⟩
    · rw [htracked] at ht'
      exact ⟨t', (List.mem_filter.mp ht').1, .refl t', .inl rfl⟩
    · rw [hsame] at ht'
      exact ⟨t', ht', .refl t', .inl rfl⟩
  | advance packetId pubrel =>
    change t' ∈ (l.advanceToPubrel packetId pubrel).1.tracked at ht'
    rcases advance_cases hd packetId pubrel with ⟨htrue, _, t, ht, hkey, _, hmembers⟩ | ⟨hsame, _⟩
    · rcases (hmembers t').mp ht' with ⟨hmem, _⟩ | hreleased
      · exact ⟨t', hmem, .refl t', .inl rfl⟩
      · refine ⟨t, ht, by rw [hreleased]; exact ⟨rfl, rfl, rfl⟩, .inr ?_⟩
        unfold deedsOf
        dsimp only
        rw [if_pos htrue, packetId_of_key hkey]
        exact List.mem_singleton_self _
    · rw [hsame] at ht'
      exact ⟨t', ht', .refl t', .inl rfl⟩
  | evict now =>
    exact ⟨t', (tracked_evictStale_sublist l now).subset ht', .refl t', .inl rfl⟩

theorem distinct_moveAll (hd : l.Distinct) {moves : List Move} (hmoves : ∀ m ∈ moves, m.IsOwn) :
    (l.moveAll moves).Distinct := by
  induction moves generalizing l with
  | nil => exact hd
  | cons m moves ih =>
    rw [List.forall_mem_cons] at hmoves
    exact ih (hd.move (takesFreeId_of_isOwn hmoves.1)) hmoves.2

theorem fate_of_moveAll (hd : l.Distinct) {moves : List Move} (hmoves : ∀ m ∈ moves, m.IsOwn)
    {t : Tracked} (ht : t ∈ l.tracked) :
    (∃ t' ∈ (l.moveAll moves).tracked, t'.Continues t) ∨ t.IsSettledBy (l.deeds moves) := by
  induction moves generalizing l t with
  | nil => exact .inl ⟨t, ht, .refl t⟩
  | cons m moves ih =>
    rw [List.forall_mem_cons] at hmoves
    have hd' := hd.move (takesFreeId_of_isOwn hmoves.1 : l.TakesFreeId m)
    rcases fate_of_move hd hmoves.1 ht with ⟨t', ht', hcontinues⟩ | hsettled
    · rcases ih hd' hmoves.2 ht' with ⟨t'', ht'', hcontinues'⟩ | hsettled
      · exact .inl ⟨t'', ht'', hcontinues'.trans hcontinues⟩
      · exact .inr ((hsettled.of_continues hcontinues).mono (List.subset_append_right _ _))
    · exact .inr (hsettled.mono (List.subset_append_left _ _))

theorem origin_of_moveAll (hd : l.Distinct) {moves : List Move} (hmoves : ∀ m ∈ moves, m.IsOwn)
    {t' : Tracked} (ht' : t' ∈ (l.moveAll moves).tracked) : ∃ t ∈ l.tracked, t'.Continues t
      ∧ (t'.kind = t.kind ∨ .released t.packetId ∈ l.deeds moves) := by
  induction moves generalizing l with
  | nil => exact ⟨t', ht', .refl t', .inl rfl⟩
  | cons m moves ih =>
    rw [List.forall_mem_cons] at hmoves
    have hd' := hd.move (takesFreeId_of_isOwn hmoves.1 : l.TakesFreeId m)
    obtain ⟨t₁, ht₁, hcontinues₁, hkind₁⟩ := ih hd' hmoves.2 ht'
    obtain ⟨t, ht, hcontinues, hkind⟩ := origin_of_move hd hmoves.1 ht₁
    refine ⟨t, ht, hcontinues₁.trans hcontinues, ?_⟩
    unfold deeds
    rcases hkind₁ with hkind₁ | hreleased
    · rcases hkind with hkind | hreleased
      · exact .inl (hkind₁.trans hkind)
      · exact .inr (List.mem_append_left _ hreleased)
    · rw [hcontinues.packetId] at hreleased
      exact .inr (List.mem_append_right _ hreleased)

theorem encoder_forget (kind : PacketType) (packetId : UInt16) :
    (l.forget kind packetId).encoder = l.encoder := by
  unfold forget abandon
  split
  · rfl
  · split <;> rfl

theorem encoder_move {m : Move} (hm : m.IsOwn) : (l.move m).encoder = l.encoder := by
  cases m with
  | begin now o => cases hm
  | abandon kind packetId => cases hm
  | resolve kind packetId =>
    unfold move resolve
    dsimp only
    split
    · split <;> rfl
    · split
      · split <;> rfl
      · rfl
  | advance packetId pubrel =>
    unfold move advanceToPubrel
    dsimp only
    split
    · rfl
    · split
      · split <;> rfl
      · rfl
  | _ => rfl

theorem encoder_moveAll {moves : List Move} (hmoves : ∀ m ∈ moves, m.IsOwn) :
    (l.moveAll moves).encoder = l.encoder := by
  induction moves generalizing l with
  | nil => rfl
  | cons m moves ih =>
    rw [List.forall_mem_cons] at hmoves
    exact (ih hmoves.2).trans (encoder_move hmoves.1)

end Ledger
end Mqtt
