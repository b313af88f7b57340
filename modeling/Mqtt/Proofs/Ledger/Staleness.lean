import Mqtt.Proofs.Ledger.Moves

/-!
When the outbox has nothing to evict. The calls that a session makes on its own account make no
operation stale: the records that are left keep their times, and none is added.
-/

namespace Mqtt
set_option autoImplicit false

namespace Ledger

variable {l l' : Ledger} {now : Nat}

/-- Whether no operation in the outbox is stale. -/
structure IsFresh (l : Ledger) (now : Nat) : Prop where
  young : ∀ t ∈ l.outbox.entries, now - t.since ≤ l.expiry
  few : l.outbox.size ≤ l.maximum

theorem evictStale_eq_self_iff : l.evictStale now = l ↔ l.IsFresh now := by
  let kept := l.outbox.entries.filter fun t => now - t.since ≤ l.expiry
  have hkept : kept.Sublist l.outbox.entries := List.filter_sublist
  constructor
  · intro h
    have hentries : kept.drop (kept.length - l.maximum) = l.outbox.entries :=
      congrArg (fun l => l.outbox.entries) h
    have hlength := congrArg List.length hentries
    rw [List.length_drop] at hlength
    have hle := hkept.length_le
    have hall : kept = l.outbox.entries := hkept.eq_of_length (by omega)
    refine ⟨fun t ht => ?_, ?_⟩
    · rw [← hall] at ht
      simpa using (List.mem_filter.mp ht).2
    · have hsize : l.outbox.size = l.outbox.entries.length := rfl
      rw [hall] at hlength
      omega
  · intro h
    have hall : kept = l.outbox.entries := by
      apply List.filter_eq_self.mpr
      intro t ht
      simpa using h.young t ht
    have hentries : (l.evictStale now).outbox.entries = l.outbox.entries := by
      have hfew : l.outbox.entries.length ≤ l.maximum := h.few
      change kept.drop (kept.length - l.maximum) = _
      rw [hall, Nat.sub_eq_zero_of_le hfew]
      rfl
    have houtbox : (l.evictStale now).outbox = l.outbox := Outbox.ext rfl hentries
    calc l.evictStale now = { l with outbox := (l.evictStale now).outbox } := rfl
      _ = l := by rw [houtbox]

theorem IsFresh.of_sublist (h : l.IsFresh now)
    (hentries : l'.outbox.entries.Sublist l.outbox.entries) (hexpiry : l'.expiry = l.expiry)
    (hmaximum : l'.maximum = l.maximum) : l'.IsFresh now where
  young t ht := by
    rw [hexpiry]
    exact h.young t (hentries.subset ht)
  few := by
    rw [hmaximum]
    exact Nat.le_trans hentries.length_le h.few

theorem IsFresh.resolve (h : l.IsFresh now) (kind : PacketType) (packetId : UInt16) :
    (l.resolve kind packetId).1.IsFresh now := by
  unfold Ledger.resolve
  split
  · split
    · exact h
    · exact h.of_sublist (l.outbox.others_sublist _) rfl rfl
  · split
    · split
      · exact h.of_sublist (List.Sublist.refl _) rfl rfl
      · exact h
    · exact h

theorem IsFresh.advance (h : l.IsFresh now) (packetId : UInt16) (pubrel : Bytes) :
    (l.advanceToPubrel packetId pubrel).1.IsFresh now := by
  unfold advanceToPubrel
  dsimp only
  split
  · rename_i t ht
    obtain ⟨hfound, _⟩ := Option.filter_eq_some_iff.mp ht
    obtain ⟨hmem, hkey⟩ := Outbox.of_find?_eq_some hfound
    have herased := l.outbox.others_sublist (.publish, packetId)
    have hless : (l.outbox.others (.publish, packetId)).length < l.outbox.entries.length := by
      apply List.length_filter_lt_length_iff_exists.mpr
      exact ⟨t, hmem, by simpa using hkey⟩
    let released : Tracked := { t with kind := .pubrel, packet := pubrel }
    have hothers := (l.outbox.erase .publish packetId).others_sublist released.key
    unfold Outbox.enqueue
    split
    · refine ⟨fun x hx => ?_, ?_⟩
      · rcases List.mem_append.mp hx with hx | hx
        · exact h.young x (herased.subset (hothers.subset hx))
        · rw [List.mem_singleton.mp hx]
          exact h.young t hmem
      · have hle : _ ≤ (l.outbox.others (.publish, packetId)).length := hothers.length_le
        have hfew : l.outbox.entries.length ≤ l.maximum := h.few
        change (_ ++ [released]).length ≤ l.maximum
        rw [List.length_append, List.length_singleton]
        exact Nat.le_trans (Nat.succ_le_of_lt (Nat.lt_of_le_of_lt hle hless)) hfew
    · exact h.of_sublist herased rfl rfl
  · split
    · split
      · exact h.of_sublist (List.Sublist.refl _) rfl rfl
      · exact h
    · exact h

theorem IsFresh.move (h : l.IsFresh now) {m : Move} (hm : m.IsOwn) : (l.move m).IsFresh now := by
  cases m with
  | begin now o => exact hm.elim
  | abandon kind packetId => exact hm.elim
  | resolve kind packetId => exact h.resolve kind packetId
  | advance packetId pubrel => exact h.advance packetId pubrel
  | evict now' =>
    refine h.of_sublist ?_ rfl rfl
    exact (List.drop_sublist _ _).trans List.filter_sublist
  | clear => exact h.of_sublist (List.nil_sublist _) rfl rfl
  | setState state => exact h.of_sublist (List.Sublist.refl _) rfl rfl

end Ledger

end Mqtt
