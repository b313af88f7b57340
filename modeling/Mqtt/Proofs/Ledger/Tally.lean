import Mathlib.Data.List.DropRight
import Mqtt.Proofs.Ledger.Moves

/-!
What calls on a ledger came to, as a list of deeds. Packet ids may collide here: nothing is asked of
them. Whatever is acknowledged was issued before, and was not acknowledged already.
-/

namespace Mqtt
set_option autoImplicit false

/-- What is put behind a list with none that ends the search belongs to its end. -/
theorem rtakeWhile_append {α : Type} {p : α → Bool} {xs new : List α} (h : ∀ x ∈ new, p x = true) :
    (xs ++ new).rtakeWhile p = xs.rtakeWhile p ++ new := by
  induction new using List.reverseRecOn with
  | nil => rw [List.append_nil, List.append_nil]
  | append_singleton new x ih =>
    rw [List.forall_mem_append, List.forall_mem_singleton] at h
    rw [← List.append_assoc, List.rtakeWhile_concat_pos _ _ _ h.2, ih h.1, List.append_assoc]

namespace Outbox

variable {o : Outbox} {t : Tracked} (p : Tracked → Bool)

theorem countP_others {key : PacketType × UInt16} (ht : t ∈ o.entries) (hkey : t.key = key) :
    (o.others key).countP p + [t].countP p ≤ o.entries.countP p := by
  have hsplit := List.countP_eq_countP_filter_add o.entries p fun x => x.key ≠ key
  have hmem : t ∈ o.entries.filter fun x => !(decide (x.key ≠ key)) := by
    rw [List.mem_filter]
    simp [ht, hkey]
  have hone := (List.singleton_sublist.mpr hmem).countP_le (p := p)
  unfold others
  omega

theorem countP_enqueue : (o.enqueue t).1.entries.countP p ≤ o.entries.countP p + [t].countP p := by
  unfold enqueue
  split
  · have hsub := (o.others_sublist t.key).countP_le (p := p)
    change (o.others t.key ++ [t]).countP p ≤ _
    rw [List.countP_append]
    omega
  · exact Nat.le_add_right _ _

end Outbox

/-- A PUBLISH that is tracked, and not until it is released, has QoS 1. -/
theorem Operation.qos_of_not_awaitsPubrec (o : Operation) (ho : o.IsTracked)
    (hkind : o.kind = .publish) {now : Nat} {out : Outgoing}
    (h : (Ledger.issued now o out).awaitsPubrec = false) : o.qos = .atLeastOnce := by
  cases o with
  | publish topic payload qos retain =>
    cases qos with
    | atMostOnce => exact absurd rfl ho
    | atLeastOnce => rfl
    | exactlyOnce => cases h
  | subscribe filter qos => cases hkind
  | unsubscribe filter => cases hkind

namespace Ledger

/-- What a call came to. -/
inductive Deed where
  | issued (kind : PacketType) (qos : QoS) (packetId : UInt16)
  /-- An acknowledgement completed an operation. -/
  | completed (kind : PacketType) (packetId : UInt16)
  /-- The receipt of a QoS 2 PUBLISH was confirmed. -/
  | released (packetId : UInt16)
  | evicted (t : Tracked)
  | cleared
deriving DecidableEq, Repr

def deedsOf (l : Ledger) : Move → List Deed
  | .begin now o =>
    match (l.begin now o).2 with
    | .ok out => [.issued o.kind o.qos out.packetId]
    | .error _ => []
  | .resolve kind packetId =>
    if (l.resolve kind packetId).2 then [.completed kind packetId] else []
  | .advance packetId pubrel =>
    if (l.advanceToPubrel packetId pubrel).2 then [.released packetId] else []
  | .evict now => (l.tracked.filter fun t => t ∉ (l.evictStale now).tracked).map Deed.evicted
  | .clear => [.cleared]
  | .abandon .. | .setState _ => []

def moveAll (l : Ledger) (moves : List Move) : Ledger := moves.foldl move l

def deeds (l : Ledger) : List Move → List Deed
  | [] => []
  | m :: moves => l.deedsOf m ++ (l.move m).deeds moves

theorem moveAll_append (l : Ledger) (front back : List Move) :
    l.moveAll (front ++ back) = (l.moveAll front).moveAll back := List.foldl_append

theorem deeds_append (l : Ledger) (front back : List Move) :
    l.deeds (front ++ back) = l.deeds front ++ (l.moveAll front).deeds back := by
  induction front generalizing l with
  | nil => rfl
  | cons m front ih =>
    rw [List.cons_append, deeds, deeds, ih, List.append_assoc]
    rfl

/-- The deeds after the operations were last forgotten. -/
def sinceCleared (ds : List Deed) : List Deed := ds.rtakeWhile fun d => d ≠ .cleared

theorem sinceCleared_append {ds new : List Deed} (h : .cleared ∉ new) :
    sinceCleared (ds ++ new) = sinceCleared ds ++ new := by
  refine rtakeWhile_append fun d hd => ?_
  have hne : d ≠ .cleared := fun heq => h (heq ▸ hd)
  simpa using hne

theorem sinceCleared_cleared (ds : List Deed) : sinceCleared (ds ++ [.cleared]) = [] :=
  List.rtakeWhile_concat_neg _ _ _ (by simp)

theorem cleared_mem_deedsOf {l : Ledger} {m : Move} (h : .cleared ∈ l.deedsOf m) : m = .clear := by
  cases m with
  | clear => rfl
  | begin now o =>
    unfold deedsOf at h
    dsimp only at h
    split at h <;> simp at h
  | evict now => simp [deedsOf] at h
  | _ => simp [deedsOf] at h

/-! ### How many operations wait -/

section
variable {l : Ledger} (p : Tracked → Bool)

theorem countP_tracked : l.tracked.countP p =
    l.outbox.entries.countP p + l.pending.toList.countP p := List.countP_append

theorem countP_preempt : l.preempt.outbox.entries.countP p ≤ l.tracked.countP p := by
  have htracked := @countP_tracked l p
  unfold preempt
  cases hp : l.pending with
  | none =>
    dsimp only
    omega
  | some t =>
    have hqueued := @Outbox.countP_enqueue l.outbox t p
    rw [hp] at htracked
    exact Nat.le_trans hqueued (Nat.le_of_eq htracked.symm)

theorem countP_track (t : Tracked) :
    (l.track t).tracked.countP p ≤ l.tracked.countP p + [t].countP p := by
  have hpreempt := @countP_preempt l p
  have htracked := @countP_tracked (l.track t) p
  have hentries : (l.track t).outbox.entries = l.preempt.outbox.entries := rfl
  have hpending : (l.track t).pending.toList = [t] := rfl
  rw [hentries, hpending] at htracked
  omega

theorem countP_begin {now : Nat} {o : Operation} {out : Outgoing} (ho : o.IsTracked)
    (h : (l.begin now o).2 = .ok out) : (l.begin now o).1.tracked.countP p ≤
      l.tracked.countP p + [issued now o out].countP p := by
  rw [begin_eq ho] at h ⊢
  obtain ⟨_, encoder, hl⟩ := beginTracked_of_ok h
  rw [hl]
  exact @countP_track { l with encoder } p (issued now o out)

/-- The newest operation is gone. -/
theorem countP_no_pending {t : Tracked} (ht : l.pending = some t) :
    { l with pending := none }.tracked.countP p + [t].countP p = l.tracked.countP p := by
  rw [countP_tracked, countP_tracked, ht]
  rfl

theorem countP_erase {t : Tracked} {kind : PacketType} {packetId : UInt16}
    (ht : l.outbox.find? kind packetId = some t) :
    { l with outbox := l.outbox.erase kind packetId }.tracked.countP p + [t].countP p ≤
      l.tracked.countP p := by
  obtain ⟨hmem, hkey⟩ := Outbox.of_find?_eq_some ht
  have hothers := Outbox.countP_others p hmem hkey
  rw [countP_tracked, countP_tracked]
  change (l.outbox.others (kind, packetId)).countP p + _ + _ ≤ _
  dsimp only
  omega

/-- An acknowledgement takes one operation away, if it completes one. -/
theorem countP_resolve (kind : PacketType) (packetId : UInt16) :
    ((l.resolve kind packetId).2 = true ∧ ∃ t : Tracked, t.key = (kind, packetId)
      ∧ t.awaitsPubrec = false ∧ ∀ p : Tracked → Bool,
        (l.resolve kind packetId).1.tracked.countP p + [t].countP p ≤ l.tracked.countP p)
    ∨ l.resolve kind packetId = (l, false) := by
  unfold resolve
  cases ho : l.outbox.find? kind packetId with
  | some t =>
    dsimp only
    cases hawaits : t.awaitsPubrec with
    | true => exact .inr rfl
    | false =>
      exact .inl ⟨rfl, t, (Outbox.of_find?_eq_some ho).2, hawaits, fun p => countP_erase p ho⟩
  | none =>
    dsimp only
    cases hp : l.pending with
    | none => exact .inr rfl
    | some t =>
      dsimp only
      split
      · rename_i hmatch
        obtain ⟨hkey, hawaits⟩ : t.key = (kind, packetId) ∧ t.awaitsPubrec = false := by
          simpa using hmatch
        exact .inl ⟨rfl, t, hkey, hawaits, fun p => Nat.le_of_eq (countP_no_pending p hp)⟩
      · exact .inr rfl

/-- A PUBREC puts one operation in the place of another, if it releases one. -/
theorem countP_advance (packetId : UInt16) (pubrel : Bytes) :
    ((l.advanceToPubrel packetId pubrel).2 = true ∧ ∃ t : Tracked, t.key = (.publish, packetId)
      ∧ t.awaitsPubrec = true ∧ ∀ p : Tracked → Bool,
        (l.advanceToPubrel packetId pubrel).1.tracked.countP p + [t].countP p ≤
          l.tracked.countP p + [released pubrel t].countP p)
    ∨ l.advanceToPubrel packetId pubrel = (l, false) := by
  unfold advanceToPubrel
  dsimp only
  cases ho : (l.outbox.find? .publish packetId).filter Tracked.awaitsPubrec with
  | some t =>
    obtain ⟨hfind, hawaits⟩ := Option.filter_eq_some_iff.mp ho
    refine .inl ⟨rfl, t, (Outbox.of_find?_eq_some hfind).2, hawaits, fun p => ?_⟩
    have herase := countP_erase p hfind
    have hput := @Outbox.countP_enqueue (l.outbox.erase .publish packetId) (released pubrel t) p
    rw [countP_tracked] at herase ⊢
    dsimp only at herase ⊢
    change
      ((l.outbox.erase .publish packetId).enqueue (released pubrel t)).1.entries.countP p + _ + _
      ≤ _
    omega
  | none =>
    dsimp only
    cases hp : l.pending with
    | none => exact .inr rfl
    | some t =>
      dsimp only
      split
      · rename_i hmatch
        obtain ⟨hkey, hawaits⟩ : t.key = (.publish, packetId) ∧ t.awaitsPubrec = true := by
          simpa using hmatch
        refine .inl ⟨rfl, t, hkey, hawaits, fun p => ?_⟩
        rw [countP_tracked, countP_tracked, hp]
        change _ + [released pubrel t].countP p + [t].countP p ≤ _ + [t].countP p + _
        dsimp only
        omega
      · exact .inr rfl

theorem countP_abandon (kind : PacketType) (packetId : UInt16) :
    (l.abandon kind packetId).tracked.countP p ≤ l.tracked.countP p := by
  rw [countP_tracked, countP_tracked]
  unfold abandon
  split
  · exact Nat.add_le_add_left (Nat.zero_le _) _
  · exact Nat.add_le_add_right ((l.outbox.others_sublist _).countP_le) _

end

/-! ### Accounts -/

/-- What is drawn on, what is still owed, and what pays for it. -/
structure Account where
  spends : Deed → Bool
  owes : Tracked → Bool
  pays : Deed → Bool
  issuing : ∀ (now : Nat) (o : Operation) (out : Outgoing),
    spends (.issued o.kind o.qos out.packetId) = false
    ∧ (o.IsTracked → owes (issued now o out) = true →
      pays (.issued o.kind o.qos out.packetId) = true)
  completing : ∀ t : Tracked, t.awaitsPubrec = false →
    spends (.completed t.kind t.packetId) = true → owes t = true
  releasing : ∀ (t : Tracked) (pubrel : Bytes), t.kind = .publish → t.awaitsPubrec = true →
    [Deed.released t.packetId].countP spends + [released pubrel t].countP owes ≤
      [t].countP owes + [Deed.released t.packetId].countP pays
  evicting : ∀ t : Tracked, spends (.evicted t) = false

namespace Account

variable {a : Account} {l : Ledger} {ds : List Deed}

/-- What was drawn and what is owed has been paid for. -/
def Balanced (a : Account) (l : Ledger) (ds : List Deed) : Prop :=
  ds.countP a.spends + l.tracked.countP a.owes ≤ ds.countP a.pays

theorem Balanced.begin (h : a.Balanced l ds) (now : Nat) (o : Operation) :
    a.Balanced (l.begin now o).1 (ds ++ l.deedsOf (.begin now o)) := by
  cases hout : (l.begin now o).2 with
  | error e =>
    have hdeeds : l.deedsOf (.begin now o) = [] := by simp only [deedsOf, hout]
    rw [hdeeds, begin_of_error hout, List.append_nil]
    exact h
  | ok out =>
    have hdeeds : l.deedsOf (.begin now o) = [.issued o.kind o.qos out.packetId] := by
      simp only [deedsOf, hout]
    obtain ⟨hspends, hpays⟩ := a.issuing now o out
    have hspent : [Deed.issued o.kind o.qos out.packetId].countP a.spends = 0 := by simp [hspends]
    unfold Balanced at h ⊢
    rw [hdeeds, List.countP_append, List.countP_append, hspent]
    by_cases ho : o.IsTracked
    · -- What is owed grows by no more than what is paid for it.
      have hcount := countP_begin a.owes ho hout
      have hpaid : [issued now o out].countP a.owes ≤
          [Deed.issued o.kind o.qos out.packetId].countP a.pays := by
        by_cases howes : a.owes (issued now o out) = true
        · simp [howes, hpays ho howes]
        · simp [howes]
      omega
    · rw [begin_of_not_tracked ho]
      omega

theorem Balanced.resolve (h : a.Balanced l ds) (kind : PacketType) (packetId : UInt16) :
    a.Balanced (l.resolve kind packetId).1 (ds ++ l.deedsOf (.resolve kind packetId)) := by
  unfold deedsOf
  dsimp only
  rcases @countP_resolve l kind packetId with ⟨htrue, t, hkey, hawaits, hcount⟩ | hsame
  · -- Whatever is drawn now was owed until now.
    have hspent : [Deed.completed kind packetId].countP a.spends ≤ [t].countP a.owes := by
      obtain ⟨hkind, hid⟩ := Prod.mk.inj hkey
      have hcompleting := a.completing t hawaits
      rw [hkind, hid] at hcompleting
      by_cases hspends : a.spends (.completed kind packetId) = true
      · simp [hspends, hcompleting hspends]
      · simp [hspends]
    have hcounted := hcount a.owes
    unfold Balanced at h ⊢
    rw [if_pos htrue, List.countP_append, List.countP_append]
    omega
  · rw [hsame, if_neg Bool.false_ne_true, List.append_nil]
    exact h

theorem Balanced.advance (h : a.Balanced l ds) (packetId : UInt16) (pubrel : Bytes) :
    a.Balanced (l.advanceToPubrel packetId pubrel).1
      (ds ++ l.deedsOf (.advance packetId pubrel)) := by
  unfold deedsOf
  dsimp only
  rcases @countP_advance l packetId pubrel with ⟨htrue, t, hkey, hawaits, hcount⟩ | hsame
  · obtain ⟨hkind, hid⟩ := Prod.mk.inj hkey
    have hreleasing := a.releasing t pubrel hkind hawaits
    have hcounted := hcount a.owes
    unfold Balanced at h ⊢
    rw [if_pos htrue, List.countP_append, List.countP_append]
    rw [hid] at hreleasing
    omega
  · rw [hsame, if_neg Bool.false_ne_true, List.append_nil]
    exact h

theorem Balanced.evict (h : a.Balanced l ds) (now : Nat) :
    a.Balanced (l.evictStale now) (ds ++ l.deedsOf (.evict now)) := by
  have hcount := (tracked_evictStale_sublist l now).countP_le (p := a.owes)
  have hspent : (l.deedsOf (.evict now)).countP a.spends = 0 := by
    rw [List.countP_eq_zero]
    intro d hd
    obtain ⟨t, _, ht⟩ := List.mem_map.mp hd
    rw [← ht, a.evicting]
    exact Bool.false_ne_true
  unfold Balanced at h ⊢
  rw [List.countP_append, List.countP_append, hspent]
  omega

theorem Balanced.move (h : a.Balanced l (sinceCleared ds)) (m : Move) :
    a.Balanced (l.move m) (sinceCleared (ds ++ l.deedsOf m)) := by
  -- Clearing starts the count again with nothing owed; any other move only adds its deeds.
  by_cases hclear : m = .clear
  · subst hclear
    change a.Balanced l.clearTracked (sinceCleared (ds ++ [.cleared]))
    rw [sinceCleared_cleared]
    exact Nat.le_refl 0
  · rw [sinceCleared_append fun hmem => hclear (cleared_mem_deedsOf hmem)]
    cases m with
    | begin now o => exact h.begin now o
    | resolve kind packetId => exact h.resolve kind packetId
    | advance packetId pubrel => exact h.advance packetId pubrel
    | evict now => exact h.evict now
    | clear => exact absurd rfl hclear
    | abandon kind packetId =>
      have hcount := @countP_abandon l a.owes kind packetId
      change a.Balanced (l.abandon kind packetId) (_ ++ [])
      unfold Balanced at h ⊢
      rw [List.append_nil]
      omega
    | setState state =>
      change a.Balanced { l with state } (_ ++ [])
      rw [List.append_nil]
      exact h

theorem Balanced.moveAll (h : a.Balanced l (sinceCleared ds)) (moves : List Move) :
    a.Balanced (l.moveAll moves) (sinceCleared (ds ++ l.deeds moves)) := by
  induction moves generalizing l ds with
  | nil =>
    unfold deeds
    rw [List.append_nil]
    exact h
  | cons m moves ih =>
    unfold deeds
    rw [← List.append_assoc]
    exact ih (h.move m)

/-- No more is ever drawn than was paid for, since the operations were last forgotten. -/
theorem spent_le_paid (a : Account) (c : Config) (moves : List Move) :
    (sinceCleared ((Ledger.new c).deeds moves)).countP a.spends ≤
      (sinceCleared ((Ledger.new c).deeds moves)).countP a.pays := by
  have hnew : a.Balanced (.new c) (sinceCleared []) := Nat.le_refl 0
  have hbalanced := hnew.moveAll moves
  rw [List.nil_append] at hbalanced
  exact Nat.le_trans (Nat.le_add_right _ _) hbalanced

/-- Acknowledgements that complete an operation of a kind, except those of a PUBREL. -/
def acknowledging (kind : PacketType) (hkind : kind ≠ .pubrel) (packetId : UInt16) : Account where
  spends d := d = .completed kind packetId
  owes t := t.key = (kind, packetId) && !t.awaitsPubrec
  pays
    | .issued k qos i => k = kind && i = packetId && (kind ≠ .publish || qos = .atLeastOnce)
    | _ => false
  issuing now o out := by
    refine ⟨by simp, fun ho howes => ?_⟩
    obtain ⟨⟨hk, hi⟩, hawaits⟩ : (o.kind = kind ∧ out.packetId = packetId)
        ∧ (issued now o out).awaitsPubrec = false := by
      simpa [Tracked.key, issued] using howes
    have hqos : kind = .publish → o.qos = .atLeastOnce := by
      intro hp
      exact o.qos_of_not_awaitsPubrec ho (hk.trans hp) hawaits
    by_cases hp : kind = .publish
    · simp [hk, hi, hqos hp]
    · simp [hk, hi, hp]
  completing t hawaits hspends := by
    have hkey : t.kind = kind ∧ t.packetId = packetId := by simpa using hspends
    simp [Tracked.key, hkey, hawaits]
  releasing t pubrel hpublish hawaits := by
    simp [released, Tracked.key, hkind.symm]
  evicting t := by simp

/-- PUBCOMPs that complete a QoS 2 PUBLISH. -/
def confirming (packetId : UInt16) : Account where
  spends d := d = .completed .pubrel packetId
  owes t := t.key = (.pubrel, packetId)
  pays d := d = .released packetId
  issuing now o out := by
    have hkind : o.kind ≠ .pubrel := by cases o <;> exact nofun
    refine ⟨by simp, fun _ howes => ?_⟩
    simp [Tracked.key, issued, hkind] at howes
  completing t hawaits hspends := by
    have hkey : t.kind = .pubrel ∧ t.packetId = packetId := by simpa using hspends
    simp [Tracked.key, hkey]
  releasing t pubrel hpublish hawaits := by
    by_cases hid : t.packetId = packetId
    · simp [released, Tracked.key, hid]
    · simp [released, Tracked.key, hid]
  evicting t := by simp

/-- PUBRECs that release a QoS 2 PUBLISH. -/
def releasingOf (packetId : UInt16) : Account where
  spends d := d = .released packetId
  owes t := t.key = (.publish, packetId) && t.awaitsPubrec
  pays d := d = .issued .publish .exactlyOnce packetId
  issuing now o out := by
    refine ⟨by simp, fun _ howes => ?_⟩
    obtain ⟨⟨hk, hi⟩, hq⟩ : (o.kind = .publish ∧ out.packetId = packetId)
        ∧ (issued now o out).awaitsPubrec = true := by
      simpa [Tracked.key, issued] using howes
    have hqos : o.qos = .exactlyOnce := of_decide_eq_true (Bool.and_eq_true_iff.mp hq).2
    simp [hk, hi, hqos]
  completing t hawaits hspends := by simp at hspends
  releasing t pubrel hpublish hawaits := by
    by_cases hid : t.packetId = packetId
    · simp [released, Tracked.key, hpublish, hawaits, hid]
    · simp [released, Tracked.key, hid]
  evicting t := by simp

end Account

end Ledger
end Mqtt
