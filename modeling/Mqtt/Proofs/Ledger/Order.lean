import Mathlib.Data.List.Infix
import Mqtt.Proofs.Ledger.Numbering

/-!
# The order of the outbox

Operations enter the outbox in the order they were issued. The one exception is a QoS 2 message: its
PUBREL goes to the young end and keeps the time of the PUBLISH. So the oldest are evicted first just
as long as no PUBREL is put behind an operation that was issued after its own.
-/

namespace Mqtt
set_option autoImplicit false

/-- Whether the entries stand in the order of their times. -/
def Outbox.InOrder (o : Outbox) : Prop := o.entries.Pairwise fun s t => s.since ≤ t.since

instance (o : Outbox) : Decidable o.InOrder :=
  inferInstanceAs (Decidable (o.entries.Pairwise fun s t => s.since ≤ t.since))

namespace Ledger

variable {l : Ledger} {m : Move} {time : Nat}

/-- When an operation is issued, if one is. -/
def Move.issuedAt? : Move → Option Nat
  | .begin now _ => some now
  | _ => none

/-- Whether a PUBREC puts the PUBREL of an entry behind a younger one. -/
def ReleasesLate (l : Ledger) : Move → Prop
  | .advance packetId _ => ∃ t x, l.outbox.find? .publish packetId = some t ∧ t.awaitsPubrec = true
      ∧ x ∈ l.outbox.entries ∧ x.key ≠ (.pubrel, packetId) ∧ t.since < x.since
  | _ => False

/-! ### What a call does to the places -/

/-- A call takes operations away, or puts the newest one behind all others, or gives an entry a new
place at the young end. -/
inductive Places (l : Ledger) (m : Move) : Prop where
  | kept (entries : (l.move m).outbox.entries.Sublist l.outbox.entries)
    (pending : ∀ t' ∈ (l.move m).pending, ∃ t ∈ l.pending, t'.since = t.since)
    (timely : ¬ l.ReleasesLate m)
  | issued (now : Nat) (o : Operation) (called : m = .begin now o)
    (entries : (l.move m).outbox.entries.Sublist l.tracked)
    (pending : ∀ t ∈ (l.move m).pending, t.since = now)
  | released (packetId : UInt16) (pubrel : Bytes) (t : Tracked)
    (called : m = .advance packetId pubrel)
    (found : l.outbox.find? .publish packetId = some t) (awaits : t.awaitsPubrec = true)
    (entries : (l.move m).outbox.entries =
      (l.outbox.erase .publish packetId).others (.pubrel, packetId) ++ [released pubrel t])
    (pending : (l.move m).pending = l.pending)

theorem Places.of_forgotten (timely : ¬ l.ReleasesLate m)
    (entries : (l.move m).outbox.entries.Sublist l.outbox.entries)
    (pending : (l.move m).pending = none ∨ (l.move m).pending = l.pending) : l.Places m := by
  refine .kept entries ?_ timely
  intro t ht
  rcases pending with hnone | hsame
  · rw [hnone] at ht
    cases ht
  · exact ⟨t, hsame ▸ ht, rfl⟩

theorem entries_preempt_sublist (l : Ledger) : l.preempt.outbox.entries.Sublist l.tracked := by
  unfold preempt tracked
  cases l.pending with
  | none => exact List.sublist_append_left _ _
  | some t =>
    dsimp only
    unfold Outbox.enqueue
    split
    · exact (l.outbox.others_sublist t.key).append (List.Sublist.refl [t])
    · exact List.sublist_append_left _ _

theorem places_begin (l : Ledger) (now : Nat) (o : Operation) : l.Places (.begin now o) := by
  have hsame : (l.begin now o).1 = l → l.Places (.begin now o) := by
    intro h
    have hmove : l.move (.begin now o) = l := h
    apply Places.of_forgotten id
    · rw [hmove]
    · exact .inr (by rw [hmove])
  cases hout : (l.begin now o).2 with
  | error e => exact hsame (begin_of_error hout)
  | ok out =>
    by_cases ho : o.IsTracked
    · have hbegin := begin_eq ho l now
      rw [hbegin] at hout
      obtain ⟨_, encoder, hl'⟩ := beginTracked_of_ok hout
      have hmove : l.move (.begin now o) =
          { l with encoder }.track ⟨out.packetId, o.kind, o.qos, out.bytes, now⟩ :=
        (congrArg Prod.fst hbegin).trans hl'
      refine .issued now o rfl ?_ ?_
      · rw [hmove]
        exact entries_preempt_sublist { l with encoder }
      · rw [hmove]
        intro t ht
        cases ht
        rfl
    · exact hsame (begin_of_not_tracked ho)

theorem places_resolve (l : Ledger) (kind : PacketType) (packetId : UInt16) :
    l.Places (.resolve kind packetId) := by
  have hresolve : (l.resolve kind packetId).1.outbox.entries.Sublist l.outbox.entries
      ∧ ((l.resolve kind packetId).1.pending = none
        ∨ (l.resolve kind packetId).1.pending = l.pending) := by
    unfold resolve
    split
    · split
      · exact ⟨.refl _, .inr rfl⟩
      · exact ⟨l.outbox.others_sublist _, .inr rfl⟩
    · split
      · split
        · exact ⟨.refl _, .inl rfl⟩
        · exact ⟨.refl _, .inr rfl⟩
      · exact ⟨.refl _, .inr rfl⟩
  exact .of_forgotten id hresolve.1 hresolve.2

theorem places_abandon (l : Ledger) (kind : PacketType) (packetId : UInt16) :
    l.Places (.abandon kind packetId) := by
  have habandon : (l.abandon kind packetId).outbox.entries.Sublist l.outbox.entries
      ∧ ((l.abandon kind packetId).pending = none
        ∨ (l.abandon kind packetId).pending = l.pending) := by
    unfold abandon
    split
    · exact ⟨.refl _, .inl rfl⟩
    · exact ⟨l.outbox.others_sublist _, .inr rfl⟩
  exact .of_forgotten id habandon.1 habandon.2

theorem places_advance (l : Ledger) (packetId : UInt16) (pubrel : Bytes) :
    l.Places (.advance packetId pubrel) := by
  cases ho : (l.outbox.find? .publish packetId).filter Tracked.awaitsPubrec with
  | some t =>
    obtain ⟨hfound, hawaits⟩ := Option.filter_eq_some_iff.mp ho
    have hadvance : (l.advanceToPubrel packetId pubrel).1 = { l with
        outbox := ((l.outbox.erase .publish packetId).enqueue (released pubrel t)).1 } := by
      unfold advanceToPubrel
      dsimp only
      rw [ho]
      rfl
    have hid : t.packetId = packetId := packetId_of_key (Outbox.of_find?_eq_some hfound).2
    have hkey : (released pubrel t).key = (.pubrel, packetId) := congrArg (Prod.mk _) hid
    have hpending : (l.advanceToPubrel packetId pubrel).1.pending = l.pending := by rw [hadvance]
    refine .released packetId pubrel t rfl hfound hawaits ?_ hpending
    rw [← hkey, ← Outbox.entries_replace hfound]
    exact congrArg (fun l => l.outbox.entries) hadvance
  | none =>
    have htimely : ¬ l.ReleasesLate (.advance packetId pubrel) := by
      intro ⟨t, x, hfound, hawaits, _⟩
      rw [hfound, Option.filter_some, if_pos hawaits] at ho
      cases ho
    have hadvance : (l.advanceToPubrel packetId pubrel).1.outbox.entries = l.outbox.entries
        ∧ ∀ t' ∈ (l.advanceToPubrel packetId pubrel).1.pending, ∃ t ∈ l.pending,
          t'.since = t.since := by
      unfold advanceToPubrel
      dsimp only
      rw [ho]
      cases hp : l.pending with
      | none =>
        refine ⟨rfl, fun t ht => ?_⟩
        rw [hp] at ht
        exact ⟨t, ht, rfl⟩
      | some t =>
        dsimp only
        split
        · refine ⟨rfl, fun t' ht' => ⟨t, rfl, ?_⟩⟩
          cases ht'
          rfl
        · refine ⟨rfl, fun t' ht' => ?_⟩
          rw [hp] at ht'
          exact ⟨t', ht', rfl⟩
    exact .kept (hadvance.1 ▸ .refl _) hadvance.2 htimely

theorem places (l : Ledger) (m : Move) : l.Places m := by
  cases m with
  | begin now o => exact l.places_begin now o
  | resolve kind packetId => exact l.places_resolve kind packetId
  | advance packetId pubrel => exact l.places_advance packetId pubrel
  | abandon kind packetId => exact l.places_abandon kind packetId
  | evict now =>
    exact .of_forgotten id ((List.drop_sublist _ _).trans List.filter_sublist) (.inr rfl)
  | clear => exact .of_forgotten id (List.nil_sublist _) (.inl rfl)
  | setState state => exact .of_forgotten id (.refl _) (.inr rfl)

/-! ### Times -/

/-- What the times of the operations always keep to, whatever was released: none is later than the
last call, the newest operation is the last one issued, and of the others all but the PUBRELs are in
order. -/
structure Chronological (l : Ledger) (time : Nat) : Prop where
  issued : ∀ t ∈ l.tracked, t.since ≤ time
  newest : ∀ s ∈ l.outbox.entries, ∀ t ∈ l.pending, s.since ≤ t.since
  unreleased : (l.outbox.entries.filter fun t => t.kind ≠ .pubrel).Pairwise
    fun s t => s.since ≤ t.since

theorem chronological_new (c : Config) (time : Nat) : (Ledger.new c).Chronological time where
  issued t ht := by cases ht
  newest s hs := by cases hs
  unreleased := .nil

variable (h : l.Chronological time)
include h

theorem Chronological.issued_move (hm : ∀ now ∈ m.issuedAt?, time ≤ now) :
    ∀ t ∈ (l.move m).tracked, t.since ≤ m.issuedAt?.getD time := by
  have hle : time ≤ m.issuedAt?.getD time := by
    cases hissued : m.issuedAt? with
    | none => exact Nat.le_refl _
    | some now => exact hm now hissued
  intro t' ht'
  rcases origin_of_any_move m ht' with ⟨t, ht, hcontinues⟩ | ⟨now, o, out, rfl, _, _, rfl⟩
  · rw [hcontinues.since]
    exact Nat.le_trans (h.issued t ht) hle
  · exact Nat.le_refl _

theorem Chronological.newest_move (hm : ∀ now ∈ m.issuedAt?, time ≤ now) :
    ∀ s ∈ (l.move m).outbox.entries, ∀ t ∈ (l.move m).pending, s.since ≤ t.since := by
  intro s hs t' ht'
  cases l.places m with
  | kept entries pending _ =>
    obtain ⟨t, ht, hsince⟩ := pending t' ht'
    rw [hsince]
    exact h.newest s (entries.subset hs) t ht
  | issued now o called entries pending =>
    rw [pending t' ht']
    exact Nat.le_trans (h.issued s (entries.subset hs)) (hm now (by rw [called]; rfl))
  | released packetId pubrel t called found awaits entries pending =>
    rw [pending] at ht'
    rw [entries] at hs
    rcases List.mem_append.mp hs with hs | hs
    · have hmem := (Outbox.mem_others.mp (Outbox.mem_others.mp hs).1).1
      exact h.newest s hmem t' ht'
    · rw [List.mem_singleton.mp hs]
      exact h.newest t (Outbox.of_find?_eq_some found).1 t' ht'

theorem Chronological.unreleased_tracked :
    (l.tracked.filter fun t => t.kind ≠ .pubrel).Pairwise fun s t => s.since ≤ t.since := by
  unfold tracked
  rw [List.filter_append, List.pairwise_append]
  refine ⟨h.unreleased, ?_, ?_⟩
  · apply List.Pairwise.filter
    cases l.pending with
    | none => exact .nil
    | some t => exact List.pairwise_singleton _ t
  · intro s hs t ht
    have ht' : t ∈ l.pending := Option.mem_toList.mp (List.mem_of_mem_filter ht)
    exact h.newest s (List.mem_of_mem_filter hs) t ht'

/-- A PUBREL does not count, so its new place does not either. -/
theorem Chronological.unreleased_move :
    ((l.move m).outbox.entries.filter fun t => t.kind ≠ .pubrel).Pairwise
      fun s t => s.since ≤ t.since := by
  cases l.places m with
  | kept entries _ _ => exact h.unreleased.sublist (entries.filter _)
  | issued now o called entries _ => exact h.unreleased_tracked.sublist (entries.filter _)
  | released packetId pubrel t called found awaits entries _ =>
    have hsub : ((l.outbox.erase .publish packetId).others (.pubrel, packetId)).Sublist
        l.outbox.entries :=
      ((l.outbox.erase .publish packetId).others_sublist _).trans (l.outbox.others_sublist _)
    have hpubrel : [released pubrel t].filter (fun t => t.kind ≠ .pubrel) = [] := rfl
    rw [entries, List.filter_append, hpubrel, List.append_nil]
    exact h.unreleased.sublist (hsub.filter _)

theorem Chronological.move (hm : ∀ now ∈ m.issuedAt?, time ≤ now) :
    (l.move m).Chronological (m.issuedAt?.getD time) where
  issued := h.issued_move hm
  newest := h.newest_move hm
  unreleased := h.unreleased_move

/-- Where the entries are in order, a call puts them out of order just by a late release. -/
theorem Chronological.inOrder_move_iff (horder : l.outbox.InOrder) :
    (l.move m).outbox.InOrder ↔ ¬ l.ReleasesLate m := by
  cases l.places m with
  | kept entries _ timely => exact iff_of_true (horder.sublist entries) timely
  | issued now o called entries _ =>
    have htracked : l.tracked.Pairwise fun s t => s.since ≤ t.since := by
      unfold tracked
      rw [List.pairwise_append]
      refine ⟨horder, ?_, fun s hs t ht => h.newest s hs t (Option.mem_toList.mp ht)⟩
      cases l.pending with
      | none => exact .nil
      | some t => exact List.pairwise_singleton _ t
    subst called
    exact iff_of_true (htracked.sublist entries) id
  | released packetId pubrel t called found awaits entries _ =>
    subst called
    obtain ⟨hmem, hkey⟩ := Outbox.of_find?_eq_some found
    have hsub : ((l.outbox.erase .publish packetId).others (.pubrel, packetId)).Sublist
        l.outbox.entries :=
      ((l.outbox.erase .publish packetId).others_sublist _).trans (l.outbox.others_sublist _)
    unfold Outbox.InOrder
    rw [entries, List.pairwise_append]
    constructor
    · intro ⟨_, _, hlast⟩ ⟨t', x, hfound, _, hx, hxkey, hlate⟩
      cases found.symm.trans hfound
      -- An entry with the key of the PUBLISH is the PUBLISH itself, which is not late.
      have hother : x.key ≠ (.publish, packetId) := by
        intro hxpublish
        cases (Outbox.find?_eq_some_iff.mpr ⟨hx, hxpublish⟩).symm.trans found
        exact Nat.lt_irrefl _ hlate
      have hrest : x ∈ (l.outbox.erase .publish packetId).others (.pubrel, packetId) :=
        Outbox.mem_others.mpr ⟨Outbox.mem_others.mpr ⟨hx, hother⟩, hxkey⟩
      exact Nat.not_lt.mpr (hlast x hrest _ (List.mem_singleton_self _)) hlate
    · intro htimely
      refine ⟨horder.sublist hsub, List.pairwise_singleton _ _, ?_⟩
      intro x hx t' ht'
      rw [List.mem_singleton.mp ht']
      by_contra hlate
      apply htimely
      exact ⟨t, x, found, awaits, hsub.subset hx, (Outbox.mem_others.mp hx).2, Nat.not_le.mp hlate⟩

omit h

/-! ### Runs -/

/-- Whether the times of the operations that calls issue never go back. -/
def IsSteady (moves : List Move) : Prop := (moves.filterMap Move.issuedAt?).Pairwise (· ≤ ·)

instance (moves : List Move) : Decidable (IsSteady moves) :=
  inferInstanceAs (Decidable ((moves.filterMap Move.issuedAt?).Pairwise (· ≤ ·)))

theorem IsSteady.of_prefix {front moves : List Move} (hsteady : IsSteady moves)
    (hfront : front <+: moves) : IsSteady front :=
  List.Pairwise.sublist (hfront.sublist.filterMap _) hsteady

theorem Chronological.moveAll (h : l.Chronological time) {moves : List Move}
    (htimes : (time :: moves.filterMap Move.issuedAt?).Pairwise (· ≤ ·)) :
    ∃ last, (l.moveAll moves).Chronological last := by
  induction moves generalizing l time with
  | nil => exact ⟨time, h⟩
  | cons m moves ih =>
    have hlater : (m.issuedAt?.getD time :: moves.filterMap Move.issuedAt?).Pairwise (· ≤ ·)
        ∧ ∀ now ∈ m.issuedAt?, time ≤ now := by
      rw [List.filterMap_cons] at htimes
      cases hissued : m.issuedAt? with
      | none =>
        rw [hissued] at htimes
        exact ⟨htimes, fun now hnow => nomatch hnow⟩
      | some now =>
        rw [hissued] at htimes
        obtain ⟨hfirst, hrest⟩ := List.pairwise_cons.mp htimes
        refine ⟨hrest, fun now' hnow' => ?_⟩
        cases hnow'
        exact hfirst now (List.mem_cons_self ..)
    exact ih (h.move hlater.2) hlater.1

variable {c : Config} {moves : List Move}

theorem chronological_of_steady (h : IsSteady moves) :
    ∃ time, ((Ledger.new c).moveAll moves).Chronological time := by
  apply (chronological_new c 0).moveAll
  exact List.pairwise_cons.mpr ⟨fun _ _ => Nat.zero_le _, h⟩

/-- The outbox is in order all through a run just where nothing is released late in it. -/
theorem inOrder_throughout_iff (h : IsSteady moves) :
    (∀ front, front <+: moves → ((Ledger.new c).moveAll front).outbox.InOrder)
      ↔ ∀ front m, front ++ [m] <+: moves → ¬ ((Ledger.new c).moveAll front).ReleasesLate m := by
  have hstep : ∀ front m, front ++ [m] <+: moves →
      ((Ledger.new c).moveAll front).outbox.InOrder →
      (((Ledger.new c).moveAll (front ++ [m])).outbox.InOrder
        ↔ ¬ ((Ledger.new c).moveAll front).ReleasesLate m) := by
    intro front m hprefix horder
    have hfront : front <+: moves := (List.prefix_append front [m]).trans hprefix
    obtain ⟨time, htime⟩ := chronological_of_steady (c := c) (h.of_prefix hfront)
    rw [moveAll_append]
    exact htime.inOrder_move_iff horder
  constructor
  · intro horder front m hprefix
    have hfront : front <+: moves := (List.prefix_append front [m]).trans hprefix
    exact (hstep front m hprefix (horder front hfront)).mp (horder _ hprefix)
  · intro htimely front
    -- The step needs the order before the call, so the induction is on the prefix from its end.
    induction front using List.reverseRecOn with
    | nil =>
      intro _
      exact .nil
    | append_singleton front m ih =>
      intro hprefix
      have hfront : front <+: moves := (List.prefix_append front [m]).trans hprefix
      exact (hstep front m hprefix (ih hfront)).mpr (htimely front m hprefix)

end Ledger

/-! ### Evicting from the old end -/

namespace Outbox

variable {o : Outbox}

theorem evictOldestUntil_of_inOrder (h : o.InOrder) (count : Nat) : ∃ oldest kept,
    o.entries = oldest ++ kept ∧ (o.evictOldestUntil count).1.entries = kept
      ∧ ∀ d ∈ oldest, ∀ t ∈ kept, d.since ≤ t.since := by
  obtain ⟨oldest, kept, hentries, hkept, -⟩ := o.evictOldestUntil_spec count
  refine ⟨oldest, kept, hentries, hkept, ?_⟩
  rw [InOrder, hentries, List.pairwise_append] at h
  exact h.2.2

theorem InOrder.evictExpired (h : o.InOrder) (now age : Nat) : (o.evictExpired now age).1.InOrder :=
  h.sublist List.filter_sublist

end Outbox

namespace Ledger

/-- What is stale is older than what is left, whether it is too old or one too many. -/
theorem evictStale_of_inOrder {l : Ledger} (h : l.outbox.InOrder) (now : Nat) {d t : Tracked}
    (hd : d ∈ l.outbox.entries) (hdropped : d ∉ (l.evictStale now).outbox.entries)
    (ht : t ∈ (l.evictStale now).outbox.entries) : d.since ≤ t.since := by
  obtain ⟨oldest, kept, hentries, hkept, holder⟩ :=
    Outbox.evictOldestUntil_of_inOrder (h.evictExpired now l.expiry) l.maximum
  have hleft : (l.evictStale now).outbox.entries = kept := hkept
  rw [hleft] at hdropped ht
  rw [Outbox.entries_evictExpired] at hentries
  -- One that was dropped for its age is older than the limit, and what is left is not.
  by_cases hyoung : now - d.since ≤ l.expiry
  · have hmem : d ∈ oldest ++ kept := by
      rw [← hentries]
      exact List.mem_filter.mpr ⟨hd, by simpa using hyoung⟩
    exact holder d ((List.mem_append.mp hmem).resolve_right hdropped) t ht
  · have hmem : t ∈ l.outbox.entries.filter fun t => now - t.since ≤ l.expiry := by
      rw [hentries]
      exact List.mem_append_right _ ht
    have hage := of_decide_eq_true (List.mem_filter.mp hmem).2
    omega

/-- On a clock that never goes back, all but the PUBRELs are in order in the outbox. All of it is,
all through a run, just where no PUBREL is put behind an operation that was issued after its own;
then what is evicted was issued no later than what is left. -/
theorem oldest_are_evicted_first {c : Config} {moves : List Move} (h : IsSteady moves) :
    let l := (Ledger.new c).moveAll moves
    (l.outbox.entries.filter fun t => t.kind ≠ .pubrel).Pairwise (fun s t => s.since ≤ t.since)
    ∧ ((∀ front, front <+: moves → ((Ledger.new c).moveAll front).outbox.InOrder)
      ↔ ∀ front m, front ++ [m] <+: moves → ¬ ((Ledger.new c).moveAll front).ReleasesLate m)
    ∧ ((∀ front m, front ++ [m] <+: moves → ¬ ((Ledger.new c).moveAll front).ReleasesLate m) →
      l.outbox.InOrder
      ∧ (∀ count, ∃ oldest kept, l.outbox.entries = oldest ++ kept
        ∧ (l.outbox.evictOldestUntil count).1.entries = kept
        ∧ ∀ d ∈ oldest, ∀ t ∈ kept, d.since ≤ t.since)
      ∧ ∀ now, ∀ d ∈ l.outbox.entries, d ∉ (l.evictStale now).outbox.entries →
        ∀ t ∈ (l.evictStale now).outbox.entries, d.since ≤ t.since) := by
  intro l
  obtain ⟨time, htime⟩ := chronological_of_steady (c := c) h
  refine ⟨htime.unreleased, inOrder_throughout_iff h, fun htimely => ?_⟩
  have horder : l.outbox.InOrder :=
    (inOrder_throughout_iff h).mpr htimely moves (List.prefix_refl _)
  refine ⟨horder, Outbox.evictOldestUntil_of_inOrder horder, ?_⟩
  intro now d hd hdropped t ht
  exact evictStale_of_inOrder horder now hd hdropped ht

/-- The younger of two entries is released, and stays where it is; the older one is evicted. -/
theorem oldest_are_evicted_first_of_release :
    let c := ({ host := "h", outboxMaximumEntries := 1 } : Settings).toConfig "c"
    let moves : List Move := [.setState .connected, .begin 0 (.publish "a" [] .atLeastOnce false),
      .begin 10 (.publish "a" [] .exactlyOnce false),
      .begin 20 (.publish "a" [] .atLeastOnce false), .advance 2 [0x62, 2, 0, 2]]
    let l := (Ledger.new c).moveAll moves
    IsSteady moves ∧ l.outbox.entries.map Tracked.kind = [.publish, .pubrel] ∧ l.outbox.InOrder
      ∧ (l.evictStale 25).outbox.entries.map Tracked.since = [10]
      ∧ ∀ d ∈ l.outbox.entries, d ∉ (l.evictStale 25).outbox.entries →
        ∀ t ∈ (l.evictStale 25).outbox.entries, d.since ≤ t.since := by
  intro c moves l
  have hsteady : IsSteady moves := by decide
  have hall : (∀ front ∈ moves.inits, ((Ledger.new c).moveAll front).outbox.InOrder)
      ∧ l.outbox.entries.map Tracked.kind = [.publish, .pubrel]
      ∧ (l.evictStale 25).outbox.entries.map Tracked.since = [10] := by
    subst l moves c
    decide +kernel
  obtain ⟨-, hiff, hevicted⟩ := oldest_are_evicted_first (c := c) hsteady
  have htimely := hiff.mp fun front hfront => hall.1 front ((List.mem_inits _ _).mpr hfront)
  obtain ⟨horder, -, hstale⟩ := hevicted htimely
  subst l
  exact ⟨hsteady, hall.2.1, horder, hall.2.2, hstale 25⟩

/-- A PUBREL that is put behind a younger message outlives it. -/
theorem youngest_is_evicted :
    let c := ({ host := "h", outboxMaximumEntries := 1 } : Settings).toConfig "c"
    let moves : List Move := [.setState .connected, .begin 0 (.publish "a" [] .exactlyOnce false),
      .begin 10 (.publish "a" [] .atLeastOnce false),
      .begin 20 (.publish "a" [] .atLeastOnce false), .advance 1 [0x62, 2, 0, 1]]
    let l := (Ledger.new c).moveAll moves
    IsSteady moves ∧ ¬ l.outbox.InOrder ∧ l.outbox.entries.map Tracked.since = [10, 0]
      ∧ (l.outbox.evictOldestUntil 1).1.entries.map Tracked.since = [0]
      ∧ (l.evictStale 25).outbox.entries.map Tracked.since = [0] := by
  decide +kernel

end Ledger
end Mqtt
