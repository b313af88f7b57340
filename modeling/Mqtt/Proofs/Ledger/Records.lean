import Mathlib.Logic.Function.Basic
import Mqtt.Proofs.Ledger.Moves

/-!
The operations that wait as one map from kind and packet id to what is remembered of them. Where an
operation is kept, in the newest place or in the outbox, cannot be told from what the calls do.
-/

namespace Mqtt
set_option autoImplicit false

/-- What is remembered of an operation besides its kind and packet id. -/
structure Record where
  qos : QoS
  packet : Bytes
  since : Nat
deriving DecidableEq, Repr

def Tracked.record (t : Tracked) : Record := ⟨t.qos, t.packet, t.since⟩

namespace Ledger
open Function (update)

def records (l : Ledger) (key : PacketType × UInt16) : Option Record :=
  (l.tracked.find? fun t => t.key = key).map Tracked.record

theorem records_eq_some_iff {l : Ledger} (hd : l.Distinct) {key : PacketType × UInt16}
    {r : Record} : l.records key = some r ↔ ∃ t ∈ l.tracked, t.key = key ∧ t.record = r := by
  unfold records
  rw [Option.map_eq_some_iff]
  constructor
  · intro ⟨t, ht, hr⟩
    have hkey := List.find?_some ht
    exact ⟨t, List.mem_of_find?_eq_some ht, by simpa using hkey, hr⟩
  · intro ⟨t, ht, hkey, hr⟩
    refine ⟨t, ?_, hr⟩
    cases hfind : l.tracked.find? fun x => x.key = key with
    | none =>
      have hno := List.find?_eq_none.mp hfind t ht
      simp [hkey] at hno
    | some x =>
      have hx := List.find?_some hfind
      have hxkey : x.key = t.key := by
        rw [hkey]
        simpa using hx
      rw [hd.eq_of_key (List.mem_of_find?_eq_some hfind) ht hxkey]

theorem records_of_mem {l : Ledger} (hd : l.Distinct) {t : Tracked} (ht : t ∈ l.tracked) :
    l.records t.key = some t.record :=
  (records_eq_some_iff hd).mpr ⟨t, ht, rfl, rfl⟩

/-- Maps with the same records are the same. -/
theorem records_ext {l : Ledger} (hd : l.Distinct) {m : PacketType × UInt16 → Option Record}
    (h : ∀ key r, m key = some r ↔ ∃ t ∈ l.tracked, t.key = key ∧ t.record = r) :
    l.records = m := by
  funext key
  apply Option.ext
  intro r
  rw [records_eq_some_iff hd, h]

theorem records_of_drop {l l' : Ledger} (hd : l.Distinct) (hd' : l'.Distinct)
    {key : PacketType × UInt16} (h : ∀ x, x ∈ l'.tracked ↔ x ∈ l.tracked ∧ x.key ≠ key) :
    l'.records = update l.records key none := by
  apply records_ext hd'
  intro key' r
  rw [Function.update_apply]
  constructor
  · intro hr
    split at hr
    · cases hr
    · rename_i hne
      obtain ⟨x, hx, hxkey, hxr⟩ := (records_eq_some_iff hd).mp hr
      exact ⟨x, (h x).mpr ⟨hx, hxkey ▸ hne⟩, hxkey, hxr⟩
  · intro ⟨x, hx, hxkey, hxr⟩
    obtain ⟨hxl, hne⟩ := (h x).mp hx
    rw [if_neg (hxkey ▸ hne)]
    exact (records_eq_some_iff hd).mpr ⟨x, hxl, hxkey, hxr⟩

/-- One operation in the place of the one with a key, if there is one. -/
theorem records_of_replace {l l' : Ledger} (hd : l.Distinct) (hd' : l'.Distinct)
    {key : PacketType × UInt16} {t : Tracked}
    (h : ∀ x, x ∈ l'.tracked ↔ (x ∈ l.tracked ∧ x.key ≠ key) ∨ x = t) :
    l'.records = update (update l.records key none) t.key (some t.record) := by
  have ht : t ∈ l'.tracked := (h t).mpr (.inr rfl)
  apply records_ext hd'
  intro key' r
  rw [Function.update_apply, Function.update_apply]
  constructor
  · intro hr
    split at hr
    · rename_i hkey
      cases hr
      exact ⟨t, ht, hkey.symm, rfl⟩
    · split at hr
      · cases hr
      · rename_i hne
        obtain ⟨x, hx, hxkey, hxr⟩ := (records_eq_some_iff hd).mp hr
        exact ⟨x, (h x).mpr (.inl ⟨hx, hxkey ▸ hne⟩), hxkey, hxr⟩
  · intro ⟨x, hx, hxkey, hxr⟩
    by_cases hkey : key' = t.key
    · have hsame : x = t := hd'.eq_of_key hx ht (hxkey.trans hkey)
      rw [if_pos hkey, ← hxr, hsame]
    · rw [if_neg hkey]
      rcases (h x).mp hx with ⟨hxl, hne⟩ | hxt
      · rw [if_neg (hxkey ▸ hne)]
        exact (records_eq_some_iff hd).mpr ⟨x, hxl, hxkey, hxr⟩
      · rw [hxt] at hxkey
        exact absurd hxkey.symm hkey

/-! ### The calls on the map -/

theorem records_begin {l : Ledger} (hd : l.Distinct) {now : Nat} {o : Operation}
    (ho : o.IsTracked) {out : Outgoing} (hout : (l.begin now o).2 = .ok out)
    (hfree : l.IsFree out.packetId) :
    (l.begin now o).1.records =
      update l.records (o.kind, out.packetId) (some ⟨o.qos, out.bytes, now⟩) := by
  have hd' : (l.begin now o).1.Distinct := by
    apply hd.move (m := .begin now o)
    intro _ out' hout'
    rw [hout] at hout'
    cases hout'
    exact hfree
  have hmembers : ∀ x, x ∈ (l.begin now o).1.tracked ↔
      (x ∈ l.tracked ∧ x.key ≠ (o.kind, out.packetId)) ∨ x = issued now o out := by
    intro x
    rw [tracked_begin hd ho hout, List.mem_append, List.mem_singleton]
    constructor
    · intro hx
      rcases hx with hx | hx
      · exact .inl ⟨hx, fun hkey => hfree x hx (packetId_of_key hkey)⟩
      · exact .inr hx
    · intro hx
      rcases hx with ⟨hx, _⟩ | hx
      · exact .inl hx
      · exact .inr hx
  rw [records_of_replace hd hd' hmembers]
  exact Function.update_idem ..

theorem records_resolve {l : Ledger} (hd : l.Distinct) (kind : PacketType) (packetId : UInt16) :
    ((l.resolve kind packetId).2 = true ↔
      ∃ r, l.records (kind, packetId) = some r ∧ ¬ (kind = .publish ∧ r.qos = .exactlyOnce))
    ∧ (l.resolve kind packetId).1.records =
      if (l.resolve kind packetId).2 then update l.records (kind, packetId) none
      else l.records := by
  have hawaits : ∀ t : Tracked, t.key = (kind, packetId) →
      (t.awaitsPubrec = false ↔ ¬ (kind = .publish ∧ t.record.qos = .exactlyOnce)) := by
    intro t ht
    have hkind : t.kind = kind := congrArg Prod.fst ht
    unfold Tracked.awaitsPubrec Tracked.record
    rw [hkind]
    simp
  rcases resolve_cases hd kind packetId with ⟨htrue, ⟨t, ht, hkey, hfalse⟩, htracked⟩ | ⟨hsame, hall⟩
  · have hd' : (l.resolve kind packetId).1.Distinct := by
      apply hd.of_sublist
      rw [htracked]
      exact List.filter_sublist
    constructor
    · refine ⟨fun _ => ⟨t.record, ?_, (hawaits t hkey).mp hfalse⟩, fun _ => htrue⟩
      rw [← hkey]
      exact records_of_mem hd ht
    · rw [if_pos htrue]
      apply records_of_drop hd hd'
      intro x
      rw [htracked, List.mem_filter]
      simp
  · rw [hsame]
    refine ⟨⟨nofun, ?_⟩, rfl⟩
    intro ⟨r, hr, hcompletes⟩
    obtain ⟨t, ht, hkey, htr⟩ := (records_eq_some_iff hd).mp hr
    rw [← htr] at hcompletes
    have hfalse := (hawaits t hkey).mpr hcompletes
    rw [hall t ht hkey] at hfalse
    cases hfalse

theorem records_advance {l : Ledger} (hd : l.Distinct) (packetId : UInt16) (pubrel : Bytes) :
    ((l.advanceToPubrel packetId pubrel).2 = true ↔
      ∃ r, l.records (.publish, packetId) = some r ∧ r.qos = .exactlyOnce)
    ∧ (∀ r, l.records (.publish, packetId) = some r → r.qos = .exactlyOnce →
      (l.advanceToPubrel packetId pubrel).1.records =
        update (update l.records (.publish, packetId) none) (.pubrel, packetId)
          (some { r with packet := pubrel }))
    ∧ ((l.advanceToPubrel packetId pubrel).2 = false →
      (l.advanceToPubrel packetId pubrel).1.records = l.records) := by
  rcases advance_cases hd packetId pubrel with
    ⟨htrue, hd', t, ht, hkey, hqos, hmembers⟩ | ⟨hsame, hall⟩
  · have hrecord : l.records (.publish, packetId) = some t.record := by
      rw [← hkey]
      exact records_of_mem hd ht
    have hnew : (released pubrel t).key = (.pubrel, packetId) := by
      rw [← packetId_of_key hkey]
      rfl
    refine ⟨⟨fun _ => ⟨t.record, hrecord, hqos⟩, fun _ => htrue⟩, ?_, ?_⟩
    · intro r hr _
      rw [hrecord] at hr
      cases hr
      rw [records_of_replace hd hd' hmembers, hnew]
      rfl
    · intro hfalse
      rw [htrue] at hfalse
      cases hfalse
  · have hnot : ∀ r, l.records (.publish, packetId) = some r → r.qos ≠ .exactlyOnce := by
      intro r hr
      obtain ⟨t, ht, hkey, htr⟩ := (records_eq_some_iff hd).mp hr
      rw [← htr]
      exact hall t ht hkey
    rw [hsame]
    refine ⟨⟨nofun, ?_⟩, ?_, fun _ => rfl⟩
    · intro ⟨r, hr, hqos⟩
      exact absurd hqos (hnot r hr)
    · intro r hr hqos
      exact absurd hqos (hnot r hr)

theorem records_abandon {l : Ledger} (hd : l.Distinct) (kind : PacketType) (packetId : UInt16) :
    (l.abandon kind packetId).records = update l.records (kind, packetId) none := by
  have htracked := tracked_abandon hd kind packetId
  have hd' : (l.abandon kind packetId).Distinct := by
    apply hd.of_sublist
    rw [htracked]
    exact List.filter_sublist
  apply records_of_drop hd hd'
  intro x
  rw [htracked, List.mem_filter]
  simp

/-- Stale operations may be forgotten; what is left is as it was. -/
theorem records_evict {l : Ledger} (hd : l.Distinct) (now : Nat) (key : PacketType × UInt16) :
    (l.evictStale now).records key = none ∨ (l.evictStale now).records key = l.records key := by
  have hsub := tracked_evictStale_sublist l now
  cases hr : (l.evictStale now).records key with
  | none => exact .inl rfl
  | some r =>
    obtain ⟨t, ht, hkey, htr⟩ := (records_eq_some_iff (hd.of_sublist hsub)).mp hr
    exact .inr ((records_eq_some_iff hd).mpr ⟨t, hsub.subset ht, hkey, htr⟩).symm

theorem begin_outboxFull_iff {l : Ledger} {now : Nat} {o : Operation} (ho : o.IsTracked) :
    (l.begin now o).2 = .error .outboxFull ↔
      l.state = .connected ∧ l.pending.isSome = true ∧ l.outbox.isFull = true := by
  rw [begin_eq ho, beginTracked_outboxFull_iff]
  unfold hasRoom
  · cases l.pending <;> simp
  · exact fun _ h => Encoder.not_canFailWith_outboxFull (Encoder.numbered_error h)

/-- While every packet id that is handed out is free, the operations that wait are one map: no two
share an id, the outbox holds no more than it may, and every call acts on the map alone. -/
theorem tracking_refines_map {c : Config} {l : Ledger} (h : Reachable TakesFreeId c l) :
    (l.tracked.map Tracked.packetId).Nodup
    ∧ l.outbox.capacity = c.outboxCapacity ∧ l.outbox.size ≤ c.outboxCapacity
    ∧ (∀ now (o : Operation), o.IsTracked →
      (∀ out, (l.begin now o).2 = .ok out → l.IsFree out.packetId →
        (l.begin now o).1.records =
          update l.records (o.kind, out.packetId) (some ⟨o.qos, out.bytes, now⟩))
      ∧ ((l.begin now o).2 = .error .outboxFull ↔
        l.state = .connected ∧ l.pending.isSome = true ∧ l.outbox.isFull = true)
      ∧ ∀ e, (l.begin now o).2 = .error e → (l.begin now o).1.records = l.records)
    ∧ (∀ kind packetId,
      ((l.resolve kind packetId).2 = true ↔
        ∃ r, l.records (kind, packetId) = some r ∧ ¬ (kind = .publish ∧ r.qos = .exactlyOnce))
      ∧ (l.resolve kind packetId).1.records =
        if (l.resolve kind packetId).2 then update l.records (kind, packetId) none
        else l.records)
    ∧ (∀ packetId pubrel,
      ((l.advanceToPubrel packetId pubrel).2 = true ↔
        ∃ r, l.records (.publish, packetId) = some r ∧ r.qos = .exactlyOnce)
      ∧ (∀ r, l.records (.publish, packetId) = some r → r.qos = .exactlyOnce →
        (l.advanceToPubrel packetId pubrel).1.records =
          update (update l.records (.publish, packetId) none) (.pubrel, packetId)
            (some { r with packet := pubrel }))
      ∧ ((l.advanceToPubrel packetId pubrel).2 = false →
        (l.advanceToPubrel packetId pubrel).1.records = l.records))
    ∧ (∀ kind packetId,
      (l.abandon kind packetId).records = update l.records (kind, packetId) none)
    ∧ (∀ now key, (l.evictStale now).records key = none
      ∨ (l.evictStale now).records key = l.records key)
    ∧ l.clearTracked.records = (fun _ => none)
    ∧ ∀ state, { l with state }.records = l.records := by
  have hd := distinct_of_reachable h
  have hcapacity := capacity_of_reachable h
  refine ⟨hd, hcapacity, hcapacity ▸ l.outbox.bounded, ?_, records_resolve hd, records_advance hd,
    records_abandon hd, records_evict hd, rfl, fun _ => rfl⟩
  intro now o ho
  refine ⟨fun out hout hfree => records_begin hd ho hout hfree, begin_outboxFull_iff ho, ?_⟩
  intro e he
  rw [begin_of_error he]

/-- A QoS 2 PUBLISH that was issued on a new connection is released by its PUBREC. -/
theorem tracking_of_one_publish :
    let c := ({ host := "localhost" } : Settings).toConfig "c"
    let l := ((Ledger.new c).move (.setState .connected)).move
      (.begin 5 (.publish "a" [1] .exactlyOnce false))
    Reachable TakesFreeId c l ∧ (l.advanceToPubrel 1 [98, 2, 0, 1]).2 = true := by
  intro c l
  have hnew : Reachable TakesFreeId c ((Ledger.new c).move (.setState .connected)) :=
    .move _ .new trivial
  have hl : Reachable TakesFreeId c l := .move _ hnew fun _ _ _ t ht => by cases ht
  have hrecord : l.records (.publish, 1) =
      some ⟨.exactlyOnce, [52, 6, 0, 1, 97, 0, 1, 1], 5⟩ := by
    subst l c
    decide +kernel
  obtain ⟨_, _, _, _, _, hadvance, _⟩ := tracking_refines_map hl
  exact ⟨hl, (hadvance 1 [98, 2, 0, 1]).1.mpr ⟨_, hrecord, rfl⟩⟩

end Ledger
end Mqtt
