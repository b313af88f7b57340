import Mathlib.Data.List.Nodup
import Mqtt.Ledger
import Mqtt.Proofs.Outbox.Operations

/-!
What the calls on a ledger do to the operations that wait. While no two of them share a packet id,
each call acts in the same way on the newest operation and on the outbox.
-/

namespace Mqtt
set_option autoImplicit false

namespace Ledger

/-- No two of the operations that wait share a packet id. -/
def Distinct (l : Ledger) : Prop := (l.tracked.map Tracked.packetId).Nodup

theorem mem_tracked {l : Ledger} {t : Tracked} :
    t ∈ l.tracked ↔ t ∈ l.outbox.entries ∨ l.pending = some t := by
  unfold tracked
  rw [List.mem_append, Option.mem_toList]

theorem Distinct.eq_of_packetId {l : Ledger} (h : l.Distinct) {s t : Tracked} (hs : s ∈ l.tracked)
    (ht : t ∈ l.tracked) (hid : s.packetId = t.packetId) : s = t :=
  List.inj_on_of_nodup_map h hs ht hid

theorem packetId_of_key {t : Tracked} {kind : PacketType} {packetId : UInt16}
    (h : t.key = (kind, packetId)) : t.packetId = packetId :=
  congrArg Prod.snd h

theorem Distinct.eq_of_key {l : Ledger} (h : l.Distinct) {s t : Tracked} (hs : s ∈ l.tracked)
    (ht : t ∈ l.tracked) (hkey : s.key = t.key) : s = t :=
  h.eq_of_packetId hs ht (congrArg Prod.snd hkey)

theorem distinct_iff {l : Ledger} :
    l.Distinct ↔ (l.outbox.entries.map Tracked.packetId).Nodup
      ∧ ∀ s ∈ l.outbox.entries, ∀ t, l.pending = some t → s.packetId ≠ t.packetId := by
  unfold Distinct tracked
  rw [List.map_append, List.nodup_append]
  cases l.pending <;> simp

/-- The newest operation is not also in the outbox. -/
theorem Distinct.pending_ne {l : Ledger} (h : l.Distinct) {s t : Tracked}
    (hs : s ∈ l.outbox.entries) (ht : l.pending = some t) : s.packetId ≠ t.packetId :=
  (distinct_iff.mp h).2 s hs t ht

/-! ### Issuing -/

theorem preempt_spec {l : Ledger} (hd : l.Distinct) (hroom : l.hasRoom = true) :
    l.preempt.pending = none ∧ l.preempt.outbox.entries = l.tracked
      ∧ l.preempt.outbox.capacity = l.outbox.capacity := by
  unfold preempt
  cases hp : l.pending with
  | none =>
    refine ⟨hp, ?_, rfl⟩
    unfold tracked
    rw [hp]
    simp
  | some t =>
    refine ⟨rfl, ?_, Outbox.capacity_enqueue _ _⟩
    have hspace : l.outbox.entries.length < l.outbox.capacity := by
      unfold hasRoom Outbox.isFull Outbox.size at hroom
      rw [hp] at hroom
      simpa using hroom
    have hnew : ∀ x ∈ l.outbox.entries, x.key ≠ t.key := by
      intro x hx hkey
      exact hd.pending_ne hx hp (congrArg Prod.snd hkey)
    dsimp only
    rw [(Outbox.enqueue_of_room hnew hspace).2]
    unfold tracked
    rw [hp]
    rfl

theorem tracked_track {l : Ledger} (hd : l.Distinct) (hroom : l.hasRoom = true) (t : Tracked) :
    (l.track t).tracked = l.tracked ++ [t] := by
  obtain ⟨_, hentries, _⟩ := preempt_spec hd hroom
  unfold track tracked
  dsimp only
  rw [hentries]
  rfl

section
variable {l : Ledger} {now : Nat} {kind : PacketType} {qos : QoS}
  {encode : Encoder → Encoder × Except Error Outgoing}

theorem beginTracked_of_ok {out : Outgoing}
    (h : (l.beginTracked now kind qos encode).2 = .ok out) :
    l.hasRoom = true ∧ ∃ encoder, (l.beginTracked now kind qos encode).1 =
      { l with encoder }.track ⟨out.packetId, kind, qos, out.bytes, now⟩ := by
  unfold beginTracked at h ⊢
  by_cases hstate : l.state ≠ .connected
  · rw [if_pos hstate] at h
    cases h
  rw [if_neg hstate] at h ⊢
  cases hroom : l.hasRoom with
  | false =>
    rw [hroom] at h
    cases h
  | true =>
    rw [hroom] at h
    refine ⟨rfl, ?_⟩
    cases hencode : encode l.encoder with
    | mk encoder result =>
      cases result with
      | error e =>
        rw [hencode] at h
        cases h
      | ok out' =>
        rw [hencode] at h
        cases h
        exact ⟨encoder, rfl⟩

theorem encode_of_beginTracked {out : Outgoing}
    (h : (l.beginTracked now kind qos encode).2 = .ok out) : (encode l.encoder).2 = .ok out := by
  unfold beginTracked at h
  split at h
  · cases h
  · split at h
    · cases h
    · cases hencode : encode l.encoder with
      | mk encoder result =>
        rw [hencode] at h
        cases result with
        | ok out' => exact h
        | error e => cases h

/-- What cannot be encoded changes nothing where it does not change the encoder. -/
theorem beginTracked_of_error {e : Error}
    (hencode : (encode l.encoder).2 = .error e → (encode l.encoder).1 = l.encoder)
    (h : (l.beginTracked now kind qos encode).2 = .error e) :
    (l.beginTracked now kind qos encode).1 = l := by
  unfold beginTracked at h ⊢
  by_cases hstate : l.state ≠ .connected
  · rw [if_pos hstate]
  rw [if_neg hstate] at h ⊢
  cases hroom : l.hasRoom with
  | false => rfl
  | true =>
    rw [hroom] at h
    cases hresult : encode l.encoder with
    | mk encoder result =>
      rw [hresult] at h hencode
      cases result with
      | ok out => cases h
      | error e' =>
        obtain rfl : encoder = l.encoder := hencode h
        rfl

theorem beginTracked_outboxFull_iff (hencode : ∀ e, (encode e).2 ≠ .error .outboxFull) :
    (l.beginTracked now kind qos encode).2 = .error .outboxFull ↔
      l.state = .connected ∧ l.hasRoom = false := by
  unfold beginTracked
  by_cases hstate : l.state = .connected
  · rw [if_neg (fun h => h hstate)]
    cases hroom : l.hasRoom with
    | false => exact ⟨fun _ => ⟨hstate, rfl⟩, fun _ => rfl⟩
    | true =>
      constructor
      · intro h
        refine absurd ?_ (hencode l.encoder)
        revert h
        cases encode l.encoder with
        | mk encoder result =>
          cases result with
          | error e =>
            intro h
            exact h
          | ok out =>
            intro h
            cases h
      · intro ⟨_, h⟩
        cases h
  · rw [if_pos hstate]
    constructor
    · intro h
      cases h
    · intro ⟨h, _⟩
      exact absurd h hstate

end

/-! ### Acknowledging -/

theorem filter_key_of_absent {entries : List Tracked} {key : PacketType × UInt16}
    (h : ∀ t ∈ entries, t.key ≠ key) :
    entries.filter (fun t => t.key ≠ key) = entries := by
  apply List.filter_eq_self.mpr
  intro t ht
  simpa using h t ht

/-- Without the entry of the outbox with a key, which the newest operation does not have. -/
theorem tracked_erase {l : Ledger} (hd : l.Distinct) {t : Tracked} {kind : PacketType}
    {packetId : UInt16} (ht : l.outbox.find? kind packetId = some t) :
    { l with outbox := l.outbox.erase kind packetId }.tracked =
      l.tracked.filter fun x => x.key ≠ (kind, packetId) := by
  obtain ⟨hmem, hkey⟩ := Outbox.of_find?_eq_some ht
  have hpending : l.pending.toList.filter (fun x => x.key ≠ (kind, packetId)) =
      l.pending.toList := by
    apply filter_key_of_absent
    intro x hx hxkey
    rw [Option.mem_toList] at hx
    apply hd.pending_ne hmem hx
    rw [packetId_of_key hkey, packetId_of_key hxkey]
  unfold tracked
  rw [List.filter_append, hpending]
  rfl

/-- Without the newest operation, whose key no entry of the outbox has. -/
theorem tracked_no_pending {l : Ledger} (hd : l.Distinct) {t : Tracked} {kind : PacketType}
    {packetId : UInt16} (hp : l.pending = some t) (hkey : t.key = (kind, packetId)) :
    { l with pending := none }.tracked =
      l.tracked.filter fun x => x.key ≠ (kind, packetId) := by
  have hentries : l.outbox.entries.filter (fun x => x.key ≠ (kind, packetId)) =
      l.outbox.entries := by
    apply filter_key_of_absent
    intro x hx hxkey
    apply hd.pending_ne hx hp
    rw [packetId_of_key hkey, packetId_of_key hxkey]
  unfold tracked
  rw [List.filter_append, hentries, hp]
  simp [hkey]

theorem pendingIs_iff {l : Ledger} {kind : PacketType} {packetId : UInt16} :
    l.pendingIs kind packetId = true ↔ ∃ t, l.pending = some t ∧ t.key = (kind, packetId) := by
  unfold pendingIs
  cases l.pending <;> simp

theorem tracked_abandon {l : Ledger} (hd : l.Distinct) (kind : PacketType) (packetId : UInt16) :
    (l.abandon kind packetId).tracked = l.tracked.filter fun x => x.key ≠ (kind, packetId) := by
  unfold abandon
  by_cases hp : l.pendingIs kind packetId = true
  · rw [if_pos hp]
    obtain ⟨t, ht, hkey⟩ := pendingIs_iff.mp hp
    exact tracked_no_pending hd ht hkey
  · rw [if_neg hp]
    have hpending : l.pending.toList.filter (fun x => x.key ≠ (kind, packetId)) =
        l.pending.toList := by
      apply filter_key_of_absent
      intro x hx hxkey
      rw [Option.mem_toList] at hx
      exact hp (pendingIs_iff.mpr ⟨x, hx, hxkey⟩)
    unfold tracked
    rw [List.filter_append, hpending]
    rfl

/-- What an acknowledgement completes: the operation with its key, unless a PUBREC has to come
first. -/
theorem resolve_cases {l : Ledger} (hd : l.Distinct) (kind : PacketType) (packetId : UInt16) :
    ((l.resolve kind packetId).2 = true
      ∧ (∃ t ∈ l.tracked, t.key = (kind, packetId) ∧ t.awaitsPubrec = false)
      ∧ (l.resolve kind packetId).1.tracked = l.tracked.filter fun x => x.key ≠ (kind, packetId))
    ∨ (l.resolve kind packetId = (l, false)
      ∧ ∀ t ∈ l.tracked, t.key = (kind, packetId) → t.awaitsPubrec = true) := by
  unfold resolve
  cases ho : l.outbox.find? kind packetId with
  | some t =>
    obtain ⟨hmem, hkey⟩ := Outbox.of_find?_eq_some ho
    have htracked : t ∈ l.tracked := mem_tracked.mpr (.inl hmem)
    dsimp only
    cases hawaits : t.awaitsPubrec with
    | false => exact .inl ⟨rfl, ⟨t, htracked, hkey, hawaits⟩, tracked_erase hd ho⟩
    | true =>
      refine .inr ⟨rfl, ?_⟩
      intro x hx hxkey
      rw [hd.eq_of_key hx htracked (hxkey.trans hkey.symm), hawaits]
  | none =>
    have habsent := Outbox.find?_eq_none_iff.mp ho
    dsimp only
    cases hp : l.pending with
    | none =>
      refine .inr ⟨rfl, ?_⟩
      intro x hx hxkey
      rcases mem_tracked.mp hx with hx | hx
      · exact absurd hxkey (habsent x hx)
      · rw [hp] at hx
        cases hx
    | some t =>
      dsimp only
      by_cases hmatch : t.key = (kind, packetId) ∧ t.awaitsPubrec = false
      · obtain ⟨hkey, hawaits⟩ := hmatch
        rw [if_pos (by simp [hkey, hawaits])]
        exact .inl ⟨rfl, ⟨t, mem_tracked.mpr (.inr hp), hkey, hawaits⟩, tracked_no_pending hd hp hkey⟩
      · rw [if_neg (by simpa using hmatch)]
        refine .inr ⟨rfl, ?_⟩
        intro x hx hxkey
        rcases mem_tracked.mp hx with hx | hx
        · exact absurd hxkey (habsent x hx)
        · rw [hp] at hx
          cases hx
          cases hawaits : t.awaitsPubrec with
          | true => rfl
          | false => exact absurd ⟨hxkey, hawaits⟩ hmatch

/-- What becomes of a QoS 2 PUBLISH whose receipt is confirmed. -/
def released (pubrel : Bytes) (t : Tracked) : Tracked := { t with kind := .pubrel, packet := pubrel }

theorem awaitsPubrec_iff {t : Tracked} {packetId : UInt16} (h : t.key = (.publish, packetId)) :
    t.awaitsPubrec = true ↔ t.qos = .exactlyOnce := by
  have hkind : t.kind = .publish := congrArg Prod.fst h
  unfold Tracked.awaitsPubrec
  simp [hkind]

/-- The PUBREL of an entry of the outbox takes the place of its PUBLISH: there is room for it. -/
theorem entries_release {o : Outbox} (hd : (o.entries.map Tracked.packetId).Nodup) {t : Tracked}
    {packetId : UInt16} (ht : t ∈ o.entries) (hkey : t.key = (.publish, packetId))
    (pubrel : Bytes) :
    ((o.erase .publish packetId).enqueue (released pubrel t)).1.entries =
      o.others (.publish, packetId) ++ [released pubrel t] := by
  have habsent : ∀ x ∈ (o.erase .publish packetId).entries, x.key ≠ (released pubrel t).key := by
    intro x hx hxkey
    obtain ⟨hxmem, hxne⟩ := Outbox.mem_others.mp hx
    have hid : x.packetId = t.packetId := congrArg Prod.snd hxkey
    have hsame : x = t := List.inj_on_of_nodup_map hd hxmem ht hid
    rw [hsame] at hxne
    exact hxne hkey
  rw [Outbox.entries_replace (Outbox.find?_eq_some_iff.mpr ⟨ht, hkey⟩),
    Outbox.others_of_absent habsent]
  rfl

theorem release_outbox {l : Ledger} (hd : l.Distinct) {t : Tracked} {packetId : UInt16}
    (ht : t ∈ l.outbox.entries) (hkey : t.key = (.publish, packetId)) (pubrel : Bytes) {l' : Ledger}
    (hl' : l' = { l with
      outbox := ((l.outbox.erase .publish packetId).enqueue (released pubrel t)).1 }) :
    l'.Distinct ∧ ∀ x, x ∈ l'.tracked ↔
      (x ∈ l.tracked ∧ x.key ≠ (.publish, packetId)) ∨ x = released pubrel t := by
  obtain ⟨hnodup, hpending⟩ := distinct_iff.mp hd
  have hentries : l'.outbox.entries = l.outbox.others (.publish, packetId) ++ [released pubrel t] := by
    rw [hl']
    exact entries_release hnodup ht hkey pubrel
  have hsame : l'.pending = l.pending := by rw [hl']
  constructor
  · refine distinct_iff.mpr ⟨?_, ?_⟩
    · rw [hentries, List.map_append, List.nodup_append]
      refine ⟨hnodup.sublist ((l.outbox.others_sublist _).map _), by simp, ?_⟩
      intro i hi j hj
      obtain ⟨x, hx, hxi⟩ := List.mem_map.mp hi
      obtain ⟨hxmem, hxne⟩ := Outbox.mem_others.mp hx
      rw [List.map_singleton, List.mem_singleton] at hj
      intro hij
      have hxt : x = t := List.inj_on_of_nodup_map hnodup hxmem ht (hxi.trans (hij.trans hj))
      rw [hxt] at hxne
      exact hxne hkey
    · intro x hx p hp
      rw [hsame] at hp
      rw [hentries, List.mem_append, List.mem_singleton] at hx
      rcases hx with hx | hx
      · exact hpending x (Outbox.mem_others.mp hx).1 p hp
      · rw [hx]
        exact hpending t ht p hp
  · intro x
    rw [mem_tracked, mem_tracked, hentries, hsame, List.mem_append, List.mem_singleton,
      Outbox.mem_others]
    constructor
    · intro hx
      rcases hx with (⟨hx, hne⟩ | hx) | hx
      · exact .inl ⟨.inl hx, hne⟩
      · exact .inr hx
      · refine .inl ⟨.inr hx, ?_⟩
        intro hxkey
        apply hpending t ht x hx
        rw [packetId_of_key hkey, packetId_of_key hxkey]
    · intro hx
      rcases hx with ⟨hx | hx, hne⟩ | hx
      · exact .inl (.inl ⟨hx, hne⟩)
      · exact .inr hx
      · exact .inl (.inr hx)

theorem release_pending {l : Ledger} (hd : l.Distinct) {t : Tracked} {packetId : UInt16}
    (ht : l.pending = some t) (hkey : t.key = (.publish, packetId)) (pubrel : Bytes) {l' : Ledger}
    (hl' : l' = { l with pending := some (released pubrel t) }) :
    l'.Distinct ∧ ∀ x, x ∈ l'.tracked ↔
      (x ∈ l.tracked ∧ x.key ≠ (.publish, packetId)) ∨ x = released pubrel t := by
  obtain ⟨hnodup, hpending⟩ := distinct_iff.mp hd
  have hentries : l'.outbox.entries = l.outbox.entries := by rw [hl']
  have hnew : l'.pending = some (released pubrel t) := by rw [hl']
  constructor
  · refine distinct_iff.mpr ⟨by rw [hentries]; exact hnodup, ?_⟩
    intro x hx p hp
    rw [hentries] at hx
    rw [hnew] at hp
    cases hp
    exact hpending x hx t ht
  · intro x
    rw [mem_tracked, mem_tracked, hentries, hnew, ht]
    constructor
    · intro hx
      rcases hx with hx | hx
      · refine .inl ⟨.inl hx, ?_⟩
        intro hxkey
        apply hpending x hx t ht
        rw [packetId_of_key hkey, packetId_of_key hxkey]
      · cases hx
        exact .inr rfl
    · intro hx
      rcases hx with ⟨hx | hx, hne⟩ | hx
      · exact .inl hx
      · cases hx
        exact absurd hkey hne
      · rw [hx]
        exact .inr rfl

/-- A PUBREC turns the QoS 2 PUBLISH with its id into a PUBREL, and does nothing to anything else. -/
theorem advance_cases {l : Ledger} (hd : l.Distinct) (packetId : UInt16) (pubrel : Bytes) :
    ((l.advanceToPubrel packetId pubrel).2 = true
      ∧ (l.advanceToPubrel packetId pubrel).1.Distinct
      ∧ ∃ t ∈ l.tracked, t.key = (.publish, packetId) ∧ t.qos = .exactlyOnce
        ∧ ∀ x, x ∈ (l.advanceToPubrel packetId pubrel).1.tracked ↔
          (x ∈ l.tracked ∧ x.key ≠ (.publish, packetId)) ∨ x = released pubrel t)
    ∨ (l.advanceToPubrel packetId pubrel = (l, false)
      ∧ ∀ t ∈ l.tracked, t.key = (.publish, packetId) → t.qos ≠ .exactlyOnce) := by
  unfold advanceToPubrel
  dsimp only
  cases ho : (l.outbox.find? .publish packetId).filter Tracked.awaitsPubrec with
  | some t =>
    obtain ⟨hfind, hawaits⟩ := Option.filter_eq_some_iff.mp ho
    obtain ⟨hmem, hkey⟩ := Outbox.of_find?_eq_some hfind
    obtain ⟨hdistinct, hmembers⟩ := release_outbox hd hmem hkey pubrel rfl
    exact .inl ⟨rfl, hdistinct, t, mem_tracked.mpr (.inl hmem), hkey,
      (awaitsPubrec_iff hkey).mp hawaits, hmembers⟩
  | none =>
    have hnone : ∀ x ∈ l.outbox.entries, x.key = (.publish, packetId) → x.qos ≠ .exactlyOnce := by
      intro x hx hxkey hqos
      cases hfind : l.outbox.find? .publish packetId with
      | none => exact Outbox.find?_eq_none_iff.mp hfind x hx hxkey
      | some t =>
        obtain ⟨hmem, hkey⟩ := Outbox.of_find?_eq_some hfind
        have hsame : x = t := hd.eq_of_key (mem_tracked.mpr (.inl hx)) (mem_tracked.mpr (.inl hmem))
          (hxkey.trans hkey.symm)
        have hawaits := (awaitsPubrec_iff hkey).mpr (hsame ▸ hqos)
        rw [hfind, Option.filter_some, if_pos hawaits] at ho
        cases ho
    dsimp only
    cases hp : l.pending with
    | none =>
      refine .inr ⟨rfl, ?_⟩
      intro x hx
      rcases mem_tracked.mp hx with hx | hx
      · exact hnone x hx
      · rw [hp] at hx
        cases hx
    | some t =>
      dsimp only
      by_cases hmatch : t.key = (.publish, packetId) ∧ t.awaitsPubrec = true
      · obtain ⟨hkey, hawaits⟩ := hmatch
        obtain ⟨hdistinct, hmembers⟩ := release_pending hd hp hkey pubrel rfl
        rw [if_pos (by simp [hkey, hawaits])]
        exact .inl ⟨rfl, hdistinct, t, mem_tracked.mpr (.inr hp), hkey,
          (awaitsPubrec_iff hkey).mp hawaits, hmembers⟩
      · rw [if_neg (by simpa using hmatch)]
        refine .inr ⟨rfl, ?_⟩
        intro x hx hxkey hqos
        rcases mem_tracked.mp hx with hx | hx
        · exact hnone x hx hxkey hqos
        · rw [hp] at hx
          cases hx
          exact hmatch ⟨hxkey, (awaitsPubrec_iff hxkey).mpr hqos⟩

/-! ### Forgetting -/

theorem tracked_evictStale_sublist (l : Ledger) (now : Nat) :
    (l.evictStale now).tracked.Sublist l.tracked := by
  have hkept : (l.evictStale now).outbox.entries.Sublist l.outbox.entries :=
    (List.drop_sublist _ _).trans List.filter_sublist
  exact hkept.append (List.Sublist.refl _)

end Ledger
end Mqtt
