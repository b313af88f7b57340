import Mathlib.Data.List.Nodup
import Mqtt.Outbox

/-!
What each operation of an outbox makes of its entries. An entry is met in its place, as
`front ++ t :: back`; that no other has its key says which one an operation can mean.
-/

namespace Mqtt
set_option autoImplicit false

namespace Outbox

variable {o : Outbox} {t x : Tracked} {kind : PacketType} {packetId : UInt16}
  {front back : List Tracked}

theorem mem_others {key : PacketType × UInt16} :
    t ∈ o.others key ↔ t ∈ o.entries ∧ t.key ≠ key := by
  simp [others]

theorem others_of_absent {key : PacketType × UInt16} (h : ∀ t ∈ o.entries, t.key ≠ key) :
    o.others key = o.entries := by
  apply List.filter_eq_self.mpr
  intro t ht
  simpa using h t ht

theorem key_ne_of_split (h : o.entries = front ++ t :: back) :
    ∀ x ∈ front ++ back, x.key ≠ t.key := by
  have hdistinct := o.distinct
  rw [h, List.map_append, List.map_cons, List.nodup_middle, ← List.map_append] at hdistinct
  intro x hx hkey
  apply (List.nodup_cons.mp hdistinct).1
  rw [← hkey]
  exact List.mem_map_of_mem hx

theorem others_of_split (h : o.entries = front ++ t :: back) : o.others t.key = front ++ back := by
  have hne : ∀ x ∈ front ++ back, decide (x.key ≠ t.key) = true := by
    intro x hx
    simpa using key_ne_of_split h x hx
  unfold others
  rw [h, List.filter_append, List.filter_cons_of_neg (by simp), ← List.filter_append]
  exact List.filter_eq_self.mpr hne

/-! ### Looking -/

theorem find?_eq_none_iff :
    o.find? kind packetId = none ↔ ∀ t ∈ o.entries, t.key ≠ (kind, packetId) := by
  unfold find?
  rw [List.find?_eq_none]
  simp

theorem of_find?_eq_some (h : o.find? kind packetId = some t) :
    t ∈ o.entries ∧ t.key = (kind, packetId) := by
  have hkey := List.find?_some h
  exact ⟨List.mem_of_find?_eq_some h, by simpa using hkey⟩

theorem find?_of_split (h : o.entries = front ++ t :: back) :
    o.find? t.kind t.packetId = some t := by
  have hne := key_ne_of_split h
  unfold find?
  rw [h, List.find?_append, List.find?_eq_none.mpr, Option.none_or]
  · exact List.find?_cons_of_pos (by simp [Tracked.key])
  · intro x hx
    simpa [Tracked.key] using hne x (List.mem_append_left _ hx)

theorem find?_eq_some_iff :
    o.find? kind packetId = some t ↔ t ∈ o.entries ∧ t.key = (kind, packetId) := by
  constructor
  · exact of_find?_eq_some
  · intro ⟨hmem, hkey⟩
    obtain ⟨front, back, hsplit⟩ := List.append_of_mem hmem
    cases hkey
    exact find?_of_split hsplit

theorem contains_iff :
    o.contains kind packetId = true ↔ ∃ t ∈ o.entries, t.key = (kind, packetId) := by
  unfold contains
  rw [Option.isSome_iff_exists]
  simp [find?_eq_some_iff]

/-! ### Putting -/

/-- An entry with a new key takes its place at the end. -/
theorem enqueue_of_room (hnew : ∀ x ∈ o.entries, x.key ≠ t.key) (hroom : o.size < o.capacity) :
    (o.enqueue t).2 = .ok () ∧ (o.enqueue t).1.entries = o.entries ++ [t] := by
  have hothers := others_of_absent hnew
  unfold enqueue
  rw [dif_pos (by rw [hothers]; exact hroom)]
  exact ⟨rfl, congrArg (· ++ [t]) hothers⟩

theorem enqueue_of_full (hnew : ∀ x ∈ o.entries, x.key ≠ t.key) (hfull : o.capacity ≤ o.size) :
    o.enqueue t = (o, .error .outboxFull) := by
  have hothers := others_of_absent hnew
  unfold enqueue
  rw [dif_neg]
  rw [hothers]
  exact Nat.not_lt.mpr hfull

/-- Where an entry with the same key is given up, there is room for the new one. -/
theorem enqueue_of_present (h : o.entries = front ++ x :: back) (hkey : x.key = t.key) :
    (o.enqueue t).2 = .ok () ∧ (o.enqueue t).1.entries = front ++ back ++ [t] := by
  have hothers := others_of_split h
  have hbounded := o.bounded
  rw [hkey] at hothers
  simp only [h, List.length_append, List.length_cons] at hbounded
  unfold enqueue
  rw [dif_pos (by rw [hothers, List.length_append]; omega)]
  exact ⟨rfl, congrArg (· ++ [t]) hothers⟩

@[simp] theorem capacity_enqueue (o : Outbox) (t : Tracked) :
    (o.enqueue t).1.capacity = o.capacity := by
  unfold enqueue
  split <;> rfl

/-! ### Taking -/

theorem take_of_absent (h : ∀ x ∈ o.entries, x.key ≠ (kind, packetId)) :
    o.take kind packetId = (o, none) := by
  have hothers := others_of_absent h
  have hsame : o.erase kind packetId = o := Outbox.ext rfl hothers
  unfold take
  rw [hsame, find?_eq_none_iff.mpr h]

theorem take_of_present (h : o.entries = front ++ t :: back) :
    (o.take t.kind t.packetId).2 = some t
      ∧ (o.take t.kind t.packetId).1.entries = front ++ back :=
  ⟨find?_of_split h, others_of_split h⟩

/-- An entry that was taken leaves room for one in its place. -/
theorem entries_replace (h : o.find? kind packetId = some x) :
    ((o.erase kind packetId).enqueue t).1.entries =
      (o.erase kind packetId).others t.key ++ [t] := by
  obtain ⟨hmem, hkey⟩ := of_find?_eq_some h
  have hless : (o.others (kind, packetId)).length < o.entries.length := by
    apply List.length_filter_lt_length_iff_exists.mpr
    exact ⟨x, hmem, by simpa using hkey⟩
  have hle := ((o.erase kind packetId).others_sublist t.key).length_le
  have hroom : ((o.erase kind packetId).others t.key).length < (o.erase kind packetId).capacity :=
    Nat.lt_of_lt_of_le (Nat.lt_of_le_of_lt hle hless) o.bounded
  unfold enqueue
  rw [dif_pos hroom]
  rfl

/-! ### Evicting -/

theorem entries_evictExpired (o : Outbox) (now age : Nat) :
    (o.evictExpired now age).1.entries = o.entries.filter fun t => now - t.since ≤ age := rfl

theorem count_evictExpired (o : Outbox) (now age : Nat) :
    (o.evictExpired now age).2 = o.entries.countP fun t => age < now - t.since := by
  have hkept : (o.entries.filter fun t => now - t.since ≤ age).length
      = o.entries.countP fun t => ¬ age < now - t.since := by
    rw [← List.countP_eq_length_filter]
    congr 1
    funext t
    simp
  have hall := List.length_eq_countP_add_countP (l := o.entries) fun t => age < now - t.since
  simp only [decide_eq_true_eq] at hall
  change o.entries.length - _ = _
  omega

/-- What is dropped is at the old end, and no more than it takes. -/
theorem evictOldestUntil_spec (o : Outbox) (count : Nat) : ∃ oldest kept,
    o.entries = oldest ++ kept ∧ (o.evictOldestUntil count).1.entries = kept
      ∧ (o.evictOldestUntil count).2 = oldest.length ∧ oldest.length = o.size - count := by
  have hlength : (o.entries.take (o.size - count)).length = o.size - count := by
    rw [List.length_take]
    exact Nat.min_eq_left (Nat.sub_le _ _)
  refine ⟨o.entries.take (o.size - count), o.entries.drop (o.size - count), ?_, rfl, ?_, hlength⟩
  · exact (List.take_append_drop _ _).symm
  · exact hlength.symm

/-- A map of a bounded size that keeps its entries in the order they were put. -/
structure KeepsOrder (o : Outbox) : Prop where
  distinct : (o.entries.map Tracked.key).Nodup
  bounded : o.size ≤ o.capacity
  appends : ∀ t, (∀ x ∈ o.entries, x.key ≠ t.key) → o.size < o.capacity →
    (o.enqueue t).2 = .ok () ∧ (o.enqueue t).1.entries = o.entries ++ [t]
  rejects : ∀ t, (∀ x ∈ o.entries, x.key ≠ t.key) → o.capacity ≤ o.size →
    o.enqueue t = (o, .error .outboxFull)
  replaces : ∀ front x back t, o.entries = front ++ x :: back → x.key = t.key →
    (o.enqueue t).2 = .ok () ∧ (o.enqueue t).1.entries = front ++ back ++ [t]
  takes : ∀ front t back, o.entries = front ++ t :: back →
    (o.take t.kind t.packetId).2 = some t ∧ (o.take t.kind t.packetId).1.entries = front ++ back
  takes_nothing : ∀ kind packetId, (∀ x ∈ o.entries, x.key ≠ (kind, packetId)) →
    o.take kind packetId = (o, none)
  expires : ∀ now age,
    (o.evictExpired now age).1.entries = o.entries.filter (fun t => ¬ age < now - t.since)
      ∧ (o.evictExpired now age).2 = o.entries.countP fun t => age < now - t.since
  evicts : ∀ count, ∃ oldest kept, o.entries = oldest ++ kept
    ∧ (o.evictOldestUntil count).1.entries = kept
    ∧ (o.evictOldestUntil count).2 = oldest.length ∧ oldest.length = o.size - count
  finds : ∀ kind packetId t,
    o.find? kind packetId = some t ↔ t ∈ o.entries ∧ t.key = (kind, packetId)
  knows : ∀ kind packetId,
    o.contains kind packetId = true ↔ ∃ t ∈ o.entries, t.key = (kind, packetId)

theorem keepsOrder (o : Outbox) : o.KeepsOrder where
  distinct := o.distinct
  bounded := o.bounded
  appends _ := enqueue_of_room
  rejects _ := enqueue_of_full
  replaces _ _ _ _ := enqueue_of_present
  takes _ _ _ := take_of_present
  takes_nothing _ _ := take_of_absent
  expires now age := by
    refine ⟨?_, o.count_evictExpired now age⟩
    rw [entries_evictExpired]
    simp only [Nat.not_lt]
  evicts := o.evictOldestUntil_spec
  finds _ _ _ := find?_eq_some_iff
  knows _ _ := contains_iff

end Outbox

end Mqtt
