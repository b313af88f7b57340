import Mqtt.Proofs.Outbox.Operations

/-!
An outbox kept in a cache that orders its entries by their last use. Nothing but a put counts as a
use here, so the cache holds the entries in the order they were put, and the outbox over the cache
gives the answers of the list of entries that it stands for.
-/

namespace Mqtt
set_option autoImplicit false

/-- A map that remembers the order of the puts, and what is assumed of it. It has no bound of its
own, and only a function that returns a state may change one. -/
structure Cache (Key Value : Type) [DecidableEq Key] where
  State : Type
  /-- The one that was put the longest ago is first. -/
  contents : State → List (Key × Value)
  empty : State
  put : State → Key → Value → State
  peek : State → Key → Option Value
  contains : State → Key → Bool
  pop : State → Key → State × Option Value
  popOldest : State → State × Option (Key × Value)
  iter : State → List (Key × Value)
  len : State → Nat
  clear : State → State
  contents_empty : contents empty = []
  contents_put (s : State) (key : Key) (value : Value) :
    contents (put s key value) = (contents s).filter (fun e => e.1 ≠ key) ++ [(key, value)]
  peek_eq (s : State) (key : Key) :
    peek s key = ((contents s).find? fun e => e.1 = key).map Prod.snd
  contains_eq (s : State) (key : Key) : contains s key = (contents s).any fun e => e.1 = key
  contents_pop (s : State) (key : Key) :
    contents (pop s key).1 = (contents s).filter fun e => e.1 ≠ key
  pop_eq (s : State) (key : Key) : (pop s key).2 = peek s key
  contents_popOldest (s : State) : contents (popOldest s).1 = (contents s).tail
  popOldest_eq (s : State) : (popOldest s).2 = (contents s).head?
  /-- In which order does not matter. -/
  iter_perm (s : State) : (iter s).Perm (contents s)
  len_eq (s : State) : len s = (contents s).length
  contents_clear (s : State) : contents (clear s) = []

namespace Cache

variable {Key Value : Type} [DecidableEq Key]

/-- The list of the contents is itself such a map. -/
def ofList (Key Value : Type) [DecidableEq Key] : Cache Key Value where
  State := List (Key × Value)
  contents := id
  empty := []
  put s key value := s.filter (fun e => e.1 ≠ key) ++ [(key, value)]
  peek s key := (s.find? fun e => e.1 = key).map Prod.snd
  contains s key := s.any fun e => e.1 = key
  pop s key := (s.filter fun e => e.1 ≠ key, (s.find? fun e => e.1 = key).map Prod.snd)
  popOldest s := (s.tail, s.head?)
  iter := List.reverse
  len := List.length
  clear _ := []
  contents_empty := rfl
  contents_put _ _ _ := rfl
  peek_eq _ _ := rfl
  contains_eq _ _ := rfl
  contents_pop _ _ := rfl
  pop_eq _ _ := rfl
  contents_popOldest _ := rfl
  popOldest_eq _ := rfl
  iter_perm _ := List.reverse_perm _
  len_eq _ := rfl
  contents_clear _ := rfl

variable (cache : Cache Key Value)

theorem len_popOldest_lt {s : cache.State} {count : Nat} (h : count < cache.len s) :
    cache.len (cache.popOldest s).1 < cache.len s := by
  rw [cache.len_eq] at h
  rw [cache.len_eq, cache.len_eq, cache.contents_popOldest, List.length_tail]
  omega

/-- Removes the oldest, one by one, until no more than `count` are left, and counts them. -/
def popDown (count : Nat) (s : cache.State) (popped : Nat) : cache.State × Nat :=
  if count < cache.len s then
    match (cache.popOldest s).2 with
    | some _ => popDown count (cache.popOldest s).1 (popped + 1)
    | none => ((cache.popOldest s).1, popped)
  else (s, popped)
termination_by cache.len s
decreasing_by exact cache.len_popOldest_lt ‹_›

theorem popDown_of_le {count popped : Nat} {s : cache.State} (h : cache.len s ≤ count) :
    cache.popDown count s popped = (s, popped) := by
  rw [popDown]
  exact if_neg (Nat.not_lt.mpr h)

/-- The removal never stops early: while there are too many, there is an oldest one. -/
theorem popDown_of_lt {count popped : Nat} {s : cache.State} (h : count < cache.len s) :
    cache.popDown count s popped = cache.popDown count (cache.popOldest s).1 (popped + 1) := by
  rw [popDown, if_pos h]
  cases holdest : (cache.popOldest s).2 with
  | some e => rfl
  | none =>
    rw [cache.popOldest_eq, List.head?_eq_none_iff] at holdest
    rw [cache.len_eq, holdest] at h
    exact absurd h (Nat.not_lt_zero count)

theorem popDown_spec (count : Nat) (s : cache.State) (popped : Nat) :
    cache.contents (cache.popDown count s popped).1
        = (cache.contents s).drop ((cache.contents s).length - count)
      ∧ (cache.popDown count s popped).2 = popped + ((cache.contents s).length - count) := by
  by_cases h : count < cache.len s
  · rw [cache.popDown_of_lt h]
    obtain ⟨hcontents, hpopped⟩ := popDown_spec count (cache.popOldest s).1 (popped + 1)
    rw [cache.contents_popOldest, List.length_tail] at hcontents hpopped
    rw [cache.len_eq] at h
    constructor
    · rw [hcontents, ← List.drop_one, List.drop_drop]
      congr 1
      omega
    · rw [hpopped]
      omega
  · rw [cache.popDown_of_le (Nat.not_lt.mp h)]
    rw [cache.len_eq] at h
    rw [Nat.sub_eq_zero_of_le (Nat.not_lt.mp h)]
    exact ⟨rfl, rfl⟩
termination_by cache.len s
decreasing_by exact cache.len_popOldest_lt h

theorem contents_popAll (keys : List Key) (s : cache.State) :
    cache.contents (keys.foldl (fun s key => (cache.pop s key).1) s)
      = (cache.contents s).filter fun e => e.1 ∉ keys := by
  induction keys generalizing s with
  | nil => simp
  | cons key keys ih =>
    rw [List.foldl_cons, ih, cache.contents_pop, List.filter_filter]
    apply List.filter_congr
    intro e _
    simp [Bool.and_comm]

end Cache

/-- An outbox over a cache. -/
structure CachedOutbox (cache : Cache (PacketType × UInt16) Tracked) where
  entries : cache.State
  capacity : Nat

namespace CachedOutbox

variable {cache : Cache (PacketType × UInt16) Tracked}

def new (cache : Cache (PacketType × UInt16) Tracked) (capacity : Nat) : CachedOutbox cache :=
  ⟨cache.empty, capacity⟩

def size (s : CachedOutbox cache) : Nat := cache.len s.entries

def isEmpty (s : CachedOutbox cache) : Bool := s.size = 0

def isFull (s : CachedOutbox cache) : Bool := s.capacity ≤ s.size

def contains (s : CachedOutbox cache) (kind : PacketType) (packetId : UInt16) : Bool :=
  cache.contains s.entries (kind, packetId)

def peek (s : CachedOutbox cache) (kind : PacketType) (packetId : UInt16) : Option Tracked :=
  cache.peek s.entries (kind, packetId)

def enqueue (s : CachedOutbox cache) (t : Tracked) : CachedOutbox cache × Except Error Unit :=
  if !cache.contains s.entries t.key && s.isFull then (s, .error .outboxFull)
  else ({ s with entries := cache.put s.entries t.key t }, .ok ())

def take (s : CachedOutbox cache) (kind : PacketType) (packetId : UInt16) :
    CachedOutbox cache × Option Tracked :=
  ({ s with entries := (cache.pop s.entries (kind, packetId)).1 },
    (cache.pop s.entries (kind, packetId)).2)

/-- The keys of the entries that are older than `age`. -/
def expired (s : CachedOutbox cache) (now age : Nat) : List (PacketType × UInt16) :=
  ((cache.iter s.entries).filter fun e => age < now - e.2.since).map Prod.fst

/-- The keys are collected first, and popped one after the other. -/
def evictExpired (s : CachedOutbox cache) (now age : Nat) : CachedOutbox cache × Nat :=
  ({ s with entries := (s.expired now age).foldl (fun s key => (cache.pop s key).1) s.entries },
    (s.expired now age).length)

def evictOldestUntil (s : CachedOutbox cache) (count : Nat) : CachedOutbox cache × Nat :=
  ({ s with entries := (cache.popDown count s.entries 0).1 }, (cache.popDown count s.entries 0).2)

def clear (s : CachedOutbox cache) : CachedOutbox cache :=
  { s with entries := cache.clear s.entries }

end CachedOutbox

namespace Outbox

/-- A call on an outbox. -/
inductive Call where
  | enqueue (t : Tracked)
  | take (kind : PacketType) (packetId : UInt16)
  | peek (kind : PacketType) (packetId : UInt16)
  | contains (kind : PacketType) (packetId : UInt16)
  | size
  | isEmpty
  | isFull
  | evictExpired (now age : Nat)
  | evictOldestUntil (count : Nat)
  | clear
deriving DecidableEq, Repr

/-- What a call returns. -/
inductive Answer where
  | outcome (result : Except Error Unit)
  | entry (t : Option Tracked)
  | flag (b : Bool)
  | count (n : Nat)
  | nothing
deriving DecidableEq, Repr

/-- Whether a call only looks. -/
def Call.IsQuery : Call → Prop
  | peek .. | contains .. | size | isEmpty | isFull => True
  | _ => False

def call (o : Outbox) : Call → Outbox × Answer
  | .enqueue t => ((o.enqueue t).1, .outcome (o.enqueue t).2)
  | .take kind packetId => ((o.take kind packetId).1, .entry (o.take kind packetId).2)
  | .peek kind packetId => (o, .entry (o.find? kind packetId))
  | .contains kind packetId => (o, .flag (o.contains kind packetId))
  | .size => (o, .count o.size)
  | .isEmpty => (o, .flag o.isEmpty)
  | .isFull => (o, .flag o.isFull)
  | .evictExpired now age => ((o.evictExpired now age).1, .count (o.evictExpired now age).2)
  | .evictOldestUntil count =>
    ((o.evictOldestUntil count).1, .count (o.evictOldestUntil count).2)
  | .clear => (o.clear, .nothing)

theorem capacity_call (o : Outbox) (c : Call) : (o.call c).1.capacity = o.capacity := by
  cases c with
  | enqueue t => exact capacity_enqueue o t
  | _ => rfl

/-- The store after a sequence of calls, and what they returned. -/
def run {Store : Type} (call : Store → Call → Store × Answer) :
    Store → List Call → Store × List Answer
  | s, [] => (s, [])
  | s, c :: calls =>
    ((run call (call s c).1 calls).1, (call s c).2 :: (run call (call s c).1 calls).2)

theorem capacity_run (o : Outbox) (calls : List Call) :
    (run call o calls).1.capacity = o.capacity := by
  induction calls generalizing o with
  | nil => rfl
  | cons c calls ih => exact (ih (o.call c).1).trans (o.capacity_call c)

end Outbox

namespace CachedOutbox
open Outbox (Call run)

variable {cache : Cache (PacketType × UInt16) Tracked}

def call (s : CachedOutbox cache) : Call → CachedOutbox cache × Outbox.Answer
  | .enqueue t => ((s.enqueue t).1, .outcome (s.enqueue t).2)
  | .take kind packetId => ((s.take kind packetId).1, .entry (s.take kind packetId).2)
  | .peek kind packetId => (s, .entry (s.peek kind packetId))
  | .contains kind packetId => (s, .flag (s.contains kind packetId))
  | .size => (s, .count s.size)
  | .isEmpty => (s, .flag s.isEmpty)
  | .isFull => (s, .flag s.isFull)
  | .evictExpired now age => ((s.evictExpired now age).1, .count (s.evictExpired now age).2)
  | .evictOldestUntil count =>
    ((s.evictOldestUntil count).1, .count (s.evictOldestUntil count).2)
  | .clear => (s.clear, .nothing)

/-! ### The list that a cache stands for -/

/-- Whether the cache holds just the entries of an outbox, in their order, each under its key. -/
structure Holds (s : CachedOutbox cache) (o : Outbox) : Prop where
  capacity : s.capacity = o.capacity
  contents : cache.contents s.entries = o.entries.map fun t => (t.key, t)

variable {s : CachedOutbox cache} {o : Outbox}

theorem holds_new (capacity : Nat) : (new cache capacity).Holds (Outbox.empty capacity) :=
  ⟨rfl, cache.contents_empty⟩

theorem Holds.size_eq (h : s.Holds o) : s.size = o.size := by
  unfold size
  rw [cache.len_eq, h.contents, List.length_map]
  rfl

theorem Holds.isEmpty_eq (h : s.Holds o) : s.isEmpty = o.isEmpty := by
  unfold isEmpty Outbox.isEmpty
  rw [h.size_eq]
  unfold Outbox.size
  cases o.entries <;> simp

theorem Holds.isFull_eq (h : s.Holds o) : s.isFull = o.isFull := by
  unfold isFull Outbox.isFull
  rw [h.capacity, h.size_eq]

theorem Holds.peek_eq (h : s.Holds o) (kind : PacketType) (packetId : UInt16) :
    s.peek kind packetId = o.find? kind packetId := by
  unfold peek Outbox.find?
  rw [cache.peek_eq, h.contents, List.find?_map, Option.map_map]
  exact Option.map_id'

theorem Holds.contains_eq (h : s.Holds o) (kind : PacketType) (packetId : UInt16) :
    s.contains kind packetId = o.contains kind packetId := by
  unfold contains Outbox.contains Outbox.find?
  rw [cache.contains_eq, h.contents, List.any_map, List.isSome_find?]
  rfl

/-- The entries with another key stay what they are. -/
theorem Holds.others (h : s.Holds o) (key : PacketType × UInt16) :
    (cache.contents s.entries).filter (fun e => e.1 ≠ key)
      = (o.others key).map fun t => (t.key, t) := by
  rw [h.contents, List.filter_map]
  rfl

/-- An entry is rejected by both or put by both: where its key is new, by the same bound. -/
theorem Holds.enqueue (h : s.Holds o) (t : Tracked) :
    (s.enqueue t).1.Holds (o.enqueue t).1 ∧ (s.enqueue t).2 = (o.enqueue t).2 := by
  have hcontains : cache.contains s.entries t.key = o.contains t.kind t.packetId :=
    h.contains_eq t.kind t.packetId
  have hput : cache.contents (cache.put s.entries t.key t)
      = (o.others t.key ++ [t]).map fun t => (t.key, t) := by
    rw [cache.contents_put, h.others, List.map_append]
    rfl
  unfold CachedOutbox.enqueue
  rw [hcontains, h.isFull_eq]
  cases hpresent : o.contains t.kind t.packetId with
  | true =>
    -- A present key is put even where the outbox is full.
    obtain ⟨x, hx, hkey⟩ := Outbox.contains_iff.mp hpresent
    obtain ⟨front, back, hsplit⟩ := List.append_of_mem hx
    obtain ⟨hok, hentries⟩ := Outbox.enqueue_of_present hsplit hkey
    have hothers := Outbox.others_of_split hsplit
    rw [hkey] at hothers
    refine ⟨⟨?_, ?_⟩, hok.symm⟩
    · rw [Outbox.capacity_enqueue]
      exact h.capacity
    · rw [hentries, ← hothers]
      exact hput
  | false =>
    have hnew : ∀ x ∈ o.entries, x.key ≠ t.key := by
      intro x hx hkey
      have hpresent' := Outbox.contains_iff.mpr ⟨x, hx, hkey⟩
      rw [hpresent] at hpresent'
      cases hpresent'
    cases hfull : o.isFull with
    | true =>
      rw [Outbox.enqueue_of_full hnew (of_decide_eq_true hfull)]
      exact ⟨h, rfl⟩
    | false =>
      have hroom : o.size < o.capacity := Nat.lt_of_not_le (of_decide_eq_false hfull)
      obtain ⟨hok, hentries⟩ := Outbox.enqueue_of_room hnew hroom
      refine ⟨⟨?_, ?_⟩, hok.symm⟩
      · rw [Outbox.capacity_enqueue]
        exact h.capacity
      · rw [hentries, ← Outbox.others_of_absent hnew]
        exact hput

theorem Holds.take (h : s.Holds o) (kind : PacketType) (packetId : UInt16) :
    (s.take kind packetId).1.Holds (o.take kind packetId).1
      ∧ (s.take kind packetId).2 = (o.take kind packetId).2 := by
  refine ⟨⟨h.capacity, ?_⟩, ?_⟩
  · exact (cache.contents_pop s.entries _).trans (h.others (kind, packetId))
  · exact (cache.pop_eq s.entries _).trans (h.peek_eq kind packetId)

/-- To pop the keys that were collected is to leave out the entries they were collected from,
since no other entry has one of these keys. -/
theorem Holds.evictExpired (h : s.Holds o) (now age : Nat) :
    (s.evictExpired now age).1.Holds (o.evictExpired now age).1
      ∧ (s.evictExpired now age).2 = (o.evictExpired now age).2 := by
  have hiter := cache.iter_perm s.entries
  rw [h.contents] at hiter
  refine ⟨⟨h.capacity, ?_⟩, ?_⟩
  · unfold CachedOutbox.evictExpired expired
    rw [cache.contents_popAll, h.contents, List.filter_map, Outbox.entries_evictExpired]
    congr 1
    apply List.filter_congr
    intro t ht
    simp only [Function.comp_apply, decide_eq_decide]
    rw [← Nat.not_lt, not_iff_not, List.mem_map]
    constructor
    · intro ⟨e, he, hkey⟩
      obtain ⟨hmem, hold⟩ := List.mem_filter.mp he
      obtain ⟨x, hx, rfl⟩ := List.mem_map.mp (hiter.mem_iff.mp hmem)
      have hsame : x = t := List.inj_on_of_nodup_map o.distinct hx ht hkey
      rw [← hsame]
      simpa using hold
    · intro hold
      refine ⟨(t.key, t), List.mem_filter.mpr ⟨?_, by simpa using hold⟩, rfl⟩
      exact hiter.mem_iff.mpr (List.mem_map_of_mem ht)
  · rw [Outbox.count_evictExpired]
    unfold CachedOutbox.evictExpired expired
    rw [List.length_map, ← List.countP_eq_length_filter, hiter.countP_eq, List.countP_map]
    rfl

theorem Holds.evictOldestUntil (h : s.Holds o) (count : Nat) :
    (s.evictOldestUntil count).1.Holds (o.evictOldestUntil count).1
      ∧ (s.evictOldestUntil count).2 = (o.evictOldestUntil count).2 := by
  obtain ⟨hcontents, hpopped⟩ := cache.popDown_spec count s.entries 0
  rw [h.contents, List.length_map] at hcontents hpopped
  refine ⟨⟨h.capacity, ?_⟩, ?_⟩
  · refine hcontents.trans ?_
    rw [← List.map_drop]
    rfl
  · exact hpopped.trans (Nat.zero_add _)

theorem Holds.call (h : s.Holds o) (c : Call) :
    (s.call c).1.Holds (o.call c).1 ∧ (s.call c).2 = (o.call c).2 := by
  cases c with
  | enqueue t => exact (h.enqueue t).imp_right (congrArg _)
  | take kind packetId => exact (h.take kind packetId).imp_right (congrArg _)
  | peek kind packetId => exact ⟨h, congrArg _ (h.peek_eq kind packetId)⟩
  | contains kind packetId => exact ⟨h, congrArg _ (h.contains_eq kind packetId)⟩
  | size => exact ⟨h, congrArg _ h.size_eq⟩
  | isEmpty => exact ⟨h, congrArg _ h.isEmpty_eq⟩
  | isFull => exact ⟨h, congrArg _ h.isFull_eq⟩
  | evictExpired now age => exact (h.evictExpired now age).imp_right (congrArg _)
  | evictOldestUntil count => exact (h.evictOldestUntil count).imp_right (congrArg _)
  | clear => exact ⟨⟨h.capacity, cache.contents_clear s.entries⟩, rfl⟩

theorem Holds.run (h : s.Holds o) (calls : List Call) :
    (Outbox.run CachedOutbox.call s calls).1.Holds (Outbox.run Outbox.call o calls).1
      ∧ (Outbox.run CachedOutbox.call s calls).2 = (Outbox.run Outbox.call o calls).2 := by
  induction calls generalizing s o with
  | nil => exact ⟨h, rfl⟩
  | cons c calls ih =>
    obtain ⟨hafter, hanswer⟩ := h.call c
    obtain ⟨hlast, hanswers⟩ := ih hafter
    exact ⟨hlast, congrArg₂ List.cons hanswer hanswers⟩

theorem call_of_isQuery (s : CachedOutbox cache) {c : Call} (h : c.IsQuery) : (s.call c).1 = s := by
  cases c with
  | peek | contains | size | isEmpty | isFull => rfl
  | _ => exact h.elim

/-- After any calls on an empty outbox, it stands for a list of entries, none with the key of
another and no more than its capacity; the calls returned what they return on that list, where each
does what a map in the order of the puts does, and a call that looks leaves the cache as it is. -/
theorem behaves_as_ordered_map (cache : Cache (PacketType × UInt16) Tracked) (capacity : Nat)
    (calls : List Call) :
    let s := (run call (new cache capacity) calls).1
    let o := (run Outbox.call (.empty capacity) calls).1
    cache.contents s.entries = o.entries.map (fun t => (t.key, t))
      ∧ o.KeepsOrder ∧ o.capacity = capacity ∧ s.size = o.size
      ∧ (run call (new cache capacity) calls).2 = (run Outbox.call (.empty capacity) calls).2
      ∧ (∀ c, (s.call c).1.Holds (o.call c).1 ∧ (s.call c).2 = (o.call c).2)
      ∧ ∀ c : Call, c.IsQuery → (s.call c).1 = s := by
  intro s o
  obtain ⟨hholds, hanswers⟩ := (@holds_new cache capacity).run calls
  refine ⟨hholds.contents, o.keepsOrder, ?_, hholds.size_eq, hanswers, hholds.call, ?_⟩
  · exact Outbox.capacity_run (.empty capacity) calls
  · intro c hc
    exact s.call_of_isQuery hc

/-- A full outbox of two rejects a third entry; one that replaces the older of the two is accepted
and then the younger, so that the other is evicted. -/
theorem behaves_as_ordered_map_of_full_outbox :
    let entry (packetId : UInt16) (since : Nat) : Tracked :=
      ⟨packetId, .publish, .atLeastOnce, [], since⟩
    let calls : List Call := [.enqueue (entry 1 0), .enqueue (entry 2 5), .enqueue (entry 3 6),
      .enqueue (entry 1 7), .evictOldestUntil 1, .peek .publish 2]
    let cache := Cache.ofList (PacketType × UInt16) Tracked
    let result := run call (new cache 2) calls
    cache.contents result.1.entries = [((.publish, 1), entry 1 7)]
      ∧ result.2 = [.outcome (.ok ()), .outcome (.ok ()), .outcome (.error .outboxFull),
          .outcome (.ok ()), .count 1, .entry none] := by
  intro entry calls cache result
  obtain ⟨hcontents, -, -, -, hanswers, -⟩ := behaves_as_ordered_map cache 2 calls
  constructor
  · rw [hcontents]
    decide
  · rw [hanswers]
    decide

end CachedOutbox

end Mqtt
