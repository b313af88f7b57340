import Mqtt.Bytes
import Mqtt.PacketType
import Mqtt.QoS

/-!
The bounded store of operations that wait for an acknowledgement, oldest first. An entry is found
by its kind and packet id together, and no two entries share both.
-/

namespace Mqtt
set_option autoImplicit false

/-- An operation that was issued and waits for an acknowledgement. -/
structure Tracked where
  packetId : UInt16
  /-- Only the acknowledgement of a packet of this kind concerns it. -/
  kind : PacketType
  qos : QoS
  packet : Bytes
  /-- When it was issued. -/
  since : Nat
deriving DecidableEq, Repr, Inhabited

namespace Tracked

def key (t : Tracked) : PacketType × UInt16 := (t.kind, t.packetId)

/-- A QoS 2 PUBLISH is never completed as such: it becomes a PUBREL first. -/
def awaitsPubrec (t : Tracked) : Bool := t.kind = .publish && t.qos = .exactlyOnce

end Tracked

structure Outbox where
  capacity : Nat
  /-- Oldest first. -/
  entries : List Tracked
  distinct : (entries.map Tracked.key).Nodup
  bounded : entries.length ≤ capacity
deriving DecidableEq, Repr

namespace Outbox

def empty (capacity : Nat) : Outbox := ⟨capacity, [], .nil, Nat.zero_le _⟩

instance : Inhabited Outbox := ⟨empty 0⟩

@[ext] theorem ext {a b : Outbox} (hc : a.capacity = b.capacity) (he : a.entries = b.entries) :
    a = b := by
  cases a; cases b; cases hc; cases he; rfl

def size (o : Outbox) : Nat := o.entries.length

def isEmpty (o : Outbox) : Bool := o.entries.isEmpty

def isFull (o : Outbox) : Bool := o.capacity ≤ o.size

def find? (o : Outbox) (kind : PacketType) (packetId : UInt16) : Option Tracked :=
  o.entries.find? fun t => t.key = (kind, packetId)

def contains (o : Outbox) (kind : PacketType) (packetId : UInt16) : Bool :=
  (o.find? kind packetId).isSome

/-- The outbox with some of its entries, in their order. -/
def keep (o : Outbox) (entries : List Tracked) (h : entries.Sublist o.entries) : Outbox where
  capacity := o.capacity
  entries
  distinct := o.distinct.sublist (h.map _)
  bounded := Nat.le_trans h.length_le o.bounded

/-- The entries with another key. -/
def others (o : Outbox) (key : PacketType × UInt16) : List Tracked :=
  o.entries.filter fun t => t.key ≠ key

theorem others_sublist (o : Outbox) (key : PacketType × UInt16) :
    (o.others key).Sublist o.entries := List.filter_sublist

def erase (o : Outbox) (kind : PacketType) (packetId : UInt16) : Outbox :=
  o.keep (o.others (kind, packetId)) (o.others_sublist _)

theorem key_not_mem_others (o : Outbox) (key : PacketType × UInt16) :
    key ∉ (o.others key).map Tracked.key := by
  simp [others]

/-- An entry at the young end, after the entries with another key. -/
def put (o : Outbox) (t : Tracked) (h : (o.others t.key).length < o.capacity) : Outbox where
  capacity := o.capacity
  entries := o.others t.key ++ [t]
  distinct := by
    simp only [List.map_append, List.map_cons, List.map_nil]
    refine List.nodup_append.mpr ⟨o.distinct.sublist ((o.others_sublist _).map _), by simp, ?_⟩
    intro a ha b hb hab
    simp only [List.mem_singleton] at hb
    subst hb
    exact o.key_not_mem_others t.key (hab ▸ ha)
  bounded := by rw [List.length_append]; exact h

/-- Puts an entry at the young end, in place of one with the same key. An entry with a new key is
rejected when the outbox is full. -/
def enqueue (o : Outbox) (t : Tracked) : Outbox × Except Error Unit :=
  if h : (o.others t.key).length < o.capacity then (o.put t h, .ok ()) else (o, .error .outboxFull)

def take (o : Outbox) (kind : PacketType) (packetId : UInt16) : Outbox × Option Tracked :=
  (o.erase kind packetId, o.find? kind packetId)

/-- Drops the entries that are older than `age`, and tells how many there were. -/
def evictExpired (o : Outbox) (now age : Nat) : Outbox × Nat :=
  let kept := o.entries.filter fun t => now - t.since ≤ age
  (o.keep kept List.filter_sublist, o.size - kept.length)

/-- Drops the oldest entries beyond `count`, and tells how many there were. -/
def evictOldestUntil (o : Outbox) (count : Nat) : Outbox × Nat :=
  let excess := o.size - count
  (o.keep (o.entries.drop excess) (List.drop_sublist _ _), excess)

def clear (o : Outbox) : Outbox := empty o.capacity

end Outbox

end Mqtt
