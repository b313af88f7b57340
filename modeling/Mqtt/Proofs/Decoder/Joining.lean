import Mqtt.Proofs.Wire.Packet
import Mqtt.Wire.Decoder

/-!
The chunks of a streamed message put together again. How a message was cut into chunks is then no
longer to be seen, only what was delivered.
-/

namespace Mqtt
set_option autoImplicit false

namespace Chunk

/-- Whether a chunk takes its message up where this one leaves it. -/
def ContinuedBy (c next : Chunk) : Prop :=
  next.publish = c.publish ∧ next.total = c.total ∧ next.offset = c.offset + c.data.length

instance (c next : Chunk) : Decidable (c.ContinuedBy next) := by
  unfold ContinuedBy
  infer_instance

/-- A chunk together with the data of the one after it. -/
def extend (c next : Chunk) : Chunk := { c with data := c.data ++ next.data }

theorem continuedBy_extend_left {c d e : Chunk} (h : c.ContinuedBy d) :
    (c.extend d).ContinuedBy e ↔ d.ContinuedBy e := by
  obtain ⟨hpublish, htotal, hoffset⟩ := h
  unfold ContinuedBy extend
  rw [hpublish, htotal, hoffset, List.length_append, Nat.add_assoc]

theorem extend_assoc (c d e : Chunk) : (c.extend d).extend e = c.extend (d.extend e) := by
  simp [extend]

/-- Whether the chunk is all of its message. -/
def IsWhole (c : Chunk) : Prop := c.offset = 0 ∧ c.data.length = c.total

instance (c : Chunk) : Decidable c.IsWhole := by
  unfold IsWhole
  infer_instance

/-- Whether the chunk begins its message. -/
def Begins (c : Chunk) : Prop := c.offset = 0 ∧ c.data ≠ [] ∧ c.data.length ≤ c.total

end Chunk

namespace DecodedItem

/-- Puts an item in front, joined with the first of the items when that continues it. -/
def joinTo : DecodedItem → List DecodedItem → List DecodedItem
  | .chunk c, .chunk next :: items =>
    if c.ContinuedBy next then .chunk (c.extend next) :: items
    else .chunk c :: .chunk next :: items
  | item, items => item :: items

/-- The items, with every run of continuing chunks joined to one. -/
def joined (items : List DecodedItem) : List DecodedItem := items.foldr joinTo []

/-- The packet that an item stands for; none for a chunk that is not all of its message. -/
def toPacket? : DecodedItem → Option Packet
  | .packet p => some p
  | .chunk c => if c.IsWhole then some (.publish { c.publish with payload := c.data }) else none

/-- The packets that were delivered; none where a message is not complete. -/
def packets? (items : List DecodedItem) : Option (List Packet) := (joined items).mapM toPacket?

@[simp] theorem joined_nil : joined [] = [] := rfl

@[simp] theorem joined_cons (item : DecodedItem) (items : List DecodedItem) :
    joined (item :: items) = joinTo item (joined items) := rfl

theorem joinTo_chunk_of_not_continuedBy {c : Chunk} {items : List DecodedItem}
    (h : ∀ next tail, items = .chunk next :: tail → ¬ c.ContinuedBy next) :
    joinTo (.chunk c) items = .chunk c :: items := by
  match items with
  | [] => rfl
  | .packet _ :: _ => rfl
  | .chunk next :: tail => exact if_neg (h next tail rfl)

theorem joinTo_joinTo {c d : Chunk} (h : c.ContinuedBy d) (items : List DecodedItem) :
    joinTo (.chunk c) (joinTo (.chunk d) items) = joinTo (.chunk (c.extend d)) items := by
  have hsplit : ∀ tail, joinTo (.chunk c) (.chunk d :: tail) = .chunk (c.extend d) :: tail :=
    fun tail => if_pos h
  match items with
  | [] => exact hsplit []
  | .packet p :: tail => exact hsplit (.packet p :: tail)
  | .chunk e :: tail =>
    by_cases hde : d.ContinuedBy e
    · have hcde : (c.extend d).ContinuedBy e := (Chunk.continuedBy_extend_left h).mpr hde
      have hd : joinTo (.chunk d) (.chunk e :: tail) = .chunk (d.extend e) :: tail := if_pos hde
      have hcd : joinTo (.chunk (c.extend d)) (.chunk e :: tail) =
          .chunk ((c.extend d).extend e) :: tail := if_pos hcde
      have hc : c.ContinuedBy (d.extend e) := h
      rw [hd, hcd, Chunk.extend_assoc]
      exact if_pos hc
    · have hcde : ¬ (c.extend d).ContinuedBy e := fun hcd =>
        hde ((Chunk.continuedBy_extend_left h).mp hcd)
      have hd : joinTo (.chunk d) (.chunk e :: tail) = .chunk d :: .chunk e :: tail := if_neg hde
      have hcd : joinTo (.chunk (c.extend d)) (.chunk e :: tail) =
          .chunk (c.extend d) :: .chunk e :: tail := if_neg hcde
      rw [hd, hcd]
      exact hsplit _

theorem joined_append (xs ys : List DecodedItem) :
    joined (xs ++ ys) = xs.foldr joinTo (joined ys) :=
  List.foldr_append

theorem joined_cons_congr (item : DecodedItem) {ys zs : List DecodedItem}
    (h : joined ys = joined zs) : joined (item :: ys) = joined (item :: zs) := by
  rw [joined_cons, joined_cons, h]

theorem foldr_joinTo (item : DecodedItem) (xs items : List DecodedItem) :
    (joinTo item xs).foldr joinTo items = joinTo item (xs.foldr joinTo items) := by
  match item, xs with
  | .packet _, _ => rfl
  | .chunk _, [] => rfl
  | .chunk _, .packet _ :: _ => rfl
  | .chunk c, .chunk d :: xs =>
    by_cases h : c.ContinuedBy d
    · have hjoin : joinTo (.chunk c) (.chunk d :: xs) = .chunk (c.extend d) :: xs := if_pos h
      rw [hjoin]
      exact (joinTo_joinTo h _).symm
    · have hjoin : joinTo (.chunk c) (.chunk d :: xs) = .chunk c :: .chunk d :: xs := if_neg h
      rw [hjoin]
      rfl

theorem joined_joined_append (xs ys : List DecodedItem) :
    joined (joined xs ++ ys) = joined (xs ++ ys) := by
  rw [joined_append, joined_append]
  induction xs with
  | nil => rfl
  | cons item xs ih => rw [joined_cons, foldr_joinTo, ih, List.foldr_cons]

theorem joined_congr_append {xs ys : List DecodedItem} (h : joined xs = joined ys)
    (zs : List DecodedItem) : joined (xs ++ zs) = joined (ys ++ zs) := by
  rw [← joined_joined_append xs, h, joined_joined_append]

/-! ### Items of which none continues another -/

/-- A chunk at the beginning of a message takes up none that has already brought something. -/
theorem joined_of_begins {items : List DecodedItem} (h : ∀ c, .chunk c ∈ items → c.Begins) :
    joined items = items := by
  induction items with
  | nil => rfl
  | cons item items ih =>
    rw [joined_cons, ih fun c hc => h c (List.mem_cons_of_mem _ hc)]
    cases item with
    | packet p => rfl
    | chunk c =>
      refine joinTo_chunk_of_not_continuedBy fun next tail htail hnext => ?_
      subst htail
      obtain ⟨_, hdata, _⟩ := h c List.mem_cons_self
      obtain ⟨hzero, _, _⟩ := h next (List.mem_cons_of_mem _ List.mem_cons_self)
      obtain ⟨_, _, hcontinues⟩ := hnext
      have hpos := List.length_pos_iff.mpr hdata
      omega

/-- Whether an item is a whole packet. A chunk of a message without payload never comes up. -/
def IsWhole : DecodedItem → Prop
  | .packet _ => True
  | .chunk c => c.IsWhole ∧ 0 < c.total

/-- Nothing continues a message that is complete. -/
theorem joined_of_whole {items : List DecodedItem} (h : ∀ item ∈ items, item.IsWhole) :
    joined items = items := by
  apply joined_of_begins
  intro c hc
  obtain ⟨⟨hoffset, hlength⟩, hpos⟩ := h _ hc
  have hdata : c.data ≠ [] := by
    apply List.length_pos_iff.mp
    omega
  exact ⟨hoffset, hdata, Nat.le_of_eq hlength⟩

/-! ### Items that the wire format can produce -/

/-- The packet, or the message that the chunk is a part of, is well-formed. -/
def WellFormed : DecodedItem → Prop
  | .packet p => p.WellFormed
  | .chunk c => c.publish.WellFormed

theorem wellFormed_of_mem_joinTo {item : DecodedItem} {items : List DecodedItem}
    (hitem : item.WellFormed) (hitems : ∀ x ∈ items, x.WellFormed) :
    ∀ x ∈ joinTo item items, x.WellFormed := by
  have hcons : ∀ x ∈ item :: items, x.WellFormed := List.forall_mem_cons.mpr ⟨hitem, hitems⟩
  match item, items with
  | .packet _, _ => exact hcons
  | .chunk _, [] => exact hcons
  | .chunk _, .packet _ :: _ => exact hcons
  | .chunk c, .chunk next :: tail =>
    by_cases hnext : c.ContinuedBy next
    · have hjoin : joinTo (.chunk c) (.chunk next :: tail) = .chunk (c.extend next) :: tail :=
        if_pos hnext
      rw [hjoin]
      exact List.forall_mem_cons.mpr ⟨hitem, (List.forall_mem_cons.mp hitems).2⟩
    · have hjoin : joinTo (.chunk c) (.chunk next :: tail) = .chunk c :: .chunk next :: tail :=
        if_neg hnext
      rw [hjoin]
      exact hcons

theorem wellFormed_of_mem_joined {items : List DecodedItem} (h : ∀ x ∈ items, x.WellFormed) :
    ∀ x ∈ joined items, x.WellFormed := by
  induction items with
  | nil => exact h
  | cons item items ih =>
    rw [List.forall_mem_cons] at h
    exact wellFormed_of_mem_joinTo h.1 (ih h.2)

theorem WellFormed.toPacket? {item : DecodedItem} (h : item.WellFormed) {p : Packet}
    (hp : item.toPacket? = some p) : p.WellFormed := by
  cases item with
  | packet q =>
    cases hp
    exact h
  | chunk c =>
    unfold DecodedItem.toPacket? at hp
    dsimp only at hp
    split at hp
    · cases hp
      exact h
    · cases hp

end DecodedItem
end Mqtt
