import Mqtt.Encoder

/-!
The order of the packet ids: they count up and form one cycle without 0, in which none comes back
before all others were there.
-/

namespace Mqtt
set_option autoImplicit false

namespace PacketId

theorem toNat_next {i : UInt16} (h : i.toNat < 65535) : (next i).toNat = i.toNat + 1 := by
  have hnext : (i + 1).toNat = i.toNat + 1 := by
    rw [UInt16.toNat_add]
    change (i.toNat + 1) % 65536 = i.toNat + 1
    omega
  unfold next
  split
  · rename_i hzero
    rw [hzero] at hnext
    cases hnext
  · exact hnext

theorem next_advance (i : UInt16) (n : Nat) : next (advance i n) = advance i (n + 1) := by
  induction n generalizing i with
  | zero => rfl
  | succ n ih => exact ih (next i)

theorem toNat_next_cases (i : UInt16) :
    i.toNat < 65535 ∧ (next i).toNat = i.toNat + 1 ∨ i.toNat = 65535 ∧ (next i).toNat = 1 := by
  have hbound := i.toNat_lt
  by_cases hlast : i.toNat < 65535
  · exact .inl ⟨hlast, toNat_next hlast⟩
  · have hi : i = 65535 := by
      apply UInt16.toNat.inj
      change i.toNat = 65535
      omega
    subst hi
    exact .inr ⟨rfl, rfl⟩

/-- The ids form one cycle without 0. -/
theorem toNat_advance {i : UInt16} {n : Nat} (h : 0 < i.toNat + n) :
    (advance i n).toNat = (i.toNat + n - 1) % 65535 + 1 := by
  induction n generalizing i with
  | zero =>
    have hbound := i.toNat_lt
    unfold advance
    omega
  | succ n ih =>
    have hnext := toNat_next_cases i
    unfold advance
    rw [ih (by omega)]
    omega

theorem toNat_advance_zero (n : Nat) : (advance 0 (n + 1)).toNat = n % 65535 + 1 := by
  have hzero : (0 : UInt16).toNat = 0 := rfl
  rw [toNat_advance (by omega), hzero]
  congr 2
  omega

/-- An id does not come back before all others were there. -/
theorem le_of_advance_eq {i : UInt16} {n : Nat} (hi : i ≠ 0) (hn : 0 < n) (h : advance i n = i) :
    65535 ≤ n := by
  have hpos : i.toNat ≠ 0 := fun hzero => hi (UInt16.toNat.inj hzero)
  have hsame := toNat_advance (i := i) (n := n) (by omega)
  have hbound := i.toNat_lt
  rw [h] at hsame
  omega

/-- The ids that are handed out one after the other from `i` on, and the last of them. -/
inductive CountsUp : UInt16 → List UInt16 → UInt16 → Prop where
  | nil (i : UInt16) : CountsUp i [] i
  | cons {i j : UInt16} {ids : List UInt16} : CountsUp (next i) ids j → CountsUp i (next i :: ids) j

namespace CountsUp

variable {i j : UInt16} {ids : List UInt16}

theorem order (h : CountsUp i ids j) :
    ids = (List.range ids.length).map fun k => advance i (k + 1) := by
  induction h with
  | nil i => rfl
  | cons _ ih =>
    rw [List.length_cons, List.range_succ_eq_map, List.map_cons, List.map_map]
    exact congrArg (_ :: ·) ih

theorem last (h : CountsUp i ids j) : j = advance i ids.length := by
  induction h with
  | nil i => rfl
  | cons _ ih => exact ih

/-- The ids that follow none are 1, 2, 3 and so on, in a cycle of 65535. -/
theorem from_zero (h : CountsUp 0 ids j) :
    ids.map UInt16.toNat = (List.range ids.length).map fun k => k % 65535 + 1 := by
  conv => lhs; rw [h.order, List.map_map]
  apply List.map_congr_left
  intro k _
  exact toNat_advance_zero k

end CountsUp
end PacketId
end Mqtt
