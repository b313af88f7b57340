import Mathlib.Algebra.Group.Nat.Defs
import Mqtt.Wire.VarLength

/-!
Reading takes back what writing put down and leaves the rest. A number cut off before its last
byte is never mistaken for another one. What is written is as long as was computed before, and
shorter than every other spelling.
-/

namespace Mqtt.VarLength
set_option autoImplicit false

theorem toNat_toUInt8 {n : Nat} (h : n < 256) : n.toUInt8.toNat = n := by
  simp [Nat.mod_eq_of_lt h]

theorem decodeUpTo_digits {k n : Nat} (h : n < 128 ^ (k + 1)) (rest : Bytes) :
    decodeUpTo (k + 1) (digits n ++ rest) = .ok (.value n rest) := by
  induction k generalizing n with
  | zero =>
    have hn : n < 128 := by simpa using h
    rw [digits, if_pos hn]
    simp only [List.cons_append, List.nil_append, decodeUpTo, toNat_toUInt8 (by omega : n < 256),
      if_pos hn]
  | succ k ih =>
    rw [digits]
    by_cases hn : n < 128
    · rw [if_pos hn]
      simp only [List.cons_append, List.nil_append, decodeUpTo, toNat_toUInt8 (by omega : n < 256),
        if_pos hn]
    · have hdiv : n / 128 < 128 ^ (k + 1) := by
        rw [Nat.div_lt_iff_lt_mul (by decide)]
        rwa [Nat.pow_succ] at h
      rw [if_neg hn, List.cons_append, decodeUpTo,
        toNat_toUInt8 (by omega : n % 128 + 128 < 256), if_neg (by omega), ih hdiv]
      simp only [Except.ok.injEq, Reading.value.injEq, and_true]
      omega

theorem decode_digits {n : Nat} (h : n ≤ maximum) (rest : Bytes) :
    decode (digits n ++ rest) = .ok (.value n rest) :=
  decodeUpTo_digits (by unfold maximum at h; omega) rest

theorem digits_append_inj {m n : Nat} (hm : m ≤ maximum) (hn : n ≤ maximum) {rest rest' : Bytes}
    (h : digits m ++ rest = digits n ++ rest') : m = n ∧ rest = rest' := by
  have hread := decode_digits hm rest
  rw [h, decode_digits hn] at hread
  simp only [Except.ok.injEq, Reading.value.injEq] at hread
  exact ⟨hread.1.symm, hread.2.symm⟩

theorem digits_ne_nil (n : Nat) : digits n ≠ [] := by
  rw [digits]
  split <;> simp

theorem length_le_of_decodeUpTo {k n : Nat} {bs rest : Bytes}
    (h : decodeUpTo k bs = .ok (.value n rest)) : bs.length ≤ k + rest.length := by
  induction k generalizing n bs with
  | zero => simp [decodeUpTo] at h
  | succ k ih =>
    cases bs with
    | nil => simp [decodeUpTo] at h
    | cons b bs =>
      simp only [decodeUpTo] at h
      split at h
      · simp only [Except.ok.injEq, Reading.value.injEq] at h
        obtain ⟨_, rfl⟩ := h
        simp only [List.length_cons]
        omega
      · split at h
        · rename_i m rest' hd
          simp only [Except.ok.injEq, Reading.value.injEq] at h
          obtain ⟨_, rfl⟩ := h
          have hlen := ih hd
          simp only [List.length_cons]
          omega
        · rename_i hne
          exact absurd h (hne n rest)

/-- What is read as a number is no shorter than its digits, and as long only when it is them. -/
theorem digits_le_of_decodeUpTo {k n : Nat} {bs rest : Bytes}
    (h : decodeUpTo k bs = .ok (.value n rest)) :
    (digits n).length + rest.length ≤ bs.length ∧
      ((digits n).length + rest.length = bs.length → bs = digits n ++ rest) := by
  induction k generalizing n bs with
  | zero => simp [decodeUpTo] at h
  | succ k ih =>
    cases bs with
    | nil => simp [decodeUpTo] at h
    | cons b bs =>
      simp only [decodeUpTo] at h
      have hbyte := b.toNat_lt
      split at h
      · rename_i hb
        simp only [Except.ok.injEq, Reading.value.injEq] at h
        obtain ⟨rfl, rfl⟩ := h
        rw [digits, if_pos hb]
        simp only [List.length_cons, List.length_nil, List.singleton_append]
        refine ⟨by omega, fun _ => ?_⟩
        simp
      · rename_i hb
        split at h
        · rename_i m rest' hd
          simp only [Except.ok.injEq, Reading.value.injEq] at h
          obtain ⟨hn, rfl⟩ := h
          obtain ⟨hle, heq⟩ := ih hd
          have hpos : 0 < (digits m).length := List.length_pos_iff.mpr (digits_ne_nil m)
          by_cases hsmall : n < 128
          · -- a padded number: its own digits are strictly shorter
            rw [digits, if_pos hsmall]
            simp only [List.length_cons, List.length_nil]
            exact ⟨by omega, fun hlen => by omega⟩
          · have hdiv : n / 128 = m := by omega
            have hmod : n % 128 + 128 = b.toNat := by omega
            rw [digits, if_neg hsmall, hdiv, hmod]
            simp only [List.length_cons, List.cons_append]
            refine ⟨by omega, fun hlen => ?_⟩
            rw [heq (by omega)]
            simp
        · rename_i hne
          exact absurd h (hne n rest)

/-- What is written is the shortest spelling. -/
theorem encode_minimal {n : Nat} (h : n ≤ maximum) :
    encode n = .ok (digits n) ∧
      ∀ spelling rest, decode (spelling ++ rest) = .ok (.value n rest) →
        (digits n).length ≤ spelling.length ∧
        ((digits n).length = spelling.length → spelling = digits n) := by
  refine ⟨if_pos h, ?_⟩
  intro spelling rest hread
  obtain ⟨hle, heq⟩ := digits_le_of_decodeUpTo hread
  rw [List.length_append] at hle heq
  refine ⟨by omega, fun hlen => ?_⟩
  exact List.append_cancel_right (heq (by omega))

/-! ### Sizes -/

theorem length_digits_of_lt {n : Nat} (h : n < 128) : (digits n).length = 1 := by
  rw [digits, if_pos h]
  rfl

theorem length_digits_of_le {n : Nat} (h : 128 ≤ n) :
    (digits n).length = (digits (n / 128)).length + 1 := by
  rw [digits, if_neg (Nat.not_lt.mpr h)]
  exact List.length_cons

theorem encodedSize_of_le {n : Nat} (h : n ≤ maximum) : encodedSize n = .ok (digits n).length := by
  unfold maximum at h
  unfold encodedSize maximum
  by_cases hone : n < 0x80
  · rw [if_pos hone, length_digits_of_lt hone]
  rw [if_neg hone, length_digits_of_le (by omega)]
  by_cases htwo : n < 0x4000
  · rw [if_pos htwo, length_digits_of_lt (by omega)]
  rw [if_neg htwo, length_digits_of_le (by omega)]
  by_cases hthree : n < 0x200000
  · rw [if_pos hthree, length_digits_of_lt (by omega)]
  rw [if_neg hthree, if_pos h, length_digits_of_le (by omega), length_digits_of_lt (by omega)]

theorem encodedSize_of_lt {n : Nat} (h : maximum < n) :
    encodedSize n = .error .variableLengthIntegerMaximumExceeded := by
  unfold maximum at h
  unfold encodedSize maximum
  rw [if_neg (by omega), if_neg (by omega), if_neg (by omega), if_neg (by omega)]

theorem encode_of_lt {n : Nat} (h : maximum < n) :
    encode n = .error .variableLengthIntegerMaximumExceeded :=
  if_neg (Nat.not_le.mpr h)

/-- A number of `k` bytes has seven bits for each. -/
theorem lt_of_decodeUpTo {k n : Nat} {bs rest : Bytes}
    (h : decodeUpTo k bs = .ok (.value n rest)) : n < 128 ^ k := by
  induction k generalizing n bs with
  | zero => simp [decodeUpTo] at h
  | succ k ih =>
    cases bs with
    | nil => simp [decodeUpTo] at h
    | cons b bs =>
      have hbyte := b.toNat_lt
      have hpow : 0 < 128 ^ k := Nat.pow_pos (by decide)
      simp only [decodeUpTo] at h
      rw [Nat.pow_succ]
      split at h
      · simp only [Except.ok.injEq, Reading.value.injEq] at h
        omega
      · split at h
        · rename_i m rest' hd
          simp only [Except.ok.injEq, Reading.value.injEq] at h
          obtain ⟨rfl, rfl⟩ := h
          have hm := ih hd
          omega
        · rename_i hne
          exact absurd h (hne n rest)

theorem le_maximum_of_decode {n : Nat} {bs rest : Bytes} (h : decode bs = .ok (.value n rest)) :
    n ≤ maximum := by
  have hlt := lt_of_decodeUpTo h
  unfold maximum
  omega

/-! ### Fewer bytes -/

/-- A proper beginning of a number is known to be one. -/
theorem decodeUpTo_take {k n : Nat} {bs : Bytes} (h : decodeUpTo k bs = .ok (.value n []))
    {i : Nat} (hi : i < bs.length) : decodeUpTo k (bs.take i) = .ok .incomplete := by
  induction k generalizing n bs i with
  | zero => simp [decodeUpTo] at h
  | succ k ih =>
    cases bs with
    | nil => simp at hi
    | cons b bs =>
      cases i with
      | zero => rfl
      | succ i =>
        simp only [decodeUpTo] at h
        split at h
        · simp only [Except.ok.injEq, Reading.value.injEq] at h
          obtain ⟨_, rfl⟩ := h
          simp only [List.length_cons, List.length_nil] at hi
          omega
        · rename_i hb
          split at h
          · rename_i m rest' hd
            simp only [Except.ok.injEq, Reading.value.injEq] at h
            obtain ⟨_, rfl⟩ := h
            have hpart := ih hd (Nat.lt_of_succ_lt_succ hi)
            simp only [List.take_succ_cons, decodeUpTo, if_neg hb, hpart]
          · rename_i hne
            exact absurd h (hne n [])

theorem decode_take {n : Nat} {bs : Bytes} (h : decode bs = .ok (.value n [])) {i : Nat}
    (hi : i < bs.length) : decode (bs.take i) = .ok .incomplete :=
  decodeUpTo_take h hi

/-! ### More bytes -/

theorem decodeUpTo_append_of_value {k n : Nat} {bs rest : Bytes}
    (h : decodeUpTo k bs = .ok (.value n rest)) (more : Bytes) :
    decodeUpTo k (bs ++ more) = .ok (.value n (rest ++ more)) := by
  induction k generalizing n bs with
  | zero => simp [decodeUpTo] at h
  | succ k ih =>
    cases bs with
    | nil => simp [decodeUpTo] at h
    | cons b bs =>
      simp only [decodeUpTo] at h
      rw [List.cons_append, decodeUpTo]
      split at h
      · rename_i hlast
        simp only [Except.ok.injEq, Reading.value.injEq] at h
        obtain ⟨rfl, rfl⟩ := h
        exact if_pos hlast
      · rename_i hmore
        rw [if_neg hmore]
        split at h
        · rename_i m rest' hd
          simp only [Except.ok.injEq, Reading.value.injEq] at h
          obtain ⟨rfl, rfl⟩ := h
          rw [ih hd]
        · rename_i hne
          exact absurd h (hne n rest)

theorem decodeUpTo_append_of_error {k : Nat} {bs : Bytes} {e : Error}
    (h : decodeUpTo k bs = .error e) (more : Bytes) : decodeUpTo k (bs ++ more) = .error e := by
  induction k generalizing bs with
  | zero => exact h
  | succ k ih =>
    cases bs with
    | nil => simp [decodeUpTo] at h
    | cons b bs =>
      simp only [decodeUpTo] at h
      split at h
      · cases h
      · rename_i hmore
        split at h
        · cases h
        · rw [List.cons_append, decodeUpTo, if_neg hmore, ih h]

/-- What is read as a number begins with a spelling of it, and the rest is not looked at. -/
theorem exists_spelling {k n : Nat} {bs rest : Bytes} (h : decodeUpTo k bs = .ok (.value n rest)) :
    ∃ spelling, bs = spelling ++ rest ∧ decodeUpTo k spelling = .ok (.value n []) := by
  induction k generalizing n bs with
  | zero => simp [decodeUpTo] at h
  | succ k ih =>
    cases bs with
    | nil => simp [decodeUpTo] at h
    | cons b bs =>
      simp only [decodeUpTo] at h
      split at h
      · rename_i hlast
        simp only [Except.ok.injEq, Reading.value.injEq] at h
        obtain ⟨rfl, rfl⟩ := h
        exact ⟨[b], rfl, if_pos hlast⟩
      · rename_i hmore
        split at h
        · rename_i m rest' hd
          simp only [Except.ok.injEq, Reading.value.injEq] at h
          obtain ⟨rfl, rfl⟩ := h
          obtain ⟨spelling, rfl, hspelling⟩ := ih hd
          refine ⟨b :: spelling, rfl, ?_⟩
          simp only [decodeUpTo, if_neg hmore, hspelling]
        · rename_i hne
          exact absurd h (hne n rest)

theorem decode_append_of_value {n : Nat} {bs rest : Bytes}
    (h : decode bs = .ok (.value n rest)) (more : Bytes) :
    decode (bs ++ more) = .ok (.value n (rest ++ more)) :=
  decodeUpTo_append_of_value h more

theorem decode_append_of_error {bs : Bytes} {e : Error} (h : decode bs = .error e) (more : Bytes) :
    decode (bs ++ more) = .error e :=
  decodeUpTo_append_of_error h more

end Mqtt.VarLength
