import Mqtt.Wire.Field

/-!
Fields and readers are inverse to each other: a reader gives a value exactly where the bytes begin
with the fields of that value, and leaves what comes after them.
-/

namespace Mqtt
set_option autoImplicit false

namespace Bytes

theorem toUInt16_ofUInt16 (n : UInt16) : toUInt16 (n >>> 8).toUInt8 n.toUInt8 = n := by
  unfold toUInt16
  apply UInt16.toNat_inj.mp
  have hn := n.toNat_lt
  rw [UInt16.toNat_or, Nat.or_comm]
  simp only [UInt16.toNat_shiftLeft, UInt8.toNat_toUInt16, UInt16.toNat_toUInt8,
    UInt16.toNat_shiftRight, UInt16.reduceToNat, Nat.reduceMod, Nat.shiftLeft_eq,
    Nat.shiftRight_eq_div_pow]
  have hlow : n.toNat % 2 ^ 8 < 2 ^ 8 := Nat.mod_lt _ (by decide)
  have hhigh : n.toNat / 2 ^ 8 % 2 ^ 8 * 2 ^ 8 % 2 ^ 16 = 2 ^ 8 * (n.toNat / 2 ^ 8) := by omega
  rw [hhigh, Nat.or_comm, ← Nat.two_pow_add_eq_or_of_lt hlow]
  omega

theorem toNat_toUInt16 (hi lo : UInt8) : (toUInt16 hi lo).toNat = 256 * hi.toNat + lo.toNat := by
  have hhi := hi.toNat_lt
  have hlo : lo.toNat < 2 ^ 8 := lo.toNat_lt
  unfold toUInt16
  simp only [UInt16.toNat_or, UInt16.toNat_shiftLeft, UInt8.toNat_toUInt16, UInt16.reduceToNat,
    Nat.reduceMod, Nat.shiftLeft_eq]
  have hhigh : hi.toNat * 2 ^ 8 % 2 ^ 16 = 2 ^ 8 * hi.toNat := by omega
  rw [hhigh, ← Nat.two_pow_add_eq_or_of_lt hlo]

theorem ofUInt16_toUInt16 (hi lo : UInt8) : ofUInt16 (toUInt16 hi lo) = [hi, lo] := by
  have hhi := hi.toNat_lt
  have hlo := lo.toNat_lt
  have h := toNat_toUInt16 hi lo
  unfold ofUInt16
  simp only [List.cons.injEq, and_true]
  constructor
  · apply UInt8.toNat_inj.mp
    simp only [UInt16.toNat_toUInt8, UInt16.toNat_shiftRight, h, UInt16.reduceToNat,
      Nat.reduceMod, Nat.shiftRight_eq_div_pow]
    omega
  · apply UInt8.toNat_inj.mp
    simp only [UInt16.toNat_toUInt8, h]
    omega

theorem toText?_eq_some_iff {bs : Bytes} {s : String} : toText? bs = some s ↔ bs = ofText s := by
  unfold toText? ofText String.fromUTF8?
  constructor
  · intro h
    split at h
    · simp only [Option.some.injEq] at h
      subst h
      simp [String.fromUTF8]
    · simp at h
  · intro h
    subst h
    have hbytes : (⟨s.toUTF8.data.toList.toArray⟩ : ByteArray) = s.toByteArray := by simp
    rw [hbytes, dif_pos s.isValidUTF8]
    rfl

@[simp] theorem length_ofText (s : String) : (ofText s).length = s.utf8ByteSize :=
  Array.length_toList

end Bytes

namespace Field

/-- Whether a field can be written. -/
def Fits : Field → Prop
  | sized bs => bs.length ≤ maximumSize
  | _ => True

/-- The bytes of a field that fits. -/
def bytes : Field → Bytes
  | byte b => [b]
  | uint16 n => Bytes.ofUInt16 n
  | sized bs => Bytes.ofUInt16 bs.length.toUInt16 ++ bs
  | plain bs => bs

theorem encode_eq_ok_iff {f : Field} {bs : Bytes} : f.encode = .ok bs ↔ f.Fits ∧ bs = f.bytes := by
  cases f with
  | sized x =>
    simp only [encode, Fits, bytes]
    split
    · rename_i hx
      simp only [Except.ok.injEq, hx, true_and]
      exact eq_comm
    · rename_i hx
      simp [hx]
  | _ => simp only [encode, Fits, bytes, Except.ok.injEq, true_and, eq_comm]

/-- The bytes begin with these fields, all of which fit, and `rest` comes after them. -/
def Spells (fs : List Field) (bs rest : Bytes) : Prop :=
  (∀ f ∈ fs, f.Fits) ∧ bs = fs.flatMap bytes ++ rest

@[simp] theorem spells_nil {bs rest : Bytes} : Spells [] bs rest ↔ bs = rest := by simp [Spells]

theorem spells_append {fs gs : List Field} {bs rest : Bytes} :
    Spells (fs ++ gs) bs rest ↔ ∃ mid, Spells fs bs mid ∧ Spells gs mid rest := by
  constructor
  · intro h
    obtain ⟨hfit, rfl⟩ := h
    rw [List.forall_mem_append] at hfit
    exact ⟨gs.flatMap bytes ++ rest, ⟨hfit.1, by simp⟩, hfit.2, rfl⟩
  · intro h
    obtain ⟨mid, ⟨hfs, rfl⟩, hgs, rfl⟩ := h
    exact ⟨List.forall_mem_append.mpr ⟨hfs, hgs⟩, by simp⟩

theorem spells_cons {f : Field} {fs : List Field} {bs rest : Bytes} :
    Spells (f :: fs) bs rest ↔ ∃ mid, Spells [f] bs mid ∧ Spells fs mid rest :=
  @spells_append [f] fs bs rest

theorem Spells.extend {fs : List Field} {bs rest : Bytes} (h : Spells fs bs rest) (more : Bytes) :
    Spells fs (bs ++ more) (rest ++ more) :=
  ⟨h.1, by rw [h.2, List.append_assoc]⟩

theorem encodeAll_eq_ok_iff {fs : List Field} {bs : Bytes} :
    encodeAll fs = (bs, .ok ()) ↔ Spells fs bs [] := by
  unfold Spells
  rw [List.append_nil]
  induction fs generalizing bs with
  | nil => simp [encodeAll, eq_comm]
  | cons f fs ih =>
    simp only [encodeAll, List.flatMap_cons, List.forall_mem_cons]
    cases hf : f.encode with
    | error e =>
      have hno : ¬ f.Fits := fun hfit => by
        rw [encode_eq_ok_iff.mpr ⟨hfit, rfl⟩] at hf
        cases hf
      simp [hno]
    | ok x =>
      obtain ⟨hfit, rfl⟩ := encode_eq_ok_iff.mp hf
      simp only [Prod.mk.injEq, hfit, true_and]
      constructor
      · intro h
        obtain ⟨rfl, hrest⟩ := h
        obtain ⟨hall, hbytes⟩ := ih.mp (Prod.ext rfl hrest)
        exact ⟨hall, congrArg (f.bytes ++ ·) hbytes⟩
      · intro h
        obtain ⟨hall, rfl⟩ := h
        rw [ih.mpr ⟨hall, rfl⟩]
        exact ⟨rfl, rfl⟩

theorem encodeAll_error {fs : List Field} {e : Error} (h : (encodeAll fs).2 = .error e) :
    e = .payloadTooLarge := by
  induction fs with
  | nil => cases h
  | cons f fs ih =>
    unfold encodeAll at h
    cases hf : f.encode with
    | ok bs =>
      rw [hf] at h
      exact ih h
    | error e' =>
      rw [hf] at h
      cases h
      cases f with
      | sized bs =>
        unfold encode at hf
        dsimp only at hf
        split at hf
        · cases hf
        · cases hf
          rfl
      | _ => cases hf

@[simp] theorem length_bytes_byte (b : UInt8) : (byte b).bytes.length = 1 := rfl

@[simp] theorem length_bytes_uint16 (n : UInt16) : (uint16 n).bytes.length = 2 := rfl

@[simp] theorem length_bytes_plain (bs : Bytes) : (plain bs).bytes.length = bs.length := rfl

@[simp] theorem length_bytes_text (s : String) : (text s).bytes.length = 2 + s.utf8ByteSize := by
  simp [text, bytes, Bytes.ofUInt16_length]

@[simp] theorem length_bytes_sized (bs : Bytes) : (sized bs).bytes.length = 2 + bs.length := by
  simp [bytes, Bytes.ofUInt16_length]

end Field

namespace Reader
open Mqtt.Field (Spells Fits maximumSize)

variable {α β : Type}

theorem bind_eq_ok_iff {r : Reader α} {f : α → Reader β} {bs rest : Bytes} {y : β} :
    (r >>= f) bs = .ok (y, rest) ↔ ∃ x mid, r bs = .ok (x, mid) ∧ f x mid = .ok (y, rest) := by
  change (StateT.bind r f) bs = _ ↔ _
  unfold StateT.bind
  cases h : r bs with
  | error e => simp [bind, Except.bind]
  | ok p =>
    obtain ⟨x, mid⟩ := p
    simp only [bind, Except.bind, Except.ok.injEq, Prod.mk.injEq]
    constructor
    · intro hy
      exact ⟨x, mid, ⟨rfl, rfl⟩, hy⟩
    · intro h
      obtain ⟨_, _, ⟨rfl, rfl⟩, hy⟩ := h
      exact hy

@[simp] theorem pure_eq_ok_iff {x y : α} {bs rest : Bytes} :
    (pure x : Reader α) bs = .ok (y, rest) ↔ y = x ∧ rest = bs := by
  change Except.ok (x, bs) = _ ↔ _
  simp [eq_comm]

@[simp] theorem throw_ne_ok {e : Error} {y : α} {bs rest : Bytes} :
    (throw e : Reader α) bs ≠ .ok (y, rest) := by
  intro h
  cases h

@[simp] theorem get_eq_ok_iff {x bs rest : Bytes} :
    (get : Reader Bytes) bs = .ok (x, rest) ↔ x = bs ∧ rest = bs := by
  change Except.ok (bs, bs) = _ ↔ _
  simp [eq_comm]

theorem byte_eq_ok_iff {b : UInt8} {bs rest : Bytes} :
    byte bs = .ok (b, rest) ↔ Spells [.byte b] bs rest := by
  cases bs with
  | nil => simp [byte, Spells, Fits, Field.bytes]
  | cons a bs => simp [byte, Spells, Fits, Field.bytes]

theorem uint16_eq_ok_iff {n : UInt16} {bs rest : Bytes} :
    uint16 bs = .ok (n, rest) ↔ Spells [.uint16 n] bs rest := by
  simp only [Spells, List.forall_mem_singleton, Fits, true_and, List.flatMap_singleton, Field.bytes]
  match bs with
  | [] => simp [uint16, Bytes.ofUInt16]
  | [a] => simp [uint16, Bytes.ofUInt16]
  | hi :: lo :: bs =>
    simp only [uint16, Except.ok.injEq, Prod.mk.injEq]
    constructor
    · intro h
      obtain ⟨rfl, rfl⟩ := h
      rw [Bytes.ofUInt16_toUInt16]
      rfl
    · intro h
      simp only [Bytes.ofUInt16, List.cons_append, List.nil_append, List.cons.injEq] at h
      obtain ⟨rfl, rfl, rfl⟩ := h
      exact ⟨Bytes.toUInt16_ofUInt16 n, rfl⟩

theorem take_eq_ok_iff {n : Nat} {x bs rest : Bytes} :
    take n bs = .ok (x, rest) ↔ x.length = n ∧ bs = x ++ rest := by
  unfold take
  constructor
  · intro h
    dsimp only at h
    split at h
    · rename_i hlen
      simp only [Except.ok.injEq, Prod.mk.injEq] at h
      obtain ⟨rfl, rfl⟩ := h
      exact ⟨hlen, (List.take_append_drop n bs).symm⟩
    · cases h
  · intro h
    obtain ⟨rfl, rfl⟩ := h
    simp

theorem sized_eq_ok_iff {x bs rest : Bytes} :
    sized bs = .ok (x, rest) ↔ Spells [.sized x] bs rest := by
  unfold sized
  simp only [bind_eq_ok_iff, uint16_eq_ok_iff, take_eq_ok_iff, Spells, List.forall_mem_singleton,
    List.flatMap_singleton, Fits, true_and, Field.bytes, maximumSize]
  constructor
  · intro h
    obtain ⟨n, mid, rfl, hlen, rfl⟩ := h
    have hn := n.toNat_lt
    refine ⟨by omega, ?_⟩
    have hcode : x.length.toUInt16 = n := by
      apply UInt16.toNat_inj.mp
      simp [hlen]
    rw [hcode, List.append_assoc]
  · intro h
    obtain ⟨hfit, rfl⟩ := h
    refine ⟨x.length.toUInt16, x ++ rest, List.append_assoc .., ?_, rfl⟩
    simp only [UInt16.toNat_ofNat', Nat.toUInt16_eq]
    omega

theorem text_eq_ok_iff {s : String} {bs rest : Bytes} :
    text bs = .ok (s, rest) ↔ Spells [.text s] bs rest := by
  unfold text Field.text
  simp only [bind_eq_ok_iff]
  constructor
  · intro h
    obtain ⟨x, mid, hx, hs⟩ := h
    cases ht : Bytes.toText? x with
    | none =>
      rw [ht] at hs
      exact absurd hs throw_ne_ok
    | some t =>
      rw [ht] at hs
      simp only [pure_eq_ok_iff] at hs
      obtain ⟨rfl, rfl⟩ := hs
      rw [Bytes.toText?_eq_some_iff] at ht
      subst ht
      exact sized_eq_ok_iff.mp hx
  · intro h
    refine ⟨Bytes.ofText s, rest, sized_eq_ok_iff.mpr h, ?_⟩
    rw [Bytes.toText?_eq_some_iff.mpr rfl]
    simp

@[simp] theorem require_eq_ok_iff {c : Bool} {u : Unit} {bs rest : Bytes} :
    require c bs = .ok (u, rest) ↔ c = true ∧ rest = bs := by
  cases c <;> simp [require]

@[simp] theorem finish_eq_ok_iff {u : Unit} {bs rest : Bytes} :
    finish bs = .ok (u, rest) ↔ bs = [] ∧ rest = [] := by
  unfold finish
  simp only [bind_eq_ok_iff, get_eq_ok_iff, require_eq_ok_iff, List.isEmpty_iff]
  constructor
  · intro h
    obtain ⟨_, _, ⟨rfl, rfl⟩, rfl, rfl⟩ := h
    exact ⟨rfl, rfl⟩
  · intro h
    obtain ⟨rfl, rfl⟩ := h
    exact ⟨[], [], ⟨rfl, rfl⟩, rfl, rfl⟩

@[simp] theorem remainder_eq_ok_iff {x bs rest : Bytes} :
    remainder bs = .ok (x, rest) ↔ x = bs ∧ rest = [] := by
  change Except.ok (bs, []) = _ ↔ _
  simp [eq_comm]

section Many
variable {r : Reader α} {fields : α → List Field}
variable (reads : ∀ {x bs rest}, r bs = .ok (x, rest) ↔ Spells (fields x) bs rest)
variable (takes : ∀ x rest, ¬ Spells (fields x) rest rest)
include takes

/-- Nothing is left exactly where there are no values: every value takes bytes. -/
theorem spells_flatMap_nil {xs : List α} : Spells (xs.flatMap fields) [] [] ↔ xs = [] := by
  cases xs with
  | nil => simp
  | cons x xs =>
    rw [List.flatMap_cons, Field.spells_append]
    simp only [reduceCtorEq, iff_false]
    intro h
    obtain ⟨mid, hx, hxs⟩ := h
    have hmid : mid = [] := (List.append_eq_nil_iff.mp hx.2.symm).2
    subst hmid
    exact takes x [] hx

include reads

theorem manyUpTo_eq_ok_iff {k : Nat} {bs rest : Bytes} {xs : List α} (hk : bs.length ≤ k) :
    manyUpTo r k bs = .ok (xs, rest) ↔ Spells (xs.flatMap fields) bs [] ∧ rest = [] := by
  have hnil := @spells_flatMap_nil α fields takes
  induction k generalizing bs xs with
  | zero =>
    have hbs : bs = [] := List.eq_nil_of_length_eq_zero (by omega)
    subst hbs
    rw [hnil]
    simp only [manyUpTo, bind_eq_ok_iff, finish_eq_ok_iff, pure_eq_ok_iff]
    constructor
    · intro h
      obtain ⟨_, _, ⟨_, rfl⟩, rfl, rfl⟩ := h
      exact ⟨rfl, rfl⟩
    · intro h
      obtain ⟨rfl, rfl⟩ := h
      exact ⟨(), [], ⟨trivial, rfl⟩, rfl, rfl⟩
  | succ k ih =>
    simp only [manyUpTo, bind_eq_ok_iff, get_eq_ok_iff]
    by_cases hbs : bs = []
    · subst hbs
      rw [hnil]
      constructor
      · intro h
        obtain ⟨_, _, ⟨rfl, rfl⟩, h⟩ := h
        exact pure_eq_ok_iff.mp h
      · intro h
        obtain ⟨rfl, rfl⟩ := h
        exact ⟨[], [], ⟨rfl, rfl⟩, rfl⟩
    · have hempty : bs.isEmpty = false := by simpa using hbs
      have hshort : ∀ {x mid}, Spells (fields x) bs mid → mid.length ≤ k := by
        intro x mid hx
        have hlen := congrArg List.length hx.2
        rw [List.length_append] at hlen
        have hpos : ((fields x).flatMap Field.bytes).length ≠ 0 := by
          intro hzero
          refine takes x mid ⟨hx.1, ?_⟩
          rw [List.eq_nil_of_length_eq_zero hzero, List.nil_append]
        omega
      constructor
      · intro h
        obtain ⟨_, _, ⟨rfl, rfl⟩, h⟩ := h
        rw [hempty, if_neg (by simp)] at h
        obtain ⟨x, mid, hx, h⟩ := bind_eq_ok_iff.mp h
        obtain ⟨xs', mid', hxs, h⟩ := bind_eq_ok_iff.mp h
        obtain ⟨rfl, rfl⟩ := pure_eq_ok_iff.mp h
        have hx := reads.mp hx
        obtain ⟨htail, rfl⟩ := (ih (hshort hx)).mp hxs
        rw [List.flatMap_cons]
        exact ⟨Field.spells_append.mpr ⟨mid, hx, htail⟩, rfl⟩
      · intro h
        obtain ⟨hall, rfl⟩ := h
        refine ⟨_, _, ⟨rfl, rfl⟩, ?_⟩
        rw [hempty, if_neg (by simp)]
        cases xs with
        | nil => exact absurd (Field.spells_nil.mp hall) hbs
        | cons x xs =>
          rw [List.flatMap_cons] at hall
          obtain ⟨mid, hx, hxs⟩ := Field.spells_append.mp hall
          refine bind_eq_ok_iff.mpr ⟨x, mid, reads.mpr hx, ?_⟩
          exact bind_eq_ok_iff.mpr ⟨xs, [], (ih (hshort hx)).mpr ⟨hxs, rfl⟩, by simp⟩

theorem many_eq_ok_iff {bs rest : Bytes} {xs : List α} :
    many r bs = .ok (xs, rest) ↔ Spells (xs.flatMap fields) bs [] ∧ rest = [] := by
  unfold many
  rw [bind_eq_ok_iff, ← manyUpTo_eq_ok_iff reads takes (Nat.le_refl bs.length)]
  constructor
  · intro h
    obtain ⟨_, _, hget, h⟩ := h
    obtain ⟨rfl, rfl⟩ := get_eq_ok_iff.mp hget
    exact h
  · intro h
    exact ⟨bs, bs, get_eq_ok_iff.mpr ⟨rfl, rfl⟩, h⟩

end Many

theorem whole_eq_ok_iff {r : Reader α} {body : Bytes} {x : α} :
    whole r body = .ok x ↔ ∃ rest, r body = .ok (x, rest) := by
  unfold whole
  cases h : r body with
  | error e => simp
  | ok p =>
    obtain ⟨y, rest⟩ := p
    simp

end Reader
end Mqtt
