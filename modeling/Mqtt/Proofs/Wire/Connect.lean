import Mqtt.Wire.Decoding
import Mqtt.Wire.Encoding
import Mqtt.Proofs.Wire.Field

/-!
A CONNECT body is read back as the CONNECT it was written from. The flags say which optional parts
follow, and no two settings share a byte of flags.
-/

namespace Mqtt

/-- A statement about every byte has 256 cases. -/
theorem forall_byte {P : UInt8 → Prop} (h : ∀ n : Fin 256, P (.ofFin n)) (b : UInt8) : P b := by
  have hb := h b.toFin
  rwa [UInt8.ofFin_toFin] at hb

namespace Connect
set_option autoImplicit false
open Reader
open Mqtt.Field (Spells)

/-- The flags of a CONNECT as a function of what they depend on. -/
def flagBits (clean : Bool) (will : Option (QoS × Bool)) (password username : Bool) : UInt8 :=
  (if clean then (0x02 : UInt8) else 0)
  ||| (match will with
    | some (qos, retain) =>
      (0x04 : UInt8) ||| (qos.toByte <<< 3) ||| (if retain then (0x20 : UInt8) else 0)
    | none => 0)
  ||| (if password then (0x40 : UInt8) else 0)
  ||| (if username then (0x80 : UInt8) else 0)

theorem flags_eq_flagBits (c : Connect) :
    c.flags = flagBits c.cleanSession (c.will.map fun w => (w.qos, w.retain)) c.password.isSome
      c.username.isSome := by
  unfold flags flagBits
  cases c.will <;> rfl

/-- What a byte of flags says about a will. -/
def WillAgrees (flags : UInt8) : Option (QoS × Bool) → Prop
  | some (qos, retain) =>
    flags &&& 0x04 ≠ 0 ∧ QoS.ofByte? ((flags >>> 3) &&& 3) = some qos
      ∧ retain = decide (flags &&& 0x20 ≠ 0)
  | none => flags &&& 0x04 = 0 ∧ flags &&& 0x38 = 0

set_option maxRecDepth 2000 in
theorem eq_flagBits_of_will {qos : QoS} (flags : UInt8) (hreserved : flags &&& 0x01 = 0)
    (hwill : flags &&& 0x04 ≠ 0) (hqos : QoS.ofByte? ((flags >>> 3) &&& 3) = some qos) :
    flags = flagBits (flags &&& 0x02 ≠ 0) (some (qos, decide (flags &&& 0x20 ≠ 0)))
      (flags &&& 0x40 ≠ 0) (flags &&& 0x80 ≠ 0) := by
  revert flags
  refine forall_byte ?_
  cases qos <;> decide

set_option maxRecDepth 2000 in
theorem eq_flagBits_of_no_will (flags : UInt8) (hreserved : flags &&& 0x01 = 0)
    (hwill : flags &&& 0x04 = 0) (hrest : flags &&& 0x38 = 0) :
    flags = flagBits (flags &&& 0x02 ≠ 0) none (flags &&& 0x40 ≠ 0) (flags &&& 0x80 ≠ 0) := by
  revert flags
  refine forall_byte ?_
  decide

theorem flagBits_agree {flags : UInt8} {clean password username : Bool}
    {will : Option (QoS × Bool)} (h : flags = flagBits clean will password username) :
    flags &&& 0x01 = 0 ∧ clean = decide (flags &&& 0x02 ≠ 0) ∧ WillAgrees flags will
      ∧ username = decide (flags &&& 0x80 ≠ 0) ∧ password = decide (flags &&& 0x40 ≠ 0) := by
  subst h
  rcases will with _ | ⟨qos, retain⟩
  · dsimp only [WillAgrees]
    cases clean <;> cases password <;> cases username <;> decide
  · dsimp only [WillAgrees]
    cases qos <;> cases retain <;> cases clean <;> cases password <;> cases username <;> decide

theorem eq_flagBits_iff {flags : UInt8} {clean password username : Bool}
    {will : Option (QoS × Bool)} :
    flags = flagBits clean will password username ↔
      flags &&& 0x01 = 0 ∧ clean = decide (flags &&& 0x02 ≠ 0) ∧ WillAgrees flags will
        ∧ username = decide (flags &&& 0x80 ≠ 0) ∧ password = decide (flags &&& 0x40 ≠ 0) := by
  constructor
  · exact flagBits_agree
  · intro h
    obtain ⟨hreserved, rfl, hwill, rfl, rfl⟩ := h
    match will, hwill with
    | none, ⟨hno, hrest⟩ => exact eq_flagBits_of_no_will flags hreserved hno hrest
    | some (qos, retain), ⟨hyes, hqos, hretain⟩ =>
      subst hretain
      exact eq_flagBits_of_will flags hreserved hyes hqos

def willFields : Option LastWill → List Field
  | some w => [.text w.topic, .sized w.payload]
  | none => []

theorem willReader_eq_ok_iff {flags : UInt8} {will : Option LastWill} {bs rest : Bytes} :
    willReader flags bs = .ok (will, rest) ↔
      WillAgrees flags (will.map fun w => (w.qos, w.retain)) ∧ Spells (willFields will) bs rest := by
  unfold willReader
  by_cases hwill : flags &&& 0x04 = 0
  · rw [if_neg (by simp [hwill])]
    simp only [bind_eq_ok_iff, require_eq_ok_iff, pure_eq_ok_iff, decide_eq_true_eq]
    cases will with
    | none => simp [WillAgrees, willFields, hwill, eq_comm]
    | some w => simp [WillAgrees, hwill]
  · rw [if_pos hwill]
    cases hqos : QoS.ofByte? ((flags >>> 3) &&& 3) with
    | none =>
      cases will with
      | none => simp [WillAgrees, hwill]
      | some w => simp [WillAgrees, hqos]
    | some qos =>
      simp only [bind_eq_ok_iff, text_eq_ok_iff, sized_eq_ok_iff, pure_eq_ok_iff]
      cases will with
      | none => simp [WillAgrees, hwill]
      | some w =>
        simp only [Option.map_some, WillAgrees, hqos, willFields, Option.some.injEq]
        rw [Field.spells_cons]
        constructor
        · intro h
          obtain ⟨topic, mid, htopic, payload, mid', hpayload, rfl, rfl⟩ := h
          exact ⟨⟨hwill, rfl, rfl⟩, mid, htopic, hpayload⟩
        · intro h
          obtain ⟨⟨_, rfl, hretain⟩, mid, htopic, hpayload⟩ := h
          refine ⟨w.topic, mid, htopic, w.payload, rest, hpayload, ?_, rfl⟩
          rw [← hretain]

theorem optional_eq_ok_iff {α : Type} {r : Reader α} {field : α → Field}
    (reads : ∀ {x bs rest}, r bs = .ok (x, rest) ↔ Spells [field x] bs rest)
    {present : Bool} {o : Option α} {bs rest : Bytes} :
    optional present r bs = .ok (o, rest) ↔
      o.isSome = present ∧ Spells (o.map field).toList bs rest := by
  unfold optional
  cases present with
  | false =>
    simp only [Bool.false_eq_true, if_false, pure_eq_ok_iff]
    cases o <;> simp [eq_comm]
  | true =>
    simp only [if_true, bind_eq_ok_iff, pure_eq_ok_iff, reads]
    cases o with
    | none => simp
    | some x =>
      simp only [Option.some.injEq, Option.isSome_some, Option.map_some, Option.toList_some,
        true_and]
      constructor
      · intro h
        obtain ⟨_, _, h, rfl, rfl⟩ := h
        exact h
      · intro h
        exact ⟨x, rest, h, rfl, rfl⟩

theorem fields_eq (c : Connect) :
    c.fields = [.text protocolName, .byte protocolLevel, .byte c.flags, .uint16 c.keepAlive,
        .text c.clientId]
      ++ willFields c.will ++ (c.username.map Field.text).toList
      ++ (c.password.map Field.sized).toList := by
  unfold fields willFields
  cases c.will <;> rfl

theorem reader_eq_ok_iff {c : Connect} {bs rest : Bytes} :
    reader bs = .ok (c, rest) ↔ Spells c.fields bs [] ∧ rest = [] := by
  unfold reader
  simp only [bind_eq_ok_iff, require_eq_ok_iff, finish_eq_ok_iff, pure_eq_ok_iff, text_eq_ok_iff,
    byte_eq_ok_iff, uint16_eq_ok_iff, willReader_eq_ok_iff, optional_eq_ok_iff text_eq_ok_iff,
    optional_eq_ok_iff sized_eq_ok_iff, decide_eq_true_eq]
  constructor
  · intro h
    obtain ⟨name, _, hname, _, b₁, ⟨rfl, rfl⟩, level, _, hlevel, _, b₂, ⟨rfl, rfl⟩, flags, _,
      hflags, _, b₃, ⟨hreserved, rfl⟩, keepAlive, b₄, hkeep, clientId, b₅, hid, will, b₆, ⟨hagree,
      hwill⟩, username, b₇, ⟨huser, hu⟩, password, b₈, ⟨hpass, hp⟩, _, _, ⟨rfl, rfl⟩, rfl, rfl⟩ := h
    have hbits := eq_flagBits_iff.mpr ⟨hreserved, rfl, hagree, huser, hpass⟩
    refine ⟨?_, rfl⟩
    rw [fields_eq, flags_eq_flagBits, ← hbits]
    refine Field.spells_append.mpr ⟨b₇, Field.spells_append.mpr ⟨b₆, ?_, hu⟩, hp⟩
    refine Field.spells_append.mpr ⟨b₅, ?_, hwill⟩
    refine Field.spells_cons.mpr ⟨b₁, hname, Field.spells_cons.mpr ⟨b₂, hlevel, ?_⟩⟩
    exact Field.spells_cons.mpr ⟨b₃, hflags, Field.spells_cons.mpr ⟨b₄, hkeep, hid⟩⟩
  · intro h
    obtain ⟨h, rfl⟩ := h
    rw [fields_eq] at h
    obtain ⟨b₇, h, hp⟩ := Field.spells_append.mp h
    obtain ⟨b₆, h, hu⟩ := Field.spells_append.mp h
    obtain ⟨b₅, h, hwill⟩ := Field.spells_append.mp h
    obtain ⟨b₁, hname, h⟩ := Field.spells_cons.mp h
    obtain ⟨b₂, hlevel, h⟩ := Field.spells_cons.mp h
    obtain ⟨b₃, hflags, h⟩ := Field.spells_cons.mp h
    obtain ⟨b₄, hkeep, hid⟩ := Field.spells_cons.mp h
    obtain ⟨hreserved, hclean, hagree, huser, hpass⟩ := flagBits_agree c.flags_eq_flagBits
    refine ⟨_, b₁, hname, (), b₁, ⟨rfl, rfl⟩, _, b₂, hlevel, (), b₂, ⟨rfl, rfl⟩, c.flags, b₃, hflags,
      (), b₃, ⟨hreserved, rfl⟩, _, b₄, hkeep, _, b₅, hid, c.will, b₆, ⟨hagree, hwill⟩,
      c.username, b₇, ⟨huser, hu⟩, c.password, [], ⟨hpass, hp⟩, (), [], ⟨rfl, rfl⟩, ?_, rfl⟩
    rw [← hclean]

end Connect
end Mqtt
