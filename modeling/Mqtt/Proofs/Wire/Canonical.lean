import Mathlib.Control.Monad.Basic
import Mqtt.Proofs.Wire.Packet

/-!
# One spelling for every packet

A packet is read from exactly one first byte and one body, and these are what the writer puts
down for it, with the shortest spelling of the length between them.
-/

namespace Mqtt
namespace Packet
set_option autoImplicit false

open Mqtt.Field (Spells)

/-- Within the largest length, reading and writing are the same relation. -/
theorem decode_eq_ok_iff_encode {first : UInt8} {body : Bytes} {p : Packet}
    (hsize : body.length ≤ VarLength.maximum) :
    decode first body = .ok p ↔
      p.WellFormed ∧ p.encode = .ok (first :: (VarLength.digits body.length ++ body)) := by
  rw [decode_eq_ok_iff, encode_eq_ok_iff]
  constructor
  · intro ⟨hwf, hfirst, hspells⟩
    have hlen := length_of_spells hspells
    refine ⟨hwf, hlen ▸ hsize, body, hspells, ?_⟩
    rw [hfirst, hlen]
  · intro ⟨hwf, hsize', body', hspells, hbytes⟩
    rw [List.cons.injEq] at hbytes
    obtain ⟨-, hbody⟩ := VarLength.digits_append_inj hsize hsize' hbytes.2
    exact ⟨hwf, hbytes.1, hbody ▸ hspells⟩

theorem decode_injective {first first' : UInt8} {body body' : Bytes} {p : Packet}
    (h : decode first body = .ok p) (h' : decode first' body' = .ok p) :
    first = first' ∧ body = body' := by
  obtain ⟨-, hfirst, hspells⟩ := decode_eq_ok_iff.mp h
  obtain ⟨-, hfirst', hspells'⟩ := decode_eq_ok_iff.mp h'
  refine ⟨hfirst.trans hfirst'.symm, ?_⟩
  rw [hspells.2, hspells'.2]

theorem decoding_is_canonical {first : UInt8} {body : Bytes} {p : Packet}
    (hsize : body.length ≤ VarLength.maximum) (h : decode first body = .ok p) :
    (∃ size, VarLength.encode body.length = .ok size
      ∧ p.encode = .ok (first :: (size ++ body))
      ∧ ∀ spelling rest, VarLength.decode (spelling ++ rest) = .ok (.value body.length rest) →
          size.length ≤ spelling.length ∧ (size.length = spelling.length → spelling = size))
    ∧ ∀ first' body', decode first' body' = .ok p → first' = first ∧ body' = body := by
  obtain ⟨hsized, hminimal⟩ := VarLength.encode_minimal hsize
  refine ⟨⟨_, hsized, ((decode_eq_ok_iff_encode hsize).mp h).2, hminimal⟩, ?_⟩
  intro first' body' h'
  exact decode_injective h' h

/-- A message that asks for an acknowledgement; its length may also be spelled in two bytes. -/
theorem decoding_is_canonical_of_publish :
    let body : Bytes := [0, 1, 97, 0, 5, 1, 2, 3]
    let p : Packet := .publish ⟨5, "a", .atLeastOnce, false, true, [1, 2, 3]⟩
    body.length ≤ VarLength.maximum ∧ decode 0x33 body = .ok p
      ∧ p.encode = .ok (0x33 :: 8 :: body)
      ∧ VarLength.decode [0x88, 0] = .ok (.value 8 [])
      ∧ ∀ first' body', decode first' body' = .ok p → first' = 0x33 ∧ body' = body := by
  intro body p
  have hsize : body.length ≤ VarLength.maximum := by decide
  have hread : decode 0x33 body = .ok p := by
    subst body p
    decide
  obtain ⟨⟨size, hsized, hwritten, _⟩, honly⟩ := decoding_is_canonical hsize hread
  have height : size = [8] := by
    rw [show VarLength.encode body.length = .ok [8] by simp [VarLength.encode, VarLength.digits,
      VarLength.maximum, body]] at hsized
    exact (Except.ok.inj hsized).symm
  subst height
  exact ⟨hsize, hread, hwritten, by decide, honly⟩

end Packet
end Mqtt
