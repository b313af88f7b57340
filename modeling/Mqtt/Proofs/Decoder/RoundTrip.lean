import Mathlib.Control.Monad.Basic
import Mqtt.Proofs.Decoder.Frames

/-!
What was written comes back: packets that are sent one after the other are delivered as they were,
in order, however the bytes are cut. Nothing else than well-formed packets is ever delivered.
-/

namespace Mqtt.Decoder
set_option autoImplicit false
open DecodedItem (joined packets?)

variable {limit : Nat}

/-! ### One packet -/

/-- Whatever comes after a packet, the packet is delivered as one item. -/
theorem run_encoding {p : Packet} {bs : Bytes} (hencode : p.encode = .ok bs) (hwf : p.WellFormed)
    (hlimit : p.type ≠ .publish → p.remainingLength ≤ limit) :
    ∃ item : DecodedItem, item.IsWhole ∧ item.toPacket? = some p
      ∧ ∀ rest, run limit .start (bs ++ rest) = emit item (run limit .start rest) := by
  obtain ⟨f, rfl, hdecode⟩ := Frame.exists_of_encode hencode hwf
  have hfits : f.IsPublish ∨ f.body.length ≤ limit := by
    by_cases hpublish : p.type = .publish
    · exact .inl (f.isPublish_of_decode hdecode hpublish)
    · rw [f.length_body_of_decode hdecode]
      exact .inr (hlimit hpublish)
  refine ⟨itemOf limit f.body.length p, isWhole_itemOf _ _ p, toPacket?_itemOf _ _ p, fun rest => ?_⟩
  have hrun := run_frame hfits rest
  rw [hdecode] at hrun
  exact hrun

/-! ### Packets one after the other -/

/-- Packets that are sent in one piece, each delivered as one item. -/
theorem run_encodings {ps : List Packet} {encodings : List Bytes}
    (hencode : ps.mapM Packet.encode = .ok encodings) (hwf : ∀ p ∈ ps, p.WellFormed)
    (hlimit : ∀ p ∈ ps, p.type ≠ .publish → p.remainingLength ≤ limit) :
    ∃ items : List DecodedItem, run limit .start encodings.flatten = (.start, items)
      ∧ (∀ item ∈ items, item.IsWhole) ∧ items.mapM DecodedItem.toPacket? = some ps := by
  induction ps generalizing encodings with
  | nil =>
    cases hencode
    exact ⟨[], run_start_nil, by simp, rfl⟩
  | cons p ps ih =>
    rw [List.mapM_cons] at hencode
    cases hp : p.encode with
    | error e =>
      rw [hp] at hencode
      cases hencode
    | ok bs =>
      cases hps : ps.mapM Packet.encode with
      | error e =>
        rw [hp, hps] at hencode
        cases hencode
      | ok tail =>
        rw [hp, hps] at hencode
        cases hencode
        rw [List.forall_mem_cons] at hwf hlimit
        obtain ⟨items, hrun, hwhole, hpackets⟩ := ih hps hwf.2 hlimit.2
        obtain ⟨item, hitem, hpacket, hstep⟩ := run_encoding hp hwf.1 hlimit.1
        refine ⟨item :: items, ?_, List.forall_mem_cons.mpr ⟨hitem, hwhole⟩, ?_⟩
        · rw [List.flatten_cons, hstep, hrun]
          rfl
        · rw [List.mapM_cons, hpacket, hpackets]
          rfl

/-! ### Nothing else is delivered -/

namespace State

/-- The message that is being streamed, if one is, has a well-formed header. -/
def WellFormed : State → Prop
  | payload p .. => p.WellFormed
  | _ => True

end State

theorem Runs.wellFormed {state : State} {input : Bytes} {r : State × List DecodedItem}
    (h : Runs limit state input r) (hstate : state.WellFormed) :
    ∀ item ∈ r.2, item.WellFormed := by
  induction h with
  | start_cons _ ih | length_more _ _ _ ih | length_body _ _ _ ih | length_header _ _ _ _ ih =>
    exact ih trivial
  | body_whole _ hdecode _ ih =>
    exact List.forall_mem_cons.mpr ⟨(Packet.decode_eq_ok_iff.mp hdecode).1, ih trivial⟩
  | header_whole _ hread _ ih =>
    exact List.forall_mem_cons.mpr ⟨(Publish.decodeHeader_eq_some_iff.mp hread).1, ih trivial⟩
  | header_streams _ hread _ _ ih => exact ih (Publish.decodeHeader_eq_some_iff.mp hread).1
  | payload_ends _ _ _ _ ih => exact List.forall_mem_cons.mpr ⟨hstate, ih trivial⟩
  | payload_goes_on => exact List.forall_mem_singleton.mpr hstate
  | start_nil | length_nil | body_short | header_nil | header_short | header_more | payload_none
  | fails => exact List.forall_mem_nil _

theorem wellFormed_of_mem_feedAll {limit : Nat} {pieces : List Bytes} :
    ∀ item ∈ joined ((Decoder.new limit).feedAll pieces).2.1, item.WellFormed := by
  obtain ⟨items, hfeed, hjoined⟩ := feedAll_new limit pieces
  have hstart : State.start.WellFormed := trivial
  rw [hfeed, hjoined]
  exact DecodedItem.wellFormed_of_mem_joined ((runs limit .start pieces.flatten).wellFormed hstart)

/-! ### Streams of packets -/

/-- Well-formed packets come back as they were sent, however their bytes are cut; a packet that is
not well-formed is never what any bytes decode to. -/
theorem stream_round_trip (limit : Nat) :
    (∀ (ps : List Packet) (encodings pieces : List Bytes),
      ps.mapM Packet.encode = .ok encodings →
      (∀ p ∈ ps, p.WellFormed) →
      (∀ p ∈ ps, p.type ≠ .publish → p.remainingLength ≤ limit) →
      pieces.flatten = encodings.flatten →
      ∃ items, (Decoder.new limit).feedAll pieces = (Decoder.new limit, items, .ok ())
        ∧ packets? items = some ps)
    ∧ ∀ p : Packet, ¬ p.WellFormed →
      (∀ first body, Packet.decode first body ≠ .ok p)
        ∧ ∀ pieces : List Bytes,
          p ∉ (joined ((Decoder.new limit).feedAll pieces).2.1).filterMap DecodedItem.toPacket? := by
  refine ⟨fun ps encodings pieces hencode hwf hlimit hpieces => ?_, fun p hwf => ⟨?_, ?_⟩⟩
  · obtain ⟨whole, hrun, hwhole, hpackets⟩ := run_encodings hencode hwf hlimit
    obtain ⟨items, hfeed, hjoined⟩ := feedAll_new limit pieces
    rw [hpieces, hrun] at hfeed hjoined
    rw [DecodedItem.joined_of_whole hwhole] at hjoined
    refine ⟨items, hfeed, ?_⟩
    unfold packets?
    rw [hjoined]
    exact hpackets
  · intro first body hdecode
    exact hwf (Packet.decode_eq_ok_iff.mp hdecode).1
  · intro pieces hmem
    obtain ⟨item, hitem, hpacket⟩ := List.mem_filterMap.mp hmem
    exact hwf ((wellFormed_of_mem_feedAll item hitem).toPacket? hpacket)

/-- A short packet and a streamed one, cut inside the length, the topic and the payload; and a
SUBSCRIBE that asks for nothing. -/
theorem stream_round_trip_of_two :
    (∃ items, (Decoder.new 2).feedAll [[32], [], [2, 0, 0, 50, 8, 0], [1, 97, 0, 5, 1], [2, 3]] =
        (Decoder.new 2, items, .ok ())
      ∧ packets? items = some [.connack false .accepted,
          .publish ⟨5, "a", .atLeastOnce, false, false, [1, 2, 3]⟩])
    ∧ Packet.decode 130 [0, 7] ≠ .ok (.subscribe 7 []) := by
  constructor
  · exact (stream_round_trip 2).1 _ [[32, 2, 0, 0], [50, 8, 0, 1, 97, 0, 5, 1, 2, 3]] _
      (by decide +kernel) (by decide) (by decide) rfl
  · exact ((stream_round_trip 2).2 (.subscribe 7 []) (by decide)).1 130 [0, 7]

end Mqtt.Decoder
