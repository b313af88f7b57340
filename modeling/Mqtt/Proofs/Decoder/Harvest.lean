import Mqtt.Proofs.Decoder.Cuttings

/-!
What a reader gets of a stream when it gives up at the first malformed piece, with all that this
piece has completed. Where the malformed piece completes nothing, the cutting makes no difference.
-/

namespace Mqtt
set_option autoImplicit false

namespace Decoder

variable {limit : Nat}

/-- Whether a piece that holds a malformed byte completes nothing before it. -/
def FailsCleanly (d : Decoder) (pieces : List Bytes) : Prop :=
  ∀ answer ∈ (d.feedEach pieces).2, answer.2 ≠ .ok () → answer.1 = []

instance (d : Decoder) (pieces : List Bytes) : Decidable (d.FailsCleanly pieces) := by
  unfold FailsCleanly
  infer_instance

/-- The items that a session gets to handle, and the error that ends its reading. What a malformed
piece completes is lost. -/
def harvest (d : Decoder) : List Bytes → List DecodedItem × Option Error
  | [] => ([], none)
  | [] :: pieces => d.harvest pieces
  | (b :: bs) :: pieces =>
    match d.feed (b :: bs) with
    | (d', items, .ok ()) => (items ++ (d'.harvest pieces).1, (d'.harvest pieces).2)
    | (_, _, .error e) => ([], some e)

theorem harvest_of_ok {d d' : Decoder} {b : UInt8} {bs : Bytes} {items : List DecodedItem}
    {pieces : List Bytes} (h : d.feed (b :: bs) = (d', items, .ok ())) :
    d.harvest ((b :: bs) :: pieces) =
      (items ++ (d'.harvest pieces).1, (d'.harvest pieces).2) := by
  rw [harvest, h]

theorem harvest_of_error {d d' : Decoder} {b : UInt8} {bs : Bytes} {items : List DecodedItem}
    {pieces : List Bytes} {e : Error} (h : d.feed (b :: bs) = (d', items, .error e)) :
    d.harvest ((b :: bs) :: pieces) = ([], some e) := by
  rw [harvest, h]

theorem Runs.data_ne_nil {limit : Nat} {state : State} {input : Bytes}
    {r : State × List DecodedItem} (h : Runs limit state input r) :
    ∀ c, .chunk c ∈ r.2 → c.data ≠ [] := by
  induction h with
  | start_cons _ ih | length_more _ _ _ ih | length_body _ _ _ ih | length_header _ _ _ _ ih
  | header_streams _ _ _ _ ih => exact ih
  | body_whole _ _ _ ih | header_whole _ _ _ ih =>
    intro c hc
    rcases List.mem_cons.mp hc with hc | hc
    · cases hc
    · exact ih c hc
  | payload_ends _ hsome _ _ ih =>
    intro c hc
    rcases List.mem_cons.mp hc with hc | hc
    · rw [DecodedItem.chunk.inj hc]
      exact hsome
    · exact ih c hc
  | payload_goes_on _ hsome =>
    intro c hc
    rw [DecodedItem.chunk.inj (List.mem_singleton.mp hc)]
    exact hsome
  | start_nil | length_nil | body_short | header_nil | header_short | header_more | payload_none
  | fails =>
    intro c hc
    cases hc

theorem data_ne_nil_of_mem_harvest (d : Decoder) (pieces : List Bytes) :
    ∀ c, .chunk c ∈ (d.harvest pieces).1 → c.data ≠ [] := by
  induction pieces generalizing d with
  | nil =>
    intro c hc
    cases hc
  | cons piece pieces ih =>
    cases piece with
    | nil => exact ih d
    | cons b bs =>
      intro c hc
      cases hfeed : d.feed (b :: bs) with
      | mk d' answer =>
        obtain ⟨items, result⟩ := answer
        cases result with
        | error e =>
          rw [harvest_of_error hfeed] at hc
          cases hc
        | ok =>
          rw [harvest_of_ok hfeed] at hc
          rcases List.mem_append.mp hc with hc | hc
          · have hitems : (d.feed (b :: bs)).2.1 = items := by rw [hfeed]
            rw [← hitems] at hc
            exact (runs d.limit d.state (b :: bs)).data_ne_nil c hc
          · exact ih d' c hc

theorem FailsCleanly.head {d : Decoder} {piece : Bytes} {pieces : List Bytes}
    (h : d.FailsCleanly (piece :: pieces)) {e : Error} (he : (d.feed piece).2.2 = .error e) :
    (d.feed piece).2.1 = [] := by
  refine h (d.feed piece).2 List.mem_cons_self ?_
  rw [he]
  exact nofun

theorem FailsCleanly.tail {d : Decoder} {piece : Bytes} {pieces : List Bytes}
    (h : d.FailsCleanly (piece :: pieces)) : (d.feed piece).1.FailsCleanly pieces :=
  fun answer hanswer => h answer (List.mem_cons_of_mem _ hanswer)

/-- The pieces after some input bring what all of the input comes to at once. -/
theorem harvest_after {state : State} {before : Bytes} {pieces : List Bytes}
    (hgood : (run limit state before).1 ≠ .failed)
    (hclean : (Decoder.mk limit (run limit state before).1).FailsCleanly pieces) :
    DecodedItem.joined ((run limit state before).2 ++
        ((Decoder.mk limit (run limit state before).1).harvest pieces).1) =
      DecodedItem.joined (run limit state (before ++ pieces.flatten)).2
    ∧ ((Decoder.mk limit (run limit state before).1).harvest pieces).2 =
      if (run limit state (before ++ pieces.flatten)).1 = .failed then some .malformedPacket
      else none := by
  induction pieces generalizing before with
  | nil =>
    rw [List.flatten_nil, List.append_nil, if_neg hgood]
    exact ⟨congrArg DecodedItem.joined (List.append_nil _), rfl⟩
  | cons piece pieces ih =>
    obtain ⟨hstate, hitems⟩ := @splits limit state before piece
    unfold followedBy at hstate hitems
    dsimp only at hstate hitems
    have htail := hclean.tail
    rw [feed_eq] at htail
    dsimp only at htail
    rw [← hstate] at htail
    rw [List.flatten_cons, ← List.append_assoc]
    cases piece with
    | nil =>
      rw [List.append_nil] at htail ⊢
      exact ih hgood htail
    | cons b bs =>
      unfold harvest
      rw [feed_eq]
      dsimp only
      rw [← hstate]
      by_cases hfailed : (run limit state (before ++ b :: bs)).1 = .failed
      · have hnone : (run limit (run limit state before).1 (b :: bs)).2 = [] :=
          hclean.head (if_pos (hstate.symm.trans hfailed))
        rw [hnone, List.append_nil] at hitems
        have hlast := @splits limit state (before ++ b :: bs) pieces.flatten
        unfold followedBy at hlast
        rw [hfailed, run_failed] at hlast
        obtain ⟨hlaststate, hlastitems⟩ := hlast
        rw [if_pos hlaststate, verdict, if_pos hfailed]
        refine ⟨?_, rfl⟩
        rw [List.append_nil, hlastitems, List.append_nil, hitems]
      · obtain ⟨hjoined, herror⟩ := ih hfailed htail
        rw [verdict, if_neg hfailed]
        refine ⟨?_, herror⟩
        rw [← hjoined, ← List.append_assoc]
        exact DecodedItem.joined_congr_append hitems.symm _

/-- A new decoder's pieces bring what their bytes bring in one piece. -/
theorem harvest_new {pieces : List Bytes} (hclean : (Decoder.new limit).FailsCleanly pieces) :
    DecodedItem.joined ((Decoder.new limit).harvest pieces).1 =
        DecodedItem.joined (run limit .start pieces.flatten).2
      ∧ ((Decoder.new limit).harvest pieces).2 =
        if (run limit .start pieces.flatten).1 = .failed then some .malformedPacket else none := by
  have h := @harvest_after limit .start [] pieces
  rw [run_start_nil] at h
  exact h State.noConfusion hclean

end Decoder

end Mqtt
