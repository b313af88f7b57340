import Mqtt.Proofs.Decoder.Cuttings

/-!
Decoders of different limits, fed the same frames. What is gathered whole by one and streamed by
the other is one and the same message.
-/

namespace Mqtt.Decoder
set_option autoImplicit false
open DecodedItem (joined packets?)

section
variable {limit : Nat} {frames : List Frame} {pieces : List Bytes}

theorem feedEach_new (limit : Nat) (pieces : List Bytes) :
    ((Decoder.new limit).feedEach pieces).1 = ⟨limit, (run limit .start pieces.flatten).1⟩
      ∧ joined (delivered ((Decoder.new limit).feedEach pieces).2) =
        joined (run limit .start pieces.flatten).2 := by
  have h := @feedEach_after limit .start [] pieces
  rw [run_start_nil] at h
  exact h

/-- What comes of frames, in whatever pieces they arrive. -/
theorem feedEach_frames (hfits : ∀ f ∈ frames, f.IsPublish ∨ f.body.length ≤ limit)
    (hpieces : pieces.flatten = frames.flatMap Frame.bytes) :
    joined (delivered ((Decoder.new limit).feedEach pieces).2) = Frame.items limit frames
      ∧ (Complains ((Decoder.new limit).feedEach pieces).2 ↔ ∃ f ∈ frames, f.IsMalformed) := by
  have hgood : (Decoder.new limit).state ≠ .failed := State.noConfusion
  obtain ⟨hstate, hjoined⟩ := feedEach_new limit pieces
  obtain ⟨hitems, hfailed⟩ := run_frames hfits
  constructor
  · rw [hjoined, hpieces, hitems, DecodedItem.joined_of_whole Frame.isWhole_of_mem_items]
  · rw [complains_iff hgood, hstate, hpieces]
    exact hfailed

theorem packets?_frames (hfits : ∀ f ∈ frames, f.IsPublish ∨ f.body.length ≤ limit)
    (hpieces : pieces.flatten = frames.flatMap Frame.bytes) :
    packets? (delivered ((Decoder.new limit).feedEach pieces).2) = some (Frame.packets frames) := by
  unfold packets?
  rw [(feedEach_frames hfits hpieces).1]
  exact Frame.mapM_toPacket?_items

end

/-- The item of a message is the message in the form that its size asks for. -/
theorem getElem?_items_eq_some_iff {limit : Nat} {before after : List Frame} {f : Frame}
    (hbefore : ∀ g ∈ before, ¬ g.IsMalformed) (q : Publish) :
    (Frame.items limit (before ++ f :: after))[before.length]? =
        some (itemOf limit f.body.length (.publish q)) ↔
      f.decode = .ok (.publish q) := by
  rw [Frame.getElem?_items hbefore]
  constructor
  · intro hitem
    cases hf : f.decode with
    | error e =>
      rw [hf] at hitem
      cases hitem
    | ok p =>
      rw [hf] at hitem
      have hsame := congrArg (Option.bind · DecodedItem.toPacket?) hitem
      simp [Except.toOption, toPacket?_itemOf] at hsame
      rw [hsame]
  · intro hf
    rw [hf]
    rfl

/-- A stream of frames means the same to two new decoders of different limits, in whatever pieces
each is fed: the same packets, up to the first malformed frame, of which nothing is delivered. A
message too long for the one is streamed by it exactly as the other decodes it. -/
theorem limit_does_not_matter {limit limit' : Nat} (hle : limit ≤ limit') {frames : List Frame}
    (hfits : ∀ f ∈ frames, f.IsPublish ∨ f.body.length ≤ limit) {pieces pieces' : List Bytes}
    (hpieces : pieces.flatten = frames.flatMap Frame.bytes)
    (hpieces' : pieces'.flatten = frames.flatMap Frame.bytes) :
    packets? (delivered ((Decoder.new limit).feedEach pieces).2) = some (Frame.packets frames)
    ∧ packets? (delivered ((Decoder.new limit').feedEach pieces').2) = some (Frame.packets frames)
    ∧ (Complains ((Decoder.new limit).feedEach pieces).2 ↔ ∃ f ∈ frames, f.IsMalformed)
    ∧ (Complains ((Decoder.new limit').feedEach pieces').2 ↔ ∃ f ∈ frames, f.IsMalformed)
    ∧ ∀ before f after, frames = before ++ f :: after → (∀ g ∈ before, ¬ g.IsMalformed) →
      limit < f.body.length → ∀ q,
        ((joined (delivered ((Decoder.new limit).feedEach pieces).2))[before.length]? =
          some (streamed q) ↔ f.decode = .ok (.publish q))
        ∧ (f.body.length ≤ limit' →
          ((joined (delivered ((Decoder.new limit').feedEach pieces').2))[before.length]? =
            some (.packet (.publish q)) ↔ f.decode = .ok (.publish q))) := by
  have hfits' : ∀ f ∈ frames, f.IsPublish ∨ f.body.length ≤ limit' := by
    intro f hf
    cases hfits f hf with
    | inl hpublish => exact .inl hpublish
    | inr hshort => exact .inr (Nat.le_trans hshort hle)
  obtain ⟨hitems, hcomplains⟩ := feedEach_frames hfits hpieces
  obtain ⟨hitems', hcomplains'⟩ := feedEach_frames hfits' hpieces'
  refine ⟨packets?_frames hfits hpieces, packets?_frames hfits' hpieces', hcomplains, hcomplains',
    ?_⟩
  intro before f after hframes hbefore hlong q
  constructor
  · rw [hitems, hframes, ← itemOf_of_lt hlong]
    exact getElem?_items_eq_some_iff hbefore q
  · intro hshort
    rw [hitems', hframes, ← itemOf_of_le hshort]
    exact getElem?_items_eq_some_iff hbefore q

/-- A CONNACK whose length is spelled in two bytes, a long message, and one whose topic is longer
than its body. -/
theorem limit_does_not_matter_of_long_message :
    let frames : List Frame := [⟨32, [130, 0], [0, 0], rfl⟩,
      ⟨50, [8], [0, 1, 97, 0, 5, 1, 2, 3], rfl⟩, ⟨50, [6], [0, 9, 97, 0, 5, 1], rfl⟩]
    let pieces : List Bytes := [[32, 130], [0, 0, 0, 50, 8, 0], [1, 97, 0, 5, 1], [],
      [2, 3, 50, 6, 0, 9, 97], [0, 5, 1]]
    let pieces' : List Bytes := [[32, 130, 0, 0, 0, 50, 8, 0, 1, 97, 0, 5],
      [1, 2, 3, 50, 6, 0, 9, 97, 0, 5, 1]]
    let q : Publish := ⟨5, "a", .atLeastOnce, false, false, [1, 2, 3]⟩
    pieces.flatten = frames.flatMap Frame.bytes ∧ pieces'.flatten = frames.flatMap Frame.bytes
      ∧ packets? (delivered ((Decoder.new 2).feedEach pieces).2) =
        some [.connack false .accepted, .publish q]
      ∧ packets? (delivered ((Decoder.new 1024).feedEach pieces').2) =
        some [.connack false .accepted, .publish q]
      ∧ Complains ((Decoder.new 2).feedEach pieces).2
      ∧ (joined (delivered ((Decoder.new 2).feedEach pieces).2))[1]? = some (streamed q) := by
  intro frames pieces pieces' q
  have hfits : ∀ f ∈ frames, f.IsPublish ∨ f.body.length ≤ 2 := by
    subst frames
    decide
  have hlast : ∃ f ∈ frames, f.IsMalformed :=
    ⟨⟨50, [6], [0, 9, 97, 0, 5, 1], rfl⟩, by simp [frames], .malformedPacket, rfl⟩
  have hpackets : Frame.packets frames = [.connack false .accepted, .publish q] := by
    subst frames q
    decide +kernel
  obtain ⟨hwith, hwith', hcomplains, _, hstreamed⟩ :=
    @limit_does_not_matter 2 1024 (by decide) frames hfits pieces pieces' rfl rfl
  rw [hpackets] at hwith hwith'
  have hfirst : Frame.decode ⟨32, [130, 0], [0, 0], rfl⟩ = .ok (.connack false .accepted) := rfl
  have hbefore : ∀ g ∈ [⟨32, [130, 0], [0, 0], rfl⟩], ¬ Frame.IsMalformed g := by
    rintro g hg
    rw [List.mem_singleton.mp hg]
    exact Frame.not_isMalformed hfirst
  refine ⟨rfl, rfl, hwith, hwith', hcomplains.mpr hlast, ?_⟩
  exact (hstreamed _ ⟨50, [8], [0, 1, 97, 0, 5, 1, 2, 3], rfl⟩ _ rfl hbefore (by decide) q).1.mpr
    rfl

end Mqtt.Decoder
