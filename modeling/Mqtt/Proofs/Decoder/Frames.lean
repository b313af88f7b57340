import Mqtt.Proofs.Decoder.Segments

/-!
A stream of frames, each a packet or bytes in the place of one. What a decoder makes of a frame is
told by decoding its body as a whole, also where the body is too long to be held and is streamed.
-/

namespace Mqtt
set_option autoImplicit false

/-- A first byte, a spelling of the length of the body, and the body. -/
structure Frame where
  first : UInt8
  /-- Not always the shortest spelling. -/
  size : Bytes
  body : Bytes
  sized : VarLength.decode size = .ok (.value body.length [])
deriving DecidableEq, Repr

namespace Frame

def bytes (f : Frame) : Bytes := f.first :: (f.size ++ f.body)

def IsPublish (f : Frame) : Prop := f.first >>> 4 = 3

instance (f : Frame) : Decidable f.IsPublish := by
  unfold IsPublish
  infer_instance

def decode (f : Frame) : Except Error Packet := Packet.decode f.first f.body

def IsMalformed (f : Frame) : Prop := ∃ e, f.decode = .error e

theorem size_ne_nil (f : Frame) : f.size ≠ [] := by
  intro hnil
  have hsized := f.sized
  rw [hnil] at hsized
  cases hsized

theorem not_isMalformed {f : Frame} {p : Packet} (h : f.decode = .ok p) : ¬ f.IsMalformed := by
  rintro ⟨e, he⟩
  rw [h] at he
  cases he

/-- What is written is a frame, which is read as what was written. -/
theorem exists_of_encode {p : Packet} {bytes : Bytes} (h : p.encode = .ok bytes)
    (hwf : p.WellFormed) : ∃ f : Frame, f.bytes = bytes ∧ f.decode = .ok p := by
  obtain ⟨hmaximum, body, hspells, rfl⟩ := Packet.encode_eq_ok_iff.mp h
  have hsized : VarLength.decode (VarLength.digits p.remainingLength) =
      .ok (.value body.length []) := by
    rw [Packet.length_of_spells hspells]
    simpa using VarLength.decode_digits hmaximum []
  exact ⟨⟨p.firstByte, _, body, hsized⟩, rfl, Packet.decode_eq_ok_iff.mpr ⟨hwf, rfl, hspells⟩⟩

/-- Only a PUBLISH begins with the first byte of one. -/
theorem isPublish_of_decode (f : Frame) {p : Packet} (h : f.decode = .ok p)
    (htype : p.type = .publish) : f.IsPublish := by
  obtain ⟨_, hfirst, _⟩ := Packet.decode_eq_ok_iff.mp h
  cases p with
  | publish q => exact (Publish.eq_firstByte_iff.mp hfirst).1
  | _ => cases htype

theorem length_body_of_decode (f : Frame) {p : Packet} (h : f.decode = .ok p) :
    f.body.length = p.remainingLength := by
  obtain ⟨_, _, hspells⟩ := Packet.decode_eq_ok_iff.mp h
  exact Packet.length_of_spells hspells

end Frame

namespace Packet

theorem decode_of_publish {first : UInt8} (h : first >>> 4 = 3) (body : Bytes) :
    decode first body = Packet.publish <$> Publish.decode first body := by
  have htype : PacketType.ofCode? (first >>> 4) = some .publish := by
    rw [h]
    rfl
  unfold decode
  rw [htype]
  exact if_neg (fun hne => hne.1 rfl)

end Packet

namespace Decoder

variable {limit : Nat}

/-! ### One frame -/

theorem run_length_part {first b : UInt8} {n : Nat} {seen spelling : Bytes}
    (hdecode : VarLength.decode (seen ++ b :: spelling) = .ok (.value n [])) (hne : spelling ≠ [])
    (rest : Bytes) :
    run limit (.length first seen) (b :: rest) = run limit (.length first (seen ++ [b])) rest := by
  have hmove : seen ++ b :: spelling = seen ++ [b] ++ spelling := by simp
  rw [hmove] at hdecode
  have hpos : 0 < spelling.length := List.length_pos_iff.mpr hne
  have hfour := VarLength.length_le_of_decodeUpTo hdecode
  simp only [List.length_append, List.length_cons, List.length_nil] at hfour
  have hpart : VarLength.decode (seen ++ [b]) = .ok .incomplete := by
    have htake : (seen ++ [b] ++ spelling).take (seen ++ [b]).length = seen ++ [b] :=
      List.take_left
    rw [← htake]
    apply VarLength.decode_take hdecode
    simp only [List.length_append, List.length_cons, List.length_nil]
    omega
  rw [run_length_more, if_neg (by omega)]
  intro m left hvalue
  rw [hpart] at hvalue
  cases hvalue

/-- The length is read as soon as its last byte has come, and not before. -/
theorem run_spelling {first : UInt8} {n : Nat} {seen spelling : Bytes}
    (hdecode : VarLength.decode (seen ++ spelling) = .ok (.value n [])) (hne : spelling ≠ [])
    (rest : Bytes) :
    run limit (.length first seen) (spelling ++ rest) =
      if n ≤ limit then run limit (.body first n .empty) rest
      else if first >>> 4 = 3 then run limit (.header first n 0 .empty) rest
      else (.failed, []) := by
  induction spelling generalizing seen with
  | nil => exact absurd rfl hne
  | cons b spelling ih =>
    rw [List.cons_append]
    by_cases hlast : spelling = []
    · subst hlast
      exact run_length_value hdecode
    · rw [run_length_part hdecode hlast]
      refine ih ?_ hlast
      rw [List.append_assoc]
      exact hdecode

/-- The one item that a message without payload, or with it, is streamed as. -/
def streamed (q : Publish) : DecodedItem :=
  if q.payload = [] then .packet (.publish q)
  else .chunk ⟨{ q with payload := [] }, q.payload, 0, q.payload.length⟩

theorem isWhole_streamed (q : Publish) : (streamed q).IsWhole := by
  unfold streamed
  split
  · trivial
  · rename_i hpayload
    exact ⟨⟨rfl, rfl⟩, List.length_pos_iff.mpr hpayload⟩

theorem toPacket?_streamed (q : Publish) : (streamed q).toPacket? = some (.publish q) := by
  unfold streamed
  split
  · rfl
  · exact if_pos ⟨rfl, rfl⟩

/-- A body that is gathered whole. -/
theorem run_body_whole {first : UInt8} (body rest : Bytes) :
    run limit (.body first body.length .empty) (body ++ rest) =
      match Packet.decode first body with
      | .ok p => emit (.packet p) (run limit .start rest)
      | .error _ => (.failed, []) := by
  have hsize : Gathered.empty.size = 0 := rfl
  have hfull : body.length - Gathered.empty.size ≤ (body ++ rest).length := by
    rw [hsize, List.length_append]
    omega
  have hwhole := @run_body_full limit first body.length .empty (body ++ rest) hfull
  rw [hsize, Nat.sub_zero, List.take_left, List.drop_left, Gathered.toList_empty,
    List.nil_append] at hwhole
  exact hwhole

/-- The header of a message tells whether all of it is well-formed. -/
theorem run_header_whole {first : UInt8} {body : Bytes} (hne : body ≠ []) (rest : Bytes) :
    run limit (.header first body.length 0 .empty) (body ++ rest) =
      match Publish.decode first body with
      | .ok q => emit (streamed q) (run limit .start rest)
      | .error _ => (.failed, []) := by
  have hsize : Gathered.empty.size = 0 := rfl
  have hall : (Gathered.empty.append body).size = body.length := by
    rw [Gathered.size_append, hsize, Nat.zero_add]
  rw [run_header (List.append_ne_nil_of_left_ne_nil hne rest), hsize, Nat.sub_zero, List.take_left,
    List.drop_left]
  unfold readHeader Publish.decode
  rw [if_neg (by omega), Gathered.toList_append, Gathered.toList_empty, List.nil_append]
  cases hread : Publish.decodeHeader first body with
  | error e => rfl
  | ok r =>
    cases r with
    | none => exact if_pos (Nat.le_of_eq hall.symm)
    | some r =>
      obtain ⟨p, used⟩ := r
      obtain ⟨_, hpayload, _, hused, tail, hspells⟩ := Publish.decodeHeader_eq_some_iff.mp hread
      have hfits := Publish.headerLength_le_of_spells hspells
      rw [← hused] at hfits
      have hbare : { p with payload := [] } = p := by rw [← hpayload]
      have hdrop : (body.drop used).length = body.length - used := List.length_drop
      dsimp only
      rw [if_neg (Nat.not_lt_of_le hfits)]
      unfold streamed
      by_cases hempty : body.drop used = []
      · have hexact : used = body.length := by
          rw [hempty, List.length_nil] at hdrop
          omega
        rw [if_pos hexact, if_pos hempty, hempty, hbare]
      · have hpos := List.length_pos_iff.mpr hempty
        have hnone : (body.drop used).length - 0 - (body.drop used).length = 0 := by omega
        have hdata : body.drop used ++ rest.take
            ((body.drop used).length - 0 - (body.drop used).length) = body.drop used := by
          rw [hnone, List.take_zero, List.append_nil]
        rw [if_neg (by omega), if_neg hempty, ← hdrop, run_payload_some hdata hempty,
          if_pos (Nat.zero_add _), hnone, List.drop_zero, hbare]

/-- The item that a packet is delivered as, whose body has this size. -/
def itemOf (limit size : Nat) : Packet → DecodedItem
  | .publish q => if size ≤ limit then .packet (.publish q) else streamed q
  | p => .packet p

theorem itemOf_of_le {size : Nat} (h : size ≤ limit) (p : Packet) :
    itemOf limit size p = .packet p := by
  cases p with
  | publish q => exact if_pos h
  | _ => rfl

theorem itemOf_of_lt {size : Nat} (h : limit < size) (q : Publish) :
    itemOf limit size (.publish q) = streamed q :=
  if_neg (Nat.not_le_of_lt h)

theorem isWhole_itemOf (limit size : Nat) (p : Packet) : (itemOf limit size p).IsWhole := by
  rcases Nat.lt_or_ge limit size with hlong | hshort
  · cases p with
    | publish q =>
      rw [itemOf_of_lt hlong]
      exact isWhole_streamed q
    | _ => trivial
  · rw [itemOf_of_le hshort]
    trivial

theorem toPacket?_itemOf (limit size : Nat) (p : Packet) :
    (itemOf limit size p).toPacket? = some p := by
  rcases Nat.lt_or_ge limit size with hlong | hshort
  · cases p with
    | publish q =>
      rw [itemOf_of_lt hlong]
      exact toPacket?_streamed q
    | _ => rfl
  · rw [itemOf_of_le hshort]
    rfl

/-- Whatever comes after a frame, the frame is delivered as one item, or it is an error. -/
theorem run_frame {f : Frame} (hfits : f.IsPublish ∨ f.body.length ≤ limit) (rest : Bytes) :
    run limit .start (f.bytes ++ rest) =
      match f.decode with
      | .ok p => emit (itemOf limit f.body.length p) (run limit .start rest)
      | .error _ => (.failed, []) := by
  have hsized : VarLength.decode ([] ++ f.size) = .ok (.value f.body.length []) := f.sized
  unfold Frame.bytes Frame.decode
  rw [List.cons_append, run_start_cons, List.append_assoc, run_spelling hsized f.size_ne_nil]
  by_cases hsmall : f.body.length ≤ limit
  · rw [if_pos hsmall, run_body_whole]
    simp only [itemOf_of_le hsmall]
  · have hpublish : f.IsPublish := hfits.resolve_right hsmall
    have hne : f.body ≠ [] := by
      intro hnil
      rw [hnil] at hsmall
      exact hsmall (Nat.zero_le _)
    have hcode : f.first >>> 4 = 3 := hpublish
    rw [if_neg hsmall, if_pos hcode, run_header_whole hne, Packet.decode_of_publish hcode]
    cases Publish.decode f.first f.body with
    | error e => rfl
    | ok q =>
      have hitem := (itemOf_of_lt (Nat.lt_of_not_le hsmall) q).symm
      exact congrArg (emit · (run limit .start rest)) hitem

end Decoder

/-! ### Frames one after the other -/

namespace Frame

/-- The packets of frames, up to the first that is malformed. -/
def packets : List Frame → List Packet
  | [] => []
  | f :: frames =>
    match f.decode with
    | .ok p => p :: packets frames
    | .error _ => []

/-- The items that frames are delivered as, up to the first that is malformed. -/
def items (limit : Nat) : List Frame → List DecodedItem
  | [] => []
  | f :: frames =>
    match f.decode with
    | .ok p => Decoder.itemOf limit f.body.length p :: items limit frames
    | .error _ => []

variable {limit : Nat} {f : Frame} {frames : List Frame} {p : Packet} {e : Error}

theorem packets_cons_of_ok (h : f.decode = .ok p) :
    packets (f :: frames) = p :: packets frames := by
  rw [packets, h]

theorem packets_cons_of_error (h : f.decode = .error e) : packets (f :: frames) = [] := by
  rw [packets, h]

theorem items_cons_of_ok (h : f.decode = .ok p) :
    items limit (f :: frames) = Decoder.itemOf limit f.body.length p :: items limit frames := by
  rw [items, h]

theorem items_cons_of_error (h : f.decode = .error e) : items limit (f :: frames) = [] := by
  rw [items, h]

theorem isWhole_of_mem_items : ∀ item ∈ items limit frames, item.IsWhole := by
  induction frames with
  | nil => exact List.forall_mem_nil _
  | cons f frames ih =>
    cases hf : f.decode with
    | error e =>
      rw [items_cons_of_error hf]
      exact List.forall_mem_nil _
    | ok p =>
      rw [items_cons_of_ok hf]
      exact List.forall_mem_cons.mpr ⟨Decoder.isWhole_itemOf limit f.body.length p, ih⟩

theorem mapM_toPacket?_items :
    (items limit frames).mapM DecodedItem.toPacket? = some (packets frames) := by
  induction frames with
  | nil => rfl
  | cons f frames ih =>
    cases hf : f.decode with
    | error e =>
      rw [items_cons_of_error hf, packets_cons_of_error hf]
      rfl
    | ok p =>
      rw [items_cons_of_ok hf, packets_cons_of_ok hf, List.mapM_cons, Decoder.toPacket?_itemOf, ih]
      rfl

theorem length_items (hgood : ∀ f ∈ frames, ¬ f.IsMalformed) :
    (items limit frames).length = frames.length := by
  induction frames with
  | nil => rfl
  | cons f frames ih =>
    rw [List.forall_mem_cons] at hgood
    cases hf : f.decode with
    | error e => exact absurd ⟨e, hf⟩ hgood.1
    | ok p => rw [items_cons_of_ok hf, List.length_cons, ih hgood.2, List.length_cons]

/-- The item of a frame stands behind those of the frames before it. -/
theorem getElem?_items {before after : List Frame} (hbefore : ∀ g ∈ before, ¬ g.IsMalformed) :
    (items limit (before ++ f :: after))[before.length]? =
      f.decode.toOption.map (Decoder.itemOf limit f.body.length) := by
  induction before with
  | nil =>
    rw [List.nil_append]
    cases hf : f.decode with
    | error e =>
      rw [items_cons_of_error hf]
      rfl
    | ok p =>
      rw [items_cons_of_ok hf]
      rfl
  | cons g before ih =>
    rw [List.forall_mem_cons] at hbefore
    rw [List.cons_append]
    cases hg : g.decode with
    | error e => exact absurd ⟨e, hg⟩ hbefore.1
    | ok p =>
      rw [items_cons_of_ok hg, List.length_cons, List.getElem?_cons_succ]
      exact ih hbefore.2

end Frame

namespace Decoder

variable {limit : Nat} {frames : List Frame}

theorem run_frames_append (hfits : ∀ f ∈ frames, f.IsPublish ∨ f.body.length ≤ limit)
    (hgood : ∀ f ∈ frames, ¬ f.IsMalformed) (rest : Bytes) :
    run limit .start (frames.flatMap Frame.bytes ++ rest) =
      ((run limit .start rest).1, Frame.items limit frames ++ (run limit .start rest).2) := by
  induction frames with
  | nil => rfl
  | cons f frames ih =>
    rw [List.forall_mem_cons] at hfits hgood
    rw [List.flatMap_cons, List.append_assoc, run_frame hfits.1, ih hfits.2 hgood.2]
    cases hf : f.decode with
    | error e => exact absurd ⟨e, hf⟩ hgood.1
    | ok p =>
      rw [Frame.items_cons_of_ok hf]
      rfl

/-- A malformed frame is an error, and nothing of it or after it is delivered. -/
theorem run_frames (hfits : ∀ f ∈ frames, f.IsPublish ∨ f.body.length ≤ limit) :
    (run limit .start (frames.flatMap Frame.bytes)).2 = Frame.items limit frames
      ∧ ((run limit .start (frames.flatMap Frame.bytes)).1 = .failed ↔
        ∃ f ∈ frames, f.IsMalformed) := by
  induction frames with
  | nil =>
    rw [List.flatMap_nil, run_start_nil]
    exact ⟨rfl, by simp⟩
  | cons f frames ih =>
    rw [List.forall_mem_cons] at hfits
    obtain ⟨hitems, hfailed⟩ := ih hfits.2
    rw [List.flatMap_cons, run_frame hfits.1]
    cases hf : f.decode with
    | error e =>
      rw [Frame.items_cons_of_error hf]
      exact ⟨rfl, iff_of_true rfl ⟨f, List.mem_cons_self, e, hf⟩⟩
    | ok p =>
      rw [Frame.items_cons_of_ok hf]
      refine ⟨congrArg (itemOf limit f.body.length p :: ·) hitems, hfailed.trans ?_⟩
      simp [Frame.not_isMalformed hf]

end Decoder
end Mqtt
