import Mqtt.Proofs.Decoder.Limits

/-!
What is delivered comes in parcels: a packet, or the chunks of one long message. The chunks of a
message follow each other without a gap, and each is cut out of the piece it is delivered with.
-/

namespace Mqtt.Decoder
set_option autoImplicit false
open DecodedItem (joined joinTo)

/-- Payload bytes that are delivered at once, with the number of the piece they arrived in. -/
structure Part where
  piece : Nat
  data : Bytes
deriving DecidableEq, Repr

inductive Parcel where
  | packet (piece : Nat) (p : Packet)
  | message (publish : Publish) (total : Nat) (parts : List Part)
deriving DecidableEq, Repr

/-- The items of calls that are counted from `now` on, each with the number of its call. -/
def numbered (now : Nat) : List Answer → List (Nat × DecodedItem)
  | [] => []
  | answer :: answers => answer.1.map (now, ·) ++ numbered (now + 1) answers

theorem map_snd_numbered (now : Nat) (answers : List Answer) :
    (numbered now answers).map Prod.snd = delivered answers := by
  induction answers generalizing now with
  | nil => rfl
  | cons answer answers ih => simp [numbered, delivered_cons, ih, Function.comp_def]

/-! ### The parts of a message -/

def brought : List Part → Nat
  | [] => 0
  | part :: parts => part.data.length + brought parts

@[simp] theorem brought_nil : brought [] = 0 := rfl

@[simp] theorem brought_cons (part : Part) (parts : List Part) :
    brought (part :: parts) = part.data.length + brought parts := rfl

@[simp] theorem brought_append (parts parts' : List Part) :
    brought (parts ++ parts') = brought parts + brought parts' := by
  induction parts with
  | nil => simp
  | cons part parts ih => simp [ih, Nat.add_assoc]

/-- The chunks of a message: each begins where the one before it ends. -/
def chunks (publish : Publish) (total : Nat) : Nat → List Part → List (Nat × DecodedItem)
  | _, [] => []
  | offset, part :: parts =>
    (part.piece, .chunk ⟨publish, part.data, offset, total⟩) ::
      chunks publish total (offset + part.data.length) parts

section
variable {publish : Publish} {total : Nat}

theorem chunks_concat (offset : Nat) (parts : List Part) (part : Part) :
    chunks publish total offset (parts ++ [part]) = chunks publish total offset parts ++
      [(part.piece, .chunk ⟨publish, part.data, offset + brought parts, total⟩)] := by
  induction parts generalizing offset with
  | nil => rfl
  | cons first parts ih =>
    rw [List.cons_append, chunks, chunks, ih, brought_cons, Nat.add_assoc, List.cons_append]

/-- Joined, the chunks of a message are one. -/
theorem joined_chunks (offset : Nat) (part : Part) (parts : List Part) (rest : List DecodedItem) :
    joined ((chunks publish total offset (part :: parts)).map Prod.snd ++ rest) =
      joined (.chunk ⟨publish, part.data ++ parts.flatMap Part.data, offset, total⟩ :: rest) := by
  induction parts generalizing offset part with
  | nil => simp [chunks]
  | cons next parts ih =>
    have hcontinued : Chunk.ContinuedBy ⟨publish, part.data, offset, total⟩
        ⟨publish, next.data ++ parts.flatMap Part.data, offset + part.data.length, total⟩ :=
      ⟨rfl, rfl, rfl⟩
    rw [chunks, List.map_cons, List.cons_append, DecodedItem.joined_cons, ih,
      DecodedItem.joined_cons, DecodedItem.joinTo_joinTo hcontinued]
    rfl

end

/-- Parts of a message, each of them cut out of another of the pieces. -/
structure Orderly (pieces : List Bytes) (publish : Publish) (total : Nat) (parts : List Part) :
    Prop where
  bare : publish.payload = []
  fits : brought parts ≤ total
  ne_nil : ∀ part ∈ parts, part.data ≠ []
  source : ∀ part ∈ parts, ∃ piece, pieces[part.piece]? = some piece ∧ part.data <:+: piece
  in_turn : (parts.map Part.piece).Pairwise (· < ·)

theorem Orderly.nil (pieces : List Bytes) {publish : Publish} (hbare : publish.payload = [])
    (total : Nat) : Orderly pieces publish total [] where
  bare := hbare
  fits := Nat.zero_le total
  ne_nil := List.forall_mem_nil _
  source := List.forall_mem_nil _
  in_turn := .nil

theorem Orderly.concat {pieces : List Bytes} {publish : Publish} {total : Nat} {parts : List Part}
    (h : Orderly pieces publish total parts) {now : Nat} (hnow : ∀ part ∈ parts, part.piece < now)
    {piece data : Bytes} (hpiece : pieces[now]? = some piece) (hdata : data <:+: piece)
    (hne : data ≠ []) (hfits : brought parts + data.length ≤ total) :
    Orderly pieces publish total (parts ++ [⟨now, data⟩]) where
  bare := h.bare
  fits := by simpa using hfits
  ne_nil := List.forall_mem_append.mpr ⟨h.ne_nil, List.forall_mem_singleton.mpr hne⟩
  source := List.forall_mem_append.mpr
    ⟨h.source, List.forall_mem_singleton.mpr ⟨piece, hpiece, hdata⟩⟩
  in_turn := by
    rw [List.map_append, List.pairwise_append]
    refine ⟨h.in_turn, List.pairwise_singleton _ _, ?_⟩
    simpa using hnow

namespace Parcel

def items : Parcel → List (Nat × DecodedItem)
  | packet piece p => [(piece, .packet p)]
  | message publish total parts => chunks publish total 0 parts

def IsOrderly (pieces : List Bytes) : Parcel → Prop
  | packet .. => True
  | message publish total parts => parts ≠ [] ∧ Orderly pieces publish total parts

def IsComplete : Parcel → Prop
  | packet .. => True
  | message _ total parts => brought parts = total

/-- What is delivered where all bytes arrive at once. -/
def whole : Parcel → DecodedItem
  | packet _ p => .packet p
  | message publish total parts => .chunk ⟨publish, parts.flatMap Part.data, 0, total⟩

theorem length_flatMap_data (parts : List Part) :
    (parts.flatMap Part.data).length = brought parts := by
  induction parts with
  | nil => rfl
  | cons part parts ih => rw [List.flatMap_cons, List.length_append, ih, brought_cons]

theorem joined_items {pieces : List Bytes} {parcel : Parcel} (h : parcel.IsOrderly pieces)
    (rest : List DecodedItem) :
    joined (parcel.items.map Prod.snd ++ rest) = joined (parcel.whole :: rest) := by
  match parcel, h with
  | .packet _ _, _ => rfl
  | .message _ _ [], h => exact absurd rfl h.1
  | .message _ _ (part :: parts), _ => exact joined_chunks 0 part parts rest

theorem begins_whole {pieces : List Bytes} {parcel : Parcel} (h : parcel.IsOrderly pieces)
    {c : Chunk} (hc : .chunk c = parcel.whole) : c.Begins := by
  match parcel, h with
  | .packet _ _, _ => cases hc
  | .message _ _ [], h => exact absurd rfl h.1
  | .message publish total (part :: parts), h =>
    cases hc
    have hfits := h.2.fits
    refine ⟨rfl, ?_, ?_⟩
    · intro hnil
      exact h.2.ne_nil part List.mem_cons_self (List.append_eq_nil_iff.mp hnil).1
    · rw [← length_flatMap_data] at hfits
      exact hfits

/-- Chunks of different parcels never join. -/
theorem joined_flatMap_items {pieces : List Bytes} {parcels : List Parcel}
    (h : ∀ parcel ∈ parcels, parcel.IsOrderly pieces) :
    joined ((parcels.flatMap items).map Prod.snd) = parcels.map whole := by
  have hwhole : joined ((parcels.flatMap items).map Prod.snd) = joined (parcels.map whole) := by
    induction parcels with
    | nil => rfl
    | cons parcel parcels ih =>
      rw [List.forall_mem_cons] at h
      rw [List.flatMap_cons, List.map_append, joined_items h.1, List.map_cons]
      exact DecodedItem.joined_cons_congr _ (ih h.2)
  rw [hwhole]
  apply DecodedItem.joined_of_begins
  intro c hc
  obtain ⟨parcel, hparcel, hsame⟩ := List.mem_map.mp hc
  exact begins_whole (h parcel hparcel) hsame.symm

end Parcel

/-! ### One piece -/

namespace State

/-- The bytes that are held have all come with this piece, but those of an unfinished header. -/
def Holds (piece input : Bytes) : State → Prop
  | header first size wanted held =>
    wanted ≤ Publish.headerSize first held.toList ∧ held.size < Publish.headerSize first held.toList
      ∧ held.size ≤ size
  | payload _ total delivered held =>
    delivered + held.length ≤ total ∧ delivered < total ∧ held ++ input <:+ piece
  | _ => True

/-- The parts that were delivered of the message that is being streamed. -/
def Awaits (pieces : List Bytes) (now : Nat) (parts : List Part) : State → Prop
  | payload p total delivered _ =>
    brought parts = delivered ∧ Orderly pieces p total parts ∧ ∀ part ∈ parts, part.piece < now
  | _ => parts = []

def opened (parts : List Part) : State → List (Nat × DecodedItem)
  | payload p total _ _ => chunks p total 0 parts
  | _ => []

@[simp] theorem opened_nil (state : State) : state.opened [] = [] := by
  cases state <;> rfl

theorem Holds.refill {state : State} (h : state.Holds [] []) (piece : Bytes) :
    state.Holds piece piece := by
  cases state with
  | payload p total delivered held =>
    obtain ⟨hfits, hmore, hheld⟩ := h
    rw [List.append_nil, List.suffix_nil] at hheld
    subst hheld
    exact ⟨hfits, hmore, List.suffix_refl piece⟩
  | header => exact h
  | _ => trivial

section
variable {first : UInt8} {size wanted : Nat} {held held' : Gathered} {piece input : Bytes}

theorem Holds.header_short (h : (State.header first size wanted held).Holds piece input)
    (hheld : held.append (input.take (size - held.size)) = held')
    (hwait : held'.size < min wanted size) :
    (State.header first size wanted held').Holds [] [] := by
  subst hheld
  obtain ⟨hwanted, hshort, hsize⟩ := h
  have hle := Publish.headerSize_le_append first held.toList (input.take (size - held.size))
  rw [← Gathered.toList_append] at hle
  exact ⟨Nat.le_trans hwanted hle, by omega, by omega⟩

theorem holds_header_more (hread : Publish.decodeHeader first held.toList = .ok none)
    (hsize : held.size < size) :
    (State.header first size (Publish.headerSize first held.toList) held).Holds [] [] := by
  obtain ⟨_, hshort⟩ := Publish.decodeHeader_eq_none_iff.mp hread
  rw [← Gathered.size_eq_length_toList] at hshort
  exact ⟨Nat.le_refl _, hshort, Nat.le_of_lt hsize⟩

/-- A header ends in the piece that completes it, and what that piece holds beyond is payload. -/
theorem Holds.payload {p : Publish} {used : Nat}
    (h : (State.header first size wanted held).Holds piece input) (hinput : input <:+ piece)
    (hheld : held.append (input.take (size - held.size)) = held')
    (hread : Publish.decodeHeader first held'.toList = .ok (some (p, used))) (hused : used < size) :
    (State.payload p (size - used) 0 (held'.toList.drop used)).Holds piece
      (input.drop (size - held.size)) := by
  subst hheld
  obtain ⟨_, hshort, hsize⟩ := h
  have hle := Publish.headerSize_le_append first held.toList (input.take (size - held.size))
  rw [← Gathered.toList_append, Publish.headerSize_of_decodeHeader hread] at hle
  have hlength := held.size_eq_length_toList
  have htake : (input.take (size - held.size)).length ≤ size - held.size := List.length_take_le _ _
  have hdrop : (held.append (input.take (size - held.size))).toList.drop used =
      (input.take (size - held.size)).drop (used - held.size) := by
    rw [Gathered.toList_append, List.drop_append, List.drop_eq_nil_of_le (by omega), hlength,
      List.nil_append]
  refine ⟨?_, by omega, ?_⟩
  · rw [hdrop, List.length_drop]
    omega
  · obtain ⟨front, hfront⟩ := List.drop_suffix (used - held.size) (input.take (size - held.size))
    refine List.IsSuffix.trans ⟨front, ?_⟩ hinput
    rw [hdrop, ← List.append_assoc, hfront, List.take_append_drop]

theorem Holds.data {p : Publish} {total delivered : Nat} {held data : Bytes}
    (h : (State.payload p total delivered held).Holds piece input)
    (hdata : held ++ input.take (total - delivered - held.length) = data) :
    data <:+: piece ∧ delivered + data.length ≤ total := by
  subst hdata
  obtain ⟨hfits, _, hsuffix⟩ := h
  constructor
  · have hprefix : held ++ input.take (total - delivered - held.length) <+: held ++ input :=
      (List.prefix_append_right_inj held).mpr (List.take_prefix _ _)
    exact hprefix.isInfix.trans hsuffix.isInfix
  · rw [List.length_append, List.length_take]
    omega

end

end State

/-- All that was delivered before the piece `now`: parcels, and what has come of the message that
is being streamed. -/
def Accounted (pieces : List Bytes) (now : Nat) (state : State)
    (items : List (Nat × DecodedItem)) : Prop :=
  ∃ (done : List Parcel) (parts : List Part),
    items = done.flatMap Parcel.items ++ state.opened parts
    ∧ (∀ parcel ∈ done, parcel.IsOrderly pieces ∧ parcel.IsComplete)
    ∧ state.Awaits pieces now parts

section
variable {pieces : List Bytes} {now : Nat} {items : List (Nat × DecodedItem)}

theorem Accounted.packet (h : Accounted pieces now .start items) (p : Packet) :
    Accounted pieces now .start (items ++ [(now, .packet p)]) := by
  obtain ⟨done, parts, rfl, hdone, hparts⟩ := h
  refine ⟨done ++ [.packet now p], parts, ?_, ?_, hparts⟩
  · simp [State.opened, Parcel.items]
  · exact List.forall_mem_append.mpr ⟨hdone, List.forall_mem_singleton.mpr ⟨trivial, trivial⟩⟩

theorem Accounted.chunk {p : Publish} {total delivered : Nat} {held piece data : Bytes}
    (h : Accounted pieces now (.payload p total delivered held) items)
    (hpiece : pieces[now]? = some piece) (hdata : data <:+: piece) (hne : data ≠ [])
    (hfits : delivered + data.length ≤ total) :
    Accounted pieces (now + 1)
      (if delivered + data.length = total then .start
        else .payload p total (delivered + data.length) [])
      (items ++ [(now, .chunk ⟨p, data, delivered, total⟩)]) := by
  obtain ⟨done, parts, rfl, hdone, hbrought, horderly, hbefore⟩ := h
  subst hbrought
  have hconcat := horderly.concat hbefore hpiece hdata hne hfits
  have hchunks := @chunks_concat p total 0 parts ⟨now, data⟩
  rw [Nat.zero_add] at hchunks
  have hbrought : brought (parts ++ [⟨now, data⟩]) = brought parts + data.length := by simp
  split
  · rename_i hend
    refine ⟨done ++ [.message p total (parts ++ [⟨now, data⟩])], [], ?_, ?_, rfl⟩
    · simp [State.opened, Parcel.items, hchunks]
    · refine List.forall_mem_append.mpr ⟨hdone, List.forall_mem_singleton.mpr ⟨⟨?_, hconcat⟩, ?_⟩⟩
      · simp
      · exact hbrought.trans hend
  · refine ⟨done, parts ++ [⟨now, data⟩], ?_, hdone, hbrought, hconcat, ?_⟩
    · simp [State.opened, hchunks]
    · intro part hpart
      rcases List.mem_append.mp hpart with hpart | hpart
      · exact Nat.lt_succ_of_lt (hbefore part hpart)
      · rw [List.mem_singleton.mp hpart]
        exact Nat.lt_succ_self now

/-- The message that is being streamed is the last parcel. -/
theorem Accounted.parcels {state : State} (h : Accounted pieces now state items) :
    ∃ parcels : List Parcel, items = parcels.flatMap Parcel.items
      ∧ (∀ parcel ∈ parcels, parcel.IsOrderly pieces)
      ∧ ∀ parcel ∈ parcels.dropLast, parcel.IsComplete := by
  obtain ⟨done, parts, rfl, hdone, hparts⟩ := h
  by_cases hnil : parts = []
  · subst hnil
    refine ⟨done, by simp, fun parcel hparcel => (hdone parcel hparcel).1, ?_⟩
    exact fun parcel hparcel => (hdone parcel ((List.dropLast_sublist done).mem hparcel)).2
  · cases state with
    | payload p total delivered held =>
      obtain ⟨_, horderly, _⟩ := hparts
      refine ⟨done ++ [.message p total parts], by simp [Parcel.items, State.opened], ?_, ?_⟩
      · intro parcel hparcel
        rcases List.mem_append.mp hparcel with hparcel | hparcel
        · exact (hdone parcel hparcel).1
        · rw [List.mem_singleton.mp hparcel]
          exact ⟨hnil, horderly⟩
      · rw [List.dropLast_concat]
        exact fun parcel hparcel => (hdone parcel hparcel).2
    | _ => exact absurd hparts hnil

theorem Runs.accounted {limit : Nat} {piece : Bytes} {state : State} {input : Bytes}
    {r : State × List DecodedItem} (hrun : Runs limit state input r)
    (hpiece : pieces[now]? = some piece) (hinput : input <:+ piece)
    (hholds : state.Holds piece input) (h : Accounted pieces now state items) :
    r.1.Holds [] [] ∧ Accounted pieces (now + 1) r.1 (items ++ r.2.map (now, ·)) := by
  induction hrun generalizing items with
  | @start_cons _ rest _ _ ih | @length_more _ _ _ rest _ _ _ _ ih
  | @length_body _ _ _ rest _ _ _ _ _ _ ih =>
    exact ih ((List.suffix_cons _ rest).trans hinput) trivial h
  | @length_header first _ _ rest _ _ _ _ _ _ _ ih =>
    refine ih ((List.suffix_cons _ rest).trans hinput) ⟨Nat.zero_le _, ?_, Nat.zero_le _⟩ h
    exact Nat.lt_of_lt_of_le Nat.zero_lt_two (Publish.two_le_headerSize _ _)
  | @body_whole _ _ _ _ p _ _ _ _ ih =>
    simpa [emit] using ih ((List.drop_suffix _ _).trans hinput) trivial (h.packet p)
  | @header_whole _ _ _ _ _ _ p _ _ _ _ ih =>
    simpa [emit] using ih ((List.drop_suffix _ _).trans hinput) trivial (h.packet (.publish p))
  | header_nil => exact ⟨hholds, by rwa [List.map_nil, List.append_nil]⟩
  | header_short hheld hwait =>
    exact ⟨hholds.header_short hheld hwait, by rwa [List.map_nil, List.append_nil]⟩
  | header_more _ hread hsize =>
    exact ⟨State.holds_header_more hread hsize, by rwa [List.map_nil, List.append_nil]⟩
  | @header_streams _ _ _ _ _ _ _ p _ hheld hread hused _ ih =>
    have hpayload : p.payload = [] := (Publish.decodeHeader_eq_some_iff.mp hread).2.1
    obtain ⟨done, parts, rfl, hdone, rfl⟩ := h
    refine ih ((List.drop_suffix _ _).trans hinput) (hholds.payload hinput hheld hread hused) ?_
    exact ⟨done, [], rfl, hdone, rfl, Orderly.nil pieces hpayload _, List.forall_mem_nil _⟩
  | payload_none =>
    obtain ⟨_, hmore, _⟩ := hholds
    obtain ⟨done, parts, rfl, hdone, hbrought, horderly, hbefore⟩ := h
    refine ⟨⟨by simpa using Nat.le_of_lt hmore, hmore, List.suffix_refl []⟩, done, parts, ?_⟩
    rw [List.map_nil, List.append_nil]
    exact ⟨rfl, hdone, hbrought, horderly, fun part hpart => Nat.lt_succ_of_lt (hbefore part hpart)⟩
  | payload_ends hdata hsome hend _ ih =>
    obtain ⟨hwithin, hfits⟩ := hholds.data hdata
    have hchunk := h.chunk hpiece hwithin hsome hfits
    rw [if_pos hend] at hchunk
    simpa [emit] using ih ((List.drop_suffix _ _).trans hinput) trivial hchunk
  | payload_goes_on hdata hsome hmore =>
    obtain ⟨hwithin, hfits⟩ := hholds.data hdata
    have hchunk := h.chunk hpiece hwithin hsome hfits
    rw [if_neg hmore] at hchunk
    exact ⟨⟨hfits, Nat.lt_of_le_of_ne hfits hmore, List.suffix_refl []⟩, hchunk⟩
  | start_nil | length_nil | body_short =>
    exact ⟨trivial, by rwa [List.map_nil, List.append_nil]⟩
  | @fails state _ hfails =>
    refine ⟨trivial, ?_⟩
    rw [List.map_nil, List.append_nil]
    cases state with
    | payload => exact absurd hfails run_payload_ne_failed
    | _ => exact h

end

/-! ### Many pieces -/

theorem accounted_feedEach {limit : Nat} {front back : List Bytes} {state : State}
    {items : List (Nat × DecodedItem)} (hholds : state.Holds [] [])
    (h : Accounted (front ++ back) front.length state items) :
    Accounted (front ++ back) (front ++ back).length
      ((Decoder.mk limit state).feedEach back).1.state
      (items ++ numbered front.length ((Decoder.mk limit state).feedEach back).2) := by
  induction back generalizing front state items with
  | nil => simpa [feedEach, numbered] using h
  | cons piece back ih =>
    have hpiece : (front ++ piece :: back)[front.length]? = some piece := by simp
    obtain ⟨hholds', h'⟩ := (runs limit state piece).accounted hpiece (List.suffix_refl piece)
      (hholds.refill piece) h
    have hmove : front ++ piece :: back = front ++ [piece] ++ back := by simp
    have hcount : front.length + 1 = (front ++ [piece]).length := by simp
    rw [hmove, hcount] at h'
    rw [hmove, feedEach_cons, feed_eq, numbered, ← List.append_assoc, hcount]
    exact ih hholds' h'

/-- Everything that a decoder delivers comes in parcels, one after the other: a packet, or the
chunks of one long message, which are not empty, agree in header and total, follow each other from
the offset 0 without a gap, and are each cut out of another piece. A message is complete before
anything else is delivered. There is one parcel for each packet in the bytes. -/
theorem chunks_follow_each_other (limit : Nat) (pieces : List Bytes) :
    ∃ parcels : List Parcel,
      numbered 0 ((Decoder.new limit).feedEach pieces).2 = parcels.flatMap Parcel.items
      ∧ (∀ parcel ∈ parcels, parcel.IsOrderly pieces)
      ∧ (∀ parcel ∈ parcels.dropLast, parcel.IsComplete)
      ∧ parcels.map Parcel.whole = (run limit .start pieces.flatten).2
      ∧ ∀ frames rest, pieces.flatten = frames.flatMap Frame.bytes ++ rest →
        (∀ f ∈ frames, f.IsPublish ∨ f.body.length ≤ limit) → (∀ f ∈ frames, ¬ f.IsMalformed) →
        (parcels.take frames.length).map Parcel.whole = Frame.items limit frames := by
  have hempty : Accounted pieces 0 .start [] := ⟨[], [], rfl, List.forall_mem_nil _, rfl⟩
  have hall := @accounted_feedEach limit [] pieces .start [] trivial hempty
  rw [List.nil_append, List.nil_append, List.length_nil] at hall
  obtain ⟨parcels, hitems, horderly, hcomplete⟩ := hall.parcels
  have hnew : Decoder.new limit = ⟨limit, .start⟩ := rfl
  rw [← hnew] at hitems
  have hwhole : parcels.map Parcel.whole = (run limit .start pieces.flatten).2 := by
    rw [← Parcel.joined_flatMap_items horderly, ← hitems, map_snd_numbered,
      (feedEach_new limit pieces).2]
    exact DecodedItem.joined_of_begins ((runs limit .start pieces.flatten).begins trivial)
  refine ⟨parcels, hitems, horderly, hcomplete, hwhole, ?_⟩
  intro frames rest hstream hfits hgood
  rw [List.map_take, hwhole, hstream, run_frames_append hfits hgood,
    ← @Frame.length_items limit frames hgood]
  exact List.take_left

/-- A CONNACK, and a message that is cut inside its length, its topic and its payload. -/
example : numbered 0 ((Decoder.new 2).feedEach
      [[32], [2, 0, 0, 50, 8, 0], [1, 97, 0, 5, 1], [], [2, 3, 32]]).2 =
    [Parcel.packet 1 (.connack false .accepted),
      .message ⟨5, "a", .atLeastOnce, false, false, []⟩ 3 [⟨2, [1]⟩, ⟨4, [2, 3]⟩]].flatMap
        Parcel.items := by
  decide +kernel

end Mqtt.Decoder
