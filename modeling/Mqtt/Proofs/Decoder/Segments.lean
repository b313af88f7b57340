import Mqtt.Proofs.Decoder.Joining
import Mqtt.Proofs.Decoder.Runs

/-!
How the inbound bytes are cut into pieces does not matter: feeding the pieces one after the other
ends in the same state as feeding them at once, and delivers the same once chunks are joined.
-/

namespace Mqtt.Decoder
set_option autoImplicit false
open DecodedItem (joined)

variable {limit : Nat}

/-! ### Two pieces -/

/-- The same state, and the same items once chunks are joined. -/
def Agrees (r r' : State × List DecodedItem) : Prop := r.1 = r'.1 ∧ joined r.2 = joined r'.2

/-- A result, and then that of the next piece. -/
def followedBy (limit : Nat) (r : State × List DecodedItem) (next : Bytes) :
    State × List DecodedItem :=
  ((run limit r.1 next).1, r.2 ++ (run limit r.1 next).2)

/-- Whatever comes after this input may as well have come together with it. -/
def Splits (limit : Nat) (state : State) (input : Bytes) : Prop :=
  ∀ next, Agrees (run limit state (input ++ next)) (followedBy limit (run limit state input) next)

theorem agrees_of_eq {r r' : State × List DecodedItem} (h : r = r') : Agrees r r' := by
  subst h
  exact ⟨rfl, rfl⟩

theorem Agrees.emit {r r' : State × List DecodedItem} (h : Agrees r r') (item : DecodedItem) :
    Agrees (emit item r) (emit item r') :=
  ⟨h.1, DecodedItem.joined_cons_congr item h.2⟩

/-- Input that leaves the state as it is and completes nothing. -/
theorem splits_of_eq {state state' : State} {input : Bytes}
    (h : run limit state input = (state', []))
    (hnext : ∀ next, run limit state (input ++ next) = run limit state' next) :
    Splits limit state input := by
  intro next
  rw [h]
  exact agrees_of_eq (hnext next)

theorem splits_of_failed {state : State} {input : Bytes}
    (h : ∀ next, run limit state (input ++ next) = (.failed, [])) : Splits limit state input := by
  have hinput := h []
  rw [List.append_nil] at hinput
  refine splits_of_eq hinput fun next => ?_
  rw [h next, run_failed]

/-- A step that takes bytes off the input and goes on in another state. -/
theorem splits_of_step {state state' : State} {input rest : Bytes} (ih : Splits limit state' rest)
    (h : ∀ next, run limit state (input ++ next) = run limit state' (rest ++ next)) :
    Splits limit state input := by
  intro next
  have hinput := h []
  rw [List.append_nil, List.append_nil] at hinput
  rw [h next, hinput]
  exact ih next

/-- A step that completes an item before it goes on. -/
theorem splits_of_emit {state state' : State} {input rest : Bytes} (item : DecodedItem)
    (ih : Splits limit state' rest)
    (h : ∀ next, run limit state (input ++ next) = emit item (run limit state' (rest ++ next))) :
    Splits limit state input := by
  intro next
  have hinput := h []
  rw [List.append_nil, List.append_nil] at hinput
  rw [h next, hinput]
  exact (ih next).emit item

theorem splits_length {first b : UInt8} {seen rest : Bytes}
    (ih : ∀ state, Splits limit state rest) : Splits limit (.length first seen) (b :: rest) := by
  by_cases hvalue : ∃ n left, VarLength.decode (seen ++ [b]) = .ok (.value n left)
  · obtain ⟨n, left, hvalue⟩ := hvalue
    have hstep := fun next => @run_length_value limit first b seen (rest ++ next) left n hvalue
    by_cases hsmall : n ≤ limit
    · refine splits_of_step (ih (.body first n .empty)) fun next => ?_
      rw [List.cons_append, hstep, if_pos hsmall]
    · by_cases hpublish : first >>> 4 = 3
      · refine splits_of_step (ih (.header first n 0 .empty)) fun next => ?_
        rw [List.cons_append, hstep, if_neg hsmall, if_pos hpublish]
      · refine splits_of_failed fun next => ?_
        rw [List.cons_append, hstep, if_neg hsmall, if_neg hpublish]
  · have hmore : ∀ n left, VarLength.decode (seen ++ [b]) ≠ .ok (.value n left) :=
      fun n left hdecode => hvalue ⟨n, left, hdecode⟩
    have hstep := fun next => @run_length_more limit first b seen (rest ++ next) hmore
    by_cases hlong : 4 ≤ seen.length + 1
    · refine splits_of_failed fun next => ?_
      rw [List.cons_append, hstep, if_pos hlong]
    · refine splits_of_step (ih (.length first (seen ++ [b]))) fun next => ?_
      rw [List.cons_append, hstep, if_neg hlong]

theorem run_body_append {first : UInt8} {size : Nat} {held : Gathered} {input : Bytes}
    (h : input.length < size - held.size) (next : Bytes) :
    run limit (.body first size held) (input ++ next) =
      run limit (.body first size (held.append input)) next := by
  have hneed : size - held.size = input.length + (size - (held.size + input.length)) := by omega
  have hlength : (input ++ next).length = input.length + next.length := List.length_append
  by_cases hshort : next.length < size - (held.size + input.length)
  · rw [run_body_short (by omega), run_body_short hshort, Gathered.append_append]
  · have hfull : size - (held.size + input.length) ≤ next.length := Nat.le_of_not_lt hshort
    rw [run_body_full (by omega), run_body_full hfull, Gathered.size_append, Gathered.toList_append,
      hneed, List.take_length_add_append, List.drop_length_add_append, List.append_assoc]

theorem splits_body {first : UInt8} {size : Nat} {held : Gathered} {input : Bytes}
    (ih : Splits limit .start (input.drop (size - held.size))) :
    Splits limit (.body first size held) input := by
  by_cases hshort : input.length < size - held.size
  · refine splits_of_eq (run_body_short hshort) fun next => ?_
    exact run_body_append hshort next
  · have hfull : size - held.size ≤ input.length := Nat.le_of_not_lt hshort
    have htake := fun next => @List.take_append_of_le_length _ _ next _ hfull
    have hdrop := fun next => @List.drop_append_of_le_length _ _ next _ hfull
    have hstep := fun next => @run_body_full limit first size held (input ++ next) (by
      rw [List.length_append]
      omega)
    cases hdecode : Packet.decode first (held.toList ++ input.take (size - held.size)) with
    | ok p =>
      refine splits_of_emit (.packet p) ih fun next => ?_
      rw [hstep, htake, hdecode, hdrop]
    | error e =>
      refine splits_of_failed fun next => ?_
      rw [hstep, htake, hdecode]

/-- Bytes that came with the header count as input when they are part of the payload. -/
theorem run_payload_append {p : Publish} {total delivered : Nat} {held front : Bytes}
    (h : delivered + held.length + front.length ≤ total) (next : Bytes) :
    run limit (.payload p total delivered (held ++ front)) next =
      run limit (.payload p total delivered held) (front ++ next) := by
  have hwanted : total - delivered - held.length =
      front.length + (total - delivered - (held ++ front).length) := by
    rw [List.length_append]
    omega
  have hdata : held ++ (front ++ next).take (total - delivered - held.length) =
      held ++ front ++ next.take (total - delivered - (held ++ front).length) := by
    rw [hwanted, List.take_length_add_append, List.append_assoc]
  by_cases hempty : held ++ front ++ next.take (total - delivered - (held ++ front).length) = []
  · rw [run_payload_none hempty, run_payload_none (hdata.trans hempty)]
  · rw [run_payload_some rfl hempty, run_payload_some hdata hempty, hwanted,
      List.drop_length_add_append]

/-- Two chunks in a row, or one chunk with the data of both. -/
theorem agrees_emit_extend {c d : Chunk} (h : c.ContinuedBy d) (r : State × List DecodedItem) :
    Agrees (emit (.chunk (c.extend d)) r) (emit (.chunk c) (emit (.chunk d) r)) :=
  ⟨rfl, (DecodedItem.joinTo_joinTo h (joined r.2)).symm⟩

/-- Payload that ends within the message: the next piece goes on with it. -/
theorem splits_payload_short {p : Publish} {total delivered : Nat} {held input : Bytes}
    (h : input.length < total - delivered - held.length) :
    Splits limit (.payload p total delivered held) input := by
  have htake : input.take (total - delivered - held.length) = input :=
    List.take_of_length_le (Nat.le_of_lt h)
  have hwanted : total - delivered - held.length =
      input.length + (total - (delivered + (held ++ input).length)) := by
    rw [List.length_append]
    omega
  have hdata : ∀ next, held ++ (input ++ next).take (total - delivered - held.length) =
      held ++ input ++ next.take (total - (delivered + (held ++ input).length)) := by
    intro next
    rw [hwanted, List.take_length_add_append, List.append_assoc]
  by_cases hempty : held ++ input = []
  · obtain ⟨rfl, rfl⟩ := List.append_eq_nil_iff.mp hempty
    exact splits_of_eq (run_payload_none (by simp)) fun next => rfl
  · have hdone : ¬ delivered + (held ++ input).length = total := by
      rw [List.length_append]
      omega
    have hinput := @run_payload_some limit p total delivered held input _
      (congrArg (held ++ ·) htake) hempty
    rw [if_neg hdone] at hinput
    intro next
    by_cases hnext : next.take (total - (delivered + (held ++ input).length)) = []
    · have hstay : run limit (.payload p total (delivered + (held ++ input).length) []) next = _ :=
        run_payload_none hnext
      have hboth := (hdata next).trans (congrArg (held ++ input ++ ·) hnext)
      rw [List.append_nil] at hboth
      rw [run_payload_some hboth hempty, if_neg hdone, hinput]
      unfold followedBy emit
      rw [hstay]
      exact agrees_of_eq rfl
    · have hgo : run limit (.payload p total (delivered + (held ++ input).length) []) next = _ :=
        run_payload_some rfl hnext
      have hboth : held ++ input ++ next.take (total - (delivered + (held ++ input).length)) ≠ [] :=
        fun hnil => hempty (List.append_eq_nil_iff.mp hnil).1
      rw [run_payload_some (hdata next) hboth, hinput]
      have hfollowed : ∀ c r, followedBy limit (emit c r) next = emit c (followedBy limit r next) :=
        fun _ _ => rfl
      rw [hfollowed]
      unfold followedBy
      have hlength := @List.length_append _ (held ++ input)
        (next.take (total - (delivered + (held ++ input).length)))
      rw [hgo, hwanted, List.drop_length_add_append, hlength, ← Nat.add_assoc]
      have hcontinued : Chunk.ContinuedBy ⟨p, held ++ input, delivered, total⟩
          ⟨p, next.take (total - (delivered + (held ++ input).length)),
            delivered + (held ++ input).length, total⟩ := ⟨rfl, rfl, rfl⟩
      exact agrees_emit_extend hcontinued _

theorem splits_payload {p : Publish} {total delivered : Nat} {held input : Bytes}
    (ih : Splits limit .start (input.drop (total - delivered - held.length))) :
    Splits limit (.payload p total delivered held) input := by
  by_cases hfull : total - delivered - held.length ≤ input.length
  · have htake := fun next => @List.take_append_of_le_length _ input next _ hfull
    have hdrop := fun next => @List.drop_append_of_le_length _ input next _ hfull
    by_cases hempty : held ++ input.take (total - delivered - held.length) = []
    · refine splits_of_eq (run_payload_none hempty) fun next => ?_
      have hboth := (congrArg (held ++ ·) (htake next)).trans hempty
      obtain ⟨rfl, hnil⟩ := List.append_eq_nil_iff.mp hempty
      rw [List.length_nil, Nat.sub_zero] at hfull hnil
      have hnone : total - delivered = 0 := by
        have hlength := congrArg List.length hnil
        rw [List.length_take, List.length_nil] at hlength
        omega
      rw [run_payload_none hboth, run_payload_none]
      rw [hnone]
      rfl
    · have hstep := fun next => @run_payload_some limit p total delivered held (input ++ next) _
        (congrArg (held ++ ·) (htake next)) hempty
      by_cases hdone : delivered + (held ++ input.take (total - delivered - held.length)).length = total
      · refine splits_of_emit
          (.chunk ⟨p, held ++ input.take (total - delivered - held.length), delivered, total⟩) ih
          fun next => ?_
        rw [hstep, if_pos hdone, hdrop]
      · intro next
        have hinput := hstep []
        rw [List.append_nil, if_neg hdone] at hinput
        rw [hstep, if_neg hdone, hinput]
        unfold followedBy emit
        rw [run_payload_none]
        · exact agrees_of_eq rfl
        · have hover : total -
              (delivered + (held ++ input.take (total - delivered - held.length)).length) = 0 := by
            rw [List.length_append, List.length_take] at hdone ⊢
            omega
          rw [hover]
          rfl
  · exact splits_payload_short (Nat.lt_of_not_le hfull)

/-- Bytes that do not complete a header leave it to be read as if they were never looked at. -/
theorem readHeader_of_none {first : UInt8} {size wanted : Nat} {held : Gathered}
    (hready : ¬ held.size < min wanted size)
    (hnone : Publish.decodeHeader first held.toList = .ok none) (more rest : Bytes) :
    readHeader limit first size (Publish.headerSize first held.toList) (held.append more) rest =
      readHeader limit first size wanted (held.append more) rest := by
  have hready' : ¬ (held.append more).size < min wanted size := by
    rw [Gathered.size_append]
    omega
  unfold readHeader
  rw [if_neg hready']
  by_cases hwait : (held.append more).size < min (Publish.headerSize first held.toList) size
  · have hshort : (held.toList ++ more).length < Publish.headerSize first held.toList := by
      rw [← Gathered.toList_append, ← Gathered.size_eq_length_toList]
      omega
    obtain ⟨hsize, hnone'⟩ := Publish.decodeHeader_append_of_none hnone hshort
    rw [if_pos hwait, Gathered.toList_append, hnone', hsize]
    dsimp only
    rw [if_neg (by omega)]
  · rw [if_neg hwait]

theorem splits_header_short {first : UInt8} {size wanted : Nat} {held : Gathered} {input : Bytes}
    (hinput : input ≠ []) (h : input.length < size - held.size)
    (ih : ∀ p total held', Splits limit (.payload p total 0 held') []) :
    Splits limit (.header first size wanted held) input := by
  have hneed : size - held.size = input.length + (size - (held.append input).size) := by
    rw [Gathered.size_append]
    omega
  have hsmall : (held.append input).size < size := by
    rw [Gathered.size_append]
    omega
  have hstep : ∀ next, run limit (.header first size wanted held) (input ++ next) =
      readHeader limit first size wanted
        ((held.append input).append (next.take (size - (held.append input).size)))
        (next.drop (size - (held.append input).size)) := by
    intro next
    rw [run_header (List.append_ne_nil_of_left_ne_nil hinput next), hneed,
      List.take_length_add_append, List.drop_length_add_append, Gathered.append_append]
  have hfirst := hstep []
  rw [List.append_nil, List.take_nil, List.drop_nil, Gathered.append_nil] at hfirst
  by_cases hwait : (held.append input).size < min wanted size
  · have hstay : readHeader limit first size wanted (held.append input) [] = _ := if_pos hwait
    refine splits_of_eq (hfirst.trans hstay) fun next => ?_
    by_cases hnext : next = []
    · rw [hnext, List.append_nil, hfirst, hstay, run_header_nil]
    · rw [hstep, run_header hnext]
  · cases hdecode : Publish.decodeHeader first (held.append input).toList with
    | error e =>
      refine splits_of_failed fun next => ?_
      obtain ⟨e', he'⟩ := Publish.decodeHeader_append_of_error hdecode
        (next.take (size - (held.append input).size))
      rw [hstep]
      unfold readHeader
      rw [Gathered.toList_append _ (next.take _), he', if_neg]
      rw [Gathered.size_append _ (next.take _)]
      omega
    | ok r =>
      cases r with
      | none =>
        have hstay : readHeader limit first size wanted (held.append input) [] =
            (.header first size (Publish.headerSize first (held.append input).toList)
              (held.append input), []) := by
          unfold readHeader
          rw [if_neg hwait, hdecode]
          exact if_neg (Nat.not_le.mpr hsmall)
        refine splits_of_eq (hfirst.trans hstay) fun next => ?_
        by_cases hnext : next = []
        · rw [hnext, List.append_nil, hfirst, hstay, run_header_nil]
        · rw [hstep, run_header hnext, readHeader_of_none hwait hdecode]
      | some r =>
        obtain ⟨p, used⟩ := r
        obtain ⟨_, _, _, hused, _, hspells⟩ := Publish.decodeHeader_eq_some_iff.mp hdecode
        have hlen : used ≤ (held.append input).size := by
          rw [hused, Gathered.size_eq_length_toList]
          exact Publish.headerLength_le_of_spells hspells
        refine splits_of_step (ih p (size - used) ((held.append input).toList.drop used))
          fun next => ?_
        have hready : ¬ ((held.append input).append
            (next.take (size - (held.append input).size))).size < min wanted size := by
          rw [Gathered.size_append _ (next.take _)]
          omega
        rw [hstep]
        unfold readHeader
        rw [if_neg hready, Gathered.toList_append _ (next.take _),
          Publish.decodeHeader_append_of_some hdecode]
        dsimp only
        rw [if_neg (by omega), if_neg (by omega), List.drop_append_of_le_length,
          run_payload_append, List.take_append_drop]
        · rfl
        · rw [List.length_drop, List.length_take, ← Gathered.size_eq_length_toList]
          omega
        · rw [← Gathered.size_eq_length_toList]
          exact hlen

theorem splits_header {first : UInt8} {size wanted : Nat} {held : Gathered} {input : Bytes}
    (ihStart : Splits limit .start (input.drop (size - held.size)))
    (ihPayload : ∀ p total held',
      Splits limit (.payload p total 0 held') (input.drop (size - held.size))) :
    Splits limit (.header first size wanted held) input := by
  by_cases hinput : input = []
  · subst hinput
    exact splits_of_eq run_header_nil fun next => rfl
  by_cases hfull : size - held.size ≤ input.length
  · have hstep : ∀ next, run limit (.header first size wanted held) (input ++ next) =
        readHeader limit first size wanted (held.append (input.take (size - held.size)))
          (input.drop (size - held.size) ++ next) := by
      intro next
      rw [run_header (List.append_ne_nil_of_left_ne_nil hinput next),
        List.take_append_of_le_length hfull, List.drop_append_of_le_length hfull]
    have hall : size ≤ (held.append (input.take (size - held.size))).size := by
      rw [Gathered.size_append, List.length_take]
      omega
    have hready : ¬ (held.append (input.take (size - held.size))).size < min wanted size := by omega
    simp only [readHeader, if_neg hready] at hstep
    cases hdecode : Publish.decodeHeader first
        (held.append (input.take (size - held.size))).toList with
    | error e =>
      refine splits_of_failed fun next => ?_
      rw [hstep, hdecode]
    | ok r =>
      cases r with
      | none =>
        refine splits_of_failed fun next => ?_
        rw [hstep, hdecode]
        exact if_pos hall
      | some r =>
        obtain ⟨p, used⟩ := r
        simp only [hdecode] at hstep
        by_cases hover : size < used
        · refine splits_of_failed fun next => ?_
          rw [hstep, if_pos hover]
        by_cases hexact : used = size
        · refine splits_of_emit (.packet (.publish p)) ihStart fun next => ?_
          rw [hstep, if_neg hover, if_pos hexact]
        · refine splits_of_step (ihPayload p (size - used)
            ((held.append (input.take (size - held.size))).toList.drop used)) fun next => ?_
          rw [hstep, if_neg hover, if_neg hexact]
  · have hshort : input.length < size - held.size := Nat.lt_of_not_le hfull
    rw [List.drop_eq_nil_of_le (Nat.le_of_lt hshort)] at ihPayload
    exact splits_header_short hinput hshort ihPayload

/-- Bytes may be cut anywhere. -/
theorem splits (state : State) (input : Bytes) : Splits limit state input := by
  induction state, input using run_induction with
  | start_nil => exact splits_of_eq run_start_nil fun next => rfl
  | start_cons b rest ih => exact splits_of_step ih fun next => run_start_cons b _
  | length_nil first seen => exact splits_of_eq (run_length_nil first seen) fun next => rfl
  | length_cons first seen b rest ih => exact splits_length ih
  | body first size held input ih => exact splits_body ih
  | header first size wanted held input ihStart ihPayload =>
    exact splits_header ihStart ihPayload
  | payload p total delivered held input ih => exact splits_payload ih
  | failed input => exact splits_of_failed fun next => run_failed _

/-! ### Many pieces -/

/-- Whether the bytes were good, told from the state they lead to. -/
def verdict (state : State) : Except Error Unit :=
  if state = .failed then .error .malformedPacket else .ok ()

theorem feed_eq (d : Decoder) (input : Bytes) :
    d.feed input =
      ({ d with state := (run d.limit d.state input).1 }, (run d.limit d.state input).2,
        verdict (run d.limit d.state input).1) := rfl

/-- Feeding pieces after some input, where the whole input was taken in without an error. -/
theorem feedAll_after {state : State} {before : Bytes}
    (hgood : (run limit state before).1 ≠ .failed) (pieces : List Bytes) :
    ∃ items, (Decoder.mk limit (run limit state before).1).feedAll pieces =
        (⟨limit, (run limit state (before ++ pieces.flatten)).1⟩, items,
          verdict (run limit state (before ++ pieces.flatten)).1)
      ∧ joined ((run limit state before).2 ++ items) =
        joined (run limit state (before ++ pieces.flatten)).2 := by
  induction pieces generalizing before with
  | nil =>
    rw [List.flatten_nil, List.append_nil]
    refine ⟨[], ?_, by rw [List.append_nil]⟩
    rw [feedAll, verdict, if_neg hgood]
  | cons piece pieces ih =>
    obtain ⟨hstate, hitems⟩ := @splits limit state before piece
    unfold followedBy at hstate hitems
    dsimp only at hstate hitems
    rw [List.flatten_cons, ← List.append_assoc]
    rw [feedAll, feed_eq]
    dsimp only
    rw [← hstate]
    by_cases hfailed : (run limit state (before ++ piece)).1 = .failed
    · -- The decoder stops here, and `run` delivers nothing more.
      obtain ⟨hstate', hitems'⟩ := @splits limit state (before ++ piece) pieces.flatten
      unfold followedBy at hstate' hitems'
      rw [hfailed, run_failed] at hstate' hitems'
      dsimp only at hstate' hitems'
      rw [List.append_nil] at hitems'
      refine ⟨_, ?_, hitems.symm.trans hitems'.symm⟩
      rw [hstate', hfailed]
      rfl
    · obtain ⟨items, hfeed, hjoined⟩ := ih hfailed
      have hok : verdict (run limit state (before ++ piece)).1 = .ok () := if_neg hfailed
      refine ⟨(run limit (run limit state before).1 piece).2 ++ items, ?_, ?_⟩
      · rw [hok]
        dsimp only
        rw [hfeed]
      · rw [← hjoined, ← List.append_assoc]
        exact DecodedItem.joined_congr_append hitems.symm items

/-- Feeding pieces comes to the same as feeding them as one. -/
theorem feedAll_new (limit : Nat) (pieces : List Bytes) :
    ∃ items, (Decoder.new limit).feedAll pieces =
        (⟨limit, (run limit .start pieces.flatten).1⟩, items,
          verdict (run limit .start pieces.flatten).1)
      ∧ joined items = joined (run limit .start pieces.flatten).2 := by
  have hgood : (run limit .start []).1 ≠ .failed := by
    rw [run_start_nil]
    exact State.noConfusion
  have h := feedAll_after hgood pieces
  rw [run_start_nil] at h
  exact h

section
variable {d : Decoder} {items : List DecodedItem}

theorem feedAll_cons_of_ok {d₁ : Decoder} {piece : Bytes}
    (h : d.feed piece = (d₁, items, .ok ())) (pieces : List Bytes) :
    d.feedAll (piece :: pieces) =
      ((d₁.feedAll pieces).1, items ++ (d₁.feedAll pieces).2.1, (d₁.feedAll pieces).2.2) := by
  rw [feedAll, h]

theorem feedAll_cons_of_error {d₁ : Decoder} {piece : Bytes} {e : Error}
    (h : d.feed piece = (d₁, items, .error e)) (pieces : List Bytes) :
    d.feedAll (piece :: pieces) = (d₁, items, .error e) := by
  rw [feedAll, h]

/-- Pieces that come after good ones follow them; after an error nothing follows. -/
theorem feedAll_append (d : Decoder) (front back : List Bytes) :
    ((∃ e, (d.feedAll front).2.2 = .error e) ∧ d.feedAll (front ++ back) = d.feedAll front)
      ∨ (d.feedAll front).2.2 = .ok ()
        ∧ d.feedAll (front ++ back) = (((d.feedAll front).1.feedAll back).1,
          (d.feedAll front).2.1 ++ ((d.feedAll front).1.feedAll back).2.1,
          ((d.feedAll front).1.feedAll back).2.2) := by
  induction front generalizing d with
  | nil => exact .inr ⟨rfl, rfl⟩
  | cons piece front ih =>
    rw [List.cons_append]
    cases hfeed : d.feed piece with
    | mk d₁ r =>
      obtain ⟨items, result⟩ := r
      cases result with
      | error e =>
        rw [feedAll_cons_of_error hfeed, feedAll_cons_of_error hfeed]
        exact .inl ⟨⟨e, rfl⟩, rfl⟩
      | ok u =>
        rw [feedAll_cons_of_ok hfeed, feedAll_cons_of_ok hfeed]
        rcases ih d₁ with ⟨herror, heq⟩ | ⟨hok, heq⟩
        · exact .inl ⟨herror, by rw [heq]⟩
        · exact .inr ⟨hok, by rw [heq, List.append_assoc]⟩

/-- More input adds to the items and takes none back. -/
theorem items_feedAll_append (d : Decoder) (front back : List Bytes) :
    ∃ more, (d.feedAll (front ++ back)).2.1 = (d.feedAll front).2.1 ++ more := by
  rcases feedAll_append d front back with ⟨_, heq⟩ | ⟨_, heq⟩
  · exact ⟨[], by rw [heq, List.append_nil]⟩
  · exact ⟨_, by rw [heq]⟩

theorem feedAll_concat {d' : Decoder} {items : List DecodedItem} {front : List Bytes}
    {piece : Bytes} (h : d.feedAll front = (d', items, .ok ()))
    (hpiece : (d'.feed piece).2.2 = .ok ()) : d.feedAll (front ++ [piece]) =
      ((d'.feed piece).1, items ++ (d'.feed piece).2.1, .ok ()) := by
  have hfeed : d'.feed piece = ((d'.feed piece).1, (d'.feed piece).2.1, .ok ()) := by
    rw [← hpiece]
  have hone : d'.feedAll [piece] = ((d'.feed piece).1, (d'.feed piece).2.1 ++ [], .ok ()) :=
    feedAll_cons_of_ok hfeed []
  rcases feedAll_append d front [piece] with ⟨⟨e, herror⟩, _⟩ | ⟨_, heq⟩
  · rw [h] at herror
    cases herror
  · rw [heq, h, hone, List.append_nil]

end

end Mqtt.Decoder
