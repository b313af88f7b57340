import Mqtt.Proofs.Decoder.RoundTrip

/-!
Calls of a decoder one after the other, on any bytes at all. However the bytes are cut, the calls
come to an error or not, and deliver the same. After an error they deliver nothing, until a reset
makes the decoder a new one.
-/

namespace Mqtt.Decoder
set_option autoImplicit false
open DecodedItem (joined)

variable {limit : Nat}

/-- The items that a call completes, and whether the bytes were good. -/
abbrev Answer := List DecodedItem × Except Error Unit

/-- Feeds every piece, also after an error. -/
def feedEach (d : Decoder) : List Bytes → Decoder × List Answer
  | [] => (d, [])
  | piece :: pieces =>
    let (d', answer) := d.feed piece
    let (d'', answers) := d'.feedEach pieces
    (d'', answer :: answers)

def delivered (answers : List Answer) : List DecodedItem := answers.flatMap Prod.fst

def Complains (answers : List Answer) : Prop := ∃ answer ∈ answers, ∃ e, answer.2 = .error e

theorem feedEach_cons (d : Decoder) (piece : Bytes) (pieces : List Bytes) :
    d.feedEach (piece :: pieces) =
      (((d.feed piece).1.feedEach pieces).1,
        (d.feed piece).2 :: ((d.feed piece).1.feedEach pieces).2) := rfl

theorem delivered_cons (answer : Answer) (answers : List Answer) :
    delivered (answer :: answers) = answer.1 ++ delivered answers := rfl

theorem verdict_eq_error_iff {state : State} :
    (∃ e, verdict state = .error e) ↔ state = .failed := by
  unfold verdict
  constructor
  · intro ⟨e, he⟩
    split at he
    · assumption
    · cases he
  · intro h
    exact ⟨.malformedPacket, if_pos h⟩

/-- The pieces after some input come to what all of the input comes to at once. -/
theorem feedEach_after (state : State) (before : Bytes) (pieces : List Bytes) :
    ((Decoder.mk limit (run limit state before).1).feedEach pieces).1 =
        ⟨limit, (run limit state (before ++ pieces.flatten)).1⟩
      ∧ joined ((run limit state before).2 ++
          delivered ((Decoder.mk limit (run limit state before).1).feedEach pieces).2) =
        joined (run limit state (before ++ pieces.flatten)).2 := by
  induction pieces generalizing before with
  | nil =>
    rw [List.flatten_nil, List.append_nil]
    exact ⟨rfl, congrArg joined (List.append_nil _)⟩
  | cons piece pieces ih =>
    obtain ⟨hstate, hitems⟩ := @splits limit state before piece
    unfold followedBy at hstate hitems
    dsimp only at hstate hitems
    obtain ⟨hlast, hjoined⟩ := ih (before ++ piece)
    rw [List.flatten_cons, ← List.append_assoc, feedEach_cons, feed_eq]
    dsimp only
    rw [← hstate, delivered_cons, ← List.append_assoc]
    refine ⟨hlast, ?_⟩
    rw [← hjoined]
    exact DecodedItem.joined_congr_append hitems.symm _

theorem feedEach_of_failed (limit : Nat) (pieces : List Bytes) :
    (Decoder.mk limit .failed).feedEach pieces =
      (⟨limit, .failed⟩, pieces.map fun _ => ([], .error .malformedPacket)) := by
  induction pieces with
  | nil => rfl
  | cons piece pieces ih =>
    rw [feedEach_cons, feed_eq]
    dsimp only
    rw [run_failed, ih]
    rfl

theorem complains_iff {d : Decoder} (hd : d.state ≠ .failed) (pieces : List Bytes) :
    Complains (d.feedEach pieces).2 ↔ (d.feedEach pieces).1.state = .failed := by
  induction pieces generalizing d with
  | nil =>
    constructor
    · intro ⟨answer, hanswer, _⟩
      cases hanswer
    · intro h
      exact absurd h hd
  | cons piece pieces ih =>
    have hanswer : Complains ((d.feed piece).2 :: ((d.feed piece).1.feedEach pieces).2) ↔
        (d.feed piece).1.state = .failed ∨ Complains ((d.feed piece).1.feedEach pieces).2 := by
      have herror : (∃ e, (d.feed piece).2.2 = .error e) ↔ (d.feed piece).1.state = .failed :=
        verdict_eq_error_iff
      unfold Complains
      simp only [List.mem_cons, exists_eq_or_imp, herror]
    rw [feedEach_cons]
    dsimp only
    rw [hanswer]
    by_cases hfailed : (d.feed piece).1.state = .failed
    · have hstays := feedEach_of_failed (d.feed piece).1.limit pieces
      rw [← hfailed] at hstays
      have hlast : ((d.feed piece).1.feedEach pieces).1.state = .failed := by
        rw [show (d.feed piece).1 = ⟨(d.feed piece).1.limit, (d.feed piece).1.state⟩ from rfl,
          hstays]
        exact hfailed
      exact iff_of_true (.inl hfailed) hlast
    · rw [ih hfailed]
      constructor
      · intro h
        exact h.resolve_left hfailed
      · exact .inr

/-! ### What a message is delivered as -/

namespace State

/-- Nothing of the payload that this state waits for has been delivered. -/
def Untouched : State → Prop
  | header _ size _ held => held.size ≤ size
  | payload _ total delivered held => delivered = 0 ∧ held.length ≤ total
  | _ => True

end State

/-- The payload bytes that have come are no more than the message has. -/
theorem begins_of_untouched {p : Publish} {total delivered : Nat} {held input data : Bytes}
    (h : (State.payload p total delivered held).Untouched)
    (hdata : held ++ input.take (total - delivered - held.length) = data) (hsome : data ≠ []) :
    (Chunk.mk p data delivered total).Begins := by
  obtain ⟨hnone, hheld⟩ := h
  have hlength := congrArg List.length hdata
  rw [List.length_append, List.length_take] at hlength
  refine ⟨hnone, hsome, ?_⟩
  change data.length ≤ total
  omega

theorem Runs.begins {state : State} {input : Bytes} {r : State × List DecodedItem}
    (h : Runs limit state input r) (hstate : state.Untouched) :
    ∀ c, .chunk c ∈ r.2 → c.Begins := by
  induction h with
  | start_cons _ ih | length_more _ _ _ ih | length_body _ _ _ ih => exact ih trivial
  | length_header _ _ _ _ ih => exact ih (Nat.zero_le _)
  | @header_streams _ size _ _ held _ _ _ _ hheld _ _ _ ih =>
    subst hheld
    apply ih
    have hstart : held.size ≤ size := hstate
    refine ⟨rfl, ?_⟩
    rw [List.length_drop, ← Gathered.size_eq_length_toList, Gathered.size_append, List.length_take]
    omega
  | body_whole _ _ _ ih | header_whole _ _ _ ih =>
    intro c hc
    rcases List.mem_cons.mp hc with hc | hc
    · cases hc
    · exact ih trivial c hc
  | payload_ends hdata hsome _ _ ih =>
    intro c hc
    rcases List.mem_cons.mp hc with hc | hc
    · rw [DecodedItem.chunk.inj hc]
      exact begins_of_untouched hstate hdata hsome
    · exact ih trivial c hc
  | payload_goes_on hdata hsome =>
    intro c hc
    rw [DecodedItem.chunk.inj (List.mem_singleton.mp hc)]
    exact begins_of_untouched hstate hdata hsome
  | start_nil | length_nil | body_short | header_nil | header_short | header_more | payload_none
  | fails =>
    intro c hc
    cases hc

/-! ### Streams of any bytes -/

theorem limit_feedEach (d : Decoder) (pieces : List Bytes) :
    (d.feedEach pieces).1.limit = d.limit := by
  induction pieces generalizing d with
  | nil => rfl
  | cons piece pieces ih => exact ih (d.feed piece).1

/-- Two new decoders that are fed the same bytes, each cut in its own way, come to an error or not,
to the same state, and deliver the same: joined, every message is one item. After an error a
decoder answers every call with an error and delivers nothing; a reset makes it a new one. -/
theorem cutting_does_not_matter (limit : Nat) :
    (∀ pieces pieces' : List Bytes, pieces.flatten = pieces'.flatten →
      (Complains ((Decoder.new limit).feedEach pieces).2 ↔
        Complains ((Decoder.new limit).feedEach pieces').2)
      ∧ joined (delivered ((Decoder.new limit).feedEach pieces).2) =
        joined (delivered ((Decoder.new limit).feedEach pieces').2)
      ∧ ((Decoder.new limit).feedEach pieces).1 = ((Decoder.new limit).feedEach pieces').1)
    ∧ ∀ pieces : List Bytes,
      (∀ c, .chunk c ∈ joined (delivered ((Decoder.new limit).feedEach pieces).2) → c.Begins)
      ∧ (Complains ((Decoder.new limit).feedEach pieces).2 → ∀ more : List Bytes,
        (((Decoder.new limit).feedEach pieces).1.feedEach more).2 =
          more.map fun _ => ([], .error .malformedPacket))
      ∧ ((Decoder.new limit).feedEach pieces).1.reset = Decoder.new limit := by
  have hgood : (Decoder.new limit).state ≠ .failed := State.noConfusion
  have hnew : ∀ pieces : List Bytes,
      ((Decoder.new limit).feedEach pieces).1 = ⟨limit, (run limit .start pieces.flatten).1⟩
      ∧ joined (delivered ((Decoder.new limit).feedEach pieces).2) =
        joined (run limit .start pieces.flatten).2 := by
    intro pieces
    have h := @feedEach_after limit .start [] pieces
    rw [run_start_nil] at h
    exact h
  refine ⟨?_, ?_⟩
  · intro pieces pieces' hsame
    obtain ⟨hstate, hitems⟩ := hnew pieces
    obtain ⟨hstate', hitems'⟩ := hnew pieces'
    rw [complains_iff hgood, complains_iff hgood, hstate, hstate', hitems, hitems', hsame]
    exact ⟨Iff.rfl, rfl, rfl⟩
  · intro pieces
    obtain ⟨hstate, hitems⟩ := hnew pieces
    refine ⟨?_, ?_, ?_⟩
    · have hbegins := (runs limit .start pieces.flatten).begins trivial
      rw [hitems, DecodedItem.joined_of_begins hbegins]
      exact hbegins
    · intro hcomplains more
      have hfailed := (complains_iff hgood pieces).mp hcomplains
      rw [hstate] at hfailed ⊢
      dsimp only at hfailed
      rw [hfailed, feedEach_of_failed]
    · unfold reset
      rw [limit_feedEach]
      rfl

/-- A CONNACK, a long message that is streamed, and a byte that begins no packet. -/
theorem cutting_does_not_matter_of_malformed :
    let front : List Bytes := [[32], [2, 0, 0, 50, 8, 0, 1], [], [97, 0, 5, 1, 2], [3, 0xf0, 0]]
    let back : List Bytes := [[32, 2, 0, 0, 50, 8], [0, 1, 97, 0, 5, 1, 2, 3, 0xf0], [0]]
    front.flatten = back.flatten
      ∧ joined (delivered ((Decoder.new 2).feedEach front).2) = [.packet (.connack false .accepted),
          .chunk ⟨⟨5, "a", .atLeastOnce, false, false, []⟩, [1, 2, 3], 0, 3⟩]
      ∧ Complains ((Decoder.new 2).feedEach front).2
      ∧ (((Decoder.new 2).feedEach front).1.feedEach [[32, 2, 0, 0]]).2 =
        [([], .error .malformedPacket)] := by
  intro front back
  have hsame : front.flatten = back.flatten := rfl
  obtain ⟨hcomplains, hjoined, _⟩ := (cutting_does_not_matter 2).1 front back hsame
  have hback : Complains ((Decoder.new 2).feedEach back).2 :=
    ⟨([], .error .malformedPacket), List.mem_of_getLast? (by subst back; decide +kernel),
      .malformedPacket, rfl⟩
  have hfront := hcomplains.mpr hback
  refine ⟨hsame, hjoined.trans ?_, hfront, ?_⟩
  · subst back
    decide +kernel
  · exact ((cutting_does_not_matter 2).2 front).2.1 hfront [[32, 2, 0, 0]]

end Mqtt.Decoder
