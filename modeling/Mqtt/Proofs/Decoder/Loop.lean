import Mqtt.Proofs.Decoder.Machine

/-!
The loop of the decoder over its registers. They fit together after every turn, so no turn faults;
each turn leaves less to do, so the loop ends; and it comes to what the decoder comes to.
-/

namespace Mqtt.Decoder
set_option autoImplicit false

/-! ### Registers in step -/

namespace State

/-- What is known of a state within the loop. A header that is waited for has not come whole, and
nothing can be told of it before as many bytes have come as are wanted. -/
def Sound (limit : Nat) : State → Prop
  | length _ seen => seen.length < 4
  | body _ size held => held.size ≤ size ∧ size ≤ limit
  | header first size wanted held => held.size < size
    ∧ (held.size = 0 ∧ wanted = 0 ∨ Publish.decodeHeader first held.toList = .ok none
      ∧ wanted = Publish.headerSize first held.toList)
  | payload _ total delivered held => delivered + held.length ≤ total
  | _ => True

/-- What is known besides when the loop has ended. -/
def Settled : State → Prop
  | body _ size held => held.size < size
  | payload _ _ _ held => held = []
  | _ => True

end State

namespace Machine

/-- The registers hold what the state says. -/
def Shows (m : Machine) : State → Prop
  | .start => m.mode = .start ∧ m.scratch = []
  | .length first seen => m.mode = .length ∧ m.scratch = seen ∧ m.first = some first
  | .body first size held =>
    m.mode = .body ∧ m.scratch = held.toList ∧ m.first = some first ∧ m.size = some size
  | .header first size _ held =>
    m.mode = .header ∧ m.scratch = held.toList ∧ m.first = some first ∧ m.size = some size
  | .payload p total delivered held =>
    m.mode = .payload ∧ m.scratch = held ∧ m.stream = some ⟨p, total, delivered⟩
  | .failed => m.mode = .failed

end Machine

/-- A result with more items before the others. -/
def emitAll (items : List DecodedItem) (r : State × List DecodedItem) : State × List DecodedItem :=
  (r.1, items ++ r.2)

/-- What a turn comes to is what the decoder does with this input in this state, or a part of it
after which less is left to do. -/
inductive Turn.Advances (limit : Nat) (state : State) (input : Bytes) : Turn → Prop where
  | wait {m : Machine} {items : List DecodedItem} (state' : State)
    (run_eq : run limit state input = (state', items)) (good : state' ≠ .failed)
    (shows : m.Shows state') (sound : state'.Sound limit) (settled : state'.Settled) :
    Advances limit state input (.wait m items)
  | next {m : Machine} {rest : Bytes} {items : List DecodedItem} (state' : State)
    (run_eq : run limit state input = emitAll items (run limit state' rest))
    (shows : m.Shows state') (sound : state'.Sound limit)
    (less : 3 * rest.length + state'.rank < 3 * input.length + state.rank) :
    Advances limit state input (.next m rest items)
  | fail (run_eq : run limit state input = (.failed, [])) : Advances limit state input .fail

namespace Machine

variable {limit : Nat} {m : Machine} {input : Bytes}

/-- The turn does not fault, and gets on as the decoder does. -/
def TurnsAs (limit : Nat) (m : Machine) (state : State) (input : Bytes) : Prop :=
  ∃ t, m.turn limit input = .ok t ∧ t.Advances limit state input

theorem turnsAs_start (hm : m.Shows .start) : TurnsAs limit m .start input := by
  obtain ⟨hmode, hscratch⟩ := hm
  unfold TurnsAs turn
  rw [hmode]
  cases input with
  | nil =>
    exact ⟨_, rfl, .wait .start run_start_nil State.noConfusion ⟨hmode, hscratch⟩ trivial trivial⟩
  | cons b rest =>
    refine ⟨_, rfl, .next (.length b []) (run_start_cons b rest) ⟨rfl, hscratch, rfl⟩
      (Nat.zero_lt_succ 3) ?_⟩
    simp only [State.rank, List.length_cons]
    omega

section
variable {first b : UInt8} {seen rest : Bytes} (hm : m.Shows (.length first seen))
include hm

/-- The length is complete with the next byte, and says where the packet goes. -/
theorem turnsAs_length_value {n : Nat} {left : Bytes}
    (hvalue : VarLength.decode (seen ++ [b]) = .ok (.value n left)) :
    TurnsAs limit m (.length first seen) (b :: rest) := by
  obtain ⟨hmode, rfl, hfirst⟩ := hm
  have hrun := @run_length_value limit first b m.scratch rest left n hvalue
  unfold TurnsAs turn
  rw [hmode]
  dsimp only
  rw [lengthTurn_value hfirst hvalue]
  by_cases hsmall : n ≤ limit
  · rw [if_pos hsmall] at hrun ⊢
    refine ⟨_, rfl, .next (.body first n .empty) hrun ⟨rfl, rfl, hfirst, rfl⟩
      ⟨Nat.zero_le n, hsmall⟩ ?_⟩
    simp only [State.rank, List.length_cons]
    omega
  rw [if_neg hsmall] at hrun ⊢
  by_cases hpublish : first >>> 4 = 3
  · rw [if_pos hpublish] at hrun ⊢
    have hpos : 0 < n := Nat.zero_lt_of_lt (Nat.lt_of_not_le hsmall)
    refine ⟨_, rfl, .next (.header first n 0 .empty) hrun ⟨rfl, rfl, hfirst, rfl⟩
      ⟨hpos, .inl ⟨rfl, rfl⟩⟩ ?_⟩
    simp only [State.rank, List.length_cons]
    omega
  · rw [if_neg hpublish] at hrun ⊢
    exact ⟨_, rfl, .fail hrun⟩

theorem turnsAs_length_more
    (hmore : ∀ n left, VarLength.decode (seen ++ [b]) ≠ .ok (.value n left)) :
    TurnsAs limit m (.length first seen) (b :: rest) := by
  obtain ⟨hmode, rfl, hfirst⟩ := hm
  have hrun := @run_length_more limit first b m.scratch rest hmore
  unfold TurnsAs turn
  rw [hmode]
  dsimp only
  rw [lengthTurn_more hmore]
  by_cases hlong : 4 ≤ m.scratch.length + 1
  · rw [if_pos hlong] at hrun ⊢
    exact ⟨_, rfl, .fail hrun⟩
  rw [if_neg hlong] at hrun ⊢
  have hseen : (State.length first (m.scratch ++ [b])).Sound limit := by
    change (m.scratch ++ [b]).length < 4
    rw [List.length_append, List.length_singleton]
    omega
  cases rest with
  | nil =>
    rw [run_length_nil] at hrun
    exact ⟨_, rfl, .wait _ hrun State.noConfusion ⟨hmode, rfl, hfirst⟩ hseen trivial⟩
  | cons b' rest =>
    refine ⟨_, rfl, .next _ hrun ⟨hmode, rfl, hfirst⟩ hseen ?_⟩
    simp only [State.rank, List.length_cons]
    omega

theorem turnsAs_length (hsound : (State.length first seen).Sound limit) :
    TurnsAs limit m (.length first seen) input := by
  cases input with
  | nil =>
    have hrun := @run_length_nil limit first seen
    obtain ⟨hmode, rfl, hfirst⟩ := hm
    unfold TurnsAs turn
    rw [hmode]
    exact ⟨_, rfl, .wait _ hrun State.noConfusion ⟨hmode, rfl, hfirst⟩ hsound trivial⟩
  | cons b rest =>
    by_cases hvalue : ∃ n left, VarLength.decode (seen ++ [b]) = .ok (.value n left)
    · obtain ⟨n, left, hvalue⟩ := hvalue
      exact turnsAs_length_value hm hvalue
    · exact turnsAs_length_more hm fun n left hdecode => hvalue ⟨n, left, hdecode⟩

end

theorem turnsAs_body {first : UInt8} {size : Nat} {held : Gathered}
    (hm : m.Shows (.body first size held)) (hsound : (State.body first size held).Sound limit) :
    TurnsAs limit m (.body first size held) input := by
  obtain ⟨hmode, hscratch, hfirst, hsize⟩ := hm
  obtain ⟨hfits, hlimit⟩ := hsound
  have hlength : m.scratch.length = held.size := by
    rw [hscratch, held.size_eq_length_toList]
  have hfits' : m.scratch.length ≤ size := hlength ▸ hfits
  unfold TurnsAs turn
  rw [hmode]
  by_cases hshort : input.length < size - held.size
  · have hrest : (held.append input).size < size := by
      rw [Gathered.size_append]
      omega
    refine ⟨_, bodyTurn_short hfirst hsize hfits' (hlength ▸ hshort), ?_⟩
    refine .wait _ (run_body_short hshort) State.noConfusion ⟨hmode, ?_, hfirst, hsize⟩
      ⟨Nat.le_of_lt hrest, hlimit⟩ hrest
    rw [Gathered.toList_append, ← hscratch]
  · have hfull : size - held.size ≤ input.length := Nat.le_of_not_lt hshort
    have hrun := @run_body_full limit first size held input hfull
    have hturn := bodyTurn_full hfirst hsize hfits' (hlength ▸ hfull)
    rw [hlength, hscratch] at hturn
    dsimp only
    rw [hturn]
    cases hdecode : Packet.decode first (held.toList ++ input.take (size - held.size)) with
    | error e =>
      rw [hdecode] at hrun
      exact ⟨_, rfl, .fail hrun⟩
    | ok p =>
      rw [hdecode] at hrun
      refine ⟨_, rfl, .next .start hrun ⟨rfl, rfl⟩ trivial ?_⟩
      simp only [State.rank, List.length_drop]
      omega

/-- How many bytes are wanted only saves looking at a header that is not there. -/
theorem readHeader_eq_of_sound {first : UInt8} {size wanted : Nat} {held : Gathered}
    (hsound : (State.header first size wanted held).Sound limit) (front rest : Bytes) :
    readHeader limit first size wanted (held.append front) rest =
      readHeader limit first size 0 (held.append front) rest := by
  unfold readHeader
  rw [Nat.zero_min, if_neg (Nat.not_lt_zero _)]
  by_cases hwait : (held.append front).size < min wanted size
  · obtain ⟨_, ⟨_, hzero⟩ | ⟨hnone, hwanted⟩⟩ := hsound
    · rw [hzero] at hwait
      omega
    · have hshort : (held.toList ++ front).length < Publish.headerSize first held.toList := by
        rw [← Gathered.toList_append, ← Gathered.size_eq_length_toList]
        omega
      obtain ⟨hsame, hnone'⟩ := Publish.decodeHeader_append_of_none hnone hshort
      rw [if_pos hwait, Gathered.toList_append, hnone', hsame, ← hwanted]
      exact (if_neg (by omega)).symm
  · rw [if_neg hwait]

section
variable {first : UInt8} {size wanted : Nat} {held : Gathered}
  (hm : m.Shows (.header first size wanted held))
  (hsound : (State.header first size wanted held).Sound limit)
include hm hsound

/-- What is made of the bytes that are there after some input, those kept before it included. -/
theorem run_header_of_shows (hinput : input ≠ []) :
    ∃ held' : Gathered, m.scratch ++ input.take (size - m.scratch.length) = held'.toList
      ∧ held'.size ≤ size
      ∧ run limit (.header first size wanted held) input =
        readHeader limit first size 0 held' (input.drop (size - m.scratch.length)) := by
  obtain ⟨_, hscratch, _⟩ := hm
  have hlength : m.scratch.length = held.size := by
    rw [hscratch, held.size_eq_length_toList]
  refine ⟨held.append (input.take (size - held.size)), ?_, ?_, ?_⟩
  · rw [Gathered.toList_append, hlength, hscratch]
  · have hfits : held.size < size := hsound.1
    rw [Gathered.size_append, List.length_take]
    omega
  · rw [run_header hinput, readHeader_eq_of_sound hsound, hlength]

theorem turnsAs_header : TurnsAs limit m (.header first size wanted held) input := by
  by_cases hinput : input = []
  · obtain ⟨hmode, hscratch, hfirst, hsize⟩ := hm
    unfold TurnsAs turn
    rw [hmode, hinput]
    exact ⟨_, headerTurn_nil hfirst hsize, .wait _ run_header_nil State.noConfusion
      ⟨hmode, hscratch, hfirst, hsize⟩ hsound trivial⟩
  obtain ⟨held', hbytes, hall, hrun⟩ := run_header_of_shows hm hsound hinput
  obtain ⟨hmode, hscratch, hfirst, hsize⟩ := hm
  have hfits : m.scratch.length ≤ size := by
    rw [hscratch, ← held.size_eq_length_toList]
    exact Nat.le_of_lt hsound.1
  have hcount : held'.toList.length = held'.size := held'.size_eq_length_toList.symm
  have hless : (input.drop (size - m.scratch.length)).length ≤ input.length := by
    rw [List.length_drop]
    omega
  unfold readHeader at hrun
  rw [Nat.zero_min, if_neg (Nat.not_lt_zero _)] at hrun
  unfold TurnsAs turn
  rw [hmode]
  dsimp only
  cases hdecode : Publish.decodeHeader first held'.toList with
  | error e =>
    rw [hdecode] at hrun
    exact ⟨_, headerTurn_error hfirst hsize hfits hinput hbytes hdecode, .fail hrun⟩
  | ok r =>
    cases r with
    | none =>
      rw [hdecode] at hrun
      rw [headerTurn_none hfirst hsize hfits hinput hbytes hdecode, hcount]
      dsimp only at hrun
      by_cases hover : size ≤ held'.size
      · rw [if_pos hover] at hrun ⊢
        exact ⟨_, rfl, .fail hrun⟩
      · rw [if_neg hover] at hrun ⊢
        exact ⟨_, rfl, .wait _ hrun State.noConfusion ⟨hmode, rfl, hfirst, hsize⟩
          ⟨Nat.lt_of_not_le hover, .inr ⟨hdecode, rfl⟩⟩ trivial⟩
    | some r =>
      obtain ⟨p, used⟩ := r
      obtain ⟨_, _, _, hused, tail, hspells⟩ := Publish.decodeHeader_eq_some_iff.mp hdecode
      have hheader : used ≤ held'.toList.length := by
        rw [hused]
        exact Publish.headerLength_le_of_spells hspells
      have hwhole : used ≤ size := by omega
      rw [hdecode] at hrun
      rw [headerTurn_some hfirst hsize hfits hinput hbytes hdecode hheader hwhole]
      dsimp only at hrun
      rw [if_neg (Nat.not_lt.mpr hwhole)] at hrun
      by_cases hexact : used = size
      · rw [if_pos hexact] at hrun ⊢
        refine ⟨_, rfl, .next .start hrun ⟨rfl, rfl⟩ trivial ?_⟩
        simp only [State.rank]
        omega
      · rw [if_neg hexact] at hrun ⊢
        refine ⟨_, rfl, .next (.payload p (size - used) 0 (held'.toList.drop used)) hrun
          ⟨rfl, rfl, rfl⟩ ?_ ?_⟩
        · change 0 + (held'.toList.drop used).length ≤ size - used
          rw [List.length_drop]
          omega
        · simp only [State.rank]
          omega

end

theorem turnsAs_payload {p : Publish} {total delivered : Nat} {held : Bytes}
    (hm : m.Shows (.payload p total delivered held))
    (hsound : (State.payload p total delivered held).Sound limit) :
    TurnsAs limit m (.payload p total delivered held) input := by
  obtain ⟨hmode, rfl, hstream⟩ := hm
  have hfits : delivered + m.scratch.length ≤ total := hsound
  obtain ⟨data, hdata⟩ : ∃ data,
    m.scratch ++ input.take (total - delivered - m.scratch.length) = data := ⟨_, rfl⟩
  have hlength := congrArg List.length hdata
  rw [List.length_append, List.length_take] at hlength
  unfold TurnsAs turn
  rw [hmode]
  dsimp only
  rw [payloadTurn_eq hstream hfits hdata]
  by_cases hempty : data = []
  · rw [if_pos (List.isEmpty_iff.mpr hempty)]
    refine ⟨_, rfl, .wait _ (run_payload_none (hdata.trans hempty)) State.noConfusion
      ⟨hmode, rfl, hstream⟩ ?_ rfl⟩
    change delivered + 0 ≤ total
    omega
  · have hrun := @run_payload_some limit p total delivered m.scratch input data hdata hempty
    rw [if_neg (fun h => hempty (List.isEmpty_iff.mp h))]
    by_cases hdone : delivered + data.length = total
    · rw [if_pos hdone] at hrun ⊢
      refine ⟨_, rfl, .next .start hrun ⟨rfl, rfl⟩ trivial ?_⟩
      simp only [State.rank, List.length_drop]
      omega
    · rw [if_neg hdone] at hrun ⊢
      refine ⟨_, rfl, .wait _ hrun State.noConfusion ⟨hmode, rfl, rfl⟩ ?_ rfl⟩
      change delivered + data.length + 0 ≤ total
      omega

/-- A turn never faults, and is a part of what the decoder does. -/
theorem turnsAs {state : State} (hm : m.Shows state) (hsound : state.Sound limit) :
    TurnsAs limit m state input := by
  cases state with
  | start => exact turnsAs_start hm
  | length first seen => exact turnsAs_length hm hsound
  | body first size held => exact turnsAs_body hm hsound
  | header first size wanted held => exact turnsAs_header hm hsound
  | payload p total delivered held => exact turnsAs_payload hm hsound
  | failed =>
    have hmode : m.mode = .failed := hm
    unfold TurnsAs turn
    rw [hmode]
    exact ⟨_, rfl, .fail (run_failed input)⟩

/-! ### The loop -/

/-- The loop ends: every turn leaves less to do. -/
theorem loop_eq {turns : Nat} {state : State} (hm : m.Shows state) (hsound : state.Sound limit)
    (hturns : 3 * input.length + state.rank < turns) :
    ∃ m', m.loop limit turns input =
        .ok (m', (run limit state input).2, verdict (run limit state input).1)
      ∧ m'.Shows (run limit state input).1 ∧ (run limit state input).1.Sound limit
      ∧ (run limit state input).1.Settled := by
  induction turns generalizing m state input with
  | zero => cases hturns
  | succ turns ih =>
    obtain ⟨t, ht, hadvances⟩ := @turnsAs limit m input state hm hsound
    unfold loop
    rw [ht, Checked.ok_bind]
    cases hadvances with
    | wait state' hrun hgood hshows hsound' hsettled =>
      rw [hrun]
      refine ⟨_, ?_, hshows, hsound', hsettled⟩
      rw [verdict, if_neg hgood]
      rfl
    | next state' hrun hshows hsound' hless =>
      have hfewer := Nat.lt_of_lt_of_le hless (Nat.le_of_lt_succ hturns)
      obtain ⟨m', hloop, hend⟩ := ih hshows hsound' hfewer
      rw [hrun]
      refine ⟨m', ?_, hend⟩
      dsimp only
      rw [hloop]
      rfl
    | fail hrun =>
      rw [hrun]
      exact ⟨_, rfl, rfl, trivial, trivial⟩

end Machine

/-! ### Calls in any order -/

theorem limit_callAll (d : Decoder) (calls : List Call) : (d.callAll calls).1.limit = d.limit := by
  induction calls generalizing d with
  | nil => rfl
  | cons c calls ih =>
    have hcall : (d.call c).1.limit = d.limit := by
      cases c with
      | feed piece | reset => rfl
    exact (ih (d.call c).1).trans hcall

namespace Machine

variable {m : Machine} {d : Decoder}

/-- The registers show what the decoder is in, and it is in a state between two calls. -/
structure Follows (m : Machine) (d : Decoder) : Prop where
  shows : m.Shows d.state
  sound : d.state.Sound d.limit
  settled : d.state.Settled

theorem follows_new (limit : Nat) : ({} : Machine).Follows (new limit) :=
  ⟨⟨rfl, rfl⟩, trivial, trivial⟩

theorem Follows.feed (h : m.Follows d) (piece : Bytes) :
    ∃ m', m.feed d.limit piece = .ok (m', (d.feed piece).2) ∧ m'.Follows (d.feed piece).1 := by
  have hrank : d.state.rank ≤ 2 := by
    unfold State.rank
    split <;> decide
  obtain ⟨m', hloop, hshows, hsound, hsettled⟩ :=
    @loop_eq d.limit m piece (3 * piece.length + 3) d.state h.shows h.sound (by omega)
  exact ⟨m', hloop, hshows, hsound, hsettled⟩

theorem Follows.call (h : m.Follows d) (c : Call) :
    ∃ m', m.call d.limit c = .ok (m', (d.call c).2) ∧ m'.Follows (d.call c).1 := by
  cases c with
  | feed piece => exact h.feed piece
  | reset => exact ⟨{}, rfl, follows_new d.limit⟩

theorem Follows.callAll (h : m.Follows d) (calls : List Call) :
    ∃ m', m.callAll d.limit calls = .ok (m', (d.callAll calls).2)
      ∧ m'.Follows (d.callAll calls).1 := by
  induction calls generalizing m d with
  | nil => exact ⟨m, rfl, h⟩
  | cons c calls ih =>
    obtain ⟨m', hcall, hm'⟩ := h.call c
    obtain ⟨m'', hcalls, hm''⟩ := ih hm'
    have hlimit : (d.call c).1.limit = d.limit := limit_callAll d [c]
    rw [hlimit] at hcalls
    refine ⟨m'', ?_, hm''⟩
    unfold callAll
    rw [hcall, Checked.ok_bind]
    dsimp only
    rw [hcalls]
    rfl

/-- However the machine is called, no register is read that is empty, no difference is below zero,
no cut goes beyond the end and no header beyond its packet; every loop ends in the turns that its
piece allows, and all answers are those of the decoder. -/
theorem calls_never_fault (limit : Nat) (calls : List Call) :
    ∃ m, ({} : Machine).callAll limit calls = .ok (m, ((new limit).callAll calls).2)
      ∧ m.Shows ((new limit).callAll calls).1.state := by
  obtain ⟨m, hcalls, hm⟩ := (follows_new limit).callAll calls
  exact ⟨m, hcalls, hm.shows⟩

/-- No calls leave registers like these: more is held than the size, and that is noticed. -/
example : ({ mode := .body, scratch := [1, 2], first := some 0xd0, size := some 1 } : Machine).feed 8
    [3] = .error .negative := by rfl

end Machine

/-! ### What is held between calls -/

namespace State

theorem held_lt {limit : Nat} {state : State} (hsound : state.Sound limit)
    (hsettled : state.Settled) : state.held < max limit 65539 := by
  cases state with
  | length first seen =>
    have hseen : seen.length < 4 := hsound
    simp only [held]
    omega
  | body first size h =>
    have hsize : h.size < size := hsettled
    have hlimit : size ≤ limit := hsound.2
    simp only [held]
    omega
  | header first size wanted h =>
    simp only [held]
    obtain ⟨_, ⟨hnone, _⟩ | ⟨hnone, _⟩⟩ := hsound
    · omega
    · obtain ⟨_, hshort⟩ := Publish.decodeHeader_eq_none_iff.mp hnone
      have hmost := Publish.headerSize_le first h.toList
      rw [← h.size_eq_length_toList] at hshort
      omega
  | payload p total delivered h =>
    have hnone : h = [] := hsettled
    simp only [held, hnone, List.length_nil]
    omega
  | start | failed =>
    simp only [held]
    omega

end State

theorem callAll_concat (d : Decoder) (calls : List Call) (c : Call) :
    (d.callAll (calls ++ [c])).1 = ((d.callAll calls).1.call c).1 := by
  induction calls generalizing d with
  | nil => rfl
  | cons c' calls ih => exact ih (d.call c').1

namespace Machine

variable {m : Machine} {state : State}

theorem Shows.length_scratch (h : m.Shows state) (hgood : state ≠ .failed) :
    m.scratch.length = state.held := by
  cases state with
  | start => exact congrArg List.length h.2
  | length | payload => exact congrArg List.length h.2.1
  | body first size held | header first size wanted held =>
    exact (congrArg List.length h.2.1).trans held.size_eq_length_toList.symm
  | failed => exact absurd rfl hgood

theorem Shows.scratch_eq_nil (h : m.Shows state) (hsettled : state.Settled)
    (hmode : m.mode = .start ∨ m.mode = .payload) : m.scratch = [] := by
  have hother : ∀ mode, m.mode = mode → mode = .start ∨ mode = .payload := by
    rintro mode rfl
    exact hmode
  cases state with
  | start => exact h.2
  | length | body | header => simpa using hother _ h.1
  | payload p total delivered held => exact h.2.1.trans hsettled
  | failed => simpa using hother _ h

/-- Whatever sizes the peer announces: when a call has succeeded, fewer bytes are kept than the
larger of the limit and the longest header, and none between two packets or within a payload. -/
theorem scratch_is_bounded (limit : Nat) (calls : List Call) (piece : Bytes)
    (hgood : (((new limit).callAll calls).1.feed piece).2.2 = .ok ()) :
    ∃ m answers, ({} : Machine).callAll limit (calls ++ [.feed piece]) = .ok (m, answers)
      ∧ m.scratch.length = (((new limit).callAll calls).1.feed piece).1.state.held
      ∧ m.scratch.length < max limit 65539
      ∧ (m.mode = .start ∨ m.mode = .payload → m.scratch = []) := by
  obtain ⟨m, hcalls, hm⟩ := (follows_new limit).callAll (calls ++ [.feed piece])
  rw [callAll_concat] at hm
  have hstate : (((new limit).callAll calls).1.feed piece).1.state ≠ .failed := by
    intro hfailed
    obtain ⟨e, he⟩ := verdict_eq_error_iff.mpr hfailed
    cases hgood.symm.trans he
  have hlength := hm.shows.length_scratch hstate
  have hlimit : (((new limit).callAll calls).1.call (.feed piece)).1.limit = limit :=
    limit_callAll (new limit) calls
  have hheld := State.held_lt hm.sound hm.settled
  rw [hlimit, ← hlength] at hheld
  exact ⟨m, _, hcalls, hlength, hheld, hm.shows.scratch_eq_nil hm.settled⟩

/-- The start of a long message after one that was given up: all but its topic has come. -/
theorem scratch_is_bounded_of_cut_topic :
    let calls : List Call := [.feed [48, 8, 0, 5], .reset, .feed [50]]
    let piece : Bytes := [9, 0, 5, 97]
    (((new 4).callAll calls).1.feed piece).2.2 = .ok ()
      ∧ ∃ m answers, ({} : Machine).callAll 4 (calls ++ [.feed piece]) = .ok (m, answers)
        ∧ m.scratch.length = 3 ∧ m.scratch.length < max 4 65539 := by
  intro calls piece
  have hgood : (((new 4).callAll calls).1.feed piece).2.2 = .ok () := by decide +kernel
  have hheld : (((new 4).callAll calls).1.feed piece).1.state.held = 3 := by decide +kernel
  obtain ⟨m, answers, hcalls, hlength, hless, -⟩ := scratch_is_bounded 4 calls piece hgood
  exact ⟨hgood, m, answers, hcalls, hlength.trans hheld, hless⟩

end Machine

end Mqtt.Decoder
