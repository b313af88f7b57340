import Mqtt.Proofs.Wire.Publish
import Mqtt.Wire.Decoder

/-!
The steps of a decoder over one piece of input: what each state makes of the bytes that have come,
and the induction along the steps.
-/

namespace Mqtt.Decoder
set_option autoImplicit false

variable {limit : Nat}

/-! ### One state at a time -/

@[simp] theorem run_start_nil : run limit .start [] = (.start, []) := by rw [run]

@[simp] theorem run_start_cons (b : UInt8) (rest : Bytes) :
    run limit .start (b :: rest) = run limit (.length b []) rest := by
  rw [run]

@[simp] theorem run_length_nil (first : UInt8) (seen : Bytes) :
    run limit (.length first seen) [] = (.length first seen, []) := by
  rw [run]

@[simp] theorem run_failed (input : Bytes) : run limit .failed input = (.failed, []) := by
  rw [run]

theorem run_length_value {first b : UInt8} {seen rest left : Bytes} {n : Nat}
    (h : VarLength.decode (seen ++ [b]) = .ok (.value n left)) :
    run limit (.length first seen) (b :: rest) =
      if n ≤ limit then run limit (.body first n .empty) rest
      else if first >>> 4 = 3 then run limit (.header first n 0 .empty) rest
      else (.failed, []) := by
  rw [run, h]

theorem run_length_more {first b : UInt8} {seen rest : Bytes}
    (h : ∀ n left, VarLength.decode (seen ++ [b]) ≠ .ok (.value n left)) :
    run limit (.length first seen) (b :: rest) =
      if 4 ≤ seen.length + 1 then (.failed, []) else run limit (.length first (seen ++ [b])) rest := by
  rw [run]
  split
  · rename_i n left hdecode
    exact absurd hdecode (h n left)
  · rfl

/-- A result with one more item before the others. -/
def emit (item : DecodedItem) (r : State × List DecodedItem) : State × List DecodedItem :=
  (r.1, item :: r.2)

theorem length_take_lt_iff {n : Nat} {input : Bytes} :
    (input.take n).length < n ↔ input.length < n := by
  rw [List.length_take]
  omega

theorem run_body_short {first : UInt8} {size : Nat} {held : Gathered} {input : Bytes}
    (h : input.length < size - held.size) :
    run limit (.body first size held) input = (.body first size (held.append input), []) := by
  rw [run]
  exact if_pos (length_take_lt_iff.mpr h)

theorem run_body_full {first : UInt8} {size : Nat} {held : Gathered} {input : Bytes}
    (h : size - held.size ≤ input.length) :
    run limit (.body first size held) input =
      match Packet.decode first (held.toList ++ input.take (size - held.size)) with
      | .ok p => emit (.packet p) (run limit .start (input.drop (size - held.size)))
      | .error _ => (.failed, []) := by
  rw [run]
  dsimp only
  rw [if_neg (fun hshort => Nat.not_lt.mpr h (length_take_lt_iff.mp hshort)),
    Gathered.toList_append]
  rfl

/-- What is made of the header bytes that have come, where `rest` is the input after them. -/
def readHeader (limit : Nat) (first : UInt8) (size wanted : Nat) (held : Gathered) (rest : Bytes) :
    State × List DecodedItem :=
  if held.size < min wanted size then (.header first size wanted held, [])
  else
    match Publish.decodeHeader first held.toList with
    | .ok (some (p, used)) =>
      if size < used then (.failed, [])
      else if used = size then emit (.packet (.publish p)) (run limit .start rest)
      else run limit (.payload p (size - used) 0 (held.toList.drop used)) rest
    | .ok none =>
      if size ≤ held.size then (.failed, [])
      else (.header first size (Publish.headerSize first held.toList) held, [])
    | .error _ => (.failed, [])

@[simp] theorem run_header_nil {first : UInt8} {size wanted : Nat} {held : Gathered} :
    run limit (.header first size wanted held) [] = (.header first size wanted held, []) := by
  rw [run]
  simp

theorem run_header {first : UInt8} {size wanted : Nat} {held : Gathered} {input : Bytes}
    (h : input ≠ []) :
    run limit (.header first size wanted held) input =
      readHeader limit first size wanted (held.append (input.take (size - held.size)))
        (input.drop (size - held.size)) := by
  have hempty : input.isEmpty = false := by simpa using h
  rw [run]
  dsimp only
  rw [hempty, Bool.false_or]
  unfold readHeader
  simp only [decide_eq_true_eq]
  rfl

theorem run_payload_none {p : Publish} {total delivered : Nat} {held input : Bytes}
    (h : held ++ input.take (total - delivered - held.length) = []) :
    run limit (.payload p total delivered held) input = (.payload p total delivered [], []) := by
  rw [run]
  dsimp only
  rw [h]
  rfl

theorem run_payload_some {p : Publish} {total delivered : Nat} {held input data : Bytes}
    (h : held ++ input.take (total - delivered - held.length) = data) (hdata : data ≠ []) :
    run limit (.payload p total delivered held) input =
      emit (.chunk ⟨p, data, delivered, total⟩)
        (if delivered + data.length = total then
          run limit .start (input.drop (total - delivered - held.length))
        else (.payload p total (delivered + data.length) [], [])) := by
  have hempty : data.isEmpty = false := by simpa using hdata
  rw [run]
  dsimp only
  rw [h, hempty, if_neg Bool.false_ne_true]
  by_cases hdone : delivered + data.length = total
  · rw [if_pos hdone, if_pos hdone]
    rfl
  · rw [if_neg hdone, if_neg hdone]
    rfl

/-- Payload is never malformed. -/
theorem run_payload_ne_failed {p : Publish} {total delivered : Nat} {held input : Bytes} :
    run limit (.payload p total delivered held) input ≠ (.failed, []) := by
  intro h
  by_cases hnone : held ++ input.take (total - delivered - held.length) = []
  · rw [run_payload_none hnone] at h
    cases h
  · rw [run_payload_some rfl hnone] at h
    exact List.cons_ne_nil _ _ (congrArg Prod.snd h)

theorem State.rank_le (state : State) : state.rank ≤ 2 := by
  cases state <;> simp [rank]

/-- Induction along the calls of `run`: each of them is on less input, or on a state of lower
rank. -/
theorem run_induction {motive : State → Bytes → Prop}
    (start_nil : motive .start [])
    (start_cons : ∀ b rest, motive (.length b []) rest → motive .start (b :: rest))
    (length_nil : ∀ first seen, motive (.length first seen) [])
    (length_cons : ∀ first seen b rest, (∀ state, motive state rest) →
      motive (.length first seen) (b :: rest))
    (body : ∀ first size held input, motive .start (input.drop (size - held.size)) →
      motive (.body first size held) input)
    (header : ∀ first size wanted held input, motive .start (input.drop (size - held.size)) →
      (∀ p total held', motive (.payload p total 0 held') (input.drop (size - held.size))) →
      motive (.header first size wanted held) input)
    (payload : ∀ p total delivered held input,
      motive .start (input.drop (total - delivered - held.length)) →
      motive (.payload p total delivered held) input)
    (failed : ∀ input, motive .failed input) (state : State) (input : Bytes) :
    motive state input := by
  induction hn : 3 * input.length + state.rank using Nat.strongRecOn
    generalizing state input with
  | ind n ih =>
    subst hn
    have shorter : ∀ state' rest, rest.length < input.length → motive state' rest := by
      intro state' rest hless
      have hrank := state'.rank_le
      exact ih _ (by omega) state' rest rfl
    -- A state may hand on its input whole, so there its rank has to go down.
    have lower : ∀ (state' : State) (k : Nat), state'.rank < state.rank →
        motive state' (input.drop k) := by
      intro state' k hless
      have hlength : (input.drop k).length = input.length - k := List.length_drop
      exact ih _ (by omega) state' (input.drop k) rfl
    cases state with
    | start =>
      cases input with
      | nil => exact start_nil
      | cons b rest => exact start_cons b rest (shorter _ rest (Nat.lt_succ_self _))
    | length first seen =>
      cases input with
      | nil => exact length_nil first seen
      | cons b rest =>
        exact length_cons first seen b rest fun state => shorter state rest (Nat.lt_succ_self _)
    | body first size held =>
      exact body first size held input (lower _ _ Nat.zero_lt_one)
    | header first size wanted held =>
      exact header first size wanted held input (lower _ _ Nat.zero_lt_two)
        fun p total held' => lower _ _ Nat.one_lt_two
    | payload p total delivered held =>
      exact payload p total delivered held input (lower _ _ Nat.zero_lt_one)
    | failed => exact failed input

/-! ### The steps of a run -/

/-- From this state, this input leads to this result. There is one case for each step. -/
inductive Runs (limit : Nat) : State → Bytes → State × List DecodedItem → Prop where
  | start_nil : Runs limit .start [] (.start, [])
  | start_cons {b : UInt8} {rest : Bytes} {r : State × List DecodedItem}
    (hnext : Runs limit (.length b []) rest r) : Runs limit .start (b :: rest) r
  | length_nil {first : UInt8} {seen : Bytes} :
    Runs limit (.length first seen) [] (.length first seen, [])
  | length_more {first b : UInt8} {seen rest : Bytes} {r : State × List DecodedItem}
    (hmore : ∀ n left, VarLength.decode (seen ++ [b]) ≠ .ok (.value n left))
    (hfew : seen.length + 1 < 4) (hnext : Runs limit (.length first (seen ++ [b])) rest r) :
    Runs limit (.length first seen) (b :: rest) r
  | length_body {first b : UInt8} {seen rest left : Bytes} {n : Nat}
    {r : State × List DecodedItem} (hvalue : VarLength.decode (seen ++ [b]) = .ok (.value n left))
    (hsize : n ≤ limit) (hnext : Runs limit (.body first n .empty) rest r) :
    Runs limit (.length first seen) (b :: rest) r
  | length_header {first b : UInt8} {seen rest left : Bytes} {n : Nat}
    {r : State × List DecodedItem} (hvalue : VarLength.decode (seen ++ [b]) = .ok (.value n left))
    (hlong : limit < n) (hpublish : first >>> 4 = 3)
    (hnext : Runs limit (.header first n 0 .empty) rest r) :
    Runs limit (.length first seen) (b :: rest) r
  | body_short {first : UInt8} {size : Nat} {held : Gathered} {input : Bytes}
    (hshort : input.length < size - held.size) :
    Runs limit (.body first size held) input (.body first size (held.append input), [])
  | body_whole {first : UInt8} {size : Nat} {held : Gathered} {input : Bytes} {p : Packet}
    {r : State × List DecodedItem} (hfull : size - held.size ≤ input.length)
    (hdecode : Packet.decode first (held.toList ++ input.take (size - held.size)) = .ok p)
    (hnext : Runs limit .start (input.drop (size - held.size)) r) :
    Runs limit (.body first size held) input (emit (.packet p) r)
  | header_nil {first : UInt8} {size wanted : Nat} {held : Gathered} :
    Runs limit (.header first size wanted held) [] (.header first size wanted held, [])
  | header_short {first : UInt8} {size wanted : Nat} {held held' : Gathered} {input : Bytes}
    (hheld : held.append (input.take (size - held.size)) = held')
    (hwait : held'.size < min wanted size) :
    Runs limit (.header first size wanted held) input (.header first size wanted held', [])
  | header_more {first : UInt8} {size wanted : Nat} {held held' : Gathered} {input : Bytes}
    (hheld : held.append (input.take (size - held.size)) = held')
    (hread : Publish.decodeHeader first held'.toList = .ok none) (hsize : held'.size < size) :
    Runs limit (.header first size wanted held) input
      (.header first size (Publish.headerSize first held'.toList) held', [])
  | header_whole {first : UInt8} {size wanted : Nat} {held held' : Gathered} {input : Bytes}
    {p : Publish} {r : State × List DecodedItem}
    (hheld : held.append (input.take (size - held.size)) = held')
    (hread : Publish.decodeHeader first held'.toList = .ok (some (p, size)))
    (hnext : Runs limit .start (input.drop (size - held.size)) r) :
    Runs limit (.header first size wanted held) input (emit (.packet (.publish p)) r)
  | header_streams {first : UInt8} {size wanted used : Nat} {held held' : Gathered} {input : Bytes}
    {p : Publish} {r : State × List DecodedItem}
    (hheld : held.append (input.take (size - held.size)) = held')
    (hread : Publish.decodeHeader first held'.toList = .ok (some (p, used))) (hused : used < size)
    (hnext : Runs limit (.payload p (size - used) 0 (held'.toList.drop used))
      (input.drop (size - held.size)) r) :
    Runs limit (.header first size wanted held) input r
  | payload_none {p : Publish} {total delivered : Nat} {held input : Bytes}
    (hnone : held ++ input.take (total - delivered - held.length) = []) :
    Runs limit (.payload p total delivered held) input (.payload p total delivered [], [])
  | payload_ends {p : Publish} {total delivered : Nat} {held input data : Bytes}
    {r : State × List DecodedItem}
    (hdata : held ++ input.take (total - delivered - held.length) = data) (hsome : data ≠ [])
    (hend : delivered + data.length = total)
    (hnext : Runs limit .start (input.drop (total - delivered - held.length)) r) :
    Runs limit (.payload p total delivered held) input (emit (.chunk ⟨p, data, delivered, total⟩) r)
  | payload_goes_on {p : Publish} {total delivered : Nat} {held input data : Bytes}
    (hdata : held ++ input.take (total - delivered - held.length) = data) (hsome : data ≠ [])
    (hmore : delivered + data.length ≠ total) :
    Runs limit (.payload p total delivered held) input
      (.payload p total (delivered + data.length) [], [.chunk ⟨p, data, delivered, total⟩])
  | fails {state : State} {input : Bytes} (hfails : run limit state input = (.failed, [])) :
    Runs limit state input (.failed, [])

/-- What `run` comes to is what the steps lead to. -/
def IsRun (limit : Nat) (state : State) (input : Bytes) : Prop :=
  Runs limit state input (run limit state input)

theorem isRun_length {first b : UInt8} {seen rest : Bytes} (ih : ∀ state, IsRun limit state rest) :
    IsRun limit (.length first seen) (b :: rest) := by
  unfold IsRun
  by_cases hvalue : ∃ n left, VarLength.decode (seen ++ [b]) = .ok (.value n left)
  · obtain ⟨n, left, hvalue⟩ := hvalue
    rw [run_length_value hvalue]
    by_cases hsize : n ≤ limit
    · rw [if_pos hsize]
      exact .length_body hvalue hsize (ih _)
    · rw [if_neg hsize]
      by_cases hpublish : first >>> 4 = 3
      · rw [if_pos hpublish]
        exact .length_header hvalue (Nat.lt_of_not_le hsize) hpublish (ih _)
      · rw [if_neg hpublish]
        apply Runs.fails
        rw [run_length_value hvalue, if_neg hsize, if_neg hpublish]
  · have hmore : ∀ n left, VarLength.decode (seen ++ [b]) ≠ .ok (.value n left) :=
      fun n left hdecode => hvalue ⟨n, left, hdecode⟩
    rw [run_length_more hmore]
    by_cases hlong : 4 ≤ seen.length + 1
    · rw [if_pos hlong]
      apply Runs.fails
      rw [run_length_more hmore, if_pos hlong]
    · rw [if_neg hlong]
      exact .length_more hmore (Nat.lt_of_not_le hlong) (ih _)

theorem isRun_body {first : UInt8} {size : Nat} {held : Gathered} {input : Bytes}
    (ih : IsRun limit .start (input.drop (size - held.size))) :
    IsRun limit (.body first size held) input := by
  unfold IsRun
  by_cases hshort : input.length < size - held.size
  · rw [run_body_short hshort]
    exact .body_short hshort
  · have hfull : size - held.size ≤ input.length := Nat.le_of_not_lt hshort
    rw [run_body_full hfull]
    cases hdecode : Packet.decode first (held.toList ++ input.take (size - held.size)) with
    | ok p => exact .body_whole hfull hdecode ih
    | error e =>
      apply Runs.fails
      rw [run_body_full hfull, hdecode]

theorem isRun_header {first : UInt8} {size wanted : Nat} {held : Gathered} {input : Bytes}
    (ihStart : IsRun limit .start (input.drop (size - held.size)))
    (ihPayload : ∀ p total held',
      IsRun limit (.payload p total 0 held') (input.drop (size - held.size))) :
    IsRun limit (.header first size wanted held) input := by
  unfold IsRun
  by_cases hinput : input = []
  · subst hinput
    rw [run_header_nil]
    exact .header_nil
  have hrun := @run_header limit first size wanted held input hinput
  unfold readHeader at hrun
  generalize hheld : held.append (input.take (size - held.size)) = held' at hrun
  by_cases hwait : held'.size < min wanted size
  · rw [if_pos hwait] at hrun
    rw [hrun]
    exact .header_short hheld hwait
  rw [if_neg hwait] at hrun
  cases hread : Publish.decodeHeader first held'.toList with
  | error e =>
    rw [hread] at hrun
    rw [hrun]
    exact .fails hrun
  | ok result =>
    rw [hread] at hrun
    cases result with
    | none =>
      dsimp only at hrun
      by_cases hsize : size ≤ held'.size
      · rw [if_pos hsize] at hrun
        rw [hrun]
        exact .fails hrun
      · rw [if_neg hsize] at hrun
        rw [hrun]
        exact .header_more hheld hread (Nat.lt_of_not_le hsize)
    | some header =>
      obtain ⟨p, used⟩ := header
      dsimp only at hrun
      by_cases hover : size < used
      · rw [if_pos hover] at hrun
        rw [hrun]
        exact .fails hrun
      rw [if_neg hover] at hrun
      by_cases hexact : used = size
      · subst hexact
        rw [if_pos rfl] at hrun
        rw [hrun]
        exact .header_whole hheld hread ihStart
      · rw [if_neg hexact] at hrun
        rw [hrun]
        exact .header_streams hheld hread (by omega) (ihPayload _ _ _)

theorem isRun_payload {p : Publish} {total delivered : Nat} {held input : Bytes}
    (ih : IsRun limit .start (input.drop (total - delivered - held.length))) :
    IsRun limit (.payload p total delivered held) input := by
  unfold IsRun
  generalize hdata : held ++ input.take (total - delivered - held.length) = data
  by_cases hsome : data = []
  · subst hsome
    rw [run_payload_none hdata]
    exact .payload_none hdata
  · rw [run_payload_some hdata hsome]
    by_cases hend : delivered + data.length = total
    · rw [if_pos hend]
      exact .payload_ends hdata hsome hend ih
    · rw [if_neg hend]
      exact .payload_goes_on hdata hsome hend

theorem runs (limit : Nat) (state : State) (input : Bytes) :
    Runs limit state input (run limit state input) := by
  induction state, input using run_induction with
  | start_nil =>
    rw [run_start_nil]
    exact .start_nil
  | start_cons b rest ih =>
    rw [run_start_cons]
    exact .start_cons ih
  | length_nil first seen =>
    rw [run_length_nil]
    exact .length_nil
  | length_cons first seen b rest ih => exact isRun_length ih
  | body first size held input ih => exact isRun_body ih
  | header first size wanted held input ihStart ihPayload => exact isRun_header ihStart ihPayload
  | payload p total delivered held input ih => exact isRun_payload ih
  | failed input =>
    rw [run_failed]
    exact .fails (run_failed input)

end Mqtt.Decoder
