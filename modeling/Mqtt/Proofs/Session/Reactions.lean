import Mqtt.Proofs.Decoder.Joining
import Mqtt.Proofs.Session.Conduct

/-!
What received items lead to: the broker's answer, and then one packet after the other, each answered
and told of, up to the first that ends the connection. With the data of every message joined, it is
the same whether a long message is handled in one chunk or in many.
-/

namespace Mqtt
set_option autoImplicit false

/-! ### Data that came in pieces -/

namespace Arrival

/-- Whether an arrival takes its message up where this one leaves it. -/
def ContinuedBy (a next : Arrival) : Prop :=
  next = { a with payload := next.payload, offset := a.offset + a.payload.length }
    ∧ 0 < next.offset

instance (a next : Arrival) : Decidable (a.ContinuedBy next) := by
  unfold ContinuedBy
  infer_instance

/-- An arrival together with the payload of the one after it. -/
def extend (a next : Arrival) : Arrival := { a with payload := a.payload ++ next.payload }

theorem continuedBy_extend_left {a b c : Arrival} (h : a.ContinuedBy b) :
    (a.extend b).ContinuedBy c ↔ b.ContinuedBy c := by
  unfold ContinuedBy extend
  rw [h.1]
  simp [Nat.add_assoc]

theorem continuedBy_extend_right {a b c : Arrival} (h : a.ContinuedBy b) :
    a.ContinuedBy (b.extend c) := by
  refine ⟨?_, h.2⟩
  unfold extend
  rw [h.1]

theorem extend_assoc (a b c : Arrival) : (a.extend b).extend c = a.extend (b.extend c) := by
  simp [extend]

end Arrival

def Chunk.toArrival (c : Chunk) : Arrival :=
  ⟨c.publish.packetId, c.publish.topic, c.publish.qos, c.publish.retain, c.publish.duplicate,
    c.data, c.offset, c.total⟩

namespace Mark

/-- Puts a mark in front, joined with the first of the marks when both are data and that one
continues it. -/
def joinTo : Mark → List Mark → List Mark
  | .told (.data a), .told (.data next) :: marks =>
    if a.ContinuedBy next then .told (.data (a.extend next)) :: marks
    else .told (.data a) :: .told (.data next) :: marks
  | x, marks => x :: marks

/-- The marks, with the data of every message that came in pieces joined. -/
def joined (marks : List Mark) : List Mark := marks.foldr joinTo []

theorem joined_append (xs ys : List Mark) : joined (xs ++ ys) = xs.foldr joinTo (joined ys) :=
  List.foldr_append

theorem joinTo_joinTo {a b : Arrival} (h : a.ContinuedBy b) (marks : List Mark) :
    joinTo (.told (.data a)) (joinTo (.told (.data b)) marks) =
      joinTo (.told (.data (a.extend b))) marks := by
  have hnext : ∀ tail, joinTo (.told (.data a)) (.told (.data b) :: tail) =
      .told (.data (a.extend b)) :: tail := fun tail => if_pos h
  cases marks with
  | nil => exact hnext []
  | cons x tail =>
    cases x with
    | told e =>
      cases e with
      | data c =>
        have hiff := Arrival.continuedBy_extend_left (c := c) h
        by_cases hbc : b.ContinuedBy c
        · have hb : joinTo (.told (.data b)) (.told (.data c) :: tail) =
              .told (.data (b.extend c)) :: tail := if_pos hbc
          have hab : joinTo (.told (.data (a.extend b))) (.told (.data c) :: tail) =
              .told (.data ((a.extend b).extend c)) :: tail := if_pos (hiff.mpr hbc)
          rw [hb, hab, Arrival.extend_assoc]
          exact if_pos (Arrival.continuedBy_extend_right h)
        · have hb : joinTo (.told (.data b)) (.told (.data c) :: tail) =
              .told (.data b) :: .told (.data c) :: tail := if_neg hbc
          have hab : joinTo (.told (.data (a.extend b))) (.told (.data c) :: tail) =
              .told (.data (a.extend b)) :: .told (.data c) :: tail :=
            if_neg fun hac => hbc (hiff.mp hac)
          rw [hb, hab]
          exact hnext _
      | _ => exact hnext _
    | _ => exact hnext _

end Mark

/-! ### What an item leads to -/

def Event.endsOperation : Event → Bool
  | .published _ | .subscribed _ _ | .unsubscribed _ => true
  | _ => false

def Mark.endsOperation : Mark → Bool
  | .told e => e.endsOperation
  | _ => false

namespace Session

/-- What is told of a received item: of an acknowledgement only if it ends an operation. -/
def newsOf (l : Ledger) : DecodedItem → Option Event
  | .chunk c => some (arrival c.publish c.data c.offset c.total)
  | .packet (.publish p) => some (arrival p p.payload 0 p.payload.length)
  | .packet (.puback i) => if (l.resolve .publish i).2 then some (.published i) else none
  | .packet (.pubcomp i) => if (l.resolve .pubrel i).2 then some (.published i) else none
  | .packet (.suback i codes) =>
    if (l.resolve .subscribe i).2 then some (.subscribed i codes) else none
  | .packet (.unsuback i) => if (l.resolve .unsubscribe i).2 then some (.unsubscribed i) else none
  | _ => none

/-- The bytes that a received item is answered with. -/
def answerTo (s : Session) (item : DecodedItem) : Option Bytes :=
  (responseTo item).bind fun p => (s.encode p).toOption

/-- What is to be seen of an item that is handled: the answer is written, and then it is told of. -/
def handled (s : Session) (l : Ledger) (item : DecodedItem) : List Mark :=
  ((s.answerTo item).map Mark.wrote).toList ++ ((newsOf l item).map Mark.told).toList

/-- What is to be seen when an error ends the connection. The first error is told of. -/
def ended (s : Session) (e : Error) : List Mark :=
  .closed :: (s.lastError.getD e).closing.map .told

/-- What is to be seen of items that are handled one after the other. The first that is an error
ends the connection; if there is none, what comes next is given. -/
def handling (s : Session) (next : List Mark) : Ledger → List DecodedItem → List Mark
  | _, [] => next
  | l, item :: items =>
    match s.itemError? item with
    | some e => s.ended e
    | none => s.handled l item ++ s.handling next (l.moveAll (s.movesOf item)) items

theorem handling_of_error {s : Session} {next : List Mark} {l : Ledger} {item : DecodedItem}
    {items : List DecodedItem} {e : Error} (h : s.itemError? item = some e) :
    s.handling next l (item :: items) = s.ended e := by
  rw [handling, h]

theorem handling_of_good {s : Session} {next : List Mark} {l : Ledger} {item : DecodedItem}
    {items : List DecodedItem} (h : s.itemError? item = none) :
    s.handling next l (item :: items) =
      s.handled l item ++ s.handling next (l.moveAll (s.movesOf item)) items := by
  rw [handling, h]

/-- The calls on the ledger when the broker accepts. -/
def entering (sessionPresent : Bool) : List Ledger.Move :=
  .setState .connected :: if sessionPresent then [] else [.clear]

/-- What is to be seen of items of which the first has to be the broker's acceptance. -/
def greeted (s : Session) (next : List Mark) (l : Ledger) : List DecodedItem → List Mark
  | [] => next
  | .packet (.connack sessionPresent .accepted) :: items =>
    .told (.connected sessionPresent) :: s.handling next (l.moveAll (entering sessionPresent)) items
  | item :: _ => s.ended ((answerError? item).getD .protocolError)

section
variable (s : Session) (l : Ledger)

theorem itemError?_of_response {item : DecodedItem} {p : Packet} (h : responseTo item = some p) :
    s.itemError? item = s.encodeError? p := by
  have hitem : s.itemError? item = (responseTo item).bind s.encodeError? := by
    cases item with
    | chunk c => rfl
    | packet q =>
      cases q with
      | publish _ | pubrec _ | pubrel _ | pingreq => rfl
      | _ => cases h
  rw [hitem, h]
  rfl

theorem acknowledge_eq (p : Publish) (e : Event) :
    s.acknowledge l p e = match responseTo (.packet (.publish p)) with
      | some response => s.send l (.response (some e)) response
      | none => s.goto l .handling [.tell e] := by
  unfold acknowledge responseTo
  dsimp only
  cases p.qos <;> rfl

theorem responseTo_chunk {c : Chunk} (h : c.offset = 0) :
    responseTo (.chunk c) = responseTo (.packet (.publish c.publish)) := if_pos h

theorem settle_eq (kind : PacketType) (packetId : UInt16) (e : Event) :
    s.settle l kind packetId e = s.goto (l.resolve kind packetId).1 .handling
      ((if (l.resolve kind packetId).2 then some e else none).map .tell).toList := by
  unfold settle
  split <;> simp [*]

theorem handle_of_response {item : DecodedItem} {p : Packet} (h : responseTo item = some p) :
    s.handle l item = s.send (l.moveAll (s.movesOf item)) (.response (newsOf l item)) p := by
  cases item with
  | chunk c =>
    by_cases hzero : c.offset = 0
    · have hhandle : s.handle l (.chunk c) = s.acknowledge l c.publish _ := if_pos hzero
      rw [hhandle, acknowledge_eq, ← responseTo_chunk hzero, h]
      rfl
    · have hnone : responseTo (.chunk c) = none := if_neg hzero
      cases hnone.symm.trans h
  | packet q =>
    cases q with
    | publish q =>
      have hhandle : s.handle l (.packet (.publish q)) = s.acknowledge l q _ := rfl
      rw [hhandle, acknowledge_eq, h]
      rfl
    | pubrec i =>
      cases h
      unfold handle send movesOf
      dsimp only
      cases s.encode (.pubrel i) <;> rfl
    | pubrel i =>
      cases h
      rfl
    | pingreq =>
      cases h
      rfl
    | _ => cases h

theorem handle_of_no_response {item : DecodedItem} (h : responseTo item = none) :
    (∃ e, s.itemError? item = some e ∧ s.handle l item = s.fail l e)
      ∨ s.itemError? item = none ∧ s.handle l item =
        s.goto (l.moveAll (s.movesOf item)) .handling ((newsOf l item).map .tell).toList := by
  cases item with
  | chunk c =>
    have hgood : s.itemError? (.chunk c) = (responseTo (.chunk c)).bind s.encodeError? := rfl
    rw [hgood, h]
    refine .inr ⟨rfl, ?_⟩
    by_cases hzero : c.offset = 0
    · have hhandle : s.handle l (.chunk c) = s.acknowledge l c.publish _ := if_pos hzero
      rw [hhandle, acknowledge_eq, ← responseTo_chunk hzero, h]
      rfl
    · exact if_neg hzero
  | packet p =>
    cases p with
    | publish p =>
      have hgood : s.itemError? (.packet (.publish p)) =
          (responseTo (.packet (.publish p))).bind s.encodeError? := rfl
      have hhandle : s.handle l (.packet (.publish p)) = s.acknowledge l p _ := rfl
      rw [hgood, hhandle, acknowledge_eq, h]
      exact .inr ⟨rfl, rfl⟩
    | puback i => exact .inr ⟨rfl, settle_eq s l _ _ _⟩
    | pubcomp i => exact .inr ⟨rfl, settle_eq s l _ _ _⟩
    | suback i codes => exact .inr ⟨rfl, settle_eq s l _ _ _⟩
    | unsuback i => exact .inr ⟨rfl, settle_eq s l _ _ _⟩
    | pingresp => exact .inr ⟨rfl, rfl⟩
    | pubrec i => cases h
    | pubrel i => cases h
    | pingreq => cases h
    | _ => exact .inl ⟨_, rfl, rfl⟩

/-- An item is an error, or it is answered and then told of, or it is only told of. -/
theorem handle_cases (item : DecodedItem) :
    (∃ e, s.itemError? item = some e ∧ ∃ l', s.handle l item = s.fail l' e)
      ∨ s.itemError? item = none
        ∧ ((∃ bytes, s.answerTo item = some bytes ∧ s.handle l item =
            s.write (l.moveAll (s.movesOf item)) (.response (newsOf l item)) bytes)
          ∨ s.answerTo item = none ∧ s.handle l item =
            s.goto (l.moveAll (s.movesOf item)) .handling ((newsOf l item).map .tell).toList) := by
  cases hresponse : responseTo item with
  | none =>
    have hanswer : s.answerTo item = none := by simp [answerTo, hresponse]
    rcases s.handle_of_no_response l hresponse with ⟨e, he, hfail⟩ | ⟨hgood, htell⟩
    · exact .inl ⟨e, he, l, hfail⟩
    · exact .inr ⟨hgood, .inr ⟨hanswer, htell⟩⟩
  | some p =>
    have hanswer : s.answerTo item = (s.encode p).toOption := by simp [answerTo, hresponse]
    rw [s.handle_of_response l hresponse, s.itemError?_of_response hresponse, hanswer]
    unfold encodeError? send
    cases s.encode p with
    | error e => exact .inl ⟨e, rfl, _, rfl⟩
    | ok bytes => exact .inr ⟨rfl, .inl ⟨bytes, rfl, rfl⟩⟩

end

/-! ### Sessions and ledgers that make no difference -/

section
variable {s s' : Session} {l : Ledger} {next : List Mark}

theorem handling_congr (hconfig : s'.config = s.config) (hlast : s'.lastError = s.lastError)
    (items : List DecodedItem) : s'.handling next l items = s.handling next l items := by
  have hencode : s'.encode = s.encode := by
    unfold encode
    rw [hconfig]
  induction items generalizing l with
  | nil => rfl
  | cons item items ih =>
    unfold handling
    rw [ih]
    unfold itemError? encodeError? handled answerTo ended movesOf
    rw [hencode, hlast]

theorem greeted_congr (hconfig : s'.config = s.config) (hlast : s'.lastError = s.lastError)
    (items : List DecodedItem) : s'.greeted next l items = s.greeted next l items := by
  unfold greeted ended
  rw [hlast]
  split <;> simp [handling_congr hconfig hlast]

theorem handled_besides (l' : Ledger) (item : DecodedItem) :
    (s.handled l item).filter (!·.endsOperation) =
      (s.handled l' item).filter (!·.endsOperation) := by
  have hnews : ((newsOf l item).map Mark.told).toList.filter (!·.endsOperation) =
      ((newsOf l' item).map Mark.told).toList.filter (!·.endsOperation) := by
    unfold newsOf
    split
    · rfl
    · rfl
    · split <;> split <;> rfl
    · split <;> split <;> rfl
    · split <;> split <;> rfl
    · split <;> split <;> rfl
    · rfl
  unfold handled
  rw [List.filter_append, List.filter_append, hnews]

/-- Another ledger makes a difference only to the ends of operations. -/
theorem handling_besides (l' : Ledger) (items : List DecodedItem) :
    (s.handling next l items).filter (!·.endsOperation) =
      (s.handling next l' items).filter (!·.endsOperation) := by
  induction items generalizing l l' with
  | nil => rfl
  | cons item items ih =>
    unfold handling
    split
    · rfl
    · rw [List.filter_append, List.filter_append, handled_besides l', ih]

end

/-! ### Messages in one chunk or in many -/

section
variable {s : Session} {l : Ledger} {next : List Mark} {see : Mark → Bool}

theorem handling_chunk {c : Chunk} (hgood : s.itemError? (.chunk c) = none)
    (items : List DecodedItem) : s.handling next l (.chunk c :: items) =
      ((s.answerTo (.chunk c)).map Mark.wrote).toList
        ++ .told (.data c.toArrival) :: s.handling next l items := by
  rw [handling, hgood]
  exact List.append_assoc ..

theorem handling_chunk_of_pos {c : Chunk} (h : 0 < c.offset) (items : List DecodedItem) :
    s.handling next l (.chunk c :: items) =
      .told (.data c.toArrival) :: s.handling next l items := by
  have hnone : responseTo (.chunk c) = none := if_neg (Nat.ne_of_gt h)
  have hanswer : s.answerTo (.chunk c) = none := by simp [answerTo, hnone]
  have hgood : s.itemError? (.chunk c) = (responseTo (.chunk c)).bind s.encodeError? := rfl
  rw [hnone] at hgood
  rw [handling_chunk hgood, hanswer]
  rfl

theorem joined_handling_joinTo (hsee : ∀ a, see (.told (.data a)) = true) {item : DecodedItem}
    (hitem : ∀ c, item = .chunk c → c.data ≠ []) (items : List DecodedItem) :
    Mark.joined ((s.handling next l (item.joinTo items)).filter see) =
      Mark.joined ((s.handling next l (item :: items)).filter see) := by
  match item, items with
  | .packet _, _ => rfl
  | .chunk _, [] => rfl
  | .chunk _, .packet _ :: _ => rfl
  | .chunk c, .chunk d :: tail =>
    by_cases h : c.ContinuedBy d
    · have hjoin : DecodedItem.joinTo (.chunk c) (.chunk d :: tail) = .chunk (c.extend d) :: tail :=
        if_pos h
      obtain ⟨hpublish, htotal, hoffset⟩ := h
      have hdata := List.length_pos_iff.mpr (hitem c rfl)
      have hpos : 0 < d.offset := by omega
      have hcontinues : c.toArrival.ContinuedBy d.toArrival := by
        refine ⟨?_, hpos⟩
        unfold Chunk.toArrival
        rw [hpublish, htotal, hoffset]
      rw [hjoin]
      cases herror : s.itemError? (.chunk c) with
      | some e =>
        have hextend : s.itemError? (.chunk (c.extend d)) = some e := herror
        unfold handling
        rw [herror, hextend]
      | none =>
        have hextend : s.itemError? (.chunk (c.extend d)) = none := herror
        rw [handling_chunk hextend, handling_chunk herror, handling_chunk_of_pos hpos,
          List.filter_append, List.filter_append, Mark.joined_append, Mark.joined_append]
        refine congrArg (fun marks => List.foldr Mark.joinTo marks _) ?_
        simp only [List.filter_cons, hsee, if_true]
        exact (Mark.joinTo_joinTo hcontinues _).symm
    · have hjoin : DecodedItem.joinTo (.chunk c) (.chunk d :: tail) = .chunk c :: .chunk d :: tail :=
        if_neg h
      rw [hjoin]

theorem joined_handling (hsee : ∀ a, see (.told (.data a)) = true) {items : List DecodedItem}
    (hitems : ∀ c, .chunk c ∈ items → c.data ≠ []) :
    Mark.joined ((s.handling next l (DecodedItem.joined items)).filter see) =
      Mark.joined ((s.handling next l items).filter see) := by
  induction items generalizing l with
  | nil => rfl
  | cons item items ih =>
    rw [DecodedItem.joined_cons, joined_handling_joinTo hsee
      fun c hc => hitems c (List.mem_cons.mpr (.inl hc.symm))]
    unfold handling
    split
    · rfl
    · rw [List.filter_append, List.filter_append, Mark.joined_append, Mark.joined_append,
        ih fun c hc => hitems c (List.mem_cons_of_mem _ hc)]

theorem joined_greeted (hsee : ∀ a, see (.told (.data a)) = true) {items : List DecodedItem}
    (hitems : ∀ c, .chunk c ∈ items → c.data ≠ []) :
    Mark.joined ((s.greeted next l (DecodedItem.joined items)).filter see) =
      Mark.joined ((s.greeted next l items).filter see) := by
  cases items with
  | nil => rfl
  | cons item items =>
    cases item with
    | chunk c =>
      -- A chunk is no acceptance, joined or not.
      have hchunk : ∃ c' rest, DecodedItem.joined (.chunk c :: items) = .chunk c' :: rest := by
        rw [DecodedItem.joined_cons]
        unfold DecodedItem.joinTo
        split
        · split <;> exact ⟨_, _, rfl⟩
        · exact ⟨_, _, rfl⟩
      obtain ⟨c', rest, hjoined⟩ := hchunk
      rw [hjoined]
      rfl
    | packet p =>
      have hrest : ∀ l, Mark.joined ((s.handling next l (DecodedItem.joined items)).filter see) =
          Mark.joined ((s.handling next l items).filter see) :=
        fun l => joined_handling hsee fun c hc => hitems c (List.mem_cons_of_mem _ hc)
      have hjoined : DecodedItem.joined (.packet p :: items) =
          .packet p :: DecodedItem.joined items := rfl
      rw [hjoined]
      cases p with
      | connack sessionPresent code =>
        cases code with
        | accepted =>
          unfold greeted
          dsimp only
          rw [← List.singleton_append, ← List.singleton_append (l := s.handling _ _ _),
            List.filter_append, List.filter_append, Mark.joined_append, Mark.joined_append, hrest]
        | _ => rfl
      | _ => rfl

end

end Session
end Mqtt
