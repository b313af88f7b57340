import Mqtt.Proofs.Decoder.Messages
import Mqtt.Proofs.Session.Reactions
import Mqtt.Proofs.Session.Writes

/-!
What a connected session writes in answer to what it receives, and what data it tells of. The items
of a connection are handled one after the other, each with its answer first and its data after that,
up to the first write that fails or the first packet that should not have come.
-/

namespace Mqtt
set_option autoImplicit false

instance : DecidablePred PacketType.IsResponse
  | .puback | .pubrec | .pubrel | .pubcomp | .pingresp => isTrue trivial
  | .connect | .connack | .publish | .subscribe | .suback | .unsubscribe | .unsuback | .pingreq
  | .disconnect => isFalse id

def Phase.IsAnswering : Phase → Prop
  | .writing (.response _) => True
  | _ => False

theorem Phase.IsAnswering.exists {phase : Phase} (h : phase.IsAnswering) :
    ∃ event, phase = .writing (.response event) := by
  cases phase with
  | writing purpose =>
    cases purpose with
    | response event => exact ⟨event, rfl⟩
    | _ => cases h
  | _ => cases h

namespace DecodedItem

/-- Whether an item may come while connected. -/
def isExpected : DecodedItem → Bool
  | .packet (.connect _) | .packet (.connack _ _) | .packet (.subscribe _ _)
  | .packet (.unsubscribe _ _) | .packet .disconnect => false
  | _ => true

/-- The message, or the piece of one, that an item brings. -/
def arrival? : DecodedItem → Option Arrival
  | .chunk c => some c.toArrival
  | .packet (.publish p) =>
    some ⟨p.packetId, p.topic, p.qos, p.retain, p.duplicate, p.payload, 0, p.payload.length⟩
  | _ => none

end DecodedItem

namespace Mark

def received? : Mark → Option Bytes
  | .received bytes => some bytes
  | _ => none

def sinceAttempt (marks : List Mark) : List Mark := marks.rtakeWhile fun x => x ≠ .attempt

theorem sinceAttempt_attempt (marks : List Mark) : sinceAttempt (marks ++ [.attempt]) = [] :=
  List.rtakeWhile_concat_neg _ _ _ (by simp)

theorem sinceAttempt_append {marks es : List Mark} (h : .attempt ∉ es) :
    sinceAttempt (marks ++ es) = sinceAttempt marks ++ es := by
  apply rtakeWhile_append
  intro x hx
  rw [decide_eq_true_iff]
  rintro rfl
  exact h hx

/-- Whether a mark is a packet written in response, data, or a write that failed. -/
def isReply : Mark → Bool
  | .wrote bytes => (PacketType.ofBytes? bytes).any fun t => t.IsResponse
  | .told (.data _) | .lost => true
  | _ => false

theorem isReply_wrote {bytes : Bytes} {t : PacketType} (h : PacketType.ofBytes? bytes = some t) :
    isReply (.wrote bytes) = decide t.IsResponse := by
  have hany : isReply (.wrote bytes) =
      (PacketType.ofBytes? bytes).any fun t => decide t.IsResponse := rfl
  rw [hany, h]
  rfl

end Mark

namespace Session

/-- What is to be seen of an item that was handled: the answer, and then the data. -/
def replyTo (s : Session) (item : DecodedItem) : List Mark :=
  ((s.answerTo item).map Mark.wrote).toList
    ++ (item.arrival?.map fun a => Mark.told (.data a)).toList

/-- What there is to be seen of the items that were handled. Where the answer to the last of them is
not written, no data of it is told. -/
inductive Shows (s : Session) (done : List DecodedItem) : List Mark → Prop where
  | all (hp : ¬ s.phase.IsAnswering) : Shows s done (done.flatMap s.replyTo)
  /-- Another write failed. -/
  | lost (hp : ¬ s.phase.IsAnswering) : Shows s done (done.flatMap s.replyTo ++ [.lost])
  /-- The answer to the last item is being written. -/
  | answering {before : List DecodedItem} {item : DecodedItem} {bytes : Bytes}
    (hp : s.phase.IsAnswering) (hdone : done = before ++ [item])
    (hanswer : s.answerTo item = some bytes) :
    Shows s done (before.flatMap s.replyTo ++ [.wrote bytes])
  /-- The answer to the last item could not be written. -/
  | unanswered {before : List DecodedItem} {item : DecodedItem} {bytes : Bytes}
    (hp : ¬ s.phase.IsAnswering) (hdone : done = before ++ [item])
    (hanswer : s.answerTo item = some bytes) :
    Shows s done (before.flatMap s.replyTo ++ [.wrote bytes, .lost])

/-- How it went on with what was received on a connection that the broker has accepted. -/
structure Accounts (s : Session) (conn : List Mark) (sessionPresent : Bool)
    (done rejected : List DecodedItem) : Prop where
  accepted : .told (.connected sessionPresent) ∈ conn
  greeting : ∃ c, s.config.greeting = .ok c
  /-- After the broker's answer come the items that were handled, and last those that the session
  has not looked at. -/
  received : ((Decoder.new s.config.bufferSize).feedAll (conn.filterMap Mark.received?)).2.1 =
    .packet (.connack sessionPresent .accepted) :: (done ++ rejected ++ s.items)
  expected : ∀ item ∈ done, item.isExpected = true
  /-- A packet that should not have come ends the connection. -/
  rejected : rejected = [] ∨ .fault .unexpectedPacket ∈ conn
    ∧ ∃ item, rejected = [item] ∧ item.isExpected = false
  shown : s.Shows done (conn.filter Mark.isReply)
  /-- A session waits for more only when it has handled everything. -/
  idle : s.phase = .listening → s.items = []

/-! ### The turns of a connected session -/

/-- The turns of a connected session, with what becomes of the items. -/
inductive Work (s : Session) (m : Moment) : Session × List Mark → Prop where
  | stays : Work s m (s, [])
  | rests (phase : Phase) (lastPing : Nat) (hp : ¬ s.phase.IsAnswering)
    (hphase : phase = .serving ∨ phase = .handling ∨ phase = .listening ∧ s.items = []) :
    Work s m ({ s with phase, lastPing }, [])
  | confirms (event : Option Event) (hp : s.phase = .writing (.response event)) :
    Work s m ({ s with phase := .handling }, (event.map Mark.told).toList)
  | breaks (e : Error) : Work s m (s.failed e, [.lost, .fault e, .closed])
  | reads (bytes : Bytes) (hp : s.phase = .listening)
    (hgood : (s.decoder.feed bytes).2.2 = .ok ()) :
    Work s m ({ s with phase := .serving, decoder := (s.decoder.feed bytes).1,
                       items := s.items ++ (s.decoder.feed bytes).2.1 }, [.received bytes])
  | chokes (bytes : Bytes) (e : Error) (hp : s.phase = .listening)
    (hbad : (s.decoder.feed bytes).2.2 = .error e) :
    Work s m ({ s with decoder := (s.decoder.feed bytes).1,
                       items := s.items ++ (s.decoder.feed bytes).2.1 }.failed e,
      [.received bytes, .fault e, .closed])
  | answers (item : DecodedItem) (rest : List DecodedItem) (bytes : Bytes)
    (hp : s.phase = .handling) (hitems : s.items = item :: rest)
    (hgood : s.itemError? item = none) (hanswer : s.answerTo item = some bytes) :
    Work s m ({ s with phase := .writing (.response (newsOf m.ledger item)), items := rest },
      [.wrote bytes])
  | passes (item : DecodedItem) (rest : List DecodedItem) (hp : s.phase = .handling)
    (hitems : s.items = item :: rest) (hgood : s.itemError? item = none)
    (hanswer : s.answerTo item = none) :
    Work s m ({ s with phase := .handling, items := rest },
      ((newsOf m.ledger item).map Mark.told).toList)
  | rejects (item : DecodedItem) (rest : List DecodedItem) (e : Error) (hp : s.phase = .handling)
    (hitems : s.items = item :: rest) (hbad : s.itemError? item = some e) :
    Work s m ({ s with items := rest }.failed e, [.fault e, .closed])
  | fails (e : Error) (hp : ¬ s.phase.IsAnswering) :
    Work s m (s.failed e, [.fault e, .closed])
  | writes (purpose : Purpose) (bytes : Bytes) (leave : List Mark)
    (hp : ¬ s.phase.IsAnswering)
    (hpurpose : ¬ (Phase.writing purpose).IsAnswering) (hgreeting : purpose ≠ .greeting)
    (hbytes : Mark.isReply (.wrote bytes) = false) (hleave : leave = [] ∨ leave = [.leaving]) :
    Work s m ({ s with phase := .writing purpose }, leave ++ [.wrote bytes])
  | cannotDepart (hp : ¬ s.phase.IsAnswering) :
    Work s m ({ s with phase := .leaving .stopped }, [.leaving, .closed])

section
variable {s : Session} {l : Ledger} {now : Nat} {stopRequested : Bool}

theorem isReply_of_encode {p : Packet} {bytes : Bytes} (h : s.encode p = .ok bytes) :
    Mark.isReply (.wrote bytes) = decide p.type.IsResponse :=
  Mark.isReply_wrote (ofBytes?_of_encode h)

theorem work_of_disconnect {m : Moment} (hp : s.phase = .serving ∨ s.phase = .listening)
    (hturn : s.turn m = ((s.disconnect m.ledger).session,
      .leaving :: (s.disconnect m.ledger).effects.filterMap Effect.mark?)) :
    Work s m (s.turn m) := by
  have hp' : ¬ s.phase.IsAnswering := by
    rcases hp with hp | hp <;> exact hp ▸ id
  rw [hturn]
  unfold disconnect
  cases hbytes : s.encode .disconnect with
  | ok bytes =>
    exact .writes .farewell bytes [.leaving] hp' id nofun (isReply_of_encode hbytes) (.inr rfl)
  | error e => exact .cannotDepart hp'

theorem work_writing {purpose : Purpose} {wake : Wake} (hp : s.phase = .writing purpose)
    (hconnected : s.phase.IsConnected) (h : s.phase.accepts wake = true) :
    Work s ⟨l, now, stopRequested, wake⟩ (s.turn ⟨l, now, stopRequested, wake⟩) := by
  obtain ⟨config, port, phase, decoder, items, lastPing, lastError⟩ := s
  cases hp
  cases wake with
  | written result =>
    cases result with
    | error e =>
      cases purpose with
      | greeting | farewell => cases hconnected
      | _ => exact .breaks e
    | ok u =>
      cases purpose with
      | greeting | farewell => cases hconnected
      | request r => exact .rests .serving lastPing id (.inl rfl)
      | ping => exact .rests .serving now id (.inl rfl)
      | response event =>
        cases event with
        | none => exact .confirms none rfl
        | some e => exact .confirms (some e) rfl
  | _ => cases h

theorem work_serving {wake : Wake} (hp : s.phase = .serving) (h : s.phase.accepts wake = true) :
    Work s ⟨l, now, stopRequested, wake⟩ (s.turn ⟨l, now, stopRequested, wake⟩) := by
  obtain ⟨config, port, phase, decoder, items, lastPing, lastError⟩ := s
  cases hp
  cases wake with
  | run =>
    cases stopRequested with
    | false => exact .rests .handling lastPing id (.inr (.inl rfl))
    | true => exact work_of_disconnect (.inl rfl) rfl
  | _ => cases h

theorem work_listening {wake : Wake} (hp : s.phase = .listening)
    (h : s.phase.accepts wake = true)
    (hproper : Moment.IsProper ⟨l, now, stopRequested, wake⟩) :
    Work s ⟨l, now, stopRequested, wake⟩ (s.turn ⟨l, now, stopRequested, wake⟩) := by
  obtain ⟨config, port, phase, decoder, items, lastPing, lastError⟩ := s
  cases hp
  cases wake with
  | stop => exact .rests .serving lastPing id (.inl rfl)
  | abandoned => exact work_of_disconnect (.inr rfl) rfl
  | request r =>
    refine .writes (.request r) r.packet [] id id nofun ?_ (.inl rfl)
    obtain ⟨encoder, p, hencode, htype, o, ho⟩ := hproper r rfl
    have hkind := Packet.ofBytes?_encode (Encoder.encode_eq_ok_iff.mp hencode).1
    rw [Mark.isReply_wrote hkind, htype, ho]
    cases o <;> rfl
  | read result =>
    cases result with
    | error e => exact .fails e id
    | ok bytes =>
      cases bytes with
      | nil => exact .rests .serving lastPing id (.inl rfl)
      | cons b bs =>
        have hreads := Work.reads (m := ⟨l, now, stopRequested, .read (.ok (b :: bs))⟩)
          (s := ⟨config, port, .listening, decoder, items, lastPing, lastError⟩) (b :: bs) rfl
        have hchokes := Work.chokes (m := ⟨l, now, stopRequested, .read (.ok (b :: bs))⟩)
          (s := ⟨config, port, .listening, decoder, items, lastPing, lastError⟩) (b :: bs)
        unfold turn step observed fault? receive
        dsimp only at hreads hchokes ⊢
        cases hfeed : decoder.feed (b :: bs) with
        | mk decoder' r =>
          obtain ⟨items', result⟩ := r
          rw [hfeed] at hreads hchokes
          cases result with
          | ok u => exact hreads rfl
          | error e => exact hchokes e rfl rfl
  | _ => cases h

theorem work_handling {wake : Wake} (hp : s.phase = .handling) (h : s.phase.accepts wake = true) :
    Work s ⟨l, now, stopRequested, wake⟩ (s.turn ⟨l, now, stopRequested, wake⟩) := by
  have hp' : ¬ s.phase.IsAnswering := hp ▸ id
  cases wake with
  | run =>
    cases hitems : s.items with
    | nil =>
      have hturn : s.turn ⟨l, now, stopRequested, .run⟩ = ((s.listen l now).session,
          ((if s.pingInterval < now - s.lastPing then s.encodeError? .pingreq else none).map
            Mark.fault).toList ++ (s.listen l now).effects.filterMap Effect.mark?) := by
        unfold turn step observed fault?
        rw [hp, hitems]
        rfl
      rw [hturn]
      unfold listen
      dsimp only
      split
      · unfold encodeError? send
        cases hbytes : s.encode .pingreq with
        | ok bytes =>
          exact .writes .ping bytes [] hp' id nofun (isReply_of_encode hbytes) (.inl rfl)
        | error e => exact .fails e hp'
      · exact .rests .listening s.lastPing hp' (.inr (.inr ⟨rfl, hitems⟩))
    | cons item rest =>
      have hturn : s.turn ⟨l, now, stopRequested, .run⟩ =
          (({ s with items := rest }.handle l item).session,
            ((s.itemError? item).map Mark.fault).toList
              ++ ({ s with items := rest }.handle l item).effects.filterMap Effect.mark?) := by
        unfold turn step observed fault?
        rw [hp, hitems]
        rfl
      rw [hturn]
      rcases handle_cases { s with items := rest } l item with ⟨e, he, l', hhandle⟩
        | ⟨hgood, ⟨bytes, hanswer, hhandle⟩ | ⟨hanswer, hhandle⟩⟩
      · have he' : s.itemError? item = some e := he
        rw [hhandle, he']
        exact .rejects item rest e hp hitems he
      · have hgood' : s.itemError? item = none := hgood
        rw [hhandle, hgood']
        exact .answers item rest bytes hp hitems hgood hanswer
      · have hgood' : s.itemError? item = none := hgood
        rw [hhandle, hgood']
        have hpasses := Work.passes (m := ⟨l, now, stopRequested, .run⟩) item rest hp hitems hgood
          hanswer
        cases hnews : newsOf l item with
        | none =>
          dsimp only at hpasses
          rw [hnews] at hpasses
          exact hpasses
        | some e =>
          dsimp only at hpasses
          rw [hnews] at hpasses
          exact hpasses
  | _ =>
    rw [hp] at h
    cases h

theorem work_spec {m : Moment} (hp : s.phase.IsConnected) (hm : m.IsProper) :
    Work s m (s.turn m) := by
  obtain ⟨l, now, stopRequested, wake⟩ := m
  cases haccepts : s.phase.accepts wake with
  | false =>
    rw [turn_of_not_accepts haccepts]
    exact .stays
  | true =>
    cases hphase : s.phase with
    | writing purpose => exact work_writing hphase hp haccepts
    | serving => exact work_serving hphase haccepts
    | handling => exact work_handling hphase haccepts
    | listening => exact work_listening hphase haccepts hm
    | _ =>
      rw [hphase] at hp
      cases hp

end

end Session

/-! ### Responses fit -/

/-- A packet that is written in response has at most four bytes. -/
theorem Packet.encode_of_isResponse {p : Packet} (h : p.type.IsResponse) :
    ∃ bytes, p.encode = .ok bytes ∧ bytes.length ≤ 4 := by
  have hfits : ∃ body, Field.Spells p.fields body [] ∧ p.remainingLength ≤ 2 := by
    cases p with
    | puback i | pubrec i | pubrel i | pubcomp i =>
      exact ⟨_, ⟨by simp [fields, Field.Fits], rfl⟩, Nat.le_refl 2⟩
    | pingresp => exact ⟨_, ⟨by simp [fields], rfl⟩, Nat.zero_le 2⟩
    | _ => cases h
  obtain ⟨body, hspells, hsize⟩ := hfits
  refine ⟨_, encode_eq_ok_iff.mpr ⟨hsize.trans (by decide), body, hspells, rfl⟩, ?_⟩
  rw [List.length_cons, List.length_append, VarLength.length_digits_of_lt (by omega),
    length_of_spells hspells]
  omega

/-- A CONNECT has more bytes than any packet that is written in response. -/
theorem Packet.length_of_encode_connect {c : Connect} {bytes : Bytes}
    (h : Packet.encode (.connect c) = .ok bytes) : 4 ≤ bytes.length := by
  obtain ⟨_, body, hspells, hbytes⟩ := encode_eq_ok_iff.mp h
  have hbody := length_of_spells hspells
  have hsize : 12 ≤ Packet.remainingLength (.connect c) := by
    unfold remainingLength Connect.remainingLength
    dsimp only
    omega
  rw [hbytes, List.length_cons, List.length_append]
  omega

namespace Session

variable {s s' : Session} {conn es : List Mark}

theorem isResponse_of_responseTo {item : DecodedItem} {p : Packet} (h : responseTo item = some p) :
    p.type.IsResponse := by
  have hpublish : ∀ q, responseTo (.packet (.publish q)) = some p → p.type.IsResponse := by
    intro q hq
    unfold responseTo at hq
    cases hqos : q.qos <;> simp only [hqos] at hq <;> cases hq <;> trivial
  cases item with
  | chunk c =>
    by_cases hzero : c.offset = 0
    · exact hpublish c.publish ((responseTo_chunk hzero).symm.trans h)
    · have hnone : responseTo (.chunk c) = none := if_neg hzero
      cases hnone.symm.trans h
  | packet q =>
    cases q with
    | publish q => exact hpublish q h
    | pubrec i | pubrel i | pingreq =>
      cases h
      trivial
    | _ => cases h

theorem encode_response {config : Config} {c : Bytes} (hc : config.greeting = .ok c)
    {item : DecodedItem} {p : Packet} (hp : responseTo item = some p) :
    ∃ bytes, (Encoder.new config.bufferSize).encode p = .ok bytes := by
  obtain ⟨hconnect, hfits⟩ := Encoder.encode_eq_ok_iff.mp hc
  obtain ⟨bytes, hbytes, hlength⟩ := Packet.encode_of_isResponse (isResponse_of_responseTo hp)
  have hmore := Packet.length_of_encode_connect hconnect
  exact ⟨bytes, Encoder.encode_eq_ok_iff.mpr ⟨hbytes, (hlength.trans hmore).trans hfits⟩⟩

theorem encodeError?_of_responseTo {c : Bytes} (hc : s.config.greeting = .ok c)
    {item : DecodedItem} : (responseTo item).bind s.encodeError? = none := by
  cases hp : responseTo item with
  | none => rfl
  | some p =>
    obtain ⟨bytes, hbytes⟩ := encode_response hc hp
    have hencode : s.encode p = .ok bytes := hbytes
    rw [Option.bind_some, encodeError?, hencode]

/-- Nothing but an unexpected packet is wrong with an item. -/
theorem itemError?_eq {c : Bytes} (hc : s.config.greeting = .ok c) (item : DecodedItem) :
    s.itemError? item = if item.isExpected then none else some .unexpectedPacket := by
  have hnone : (responseTo item).bind s.encodeError? = none := encodeError?_of_responseTo hc
  cases item with
  | chunk c => exact hnone
  | packet p =>
    cases p with
    | connect _ | connack _ _ | subscribe _ _ | unsubscribe _ _ | disconnect => rfl
    | _ => exact hnone

theorem answerTo_congr (h : s'.config = s.config) : s'.answerTo = s.answerTo := by
  unfold answerTo encode
  rw [h]

theorem replyTo_congr (h : s'.config = s.config) : s'.replyTo = s.replyTo := by
  unfold replyTo
  rw [answerTo_congr h]

theorem isReply_of_answerTo {item : DecodedItem} {bytes : Bytes}
    (h : s.answerTo item = some bytes) : Mark.isReply (.wrote bytes) = true := by
  obtain ⟨p, hp, hbytes⟩ := Option.bind_eq_some_iff.mp h
  have hencode : s.encode p = .ok bytes := by
    cases hencode : s.encode p with
    | error e =>
      rw [hencode] at hbytes
      cases hbytes
    | ok bytes' =>
      rw [hencode] at hbytes
      cases hbytes
      rfl
  rw [isReply_of_encode hencode]
  exact decide_eq_true (isResponse_of_responseTo hp)

/-- Of what is told of an item, it is the data that has to do with messages. -/
theorem isReply_newsOf (l : Ledger) (item : DecodedItem) :
    ((newsOf l item).map Mark.told).toList.filter Mark.isReply =
      (item.arrival?.map fun a => Mark.told (.data a)).toList := by
  cases item with
  | chunk c => rfl
  | packet p =>
    cases p with
    | puback i | pubcomp i | suback i codes | unsuback i =>
      unfold newsOf
      dsimp only
      split <;> rfl
    | _ => rfl

theorem Shows.congr {done : List DecodedItem} {shown : List Mark} (h : s.Shows done shown)
    (hconfig : s'.config = s.config) (hp : ¬ s.phase.IsAnswering) (hp' : ¬ s'.phase.IsAnswering) :
    s'.Shows done shown := by
  have hreply := replyTo_congr hconfig
  cases h with
  | all => exact hreply ▸ .all hp'
  | lost => exact hreply ▸ .lost hp'
  | answering hanswering => exact absurd hanswering hp
  | unanswered _ hdone hanswer =>
    exact hreply ▸ .unanswered hp' hdone (answerTo_congr hconfig ▸ hanswer)

/-! ### What a session knows of its connection -/

structure Attempts (s : Session) (conn : List Mark) : Prop where
  received : (Decoder.new s.config.bufferSize).feedAll (conn.filterMap Mark.received?) =
    (s.decoder, s.items, .ok ())
  unaccepted : ∀ sessionPresent, .told (.connected sessionPresent) ∉ conn
  shown : conn.filter Mark.isReply = []
  greeting : s.phase = .connecting ∨ ∃ c, s.config.greeting = .ok c

/-- A connection that the broker has accepted, on which no write has failed. -/
structure Serves (s : Session) (conn : List Mark) (sessionPresent : Bool)
    (done : List DecodedItem) : Prop where
  accepted : .told (.connected sessionPresent) ∈ conn
  received : (Decoder.new s.config.bufferSize).feedAll (conn.filterMap Mark.received?) =
    (s.decoder, .packet (.connack sessionPresent .accepted) :: (done ++ s.items), .ok ())
  expected : ∀ item ∈ done, item.isExpected = true
  greeting : ∃ c, s.config.greeting = .ok c
  answering : ∀ event, s.phase = .writing (.response event) → ∃ before item bytes,
    done = before ++ [item] ∧ s.answerTo item = some bytes
      ∧ conn.filter Mark.isReply = before.flatMap s.replyTo ++ [.wrote bytes]
      ∧ (event.map Mark.told).toList.filter Mark.isReply =
        (item.arrival?.map fun a => Mark.told (.data a)).toList
  shown : ¬ s.phase.IsAnswering →
    conn.filter Mark.isReply = done.flatMap s.replyTo
  idle : s.phase = .listening → s.items = []

/-- A connection that has ended: before the broker accepted it, or after that. -/
def Ended (s : Session) (conn : List Mark) : Prop :=
  ((∀ sessionPresent, .told (.connected sessionPresent) ∉ conn)
      ∧ ∀ x ∈ conn.filter Mark.isReply, x = .lost)
    ∨ ∃ sessionPresent done rejected, s.Accounts conn sessionPresent done rejected

/-- How a session and the marks since its last attempt belong together. -/
inductive Knows (s : Session) (conn : List Mark) : Prop where
  | attempting (hp : s.phase.IsAttempt) (h : s.Attempts conn)
  | serving (sessionPresent : Bool) (done : List DecodedItem)
    (hp : s.phase.IsConnected ∨ s.phase = .writing .farewell)
    (h : s.Serves conn sessionPresent done)
  | ended (hattempt : ¬ s.phase.IsAttempt) (hconnected : ¬ s.phase.IsConnected)
    (hfarewell : s.phase ≠ .writing .farewell) (h : s.Ended conn)

theorem Attempts.ended (h : s.Attempts conn) (hes : ∀ x ∈ es.filter Mark.isReply, x = .lost)
    (htold : ∀ e, .told e ∉ es) : s'.Ended (conn ++ es) := by
  refine .inl ⟨?_, ?_⟩
  · intro sessionPresent hmem
    rcases List.mem_append.mp hmem with hmem | hmem
    · exact h.unaccepted sessionPresent hmem
    · exact htold _ hmem
  · rw [List.filter_append, h.shown]
    exact hes

theorem Serves.ended {sessionPresent : Bool} {done : List DecodedItem}
    (h : s.Serves conn sessionPresent done) (hconfig : s'.config = s.config)
    (hitems : s'.items = s.items) (hp : s'.phase ≠ .listening)
    (hes : es.filterMap Mark.received? = [])
    (hshown : s'.Shows done (conn.filter Mark.isReply ++ es.filter Mark.isReply)) :
    s'.Ended (conn ++ es) := by
  refine .inr ⟨sessionPresent, done, [], List.mem_append_left _ h.accepted, ?_, ?_, h.expected,
    .inl rfl, ?_, fun hlistening => absurd hlistening hp⟩
  · rw [hconfig]
    exact h.greeting
  · rw [List.filterMap_append, hes, List.append_nil, hconfig, h.received, hitems, List.append_nil]
  · rw [List.filter_append]
    exact hshown

theorem Serves.shows_lost {sessionPresent : Bool} {done : List DecodedItem}
    (h : s.Serves conn sessionPresent done) (hconfig : s'.config = s.config)
    (hp' : ¬ s'.phase.IsAnswering) : s'.Shows done (conn.filter Mark.isReply ++ [.lost]) := by
  have hreply := replyTo_congr hconfig
  by_cases hp : s.phase.IsAnswering
  · obtain ⟨event, hp⟩ := hp.exists
    obtain ⟨before, item, bytes, hdone, hanswer, hshown, _⟩ := h.answering event hp
    rw [hshown, List.append_assoc, ← hreply]
    exact .unanswered hp' hdone (answerTo_congr hconfig ▸ hanswer)
  · rw [h.shown hp, ← hreply]
    exact .lost hp'

theorem Serves.shows_all {sessionPresent : Bool} {done : List DecodedItem}
    (h : s.Serves conn sessionPresent done) (hconfig : s'.config = s.config)
    (hp : ¬ s.phase.IsAnswering) (hp' : ¬ s'.phase.IsAnswering) :
    s'.Shows done (conn.filter Mark.isReply ++ []) := by
  rw [h.shown hp, List.append_nil, ← replyTo_congr hconfig]
  exact .all hp'

theorem Serves.accounts {sessionPresent : Bool} {done : List DecodedItem}
    (h : s.Serves conn sessionPresent done) : s.Ended conn := by
  refine .inr ⟨sessionPresent, done, [], h.accepted, h.greeting, ?_, h.expected, .inl rfl, ?_,
    h.idle⟩
  · rw [h.received, List.append_nil]
  · by_cases hp : s.phase.IsAnswering
    · obtain ⟨event, heq⟩ := hp.exists
      obtain ⟨before, item, bytes, hdone, hanswer, hshown, _⟩ := h.answering event heq
      rw [hshown]
      exact .answering hp hdone hanswer
    · rw [h.shown hp]
      exact .all hp

theorem Serves.expected_concat {sessionPresent : Bool} {done : List DecodedItem}
    {item : DecodedItem} (h : s.Serves conn sessionPresent done)
    (hgood : s.itemError? item = none) : ∀ x ∈ done ++ [item], x.isExpected = true := by
  obtain ⟨c, hc⟩ := h.greeting
  rw [itemError?_eq hc] at hgood
  intro x hx
  rcases List.mem_append.mp hx with hx | hx
  · exact h.expected x hx
  · rw [List.mem_singleton.mp hx]
    by_contra hunexpected
    rw [if_neg hunexpected] at hgood
    cases hgood

section
variable {sessionPresent : Bool} {done : List DecodedItem}

theorem Serves.received_append (h : s.Serves conn sessionPresent done)
    (hes : es.filterMap Mark.received? = []) :
    (Decoder.new s.config.bufferSize).feedAll ((conn ++ es).filterMap Mark.received?) =
      (s.decoder, .packet (.connack sessionPresent .accepted) :: (done ++ s.items), .ok ()) := by
  rw [List.filterMap_append, hes, List.append_nil]
  exact h.received

/-- A turn in which no item is handled and nothing is received. -/
theorem Serves.goto (h : s.Serves conn sessionPresent done) (hp : ¬ s.phase.IsAnswering)
    {phase : Phase} {lastPing : Nat} (hp' : ¬ phase.IsAnswering)
    (hidle : phase = .listening → s.items = []) (hreceived : es.filterMap Mark.received? = [])
    (hes : es.filter Mark.isReply = []) :
    Serves { s with phase, lastPing } (conn ++ es) sessionPresent done := by
  refine ⟨List.mem_append_left _ h.accepted, h.received_append hreceived, h.expected, h.greeting,
    fun event heq => ?_, fun _ => ?_, hidle⟩
  · have heq' : phase = .writing (.response event) := heq
    exact absurd (heq' ▸ trivial) hp'
  · rw [List.filter_append, hes, List.append_nil]
    exact h.shown hp

/-- The answer to the last item was written, and now the item is told of. -/
theorem Serves.confirms (h : s.Serves conn sessionPresent done) {event : Option Event}
    (hp : s.phase = .writing (.response event)) :
    Serves { s with phase := .handling } (conn ++ (event.map Mark.told).toList) sessionPresent
      done := by
  obtain ⟨before, item, bytes, hdone, hanswer, hshown, hnews⟩ := h.answering event hp
  have hmarks : (event.map Mark.told).toList.filterMap Mark.received? = [] := by
    cases event <;> rfl
  have hreply : s.replyTo item = .wrote bytes ::
      (item.arrival?.map fun a => Mark.told (.data a)).toList := by
    unfold replyTo
    rw [hanswer]
    rfl
  refine ⟨List.mem_append_left _ h.accepted, h.received_append hmarks, h.expected, h.greeting,
    nofun, fun _ => ?_, nofun⟩
  rw [List.filter_append, hshown, hnews, hdone, List.flatMap_append, List.flatMap_singleton]
  change _ = _ ++ s.replyTo item
  rw [hreply, List.append_assoc]
  rfl

theorem Serves.reads (h : s.Serves conn sessionPresent done) {bytes : Bytes}
    (hp : s.phase = .listening) (hgood : (s.decoder.feed bytes).2.2 = .ok ()) :
    Serves { s with phase := .serving, decoder := (s.decoder.feed bytes).1,
                    items := s.items ++ (s.decoder.feed bytes).2.1 }
      (conn ++ [.received bytes]) sessionPresent done := by
  refine ⟨List.mem_append_left _ h.accepted, ?_, h.expected, h.greeting, nofun, fun _ => ?_, nofun⟩
  · rw [List.filterMap_append]
    refine (Decoder.feedAll_concat h.received hgood).trans ?_
    rw [List.cons_append, List.append_assoc]
  · rw [List.filter_append, h.shown (hp ▸ id)]
    exact List.append_nil _

/-- The items before the bytes that cannot be decoded are there, and are not looked at. -/
theorem Serves.chokes (h : s.Serves conn sessionPresent done) {bytes : Bytes} {e : Error}
    (hp : s.phase = .listening) :
    Ended ({ s with decoder := (s.decoder.feed bytes).1,
                    items := s.items ++ (s.decoder.feed bytes).2.1 }.failed e)
      (conn ++ [.received bytes, .fault e, .closed]) := by
  refine .inr ⟨sessionPresent, done, [], List.mem_append_left _ h.accepted, h.greeting, ?_,
    h.expected, .inl rfl, ?_, nofun⟩
  · rw [List.filterMap_append, List.append_nil]
    refine (Decoder.items_feedAll_concat h.received bytes).trans ?_
    rw [List.cons_append, List.append_assoc]
    rfl
  · rw [List.filter_append]
    exact h.shows_all rfl (hp ▸ id) id

theorem Serves.received_handled (h : s.Serves conn sessionPresent done) {item : DecodedItem}
    {rest : List DecodedItem} (hitems : s.items = item :: rest)
    (hes : es.filterMap Mark.received? = []) :
    (Decoder.new s.config.bufferSize).feedAll ((conn ++ es).filterMap Mark.received?) =
      (s.decoder, .packet (.connack sessionPresent .accepted) :: (done ++ [item] ++ rest),
        .ok ()) := by
  rw [h.received_append hes, hitems, List.append_cons]

/-- The next item is answered, and not told of before the answer is written. -/
theorem Serves.answers (h : s.Serves conn sessionPresent done) {item : DecodedItem}
    {rest : List DecodedItem} {bytes : Bytes} (l : Ledger) (hp : s.phase = .handling)
    (hitems : s.items = item :: rest) (hgood : s.itemError? item = none)
    (hanswer : s.answerTo item = some bytes) :
    Serves { s with phase := .writing (.response (newsOf l item)), items := rest }
      (conn ++ [.wrote bytes]) sessionPresent (done ++ [item]) := by
  have hreply : Mark.isReply (.wrote bytes) = true := isReply_of_answerTo hanswer
  refine ⟨List.mem_append_left _ h.accepted, h.received_handled hitems rfl,
    h.expected_concat hgood, h.greeting, fun event heq => ?_, fun hnot => absurd trivial hnot,
    nofun⟩
  cases heq
  refine ⟨done, item, bytes, rfl, hanswer, ?_, isReply_newsOf l item⟩
  rw [List.filter_append, h.shown (hp ▸ id), List.filter_cons, if_pos hreply]
  rfl

theorem Serves.passes (h : s.Serves conn sessionPresent done) {item : DecodedItem}
    {rest : List DecodedItem} (l : Ledger) (hp : s.phase = .handling)
    (hitems : s.items = item :: rest) (hgood : s.itemError? item = none)
    (hanswer : s.answerTo item = none) :
    Serves { s with phase := .handling, items := rest }
      (conn ++ ((newsOf l item).map Mark.told).toList) sessionPresent (done ++ [item]) := by
  have hmarks : ((newsOf l item).map Mark.told).toList.filterMap Mark.received? = [] := by
    cases newsOf l item <;> rfl
  have hreply : s.replyTo item = (item.arrival?.map fun a => Mark.told (.data a)).toList := by
    unfold replyTo
    rw [hanswer]
    rfl
  refine ⟨List.mem_append_left _ h.accepted, h.received_handled hitems hmarks,
    h.expected_concat hgood, h.greeting, nofun, fun _ => ?_, nofun⟩
  rw [List.filter_append, h.shown (hp ▸ id), isReply_newsOf, List.flatMap_append,
    List.flatMap_singleton, ← hreply]
  rfl

theorem Serves.rejects (h : s.Serves conn sessionPresent done) {item : DecodedItem}
    {rest : List DecodedItem} {e : Error} (hp : s.phase = .handling)
    (hitems : s.items = item :: rest) (hbad : s.itemError? item = some e) :
    Ended ({ s with items := rest }.failed e) (conn ++ [.fault e, .closed]) := by
  obtain ⟨c, hc⟩ := h.greeting
  -- With a greeting that fits every answer does, so only the kind of the packet can be wrong.
  rw [itemError?_eq hc] at hbad
  split at hbad
  · cases hbad
  · rename_i hunexpected
    cases hbad
    refine .inr ⟨sessionPresent, done, [item], List.mem_append_left _ h.accepted, h.greeting,
      congrArg (fun r => r.2.1) (h.received_handled hitems rfl), h.expected,
      .inr ⟨?_, item, rfl, ?_⟩, ?_, nofun⟩
    · simp
    · simpa using hunexpected
    · rw [List.filter_append]
      exact h.shows_all rfl (hp ▸ id) id

theorem Serves.work {m : Moment} {r : Session × List Mark} (h : s.Serves conn sessionPresent done)
    (hp : s.phase.IsConnected) (hwork : Work s m r) : Knows r.1 (conn ++ r.2) := by
  cases hwork with
  | stays =>
    rw [List.append_nil]
    exact .serving sessionPresent done (.inl hp) h
  | rests phase lastPing hp' hphase =>
    have hquiet : phase.IsConnected ∧ ¬ phase.IsAnswering
        ∧ (phase = .listening → s.items = []) := by
      rcases hphase with rfl | rfl | ⟨rfl, hitems⟩
      · exact ⟨trivial, id, nofun⟩
      · exact ⟨trivial, id, nofun⟩
      · exact ⟨trivial, id, fun _ => hitems⟩
    exact .serving sessionPresent done (.inl hquiet.1)
      (h.goto hp' hquiet.2.1 hquiet.2.2 rfl rfl)
  | confirms event hp' => exact .serving sessionPresent done (.inl trivial) (h.confirms hp')
  | breaks e =>
    exact .ended id id nofun (h.ended rfl rfl nofun rfl (h.shows_lost rfl id))
  | reads bytes hp' hgood =>
    exact .serving sessionPresent done (.inl trivial) (h.reads hp' hgood)
  | chokes bytes e hp' hbad => exact .ended id id nofun (h.chokes hp')
  | answers item rest bytes hp' hitems hgood hanswer =>
    exact .serving sessionPresent (done ++ [item]) (.inl trivial)
      (h.answers m.ledger hp' hitems hgood hanswer)
  | passes item rest hp' hitems hgood hanswer =>
    exact .serving sessionPresent (done ++ [item]) (.inl trivial)
      (h.passes m.ledger hp' hitems hgood hanswer)
  | rejects item rest e hp' hitems hbad => exact .ended id id nofun (h.rejects hp' hitems hbad)
  | fails e hp' =>
    exact .ended id id nofun (h.ended rfl rfl nofun rfl (h.shows_all rfl hp' id))
  | writes purpose bytes leave hp' hpurpose hgreeting hbytes hleave =>
    have hmarks : (leave ++ [Mark.wrote bytes]).filterMap Mark.received? = []
        ∧ (leave ++ [Mark.wrote bytes]).filter Mark.isReply = [] := by
      rcases hleave with rfl | rfl
      · exact ⟨rfl, by simp [hbytes]⟩
      · have hleaving : Mark.isReply .leaving = false := rfl
        exact ⟨rfl, by simp [hbytes, hleaving]⟩
    have hphase : (Phase.writing purpose).IsConnected
        ∨ Phase.writing purpose = .writing .farewell := by
      cases purpose with
      | greeting => exact absurd rfl hgreeting
      | farewell => exact .inr rfl
      | _ => exact .inl trivial
    exact .serving sessionPresent done hphase (h.goto hp' hpurpose nofun hmarks.1 hmarks.2)
  | cannotDepart hp' =>
    exact .ended id id nofun (h.ended rfl rfl nofun rfl (h.shows_all rfl hp' id))

end

theorem Attempts.goes_on (h : s.Attempts conn) (hconfig : s'.config = s.config)
    (hreceived : (Decoder.new s.config.bufferSize).feedAll
      ((conn ++ es).filterMap Mark.received?) = (s'.decoder, s'.items, .ok ()))
    (hes : es.filter Mark.isReply = []) (htold : ∀ e, .told e ∉ es)
    (hgreeting : ∃ c, s.config.greeting = .ok c) : s'.Attempts (conn ++ es) := by
  rw [← hconfig] at hreceived hgreeting
  refine ⟨hreceived, fun sessionPresent hmem => ?_, ?_, .inr hgreeting⟩
  · rcases List.mem_append.mp hmem with hmem | hmem
    · exact h.unaccepted sessionPresent hmem
    · exact htold _ hmem
  · rw [List.filter_append, h.shown, hes]
    rfl

theorem Attempts.turn {m : Moment} {r : Session × List Mark} (h : s.Attempts conn)
    (hp : s.phase.IsAttempt) (hturn : Turn s m r) : Knows r.1 (conn ++ r.2) := by
  have hidle := Phase.not_isConnected_of_isAttempt hp
  have hnot : ∀ {phase : Phase}, s.phase = phase → ¬ phase.IsAttempt → False :=
    fun heq hphase => hphase (heq ▸ hp)
  have hgreeting : s.phase ≠ .connecting → ∃ c, s.config.greeting = .ok c :=
    h.greeting.resolve_left
  cases hturn with
  | stays =>
    rw [List.append_nil]
    exact .attempting hp h
  | leaves final hp' => exact .ended id id nofun (h.ended nofun nofun)
  | attempts hp' => exact (hnot hp' id).elim
  | greets hp' hc =>
    rename_i c
    have hwrote : Mark.isReply (.wrote c) = false := isReply_of_encode hc
    have hopened : Mark.isReply .opened = false := rfl
    refine .attempting trivial (h.goes_on rfl ?_ (by simp [hwrote, hopened]) (by simp) ⟨c, hc⟩)
    rw [List.filterMap_append]
    exact (congrArg _ (List.append_nil _)).trans h.received
  | cannotGreet hp' he => exact .ended id id nofun (h.ended nofun (by simp))
  | fails items e hp' => exact .ended id id nofun (h.ended nofun (by simp))
  | loses e hp' => exact .ended id id nofun (h.ended (by simp [Mark.isReply]) (by simp))
  | chokes decoder items bytes e hp' hlimit =>
    exact .ended id id nofun (h.ended nofun (by simp))
  | waits deadline hp' phase hphase =>
    rw [List.append_nil]
    have hgreeting : ∃ c, s.config.greeting = .ok c := by
      rcases hp' with hp' | hp' | hp' <;> exact hgreeting (hp' ▸ nofun)
    have hattempt : phase.IsAttempt := by
      rcases hphase with rfl | rfl <;> trivial
    exact .attempting hattempt ⟨h.received, h.unaccepted, h.shown, .inr hgreeting⟩
  | hears deadline bytes hp' hgood =>
    refine .attempting trivial (h.goes_on rfl ?_ rfl (by simp) (hgreeting (hp' ▸ nofun)))
    rw [List.filterMap_append]
    exact Decoder.feedAll_concat h.received hgood
  | enters deadline sessionPresent rest hp' hitems =>
    have hreceived := h.received
    refine .serving sessionPresent [] (.inl trivial) ⟨List.mem_append_right _ List.mem_cons_self,
      ?_, nofun, hgreeting (hp' ▸ nofun), nofun, fun _ => ?_, nofun⟩
    · rw [hitems] at hreceived
      rw [List.filterMap_append]
      exact (congrArg _ (List.append_nil _)).trans hreceived
    · rw [List.filter_append, h.shown]
      rfl
  | works s' hp' | departs _ hp' | cannotDepart _ hp' => exact (hidle hp').elim
  | reads _ _ _ hp' | delivers _ _ hp' | confirms _ hp' | responds _ _ _ _ hp' | pings _ hp'
  | serves _ hp' | departed hp' | departedUnheard hp' | reports hp' | pauses _ hp' | sleeps _ hp'
  | wakes _ hp' | finishes _ hp' => exact (hnot hp' id).elim
  | reopens deadline hp' => rcases hp' with hp' | hp' <;> exact (hnot hp' id).elim

/-- A farewell is written, or not, and then the session ends. -/
theorem Serves.farewell {sessionPresent : Bool} {done : List DecodedItem}
    (h : s.Serves conn sessionPresent done) (hp : s.phase = .writing .farewell) (m : Moment) :
    Knows (s.turn m).1 (conn ++ (s.turn m).2) := by
  have hp' : ¬ s.phase.IsAnswering := hp ▸ id
  cases haccepts : s.phase.accepts m.wake with
  | false =>
    rw [turn_of_not_accepts haccepts, List.append_nil]
    exact .serving sessionPresent done (.inr hp) h
  | true =>
    obtain ⟨l, now, stopRequested, wake⟩ := m
    obtain ⟨config, port, phase, decoder, items, lastPing, lastError⟩ := s
    cases hp
    cases wake with
    | written result =>
      cases result with
      | ok u => exact .ended id id nofun (h.ended rfl rfl nofun rfl (h.shows_all rfl hp' id))
      | error e => exact .ended id id nofun (h.ended rfl rfl nofun rfl (h.shows_lost rfl id))
    | _ => cases haccepts

theorem Ended.goto (h : s.Ended conn) (hp : ¬ s.phase.IsAnswering)
    {phase : Phase} (hp' : ¬ phase.IsAnswering) (hphase : phase ≠ .listening)
    (hreceived : es.filterMap Mark.received? = []) (hes : es.filter Mark.isReply = [])
    (htold : ∀ sessionPresent, .told (.connected sessionPresent) ∉ es) :
    Ended { s with phase } (conn ++ es) := by
  rcases h with ⟨hunaccepted, hlost⟩ | ⟨sessionPresent, done, rejected, h⟩
  · refine .inl ⟨?_, ?_⟩
    · intro sessionPresent hmem
      rcases List.mem_append.mp hmem with hmem | hmem
      · exact hunaccepted sessionPresent hmem
      · exact htold sessionPresent hmem
    · rw [List.filter_append, hes, List.append_nil]
      exact hlost
  · refine .inr ⟨sessionPresent, done, rejected, List.mem_append_left _ h.accepted, h.greeting, ?_,
      h.expected, ?_, ?_, fun heq => absurd heq hphase⟩
    · rw [List.filterMap_append, hreceived, List.append_nil]
      exact h.received
    · exact h.rejected.imp_right fun ⟨hfault, hitem⟩ => ⟨List.mem_append_left _ hfault, hitem⟩
    · rw [List.filter_append, hes, List.append_nil]
      exact h.shown.congr rfl hp hp'

theorem quiet_closing (e : Error) :
    (e.closing.map Mark.told).filterMap Mark.received? = []
      ∧ (e.closing.map Mark.told).filter Mark.isReply = []
      ∧ (∀ sessionPresent, .told (.connected sessionPresent) ∉ e.closing.map Mark.told)
      ∧ .attempt ∉ e.closing.map Mark.told := by
  unfold Error.closing
  split <;> exact ⟨rfl, rfl, by simp, by simp⟩

theorem Ended.turn {m : Moment} {r : Session × List Mark} (h : s.Ended conn)
    (hattempt : ¬ s.phase.IsAttempt) (hconnected : ¬ s.phase.IsConnected)
    (hfarewell : s.phase ≠ .writing .farewell) (hlimit : s.decoder.limit = s.config.bufferSize)
    (hturn : Turn s m r) :
    (r.2 = [.attempt] ∧ Knows r.1 []) ∨ .attempt ∉ r.2 ∧ Knows r.1 (conn ++ r.2) := by
  have hp : ¬ s.phase.IsAnswering := by
    intro hanswering
    obtain ⟨event, heq⟩ := hanswering.exists
    exact hconnected (heq ▸ trivial)
  have hquiet : ∀ {phase : Phase}, ¬ phase.IsAnswering → phase ≠ .listening →
      ¬ phase.IsAttempt → ¬ phase.IsConnected → phase ≠ .writing .farewell →
        Knows { s with phase } (conn ++ []) :=
    fun hanswering hlistening hattempt hconnected hfarewell =>
      .ended hattempt hconnected hfarewell (h.goto hp hanswering hlistening rfl rfl nofun)
  have hattempting : ∀ {phase : Phase}, s.phase = phase → phase.IsAttempt → False :=
    fun heq hphase => hattempt (heq ▸ hphase)
  have hserving : ∀ {phase : Phase}, s.phase = phase → phase.IsConnected → False :=
    fun heq hphase => hconnected (heq ▸ hphase)
  cases hturn with
  | stays =>
    rw [List.append_nil]
    exact .inr ⟨nofun, .ended hattempt hconnected hfarewell h⟩
  | leaves final hp' => exact .inr ⟨nofun, hquiet id nofun id id nofun⟩
  | attempts hp' =>
    refine .inl ⟨rfl, .attempting trivial ⟨?_, nofun, rfl, .inl rfl⟩⟩
    have hdecoder : s.decoder.reset = Decoder.new s.config.bufferSize := by
      unfold Decoder.reset Decoder.new
      rw [hlimit]
    exact congrArg (fun d => (d, [], Except.ok ())) hdecoder.symm
  | reports hp' =>
    obtain ⟨hreceived, hreply, htold, hattempt⟩ :=
      quiet_closing (s.lastError.getD .connectionClosed)
    exact .inr ⟨hattempt, .ended id id nofun (h.goto hp id nofun hreceived hreply htold)⟩
  | pauses deadline hp' hr => exact .inr ⟨nofun, hquiet id nofun id id nofun⟩
  | sleeps deadline hp' => exact .inr ⟨nofun, hquiet id nofun id id nofun⟩
  | wakes deadline hp' => exact .inr ⟨nofun, hquiet id nofun id id nofun⟩
  | reopens deadline hp' => exact .inr ⟨nofun, hquiet id nofun id id nofun⟩
  | finishes final hp' =>
    exact .inr ⟨by simp, .ended id id nofun (h.goto hp id nofun rfl rfl (by simp))⟩
  | fails _ _ hp' | loses _ hp' | chokes _ _ _ _ hp' =>
    exact (hp'.elim hattempt hconnected).elim
  | works _ hp' | departs _ hp' | cannotDepart _ hp' => exact (hconnected hp').elim
  | greets hp' | cannotGreet hp' | hears _ _ hp' | enters _ _ _ hp' =>
    exact (hattempting hp' trivial).elim
  | waits _ hp' => rcases hp' with hp' | hp' | hp' <;> exact (hattempting hp' trivial).elim
  | reads _ _ _ hp' | delivers _ _ hp' | confirms _ hp' | responds _ _ _ _ hp' | pings _ hp'
  | serves _ hp' => exact (hserving hp' trivial).elim
  | departed hp' | departedUnheard hp' => exact (hfarewell hp').elim

/-! ### Runs -/

theorem limit_turn (m : Moment) : (s.turn m).1.decoder.limit = s.decoder.limit := by
  have hturn := turn_spec s m
  generalize s.turn m = r at hturn ⊢
  cases hturn with
  | chokes _ _ _ _ _ hlimit => exact hlimit
  | reads _ _ _ _ hlimit => exact hlimit
  | works s' _ _ _ _ _ hdecoder => rw [hdecoder]
  | _ => rfl

theorem attempt_not_mem_turn {m : Moment} (hp : s.phase ≠ .opening) :
    .attempt ∉ (s.turn m).2 := by
  have hturn := turn_spec s m
  generalize s.turn m = r at hturn ⊢
  cases hturn with
  | attempts hp' => exact absurd hp' hp
  | _ => simp

theorem Knows.turn {m : Moment} (h : Knows s conn)
    (hlimit : s.decoder.limit = s.config.bufferSize) (hm : m.IsProper) :
    ((s.turn m).2 = [.attempt] ∧ Knows (s.turn m).1 [])
      ∨ .attempt ∉ (s.turn m).2 ∧ Knows (s.turn m).1 (conn ++ (s.turn m).2) := by
  cases h with
  | attempting hp h =>
    refine .inr ⟨attempt_not_mem_turn fun heq => ?_, h.turn hp (turn_spec s m)⟩
    rw [heq] at hp
    exact hp
  | serving sessionPresent done hp h =>
    rcases hp with hp | hp
    · refine .inr ⟨attempt_not_mem_turn fun heq => ?_, h.work hp (work_spec hp hm)⟩
      rw [heq] at hp
      exact hp
    · exact .inr ⟨attempt_not_mem_turn (hp ▸ nofun), h.farewell hp m⟩
  | ended hattempt hconnected hfarewell h =>
    exact h.turn hattempt hconnected hfarewell hlimit (turn_spec s m)

theorem Knows.play {past : List Mark} {moments : List Moment}
    (h : Knows s (Mark.sinceAttempt past)) (hlimit : s.decoder.limit = s.config.bufferSize)
    (hm : ∀ m ∈ moments, m.IsProper) :
    Knows (s.play moments).1 (Mark.sinceAttempt (past ++ (s.play moments).2)) := by
  -- The marks of an attempt begin anew where the next one begins, so the past is carried along.
  induction moments generalizing s past with
  | nil =>
    change Knows s (Mark.sinceAttempt (past ++ []))
    rw [List.append_nil]
    exact h
  | cons m moments ih =>
    obtain ⟨hfirst, hrest⟩ := List.forall_mem_cons.mp hm
    have hlimit' : (s.turn m).1.decoder.limit = (s.turn m).1.config.bufferSize := by
      rw [limit_turn, config_turn]
      exact hlimit
    rw [play_cons, ← List.append_assoc]
    refine ih ?_ hlimit' hrest
    rcases h.turn hlimit hfirst with ⟨hmarks, hknows⟩ | ⟨hattempt, hknows⟩
    · rw [hmarks, Mark.sinceAttempt_attempt]
      exact hknows
    · rw [Mark.sinceAttempt_append hattempt]
      exact hknows

end Session

/-! ### One answer for each message -/

namespace DecodedItem

/-- Joining the chunks of messages takes away none that is answered, and adds none. -/
theorem filterMap_responseTo_joined {items : List DecodedItem}
    (h : ∀ c, .chunk c ∈ items → c.data ≠ []) :
    (joined items).filterMap Session.responseTo = items.filterMap Session.responseTo := by
  induction items with
  | nil => rfl
  | cons item items ih =>
    have ih := ih fun c hc => h c (List.mem_cons_of_mem item hc)
    rw [joined_cons, List.filterMap_cons, ← ih]
    cases item with
    | packet p => rfl
    | chunk c =>
      cases hjoined : joined items with
      | nil => rfl
      | cons next tail =>
        cases next with
        | packet p => rfl
        | chunk d =>
          by_cases hcontinues : c.ContinuedBy d
          · -- What is taken up is a later piece, and it is the first one that is answered.
            have hjoin : joinTo (.chunk c) (.chunk d :: tail) = .chunk (c.extend d) :: tail :=
              if_pos hcontinues
            have hpos := List.length_pos_iff.mpr (h c List.mem_cons_self)
            have hoffset : d.offset ≠ 0 := by
              rw [hcontinues.2.2]
              omega
            have hnone : Session.responseTo (.chunk d) = none := if_neg hoffset
            have hsame : Session.responseTo (.chunk (c.extend d)) =
                Session.responseTo (.chunk c) := rfl
            rw [hjoin, List.filterMap_cons, List.filterMap_cons_none hnone, hsame]
          · have hjoin : joinTo (.chunk c) (.chunk d :: tail) = .chunk c :: .chunk d :: tail :=
              if_neg hcontinues
            rw [hjoin, List.filterMap_cons]

end DecodedItem

namespace Session

/-- A new session knows its connection: there is none. -/
theorem knows_new (config : Config) (defaultPort : UInt16) :
    Knows (new config defaultPort) (Mark.sinceAttempt []) :=
  .ended id id nofun (.inl ⟨nofun, nofun⟩)

/-- What every run of a session answers and tells of what it receives. Before the broker's
acceptance that is nothing. After it, the items are handled in the order in which they came, each
just once, with the answer that its kind asks for before its data; the first chunk of a message is
answered, and no other one. An answer can always be encoded where the greeting could. -/
theorem received_is_answered (config : Config) (defaultPort : UInt16) (moments : List Moment)
    (hproper : ∀ m ∈ moments, m.IsProper) :
    let run := (new config defaultPort).play moments
    let conn := Mark.sinceAttempt run.2
    (((∀ sessionPresent, .told (.connected sessionPresent) ∉ conn)
          ∧ ∀ x ∈ conn.filter Mark.isReply, x = .lost)
        ∨ ∃ sessionPresent done rejected, run.1.Accounts conn sessionPresent done rejected
          ∧ DecodedItem.Coherent done
          ∧ done.filterMap responseTo = (DecodedItem.joined done).filterMap responseTo)
      ∧ ∀ c, config.greeting = .ok c → ∀ item p, responseTo item = some p →
        ∃ bytes, run.1.encode p = .ok bytes ∧ run.1.answerTo item = some bytes := by
  intro run conn
  have hconfig : run.1.config = config := config_play (new config defaultPort) moments
  refine ⟨?_, ?_⟩
  · have hknows : Knows run.1 conn := (knows_new config defaultPort).play rfl hproper
    have hended : run.1.Ended conn := by
      cases hknows with
      | attempting hp h => exact .inl ⟨h.unaccepted, by rw [h.shown]; nofun⟩
      | serving sessionPresent done hp h => exact h.accounts
      | ended _ _ _ h => exact h
    rcases hended with hunaccepted | ⟨sessionPresent, done, rejected, h⟩
    · exact .inl hunaccepted
    · refine .inr ⟨sessionPresent, done, rejected, h, ?_, ?_⟩
      · have hcoherent := Decoder.coherent_feedAll run.1.config.bufferSize
          (conn.filterMap Mark.received?)
        rw [h.received] at hcoherent
        exact hcoherent.after_packet.left.left
      · refine (DecodedItem.filterMap_responseTo_joined fun c hc => ?_).symm
        apply Decoder.data_ne_nil_of_mem_feedAll (Decoder.new run.1.config.bufferSize)
          (conn.filterMap Mark.received?)
        rw [h.received]
        simp [hc]
  · intro c hc item p hp
    obtain ⟨bytes, hbytes⟩ := encode_response hc hp
    have hencode : run.1.encode p = .ok bytes := by
      unfold encode
      rw [hconfig]
      exact hbytes
    refine ⟨bytes, hencode, ?_⟩
    unfold answerTo
    rw [hp, Option.bind_some, hencode]
    rfl

/-- A message comes in two chunks, and the answer to the PUBREC after it cannot be written. -/
theorem received_is_answered_of_long_message :
    let config := ({ host := "h", bufferSize := 16 } : Settings).toConfig "c"
    let wakes : List Wake := [.run, .connected (.ok ()), .written (.ok ()), .run,
      .read (.ok [32, 2, 1, 0]), .run, .run, .run,
      .read (.ok [50, 17, 0, 1, 97, 0, 5, 1, 2, 3]), .run, .run, .written (.ok ()), .run,
      .read (.ok [4, 5, 6, 7, 8, 9, 10, 11, 12, 80, 2, 0, 7]), .run, .run, .run,
      .written (.error .streamWriteFailure)]
    let moments : List Moment := wakes.map fun w => ⟨.new config, 0, false, w⟩
    let run := (new config 1883).play moments
    let conn := Mark.sinceAttempt run.2
    (∀ m ∈ moments, m.IsProper)
      ∧ conn.filter Mark.isReply = [.wrote [64, 2, 0, 5],
        .told (.data ⟨5, "a", .atLeastOnce, false, false, [1, 2, 3], 0, 12⟩),
        .told (.data ⟨5, "a", .atLeastOnce, false, false, [4, 5, 6, 7, 8, 9, 10, 11, 12], 3, 12⟩),
        .wrote [98, 2, 0, 7], .lost]
      ∧ ∃ sessionPresent done rejected, run.1.Accounts conn sessionPresent done rejected := by
  intro config wakes moments run conn
  have hproper : ∀ m ∈ moments, m.IsProper := by
    intro m hm r hr
    obtain ⟨w, hw, hmoment⟩ := List.mem_map.mp hm
    rw [← hmoment] at hr
    dsimp only at hr
    rw [hr] at hw
    simp [wakes] at hw
  have hconn : .told (.connected true) ∈ conn ∧ conn.filter Mark.isReply = [.wrote [64, 2, 0, 5],
      .told (.data ⟨5, "a", .atLeastOnce, false, false, [1, 2, 3], 0, 12⟩),
      .told (.data ⟨5, "a", .atLeastOnce, false, false, [4, 5, 6, 7, 8, 9, 10, 11, 12], 3, 12⟩),
      .wrote [98, 2, 0, 7], .lost] := by
    subst conn run moments wakes config
    decide +kernel
  refine ⟨hproper, hconn.2, ?_⟩
  rcases (received_is_answered config 1883 moments hproper).1 with ⟨hunaccepted, _⟩
    | ⟨sessionPresent, done, rejected, haccounts, _⟩
  · exact absurd hconn.1 (hunaccepted true)
  · exact ⟨sessionPresent, done, rejected, haccounts⟩

end Session
end Mqtt
