import Mqtt.Proofs.Ledger.Fates
import Mqtt.Proofs.PacketId

/-!
# Packet ids over a whole run

Ids count up from 1, and 65535 is followed by 1 again: none is asked for before it is handed out.
So an id is only ever shared with an operation that was begun 65535 ids before, and none is shared
while nothing waits that long.
-/

namespace Mqtt
set_option autoImplicit false

namespace Ledger

variable {l : Ledger}

/-! ### The last id -/

theorem encoder_beginTracked {now : Nat} {kind : PacketType} {qos : QoS}
    {encode : Encoder → Encoder × Except Error Outgoing} {out : Outgoing}
    (h : (l.beginTracked now kind qos encode).2 = .ok out) :
    (l.beginTracked now kind qos encode).1.encoder = (encode l.encoder).1 := by
  unfold beginTracked at h ⊢
  split at h
  · cases h
  · split at h
    · cases h
    · rename_i hstate hroom
      rw [if_neg hstate, if_neg hroom]
      cases encode l.encoder with
      | mk encoder result =>
        cases result with
        | error e => rfl
        | ok out' =>
          unfold track preempt
          dsimp only
          split <;> rfl

theorem lastId_begin {now : Nat} {o : Operation} {out : Outgoing} (ho : o.IsTracked)
    (h : (l.begin now o).2 = .ok out) : (l.begin now o).1.encoder.lastId = out.packetId := by
  rw [begin_eq ho] at h ⊢
  rw [encoder_beginTracked h]
  exact Encoder.lastId_numbered (encode_of_beginTracked h)

variable {c : Config} {moves : List Move}

/-- The id that was handed out, if one was. -/
def Deed.handedOut? : Deed → Option UInt16
  | .issued _ _ packetId => if packetId = 0 then none else some packetId
  | _ => none

/-- The ids that calls hand out, in order. -/
def ids (l : Ledger) (moves : List Move) : List UInt16 :=
  (l.deeds moves).filterMap Deed.handedOut?

theorem ids_append (l : Ledger) (front back : List Move) :
    l.ids (front ++ back) = l.ids front ++ (l.moveAll front).ids back := by
  unfold ids
  rw [deeds_append, List.filterMap_append]

/-! ### The order of the ids -/

theorem encoder_abandon (kind : PacketType) (packetId : UInt16) :
    (l.abandon kind packetId).encoder = l.encoder := by
  unfold abandon
  split <;> rfl

theorem handedOut_of_isOwn {m : Move} (hm : m.IsOwn) :
    (l.deedsOf m).filterMap Deed.handedOut? = [] := by
  apply List.filterMap_eq_nil_iff.mpr
  intro d hd
  cases m with
  | begin now o => cases hm
  | abandon kind packetId => cases hm
  | resolve kind packetId =>
    unfold deedsOf at hd
    dsimp only at hd
    split at hd <;> simp at hd
    rw [hd]
    rfl
  | advance packetId pubrel =>
    unfold deedsOf at hd
    dsimp only at hd
    split at hd <;> simp at hd
    rw [hd]
    rfl
  | evict now =>
    obtain ⟨t, _, rfl⟩ := List.mem_map.mp hd
    rfl
  | clear =>
    rw [List.mem_singleton.mp hd]
    rfl
  | setState state => cases hd

/-- A call hands out the next id, or none. -/
theorem handedOut_cases (l : Ledger) (m : Move) :
    ((l.deedsOf m).filterMap Deed.handedOut? = []
      ∧ (l.move m).encoder.lastId = l.encoder.lastId)
    ∨ (l.deedsOf m).filterMap Deed.handedOut? = [l.encoder.nextId]
      ∧ (l.move m).encoder.lastId = l.encoder.nextId := by
  cases m with
  | begin now o =>
    change (_ ∧ (l.begin now o).1.encoder.lastId = _)
      ∨ (_ ∧ (l.begin now o).1.encoder.lastId = _)
    cases hout : (l.begin now o).2 with
    | error e =>
      rw [begin_of_error hout]
      simp [deedsOf, hout]
    | ok out =>
      have hid := packetId_of_begin hout
      by_cases ho : o.IsTracked
      · have hnext := (encode_of_begin hout).1 ho
        rw [lastId_begin ho hout, ← hnext]
        refine .inr ⟨?_, rfl⟩
        simp [deedsOf, hout, Deed.handedOut?, hid.mpr ho]
      · have hzero : out.packetId = 0 := Decidable.not_not.mp fun hne => ho (hid.mp hne)
        rw [begin_of_not_tracked ho]
        refine .inl ⟨?_, rfl⟩
        simp [deedsOf, hout, Deed.handedOut?, hzero]
  | abandon kind packetId =>
    refine .inl ⟨rfl, ?_⟩
    exact congrArg Encoder.lastId (encoder_abandon kind packetId)
  | _ => exact .inl ⟨handedOut_of_isOwn trivial, congrArg Encoder.lastId (encoder_move trivial)⟩

theorem countsUp_ids (l : Ledger) (moves : List Move) :
    PacketId.CountsUp l.encoder.lastId (l.ids moves) (l.moveAll moves).encoder.lastId := by
  induction moves generalizing l with
  | nil => exact .nil _
  | cons m moves ih =>
    have hids : l.ids (m :: moves) =
        (l.deedsOf m).filterMap Deed.handedOut? ++ (l.move m).ids moves := List.filterMap_append
    change PacketId.CountsUp _ _ ((l.move m).moveAll moves).encoder.lastId
    have hrest := ih (l.move m)
    rcases handedOut_cases l m with ⟨hnone, hsame⟩ | ⟨hone, hnext⟩
    · rw [hids, hnone, List.nil_append, ← hsame]
      exact hrest
    · rw [hids, hone, List.singleton_append]
      rw [hnext] at hrest
      exact .cons hrest

theorem ids_in_order (l : Ledger) (moves : List Move) :
    l.ids moves = (List.range (l.ids moves).length).map
      (fun k => PacketId.advance l.encoder.lastId (k + 1))
    ∧ (l.moveAll moves).encoder.lastId =
      PacketId.advance l.encoder.lastId (l.ids moves).length :=
  ⟨(countsUp_ids l moves).order, (countsUp_ids l moves).last⟩

/-! ### Where an operation that waits comes from -/

/-- What waits after a call waited before it, or is what the call issued. -/
theorem origin_of_any_move (m : Move) {t' : Tracked} (ht' : t' ∈ (l.move m).tracked) :
    (∃ t ∈ l.tracked, t'.Continues t)
    ∨ ∃ now o out, m = .begin now o ∧ o.IsTracked ∧ (l.begin now o).2 = .ok out
      ∧ t' = issued now o out := by
  -- Ids may collide here, so the records are counted instead of followed.
  let p (t : Tracked) (x : Tracked) : Bool := x = t
  have hmem : ∀ (t : Tracked) (ts : List Tracked), 0 < ts.countP (p t) ↔ t ∈ ts := by
    intro t ts
    simp [p, List.countP_pos_iff]
  have hpos := (hmem t' _).mpr ht'
  have hstays : (l.move m).tracked.countP (p t') ≤ l.tracked.countP (p t') →
      ∃ t ∈ l.tracked, t'.Continues t := by
    intro hle
    exact ⟨t', (hmem t' _).mp (by omega), .refl t'⟩
  cases m with
  | begin now o =>
    cases hout : (l.begin now o).2 with
    | error e =>
      refine .inl (hstays (Nat.le_of_eq ?_))
      change (l.begin now o).1.tracked.countP (p t') = _
      rw [begin_of_error hout]
    | ok out =>
      by_cases ho : o.IsTracked
      · have hcount := countP_begin (p t') ho hout
        by_cases hnew : t' = issued now o out
        · exact .inr ⟨now, o, out, rfl, ho, hout, hnew⟩
        · have hother : [issued now o out].countP (p t') = 0 := by
            simp [p, Ne.symm hnew]
          refine .inl (hstays ?_)
          change (l.begin now o).1.tracked.countP (p t') ≤ _
          omega
      · refine .inl (hstays (Nat.le_of_eq ?_))
        change (l.begin now o).1.tracked.countP (p t') = _
        rw [begin_of_not_tracked ho]
  | resolve kind packetId =>
    refine .inl (hstays ?_)
    change (l.resolve kind packetId).1.tracked.countP (p t') ≤ _
    rcases @countP_resolve l kind packetId with ⟨_, t, _, _, hcount⟩ | hsame
    · have hle := hcount (p t')
      omega
    · rw [hsame]
  | advance packetId pubrel =>
    change 0 < (l.advanceToPubrel packetId pubrel).1.tracked.countP (p t') at hpos
    rcases @countP_advance l packetId pubrel with ⟨_, t, hkey, _, hcount⟩ | hsame
    · by_cases hreleased : t' = released pubrel t
      · -- The one it was released from is a PUBLISH, so the PUBREL does not count as one of it.
        have hkind : t.kind = .publish := congrArg Prod.fst hkey
        have hne : released pubrel t ≠ t := by
          intro heq
          have hpubrel := congrArg Tracked.kind heq
          rw [hkind] at hpubrel
          cases hpubrel
        have hle := hcount (p t)
        have hself : [t].countP (p t) = 1 := by simp [p]
        have hother : [released pubrel t].countP (p t) = 0 := by simp [p, hne]
        refine .inl ⟨t, (hmem t _).mp (by omega), ?_⟩
        rw [hreleased]
        exact ⟨rfl, rfl, rfl⟩
      · have hle := hcount (p t')
        have hother : [released pubrel t].countP (p t') = 0 := by simp [p, Ne.symm hreleased]
        refine .inl (hstays ?_)
        change (l.advanceToPubrel packetId pubrel).1.tracked.countP (p t') ≤ _
        omega
    · refine .inl (hstays (Nat.le_of_eq ?_))
      change (l.advanceToPubrel packetId pubrel).1.tracked.countP (p t') = _
      rw [hsame]
  | abandon kind packetId => exact .inl (hstays (countP_abandon (p t') kind packetId))
  | evict now => exact .inl (hstays (tracked_evictStale_sublist l now).countP_le)
  | clear => cases ht'
  | setState state => exact .inl (hstays (Nat.le_refl _))

/-- Whether an operation was begun in a run, and these ids were handed out after its own. -/
def WasBegun (c : Config) (moves : List Move) (t : Tracked) (later : List UInt16) : Prop :=
  ∃ front now o out back, moves = front ++ .begin now o :: back ∧ o.IsTracked
    ∧ (((Ledger.new c).moveAll front).begin now o).2 = .ok out
    ∧ t.Continues (issued now o out)
    ∧ later = (((Ledger.new c).moveAll front).move (.begin now o)).ids back

theorem WasBegun.snoc {t t' : Tracked} {later : List UInt16} (h : WasBegun c moves t later)
    (ht' : t'.Continues t) (m : Move) :
    WasBegun c (moves ++ [m]) t' (later ++ ((Ledger.new c).moveAll moves).ids [m]) := by
  obtain ⟨front, now, o, out, back, rfl, ho, hout, ht, rfl⟩ := h
  refine ⟨front, now, o, out, back ++ [m], ?_, ho, hout, ht'.trans ht, ?_⟩
  · rw [List.append_assoc]
    rfl
  · rw [ids_append, moveAll_append]
    rfl

theorem wasBegun_of_tracked {t : Tracked} (ht : t ∈ ((Ledger.new c).moveAll moves).tracked) :
    ∃ later, WasBegun c moves t later := by
  induction moves using List.reverseRecOn generalizing t with
  | nil => cases ht
  | append_singleton moves m ih =>
    rw [moveAll_append] at ht
    rcases origin_of_any_move m ht with ⟨t₀, ht₀, hcontinues⟩ | ⟨now, o, out, rfl, ho, hout, rfl⟩
    · obtain ⟨later, hbegun⟩ := ih ht₀
      exact ⟨_, hbegun.snoc hcontinues m⟩
    · exact ⟨[], moves, now, o, out, [], rfl, ho, hout, .refl _, rfl⟩

/-- The last id is as far behind an operation as ids were handed out after it. -/
theorem WasBegun.lastId {t : Tracked} {later : List UInt16} (h : WasBegun c moves t later) :
    t.packetId ≠ 0 ∧ ((Ledger.new c).moveAll moves).encoder.lastId =
      PacketId.advance t.packetId later.length := by
  obtain ⟨front, now, o, out, back, rfl, ho, hout, ht, rfl⟩ := h
  have hid : t.packetId = out.packetId := ht.packetId
  rw [hid]
  refine ⟨(packetId_of_begin hout).mpr ho, ?_⟩
  rw [moveAll_append]
  change ((((Ledger.new c).moveAll front).move (.begin now o)).moveAll back).encoder.lastId = _
  rw [(ids_in_order _ back).2]
  congr 1
  exact lastId_begin ho hout

/-- An operation that shares the next id was begun 65535 ids before it. -/
theorem WasBegun.le_of_nextId {t : Tracked} {later : List UInt16} (h : WasBegun c moves t later)
    (hid : t.packetId = ((Ledger.new c).moveAll moves).encoder.nextId) : 65534 ≤ later.length := by
  obtain ⟨hne, hlast⟩ := h.lastId
  unfold Encoder.nextId at hid
  rw [hlast, PacketId.next_advance] at hid
  have hle := PacketId.le_of_advance_eq hne (Nat.succ_pos _) hid.symm
  omega

/-! ### Runs in which nothing waits for a whole cycle -/

/-- Whether nothing in a run waits while all other ids are handed out. -/
def Timely (c : Config) (moves : List Move) : Prop :=
  ∀ front, front <+: moves → ∀ t ∈ ((Ledger.new c).moveAll front).tracked,
    ∃ later, WasBegun c front t later ∧ later.length < 65534

theorem Timely.of_prefix {front : List Move} (h : Timely c moves) (hfront : front <+: moves) :
    Timely c front :=
  fun _ hbefore => h _ (hbefore.trans hfront)

theorem WasBegun.length_lt {t : Tracked} {later : List UInt16} (h : WasBegun c moves t later) :
    later.length < ((Ledger.new c).ids moves).length := by
  obtain ⟨front, now, o, out, back, rfl, ho, hout, _, rfl⟩ := h
  have hone : (((Ledger.new c).moveAll front).ids [.begin now o]).length = 1 := by
    have hid := (packetId_of_begin hout).mpr ho
    simp [ids, deeds, deedsOf, hout, Deed.handedOut?, hid]
  rw [List.append_cons, ids_append, ids_append, moveAll_append]
  simp only [List.length_append, hone]
  change (List.length _) < _ + 1 + List.length _
  exact Nat.lt_add_of_pos_left (Nat.succ_pos _)

theorem ids_length_le_of_prefix {front : List Move} (h : front <+: moves) :
    (l.ids front).length ≤ (l.ids moves).length := by
  obtain ⟨back, rfl⟩ := h
  rw [ids_append, List.length_append]
  exact Nat.le_add_right _ _

theorem timely_of_few (h : ((Ledger.new c).ids moves).length < 65535) : Timely c moves := by
  intro front hfront t ht
  obtain ⟨later, hbegun⟩ := wasBegun_of_tracked ht
  have hlater := hbegun.length_lt
  have hle := ids_length_le_of_prefix (l := .new c) hfront
  exact ⟨later, hbegun, by omega⟩

theorem Timely.isFree (h : Timely c moves) :
    ((Ledger.new c).moveAll moves).IsFree ((Ledger.new c).moveAll moves).encoder.nextId := by
  intro t ht hid
  obtain ⟨later, hbegun, hfew⟩ := h moves (List.prefix_refl _) t ht
  have hle := hbegun.le_of_nextId hid
  omega

theorem Timely.takesFreeId (h : Timely c moves) (m : Move) :
    ((Ledger.new c).moveAll moves).TakesFreeId m := by
  cases m with
  | begin now o =>
    intro ho out hout
    rw [(encode_of_begin hout).1 ho]
    exact h.isFree
  | _ => trivial

theorem Timely.distinct (h : Timely c moves) : ((Ledger.new c).moveAll moves).Distinct := by
  induction moves using List.reverseRecOn with
  | nil => exact List.nodup_nil
  | append_singleton moves m ih =>
    have hfront := h.of_prefix (List.prefix_append moves [m])
    rw [moveAll_append]
    exact (ih hfront).move (hfront.takesFreeId m)

theorem stays_of_packetId_ne (hd : l.Distinct) {t : Tracked} (ht : t ∈ l.tracked)
    {packetId : UInt16} (hid : t.packetId ≠ packetId) :
    (∀ kind, t ∈ (l.resolve kind packetId).1.tracked)
    ∧ ∀ pubrel, t ∈ (l.advanceToPubrel packetId pubrel).1.tracked := by
  have hkey : ∀ kind, t.key ≠ (kind, packetId) := fun _ heq => hid (packetId_of_key heq)
  constructor
  · intro kind
    rcases resolve_cases hd kind packetId with ⟨_, _, htracked⟩ | ⟨hsame, _⟩
    · rw [htracked]
      exact List.mem_filter.mpr ⟨ht, by simpa using hkey kind⟩
    · rw [hsame]
      exact ht
  · intro pubrel
    rcases advance_cases hd packetId pubrel with ⟨_, _, t₀, _, _, _, hmembers⟩ | ⟨hsame, _⟩
    · exact (hmembers t).mpr (.inl ⟨ht, hkey _⟩)
    · rw [hsame]
      exact ht

/-- Ids are handed out in order, over and over. Every operation that waits was begun in the run, and
one that has the id which is handed out now was begun 65535 ids ago. While nothing waits that long,
the id is free, nothing is overwritten, and what acknowledges the id concerns the new operation
alone. -/
theorem ids_return_late {now : Nat} {o : Operation} {out : Outgoing} (ho : o.IsTracked)
    (h : (((Ledger.new c).moveAll moves).begin now o).2 = .ok out) :
    let l := (Ledger.new c).moveAll moves
    let l' := (l.begin now o).1
    ((Ledger.new c).ids moves ++ [out.packetId] =
      (List.range (((Ledger.new c).ids moves).length + 1)).map fun k => (k % 65535 + 1).toUInt16)
    ∧ (∀ t ∈ l.tracked, ∃ later, WasBegun c moves t later)
    ∧ (∀ t later, WasBegun c moves t later → t.packetId = out.packetId → 65534 ≤ later.length)
    ∧ (Timely c moves → l.IsFree out.packetId ∧ l'.tracked = l.tracked ++ [issued now o out]
      ∧ ∀ t ∈ l.tracked, (∀ kind, t ∈ (l'.resolve kind out.packetId).1.tracked)
        ∧ ∀ pubrel, t ∈ (l'.advanceToPubrel out.packetId pubrel).1.tracked) := by
  intro l l'
  have hnext : out.packetId = l.encoder.nextId := (encode_of_begin h).1 ho
  refine ⟨?_, fun t ht => wasBegun_of_tracked ht, ?_, ?_⟩
  · obtain ⟨horder, hlast⟩ := ids_in_order (.new c) moves
    have hcycle : ∀ k, PacketId.advance 0 (k + 1) = (k % 65535 + 1).toUInt16 := by
      intro k
      apply UInt16.toNat.inj
      rw [PacketId.toNat_advance (Nat.succ_pos _)]
      change (0 + (k + 1) - 1) % 65535 + 1 = (k % 65535 + 1) % 65536
      omega
    have hnew : out.packetId = PacketId.advance 0 (((Ledger.new c).ids moves).length + 1) := by
      rw [hnext, ← PacketId.next_advance]
      exact congrArg PacketId.next hlast
    rw [List.range_succ, List.map_append, List.map_singleton, ← hcycle, ← hnew]
    congr 1
    conv => lhs; rw [horder]
    exact List.map_congr_left fun k _ => hcycle k
  · intro t later hbegun hid
    exact hbegun.le_of_nextId (hid.trans hnext)
  · intro htimely
    have hfree : l.IsFree out.packetId := hnext ▸ htimely.isFree
    have hd := htimely.distinct
    have hd' : l'.Distinct := hd.move (htimely.takesFreeId (.begin now o))
    have htracked : l'.tracked = l.tracked ++ [issued now o out] := tracked_begin hd ho h
    refine ⟨hfree, htracked, fun t ht => ?_⟩
    have ht' : t ∈ l'.tracked := htracked ▸ List.mem_append_left _ ht
    exact stays_of_packetId_ne hd' ht' (hfree t ht)

/-- A subscription after a QoS 2 PUBLISH that still waits. -/
theorem ids_return_late_of_subscribe :
    let c := ({ host := "localhost" } : Settings).toConfig "c"
    let moves : List Move := [.setState .connected, .begin 5 (.publish "a" [1] .exactlyOnce false)]
    let l := (Ledger.new c).moveAll moves
    let l' := (l.begin 6 (.subscribe "b" .atMostOnce)).1
    Timely c moves ∧ l'.tracked.map Tracked.packetId = [1, 2]
      ∧ ∀ t ∈ l.tracked, ∀ kind, t ∈ (l'.resolve kind 2).1.tracked := by
  intro c moves l l'
  have hbegin : (l.begin 6 (.subscribe "b" .atMostOnce)).2 =
      .ok ⟨[0x82, 6, 0, 2, 0, 1, 98, 0], 2⟩ := by
    subst l moves c
    decide +kernel
  have htimely : Timely c moves := by
    apply timely_of_few
    subst moves c
    decide +kernel
  obtain ⟨_, _, _, hlap⟩ := ids_return_late (o := .subscribe "b" .atMostOnce) trivial hbegin
  obtain ⟨_, htracked, hothers⟩ := hlap htimely
  refine ⟨htimely, ?_, fun t ht => (hothers t ht).1⟩
  change (l.begin 6 (.subscribe "b" .atMostOnce)).1.tracked.map Tracked.packetId = _
  rw [htracked]
  subst l moves c
  decide +kernel

/-! ### A cycle around one slow acknowledgement -/

/-- A short message that asks for an acknowledgement. -/
def note : Operation := .publish "a" [] .atLeastOnce false

/-- Notes that are acknowledged at once, after the one with this id. -/
def lap (packetId : UInt16) : Nat → List Move
  | 0 => []
  | n + 1 => .begin 0 note :: .resolve .publish (PacketId.next packetId)
      :: lap (PacketId.next packetId) n

theorem publish_note {e : Encoder} (hsize : 7 ≤ e.bufferSize) : ∃ bytes,
    e.publish "a" [] .atLeastOnce false false =
      ({ e with lastId := e.nextId }, .ok ⟨bytes, e.nextId⟩) := by
  let p : Packet := .publish ⟨e.nextId, "a", .atLeastOnce, false, false, []⟩
  let body := p.fields.flatMap Field.bytes
  have hlen : p.remainingLength = 5 := rfl
  have hfits : Field.Spells p.fields body [] := by
    refine ⟨?_, (List.append_nil _).symm⟩
    have htopic : (Field.text "a").Fits := by
      change (Bytes.ofText "a").length ≤ Field.maximumSize
      decide
    change ∀ f ∈ [Field.text "a", .uint16 e.nextId, .plain []], f.Fits
    rw [List.forall_mem_cons]
    exact ⟨htopic, by simp [Field.Fits]⟩
  have hdigits : VarLength.digits 5 = [5] := by simp [VarLength.digits]
  have hencode : e.encode p = .ok (p.firstByte :: (VarLength.digits p.remainingLength ++ body)) := by
    have hmaximum : p.remainingLength ≤ VarLength.maximum := by
      rw [hlen]
      decide
    apply Encoder.encode_eq_ok_iff.mpr
    refine ⟨Packet.encode_eq_ok_iff.mpr ⟨hmaximum, body, hfits, rfl⟩, ?_⟩
    rw [List.length_cons, List.length_append, Packet.length_body, hlen, hdigits]
    exact hsize
  refine ⟨p.firstByte :: (VarLength.digits p.remainingLength ++ body), ?_⟩
  unfold Encoder.publish
  dsimp only
  rw [if_neg (by decide)]
  unfold Encoder.numbered
  rw [hencode]

theorem note_acknowledged (hstate : l.state = .connected) (hpending : l.pending = none)
    (hsize : 7 ≤ l.encoder.bufferSize)
    (hother : ∀ t ∈ l.outbox.entries, t.packetId ≠ l.encoder.nextId) :
    (l.move (.begin 0 note)).move (.resolve .publish l.encoder.nextId) =
      { l with encoder := { l.encoder with lastId := l.encoder.nextId } } := by
  obtain ⟨bytes, hpublish⟩ := publish_note hsize
  have hroom : l.hasRoom = true := by simp [hasRoom, hpending]
  have habsent : l.outbox.find? .publish l.encoder.nextId = none := by
    apply Outbox.find?_eq_none_iff.mpr
    intro t ht hkey
    exact hother t ht (packetId_of_key hkey)
  have hbegin : l.move (.begin 0 note) = { l with
      encoder := { l.encoder with lastId := l.encoder.nextId }
      pending := some ⟨l.encoder.nextId, .publish, .atLeastOnce, bytes, 0⟩ } := by
    simp [move, begin, note, beginPublish, beginTracked, hstate, hroom, hpublish, track, preempt,
      hpending]
  rw [hbegin]
  simp [move, resolve, habsent, Tracked.key, Tracked.awaitsPubrec, hpending]

theorem moveAll_lap {n : Nat} (hstate : l.state = .connected) (hpending : l.pending = none)
    (hsize : 7 ≤ l.encoder.bufferSize)
    (hother : ∀ t ∈ l.outbox.entries, ∀ k, k < n →
      t.packetId ≠ PacketId.advance l.encoder.lastId (k + 1)) :
    l.moveAll (lap l.encoder.lastId n) = { l with encoder :=
      { l.encoder with lastId := PacketId.advance l.encoder.lastId n } } := by
  induction n generalizing l with
  | zero => rfl
  | succ n ih =>
    have hround := note_acknowledged hstate hpending hsize fun t ht => hother t ht 0 (Nat.succ_pos n)
    change ((l.move (.begin 0 note)).move (.resolve .publish l.encoder.nextId)).moveAll
      (lap l.encoder.nextId n) = _
    rw [hround]
    apply @ih { l with encoder := { l.encoder with lastId := l.encoder.nextId } } hstate hpending hsize
    intro t ht k hk
    exact hother t ht (k + 1) (Nat.succ_lt_succ hk)

/-- The id of a note that is not acknowledged comes back after the 65534 others. Then two operations
wait under it, and the next operation overwrites the older of them. -/
theorem id_returns_while_waiting :
    let c := ({ host := "localhost" } : Settings).toConfig "c"
    let moves : List Move := [.setState .connected, .begin 0 note, .begin 0 note,
      .resolve .publish 2] ++ lap 2 65533
    let l := (Ledger.new c).moveAll moves
    let l' := (l.begin 1 note).1
    ∃ t ∈ l.tracked, ∃ out, (l.begin 1 note).2 = .ok out ∧ out.packetId = t.packetId
      ∧ t ∈ l'.tracked ∧ issued 1 note out ∈ l'.tracked
      ∧ t ∉ (l'.begin 2 note).1.tracked := by
  intro c moves l l'
  let before := (Ledger.new c).moveAll [.setState .connected, .begin 0 note, .begin 0 note,
    .resolve .publish 2]
  let t : Tracked := ⟨1, .publish, .atLeastOnce, [0x32, 5, 0, 1, 97, 0, 1], 0⟩
  have hbefore : before.state = .connected ∧ before.pending = none ∧ before.outbox.entries = [t]
      ∧ before.encoder = ⟨2, 1024⟩ := by
    subst before c t
    decide +kernel
  obtain ⟨hstate, hpending, hentries, hencoder⟩ := hbefore
  have hl : l = { before with encoder := ⟨65535, 1024⟩ } := by
    have hlap := @moveAll_lap before 65533 hstate hpending (by rw [hencoder]; decide)
    rw [hencoder] at hlap
    have hlast : PacketId.advance 2 65533 = 65535 :=
      UInt16.toNat.inj (PacketId.toNat_advance (by decide))
    rw [hlast] at hlap
    refine (moveAll_append _ _ _).trans (hlap ?_)
    intro x hx k hk hid
    rw [hentries, List.mem_singleton] at hx
    have hlater := congrArg UInt16.toNat hid
    rw [PacketId.toNat_advance (Nat.succ_pos _), hx] at hlater
    change 1 = (2 + (k + 1) - 1) % 65535 + 1 at hlater
    omega
  have hreturns : t ∈ l.tracked ∧ (l.begin 1 note).2 = .ok ⟨[0x32, 5, 0, 1, 97, 0, 1], 1⟩
      ∧ t ∈ l'.tracked ∧ issued 1 note ⟨[0x32, 5, 0, 1, 97, 0, 1], 1⟩ ∈ l'.tracked
      ∧ t ∉ (l'.begin 2 note).1.tracked := by
    change _ ∧ _ ∧ t ∈ (l.begin 1 note).1.tracked ∧ _ ∈ (l.begin 1 note).1.tracked
      ∧ t ∉ ((l.begin 1 note).1.begin 2 note).1.tracked
    rw [hl]
    subst before c t
    decide +kernel
  obtain ⟨hwaits, hagain, hrest⟩ := hreturns
  exact ⟨t, hwaits, _, hagain, rfl, hrest⟩

end Ledger
end Mqtt
