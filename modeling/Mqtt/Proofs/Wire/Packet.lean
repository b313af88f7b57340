import Mqtt.Proofs.Wire.Publish
import Mqtt.Proofs.Wire.VarLength

/-!
A body decodes to a packet exactly where it spells that packet's fields, after the packet's own
first byte, and the packet is well-formed. So what decodes is what would have been written.
-/

namespace Mqtt
set_option autoImplicit false

theorem ConnectReturnCode.ofByte?_eq_some_iff {b : UInt8} {code : ConnectReturnCode} :
    ofByte? b = some code ↔ b = code.toByte := by
  constructor
  · intro h
    unfold ofByte? at h
    split at h <;> cases h <;> exact UInt8.toNat_inj.mp ‹_›
  · rintro rfl
    exact ofByte?_toByte code

theorem SubscribeReturnCode.ofByte?_eq_some_iff {b : UInt8} {code : SubscribeReturnCode} :
    ofByte? b = some code ↔ b = code.toByte := by
  constructor
  · intro h
    unfold ofByte? at h
    split at h <;> cases h <;> exact UInt8.toNat_inj.mp ‹_›
  · rintro rfl
    exact ofByte?_toByte code

theorem Except.map_eq_ok_iff {α β : Type} {f : α → β} {x : Except Error α} {y : β} :
    f <$> x = .ok y ↔ ∃ a, x = .ok a ∧ f a = y := by
  cases x with
  | error e => simp [Functor.map, Except.map]
  | ok a => simp [Functor.map, Except.map]

namespace Packet
open Reader
open Mqtt.Field (Spells)

/-- What the wire format can tell apart: subscriptions and their ends name at least one filter, and
a message has a packet id exactly above QoS 0. -/
def WellFormed : Packet → Prop
  | publish p => p.WellFormed
  | subscribe _ subs => subs ≠ []
  | unsubscribe _ filters => filters ≠ []
  | _ => True

instance (p : Packet) : Decidable p.WellFormed := by
  unfold WellFormed
  split <;> infer_instance

/-! ### Bodies -/

theorem fields_publish (p : Publish) :
    (publish p).fields = p.headerFields ++ [.plain p.payload] := by
  unfold fields Publish.headerFields
  dsimp only
  split <;> rfl

theorem spells_plain {x bs rest : Bytes} : Spells [.plain x] bs rest ↔ bs = x ++ rest := by
  simp [Spells, Field.Fits, Field.bytes]

theorem decode_publish_eq_ok_iff {first : UInt8} {body : Bytes} {p : Publish} :
    Publish.decode first body = .ok p ↔
      p.WellFormed ∧ first = (publish p).firstByte ∧ Spells (publish p).fields body [] := by
  unfold Publish.decode
  rw [fields_publish]
  simp only [firstByte]
  constructor
  · intro h
    split at h
    · rename_i q used hq
      obtain ⟨hwf, hpayload, hfirst, rfl, rest, hspells⟩ := Publish.decodeHeader_eq_some_iff.mp hq
      simp only [Except.ok.injEq] at h
      subst h
      refine ⟨hwf, hfirst, Field.spells_append.mpr ⟨rest, hspells, spells_plain.mpr ?_⟩⟩
      rw [List.append_nil, ← q.length_headerFields, hspells.2, List.drop_left]
    · cases h
    · cases h
  · intro h
    obtain ⟨hwf, hfirst, hspells⟩ := h
    obtain ⟨rest, hheader, hpayload⟩ := Field.spells_append.mp hspells
    rw [spells_plain, List.append_nil] at hpayload
    have hread : Publish.decodeHeader first body =
        .ok (some ({ p with payload := [] }, p.headerLength)) :=
      Publish.decodeHeader_eq_some_iff.mpr ⟨hwf, rfl, hfirst, rfl, rest, hheader⟩
    rw [hread]
    dsimp only
    rw [← p.length_headerFields, hheader.2, List.drop_left, hpayload]

set_option maxRecDepth 2000 in
theorem connack_flags_eq_zero_iff :
    ∀ flags : UInt8, flags &&& 0xfe = 0 ↔ flags = if flags ≠ 0 then 1 else 0 :=
  forall_byte (by decide)

theorem connackReader_eq_ok_iff {p : Packet} {bs rest : Bytes} :
    connackReader bs = .ok (p, rest) ↔
      ∃ present code, p = .connack present code ∧ Spells p.fields bs [] ∧ rest = [] := by
  unfold connackReader
  simp only [bind_eq_ok_iff, require_eq_ok_iff, finish_eq_ok_iff, byte_eq_ok_iff, decide_eq_true_eq]
  constructor
  · intro h
    obtain ⟨flags, _, hf, _, b₁, ⟨hzero, rfl⟩, code, _, hc, _, _, ⟨rfl, rfl⟩, h⟩ := h
    cases hcode : ConnectReturnCode.ofByte? code with
    | none =>
      rw [hcode] at h
      exact absurd h throw_ne_ok
    | some c =>
      rw [hcode, pure_eq_ok_iff] at h
      obtain ⟨rfl, rfl⟩ := h
      rw [ConnectReturnCode.ofByte?_eq_some_iff] at hcode
      subst hcode
      refine ⟨_, _, rfl, Field.spells_cons.mpr ⟨b₁, ?_, hc⟩, rfl⟩
      have hbit : flags = if decide (flags ≠ 0) then 1 else 0 := by
        simpa using (connack_flags_eq_zero_iff flags).mp hzero
      rw [← hbit]
      exact hf
  · intro h
    obtain ⟨present, code, rfl, hspells, rfl⟩ := h
    obtain ⟨mid, hf, hc⟩ := Field.spells_cons.mp hspells
    refine ⟨_, mid, hf, (), mid, ⟨by cases present <;> decide, rfl⟩, _, [], hc, (), [],
      ⟨rfl, rfl⟩, ?_⟩
    rw [ConnectReturnCode.ofByte?_toByte, pure_eq_ok_iff]
    cases present <;> simp

theorem idReader_eq_ok_iff {i : UInt16} {bs rest : Bytes} :
    idReader bs = .ok (i, rest) ↔ Spells [.uint16 i] bs [] ∧ rest = [] := by
  unfold idReader
  simp only [bind_eq_ok_iff, finish_eq_ok_iff, pure_eq_ok_iff, uint16_eq_ok_iff]
  constructor
  · intro h
    obtain ⟨_, _, h, _, _, ⟨rfl, rfl⟩, rfl, rfl⟩ := h
    exact ⟨h, rfl⟩
  · intro h
    obtain ⟨h, rfl⟩ := h
    exact ⟨i, [], h, (), [], ⟨rfl, rfl⟩, rfl, rfl⟩

def subscriptionFields (s : Subscription) : List Field := [.text s.filter, .byte s.qos.toByte]

theorem subscriptionReader_eq_ok_iff {s : Subscription} {bs rest : Bytes} :
    subscriptionReader bs = .ok (s, rest) ↔ Spells (subscriptionFields s) bs rest := by
  unfold subscriptionReader subscriptionFields
  rw [Field.spells_cons]
  simp only [bind_eq_ok_iff, text_eq_ok_iff, byte_eq_ok_iff]
  constructor
  · intro h
    obtain ⟨filter, mid, hfilter, b, mid', hb, h⟩ := h
    cases hqos : QoS.ofByte? b with
    | none =>
      rw [hqos] at h
      exact absurd h throw_ne_ok
    | some qos =>
      rw [hqos, pure_eq_ok_iff] at h
      obtain ⟨rfl, rfl⟩ := h
      rw [QoS.ofByte?_eq_some_iff] at hqos
      subst hqos
      exact ⟨mid, hfilter, hb⟩
  · intro h
    obtain ⟨mid, hfilter, hb⟩ := h
    refine ⟨s.filter, mid, hfilter, s.qos.toByte, rest, hb, ?_⟩
    rw [QoS.ofByte?_toByte, pure_eq_ok_iff]
    exact ⟨rfl, rfl⟩

theorem not_spells_text_cons {s : String} {fs : List Field} {bs : Bytes} :
    ¬ Spells (.text s :: fs) bs bs := by
  intro h
  obtain ⟨_, h⟩ := h
  have hlen := congrArg List.length h
  simp only [List.flatMap_cons, List.length_append, Field.length_bytes_text] at hlen
  omega

/-- An id and at least one value after it. -/
theorem numbered_eq_ok_iff {α : Type} {r : Reader α} {g : α → List Field}
    (reads : ∀ {x bs rest}, r bs = .ok (x, rest) ↔ Spells (g x) bs rest)
    (takes : ∀ x bs, ¬ Spells (g x) bs bs) {make : UInt16 → List α → Packet}
    {p : Packet} {bs rest : Bytes} :
    (do
      let i ← Reader.uint16
      Reader.require (!(← get).isEmpty)
      let xs ← Reader.many r
      pure (make i xs) : Reader Packet) bs = .ok (p, rest) ↔
      ∃ i xs, p = make i xs ∧ xs ≠ [] ∧ Spells (.uint16 i :: xs.flatMap g) bs [] ∧ rest = [] := by
  simp only [bind_eq_ok_iff, get_eq_ok_iff, require_eq_ok_iff, pure_eq_ok_iff, uint16_eq_ok_iff,
    many_eq_ok_iff reads takes]
  constructor
  · intro h
    obtain ⟨i, mid, hi, _, _, ⟨rfl, rfl⟩, _, _, ⟨hne, rfl⟩, xs, _, ⟨hxs, rfl⟩, rfl, rfl⟩ := h
    refine ⟨i, xs, rfl, ?_, Field.spells_cons.mpr ⟨_, hi, hxs⟩, rfl⟩
    intro hnil
    subst hnil
    rw [List.flatMap_nil, Field.spells_nil] at hxs
    subst hxs
    cases hne
  · intro h
    obtain ⟨i, xs, rfl, hne, hspells, rfl⟩ := h
    obtain ⟨mid, hi, hxs⟩ := Field.spells_cons.mp hspells
    refine ⟨i, mid, hi, mid, mid, ⟨rfl, rfl⟩, (), mid, ⟨?_, rfl⟩, xs, [], ⟨hxs, rfl⟩, rfl, rfl⟩
    cases mid with
    | nil => exact absurd ((spells_flatMap_nil takes).mp hxs) hne
    | cons _ _ => rfl

theorem subscribeReader_eq_ok_iff {p : Packet} {bs rest : Bytes} :
    subscribeReader bs = .ok (p, rest) ↔
      ∃ i subs, p = .subscribe i subs ∧ subs ≠ [] ∧ Spells p.fields bs [] ∧ rest = [] := by
  refine (numbered_eq_ok_iff subscriptionReader_eq_ok_iff fun _ _ => not_spells_text_cons).trans ?_
  constructor
  · intro h
    obtain ⟨i, subs, rfl, hne, hspells, hrest⟩ := h
    exact ⟨i, subs, rfl, hne, hspells, hrest⟩
  · intro h
    obtain ⟨i, subs, rfl, hne, hspells, hrest⟩ := h
    exact ⟨i, subs, rfl, hne, hspells, hrest⟩

theorem unsubscribeReader_eq_ok_iff {p : Packet} {bs rest : Bytes} :
    unsubscribeReader bs = .ok (p, rest) ↔
      ∃ i filters, p = .unsubscribe i filters ∧ filters ≠ [] ∧ Spells p.fields bs [] ∧ rest = [] := by
  refine (numbered_eq_ok_iff text_eq_ok_iff fun _ _ => not_spells_text_cons).trans ?_
  constructor
  · intro h
    obtain ⟨i, filters, rfl, hne, hspells, hrest⟩ := h
    rw [← List.map_eq_flatMap] at hspells
    exact ⟨i, filters, rfl, hne, hspells, hrest⟩
  · intro h
    obtain ⟨i, filters, rfl, hne, hspells, hrest⟩ := h
    refine ⟨i, filters, rfl, hne, ?_, hrest⟩
    rw [← List.map_eq_flatMap]
    exact hspells

theorem codeOf_eq_ok_iff {b : UInt8} {code : SubscribeReturnCode} :
    codeOf b = .ok code ↔ b = code.toByte := by
  rw [← SubscribeReturnCode.ofByte?_eq_some_iff]
  unfold codeOf
  cases SubscribeReturnCode.ofByte? b <;> simp

theorem mapM_codeOf_eq_ok_iff {bs : Bytes} {codes : List SubscribeReturnCode} :
    bs.mapM codeOf = .ok codes ↔ bs = codes.map SubscribeReturnCode.toByte := by
  constructor
  · intro h
    induction bs generalizing codes with
    | nil =>
      cases h
      rfl
    | cons b bs ih =>
      rw [List.mapM_cons] at h
      cases hb : codeOf b with
      | error e =>
        rw [hb] at h
        cases h
      | ok code =>
        cases hbs : bs.mapM codeOf with
        | error e =>
          rw [hb, hbs] at h
          cases h
        | ok tail =>
          rw [hb, hbs] at h
          cases h
          rw [List.map_cons, ← ih hbs, ← codeOf_eq_ok_iff.mp hb]
  · intro h
    subst h
    induction codes with
    | nil => rfl
    | cons code codes ih =>
      rw [List.map_cons, List.mapM_cons, codeOf_eq_ok_iff.mpr rfl, ih]
      rfl

theorem lift_eq_ok_iff {α : Type} {e : Except Error α} {x : α} {bs rest : Bytes} :
    (liftM e : Reader α) bs = .ok (x, rest) ↔ e = .ok x ∧ rest = bs := by
  cases e with
  | error e => simp [liftM, monadLift, MonadLift.monadLift, StateT.lift, bind, Except.bind]
  | ok y =>
    simp [liftM, monadLift, MonadLift.monadLift, StateT.lift, bind, Except.bind, pure, Except.pure,
      eq_comm]

theorem subackReader_eq_ok_iff {p : Packet} {bs rest : Bytes} :
    subackReader bs = .ok (p, rest) ↔
      ∃ i codes, p = .suback i codes ∧ Spells p.fields bs [] ∧ rest = [] := by
  unfold subackReader
  simp only [bind_eq_ok_iff, remainder_eq_ok_iff, pure_eq_ok_iff, uint16_eq_ok_iff,
    lift_eq_ok_iff, mapM_codeOf_eq_ok_iff]
  constructor
  · intro h
    obtain ⟨i, mid, hi, _, _, ⟨rfl, rfl⟩, codes, _, ⟨rfl, rfl⟩, rfl, rfl⟩ := h
    exact ⟨i, codes, rfl, Field.spells_cons.mpr ⟨_, hi, spells_plain.mpr (by simp)⟩, rfl⟩
  · intro h
    obtain ⟨i, codes, rfl, hspells, rfl⟩ := h
    obtain ⟨mid, hi, hcodes⟩ := Field.spells_cons.mp hspells
    rw [spells_plain, List.append_nil] at hcodes
    exact ⟨i, mid, hi, mid, [], ⟨rfl, rfl⟩, codes, [], ⟨hcodes, rfl⟩, rfl, rfl⟩

theorem emptyReader_eq_ok_iff {p q : Packet} {bs rest : Bytes} :
    emptyReader q bs = .ok (p, rest) ↔ p = q ∧ bs = [] ∧ rest = [] := by
  unfold emptyReader
  simp only [bind_eq_ok_iff, finish_eq_ok_iff, pure_eq_ok_iff]
  constructor
  · intro h
    obtain ⟨_, _, ⟨rfl, rfl⟩, rfl, rfl⟩ := h
    exact ⟨rfl, rfl, rfl⟩
  · intro h
    obtain ⟨rfl, rfl, rfl⟩ := h
    exact ⟨(), [], ⟨rfl, rfl⟩, rfl, rfl⟩

/-! ### Whole packets -/

/-- Reads a body as a packet of a kind; the first byte still says the flags of a PUBLISH. -/
def decodeAs (first : UInt8) (body : Bytes) : PacketType → Except Error Packet
  | .connect => Packet.connect <$> whole Connect.reader body
  | .connack => whole connackReader body
  | .publish => Packet.publish <$> Publish.decode first body
  | .puback => Packet.puback <$> whole idReader body
  | .pubrec => Packet.pubrec <$> whole idReader body
  | .pubrel => Packet.pubrel <$> whole idReader body
  | .pubcomp => Packet.pubcomp <$> whole idReader body
  | .subscribe => whole subscribeReader body
  | .suback => whole subackReader body
  | .unsubscribe => whole unsubscribeReader body
  | .unsuback => Packet.unsuback <$> whole idReader body
  | .pingreq => whole (emptyReader .pingreq) body
  | .pingresp => whole (emptyReader .pingresp) body
  | .disconnect => whole (emptyReader .disconnect) body

theorem decode_eq_decodeAs {first : UInt8} {t : PacketType} {body : Bytes}
    (ht : PacketType.ofCode? (first >>> 4) = some t) (hfirst : t ≠ .publish → first = t.firstByte) :
    decode first body = decodeAs first body t := by
  unfold decode
  rw [ht]
  dsimp only
  rw [if_neg]
  · cases t <;> rfl
  · intro h
    exact h.2 (hfirst h.1)

theorem id_eq_ok_iff {make : UInt16 → Packet} {p : Packet} {body : Bytes} :
    make <$> whole idReader body = .ok p ↔ ∃ i, p = make i ∧ Spells [.uint16 i] body [] := by
  rw [Except.map_eq_ok_iff]
  constructor
  · intro ⟨i, hi, hp⟩
    obtain ⟨rest, hread⟩ := whole_eq_ok_iff.mp hi
    exact ⟨i, hp.symm, (idReader_eq_ok_iff.mp hread).1⟩
  · intro ⟨i, hp, hspells⟩
    exact ⟨i, whole_eq_ok_iff.mpr ⟨[], idReader_eq_ok_iff.mpr ⟨hspells, rfl⟩⟩, hp.symm⟩

theorem empty_eq_ok_iff {p q : Packet} {body : Bytes} :
    whole (emptyReader q) body = .ok p ↔ p = q ∧ body = [] := by
  rw [whole_eq_ok_iff]
  simp only [emptyReader_eq_ok_iff]
  constructor
  · intro ⟨_, hp, hbody, _⟩
    exact ⟨hp, hbody⟩
  · intro ⟨hp, hbody⟩
    exact ⟨[], hp, hbody, rfl⟩

theorem decodeAs_eq_ok_iff {first : UInt8} {body : Bytes} {t : PacketType} {p : Packet} :
    decodeAs first body t = .ok p ↔
      p.type = t ∧ (t = .publish → first = p.firstByte) ∧ p.WellFormed ∧ Spells p.fields body [] := by
  constructor
  · intro h
    cases t with
    | connect =>
      obtain ⟨c, hc, rfl⟩ := Except.map_eq_ok_iff.mp h
      obtain ⟨rest, hread⟩ := whole_eq_ok_iff.mp hc
      exact ⟨rfl, nofun, trivial, (Connect.reader_eq_ok_iff.mp hread).1⟩
    | connack =>
      obtain ⟨rest, hread⟩ := whole_eq_ok_iff.mp h
      obtain ⟨present, code, rfl, hspells, _⟩ := connackReader_eq_ok_iff.mp hread
      exact ⟨rfl, nofun, trivial, hspells⟩
    | publish =>
      obtain ⟨q, hq, rfl⟩ := Except.map_eq_ok_iff.mp h
      obtain ⟨hwf, hfirst, hspells⟩ := decode_publish_eq_ok_iff.mp hq
      exact ⟨rfl, fun _ => hfirst, hwf, hspells⟩
    | subscribe =>
      obtain ⟨rest, hread⟩ := whole_eq_ok_iff.mp h
      obtain ⟨i, subs, rfl, hne, hspells, _⟩ := subscribeReader_eq_ok_iff.mp hread
      exact ⟨rfl, nofun, hne, hspells⟩
    | suback =>
      obtain ⟨rest, hread⟩ := whole_eq_ok_iff.mp h
      obtain ⟨i, codes, rfl, hspells, _⟩ := subackReader_eq_ok_iff.mp hread
      exact ⟨rfl, nofun, trivial, hspells⟩
    | unsubscribe =>
      obtain ⟨rest, hread⟩ := whole_eq_ok_iff.mp h
      obtain ⟨i, filters, rfl, hne, hspells, _⟩ := unsubscribeReader_eq_ok_iff.mp hread
      exact ⟨rfl, nofun, hne, hspells⟩
    | puback | pubrec | pubrel | pubcomp | unsuback =>
      obtain ⟨i, rfl, hspells⟩ := id_eq_ok_iff.mp h
      exact ⟨rfl, nofun, trivial, hspells⟩
    | pingreq | pingresp | disconnect =>
      obtain ⟨rfl, rfl⟩ := empty_eq_ok_iff.mp h
      exact ⟨rfl, nofun, trivial, Field.spells_nil.mpr rfl⟩
  · intro ⟨htype, hfirst, hwf, hspells⟩
    subst htype
    cases p with
    | connect c =>
      have hread := Connect.reader_eq_ok_iff.mpr ⟨hspells, rfl⟩
      exact Except.map_eq_ok_iff.mpr ⟨c, whole_eq_ok_iff.mpr ⟨[], hread⟩, rfl⟩
    | connack present code =>
      exact whole_eq_ok_iff.mpr ⟨[], connackReader_eq_ok_iff.mpr ⟨_, _, rfl, hspells, rfl⟩⟩
    | publish q =>
      have hread := decode_publish_eq_ok_iff.mpr ⟨hwf, hfirst rfl, hspells⟩
      exact Except.map_eq_ok_iff.mpr ⟨q, hread, rfl⟩
    | subscribe i subs =>
      exact whole_eq_ok_iff.mpr ⟨[], subscribeReader_eq_ok_iff.mpr ⟨_, _, rfl, hwf, hspells, rfl⟩⟩
    | suback i codes =>
      exact whole_eq_ok_iff.mpr ⟨[], subackReader_eq_ok_iff.mpr ⟨_, _, rfl, hspells, rfl⟩⟩
    | unsubscribe i filters =>
      exact whole_eq_ok_iff.mpr ⟨[], unsubscribeReader_eq_ok_iff.mpr ⟨_, _, rfl, hwf, hspells, rfl⟩⟩
    | puback i | pubrec i | pubrel i | pubcomp i | unsuback i =>
      exact id_eq_ok_iff.mpr ⟨i, rfl, hspells⟩
    | pingreq | pingresp | disconnect =>
      exact empty_eq_ok_iff.mpr ⟨rfl, Field.spells_nil.mp hspells⟩

theorem firstByte_of_type_ne_publish {p : Packet} (h : p.type ≠ .publish) :
    p.firstByte = p.type.firstByte := by
  cases p with
  | publish q => exact absurd rfl h
  | _ => rfl

theorem ofCode?_firstByte (p : Packet) : PacketType.ofCode? (p.firstByte >>> 4) = some p.type := by
  have key : ∀ t : PacketType, t ≠ .publish → PacketType.ofCode? (t.firstByte >>> 4) = some t := by
    intro t ht
    cases t with
    | publish => exact absurd rfl ht
    | _ => decide
  by_cases hp : p.type = .publish
  · cases p with
    | publish q =>
      obtain ⟨hkind, _⟩ := Publish.eq_firstByte_iff.mp (rfl : (publish q).firstByte = _)
      rw [hkind]
      rfl
    | _ => cases hp
  · rw [firstByte_of_type_ne_publish hp]
    exact key _ hp

theorem decode_eq_ok_iff {first : UInt8} {body : Bytes} {p : Packet} :
    decode first body = .ok p ↔ p.WellFormed ∧ first = p.firstByte ∧ Spells p.fields body [] := by
  constructor
  · intro h
    cases ht : PacketType.ofCode? (first >>> 4) with
    | none =>
      unfold decode at h
      rw [ht] at h
      cases h
    | some t =>
      have hfirst : t ≠ .publish → first = t.firstByte := by
        intro hne
        refine Classical.byContradiction fun hbad => ?_
        unfold decode at h
        rw [ht] at h
        dsimp only at h
        rw [if_pos ⟨hne, hbad⟩] at h
        cases h
      rw [decode_eq_decodeAs ht hfirst] at h
      obtain ⟨rfl, hpublish, hwf, hspells⟩ := decodeAs_eq_ok_iff.mp h
      refine ⟨hwf, ?_, hspells⟩
      by_cases hp : p.type = .publish
      · exact hpublish hp
      · rw [hfirst hp, firstByte_of_type_ne_publish hp]
  · intro ⟨hwf, hfirst, hspells⟩
    subst hfirst
    rw [decode_eq_decodeAs p.ofCode?_firstByte firstByte_of_type_ne_publish]
    exact decodeAs_eq_ok_iff.mpr ⟨rfl, fun _ => rfl, hwf, hspells⟩

/-! ### Writing -/

/-- The length that is announced is the length of the body. -/
theorem length_body (p : Packet) : (p.fields.flatMap Field.bytes).length = p.remainingLength := by
  cases p with
  | connect c =>
    have hname : (Field.text Connect.protocolName).bytes.length = 6 := by decide
    simp only [fields, remainingLength, Connect.remainingLength, Connect.fields_eq,
      List.flatMap_append, List.flatMap_cons, List.flatMap_nil, List.length_append,
      List.length_nil, Field.length_bytes_text, hname]
    cases c.will <;> cases c.username <;> cases c.password <;>
      simp only [Connect.willFields, List.flatMap_cons, List.flatMap_nil, List.length_append,
        List.length_nil, Option.map_none, Option.map_some, Option.toList_none, Option.toList_some,
        Field.length_bytes_text, Field.length_bytes_byte, Field.length_bytes_uint16,
        Field.length_bytes_sized] <;>
      omega
  | publish q =>
    rw [fields_publish, List.flatMap_append, List.length_append, Publish.length_headerFields]
    simp [remainingLength, Publish.headerLength]
  | subscribe i subs =>
    simp only [fields, remainingLength, List.flatMap_cons, List.length_append]
    have hsubs : ((subs.flatMap subscriptionFields).flatMap Field.bytes).length =
        (subs.map fun s => 2 + s.filter.utf8ByteSize + 1).foldr (· + ·) 0 := by
      induction subs with
      | nil => rfl
      | cons s subs ih =>
        rw [List.flatMap_cons, List.flatMap_append, List.length_append, ih, List.map_cons,
          List.foldr_cons]
        simp [subscriptionFields]
    exact congrArg (2 + ·) hsubs
  | unsubscribe i filters =>
    simp only [fields, remainingLength, List.flatMap_cons, List.length_append]
    have hfilters : ((filters.map Field.text).flatMap Field.bytes).length =
        (filters.map fun f => 2 + f.utf8ByteSize).foldr (· + ·) 0 := by
      induction filters with
      | nil => rfl
      | cons f filters ih =>
        rw [List.map_cons, List.flatMap_cons, List.length_append, ih, List.map_cons,
          List.foldr_cons, Field.length_bytes_text]
    exact congrArg (2 + ·) hfilters
  | suback i codes => simp [fields, remainingLength, Field.bytes, Bytes.ofUInt16_length]
  | _ => rfl

theorem length_of_spells {p : Packet} {body : Bytes} (h : Spells p.fields body []) :
    body.length = p.remainingLength := by
  rw [h.2, List.append_nil, length_body]

theorem encode_eq_ok_iff {p : Packet} {bs : Bytes} :
    p.encode = .ok bs ↔ p.remainingLength ≤ VarLength.maximum ∧
      ∃ body, Spells p.fields body []
        ∧ bs = p.firstByte :: (VarLength.digits p.remainingLength ++ body) := by
  unfold encode writeTo VarLength.encode
  by_cases hsize : p.remainingLength ≤ VarLength.maximum
  · rw [if_pos hsize]
    dsimp only
    cases hall : Field.encodeAll p.fields with
    | mk body result =>
      cases result with
      | error e =>
        simp only [reduceCtorEq, false_iff]
        intro ⟨_, body', hspells, _⟩
        rw [Field.encodeAll_eq_ok_iff.mpr hspells] at hall
        cases hall
      | ok u =>
        have hbody := Field.encodeAll_eq_ok_iff.mp hall
        simp only [List.nil_append, Except.ok.injEq]
        constructor
        · intro hbs
          exact ⟨hsize, body, hbody, hbs.symm⟩
        · intro ⟨_, body', hspells, hbs⟩
          rw [hbs, hbody.2, hspells.2]
  · rw [if_neg hsize]
    simp [hsize]

end Packet
end Mqtt
