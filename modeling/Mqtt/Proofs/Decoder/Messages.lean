import Mqtt.Proofs.Decoder.Cuttings
import Mqtt.Proofs.Decoder.Harvest

/-!
Where the chunks of a long message stand among the items: the first has the offset 0, and each of
the others comes right after the one that it continues.
-/

namespace Mqtt
set_option autoImplicit false

namespace DecodedItem

/-- Every chunk begins its message, or takes it up where the item right before leaves it. -/
def Coherent (items : List DecodedItem) : Prop :=
  ∀ before c after, items = before ++ .chunk c :: after →
    c.offset = 0 ∨ 0 < c.offset ∧ ∃ earlier d, before = earlier ++ [.chunk d] ∧ d.ContinuedBy c

variable {items xs ys : List DecodedItem}

theorem Coherent.left (h : Coherent (xs ++ ys)) : Coherent xs := by
  intro before c after hxs
  apply h before c (after ++ ys)
  rw [hxs, List.append_assoc]
  rfl

theorem Coherent.after_packet {p : Packet} (h : Coherent (.packet p :: items)) :
    Coherent items := by
  intro before c after hitems
  rcases h (.packet p :: before) c after (by rw [hitems]; rfl) with hzero | ⟨hpos, earlier, d, hd⟩
  · exact .inl hzero
  · obtain ⟨hbefore, hcontinues⟩ := hd
    cases earlier with
    | nil => cases hbefore
    | cons x earlier => exact .inr ⟨hpos, earlier, d, (List.cons.inj hbefore).2, hcontinues⟩

/-- What is joined in front of some items goes into the first of them, and leaves the others. -/
theorem suffix_foldr_joinTo (xs : List DecodedItem) (y : DecodedItem) (ys : List DecodedItem) :
    ∃ z zs, xs.foldr joinTo (y :: ys) = z :: zs ∧ ys <:+ zs := by
  induction xs with
  | nil => exact ⟨y, ys, rfl, List.suffix_refl ys⟩
  | cons x xs ih =>
    obtain ⟨z, zs, hjoined, hsuffix⟩ := ih
    rw [List.foldr_cons, hjoined]
    match x, z with
    | .packet p, z => exact ⟨.packet p, z :: zs, rfl, hsuffix.trans (List.suffix_cons z zs)⟩
    | .chunk c, .packet p =>
      exact ⟨.chunk c, .packet p :: zs, rfl, hsuffix.trans (List.suffix_cons _ zs)⟩
    | .chunk c, .chunk d =>
      by_cases hcontinues : c.ContinuedBy d
      · exact ⟨.chunk (c.extend d), zs, if_pos hcontinues, hsuffix⟩
      · exact ⟨.chunk c, .chunk d :: zs, if_neg hcontinues,
          hsuffix.trans (List.suffix_cons _ zs)⟩

theorem joinTo_chunk (c : Chunk) (items : List DecodedItem) :
    ∃ d zs, joinTo (.chunk c) items = .chunk d :: zs ∧ d.publish = c.publish ∧ d.total = c.total
      ∧ d.offset = c.offset := by
  match items with
  | [] => exact ⟨c, [], rfl, rfl, rfl, rfl⟩
  | .packet p :: items => exact ⟨c, _, rfl, rfl, rfl, rfl⟩
  | .chunk d :: items =>
    by_cases hcontinues : c.ContinuedBy d
    · exact ⟨c.extend d, items, if_pos hcontinues, rfl, rfl, rfl⟩
    · exact ⟨c, .chunk d :: items, if_neg hcontinues, rfl, rfl, rfl⟩

/-- Chunks that can be joined to messages from the beginning stand one after the other. -/
theorem coherent_of_joined (h : ∀ c, .chunk c ∈ joined items → c.offset = 0) : Coherent items := by
  intro before c after hitems
  by_cases hzero : c.offset = 0
  · exact .inl hzero
  · refine .inr ⟨Nat.pos_of_ne_zero hzero, ?_⟩
    obtain ⟨d, zs, hd, hpublish, htotal, hoffset⟩ := joinTo_chunk c (joined after)
    have hjoined : joined items = before.foldr joinTo (.chunk d :: zs) := by
      rw [hitems, joined_append, joined_cons, hd]
    rcases List.eq_nil_or_concat before with hnil | ⟨earlier, x, hbefore⟩
    · rw [hnil] at hjoined
      have hmem : .chunk d ∈ joined items := by
        rw [hjoined]
        exact List.mem_cons_self
      exact absurd (hoffset.symm.trans (h d hmem)) hzero
    · rw [List.concat_eq_append] at hbefore
      refine ⟨earlier, ?_⟩
      -- A chunk that nothing before it takes up is to be seen among the joined items.
      have hseen : ∀ y, joinTo x (.chunk d :: zs) = y :: .chunk d :: zs → False := by
        intro y hy
        obtain ⟨z, tail, hfold, hsuffix⟩ := suffix_foldr_joinTo earlier y (.chunk d :: zs)
        rw [hbefore, List.foldr_append, List.foldr_cons, List.foldr_nil, hy, hfold] at hjoined
        have hmem : .chunk d ∈ joined items := by
          rw [hjoined]
          exact List.mem_cons_of_mem z (hsuffix.mem List.mem_cons_self)
        exact hzero (hoffset.symm.trans (h d hmem))
      match x with
      | .packet p => exact (hseen _ rfl).elim
      | .chunk b =>
        by_cases hcontinues : b.ContinuedBy d
        · refine ⟨b, hbefore, ?_⟩
          obtain ⟨hp, ht, ho⟩ := hcontinues
          exact ⟨hpublish.symm.trans hp, htotal.symm.trans ht, hoffset.symm.trans ho⟩
        · exact (hseen _ (if_neg hcontinues)).elim

end DecodedItem

namespace Decoder

theorem coherent_feedAll (limit : Nat) (pieces : List Bytes) :
    DecodedItem.Coherent ((Decoder.new limit).feedAll pieces).2.1 := by
  obtain ⟨items, hfeed, hjoined⟩ := feedAll_new limit pieces
  have hbegins := (runs limit .start pieces.flatten).begins trivial
  rw [DecodedItem.joined_of_begins hbegins] at hjoined
  rw [hfeed]
  apply DecodedItem.coherent_of_joined
  intro c hc
  rw [hjoined] at hc
  exact (hbegins c hc).1

theorem items_feedAll_concat {d d' : Decoder} {items : List DecodedItem} {front : List Bytes}
    (h : d.feedAll front = (d', items, .ok ())) (piece : Bytes) :
    (d.feedAll (front ++ [piece])).2.1 = items ++ (d'.feed piece).2.1 := by
  rcases feedAll_append d front [piece] with ⟨⟨e, herror⟩, _⟩ | ⟨_, heq⟩
  · rw [h] at herror
    cases herror
  · rw [heq, h]
    dsimp only
    cases hfeed : d'.feed piece with
    | mk d₁ r =>
      obtain ⟨more, result⟩ := r
      cases result with
      | error e => rw [feedAll_cons_of_error hfeed]
      | ok u =>
        rw [feedAll_cons_of_ok hfeed]
        exact congrArg (items ++ ·) (List.append_nil more)

theorem data_ne_nil_of_mem_feedAll (d : Decoder) (pieces : List Bytes) :
    ∀ c, .chunk c ∈ (d.feedAll pieces).2.1 → c.data ≠ [] := by
  induction pieces generalizing d with
  | nil => nofun
  | cons piece pieces ih =>
    intro c hc
    cases hfeed : d.feed piece with
    | mk d₁ r =>
      obtain ⟨items, result⟩ := r
      have hitems : items = (run d.limit d.state piece).2 :=
        (congrArg (fun x => x.2.1) hfeed).symm
      cases result with
      | error e =>
        rw [feedAll_cons_of_error hfeed, hitems] at hc
        exact (runs d.limit d.state piece).data_ne_nil c hc
      | ok u =>
        rw [feedAll_cons_of_ok hfeed] at hc
        rcases List.mem_append.mp hc with hc | hc
        · rw [hitems] at hc
          exact (runs d.limit d.state piece).data_ne_nil c hc
        · exact ih d₁ c hc

end Decoder
end Mqtt
