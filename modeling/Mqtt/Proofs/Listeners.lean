import Mathlib.Data.List.Induction
import Mathlib.Logic.Function.Basic
import Mathlib.Tactic.SplitIfs
import Mqtt.Listeners

/-!
A registry is a finite map from ids to listeners, written as the list of its entries, ids ascending.
A broadcast goes through the entries that were there when it began. What callbacks do meanwhile
only adds up: who is told and what is edited come apart, and each is a plain fold over the list.
-/

namespace Mqtt
set_option autoImplicit false

/-- An edit of the map that a registry stands for. -/
def Edit.act {κ : Type} (f : Nat → Option (Listener κ)) : Edit κ → Nat → Option (Listener κ)
  | .add id l => Function.update f id (some l)
  | .remove id => Function.update f id none

namespace Listener

variable {κ : Type}

def mailbox? : Listener κ → Option Nat
  | .channel number => some number
  | .callback _ => none

theorem mailbox?_channel (number : Nat) : (channel number : Listener κ).mailbox? = some number :=
  rfl

theorem mailbox?_callback (k : κ) : (callback k).mailbox? = none :=
  rfl

/-- What a listener does when it is told of an event. A channel does nothing. -/
def reaction (react : κ → Event → Reaction κ) (e : Event) : Listener κ → Reaction κ
  | .channel _ => {}
  | .callback k => react k e

end Listener

namespace Registry

variable {κ : Type} {r : Registry κ}

/-! ### Registries as maps -/

def Ordered (r : Registry κ) : Prop := r.Pairwise fun x y => x.1 < y.1

instance (r : Registry κ) : Decidable r.Ordered :=
  inferInstanceAs (Decidable (r.Pairwise fun x y => x.1 < y.1))

/-- The map that a registry stands for. -/
def listener? (r : Registry κ) (id : Nat) : Option (Listener κ) := r.lookup id

theorem listener?_cons (x : Nat × Listener κ) (r : Registry κ) :
    listener? (x :: r) = Function.update r.listener? x.1 (some x.2) := by
  funext id
  unfold listener?
  rw [List.lookup_cons]
  by_cases hid : id = x.1
  · rw [hid, Function.update_self, beq_self_eq_true]
  · rw [Function.update_of_ne hid, beq_false_of_ne hid]

/-- Replaces or adds, at any place of the list, ordered or not. -/
theorem listener?_insert (id : Nat) (l : Listener κ) (r : Registry κ) :
    (r.insert id l).listener? = Function.update r.listener? id (some l) := by
  induction r with
  | nil => exact listener?_cons (id, l) []
  | cons x rest ih =>
    obtain ⟨k, y⟩ := x
    unfold insert
    split_ifs with hlt heq
    · exact listener?_cons (id, l) _
    · subst heq
      rw [listener?_cons, listener?_cons, Function.update_idem]
    · rw [listener?_cons, listener?_cons, ih, Function.update_comm (Ne.symm heq)]

theorem listener?_erase (r : Registry κ) (id : Nat) :
    (r.erase id).listener? = Function.update r.listener? id none := by
  induction r with
  | nil => exact (Function.update_eq_self id (listener? [])).symm
  | cons x rest ih =>
    unfold erase at ih ⊢
    by_cases hid : x.1 = id
    · rw [List.filter_cons_of_neg (by simpa using hid), ih, listener?_cons, hid,
        Function.update_idem]
    · rw [List.filter_cons_of_pos (by simpa using hid), listener?_cons, ih, listener?_cons,
        Function.update_comm hid]

theorem editAll_append (r : Registry κ) (xs ys : List (Edit κ)) :
    r.editAll (xs ++ ys) = (r.editAll xs).editAll ys :=
  List.foldl_append

theorem listener?_edit (r : Registry κ) (x : Edit κ) :
    (r.edit x).listener? = x.act r.listener? := by
  cases x with
  | add id l => exact listener?_insert id l r
  | remove id => exact listener?_erase r id

theorem listener?_editAll (r : Registry κ) (edits : List (Edit κ)) :
    (r.editAll edits).listener? = edits.foldl Edit.act r.listener? := by
  induction edits generalizing r with
  | nil => rfl
  | cons x rest ih =>
    change ((r.edit x).editAll rest).listener? = rest.foldl Edit.act (x.act r.listener?)
    rw [ih, listener?_edit]

/-! ### Order -/

theorem mem_insert {id : Nat} {l : Listener κ} {x : Nat × Listener κ} (h : x ∈ r.insert id l) :
    x = (id, l) ∨ x ∈ r := by
  induction r with
  | nil => exact .inl (List.mem_singleton.mp h)
  | cons y rest ih =>
    unfold insert at h
    split_ifs at h
    · exact List.mem_cons.mp h
    · exact (List.mem_cons.mp h).imp_right (List.mem_cons_of_mem _)
    · obtain rfl | h := List.mem_cons.mp h
      · exact .inr List.mem_cons_self
      · exact (ih h).imp_right (List.mem_cons_of_mem _)

theorem Ordered.insert (h : r.Ordered) (id : Nat) (l : Listener κ) : (r.insert id l).Ordered := by
  induction r with
  | nil => exact List.pairwise_singleton _ _
  | cons x rest ih =>
    obtain ⟨hx, hrest⟩ := List.pairwise_cons.mp h
    unfold Registry.insert
    split_ifs with hlt heq
    · refine List.pairwise_cons.mpr ⟨?_, h⟩
      intro y hy
      obtain rfl | hy := List.mem_cons.mp hy
      · exact hlt
      · exact Nat.lt_trans hlt (hx y hy)
    · subst heq
      exact List.pairwise_cons.mpr ⟨hx, hrest⟩
    · refine List.pairwise_cons.mpr ⟨?_, ih hrest⟩
      intro y hy
      obtain rfl | hy := mem_insert hy
      · exact Nat.lt_of_le_of_ne (Nat.le_of_not_lt hlt) (Ne.symm heq)
      · exact hx y hy

theorem Ordered.edit (h : r.Ordered) (x : Edit κ) : (r.edit x).Ordered := by
  cases x with
  | add id l => exact h.insert id l
  | remove id => exact List.Pairwise.filter _ h

theorem Ordered.editAll (h : r.Ordered) (edits : List (Edit κ)) : (r.editAll edits).Ordered := by
  induction edits generalizing r with
  | nil => exact h
  | cons x rest ih => exact ih (h.edit x)

theorem insert_of_lt {id : Nat} (h : ∀ x ∈ r, x.1 < id) (l : Listener κ) :
    r.insert id l = r ++ [(id, l)] := by
  induction r with
  | nil => rfl
  | cons x rest ih =>
    obtain ⟨hx, hrest⟩ := List.forall_mem_cons.mp h
    unfold insert
    rw [if_neg (Nat.not_lt_of_lt hx), if_neg (Nat.ne_of_gt hx), ih hrest]
    rfl

/-- The ordered registries are those that come about from no listener at all. -/
theorem ordered_iff_exists_edits : r.Ordered ↔ ∃ edits, r = editAll [] edits := by
  constructor
  · intro h
    refine ⟨r.map fun x => .add x.1 x.2, ?_⟩
    induction r using List.reverseRecOn with
    | nil => rfl
    | append_singleton r x ih =>
      obtain ⟨hr, _, hlast⟩ := List.pairwise_append.mp h
      have hlt : ∀ y ∈ r, y.1 < x.1 := fun y hy => hlast y hy x List.mem_cons_self
      rw [List.map_append, editAll_append, ← ih hr]
      exact (insert_of_lt hlt x.2).symm
  · rintro ⟨edits, rfl⟩
    exact Ordered.editAll List.Pairwise.nil edits

/-- Under an id there is one entry, for the listener that has it, or none. -/
theorem Ordered.filter_id (h : r.Ordered) (id : Nat) :
    r.filter (fun x => x.1 = id) = ((r.listener? id).map fun l => (id, l)).toList := by
  induction r with
  | nil => rfl
  | cons x rest ih =>
    obtain ⟨hx, hrest⟩ := List.pairwise_cons.mp h
    rw [listener?_cons]
    by_cases hid : x.1 = id
    · subst hid
      have hnone : rest.filter (fun y => y.1 = x.1) = [] := by
        apply List.filter_eq_nil_iff.mpr
        intro y hy
        simpa using Nat.ne_of_gt (hx y hy)
      rw [List.filter_cons_of_pos (by simp), hnone, Function.update_self]
      rfl
    · rw [List.filter_cons_of_neg (by simpa using hid), ih hrest,
        Function.update_of_ne (Ne.symm hid)]

/-! ### Telling -/

/-- Those who are told: all up to the first that fails, which is told too. -/
def audience (react : κ → Event → Reaction κ) (e : Event) : Registry κ → Registry κ
  | [] => []
  | x :: rest => if (x.2.reaction react e).fails then [x] else x :: audience react e rest

/-- All that some listeners do to the registry when they are told of an event. -/
def editsOf (react : κ → Event → Reaction κ) (e : Event) (told : Registry κ) : List (Edit κ) :=
  told.flatMap fun x => (x.2.reaction react e).edits

/-- What it comes to that one listener is told. -/
theorem tell_cons (react : κ → Event → Reaction κ) (e : Event) (r : Registry κ)
    (x : Nat × Listener κ) (rest : Registry κ) :
    tell react e r (x :: rest) =
      if (x.2.reaction react e).fails then
        ⟨r.editAll (x.2.reaction react e).edits, [x], true⟩
      else
        let t := tell react e (r.editAll (x.2.reaction react e).edits) rest
        { t with told := x :: t.told } := by
  obtain ⟨id, number | k⟩ := x <;> rfl

/-- The induction is over those who are still to be told. The registry is free in it, for it
changes on the way, and none of that shows in who is told. -/
theorem tell_eq (react : κ → Event → Reaction κ) (e : Event) (r rest : Registry κ) :
    tell react e r rest = ⟨r.editAll (editsOf react e (audience react e rest)),
      audience react e rest, rest.any fun x => (x.2.reaction react e).fails⟩ := by
  induction rest generalizing r with
  | nil => rfl
  | cons x rest ih =>
    rw [tell_cons, List.any_cons]
    unfold audience
    split_ifs with hfails
    · rw [hfails, Bool.true_or, editsOf, List.flatMap_singleton]
    · have hedits : editsOf react e (x :: audience react e rest) =
          (x.2.reaction react e).edits ++ editsOf react e (audience react e rest) :=
        List.flatMap_cons
      rw [ih, Bool.eq_false_iff.mpr hfails, Bool.false_or, hedits, editAll_append]

theorem failed_broadcast (react : κ → Event → Reaction κ) (r : Registry κ) (e : Event) :
    (r.broadcast react e).failed = r.any fun x => (x.2.reaction react e).fails := by
  rw [broadcast, tell_eq]

theorem audience_of_calm {react : κ → Event → Reaction κ} {e : Event}
    (hcalm : ∀ x ∈ r, (x.2.reaction react e).fails = false) : audience react e r = r := by
  induction r with
  | nil => rfl
  | cons x rest ih =>
    obtain ⟨hx, hrest⟩ := List.forall_mem_cons.mp hcalm
    rw [audience, hx, if_neg Bool.false_ne_true, ih hrest]

end Registry

namespace Mailboxes

variable {κ : Type}

/-- A mailbox gets an event once from each channel into it. Channels into mailboxes that are no
longer held take nothing from the others. -/
theorem sendAll_eq (m : Mailboxes) (told : Registry κ) (e : Event) :
    m.sendAll told e = { m with held := m.held.map fun b =>
      { b with events := b.events ++
          List.replicate (told.countP fun x => x.2.mailbox? = some b.number) e } } := by
  induction told generalizing m with
  | nil => simp [sendAll]
  | cons x rest ih =>
    obtain ⟨id, number | k⟩ := x
    · change (m.send number e).sendAll rest e = _
      rw [ih, send, List.map_map]
      refine congrArg (Mailboxes.mk m.fresh) (List.map_congr_left fun b _ => ?_)
      by_cases hb : b.number = number
      · subst hb
        simp [Listener.mailbox?_channel, List.replicate_succ]
      · simp [Listener.mailbox?_channel, hb, Ne.symm hb]
    · change m.sendAll rest e = _
      rw [ih]
      simp [Listener.mailbox?_callback]

end Mailboxes

namespace Registry

variable {κ : Type} {r : Registry κ}

/-- As long as no callback fails, everybody who was registered when the event was raised is told of
it once, in the order of ids and as registered then, and nobody else. All that the callbacks did,
in the order in which they were called, is what has become of the registry. -/
theorem broadcast_tells_all_at_start (react : κ → Event → Reaction κ) (e : Event)
    (hr : r.Ordered) (hcalm : ∀ x ∈ r, (x.2.reaction react e).fails = false) (m : Mailboxes) :
    let t := r.broadcast react e
    let edits := r.editsOf react e
    t.told = r ∧ t.failed = false
      ∧ (t.told.map Prod.fst).Pairwise (· < ·)
      ∧ (∀ id, t.told.filter (fun x => x.1 = id)
          = ((r.listener? id).map fun l => (id, l)).toList)
      ∧ m.sendAll t.told e = { m with held := m.held.map fun b =>
          { b with events := b.events ++
              List.replicate (r.countP fun x => x.2.mailbox? = some b.number) e } }
      ∧ t.registry = r.editAll edits ∧ t.registry.Ordered
      ∧ t.registry.listener? = edits.foldl Edit.act r.listener? := by
  intro t edits
  have ht : t = ⟨r.editAll edits, r, false⟩ := by
    have hany : (r.any fun x => (x.2.reaction react e).fails) = false := by
      apply List.any_eq_false.mpr
      intro x hx
      rw [hcalm x hx]
      exact Bool.false_ne_true
    change tell react e r r = _
    rw [tell_eq, audience_of_calm hcalm, hany]
  rw [ht]
  exact ⟨rfl, rfl, List.pairwise_map.mpr hr, hr.filter_id, m.sendAll_eq r e, rfl, hr.editAll edits,
    listener?_editAll r edits⟩

/-- Callbacks that remove themselves and others, put others in their place, and come back. Those
that they put in would fail. -/
def meddle (k : Nat) (_ : Event) : Reaction Nat :=
  match k with
  | 0 => { edits := [.remove 1, .remove 2, .add 2 (.callback 9), .add 5 (.callback 9), .remove 6,
      .add 3 (.channel 0)] }
  | 1 => { edits := [.add 1 (.callback 9), .remove 4] }
  | 2 => { edits := [.remove 5, .add 5 (.callback 2)] }
  | _ => { fails := true }

theorem broadcast_tells_all_at_start_of_meddling :
    let r : Registry Nat := [(1, .callback 0), (2, .callback 1), (4, .channel 7),
      (5, .callback 2), (6, .channel 0)]
    let e : Event := .published 3
    let t := r.broadcast meddle e
    (r.Ordered ∧ ∀ x ∈ r, (x.2.reaction meddle e).fails = false)
      ∧ t.told = r
      ∧ t.registry = [(1, .callback 9), (2, .callback 9), (3, .channel 0), (5, .callback 2)]
      ∧ Mailboxes.sendAll ⟨1, [⟨0, 6, []⟩]⟩ t.told e = ⟨1, [⟨0, 6, [e]⟩]⟩ := by
  intro r e t
  have hr : r.Ordered := by decide
  have hcalm : ∀ x ∈ r, (x.2.reaction meddle e).fails = false := by decide
  obtain ⟨htold, -, -, -, hsent, hregistry, -⟩ :=
    broadcast_tells_all_at_start meddle e hr hcalm ⟨1, [⟨0, 6, []⟩]⟩
  exact ⟨⟨hr, hcalm⟩, htold, hregistry.trans rfl, hsent.trans rfl⟩

end Registry

end Mqtt
