import Mathlib.Data.List.DropRight
import Mathlib.Data.List.Nodup
import Mqtt.Proofs.Client.Scene

/-!
The way of an operation that was issued: from its caller into the queue, to the session, and to an
answer. The log tells for each ticket how far the operation has come, and no ticket is used twice.
-/

namespace Mqtt
set_option autoImplicit false

/-- Where an operation is that was issued and is not settled. -/
inductive Place where
  | called
  | failed (e : Error)
  | queued
  | inFlight
deriving DecidableEq, Repr

/-- Whether an operation has left its caller. -/
def Place.IsPosted : Place → Prop
  | queued | inFlight => True
  | _ => False

def Stage.place : Stage → Place
  | .failed e => .failed e
  | _ => .called

/-- The ticket of an entry about the way of an operation. -/
def LogEntry.ticket? : LogEntry → Option Nat
  | .accepted r | .queued r | .taken r | .wrote (.request r) _ => some r.ticket
  | .answered ticket _ => some ticket
  | _ => none

/-- What the log tells of a ticket. -/
def story (log : List LogEntry) (ticket : Nat) : List LogEntry :=
  log.filter fun x => x.ticket? = some ticket

theorem story_append (log es : List LogEntry) (ticket : Nat) :
    story (log ++ es) ticket = story log ticket ++ story es ticket := List.filter_append ..

theorem mem_story {log : List LogEntry} {x : LogEntry} {ticket : Nat} :
    x ∈ story log ticket ↔ x ∈ log ∧ x.ticket? = some ticket := by
  unfold story
  rw [List.mem_filter, decide_eq_true_iff]

theorem story_eq_nil {log : List LogEntry} {ticket : Nat} (h : ∀ x ∈ log, x.ticket? ≠ some ticket) :
    story log ticket = [] := by
  unfold story
  rw [List.filter_eq_nil_iff]
  intro x hx
  simpa using h x hx

/-- Entries about one ticket change no other story. -/
theorem story_append_of_other {log es : List LogEntry} {own ticket : Nat}
    (hes : ∀ x ∈ es, x.ticket? = none ∨ x.ticket? = some own) (hne : ticket ≠ own) :
    story (log ++ es) ticket = story log ticket := by
  have hnone : story es ticket = [] := by
    refine story_eq_nil fun x hx hticket => ?_
    rcases hes x hx with hx | hx
    · cases hx.symm.trans hticket
    · exact hne (Option.some.inj (hticket.symm.trans hx))
  rw [story_append, hnone, List.append_nil]

/-- How an operation gets on, as its ticket's part of the log tells it. -/
inductive Progress (r : Request) : Option Place → List LogEntry → Prop where
  | accepted : Progress r (some .called) [.accepted r]
  | fails {xs : List LogEntry} (e : Error) (h : Progress r (some .called) xs) :
    Progress r (some (.failed e)) (xs ++ [.answered r.ticket (.error e)])
  | givesUp {xs : List LogEntry} {e : Error} (h : Progress r (some (.failed e)) xs) :
    Progress r none xs
  | queued {xs : List LogEntry} (h : Progress r (some .called) xs) :
    Progress r (some .queued) (xs ++ [.queued r])
  | taken {xs : List LogEntry} (h : Progress r (some .queued) xs) :
    Progress r (some .inFlight) (xs ++ [.taken r])
  | writes {xs : List LogEntry} (h : Progress r (some .inFlight) xs) :
    Progress r none (xs ++ [.wrote (.request r) r.packet, .answered r.ticket (.ok ())])
  | breaks {xs : List LogEntry} (e : Error) (h : Progress r (some .inFlight) xs) :
    Progress r none (xs ++ [.answered r.ticket (.error e)])
  | loses {xs : List LogEntry} (e : Error) (h : Progress r (some .queued) xs) :
    Progress r none (xs ++ [.answered r.ticket (.error e)])
  /-- The queue was lost, and nobody waited for an answer. -/
  | drops {xs : List LogEntry} (h : Progress r (some .queued) xs) : Progress r none xs

namespace Progress

variable {r : Request} {place : Option Place} {xs : List LogEntry}

theorem eq_of_called (h : Progress r (some .called) xs) : xs = [.accepted r] := by
  cases h
  rfl

theorem eq_of_failed {e : Error} (h : Progress r (some (.failed e)) xs) :
    xs = [.accepted r, .answered r.ticket (.error e)] := by
  cases h with
  | fails e h => rw [h.eq_of_called]; rfl

theorem eq_of_queued (h : Progress r (some .queued) xs) : xs = [.accepted r, .queued r] := by
  cases h with
  | queued h => rw [h.eq_of_called]; rfl

theorem eq_of_inFlight (h : Progress r (some .inFlight) xs) :
    xs = [.accepted r, .queued r, .taken r] := by
  cases h with
  | taken h => rw [h.eq_of_queued]; rfl

/-- The stories of operations that are settled. -/
theorem eq_of_settled (h : Progress r none xs) :
    xs = [.accepted r, .queued r]
      ∨ (∃ e, xs = [.accepted r, .answered r.ticket (.error e)]
        ∨ xs = [.accepted r, .queued r, .answered r.ticket (.error e)]
        ∨ xs = [.accepted r, .queued r, .taken r, .answered r.ticket (.error e)])
      ∨ xs = [.accepted r, .queued r, .taken r, .wrote (.request r) r.packet,
          .answered r.ticket (.ok ())] := by
  cases h with
  | givesUp h => exact .inr (.inl ⟨_, .inl h.eq_of_failed⟩)
  | writes h => rw [h.eq_of_inFlight]; exact .inr (.inr rfl)
  | breaks e h => rw [h.eq_of_inFlight]; exact .inr (.inl ⟨e, .inr (.inr rfl)⟩)
  | loses e h => rw [h.eq_of_queued]; exact .inr (.inl ⟨e, .inr (.inl rfl)⟩)
  | drops h => exact .inl h.eq_of_queued

theorem accepted_mem (h : Progress r place xs) : .accepted r ∈ xs := by
  induction h with
  | accepted => exact List.mem_singleton_self _
  | givesUp _ ih => exact ih
  | drops _ ih => exact ih
  | _ => exact List.mem_append_left _ ‹_›

theorem eq_of_accepted_mem (h : Progress r place xs) {r' : Request} (hmem : .accepted r' ∈ xs) :
    r' = r := by
  induction h with
  | accepted => cases List.mem_singleton.mp hmem; rfl
  | givesUp _ ih => exact ih hmem
  | drops _ ih => exact ih hmem
  | _ =>
    rename_i ih
    rcases List.mem_append.mp hmem with hmem | hmem
    · exact ih hmem
    · simp at hmem

theorem eq_of_wrote_mem (h : Progress r place xs) {r' : Request} {bytes : Bytes}
    (hmem : .wrote (.request r') bytes ∈ xs) : r' = r ∧ bytes = r.packet := by
  induction h with
  | accepted => cases List.mem_singleton.mp hmem
  | givesUp _ ih => exact ih hmem
  | drops _ ih => exact ih hmem
  | writes _ ih =>
    rcases List.mem_append.mp hmem with hmem | hmem
    · exact ih hmem
    · simpa using hmem
  | _ =>
    rename_i ih
    rcases List.mem_append.mp hmem with hmem | hmem
    · exact ih hmem
    · simp at hmem

end Progress

/-! ### Every ticket has its story -/

/-- The tickets of operations that are on their way. -/
def ticketsOf (places : List (Request × Place)) : List Nat := places.map fun x => x.1.ticket

theorem mem_ticketsOf {places : List (Request × Place)} {ticket : Nat} :
    ticket ∈ ticketsOf places ↔ ∃ x ∈ places, x.1.ticket = ticket := List.mem_map

theorem ticketsOf_append (front back : List (Request × Place)) :
    ticketsOf (front ++ back) = ticketsOf front ++ ticketsOf back := List.map_append

/-- Whether the log and the places agree, ticket by ticket. -/
structure Tidy (places : List (Request × Place)) (tickets : Nat) (log : List LogEntry) : Prop where
  nodup : (ticketsOf places).Nodup
  under : ∀ x ∈ places, Progress x.1 (some x.2) (story log x.1.ticket)
  settled : ∀ ticket, ticket ∉ ticketsOf places → story log ticket = []
    ∨ ∃ r, r.ticket = ticket ∧ Progress r none (story log ticket)
  fresh : ∀ ticket, tickets ≤ ticket → story log ticket = []

namespace Tidy

variable {places places' : List (Request × Place)} {tickets : Nat} {log es : List LogEntry}
  {r : Request}

theorem perm (h : Tidy places tickets log) (hperm : places.Perm places') :
    Tidy places' tickets log where
  nodup := (hperm.map _).nodup_iff.mp h.nodup
  under x hx := h.under x (hperm.mem_iff.mpr hx)
  settled ticket hticket := h.settled ticket fun hmem => hticket ((hperm.map _).mem_iff.mp hmem)
  fresh := h.fresh

/-- Entries about no operation's way, and tickets that go unused. -/
theorem quiet (h : Tidy places tickets log) (hes : ∀ x ∈ es, x.ticket? = none) {tickets' : Nat}
    (hle : tickets ≤ tickets') : Tidy places tickets' (log ++ es) := by
  have hstory : ∀ ticket, story (log ++ es) ticket = story log ticket := by
    intro ticket
    have hnone : story es ticket = [] := Mqtt.story_eq_nil fun x hx => by
      rw [hes x hx]
      exact nofun
    rw [story_append, hnone, List.append_nil]
  exact {
    nodup := h.nodup
    under := fun x hx => by rw [hstory]; exact h.under x hx
    settled := fun ticket hticket => by rw [hstory]; exact h.settled ticket hticket
    fresh := fun ticket hticket => by rw [hstory]; exact h.fresh ticket (Nat.le_trans hle hticket) }

/-- The story of an operation on its way has begun, so its ticket is used up. -/
theorem lt_of_mem (h : Tidy places tickets log) {x : Request × Place} (hx : x ∈ places) :
    x.1.ticket < tickets := by
  apply Nat.lt_of_not_le
  intro hle
  have haccepted := (h.under x hx).accepted_mem
  rw [h.fresh _ hle] at haccepted
  cases haccepted

/-- Entries about an operation on its way begin no story. -/
theorem story_eq_nil (h : Tidy places tickets log) {x : Request × Place} (hx : x ∈ places)
    (hes : ∀ y ∈ es, y.ticket? = none ∨ y.ticket? = some x.1.ticket) (ticket : Nat)
    (hticket : story log ticket = []) : story es ticket = [] := by
  refine Mqtt.story_eq_nil fun y hy hyt => ?_
  have haccepted := (h.under x hx).accepted_mem
  rcases hes y hy with hnone | hown
  · cases hnone.symm.trans hyt
  · rw [Option.some.inj (hown.symm.trans hyt), hticket] at haccepted
    cases haccepted

theorem accept (h : Tidy places tickets log) (hr : r.ticket = tickets)
    (hes : ∀ x ∈ es, x.ticket? = none ∨ x = .accepted r)
    (hstory : story es r.ticket = [.accepted r]) :
    Tidy ((r, .called) :: places) (tickets + 1) (log ++ es) := by
  have hown : ∀ x ∈ es, x.ticket? = none ∨ x.ticket? = some r.ticket := by
    intro x hx
    rcases hes x hx with hnone | hx
    · exact .inl hnone
    · rw [hx]
      exact .inr rfl
  have hother : ∀ ticket, ticket ≠ r.ticket → story (log ++ es) ticket = story log ticket :=
    fun ticket hne => story_append_of_other hown hne
  have hfresh : r.ticket ∉ ticketsOf places := by
    intro hmem
    obtain ⟨x, hx, hxr⟩ := List.mem_map.mp hmem
    have hlt := h.lt_of_mem hx
    omega
  refine ⟨List.nodup_cons.mpr ⟨hfresh, h.nodup⟩, ?_, ?_, ?_⟩
  · intro x hx
    rcases List.mem_cons.mp hx with hx | hx
    · rw [hx, story_append, h.fresh _ (Nat.le_of_eq hr.symm), hstory]
      exact .accepted
    · rw [hother]
      · exact h.under x hx
      · intro heq
        exact hfresh (mem_ticketsOf.mpr ⟨x, hx, heq⟩)
  · intro ticket hticket
    rw [hother ticket (List.ne_of_not_mem_cons hticket)]
    exact h.settled ticket (List.not_mem_of_not_mem_cons hticket)
  · intro ticket hle
    rw [hother ticket (by omega)]
    exact h.fresh ticket (by omega)

/-- An operation gets on, or is settled. -/
theorem go {place : Place} (place' : Option Place) (h : Tidy ((r, place) :: places) tickets log)
    (hes : ∀ x ∈ es, x.ticket? = none ∨ x.ticket? = some r.ticket)
    (hgo : ∀ xs, Progress r (some place) xs → Progress r place' (xs ++ story es r.ticket)) :
    Tidy ((place'.map fun p => (r, p)).toList ++ places) tickets (log ++ es) := by
  have hother : ∀ ticket, ticket ≠ r.ticket → story (log ++ es) ticket = story log ticket :=
    fun ticket hne => story_append_of_other hes hne
  obtain ⟨hfresh, hnodup⟩ := List.nodup_cons.mp h.nodup
  have hprogress : Progress r place' (story (log ++ es) r.ticket) := by
    rw [story_append]
    exact hgo _ (h.under (r, place) List.mem_cons_self)
  have hothers : ∀ x ∈ places, Progress x.1 (some x.2) (story (log ++ es) x.1.ticket) := by
    intro x hx
    rw [hother]
    · exact h.under x (List.mem_cons_of_mem _ hx)
    · intro heq
      exact hfresh (mem_ticketsOf.mpr ⟨x, hx, heq⟩)
  have hlate : ∀ ticket, tickets ≤ ticket → story (log ++ es) ticket = [] := by
    intro ticket hle
    have hlt := h.lt_of_mem (x := (r, place)) List.mem_cons_self
    rw [hother ticket (by dsimp only at hlt; omega)]
    exact h.fresh ticket hle
  have hsettled : ∀ ticket, ticket ≠ r.ticket → ticket ∉ ticketsOf places →
      story (log ++ es) ticket = []
        ∨ ∃ r, r.ticket = ticket ∧ Progress r none (story (log ++ es) ticket) := by
    intro ticket hne hticket
    rw [hother ticket hne]
    exact h.settled ticket (List.not_mem_cons_of_ne_of_not_mem hne hticket)
  cases place' with
  | none =>
    refine ⟨hnodup, hothers, ?_, hlate⟩
    intro ticket hticket
    by_cases hne : ticket = r.ticket
    · rw [hne]
      exact .inr ⟨r, rfl, hprogress⟩
    · exact hsettled ticket hne hticket
  | some place' =>
    refine ⟨h.nodup, ?_, ?_, hlate⟩
    · intro x hx
      rcases List.mem_cons.mp hx with hx | hx
      · rw [hx]
        exact hprogress
      · exact hothers x hx
    · intro ticket hticket
      exact hsettled ticket (List.ne_of_not_mem_cons hticket)
        (List.not_mem_of_not_mem_cons hticket)

/-- The queue is lost, and those who wait for an answer get one. -/
theorem lose {queue : List Request} {e : Error} {waiting : List Nat}
    (h : Tidy (places ++ queue.map fun r => (r, .queued)) tickets log) (hwaiting : waiting.Nodup)
    (hqueue : ∀ ticket ∈ waiting, ∃ r ∈ queue, r.ticket = ticket) :
    Tidy places tickets (log ++ waiting.map fun ticket => .answered ticket (.error e)) := by
  -- Only tickets of the queue are told of, each at most once.
  have hlost : ∀ ticket, story (waiting.map fun ticket => .answered ticket (.error e)) ticket =
      if ticket ∈ waiting then [.answered ticket (.error e)] else [] := by
    intro ticket
    have hfilter : story (waiting.map fun ticket => .answered ticket (.error e)) ticket =
        (waiting.filter fun t => t = ticket).map fun ticket => .answered ticket (.error e) := by
      simp [story, List.filter_map, Function.comp_def, LogEntry.ticket?]
    rw [hfilter, List.filter_eq, hwaiting.count]
    split <;> rfl
  have hother : ∀ ticket, (∀ r ∈ queue, r.ticket ≠ ticket) →
      story (log ++ waiting.map fun ticket => .answered ticket (.error e)) ticket =
        story log ticket := by
    intro ticket hne
    rw [story_append, hlost, if_neg, List.append_nil]
    intro hmem
    obtain ⟨r, hr, hticket⟩ := hqueue ticket hmem
    exact hne r hr hticket
  have hnodup := h.nodup
  rw [ticketsOf_append, List.nodup_append] at hnodup
  obtain ⟨hnodup, _, hdisjoint⟩ := hnodup
  have hqueued : ∀ r ∈ queue, (r, .queued) ∈ queue.map fun r => (r, Place.queued) :=
    fun r hr => List.mem_map_of_mem hr
  refine ⟨hnodup, ?_, ?_, ?_⟩
  · intro x hx
    rw [hother]
    · exact h.under x (List.mem_append_left _ hx)
    · intro r hr heq
      exact hdisjoint x.1.ticket (mem_ticketsOf.mpr ⟨x, hx, rfl⟩) r.ticket
        (mem_ticketsOf.mpr ⟨_, hqueued r hr, rfl⟩) heq.symm
  · intro ticket hticket
    by_cases hmem : ∃ r ∈ queue, r.ticket = ticket
    · obtain ⟨r, hr, hrt⟩ := hmem
      have hprogress := h.under (r, .queued) (List.mem_append_right _ (hqueued r hr))
      refine .inr ⟨r, hrt, ?_⟩
      rw [story_append, hlost, ← hrt]
      split
      · exact .loses e hprogress
      · rw [List.append_nil]
        exact .drops hprogress
    · rw [hother ticket fun r hr hrt => hmem ⟨r, hr, hrt⟩]
      apply h.settled
      rw [ticketsOf_append, List.mem_append, not_or]
      refine ⟨hticket, fun hmem' => ?_⟩
      obtain ⟨x, hx, hxt⟩ := mem_ticketsOf.mp hmem'
      obtain ⟨r, hr, hrx⟩ := List.mem_map.mp hx
      rw [← hrx] at hxt
      exact hmem ⟨r, hr, hxt⟩
  · intro ticket hle
    rw [hother]
    · exact h.fresh ticket hle
    · intro r hr hrt
      have hlt := h.lt_of_mem (List.mem_append_right _ (hqueued r hr))
      dsimp only at hlt
      omega

end Tidy

/-! ### Whoever waits is attended to -/

/-- The call that waits for the answer to a request. -/
def Request.call (r : Request) : Call := ⟨r.ticket, .operation r.kind r.packetId none⟩

namespace Call

/-- A call after an answer. -/
def answered (x : Call) (result : Except Error Unit) : Call :=
  match x.goal with
  | .operation kind packetId none => ⟨x.ticket, .operation kind packetId (some result)⟩
  | _ => x

theorem ticket_answered (x : Call) (result : Except Error Unit) :
    (x.answered result).ticket = x.ticket := by
  unfold answered
  split <;> rfl

theorem calls_answer {κ : Type} (c : Client κ) (ticket : Nat) (result : Except Error Unit) :
    (c.answer ticket result).calls =
      c.calls.map fun x => if decide (x.ticket = ticket) then x.answered result else x := by
  refine List.map_congr_left fun x _ => ?_
  obtain ⟨own, goal⟩ := x
  cases goal with
  | stop => exact (ite_self _).symm
  | operation kind packetId answer =>
    cases answer with
    | some result' => exact (ite_self _).symm
    | none =>
      by_cases heq : own = ticket
      · simp [answered, heq]
      · simp [heq]

theorem calls_closeQueue {κ : Type} (c : Client κ) : c.closeQueue.calls =
    c.calls.map fun x => if true then x.answered (.error .operationChannelReceiveError) else x := by
  refine List.map_congr_left fun x _ => ?_
  obtain ⟨own, goal⟩ := x
  cases goal with
  | stop => rfl
  | operation kind packetId answer => cases answer <;> rfl

/-- Calls that agree with the log and with where their operations are. -/
inductive Fits (places : List (Request × Place)) (log : List LogEntry) : Call → Prop where
  | stop {ticket : Nat} (h : story log ticket = []) : Fits places log ⟨ticket, .stop⟩
  | waits {r : Request} {place : Place} (h : (r, place) ∈ places) (hplace : place.IsPosted) :
    Fits places log r.call
  | answered {r : Request} {result : Except Error Unit} (haccepted : .accepted r ∈ log)
    (h : .answered r.ticket result ∈ log) : Fits places log (r.call.answered result)

theorem Fits.mono {places places' : List (Request × Place)} {log es : List LogEntry} {x : Call}
    (h : x.Fits places log)
    (hplaces : ∀ r place, (r, place) ∈ places → place.IsPosted → x = r.call →
      ∃ place', (r, place') ∈ places' ∧ place'.IsPosted)
    (hstory : story log x.ticket = [] → story es x.ticket = []) : x.Fits places' (log ++ es) := by
  cases h with
  | stop h =>
    refine .stop ?_
    rw [story_append, h, hstory h]
    rfl
  | waits h hplace =>
    obtain ⟨place', h', hplace'⟩ := hplaces _ _ h hplace rfl
    exact .waits h' hplace'
  | answered haccepted h =>
    exact .answered (List.mem_append_left es haccepted) (List.mem_append_left es h)

end Call

/-- No call waits yet for an operation that is with its caller. -/
theorem Tidy.ticket_ne_of_called {places : List (Request × Place)} {tickets : Nat}
    {log : List LogEntry} {r : Request} {x : Call} (h : Tidy ((r, .called) :: places) tickets log)
    (hx : x.Fits ((r, .called) :: places) log) : x.ticket ≠ r.ticket := by
  have hstory := (h.under (r, .called) List.mem_cons_self).eq_of_called
  dsimp only at hstory
  intro heq
  cases hx with
  | stop hnone =>
    dsimp only at heq
    rw [heq, hstory] at hnone
    cases hnone
  | waits hmem hplace =>
    rename_i r' place
    rcases List.mem_cons.mp hmem with hmem | hmem
    · cases hmem
      cases hplace
    · have hfresh := (List.nodup_cons.mp h.nodup).1
      exact hfresh (mem_ticketsOf.mpr ⟨_, hmem, heq⟩)
  | answered haccepted hanswered =>
    rename_i r' result
    have hmem : .answered r'.ticket result ∈ story log r'.ticket := mem_story.mpr ⟨hanswered, rfl⟩
    rw [show r'.ticket = r.ticket from heq, hstory] at hmem
    simp at hmem

/-- Whether the calls that wait, and the operations on their way, belong together. -/
structure Attended (places : List (Request × Place)) (calls : List Call) (tickets : Nat)
    (log : List LogEntry) : Prop where
  nodup : (calls.map Call.ticket).Nodup
  below : ∀ x ∈ calls, x.ticket < tickets
  fits : ∀ x ∈ calls, x.Fits places log
  posted : ∀ x ∈ places, x.2.IsPosted → .cancelled x.1.ticket ∈ log ∨ x.1.call ∈ calls
  settled : ∀ r, .accepted r ∈ log → r.ticket ∈ ticketsOf places
    ∨ (∃ result, .answered r.ticket result ∈ log) ∨ .cancelled r.ticket ∈ log

namespace Attended

variable {places places' : List (Request × Place)} {calls calls' : List Call} {tickets : Nat}
  {log es : List LogEntry} {r : Request} {place : Place}

theorem perm (h : Attended places calls tickets log) (hperm : places.Perm places') :
    Attended places' calls tickets log where
  nodup := h.nodup
  below := h.below
  fits x hx := by
    have hfits : x.Fits places' (log ++ []) := (h.fits x hx).mono
      (fun r place hmem hplace _ => ⟨place, hperm.mem_iff.mp hmem, hplace⟩) fun _ => rfl
    rw [List.append_nil] at hfits
    exact hfits
  posted x hx := h.posted x (hperm.mem_iff.mpr hx)
  settled r hr := by
    rcases h.settled r hr with hmem | hrest
    · exact .inl ((hperm.map _).mem_iff.mp hmem)
    · exact .inr hrest

/-- What an operation that was issued came to so far stays what it came to. -/
theorem settled_append (h : Attended places calls tickets log)
    (hes : ∀ r, .accepted r ∈ es → r.ticket ∈ ticketsOf places')
    (hplaces : ∀ ticket ∈ ticketsOf places, ticket ∈ ticketsOf places'
      ∨ (∃ result, .answered ticket result ∈ log ++ es) ∨ .cancelled ticket ∈ log ++ es) :
    ∀ r, .accepted r ∈ log ++ es → r.ticket ∈ ticketsOf places'
      ∨ (∃ result, .answered r.ticket result ∈ log ++ es) ∨ .cancelled r.ticket ∈ log ++ es := by
  intro r hr
  rcases List.mem_append.mp hr with hr | hr
  · rcases h.settled r hr with hmem | ⟨result, hresult⟩ | hcancelled
    · exact hplaces r.ticket hmem
    · exact .inr (.inl ⟨result, List.mem_append_left es hresult⟩)
    · exact .inr (.inr (List.mem_append_left es hcancelled))
  · exact .inl (hes r hr)

/-- Calls that wait for operations go on waiting beside new ones. -/
theorem posted_append (h : Attended places calls tickets log) {x : Request × Place}
    (hx : x ∈ places) (hposted : x.2.IsPosted) (hcalls : calls ⊆ calls') :
    .cancelled x.1.ticket ∈ log ++ es ∨ x.1.call ∈ calls' := by
  rcases h.posted x hx hposted with hcancelled | hcall
  · exact .inl (List.mem_append_left es hcancelled)
  · exact .inr (hcalls hcall)

/-- Some calls have returned or were cancelled. -/
theorem quiet (h : Attended places calls tickets log) (hes : ∀ x ∈ es, x.ticket? = none)
    {tickets' : Nat} (hle : tickets ≤ tickets') (hsub : calls'.Sublist calls)
    (hkept : ∀ r : Request, r.call ∈ calls → r.call ∈ calls' ∨ .cancelled r.ticket ∈ es) :
    Attended places calls' tickets' (log ++ es) where
  nodup := h.nodup.sublist (hsub.map _)
  below x hx := Nat.lt_of_lt_of_le (h.below x (hsub.subset hx)) hle
  fits x hx := (h.fits x (hsub.subset hx)).mono (fun r place hmem hplace _ => ⟨place, hmem, hplace⟩)
    fun _ => story_eq_nil fun y hy => by rw [hes y hy]; exact nofun
  posted x hx hplace := by
    rcases h.posted x hx hplace with hcancelled | hcall
    · exact .inl (List.mem_append_left es hcancelled)
    · rcases hkept x.1 hcall with hcall | hcancelled
      · exact .inr hcall
      · exact .inl (List.mem_append_right log hcancelled)
  settled := by
    refine h.settled_append (fun r hr => ?_) fun ticket hticket => .inl hticket
    cases hes _ hr

/-- A call begins that waits for the end of the session. -/
theorem stop (h : Attended places calls tickets log) (hfresh : story log tickets = []) :
    Attended places (calls ++ [⟨tickets, .stop⟩]) (tickets + 1) log where
  nodup := by
    rw [List.map_append, List.nodup_append]
    refine ⟨h.nodup, by simp, ?_⟩
    intro a ha b hb hab
    obtain ⟨x, hx, hxa⟩ := List.mem_map.mp ha
    rw [List.map_singleton, List.mem_singleton] at hb
    have hlt := h.below x hx
    rw [hxa, hab, hb] at hlt
    exact Nat.lt_irrefl _ hlt
  below x hx := by
    rcases List.mem_append.mp hx with hx | hx
    · exact Nat.lt_succ_of_lt (h.below x hx)
    · rw [List.mem_singleton.mp hx]
      exact Nat.lt_succ_self _
  fits x hx := by
    rcases List.mem_append.mp hx with hx | hx
    · exact h.fits x hx
    · rw [List.mem_singleton.mp hx]
      exact .stop hfresh
  posted x hx hplace := by
    rcases h.posted x hx hplace with hcancelled | hcall
    · exact .inl hcancelled
    · exact .inr (List.mem_append_left _ hcall)
  settled := h.settled

/-- An operation is issued. -/
theorem accept (h : Attended places calls tickets log) (hr : r.ticket = tickets)
    (hes : ∀ x ∈ es, x.ticket? = none ∨ x = .accepted r) :
    Attended ((r, .called) :: places) calls (tickets + 1) (log ++ es) where
  nodup := h.nodup
  below x hx := Nat.lt_succ_of_lt (h.below x hx)
  fits x hx := by
    refine (h.fits x hx).mono
      (fun r' place hmem hplace _ => ⟨place, List.mem_cons_of_mem _ hmem, hplace⟩) fun _ => ?_
    refine story_eq_nil fun y hy hticket => ?_
    have hlt := h.below x hx
    rcases hes y hy with hnone | hy
    · cases hnone.symm.trans hticket
    · rw [hy] at hticket
      have heq : r.ticket = x.ticket := Option.some.inj hticket
      omega
  posted x hx hplace := by
    rcases List.mem_cons.mp hx with hx | hx
    · rw [hx] at hplace
      cases hplace
    · exact h.posted_append hx hplace (List.Subset.refl _)
  settled := by
    refine h.settled_append (fun r' hr' => ?_) fun ticket hticket =>
      .inl (List.mem_cons_of_mem _ hticket)
    rcases hes _ hr' with hnone | hsame
    · cases hnone
    · cases hsame
      exact List.mem_cons_self

/-- An operation that stays with its caller, or with the session, gets on. -/
theorem go (place' : Place) (h : Attended ((r, place) :: places) calls tickets log)
    (hplace : place.IsPosted ↔ place'.IsPosted) (hes : ∀ r', .accepted r' ∉ es)
    (hstory : ∀ ticket, story log ticket = [] → story es ticket = []) :
    Attended ((r, place') :: places) calls tickets (log ++ es) where
  nodup := h.nodup
  below := h.below
  fits x hx := by
    refine (h.fits x hx).mono (fun r' place'' hmem hposted _ => ?_) (hstory x.ticket)
    rcases List.mem_cons.mp hmem with hmem | hmem
    · cases hmem
      exact ⟨place', List.mem_cons_self, hplace.mp hposted⟩
    · exact ⟨place'', List.mem_cons_of_mem _ hmem, hposted⟩
  posted x hx hposted := by
    rcases List.mem_cons.mp hx with hx | hx
    · rw [hx] at hposted ⊢
      exact h.posted_append (x := (r, place)) List.mem_cons_self (hplace.mpr hposted)
        (List.Subset.refl _)
    · exact h.posted_append (List.mem_cons_of_mem _ hx) hposted (List.Subset.refl _)
  settled := h.settled_append (fun r' hr' => absurd hr' (hes r')) fun ticket hticket => .inl hticket

/-- A call that failed before it could wait has returned. -/
theorem leave (h : Attended ((r, place) :: places) calls tickets log) (hplace : ¬ place.IsPosted)
    (hes : ∀ x ∈ es, x.ticket? = none) (hanswered : ∃ result, .answered r.ticket result ∈ log) :
    Attended places calls tickets (log ++ es) where
  nodup := h.nodup
  below := h.below
  fits x hx := by
    refine (h.fits x hx).mono (fun r' place' hmem hposted _ => ?_)
      fun _ => story_eq_nil fun y hy => by rw [hes y hy]; exact nofun
    rcases List.mem_cons.mp hmem with hmem | hmem
    · cases hmem
      exact absurd hposted hplace
    · exact ⟨place', hmem, hposted⟩
  posted x hx hposted :=
    h.posted_append (List.mem_cons_of_mem _ hx) hposted (List.Subset.refl _)
  settled := by
    refine h.settled_append (fun r' hr' => ?_) fun ticket hticket => ?_
    · cases hes _ hr'
    · rcases List.mem_cons.mp hticket with hticket | hticket
      · rw [hticket]
        obtain ⟨result, hresult⟩ := hanswered
        exact .inr (.inl ⟨result, List.mem_append_left es hresult⟩)
      · exact .inl hticket

/-- An operation enters the queue, and its call waits. -/
theorem enter (h : Attended ((r, place) :: places) calls tickets log) (hplace : ¬ place.IsPosted)
    (hfresh : ∀ x ∈ calls, x.ticket ≠ r.ticket) (hbelow : r.ticket < tickets)
    (hes : ∀ r', .accepted r' ∉ es)
    (hstory : ∀ ticket, story log ticket = [] → story es ticket = []) :
    Attended ((r, .queued) :: places) (calls ++ [r.call]) tickets (log ++ es) where
  nodup := by
    rw [List.map_append, List.nodup_append]
    refine ⟨h.nodup, by simp, ?_⟩
    intro a ha b hb hab
    obtain ⟨x, hx, hxa⟩ := List.mem_map.mp ha
    rw [List.map_singleton, List.mem_singleton] at hb
    exact hfresh x hx (hxa.trans (hab.trans hb))
  below x hx := by
    rcases List.mem_append.mp hx with hx | hx
    · exact h.below x hx
    · rw [List.mem_singleton.mp hx]
      exact hbelow
  fits x hx := by
    rcases List.mem_append.mp hx with hx | hx
    · refine (h.fits x hx).mono (fun r' place' hmem hposted _ => ?_) (hstory x.ticket)
      rcases List.mem_cons.mp hmem with hmem | hmem
      · cases hmem
        exact absurd hposted hplace
      · exact ⟨place', List.mem_cons_of_mem _ hmem, hposted⟩
    · rw [List.mem_singleton.mp hx]
      have hmem : (r, .queued) ∈ (r, .queued) :: places := List.mem_cons_self
      exact .waits hmem trivial
  posted x hx hposted := by
    rcases List.mem_cons.mp hx with hx | hx
    · rw [hx]
      exact .inr (List.mem_append_right _ (List.mem_singleton_self _))
    · exact h.posted_append (List.mem_cons_of_mem _ hx) hposted (List.subset_append_left _ _)
  settled := h.settled_append (fun r' hr' => absurd hr' (hes r')) fun ticket hticket => .inl hticket

/-- Some operations are settled, and the calls that wait for them are answered. -/
theorem answer (gone : List (Request × Place)) (h : Attended (gone ++ places) calls tickets log)
    (p : Nat → Bool) (result : Except Error Unit)
    (hgone : ∀ x ∈ gone, x.2.IsPosted ∧ p x.1.ticket = true ∧ .accepted x.1 ∈ log)
    (hstays : ∀ x ∈ places, x.2.IsPosted → p x.1.ticket = false)
    (hanswers : ∀ x ∈ gone, x.1.call ∈ calls → .answered x.1.ticket result ∈ es)
    (hes : ∀ r', .accepted r' ∉ es)
    (hstory : ∀ ticket, story log ticket = [] → story es ticket = []) :
    Attended places (calls.map fun x => if p x.ticket then x.answered result else x) tickets
      (log ++ es) where
  nodup := by
    have hsame : (calls.map fun x => if p x.ticket then x.answered result else x).map Call.ticket =
        calls.map Call.ticket := by
      rw [List.map_map]
      apply List.map_congr_left
      intro x _
      dsimp only [Function.comp]
      split
      · exact x.ticket_answered result
      · rfl
    rw [hsame]
    exact h.nodup
  below x hx := by
    obtain ⟨y, hy, hyx⟩ := List.mem_map.mp hx
    rw [← hyx]
    split
    · rw [Call.ticket_answered]
      exact h.below y hy
    · exact h.below y hy
  fits x hx := by
    obtain ⟨y, hy, hyx⟩ := List.mem_map.mp hx
    rw [← hyx]
    have hfits := h.fits y hy
    cases hfits with
    | stop hnone =>
      rename_i ticket
      have hsame : (if p ticket then Call.answered ⟨ticket, .stop⟩ result else ⟨ticket, .stop⟩) =
          (⟨ticket, .stop⟩ : Call) := by split <;> rfl
      rw [hsame]
      refine .stop ?_
      rw [story_append, hnone, hstory _ hnone]
      rfl
    | waits hmem hplace =>
      -- A call that waits is answered if its operation is settled now, and else goes on waiting.
      rename_i r' place'
      rcases List.mem_append.mp hmem with hmem | hmem
      · obtain ⟨_, hp, haccepted⟩ := hgone _ hmem
        have hp' : p r'.call.ticket = true := hp
        rw [if_pos hp']
        exact .answered (List.mem_append_left es haccepted)
          (List.mem_append_right log (hanswers _ hmem hy))
      · have hp : p r'.call.ticket ≠ true := Bool.eq_false_iff.mp (hstays _ hmem hplace)
        rw [if_neg hp]
        exact .waits hmem hplace
    | answered haccepted hanswered =>
      rename_i r' result'
      have hsame : (if p (r'.call.answered result').ticket then
          (r'.call.answered result').answered result else r'.call.answered result') =
          r'.call.answered result' := by split <;> rfl
      rw [hsame]
      exact .answered (List.mem_append_left es haccepted) (List.mem_append_left es hanswered)
  posted x hx hposted := by
    rcases h.posted x (List.mem_append_right _ hx) hposted with hcancelled | hcall
    · exact .inl (List.mem_append_left es hcancelled)
    · refine .inr (List.mem_map.mpr ⟨x.1.call, hcall, ?_⟩)
      have hkeep : p x.1.call.ticket = false := hstays x hx hposted
      rw [hkeep]
      rfl
  settled := by
    refine h.settled_append (fun r' hr' => absurd hr' (hes r')) fun ticket hticket => ?_
    rw [ticketsOf_append, List.mem_append] at hticket
    rcases hticket with hticket | hticket
    · obtain ⟨x, hx, hxt⟩ := mem_ticketsOf.mp hticket
      rw [← hxt]
      rcases h.posted x (List.mem_append_left _ hx) (hgone x hx).1 with hcancelled | hcall
      · exact .inr (.inr (List.mem_append_left es hcancelled))
      · exact .inr (.inl ⟨result, List.mem_append_right log (hanswers x hx hcall)⟩)
    · exact .inl hticket

end Attended

end Mqtt
