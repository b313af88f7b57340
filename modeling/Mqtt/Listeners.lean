import Mqtt.Event

/-!
The listeners of a client, in order of their ids. An event goes to the listeners that were
registered when it was raised. What a callback does to the registry while it is told shows from the
next event on.
-/

namespace Mqtt
set_option autoImplicit false

/-- A receiver of events: a channel into a mailbox, or a callback, which is known by a value
of `κ`. -/
inductive Listener (κ : Type) where
  | channel (mailbox : Nat)
  | callback (k : κ)
deriving DecidableEq, Repr

/-- Listeners with their ids, ids ascending. -/
abbrev Registry (κ : Type) := List (Nat × Listener κ)

inductive Edit (κ : Type) where
  | add (id : Nat) (l : Listener κ)
  | remove (id : Nat)
deriving DecidableEq, Repr

/-- What a callback does when it is told of an event: edits of the registry, in order, and whether
it then fails. -/
structure Reaction (κ : Type) where
  edits : List (Edit κ) := []
  fails : Bool := false
deriving DecidableEq, Repr

namespace Registry

variable {κ : Type}

/-- Registers a listener, in place of one with the same id. -/
def insert (id : Nat) (l : Listener κ) : Registry κ → Registry κ
  | [] => [(id, l)]
  | (k, x) :: rest =>
    if id < k then (id, l) :: (k, x) :: rest
    else if id = k then (id, l) :: rest
    else (k, x) :: insert id l rest

def erase (r : Registry κ) (id : Nat) : Registry κ := r.filter fun x => x.1 ≠ id

def edit (r : Registry κ) : Edit κ → Registry κ
  | .add id l => insert id l r
  | .remove id => r.erase id

def editAll (r : Registry κ) (edits : List (Edit κ)) : Registry κ := edits.foldl edit r

/-- What came of telling an event: the registry, who was told in which order, and whether a
callback failed. -/
structure Telling (κ : Type) where
  registry : Registry κ
  told : Registry κ
  failed : Bool
deriving DecidableEq, Repr

/-- Tells listeners one after the other, up to the first that fails. -/
def tell (react : κ → Event → Reaction κ) (e : Event) (r : Registry κ) : Registry κ → Telling κ
  | [] => ⟨r, [], false⟩
  | (id, .channel m) :: rest =>
    let t := tell react e r rest
    { t with told := (id, .channel m) :: t.told }
  | (id, .callback k) :: rest =>
    let reaction := react k e
    let r' := editAll r reaction.edits
    if reaction.fails then ⟨r', [(id, .callback k)], true⟩
    else
      let t := tell react e r' rest
      { t with told := (id, .callback k) :: t.told }

/-- Tells an event to every listener of the registry. -/
def broadcast (react : κ → Event → Reaction κ) (r : Registry κ) (e : Event) : Telling κ :=
  tell react e r r

end Registry

/-- The receiving end of a channel that was made for the listener `owner`, with what waits in it. -/
structure Mailbox where
  number : Nat
  owner : Nat
  events : List Event
deriving DecidableEq, Repr

/-- The receiving ends that are still held. An event sent to another one is lost. -/
structure Mailboxes where
  /-- The number of the next mailbox. -/
  fresh : Nat := 0
  held : List Mailbox := []
deriving DecidableEq, Repr

namespace Mailboxes

/-- Gives up the receiving end that a listener has. -/
def hangUp (m : Mailboxes) (owner : Nat) : Mailboxes :=
  { m with held := m.held.filter fun b => b.owner ≠ owner }

/-- Makes a mailbox for a listener, which gives up the one it had. -/
def create (m : Mailboxes) (owner : Nat) : Mailboxes × Nat :=
  (⟨m.fresh + 1, ⟨m.fresh, owner, []⟩ :: (m.hangUp owner).held⟩, m.fresh)

def send (m : Mailboxes) (number : Nat) (e : Event) : Mailboxes :=
  { m with held := m.held.map fun b =>
      if b.number = number then { b with events := b.events ++ [e] } else b }

/-- Sends an event to the channels among the listeners that were told of it. -/
def sendAll {κ : Type} (m : Mailboxes) (told : Registry κ) (e : Event) : Mailboxes :=
  told.foldl (fun m x =>
    match x.2 with
    | .channel number => m.send number e
    | .callback _ => m) m

/-- Takes everything out: the events of each mailbox that has some, owners ascending. -/
def collect (m : Mailboxes) : Mailboxes × List (Nat × List Event) :=
  let full := (m.held.filter fun b => !b.events.isEmpty).map fun b => (b.owner, b.events)
  ({ m with held := m.held.map fun b => { b with events := [] } },
    full.mergeSort fun a b => a.1 ≤ b.1)

end Mailboxes

end Mqtt
