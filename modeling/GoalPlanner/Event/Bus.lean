import GoalPlanner.Event
import GoalPlanner.Table

/-!
# Delivering events

A bus delivers every event that is published to those who are subscribed at that moment, in the order of their
subscriptions (`Bus.publish`). While it is called, a subscriber may change the subscriptions, report something itself or
fail (`Behaviour`); what it changes counts for later events only, and its failure is logged and stops nobody else. A
subscriber reports only in finitely many of its turns, so that no publication goes on for ever.
-/

namespace GoalPlanner

variable {α : Type}

/-- What a subscriber may do at any time. -/
inductive Act (α : Type)
  | subscribe (who : α)
  | unsubscribe (who : α)
  | clear
  /-- Raises an exception. A request to end the program is none: it would end the publication as well, and no subscriber
  makes one here. -/
  | fail

/-- What a subscriber may do in a turn that comes once. -/
inductive Deed (α : Type)
  | act (a : Act α)
  | report (d : Draft)

/-- How a subscriber behaves: which events it fails on at once, what it does in its first turns, and what it does in
every turn after them. -/
structure Behaviour (α : Type) where
  refuses : Event → Bool
  turns : List (List (Deed α))
  later : List (Act α)

namespace Behaviour

/-- A subscriber that does nothing. -/
def silent : Behaviour α := ⟨fun _ => false, [], []⟩

/-- What is done in the turn of some number, from zero. -/
def turn (b : Behaviour α) (n : Nat) : List (Deed α) := (b.turns[n]?).getD (b.later.map .act)

/-- How many things are reported in one turn. -/
def reportsIn (t : List (Deed α)) : Nat := t.countP fun
  | .report _ => true
  | _ => false

/-- How many things a subscriber reports at most. -/
def reports (b : Behaviour α) : Nat := reportsIn b.turns.flatten

end Behaviour

/-- A call of a subscriber: in which publication, counted from zero, and with which event. -/
structure Delivery (α : Type) where
  publication : Nat
  subscriber : α
  event : Event

/-- Subscriptions and what came of them. -/
structure Bus (α : Type) where
  behaviours : Table α (Behaviour α)
  subscriptions : List α
  /-- The calls made so far, oldest first. -/
  deliveries : List (Delivery α)
  /-- The subscriptions that each publication so far has met at its start, oldest first. -/
  audiences : List (List α)
  /-- The number of drafts reported so far; each takes its time from it. -/
  clock : Nat
  log : Array Log.Record

namespace Bus

/-- A bus without subscriptions. -/
def empty : Bus α := ⟨∅, [], [], [], 0, #[]⟩

/-- The bus with one subscription more. -/
def subscribe (b : Bus α) (a : α) : Bus α := { b with subscriptions := b.subscriptions ++ [a] }

variable [DecidableEq α]

/-- The bus without the earliest subscription of someone. -/
def unsubscribe (b : Bus α) (a : α) : Bus α := { b with subscriptions := b.subscriptions.erase a }

/-- The bus without its subscriptions. -/
def clear (b : Bus α) : Bus α := { b with subscriptions := [] }

/-- The bus on which someone behaves in a certain way. -/
def behave (b : Bus α) (a : α) (how : Behaviour α) : Bus α := { b with behaviours := b.behaviours.set a how }

/-- How someone behaves. -/
def behaviour (b : Bus α) (a : α) : Behaviour α := (b.behaviours.get? a).getD .silent

/-- How often someone has been called. -/
def calls (b : Bus α) (a : α) : Nat := b.deliveries.countP fun d => d.subscriber == a

/-- The most that can still be reported. -/
def reports (b : Bus α) : Nat := b.behaviours.entries.foldl (fun n e => n + e.2.reports) 0

variable [ToString α]

/-- The bus after a subscriber's failure. -/
def logFailure (b : Bus α) (a : α) (e : Event) : Bus α :=
  { b with log := b.log.push ⟨.error, "monitoring.bus", s!"Subscriber {a} failed on {e.kind.name} event"⟩ }

/-- The bus after some deeds of a subscriber; a failure is the last of them. -/
def perform (report : Bus α → Draft → Bus α) (a : α) (e : Event) (b : Bus α) : List (Deed α) → Bus α
  | [] => b
  | .act (.subscribe c) :: rest => perform report a e (b.subscribe c) rest
  | .act (.unsubscribe c) :: rest => perform report a e (b.unsubscribe c) rest
  | .act .clear :: rest => perform report a e b.clear rest
  | .act .fail :: _ => b.logFailure a e
  | .report d :: rest => perform report a e (report b d) rest

/-- The bus after a subscriber was called. -/
def call (report : Bus α → Draft → Bus α) (publication : Nat) (e : Event) (b : Bus α) (a : α) : Bus α :=
  let how := b.behaviour a
  let n := b.calls a
  let b := { b with deliveries := b.deliveries ++ [⟨publication, a, e⟩] }
  if how.refuses e then b.logFailure a e else perform report a e b (how.turn n)

/-- The bus after all who are subscribed were called. -/
def deliver (report : Bus α → Draft → Bus α) (b : Bus α) (e : Event) : Bus α :=
  b.subscriptions.foldl (call report b.audiences.length e) { b with audiences := b.audiences ++ [b.subscriptions] }

/-- The event of a draft reported now. -/
def stamp (b : Bus α) (d : Draft) : Event × Bus α :=
  (d.at (Float.ofNat (b.clock + 1)), { b with clock := b.clock + 1, log := b.log.push d.record })

/-- Publishes an event; what subscribers report meanwhile is published in turn, up to some depth. -/
def publishWithin : Nat → Bus α → Event → Bus α
  | 0 => deliver fun b _ => b
  | depth + 1 => deliver fun b d => publishWithin depth (b.stamp d).2 (b.stamp d).1

/-- Publishes an event. Reports can be nested no deeper than there are reports. -/
def publish (b : Bus α) (e : Event) : Bus α := publishWithin b.reports b e

/-- Publishes a draft now. -/
def report (b : Bus α) (d : Draft) : Event × Bus α := ((b.stamp d).1, (b.stamp d).2.publish (b.stamp d).1)

end Bus

end GoalPlanner
