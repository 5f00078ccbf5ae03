import FleetBridge.Bus.Broker

/-!
Connections to the bus, and the dialler that makes new ones. A connection may go down and come back
while its subscriptions stay; one that was dead from the start never works.
-/
namespace FleetBridge

/-- The place of a connection among all that were made. -/
abbrev ConnectionId := Nat

/-- A connection as those who use it refer to it. -/
inductive Link where
  | working (i : ConnectionId)
  | dead
  deriving DecidableEq, Repr

structure Connection where
  connected : Bool
  /-- Subjects on which it cannot subscribe. -/
  refused : List String
  /-- The streams subscribed on it, newest first, with their subjects; those picked to be closed are
  left out. -/
  opened : List (String × StreamId)

namespace Connection

def fresh : Connection := ⟨true, [], []⟩

def refuse (subject : String) (c : Connection) : Connection :=
  if subject ∈ c.refused then c else { c with refused := subject :: c.refused }

def accept (subject : String) (c : Connection) : Connection :=
  { c with refused := c.refused.filter (· ≠ subject) }

/-- The stream that was subscribed last for a subject and was not picked before. -/
def last? (subject : String) (c : Connection) : Option StreamId :=
  (c.opened.find? fun o => o.1 = subject).map Prod.snd

def forget (s : StreamId) (c : Connection) : Connection :=
  { c with opened := c.opened.filter fun o => o.2 ≠ s }

end Connection

/-- Makes connections; some of the first attempts may fail, and some more may yield dead ones. -/
structure Dialler where
  failures : Nat
  deadLinks : Nat
  attempts : Nat
  /-- The connections made, in order. -/
  made : List Link

namespace Dialler

/-- What comes of an attempt. -/
inductive Outcome where
  | failed
  | dead
  | reached
  deriving DecidableEq, Repr

def address : String := "memory://local"

def start (failures deadLinks : Nat) : Dialler := ⟨failures, deadLinks, 0, []⟩

def attempt (d : Dialler) : Outcome × Dialler :=
  let d := { d with attempts := d.attempts + 1 }
  match d.failures, d.deadLinks with
  | n + 1, _ => (.failed, { d with failures := n })
  | 0, n + 1 => (.dead, { d with deadLinks := n })
  | 0, 0 => (.reached, d)

end Dialler
end FleetBridge
