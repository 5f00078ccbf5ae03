import FleetBridge.Event
import FleetBridge.Fault

/-!
The two services of the event database: a directory that tells which event a unit belongs to, and a
log of the statuses written for events. Both note a call even when it fails.
-/
namespace FleetBridge

structure Directory where
  events : Table String Event
  failing : Bool
  /-- The units asked for, oldest first. -/
  calls : List String

namespace Directory

def ofEvents (events : Table String Event) : Directory := ⟨events, false, []⟩

def noted (unitId : String) (d : Directory) : Directory :=
  { d with calls := d.calls ++ [unitId] }

/-- The event that a unit belongs to now, if there is one. -/
def find (unitId : String) (d : Directory) : Except LookupFault (Option Event) :=
  if d.failing then .error ⟨"find_active_event", "lookup unavailable"⟩
  else .ok (d.events.get? unitId)

end Directory

structure StatusLog where
  /-- The statuses written, oldest first. -/
  updates : List (Int × Event.Status)
  failing : Bool

namespace StatusLog

def empty : StatusLog := ⟨[], false⟩

def write (event : Int) (s : Event.Status) (l : StatusLog) : StatusLog :=
  { l with updates := l.updates ++ [(event, s)] }

/-- Whether a write that is made now succeeds. -/
def outcome (l : StatusLog) : Except LookupFault Unit :=
  if l.failing then .error ⟨"set_event_status", "status unavailable"⟩ else .ok ()

/-- The status written last for an event. -/
def last? (event : Int) (l : StatusLog) : Option Event.Status :=
  (l.updates.reverse.find? fun u => u.1 = event).map Prod.snd

end StatusLog
end FleetBridge
