import FleetBridge.Event
import FleetBridge.Fault

/-!
The two questions to the event database: which event a unit belongs to now, and how to set the
status of an event.
-/
namespace FleetBridge.Database

structure Statement where
  sql : String
  parameters : List String
  deriving DecidableEq, Repr

/-- A row of an event; a missing value shows as none. -/
structure Row where
  id : Option Int
  name : Option String
  location : Option String
  testingType : Option String
  deriving DecidableEq, Repr

/-- What the database answers to a statement. -/
inductive Reply where
  | rows (rs : List Row)
  | affected (n : Nat)
  | failure (cause : String)
  | lost
  deriving DecidableEq, Repr

/-- Among the assignments of the unit that hold at the time, the one that began last counts. -/
def findEvent (unitId time : String) : Statement :=
  ⟨"SELECT e.id::BIGINT AS id, e.name AS name, COALESCE(l.facility_name, '') AS location, " ++
    "COALESCE(t.name, '') AS testing_type FROM units u " ++
    "JOIN event_units eu ON eu.unit_id = u.id JOIN events e ON e.id = eu.event_id " ++
    "LEFT JOIN locations l ON l.id = e.location_id " ++
    "LEFT JOIN testing_types t ON t.id = e.testing_type_id " ++
    "WHERE u.unit_identifier = $1 AND eu.start_time <= $2 AND eu.end_time >= $2 " ++
    "ORDER BY eu.start_time DESC LIMIT 1", [unitId, time]⟩

def setStatus (event : Int) (s : Event.Status) : Statement :=
  ⟨"UPDATE events SET status = $1 WHERE id = $2", [s.wire, toString event]⟩

def Row.event? (r : Row) : Option Event := do
  some ⟨← r.id, ← r.name, ← r.location, ← r.testingType⟩

def findFault (cause : String) : DatabaseFault := .query "find_active_event" cause

def statusFault (cause : String) : DatabaseFault := .query "set_event_status" cause

/-- The first row is the event; a row with a missing value is a fault. -/
def found : Reply → Except DatabaseFault (Option Event)
  | .rows [] => .ok none
  | .rows (r :: _) => match r.event? with
    | some e => .ok (some e)
    | none => .error (findFault "")
  | .affected _ => .ok none
  | .failure cause => .error (findFault cause)
  | .lost => .error (findFault "")

/-- Whether a status write changed a row. -/
def changed : Reply → Except DatabaseFault Bool
  | .rows _ => .ok false
  | .affected n => .ok (0 < n)
  | .failure cause => .error (statusFault cause)
  | .lost => .error (statusFault "")

/-- The look-up as the handling of announcements sees it. -/
def lookedUp (r : Reply) : Except LookupFault (Option Event) :=
  (found r).mapError DatabaseFault.toLookup

/-- A status write succeeds also if no row matched. -/
def statusSet (r : Reply) : Except LookupFault Unit :=
  ((changed r).map fun _ => ()).mapError DatabaseFault.toLookup

end FleetBridge.Database
