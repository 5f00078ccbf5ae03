import FleetBridge.Event
import FleetBridge.Payload
import FleetBridge.Text.Blank

/-!
A unit announces itself with a JSON object that names it. Attached to an event the unit takes over
the object's other fields; the five names that the bridge writes itself never come from the unit.
-/
namespace FleetBridge

/-- A field unit attached to an event. -/
structure FieldUnit where
  unitId : String
  eventId : Int
  eventName : String
  location : String
  testingType : String
  fields : List (String × Json)

namespace FieldUnit

/-- The names that the bridge writes. -/
def ownKeys : List String := ["unit_id", "event_id", "event_name", "location", "testing_type"]

def toJson (u : FieldUnit) : Json :=
  .object ([("unit_id", .string u.unitId), ("event_id", .number (.int u.eventId)),
    ("event_name", .string u.eventName), ("location", .string u.location),
    ("testing_type", .string u.testingType)] ++ u.fields)

def text (u : FieldUnit) : String := u.toJson.text

/-- Reads a unit from the text of an object that has each of the bridge's own names once. -/
def ofText? (s : String) : Option FieldUnit := do
  let ms ← Json.readMembers? s
  some {
    unitId := ← (← Event.sole? "unit_id" ms).string?
    eventId := ← (← Event.sole? "event_id" ms).int64?
    eventName := ← (← Event.sole? "event_name" ms).string?
    location := ← (← Event.sole? "location" ms).string?
    testingType := ← (← Event.sole? "testing_type" ms).string?
    fields := Table.ofList (ms.filter fun m => m.1 ∉ ownKeys) }

end FieldUnit

structure Announcement where
  unitId : String
  fields : Json.Members

namespace Announcement

/-- Why a payload is no announcement. -/
inductive Refusal where
  | notJson
  | notAnObject
  | missingUnitId
  deriving DecidableEq, Repr

def Refusal.message : Refusal → String
  | notJson => "registration payload is not valid json"
  | notAnObject => "registration payload is not a json object"
  | missingUnitId => "registration payload is missing unit_id"

/-- The id that an object announces: a text that is not blank. -/
def unitId? (ms : Json.Members) : Option String := do
  let s ← (← Table.get? "unit_id" ms).string?
  if Text.isBlank s then none else some s

def ofJson : Json → Except Refusal Announcement
  | .object ms => match unitId? ms with
    | some id => .ok ⟨id, ms.filter fun m => m.1 ∉ FieldUnit.ownKeys⟩
    | none => .error .missingUnitId
  | _ => .error .notAnObject

def ofPayload (p : Payload) : Except Refusal Announcement :=
  match p.text?.bind Json.read? with
  | some j => ofJson j
  | none => .error .notJson

def attach (a : Announcement) (e : Event) : FieldUnit :=
  ⟨a.unitId, e.id, e.name, e.location, e.testingType, a.fields⟩

end Announcement
end FleetBridge
