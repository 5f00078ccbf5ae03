import FleetBridge.Json.Printer
import FleetBridge.Json.Skim

/-!
An event is a testing session that units are attached to. It is live while more of its units answer
probes than fail to.
-/
namespace FleetBridge

structure Event where
  id : Int
  name : String
  location : String
  testingType : String
  deriving DecidableEq, Repr

namespace Event

inductive Status where
  | live
  | notLive
  deriving DecidableEq, Repr

/-- The value that stands for a status in the event database. -/
def Status.wire : Status → String
  | live => "live"
  | notLive => ""

/-- The status for a count of units that answered less those that did not. -/
def Status.ofTally (n : Int) : Status := if 0 < n then live else notLive

def toJson (e : Event) : Json :=
  .object [("id", .number (.int e.id)), ("name", .string e.name),
    ("location", .string e.location), ("testing_type", .string e.testingType)]

def keys : List String := ["id", "name", "location", "testing_type"]

/-- The one value filed under a name; none if the name is missing or repeated. -/
def sole? {α : Type} (k : String) (entries : List (String × α)) : Option α :=
  match entries.filter fun e => e.1 = k with
  | [(_, v)] => some v
  | _ => none

def ofValues? (id name location testingType : Json) : Option Event := do
  some ⟨← id.int64?, ← name.string?, ← location.string?, ← testingType.string?⟩

/-- Members with other names than an event's are only passed over. -/
def ofObject? (fuel : Nat) : Json.Reader Event := fun s => do
  let (ms, r) ← Json.readObject Json.readString (fun k s =>
    if k ∈ keys then (Json.readValue fuel (Json.maxDepth - 1) s).map fun (v, r) => (some v, r)
    else (Json.skim fuel fuel s).map fun (_, r) => (none, r)) fuel s
  let ms := ms.filterMap fun (k, v) => v.map fun v => (k, v)
  let e ← ofValues? (← sole? "id" ms) (← sole? "name" ms) (← sole? "location" ms)
    (← sole? "testing_type" ms)
  some (e, r)

def ofArray? (fuel : Nat) : Json.Reader Event := fun s => do
  match ← Json.readArray (Json.readValue fuel (Json.maxDepth - 1)) fuel s with
  | ([a, b, c, d], r) => (ofValues? a b c d).map fun e => (e, r)
  | _ => none

/-- Reads an event from an object, or from an array of its four values in order. -/
def ofPayload? (p : Payload) : Option Event :=
  let fuel := p.size + 1
  Json.whole? (fun cs => match Json.skipGaps cs with
    | '{' :: r => ofObject? fuel r
    | '[' :: r => ofArray? fuel r
    | _ => none) p.symbols

end Event
end FleetBridge
