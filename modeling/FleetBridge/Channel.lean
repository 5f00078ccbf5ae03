import FleetBridge.Json.Reader
import FleetBridge.Text.Blank
import FleetBridge.Text.Case

/-!
A channel is a scope of its own for subscribing to telemetry and storing it.
-/
namespace FleetBridge

inductive Channel where
  | platform
  | streets
  | cloud
  deriving DecidableEq, Repr

namespace Channel

/-- Every channel, in the order in which they start. -/
def all : List Channel := [platform, streets, cloud]

def name : Channel → String
  | platform => "platform"
  | streets => "streets"
  | cloud => "cloud"

/-- The upper-case name, as it is written in selections and in the names of settings. -/
def token (c : Channel) : String := Text.asciiUpper c.name

def rank : Channel → Nat
  | platform => 0
  | streets => 1
  | cloud => 2

def ofName? (s : String) : Option Channel := all.find? fun c => c.name = s

/-- Reads a channel's name from JSON text: as a string, or as the one member of an object, whose
value is null. -/
def ofJsonText? (s : String) : Option Channel :=
  match Json.read? s with
  | some (.string name) => ofName? name
  | some (.object _) => match Json.readMembers? s with
    | some [(name, .null)] => ofName? name
    | _ => none
  | _ => none

/-- Which channels a process serves. -/
inductive Selection where
  | single (c : Channel)
  | every
  deriving DecidableEq, Repr

def Selection.channels : Selection → List Channel
  | .single c => [c]
  | .every => all

/-- Reads a channel's token or `ALL`, in any case and between blanks. -/
def Selection.ofText? (s : String) : Option Selection :=
  let word := Text.asciiUpper (Text.trim s)
  if word = "ALL" then some .every
  else (all.find? fun c => c.token = word).map .single

end Channel
end FleetBridge
