import FleetBridge.Channel
import FleetBridge.Json.Printer
import FleetBridge.Meters.Text
import FleetBridge.Roster.Basic

/-!
The listing is what the bridge shows of itself over HTTP: the units on the roster, how it is, and
its meters. It can be read and not changed.
-/
namespace FleetBridge

namespace Listing

inductive Page where
  | units
  | health
  | meters
  deriving DecidableEq, Repr

def Page.path : Page → String
  | units => "/registeredUnits"
  | health => "/health"
  | meters => "/metrics"

def Page.all : List Page := [.units, .health, .meters]

def Page.contentType : Page → String
  | meters => "text/plain; version=0.0.4"
  | _ => "application/json"

/-- The path of a request's target. A target that names a server has its path after the server. -/
def pathOf (target : List Char) : List Char :=
  let s := target.takeWhile fun c => c ≠ '?' && c ≠ '#'
  match s with
  | '/' :: _ => s
  | _ => match s.dropWhile (· ≠ ':') with
    | ':' :: '/' :: '/' :: r => r.dropWhile (· ≠ '/')
    | _ => []

/-- The page that a request's target names. -/
def Page.ofTarget? (target : String) : Option Page :=
  all.find? fun p => p.path.toList = pathOf target.toList

structure Response where
  status : Nat
  contentType : Option String
  /-- The methods that a page allows, told to those who tried another. -/
  allow : Option String
  body : String
  deriving DecidableEq, Repr

end Listing

/-- What the listing shows. -/
structure Listing where
  channels : List Channel
  build : String
  roster : Roster
  meters : Meters

namespace Listing

def health (l : Listing) : Json :=
  .object [("status", .string "ok"), ("build", .string l.build),
    ("channels", .array (l.channels.map fun c => .string c.name)),
    ("metrics", .object l.meters.summary)]

def body (l : Listing) : Page → String
  | .units => (Json.array (l.roster.units.map FieldUnit.toJson)).text
  | .health => l.health.text
  | .meters => l.meters.text

def respond (method target : String) (l : Listing) : Response :=
  match Page.ofTarget? target with
  | none => ⟨404, none, none, ""⟩
  | some p =>
    if method = "GET" then ⟨200, some p.contentType, none, l.body p⟩
    else if method = "HEAD" then ⟨200, some p.contentType, none, ""⟩
    else ⟨405, none, some "GET,HEAD", ""⟩

end Listing
end FleetBridge
