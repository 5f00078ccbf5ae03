import FleetBridge.Backoff
import FleetBridge.Channel
import FleetBridge.Net.Address
import FleetBridge.Subject
import FleetBridge.Url.Basic

/-!
The settings of a bridge. Each channel has a profile; the selection says which channels run.
-/
namespace FleetBridge

/-- What a channel forwards and where it stores it. -/
structure Profile where
  channel : Channel
  /-- The tokens between a unit and its topics. -/
  subject : String
  unitIds : List String
  bucket : String
  deriving DecidableEq, Repr

/-- The subjects that a channel subscribes to, one for each of its units. -/
def Profile.subjects (p : Profile) : List String :=
  p.unitIds.map fun id => Subject.telemetry id p.subject

/-- Profiles filed under their channels; of several for one channel the last counts. -/
def Profile.filed? (profiles : List Profile) (c : Channel) : Option Profile :=
  profiles.reverse.find? fun p => p.channel = c

structure ProbeSettings where
  period : Duration
  timeout : Duration
  /-- How many probes may be under way at once. -/
  concurrency : Nat
  deriving DecidableEq, Repr

structure RetrySettings where
  first : Duration
  most : Duration
  factor : Float

/-- The waits between attempts to connect, shortened by chance to half at least. -/
def RetrySettings.backoff (r : RetrySettings) : Backoff := ⟨r.first, r.most, r.factor, .equal⟩

structure BusSettings where
  url : Url
  /-- No limit if absent. -/
  reconnects : Option Nat

structure SinkSettings where
  url : Url
  organisation : String
  /-- Requests carry no authorization if this is empty. -/
  token : String

inductive LogFormat where
  | json
  | pretty
  deriving DecidableEq, Repr

/-- The format that a name asks for; any other name leaves the default. -/
def LogFormat.ofName (name : Option String) : LogFormat :=
  match name with
  | some "json" => json
  | _ => pretty

structure Settings where
  selection : Channel.Selection
  bus : BusSettings
  sink : SinkSettings
  profiles : List Profile
  probe : ProbeSettings
  refreshPeriod : Duration
  retry : RetrySettings
  listenAddress : Net.SocketAddress
  databaseUrl : String
  logFormat : Option String

namespace Settings

def profile? (s : Settings) (c : Channel) : Option Profile := Profile.filed? s.profiles c

/-- The profiles of the selected channels. -/
def active (s : Settings) : List Profile := s.selection.channels.filterMap s.profile?

end Settings
end FleetBridge
