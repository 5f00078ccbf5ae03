import FleetBridge.Bus.Remote
import FleetBridge.Database.Location
import FleetBridge.Settings.Load
import FleetBridge.Sink.Remote

/-!
Bringing the service up. The settings are checked before logging starts and before anything is
connected, so a bad environment has no effect at all.
-/
namespace FleetBridge

/-- Why the service stopped. -/
inductive ServiceFault where
  | settings (operation : String) (cause : SettingFault)
  | telemetry (operation : String) (cause : TelemetryFault)
  | database (operation : String) (cause : DatabaseFault)
  | sink (operation : String) (cause : SinkFault)
  | listener (operation : String) (address : Net.SocketAddress) (cause : String)
  deriving DecidableEq, Repr

namespace ServiceFault

def message : ServiceFault → String
  | settings .. => "configuration operation failed"
  | telemetry .. => "telemetry operation failed"
  | database .. => "event store operation failed"
  | sink .. => "sink operation failed"
  | listener .. => "http listener failed"

def operation : ServiceFault → String
  | settings operation _ => operation
  | telemetry operation _ => operation
  | database operation _ => operation
  | sink operation _ => operation
  | listener operation _ _ => operation

/-- What the cause says of itself. -/
def causeText : ServiceFault → String
  | settings _ cause => cause.message
  | telemetry _ cause => cause.message
  | database _ cause => cause.message
  | sink _ cause => cause.message
  | listener _ _ cause => cause

end ServiceFault

/-- What the service finds where it is started. -/
structure Host where
  environment : Settings.Environment
  /-- Logging can be installed once only. -/
  hasLogging : Bool
  canListen : Net.SocketAddress → Bool

/-- What a service that is up works with. -/
structure Service where
  settings : Settings
  dialler : RemoteDialler
  sinks : List (Profile × RemoteSink)

namespace Service

def channels (s : Service) : List Channel := s.sinks.map fun w => w.1.channel

def ofSettings (s : Settings) : Except DatabaseFault Service :=
  match Database.locate s.databaseUrl with
  | .error f => .error f
  | .ok () => .ok {
      settings := s
      dialler := ⟨s.bus.url.text, RemoteDialler.nameFor s.selection.channels, s.bus.reconnects⟩
      sinks := s.active.map fun p => (p, .ofSettings s.sink p.bucket) }

/-- Everything after the settings are there: logging, the event database, the listener. -/
def start (h : Host) (s : Settings) : Except ServiceFault Service :=
  if h.hasLogging then .error (.telemetry "telemetry.init" .install)
  else match ofSettings s with
    | .error f => .error (.database "event_store.connect" f)
    | .ok service =>
      if h.canListen s.listenAddress then .ok service
      else .error (.listener "http.bind" s.listenAddress "")

/-- An attempt to bring the service up, and the host after it. -/
def bringUp (h : Host) : Except ServiceFault Service × Host :=
  match Settings.load h.environment with
  | .error f => (.error (.settings "config.load" f), h)
  | .ok s => (start h s, { h with hasLogging := true })

end Service
end FleetBridge
