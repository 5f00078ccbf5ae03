/-!
What can go wrong at the edges of the bridge: on the bus, at the sink, and in the event database.
Messages are constant; what differs from case to case is in the fields.
-/
namespace FleetBridge

inductive BusFault where
  | connect (address detail : String)
  | subscribe (subject detail : String)
  | publish (subject detail : String)
  | timedOut (subject : String)
  | noResponders (subject : String)
  | request (subject detail : String)
  deriving DecidableEq, Repr

namespace BusFault

def message : BusFault → String
  | connect .. => "bus connection failed"
  | subscribe .. => "bus subscription failed"
  | publish .. => "bus publish failed"
  | timedOut _ => "bus request timed out"
  | noResponders _ => "bus request had no responders"
  | request .. => "bus request failed"

/-- Whether a request merely went unanswered. -/
def isNoReply : BusFault → Bool
  | timedOut _ => true
  | noResponders _ => true
  | _ => false

end BusFault

inductive SinkFault where
  | connect (address detail : String)
  | status (operation : String) (code : Nat)
  | write (bucket detail : String)
  | notConnected
  deriving DecidableEq, Repr

def SinkFault.message : SinkFault → String
  | connect .. => "sink connection failed"
  | status .. => "sink returned an error status"
  | write .. => "sink write failed"
  | notConnected => "sink not connected"

/-- A failure of the event database, with the operation it befell and the text of its cause. -/
inductive DatabaseFault where
  | connect (cause : String)
  | query (operation cause : String)
  deriving DecidableEq, Repr

namespace DatabaseFault

def operation : DatabaseFault → String
  | connect _ => "connect"
  | query operation _ => operation

def cause : DatabaseFault → String
  | connect cause => cause
  | query _ cause => cause

def message : DatabaseFault → String
  | connect _ => "database connection failed"
  | query .. => "database operation failed"

end DatabaseFault

/-- What a look-up or a status write reports when the database behind it fails. -/
structure LookupFault where
  operation : String
  cause : String
  deriving DecidableEq, Repr

def LookupFault.message (_ : LookupFault) : String := "event store operation failed"

def DatabaseFault.toLookup (f : DatabaseFault) : LookupFault := ⟨f.operation, f.message⟩

/-- Failures of logging and of the meters. -/
inductive TelemetryFault where
  | install
  | register (cause : String)
  | encode (cause : String)
  | notText
  deriving DecidableEq, Repr

def TelemetryFault.message : TelemetryFault → String
  | install => "failed to install tracing subscriber"
  | register _ => "failed to register metrics collector"
  | encode _ => "failed to encode metrics"
  | notText => "metrics output was not valid utf-8"

end FleetBridge
