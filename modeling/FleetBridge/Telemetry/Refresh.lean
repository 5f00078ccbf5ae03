import FleetBridge.Bus.Connection
import FleetBridge.Clock
import FleetBridge.Settings.Basic
import FleetBridge.Sink.Memory
import FleetBridge.Task

/-!
A dispatcher forwards the telemetry of one unit to the sink. The refresher of a channel sees to it
that each of the channel's subjects has a running dispatcher.
-/
namespace FleetBridge

inductive Dispatcher.Phase where
  | idle
  | writing (x : Sample)

structure Dispatcher where
  profile : Profile
  sink : SinkId
  stream : StreamId
  token : Token
  phase : Dispatcher.Phase

/-- What one pass over a channel's subjects did; a subject whose dispatcher runs is in neither
list. -/
structure RefreshReport where
  created : List String
  failed : List String
  deriving DecidableEq, Repr

def RefreshReport.empty : RefreshReport := ⟨[], []⟩

structure Refresher where
  profile : Profile
  link : Link
  sink : SinkId
  /-- Stops the dispatchers. -/
  token : Token
  /-- The dispatcher started last for each subject. -/
  dispatchers : Table String TaskId

def Refresher.start (p : Profile) (l : Link) (sink : SinkId) (t : Token) : Refresher :=
  ⟨p, l, sink, t, []⟩

namespace Refreshing

/-- What is done next. -/
inductive Phase where
  | resting
  | connecting
  | passing (rest : List String) (r : RefreshReport)
  | closing (e : Ending)

end Refreshing

/-- A refresher that makes a pass at once and then one per period. -/
structure Refreshing where
  refresher : Refresher
  token : Token
  ticker : Ticker
  phase : Refreshing.Phase

def Refreshing.start (now : Instant) (r : Refresher) (t : Token) (period : Duration) :
    Refreshing :=
  ⟨r, t, ⟨now, period⟩, .resting⟩

end FleetBridge
