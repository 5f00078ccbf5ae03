import FleetBridge.Bus.Exchange
import FleetBridge.Probe.Basic
import FleetBridge.Settings.Basic
import FleetBridge.Task

/-!
A cycle probes every unit that is on the roster when it starts, a few at a time, and settles the
results when all are in. The prober starts one cycle after another and never two at once.
-/
namespace FleetBridge

namespace Cycle

open Probe

/-- What is done next. -/
inductive Phase where
  | starting
  | probing (pending : List Roster.Entry) (underway : List (Roster.Entry × Exchange))
      (results : List Result)
  | writing (r : Report) (rest : Table Int Event.Status)
  | counting (r : Report)

end Cycle

structure Cycle where
  link : Link
  settings : ProbeSettings
  phase : Cycle.Phase

def Cycle.start (l : Link) (s : ProbeSettings) : Cycle := ⟨l, s, .starting⟩

/-- How many probes may be under way at once. -/
def Cycle.width (c : Cycle) : Nat := max c.settings.concurrency 1

inductive Prober.Phase where
  | resting
  | cycling (c : Cycle)

structure Prober where
  link : Link
  settings : ProbeSettings
  token : Token
  ticker : Ticker
  phase : Prober.Phase

/-- The first cycle is a period away. -/
def Prober.start (now : Instant) (l : Link) (s : ProbeSettings) (t : Token) : Prober :=
  ⟨l, s, t, ⟨Instant.after now s.period, s.period⟩, .resting⟩

end FleetBridge
