import FleetBridge.Table
import FleetBridge.Word

/-!
Meters count what happens. Counters wrap at the end of 64 bits and gauges at the end of 64 signed
bits; a family with labels has one counter for each combination of their values that came up.
-/
namespace FleetBridge

/-- How the handling of an announcement may end. -/
inductive Meters.Registration where
  | registered
  | malformed
  | unresolved
  | lookupFailed
  deriving DecidableEq, Repr

/-- How a probe may end. -/
inductive Meters.Probe where
  | healthy
  | unresponsive
  | failed
  deriving DecidableEq, Repr

namespace Meters

def Registration.label : Registration → String
  | registered => "registered"
  | malformed => "malformed"
  | unresolved => "unresolved"
  | lookupFailed => "lookup_failed"

def Probe.label : Probe → String
  | healthy => "healthy"
  | unresponsive => "unresponsive"
  | failed => "failed"

/-- The counters of a family under the values of its labels. -/
abbrev Counters := Table (List String) UInt64

/-- The count for some label values; what never came up counts zero. -/
def Counters.count (values : List String) (c : Counters) : UInt64 := (Table.get? values c).getD 0

def Counters.tick (values : List String) (c : Counters) : Counters :=
  Table.put values (c.count values + 1) c

/-- A gauge shows a number of things, as far as it reaches. -/
def gauge (n : Nat) : Int64 := Int64.ofNat (min n Word.maxInt64)

end Meters

structure Meters where
  registrations : Meters.Counters
  probes : Meters.Counters
  evictions : UInt64
  registeredUnits : Int64
  liveEvents : Int64
  connectAttempts : Meters.Counters
  dispatched : Meters.Counters
  sinkFailures : Meters.Counters
  subscriptions : Int64

namespace Meters

def zero : Meters := ⟨[], [], 0, 0, 0, [], [], [], 0⟩

def countRegistration (o : Registration) (m : Meters) : Meters :=
  { m with registrations := m.registrations.tick [o.label] }

def countProbe (o : Probe) (m : Meters) : Meters :=
  { m with probes := m.probes.tick [o.label] }

def addEvictions (n : Nat) (m : Meters) : Meters :=
  { m with evictions := m.evictions + UInt64.ofNat n }

def setRegisteredUnits (n : Nat) (m : Meters) : Meters := { m with registeredUnits := gauge n }

def setLiveEvents (n : Nat) (m : Meters) : Meters := { m with liveEvents := gauge n }

/-- The labels of this family are the outcome and the target. -/
def countConnect (target : String) (success : Bool) (m : Meters) : Meters :=
  { m with connectAttempts :=
      m.connectAttempts.tick [if success then "success" else "failure", target] }

def countDispatched (channel : String) (m : Meters) : Meters :=
  { m with dispatched := m.dispatched.tick [channel] }

def countSinkFailure (channel : String) (m : Meters) : Meters :=
  { m with sinkFailures := m.sinkFailures.tick [channel] }

def addSubscriptions (change : Int) (m : Meters) : Meters :=
  { m with subscriptions := m.subscriptions + Int64.ofInt change }

end Meters
end FleetBridge
