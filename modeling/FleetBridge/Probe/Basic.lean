import FleetBridge.Fault
import FleetBridge.Meters.Basic
import FleetBridge.Roster.Basic
import FleetBridge.Tally

/-!
What a cycle of probes found, and what follows from it: a unit that did not answer is evicted unless
it registered again, and each event that was counted gets a status.
-/
namespace FleetBridge.Probe

inductive Outcome where
  | healthy
  | unresponsive
  /-- Nothing is known about the unit. -/
  | failed (f : BusFault)
  deriving DecidableEq, Repr

def Outcome.meter : Outcome → Meters.Probe
  | healthy => .healthy
  | unresponsive => .unresponsive
  | failed _ => .failed

/-- The probe of one registration and how it ended. -/
abbrev Result := Roster.Entry × Outcome

structure Report where
  probed : Nat
  healthy : Nat
  /-- The units evicted, in the order in which their probes ended. -/
  evicted : List String
  failed : Nat
  statuses : Table Int Event.Status
  skipped : Bool

def Report.skip : Report := ⟨0, 0, [], 0, [], true⟩

/-- The events that became live. -/
def Report.live (r : Report) : Nat := r.statuses.countP fun s => s.2 = .live

/-- The state of affairs while the results of a cycle are gone through. -/
structure Settlement where
  roster : Roster
  meters : Meters
  tally : Tally
  healthy : Nat
  evicted : List String
  failed : Nat

namespace Settlement

def start (r : Roster) (m : Meters) : Settlement := ⟨r, m, [], 0, [], 0⟩

/-- Only an eviction counts against an event; a registration that was replaced counts for
nothing. -/
def take (s : Settlement) (r : Result) : Settlement :=
  let unit := r.1.unit
  let s := { s with meters := s.meters.countProbe r.2.meter }
  match r.2 with
  | .healthy => { s with healthy := s.healthy + 1, tally := s.tally.answered unit.eventId }
  | .unresponsive =>
    if s.roster.holds unit.unitId r.1.stamp then
      { s with
        roster := s.roster.remove unit.unitId
        tally := s.tally.missed unit.eventId
        evicted := s.evicted ++ [unit.unitId] }
    else s
  | .failed _ => { s with failed := s.failed + 1 }

def of (r : Roster) (m : Meters) (results : List Result) : Settlement :=
  results.foldl take (start r m)

def report (probed : Nat) (s : Settlement) : Report :=
  ⟨probed, s.healthy, s.evicted, s.failed, s.tally.statuses, false⟩

end Settlement
end FleetBridge.Probe
