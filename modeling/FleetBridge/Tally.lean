import FleetBridge.Event

/-!
Counts per event of the units that answered a probe less those that did not.
-/
namespace FleetBridge

abbrev Tally := Table Int Int

namespace Tally

def count? (t : Tally) (event : Int) : Option Int := t.get? event

def add (t : Tally) (event change : Int) : Tally :=
  t.put event ((t.get? event).getD 0 + change)

def answered (t : Tally) (event : Int) : Tally := t.add event 1

def missed (t : Tally) (event : Int) : Tally := t.add event (-1)

/-- A status for each event that was counted. -/
def statuses (t : Tally) : Table Int Event.Status :=
  t.map fun c => (c.1, Event.Status.ofTally c.2)

end Tally
end FleetBridge
