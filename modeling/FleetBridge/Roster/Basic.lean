import FleetBridge.Roster.Announcement

/-!
The roster files each unit under its id, stamped with a number that grows with every registration.
Who remembers a stamp can remove that registration and no later one.
-/
namespace FleetBridge

structure Roster.Entry where
  unit : FieldUnit
  stamp : Nat

structure Roster where
  filed : Table String Roster.Entry
  /-- The stamp given last. -/
  latest : Nat

namespace Roster

def empty : Roster := ⟨[], 0⟩

/-- Files a unit under its id, in place of an earlier registration. -/
def register (u : FieldUnit) (r : Roster) : Roster :=
  ⟨r.filed.put u.unitId ⟨u, r.latest + 1⟩, r.latest + 1⟩

def entry? (id : String) (r : Roster) : Option Entry := r.filed.get? id

def unit? (id : String) (r : Roster) : Option FieldUnit := (r.entry? id).map Entry.unit

def contains (id : String) (r : Roster) : Bool := (r.entry? id).isSome

def remove (id : String) (r : Roster) : Roster := { r with filed := r.filed.erase id }

/-- Whether the unit is filed with this very registration. -/
def holds (id : String) (stamp : Nat) (r : Roster) : Bool :=
  (r.entry? id).any fun e => e.stamp = stamp

/-- Removes a unit unless it registered again. -/
def evict (id : String) (stamp : Nat) (r : Roster) : Roster :=
  if r.holds id stamp then r.remove id else r

/-- The entries in the order of their registration. -/
def entries (r : Roster) : List Entry :=
  (r.filed.map Prod.snd).mergeSort fun a b => a.stamp ≤ b.stamp

def units (r : Roster) : List FieldUnit := r.entries.map Entry.unit

def size (r : Roster) : Nat := r.filed.length

end Roster
end FleetBridge
