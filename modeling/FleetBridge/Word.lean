/-!
The ranges of numbers with a fixed width.
-/
namespace FleetBridge.Word

def maxUInt32 : Nat := Nat.pow 2 32 - 1

def maxUInt64 : Nat := Nat.pow 2 64 - 1

def maxInt32 : Nat := Nat.pow 2 31 - 1

def maxInt64 : Nat := Nat.pow 2 63 - 1

/-- The signed numbers of 64 bits reach one further below zero than above. -/
def fitsInt64 (n : Int) : Bool := -(maxInt64 : Int) - 1 ≤ n && n ≤ maxInt64

end FleetBridge.Word
