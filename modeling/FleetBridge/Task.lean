/-!
Tasks are the activities that run side by side. A token tells tasks to stop; whoever stops a token
also stops its branches.
-/
namespace FleetBridge

abbrev TaskId := Nat

structure Token where
  root : Nat
  branch : Option Nat
  deriving DecidableEq, Repr

namespace Token

/-- Whether stopping `a` also stops `t`. -/
def covers (a t : Token) : Bool := a = t || (a.branch.isNone && a.root = t.root)

end Token

/-- Why a service came to its end: it was told to stop, or it lost what it worked on. -/
inductive Ending where
  | cancelled
  | lost
  deriving DecidableEq, Repr

end FleetBridge
