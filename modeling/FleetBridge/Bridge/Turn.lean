import FleetBridge.Bridge.Basic

/-!
A task takes turns. In a turn it does one thing, up to the next point at which others may come in
between. Chance decides what is left open: which of several things that are ready comes first, and
by how much a wait is shortened.
-/
namespace FleetBridge

/-- What comes of a turn of something in state `σ` that ends with an `ε`. -/
inductive Turn (σ ε : Type) where
  /-- Nothing that it waits for has come. -/
  | wait
  | next (s : σ) (b : Bridge)
  | done (e : ε) (b : Bridge)

namespace Turn

variable {σ σ' ε ε' : Type}

def map (f : σ → σ') (g : ε → ε') : Turn σ ε → Turn σ' ε'
  | wait => wait
  | next s b => next (f s) b
  | done e b => done (g e) b

/-- A turn as a part of something larger, which goes on when the part is done. -/
def andThen (f : σ → σ') (g : ε → Bridge → Turn σ' ε') : Turn σ ε → Turn σ' ε'
  | wait => wait
  | next s b => next (f s) b
  | done e b => g e b

end Turn

/-- Whether a fired token comes first, when something else may be ready too. -/
def tokenFirst (chance : Nat) (fired ready : Bool) : Bool := fired && (chance % 2 = 0 || !ready)

end FleetBridge
