import FleetBridge.Bus.Connection
import FleetBridge.Clock

/-!
A request goes out with a fresh inbox as its reply subject. The first message in the inbox answers
it, unless the deadline passes first.
-/
namespace FleetBridge

/-- A request that is under way. -/
structure Exchange where
  subject : String
  inbox : StreamId
  deadline : Instant
  deriving DecidableEq, Repr

inductive Request.Phase where
  | asking
  | waiting (e : Exchange)
  deriving DecidableEq, Repr

/-- A request as a task of its own. -/
structure Request where
  link : Link
  subject : String
  payload : Payload
  timeout : Duration
  phase : Request.Phase

end FleetBridge
