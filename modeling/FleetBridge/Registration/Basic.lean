import FleetBridge.Bus.Connection
import FleetBridge.Meters.Basic
import FleetBridge.Roster.Basic
import FleetBridge.Task

/-!
A registration is the handling of one announcement: the unit's event is looked up and marked live,
the unit is filed, and then it gets its reply. The listener starts one for each announcement.
-/
namespace FleetBridge

namespace Registration

inductive Outcome where
  | registered (u : FieldUnit)
  | malformed
  | unresolved (unitId : String)
  | lookupFailed (unitId : String)

def Outcome.meter : Outcome → Meters.Registration
  | registered _ => .registered
  | malformed => .malformed
  | unresolved _ => .unresolved
  | lookupFailed _ => .lookupFailed

/-- What is done next. -/
inductive Phase where
  | reading
  | asking (a : Announcement)
  | marking (u : FieldUnit)
  | filing (u : FieldUnit)
  | replying (u : FieldUnit)
  | counting (o : Outcome)

end Registration

structure Registration where
  link : Link
  message : Message
  phase : Registration.Phase

/-- The handling of a message from its beginning. -/
def Registration.start (l : Link) (m : Message) : Registration := ⟨l, m, .reading⟩

namespace Listener

inductive Phase where
  | subscribing
  | listening (s : StreamId)
  /-- No more messages are taken, but the registrations under way are waited for. -/
  | draining (s : StreamId) (e : Ending)
  deriving DecidableEq, Repr

end Listener

structure Listener where
  link : Link
  /-- Where the registrations send their replies. -/
  replyLink : Link
  token : Token
  /-- The registrations under way. -/
  handlers : List TaskId
  phase : Listener.Phase
  deriving DecidableEq, Repr

def Listener.start (l replyLink : Link) (t : Token) : Listener :=
  ⟨l, replyLink, t, [], .subscribing⟩

end FleetBridge
