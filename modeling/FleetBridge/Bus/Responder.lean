import FleetBridge.Bus.Connection
import FleetBridge.Roster.Announcement

/-!
A responder stands in for units in the field: it answers what arrives on a stream, and may act
before it answers.
-/
namespace FleetBridge

namespace Responder

inductive Act where
  | nothing
  | register (u : FieldUnit)
  | remove (unitId : String)
  | disconnect (link : Link)

inductive Answer where
  | echo
  | fixed (p : Payload)
  | silent

def Answer.to (m : Message) : Answer → Option Payload
  | echo => some m.payload
  | fixed p => some p
  | silent => none

end Responder

structure Responder where
  stream : StreamId
  act : Responder.Act
  answer : Responder.Answer

/-- The message that answers `m`, if it asks for an answer and the responder gives one. -/
def Responder.reply? (m : Message) (r : Responder) : Option Message := do
  some ⟨← m.reply, none, ← r.answer.to m⟩

end FleetBridge
