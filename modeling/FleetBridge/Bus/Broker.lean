import FleetBridge.Payload
import FleetBridge.Subject

/-!
The broker hands each message to the subscriptions whose pattern accepts its subject, and keeps a
journal of every message. A subscription holds what its reader has not read yet, oldest first.
-/
namespace FleetBridge

structure Message where
  subject : String
  /-- Where the sender expects an answer. -/
  reply : Option String
  payload : Payload

/-- The unit that a message is from or for. -/
def Message.unit? (m : Message) : Option String := Subject.unit? m.subject

/-- The reader's end of a subscription. -/
abbrev StreamId := Nat

namespace Subscription

inductive Phase where
  | live
  /-- The reader sees its end and reads no more, but has not left it yet. -/
  | ended
  /-- The reader is gone; the next delivery clears the subscription away. -/
  | dropped
  deriving DecidableEq, Repr

end Subscription

structure Subscription where
  id : StreamId
  pattern : String
  phase : Subscription.Phase
  waiting : List Message

namespace Subscription

/-- Whether a message is delivered to the subscription. -/
def takes (s : Subscription) (m : Message) : Bool :=
  s.phase ≠ .dropped && Subject.accepts s.pattern m.subject

def push (m : Message) (s : Subscription) : Subscription :=
  if s.phase = .live && s.takes m then { s with waiting := s.waiting ++ [m] } else s

end Subscription

structure Broker where
  subscriptions : List Subscription
  journal : List Message
  nextStream : StreamId
  nextInbox : Nat

namespace Broker

def empty : Broker := ⟨[], [], 0, 0⟩

def subscribe (pattern : String) (b : Broker) : StreamId × Broker :=
  (b.nextStream, { b with
    subscriptions := b.subscriptions ++ [⟨b.nextStream, pattern, .live, []⟩]
    nextStream := b.nextStream + 1 })

/-- The readers that a message reaches, in the order in which they subscribed. -/
def receivers (m : Message) (b : Broker) : List StreamId :=
  (b.subscriptions.filter fun s => s.takes m).map Subscription.id

def deliver (m : Message) (b : Broker) : Broker :=
  { b with
    journal := b.journal ++ [m]
    subscriptions := (b.subscriptions.filter fun s => s.phase ≠ .dropped).map (·.push m) }

/-- A subject that no request used before. -/
def inbox (b : Broker) : String × Broker :=
  ("_INBOX." ++ toString b.nextInbox, { b with nextInbox := b.nextInbox + 1 })

def find? (i : StreamId) (b : Broker) : Option Subscription :=
  b.subscriptions.find? fun s => s.id = i

def update (i : StreamId) (f : Subscription → Subscription) (b : Broker) : Broker :=
  { b with subscriptions := b.subscriptions.map fun s => if s.id = i then f s else s }

def waiting (i : StreamId) (b : Broker) : List Message :=
  ((b.find? i).map Subscription.waiting).getD []

/-- The oldest message that its reader has not read. -/
def read? (i : StreamId) (b : Broker) : Option (Message × Broker) :=
  match b.waiting i with
  | [] => none
  | m :: r => some (m, b.update i fun s => { s with waiting := r })

/-- Ends a stream for its reader, with everything that was not read. -/
def close (i : StreamId) (b : Broker) : Broker :=
  b.update i fun s =>
    { s with phase := if s.phase = .live then .ended else s.phase, waiting := [] }

def drop (i : StreamId) (b : Broker) : Broker :=
  b.update i fun s => { s with phase := .dropped, waiting := [] }

def phase? (i : StreamId) (b : Broker) : Option Subscription.Phase :=
  (b.find? i).map Subscription.phase

/-- Whether the stream has come to its end. -/
def isOver (i : StreamId) (b : Broker) : Bool := b.phase? i != some .live

/-- The number of subscriptions on exactly this pattern whose readers have not left. -/
def count (pattern : String) (b : Broker) : Nat :=
  b.subscriptions.countP fun s => s.pattern = pattern && s.phase ≠ .dropped

/-- The messages on the subjects that a pattern accepts. -/
def publishedOn (pattern : String) (b : Broker) : List Message :=
  b.journal.filter fun m => Subject.accepts pattern m.subject

end Broker
end FleetBridge
