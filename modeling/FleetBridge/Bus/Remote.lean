import FleetBridge.Bus.Broker
import FleetBridge.Fault
import FleetBridge.Channel

/-!
A bus behind a server: what goes out to the server, and what its answers come to.
-/
namespace FleetBridge

/-- What comes of dialling a server. -/
inductive Greeting where
  | welcome
  /-- The server refused the login. -/
  | turnedAway
  /-- Nobody answered. -/
  | silence
  deriving DecidableEq, Repr

structure RemoteDialler where
  address : String
  clientName : String
  /-- No limit if absent. -/
  reconnects : Option Nat
  deriving DecidableEq, Repr

/-- What the server gets to see. -/
inductive Frame where
  | connect (clientName : String)
  | subscribe (subject : String)
  | publish (subject : String) (p : Payload)
  | request (subject : String) (p : Payload)

structure RemoteBus where
  /-- The size of the largest payload that the server takes. -/
  largest : Nat

namespace RemoteDialler

def defaultName : String := "telematic-bridge"

/-- The name under which a bridge with these channels logs in. -/
def nameFor (channels : List Channel) : String :=
  defaultName ++ "-" ++ String.intercalate "-" (channels.map Channel.name)

def connect (d : RemoteDialler) (largest : Nat) : Greeting → Except BusFault RemoteBus
  | .welcome => .ok ⟨largest⟩
  | _ => .error (.connect d.address "")

end RemoteDialler

/-- What comes of a request to the server. -/
inductive RemoteAnswer where
  | reply (p : Payload)
  | noResponders
  /-- The time ran out. -/
  | nothing
  | broken

namespace RemoteBus

/-- A payload that is too large is refused before it goes out. -/
def publish (subject : String) (p : Payload) (b : RemoteBus) : Except BusFault Frame :=
  if b.largest < p.size then .error (.publish subject "") else .ok (.publish subject p)

def answered (subject : String) : RemoteAnswer → Except BusFault Payload
  | .reply p => .ok p
  | .noResponders => .error (.noResponders subject)
  | .nothing => .error (.timedOut subject)
  | .broken => .error (.request subject "")

end RemoteBus
end FleetBridge
