import FleetBridge.Bridge.Turn

/-!
Turns of requests and of the responders that answer them.
-/
namespace FleetBridge

namespace Bridge

/-- Sends a request. It fails at once if nobody receives it. -/
def ask (l : Link) (subject : String) (p : Payload) (timeout : Duration) (b : Bridge) :
    Except BusFault Exchange × Bridge :=
  if l = .dead then (.error (.timedOut subject), b)
  else if !b.isConnected l then (.error (.request subject "connection closed"), b)
  else
    let (inbox, broker) := b.broker.inbox
    let (s, b) := { b with broker := broker }.attend inbox
    let m : Message := ⟨subject, some inbox, p⟩
    let reached := b.broker.receivers m
    let b := b.deliver m
    if reached.isEmpty then (.error (.noResponders subject), b.leave s)
    else (.ok ⟨subject, s, b.after timeout⟩, b)

/-- Whether an exchange is at its end: a reply came or the deadline passed. -/
def isSettled (e : Exchange) (b : Bridge) : Bool :=
  !(b.broker.waiting e.inbox).isEmpty || decide (e.deadline ≤ b.now)

/-- Ends an exchange with its first reply; without one it timed out. -/
def collect (e : Exchange) (b : Bridge) : Except BusFault Payload × Bridge :=
  match b.read? e.inbox with
  | some (m, b) => (.ok m.payload, b.leave e.inbox)
  | none => (.error (.timedOut e.subject), b.leave e.inbox)

end Bridge

def Request.turn (r : Request) (b : Bridge) : Turn Request (Except BusFault Payload) :=
  match r.phase with
  | .asking =>
    match b.ask r.link r.subject r.payload r.timeout with
    | (.ok e, b) => .next { r with phase := .waiting e } b
    | (.error f, b) => .done (.error f) b
  | .waiting e =>
    if b.isSettled e then
      let (answer, b) := b.collect e
      .done answer b
    else .wait

namespace Responder

def Act.perform (b : Bridge) : Act → Bridge
  | nothing => b
  | register u => { b with roster := b.roster.register u }
  | remove id => { b with roster := b.roster.remove id }
  | disconnect l => b.setConnected l false

/-- One message; without a reply subject it is acted on and not answered. -/
def turn (r : Responder) (b : Bridge) : Turn Responder Unit :=
  match b.read? r.stream with
  | none => .wait
  | some (m, b) =>
    let b := r.act.perform b
    match r.reply? m with
    | some answer => .next r (b.deliver answer)
    | none => .next r b

end Responder
end FleetBridge
