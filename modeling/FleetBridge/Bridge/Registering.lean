import FleetBridge.Bridge.Turn

/-!
Turns of registrations and of the listener. The unit is on the roster before its reply goes out, and
neither a failed status write nor a failed reply undoes anything.
-/
namespace FleetBridge

namespace Registration

/-- The phase after the event was asked for. -/
def answered (a : Announcement) : Except LookupFault (Option Event) → Phase
  | .ok (some e) => .marking (a.attach e)
  | .ok none => .counting (.unresolved a.unitId)
  | .error _ => .counting (.lookupFailed a.unitId)

/-- Sends a unit as the reply to the message, if it asks for one. -/
def reply (r : Registration) (u : FieldUnit) (b : Bridge) : Bridge :=
  match r.message.reply with
  | some subject => (b.publish r.link subject (Payload.ofText u.text)).2
  | none => b

def turn (r : Registration) (b : Bridge) : Turn Registration Outcome :=
  let go (p : Phase) (b : Bridge) : Turn Registration Outcome := .next { r with phase := p } b
  match r.phase with
  | .reading =>
    match Announcement.ofPayload r.message.payload with
    | .ok a => go (.asking a) b
    | .error _ => go (.counting .malformed) b
  | .asking a =>
    go (answered a (b.directory.find a.unitId))
      { b with directory := b.directory.noted a.unitId }
  | .marking u => go (.filing u) { b with statuses := b.statuses.write u.eventId .live }
  | .filing u => go (.replying u) { b with roster := b.roster.register u }
  | .replying u => go (.counting (.registered u)) (r.reply u b)
  | .counting o => .done o (b.metered (·.countRegistration o.meter)).meterRoster

end Registration

namespace Listener

def turn (chance : Nat) (l : Listener) (b : Bridge) : Turn Listener Ending :=
  match l.phase with
  | .subscribing =>
    match b.subscribe l.link Subject.announcements with
    | (.ok s, b) => .next { l with phase := .listening s } b
    | (.error _, b) => .done .lost b
  | .listening s =>
    let ready := b.broker.isOver s || !(b.broker.waiting s).isEmpty
    if tokenFirst chance (b.isFired l.token) ready then
      .next { l with phase := .draining s .cancelled } b
    else match b.read? s with
      | some (m, b) =>
        let (i, b) := b.spawn (.registration (.start l.replyLink m))
        .next { l with handlers := l.handlers.filter b.isRunning ++ [i] } b
      | none => if b.broker.isOver s then .next { l with phase := .draining s .lost } b else .wait
  | .draining s e => if l.handlers.any b.isRunning then .wait else .done e (b.leave s)

end Listener
end FleetBridge
