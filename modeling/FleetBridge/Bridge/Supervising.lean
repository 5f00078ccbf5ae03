import FleetBridge.Bridge.Forwarding
import FleetBridge.Bridge.Probing
import FleetBridge.Bridge.Registering

/-!
Turns of those who keep the services running. A service is started again only after everything that
the one before had started has come to its end.
-/
namespace FleetBridge

/-- How long to wait after an attempt; chance draws the part that jitter leaves open. -/
def Backoff.drawn (chance : Nat) (p : Backoff) (n : Nat) : Duration :=
  p.delay n (chance % (p.jitter.span (p.base n) + 1))

namespace Bootstrap

/-- Tries to connect the sink and counts the attempt. -/
def connectSink (i : SinkId) (b : Bridge) : Bool × Bridge :=
  match b.connectSink i with
  | (.ok (), b) => (true, b.metered (·.countConnect "sink" true))
  | (.error _, b) => (false, b.metered (·.countConnect "sink" false))

/-- Whether the sink is up now, after an attempt to connect it if it was not. -/
def sinkUp (s : Bootstrap) (b : Bridge) : Bool × Bridge :=
  match s.sink with
  | none => (true, b)
  | some i => if b.sinkConnected i then (true, b) else connectSink i b

/-- Dials a link unless one is held, and counts the attempt. -/
def dial (s : Bootstrap) (b : Bridge) : Option Link × Bridge :=
  match s.link with
  | some l => (some l, b)
  | none =>
    let (l, b) := b.dial
    (l, b.metered (·.countConnect "bus" l.isSome))

def turn (chance : Nat) (s : Bootstrap) (b : Bridge) : Turn Bootstrap (Option Link) :=
  match s.phase with
  | .dialling =>
    if b.isFired s.token then .done none b
    else
      let (l, b) := s.dial b
      .next { s with link := l, phase := .connecting } b
  | .connecting =>
    match s.link, s.sinkUp b with
    | some l, (true, b) => .done (some l) b
    | _, (_, b) =>
      .next { s with
        attempt := Backoff.nextAttempt s.attempt
        phase := .resting (b.after (s.backoff.drawn chance s.attempt)) } b
  | .resting wake =>
    let due := decide (wake ≤ b.now)
    if tokenFirst chance (b.isFired s.token) due then .done none b
    else if due then .next { s with phase := .dialling } b
    else .wait

end Bootstrap

namespace Worker

def turn (chance : Nat) (w : Worker) (b : Bridge) : Turn Worker Unit :=
  match w.phase with
  | .connecting s =>
    (s.turn chance b).andThen (fun s => { w with phase := .connecting s }) fun
      | none, b => .done () b
      | some l, b =>
        let (t, b) := b.branch w.token
        .next { w with
          phase := .refreshing (.start b.now (.start w.profile l w.sink t) w.token
            w.plan.refreshPeriod) } b
  | .refreshing r =>
    (r.turn chance b).andThen (fun r => { w with phase := .refreshing r }) fun
      | .cancelled, b => .done () b
      | .lost, b =>
        .next { w with
          losses := Backoff.nextAttempt w.losses
          phase := .resting (b.after (w.plan.backoff.drawn chance w.losses)) } b
  | .resting wake =>
    let due := decide (wake ≤ b.now)
    if tokenFirst chance (b.isFired w.token) due then .done () b
    else if due then .next w.connect b
    else .wait

end Worker

namespace ControlPlane

def turn (chance : Nat) (c : ControlPlane) (b : Bridge) : Turn ControlPlane Unit :=
  match c.phase with
  | .connecting s =>
    (s.turn chance b).andThen (fun s => { c with phase := .connecting s }) fun
      | none, b => .done () b
      | some l, b =>
        let (plane, b) := b.branch c.token
        let (i, b) := b.spawn (.prober (.start b.now l c.plan.probe plane))
        .next { c with phase := .listening (.start l l plane) i plane } b
  | .listening l i plane =>
    (l.turn chance b).andThen (fun l => { c with phase := .listening l i plane })
      fun e b => .next { c with phase := .joining i e } (b.fire plane)
  | .joining i e =>
    if b.isRunning i then .wait
    else match e with
      | .cancelled => .done () b
      | .lost =>
        .next { c with
          losses := Backoff.nextAttempt c.losses
          phase := .resting (b.after (c.plan.backoff.drawn chance c.losses)) } b
  | .resting wake =>
    let due := decide (wake ≤ b.now)
    if tokenFirst chance (b.isFired c.token) due then .done () b
    else if due then .next c.connect b
    else .wait

end ControlPlane

namespace Supervisor

/-- Starts a worker for each assignment, in order, and then the control plane. -/
def launch (s : Supervisor) (b : Bridge) : List TaskId × Bridge :=
  let programs := s.assignments.map (fun a =>
    Program.worker (.start a.profile a.sink s.token s.plan)) ++ [.control (.start s.token s.plan)]
  programs.foldl (fun (ids, b) p => let (i, b) := b.spawn p; (ids ++ [i], b)) ([], b)

def turn (s : Supervisor) (b : Bridge) : Turn Supervisor Unit :=
  match s.phase with
  | .starting =>
    let (ids, b) := s.launch b
    .next { s with phase := .joining ids } b
  | .joining ids => if ids.any b.isRunning then .wait else .done () b

end Supervisor
end FleetBridge
