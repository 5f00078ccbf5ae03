import FleetBridge.Bridge.Turn
import FleetBridge.Telemetry.Decode

/-!
Turns of dispatchers and of the refresher. A dispatcher takes its messages one by one and never
stops at a bad one; the meter of active subscriptions counts the dispatchers that run.
-/
namespace FleetBridge

namespace Dispatcher

def failure (d : Dispatcher) (b : Bridge) : Bridge :=
  b.metered (·.countSinkFailure d.profile.channel.name)

/-- The sink takes or rejects a sample. -/
def store (d : Dispatcher) (x : Sample) (b : Bridge) : Bridge :=
  match b.write d.sink x with
  | (.ok (), b) => b.metered (·.countDispatched d.profile.channel.name)
  | (.error _, b) => d.failure b

/-- The dispatcher's last act. -/
def quit (d : Dispatcher) (b : Bridge) : Bridge :=
  (b.leave d.stream).metered (·.addSubscriptions (-1))

def turn (chance : Nat) (d : Dispatcher) (b : Bridge) : Turn Dispatcher Unit :=
  match d.phase with
  | .writing x => .next { d with phase := .idle } (d.store x b)
  | .idle =>
    let ready := b.broker.isOver d.stream || !(b.broker.waiting d.stream).isEmpty
    if tokenFirst chance (b.isFired d.token) ready then .done () (d.quit b)
    else match b.read? d.stream with
      | some (m, b) =>
        match Telemetry.sample? d.profile m b.now with
        | some x => .next { d with phase := .writing x } b
        | none => .next d (d.failure b)
      | none => if b.broker.isOver d.stream then .done () (d.quit b) else .wait

end Dispatcher

namespace Refresher

/-- Whether a subject has a running dispatcher. -/
def serves (r : Refresher) (b : Bridge) (subject : String) : Bool :=
  (r.dispatchers.get? subject).any b.isRunning

/-- The subjects with a running dispatcher, in increasing order. -/
def active (r : Refresher) (b : Bridge) : List String :=
  r.dispatchers.keys.filter (r.serves b)

/-- Sees to one subject of a pass. -/
def visit (subject : String) (s : Refresher × RefreshReport × Bridge) :
    Refresher × RefreshReport × Bridge :=
  let (r, report, b) := s
  if r.serves b subject then s
  else match b.subscribe r.link subject with
    | (.error _, b) => (r, { report with failed := report.failed ++ [subject] }, b)
    | (.ok stream, b) =>
      let (i, b) := (b.metered (·.addSubscriptions 1)).spawn
        (.dispatcher ⟨r.profile, r.sink, stream, r.token, .idle⟩)
      ({ r with dispatchers := r.dispatchers.put subject i },
        { report with created := report.created ++ [subject] }, b)

/-- A whole pass without anything in between. -/
def pass (r : Refresher) (b : Bridge) : Refresher × RefreshReport × Bridge :=
  r.profile.subjects.foldl (fun s subject => visit subject s) (r, RefreshReport.empty, b)

/-- A bus counts as lost once it is down and no dispatcher runs. -/
def busLost (r : Refresher) (b : Bridge) : Bool :=
  !b.isConnected r.link && (r.active b).isEmpty

end Refresher

namespace Refreshing

/-- Stops the dispatchers; their end is waited for. -/
def shut (e : Ending) (r : Refreshing) (b : Bridge) : Turn Refreshing Ending :=
  .next { r with phase := .closing e } (b.fire r.refresher.token)

def turn (chance : Nat) (r : Refreshing) (b : Bridge) : Turn Refreshing Ending :=
  match r.phase with
  | .resting =>
    let due := decide (r.ticker.due ≤ b.now)
    if tokenFirst chance (b.isFired r.token) due then r.shut .cancelled b
    else if !due then .wait
    else
      let r := { r with ticker := r.ticker.next b.now }
      if r.refresher.busLost b then r.shut .lost b else .next { r with phase := .connecting } b
  | .connecting =>
    let b := if b.sinkConnected r.refresher.sink then b else (b.connectSink r.refresher.sink).2
    .next { r with phase := .passing r.refresher.profile.subjects .empty } b
  | .passing (subject :: rest) report =>
    let (refresher, report, b) := Refresher.visit subject (r.refresher, report, b)
    .next { r with refresher := refresher, phase := .passing rest report } b
  | .passing [] _ => .next { r with phase := .resting } b
  | .closing e =>
    if r.refresher.dispatchers.any fun d => b.isRunning d.2 then .wait else .done e b

end Refreshing
end FleetBridge
