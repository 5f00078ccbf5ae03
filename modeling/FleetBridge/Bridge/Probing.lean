import FleetBridge.Bridge.Requests

/-!
Turns of probe cycles and of the prober. Nothing is evicted and no status is written before every
probe of the cycle has ended.
-/
namespace FleetBridge

namespace Cycle

open Probe

/-- How a probe ended. Silence means something only while the link is up. -/
def outcome (l : Link) (b : Bridge) : Except BusFault Payload → Outcome
  | .ok _ => .healthy
  | .error f => if f.isNoReply && b.isConnected l then .unresponsive else .failed f

/-- Sends the probe of an entry. -/
def ask (c : Cycle) (e : Roster.Entry) (b : Bridge) : Except BusFault Exchange × Bridge :=
  b.ask c.link (Subject.probe e.unit.unitId) (Payload.ofText e.unit.unitId) c.settings.timeout

/-- One of the probes that are at their end, as chance has it. -/
def pick? (chance : Nat) (underway : List (Roster.Entry × Exchange)) (b : Bridge) :
    Option (Roster.Entry × Exchange) :=
  let ready := underway.filter fun u => b.isSettled u.2
  ready[chance % ready.length]?

/-- The entries of which the first may be asked now. -/
def admitted (c : Cycle) (pending : List Roster.Entry) (underway : Nat) : List Roster.Entry :=
  if underway < c.width then pending else []

def turn (chance : Nat) (c : Cycle) (b : Bridge) : Turn Cycle Report :=
  let go (p : Phase) (b : Bridge) : Turn Cycle Report := .next { c with phase := p } b
  match c.phase with
  | .starting =>
    if b.isConnected c.link then go (.probing b.roster.entries [] []) b else .done .skip b
  | .probing [] [] results =>
    let s := Settlement.of b.roster b.meters results
    let r := s.report results.length
    go (.writing r r.statuses) { b with roster := s.roster, meters := s.meters }
  | .probing pending underway results =>
    match c.admitted pending underway.length with
    | e :: rest =>
      match c.ask e b with
      | (.ok x, b) => go (.probing rest (underway ++ [(e, x)]) results) b
      | (.error f, b) =>
        go (.probing rest underway (results ++ [(e, outcome c.link b (.error f))])) b
    | [] =>
      match pick? chance underway b with
      | none => .wait
      | some u =>
        let (answer, b) := b.collect u.2
        go (.probing pending (underway.filter fun v => v.2 ≠ u.2)
          (results ++ [(u.1, outcome c.link b answer)])) b
  | .writing r ((event, status) :: rest) =>
    go (.writing r rest) { b with statuses := b.statuses.write event status }
  | .writing r [] => go (.counting r) b
  | .counting r =>
    .done r (b.metered fun m => (m.addEvictions r.evicted.length).setLiveEvents r.live).meterRoster

end Cycle

namespace Prober

def turn (chance : Nat) (p : Prober) (b : Bridge) : Turn Prober Unit :=
  match p.phase with
  | .resting =>
    let due := decide (p.ticker.due ≤ b.now)
    if tokenFirst chance (b.isFired p.token) due then .done () b
    else if due then
      .next { p with
        ticker := p.ticker.next b.now
        phase := .cycling (Cycle.start p.link p.settings) } b
    else .wait
  | .cycling c =>
    (c.turn chance b).andThen (fun c => { p with phase := .cycling c })
      fun _ b => .next { p with phase := .resting } b

end Prober
end FleetBridge
