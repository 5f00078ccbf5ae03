import FleetBridge.Bridge.Supervising

/-!
Running the tasks. Whoever picks the task of the next turn at will gets every possible order of
events; the schedule here takes the task that was woken first, and moves the time on only when all
tasks wait.
-/
namespace FleetBridge

def Program.turn (chance : Nat) (p : Program) (b : Bridge) : Turn Program Exit :=
  match p with
  | responder r => (r.turn b).map responder fun _ => .done
  | request r => (r.turn b).map request .answered
  | registration r => (r.turn b).map registration .registered
  | listener l => (l.turn chance b).map listener .ended
  | cycle c => (c.turn chance b).map cycle .probed
  | prober p => (p.turn chance b).map prober fun _ => .done
  | dispatcher d => (d.turn chance b).map dispatcher fun _ => .done
  | refreshing r => (r.turn chance b).map refreshing .ended
  | bootstrap s => (s.turn chance b).map bootstrap .connected
  | worker w => (w.turn chance b).map worker fun _ => .done
  | control c => (c.turn chance b).map control fun _ => .done
  | supervisor s => (s.turn b).map supervisor fun _ => .done
  | alarm wake t => if wake ≤ b.now then .done .done (b.fire t) else .wait
  | finished _ => .wait

namespace Bridge

/-- A turn of one task; none if it waits. -/
def turn? (chance : Nat) (i : TaskId) (b : Bridge) : Option Bridge :=
  match b.program? i with
  | none => none
  | some p =>
    match p.turn chance b with
    | .wait => none
    | .next p b => some (b.become i p)
    | .done e b => some (b.finish i e)

/-- Turns of one task until it waits. What it did itself does not wake it again. -/
def advance (i : TaskId) : Nat → Bridge → Bridge
  | 0, b => b
  | turns + 1, b =>
    match b.turn? 0 i with
    | none => { b with queue := b.queue.filter (· ≠ i) }
    | some b => advance i turns b

/-- How many turns in a row the schedule gives at most: to one task, and to all before time moves
on. -/
def patience : Nat := Nat.pow 10 6

/-- Runs the tasks in the queue until it is empty. -/
def settleFor : Nat → Bridge → Bridge
  | 0, b => b
  | rounds + 1, b =>
    match b.queue with
    | [] => b
    | i :: rest => settleFor rounds (advance i patience { b with queue := rest })

def settle (b : Bridge) : Bridge := settleFor patience b

/-- The next instant at which a task goes on by itself. -/
def nextDeadline? (b : Bridge) : Option Instant := (b.tasks.flatMap fun t => t.2.deadlines).min?

/-- Moves the time on and runs the tasks that are due. -/
def moveTo (t : Instant) (b : Bridge) : Bridge :=
  let now := max b.now t
  let due := b.tasks.filter fun p => p.2.deadlines.any (· ≤ now) && p.1 ∉ b.queue
  settle { b with now := now, queue := b.queue ++ due.map Prod.fst }

/-- Lets time pass until `t`, with everything that falls due on the way. -/
def passFor : Nat → Instant → Bridge → Bridge
  | 0, _, b => b
  | steps + 1, t, b =>
    match b.nextDeadline? with
    | none => b.moveTo t
    | some d => if t < d then b.moveTo t else passFor steps t (b.moveTo d)

def pass (t : Instant) (b : Bridge) : Bridge := passFor patience t b

def exit? (i : TaskId) (b : Bridge) : Option Exit :=
  match b.program? i with
  | some (.finished e) => some e
  | _ => none

def forget (i : TaskId) (b : Bridge) : Bridge := { b with tasks := b.tasks.erase i }

/-- Lets time pass until a task is at its end. -/
def awaitFor (i : TaskId) : Nat → Bridge → Option Exit × Bridge
  | 0, b => (none, b)
  | steps + 1, b =>
    match b.exit? i with
    | some e => (some e, b.forget i)
    | none =>
      match b.nextDeadline? with
      | none => (none, b)
      | some d => awaitFor i steps (b.moveTo d)

/-- Runs a program to its end, ahead of the tasks that were woken before. -/
def perform (p : Program) (b : Bridge) : Option Exit × Bridge :=
  let (i, b) := b.spawn p
  awaitFor i patience (settle { b with queue := i :: b.queue.filter (· ≠ i) })

/-- Starts a program and runs all tasks until they wait. -/
def launch (p : Program) (b : Bridge) : TaskId × Bridge :=
  let (i, b) := b.spawn p
  (i, settle b)

end Bridge
end FleetBridge
