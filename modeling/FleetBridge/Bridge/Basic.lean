import FleetBridge.Bus.Responder
import FleetBridge.Directory
import FleetBridge.Sink.Memory
import FleetBridge.Supervision

/-!
The bridge and all it works with: the bus, the sinks, the event database, the roster, the meters,
and the tasks that run side by side. A task that waits is woken by what it waits for; those that
were woken stand in a queue.
-/
namespace FleetBridge

/-- What a task leaves behind at its end. -/
inductive Exit where
  | done
  | ended (e : Ending)
  | registered (o : Registration.Outcome)
  | probed (r : Probe.Report)
  | answered (r : Except BusFault Payload)
  | connected (l : Option Link)

/-- What a task is about. -/
inductive Program where
  | responder (r : Responder)
  | request (r : Request)
  | registration (r : Registration)
  | listener (l : Listener)
  | cycle (c : Cycle)
  | prober (p : Prober)
  | dispatcher (d : Dispatcher)
  | refreshing (r : Refreshing)
  | bootstrap (b : Bootstrap)
  | worker (w : Worker)
  | control (c : ControlPlane)
  | supervisor (s : Supervisor)
  /-- Fires a token when the time has come. -/
  | alarm (wake : Instant) (t : Token)
  | finished (e : Exit)

inductive Signal where
  /-- A message came in on a stream, or the stream ended. -/
  | arrival (s : StreamId)
  | fired (t : Token)
  | finished (i : TaskId)
  deriving DecidableEq, Repr

structure Bridge where
  now : Instant
  broker : Broker
  connections : List Connection
  dialler : Dialler
  sinks : List MemorySink
  directory : Directory
  statuses : StatusLog
  roster : Roster
  meters : Meters
  /-- The tokens that were fired. -/
  fired : List Token
  nextToken : Nat
  tasks : Table TaskId Program
  nextTask : TaskId
  /-- The tasks that were woken, the first one in front. -/
  queue : List TaskId

/-! What a task waits for. -/

namespace Program

def cycleStreams (c : Cycle) : List StreamId :=
  match c.phase with
  | .probing _ underway _ => underway.map fun u => u.2.inbox
  | _ => []

def listenerStreams (l : Listener) : List StreamId :=
  match l.phase with
  | .listening s => [s]
  | _ => []

def streams : Program → List StreamId
  | responder r => [r.stream]
  | request r => match r.phase with
    | .waiting e => [e.inbox]
    | .asking => []
  | listener l => listenerStreams l
  | cycle c => cycleStreams c
  | prober p => match p.phase with
    | .cycling c => cycleStreams c
    | .resting => []
  | dispatcher d => [d.stream]
  | control c => match c.phase with
    | .listening l _ _ => listenerStreams l
    | _ => []
  | _ => []

def tokens : Program → List Token
  | listener l => [l.token]
  | prober p => [p.token]
  | dispatcher d => [d.token]
  | refreshing r => [r.token]
  | bootstrap b => [b.token]
  | worker w => [w.token]
  | control c => match c.phase with
    | .listening l _ _ => [c.token, l.token]
    | _ => [c.token]
  | _ => []

def listenerAwaits (l : Listener) : List TaskId :=
  match l.phase with
  | .draining .. => l.handlers
  | _ => []

def refreshingAwaits (r : Refreshing) : List TaskId :=
  match r.phase with
  | .closing _ => r.refresher.dispatchers.map Prod.snd
  | _ => []

/-- The tasks whose end it waits for. -/
def awaited : Program → List TaskId
  | listener l => listenerAwaits l
  | refreshing r => refreshingAwaits r
  | worker w => match w.phase with
    | .refreshing r => refreshingAwaits r
    | _ => []
  | control c => match c.phase with
    | .listening l _ _ => listenerAwaits l
    | .joining i _ => [i]
    | _ => []
  | supervisor s => match s.phase with
    | .joining ws => ws
    | .starting => []
  | _ => []

def cycleDeadlines (c : Cycle) : List Instant :=
  match c.phase with
  | .probing _ underway _ => underway.map fun u => u.2.deadline
  | _ => []

def refreshingDeadlines (r : Refreshing) : List Instant :=
  match r.phase with
  | .resting => [r.ticker.due]
  | _ => []

def bootstrapDeadlines (b : Bootstrap) : List Instant :=
  match b.phase with
  | .resting t => [t]
  | _ => []

/-- The instants at which it goes on by itself. -/
def deadlines : Program → List Instant
  | request r => match r.phase with
    | .waiting e => [e.deadline]
    | .asking => []
  | cycle c => cycleDeadlines c
  | prober p => match p.phase with
    | .resting => [p.ticker.due]
    | .cycling c => cycleDeadlines c
  | refreshing r => refreshingDeadlines r
  | bootstrap b => bootstrapDeadlines b
  | worker w => match w.phase with
    | .connecting b => bootstrapDeadlines b
    | .refreshing r => refreshingDeadlines r
    | .resting t => [t]
  | control c => match c.phase with
    | .connecting b => bootstrapDeadlines b
    | .resting t => [t]
    | _ => []
  | alarm t _ => [t]
  | _ => []

def heeds (s : Signal) (p : Program) : Bool :=
  match s with
  | .arrival s => s ∈ p.streams
  | .fired t => p.tokens.any t.covers
  | .finished i => i ∈ p.awaited

def isOver : Program → Bool
  | finished _ => true
  | _ => false

end Program

namespace Bridge

/-- A bridge at rest, with one connection and one sink. -/
def start (events : Table String Event) (d : Dialler) (sinkFailures : Nat) : Bridge where
  now := 0
  broker := .empty
  connections := [.fresh]
  dialler := d
  sinks := [.start sinkFailures]
  directory := .ofEvents events
  statuses := .empty
  roster := .empty
  meters := .zero
  fired := []
  nextToken := 0
  tasks := []
  nextTask := 0
  queue := []

/-! Tasks, signals and tokens. -/

/-- Puts the tasks that wait for a signal into the queue. -/
def wake (s : Signal) (b : Bridge) : Bridge :=
  let woken := b.tasks.filter fun t => t.2.heeds s && t.1 ∉ b.queue
  { b with queue := b.queue ++ woken.map Prod.fst }

def spawn (p : Program) (b : Bridge) : TaskId × Bridge :=
  (b.nextTask, { b with
    tasks := b.tasks.put b.nextTask p
    nextTask := b.nextTask + 1
    queue := b.queue ++ [b.nextTask] })

def program? (i : TaskId) (b : Bridge) : Option Program := b.tasks.get? i

def isRunning (i : TaskId) (b : Bridge) : Bool := (b.program? i).any fun p => !p.isOver

def become (i : TaskId) (p : Program) (b : Bridge) : Bridge := { b with tasks := b.tasks.put i p }

def finish (i : TaskId) (e : Exit) (b : Bridge) : Bridge :=
  (b.become i (.finished e)).wake (.finished i)

def newToken (b : Bridge) : Token × Bridge :=
  (⟨b.nextToken, none⟩, { b with nextToken := b.nextToken + 1 })

/-- A new branch of a token. -/
def branch (t : Token) (b : Bridge) : Token × Bridge :=
  (⟨t.root, some b.nextToken⟩, { b with nextToken := b.nextToken + 1 })

def isFired (t : Token) (b : Bridge) : Bool := b.fired.any fun f => f.covers t

def fire (t : Token) (b : Bridge) : Bridge :=
  ({ b with fired := t :: b.fired }).wake (.fired t)

/-! The bus. -/

def connection? (l : Link) (b : Bridge) : Option Connection :=
  match l with
  | .working i => b.connections[i]?
  | .dead => none

/-- Changes a connection. -/
def amend (l : Link) (f : Connection → Connection) (b : Bridge) : Bridge :=
  match l with
  | .working i => { b with connections := b.connections.modify i f }
  | .dead => b

/-- Makes a connection. -/
def connect (b : Bridge) : Link × Bridge :=
  (.working b.connections.length, { b with connections := b.connections ++ [.fresh] })

def isConnected (l : Link) (b : Bridge) : Bool := (b.connection? l).any Connection.connected

def setConnected (l : Link) (up : Bool) (b : Bridge) : Bridge :=
  b.amend l fun c => { c with connected := up }

/-- One attempt to make a connection. -/
def dial (b : Bridge) : Option Link × Bridge :=
  match b.dialler.attempt with
  | (.failed, d) => (none, { b with dialler := d })
  | (.dead, d) => (some .dead, { b with dialler := d })
  | (.reached, d) =>
    let (l, b) := b.connect
    (some l, { b with dialler := { d with made := d.made ++ [l] } })

def deliver (m : Message) (b : Bridge) : Bridge :=
  (b.broker.receivers m).foldl (fun b s => b.wake (.arrival s))
    { b with broker := b.broker.deliver m }

def publish (l : Link) (subject : String) (p : Payload) (b : Bridge) :
    Except BusFault Unit × Bridge :=
  if b.isConnected l && Subject.isConcrete subject then (.ok (), b.deliver ⟨subject, none, p⟩)
  else
    let detail := if l = .dead then "connection closed"
      else "connection closed or subject invalid"
    (.error (.publish subject detail), b)

/-- A subscription on the broker itself. -/
def attend (pattern : String) (b : Bridge) : StreamId × Bridge :=
  let (s, broker) := b.broker.subscribe pattern
  (s, { b with broker := broker })

def subscribe (l : Link) (pattern : String) (b : Bridge) : Except BusFault StreamId × Bridge :=
  let closed : BusFault := .subscribe pattern "connection closed"
  match b.connection? l with
  | none => (.error closed, b)
  | some c =>
    if pattern ∈ c.refused then (.error (.subscribe pattern "refused"), b)
    else if !c.connected then (.error closed, b)
    else
      let (s, b) := b.attend pattern
      (.ok s, b.amend l fun c => { c with opened := (pattern, s) :: c.opened })

def read? (s : StreamId) (b : Bridge) : Option (Message × Bridge) :=
  (b.broker.read? s).map fun (m, broker) => (m, { b with broker := broker })

def leave (s : StreamId) (b : Bridge) : Bridge := { b with broker := b.broker.drop s }

/-- Ends a stream for its reader. -/
def close (s : StreamId) (b : Bridge) : Bridge :=
  ({ b with broker := b.broker.close s }).wake (.arrival s)

/-- Ends the stream that was subscribed last on a connection for a subject, each stream once. -/
def closeLast? (l : Link) (subject : String) (b : Bridge) : Option Bridge := do
  let s ← (← b.connection? l).last? subject
  some ((b.amend l (·.forget s)).close s)

/-! The sinks, the roster and the meters. -/

def addSink (failures : Nat) (b : Bridge) : SinkId × Bridge :=
  (b.sinks.length, { b with sinks := b.sinks ++ [.start failures] })

def sinkConnected (i : SinkId) (b : Bridge) : Bool := (b.sinks[i]?).any MemorySink.connected

def connectSink (i : SinkId) (b : Bridge) : Except SinkFault Unit × Bridge :=
  match b.sinks[i]? with
  | none => (.error .notConnected, b)
  | some s => let (r, s) := s.connect; (r, { b with sinks := b.sinks.set i s })

def write (i : SinkId) (x : Sample) (b : Bridge) : Except SinkFault Unit × Bridge :=
  match b.sinks[i]? with
  | none => (.error .notConnected, b)
  | some s => let (r, s) := s.write x; (r, { b with sinks := b.sinks.set i s })

def metered (f : Meters → Meters) (b : Bridge) : Bridge := { b with meters := f b.meters }

/-- Shows the size of the roster on its meter. -/
def meterRoster (b : Bridge) : Bridge := b.metered (·.setRegisteredUnits b.roster.size)

def after (d : Duration) (b : Bridge) : Instant := Instant.after b.now d

end Bridge
end FleetBridge
