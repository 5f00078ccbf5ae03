import FleetBridge.Probe.Cycle
import FleetBridge.Registration.Basic
import FleetBridge.Telemetry.Refresh

/-!
Who keeps the services running: a bootstrap connects what a service needs, a worker keeps one
channel's refresher running, the control plane keeps a listener and a prober running, and the
supervisor starts them all.
-/
namespace FleetBridge

namespace Bootstrap

/-- What is done next. -/
inductive Phase where
  | dialling
  | connecting
  | resting (wake : Instant)
  deriving DecidableEq, Repr

end Bootstrap

/-- Connects a link, and a sink if one is named, until both are up; what is up is kept. -/
structure Bootstrap where
  sink : Option SinkId
  backoff : Backoff
  token : Token
  link : Option Link
  attempt : Nat
  phase : Bootstrap.Phase

def Bootstrap.start (sink : Option SinkId) (b : Backoff) (t : Token) : Bootstrap :=
  ⟨sink, b, t, none, 0, .dialling⟩

/-- What all services go by. -/
structure Plan where
  probe : ProbeSettings
  refreshPeriod : Duration
  backoff : Backoff

namespace Worker

inductive Phase where
  | connecting (b : Bootstrap)
  | refreshing (r : Refreshing)
  | resting (wake : Instant)

end Worker

structure Worker where
  profile : Profile
  sink : SinkId
  token : Token
  plan : Plan
  /-- How often a bus was lost. -/
  losses : Nat
  phase : Worker.Phase

def Worker.connect (w : Worker) : Worker :=
  { w with phase := .connecting (Bootstrap.start (some w.sink) w.plan.backoff w.token) }

def Worker.start (p : Profile) (sink : SinkId) (t : Token) (plan : Plan) : Worker :=
  ⟨p, sink, t, plan, 0, .connecting (Bootstrap.start (some sink) plan.backoff t)⟩

namespace ControlPlane

inductive Phase where
  | connecting (b : Bootstrap)
  | listening (l : Listener) (prober : TaskId) (plane : Token)
  | joining (prober : TaskId) (e : Ending)
  | resting (wake : Instant)

end ControlPlane

structure ControlPlane where
  token : Token
  plan : Plan
  /-- How often the subscription was lost. -/
  losses : Nat
  phase : ControlPlane.Phase

def ControlPlane.connect (c : ControlPlane) : ControlPlane :=
  { c with phase := .connecting (Bootstrap.start none c.plan.backoff c.token) }

def ControlPlane.start (t : Token) (plan : Plan) : ControlPlane :=
  ⟨t, plan, 0, .connecting (Bootstrap.start none plan.backoff t)⟩

/-- A channel to serve and the sink it writes to. -/
structure Assignment where
  profile : Profile
  sink : SinkId

namespace Supervisor

inductive Phase where
  | starting
  | joining (workers : List TaskId)
  deriving DecidableEq, Repr

end Supervisor

structure Supervisor where
  assignments : List Assignment
  token : Token
  plan : Plan
  phase : Supervisor.Phase

def Supervisor.start (a : List Assignment) (t : Token) (plan : Plan) : Supervisor :=
  ⟨a, t, plan, .starting⟩

end FleetBridge
