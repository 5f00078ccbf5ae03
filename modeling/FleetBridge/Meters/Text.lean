import FleetBridge.Decimal.Layout
import FleetBridge.Json.Basic
import FleetBridge.Meters.Basic

/-!
The meters as text for a collector: the families in the order of their names, each with its help,
its type and a line per reading. A family without any reading is left out.
-/
namespace FleetBridge.Meters

inductive Kind where
  | counter
  | gauge
  deriving DecidableEq, Repr

def Kind.name : Kind → String
  | counter => "counter"
  | gauge => "gauge"

structure Family where
  name : String
  help : String
  kind : Kind
  labels : List String
  /-- Readings under the values of the labels. -/
  readings : List (List String × Int)

def counters (name help : String) (labels : List String) (c : Counters) : Family :=
  ⟨name, help, .counter, labels, c.map fun r => (r.1, r.2.toNat)⟩

def single (name help : String) (kind : Kind) (reading : Int) : Family :=
  ⟨name, help, kind, [], [([], reading)]⟩

/-- The families in the order of their names. -/
def families (m : Meters) : List Family := [
  counters "connect_attempts_total" "Bus and sink connection attempts by target and outcome"
    ["outcome", "target"] m.connectAttempts,
  counters "dispatched_messages_total" "Telemetry messages written to the sink per channel"
    ["channel"] m.dispatched,
  single "live_events" "Events marked live by the last probe cycle" .gauge m.liveEvents.toInt,
  counters "probes_total" "Liveness probes by outcome" ["outcome"] m.probes,
  single "registered_units" "Units currently registered" .gauge m.registeredUnits.toInt,
  counters "registrations_total" "Unit registration messages by outcome" ["outcome"]
    m.registrations,
  counters "sink_write_failures_total"
    "Telemetry messages that could not be decoded or written per channel" ["channel"]
    m.sinkFailures,
  single "subscriptions_active" "Telemetry subscriptions held by channel workers" .gauge
    m.subscriptions.toInt,
  single "unit_evictions_total" "Units evicted after an unanswered probe" .counter
    m.evictions.toNat]

/-- A label's value with quotes, backslashes and line ends escaped. -/
def labelText (value : String) : String :=
  String.ofList (value.toList.flatMap fun c =>
    if c = '\\' then ['\\', '\\'] else if c = '"' then ['\\', '"']
    else if c = '\n' then ['\\', 'n'] else [c])

def labelsText (labels values : List String) : String :=
  if labels.isEmpty then ""
  else
    let pairs := (labels.zip values).map fun p => p.1 ++ "=\"" ++ labelText p.2 ++ "\""
    "\x7b" ++ String.intercalate "," pairs ++ "\x7d"

/-- Readings are shown as doubles. -/
def readingText (n : Int) : String := Decimal.Layout.reading.text (Json.Number.int n).toFloat

def Family.line (f : Family) (r : List String × Int) : String :=
  f.name ++ labelsText f.labels r.1 ++ " " ++ readingText r.2

def Family.lines (f : Family) : List String :=
  if f.readings.isEmpty then []
  else ("# HELP " ++ f.name ++ " " ++ f.help) :: ("# TYPE " ++ f.name ++ " " ++ f.kind.name) ::
    f.readings.map f.line

def lines (m : Meters) : List String := m.families.flatMap Family.lines

def text (m : Meters) : String := String.join (m.lines.map (· ++ "\n"))

/-- The four readings that tell at a glance how the bridge is. -/
def summary (m : Meters) : Json.Members :=
  [("registered_units", .number (.int m.registeredUnits.toInt)),
    ("live_events", .number (.int m.liveEvents.toInt)),
    ("subscriptions_active", .number (.int m.subscriptions.toInt)),
    ("unit_evictions_total", .number (.int m.evictions.toNat))]

end FleetBridge.Meters
