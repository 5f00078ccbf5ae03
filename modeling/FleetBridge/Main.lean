import FleetBridge.Service

/-!
The command line: tells why the service would not come up in this environment, or what it would
serve.
-/
namespace FleetBridge

/-- The variables that settings are read from. -/
def settingNames : List String :=
  ["TELEMATIC_CHANNEL", "TELEMATIC_NATS_URL", "TELEMATIC_NATS_MAX_RECONNECTS",
    "TELEMATIC_INFLUX_URL", "TELEMATIC_INFLUX_ORG", "TELEMATIC_INFLUX_TOKEN",
    "TELEMATIC_PROBE_PERIOD_MS", "TELEMATIC_PROBE_TIMEOUT_MS", "TELEMATIC_PROBE_CONCURRENCY",
    "TELEMATIC_REFRESH_PERIOD_MS", "TELEMATIC_CONNECT_RETRY_MS", "TELEMATIC_CONNECT_RETRY_MAX_MS",
    "TELEMATIC_CONNECT_RETRY_FACTOR", "TELEMATIC_HTTP_ADDR", "DATABASE_URL",
    "TELEMATIC_LOG_FORMAT"] ++
  Channel.all.flatMap fun c =>
    ["SUBJECT", "UNIT_IDS", "BUCKET"].map (Settings.channelVariable c)

/-- One line for each subject that the service would subscribe to. -/
def Service.summary (s : Service) : List String :=
  s.sinks.flatMap fun (p, sink) => p.subjects.map fun subject =>
    p.channel.name ++ " " ++ subject ++ " " ++ sink.bucket

end FleetBridge

open FleetBridge in
def main : IO UInt32 := do
  let values ← settingNames.mapM fun name => do return (name, ← IO.getEnv name)
  let host : Host := ⟨fun name => (values.lookup name).join, false, fun _ => true⟩
  match (Service.bringUp host).1 with
  | .error f => do
    IO.eprintln (f.message ++ ": " ++ f.causeText)
    return 1
  | .ok s => do
    s.summary.forM IO.println
    return 0
