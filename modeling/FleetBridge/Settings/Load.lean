import FleetBridge.Settings.Basic
import FleetBridge.Settings.Value

/-!
Settings from an environment. The checks come in a fixed order and the first that fails decides; a
blank value counts as none.
-/
namespace FleetBridge.Settings

abbrev Environment := String → Option String

abbrev Loaded (α : Type) := Except SettingFault α

/-- The value of a variable, if it is set and not blank. -/
def given (env : Environment) (name : String) : Option String :=
  (env name).filter fun s => !Text.isBlank s

/-- Reads a variable if it is given. -/
def read {α : Type} (env : Environment) (name : String) (parse : Setting.Read α) (fallback : α) :
    Loaded α :=
  match given env name with
  | none => .ok fallback
  | some s => match parse s with
    | .ok x => .ok x
    | .error flaw => .error (.invalid name s flaw)

/-- Reads a variable, or a text that stands for it. -/
def readOr {α : Type} (env : Environment) (name : String) (parse : Setting.Read α)
    (fallback : String) : Loaded α :=
  let s := (given env name).getD fallback
  match parse s with
  | .ok x => .ok x
  | .error flaw => .error (.invalid name s flaw)

def require (env : Environment) (name : String) : Loaded String :=
  match given env name with
  | some s => .ok s
  | none => .error (.missing name)

def loadSelection (env : Environment) : Loaded Channel.Selection := do
  let s ← require env "TELEMATIC_CHANNEL"
  match Channel.Selection.ofText? s with
  | some c => .ok c
  | none => .error (.selection s)

def busSchemes : List String := ["nats", "tls", "ws", "wss"]

def sinkSchemes : List String := ["http", "https"]

def loadBusUrl (env : Environment) : Loaded Url :=
  readOr env "TELEMATIC_NATS_URL" (Setting.url busSchemes) "nats://127.0.0.1:4222"

def loadReconnects (env : Environment) : Loaded (Option Nat) :=
  read env "TELEMATIC_NATS_MAX_RECONNECTS" Setting.reconnects none

def loadSinkUrl (env : Environment) : Loaded Url :=
  readOr env "TELEMATIC_INFLUX_URL" (Setting.url sinkSchemes) "http://127.0.0.1:8086"

/-- The name of a channel's own variable. -/
def channelVariable (c : Channel) (what : String) : String :=
  "TELEMATIC_" ++ c.token ++ "_" ++ what

def loadProfile (env : Environment) (c : Channel) : Loaded Profile := do
  let subject ← read env (channelVariable c "SUBJECT") Setting.subject c.name
  .ok {
    channel := c
    subject := subject
    unitIds := ((given env (channelVariable c "UNIT_IDS")).map Setting.unitIds).getD []
    bucket := ((given env (channelVariable c "BUCKET")).map Text.trim).getD (c.name ++ "-bucket") }

def millis (env : Environment) (name : String) (fallback : Nat) : Loaded Duration :=
  read env name Setting.millis (Duration.ofMillis fallback)

def loadProbe (env : Environment) : Loaded ProbeSettings := do
  let period ← millis env "TELEMATIC_PROBE_PERIOD_MS" 5000
  let timeout ← millis env "TELEMATIC_PROBE_TIMEOUT_MS" 2000
  let concurrency ← read env "TELEMATIC_PROBE_CONCURRENCY" Setting.count 64
  .ok ⟨period, timeout, concurrency⟩

/-- The bound on waits must not lie below the first wait. -/
def loadRetry (env : Environment) : Loaded RetrySettings := do
  let first ← millis env "TELEMATIC_CONNECT_RETRY_MS" 100
  let most ← millis env "TELEMATIC_CONNECT_RETRY_MAX_MS" 30000
  let factor ← read env "TELEMATIC_CONNECT_RETRY_FACTOR" Setting.factor 2.0
  if most < first then
    .error (.invalid "TELEMATIC_CONNECT_RETRY_MAX_MS" (toString (most / Duration.perMilli))
      .belowInitialDelay)
  else .ok ⟨first, most, factor⟩

def load (env : Environment) : Loaded Settings := do
  let selection ← loadSelection env
  let busUrl ← loadBusUrl env
  let reconnects ← loadReconnects env
  let sinkUrl ← loadSinkUrl env
  let profiles ← Channel.all.mapM (loadProfile env)
  let probe ← loadProbe env
  let refreshPeriod ← millis env "TELEMATIC_REFRESH_PERIOD_MS" 30000
  let retry ← loadRetry env
  let listenAddress ← readOr env "TELEMATIC_HTTP_ADDR" Setting.listenAddress "0.0.0.0:8080"
  let databaseUrl ← require env "DATABASE_URL"
  .ok {
    selection := selection
    bus := ⟨busUrl, reconnects⟩
    sink := ⟨sinkUrl, (given env "TELEMATIC_INFLUX_ORG").getD "",
      (given env "TELEMATIC_INFLUX_TOKEN").getD ""⟩
    profiles := profiles
    probe := probe
    refreshPeriod := refreshPeriod
    retry := retry
    listenAddress := listenAddress
    databaseUrl := databaseUrl
    logFormat := (given env "TELEMATIC_LOG_FORMAT").map fun s =>
      Text.asciiLower (Text.trim s) }

end FleetBridge.Settings
