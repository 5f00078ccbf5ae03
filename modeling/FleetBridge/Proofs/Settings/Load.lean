import FleetBridge.Proofs.Settings.Values
import FleetBridge.Settings.Load

/-!
What is known of settings that were loaded, whatever the environment.
-/
namespace FleetBridge

/-- A profile that a channel can run with. -/
structure Profile.Fit (p : Profile) : Prop where
  units : Setting.Listed p.unitIds
  bucket : p.bucket ≠ ""
  subject : Setting.Between p.subject

/-- Probe cycles have a period, probes a time to be answered in, and some may be under way. -/
structure ProbeSettings.Runs (p : ProbeSettings) : Prop where
  period : 0 < p.period
  timeout : 0 < p.timeout
  concurrency : 1 ≤ p.concurrency

/-- Waits before another attempt to connect grow from a first one up to a bound. -/
structure RetrySettings.Grows (r : RetrySettings) : Prop where
  first : 0 < r.first
  bound : r.first ≤ r.most
  factor : Setting.Grows r.factor

/-- Settings that a bridge can run with. -/
structure Settings.Sound (s : Settings) : Prop where
  probe : s.probe.Runs
  refresh : 0 < s.refreshPeriod
  retry : s.retry.Grows
  bus : Setting.Reaches ["nats", "tls", "ws", "wss"] s.bus.url
  sink : Setting.Reaches ["http", "https"] s.sink.url
  channels : s.profiles.map Profile.channel = Channel.all
  filed : ∀ c, ∃ p ∈ s.profiles, s.profile? c = some p ∧ p.channel = c
  profiles : ∀ p ∈ s.profiles, p.Fit
  database : Text.isBlank s.databaseUrl = false
  active : s.active.map some = s.selection.channels.map s.profile?

namespace Settings

variable {α β : Type} {env : Environment} {name : String}

theorem bind_eq_ok {x : Loaded α} {f : α → Loaded β} {y : β} :
    x >>= f = .ok y ↔ ∃ a, x = .ok a ∧ f a = .ok y := by
  cases x with
  | error e => exact ⟨nofun, fun ⟨_, h, _⟩ => nomatch h⟩
  | ok a => exact ⟨fun h => ⟨a, rfl, h⟩, fun ⟨_, h, hf⟩ => Except.ok.inj h ▸ hf⟩

/-! Variables. -/

theorem isBlank_of_given {s : String} (h : given env name = some s) : Text.isBlank s = false := by
  obtain ⟨-, hblank⟩ := Option.filter_eq_some_iff.mp h
  simpa using hblank

theorem of_read {P : α → Prop} {parse : Setting.Read α} {fallback x : α} (hfallback : P fallback)
    (hparse : ∀ {s x}, parse s = .ok x → P x) (h : read env name parse fallback = .ok x) : P x := by
  unfold read at h
  split at h
  next =>
    cases h
    exact hfallback
  next s _ =>
    split at h
    next y hy =>
      cases h
      exact hparse hy
    next => cases h

theorem of_readOr {P : α → Prop} {parse : Setting.Read α} {fallback : String} {x : α}
    (hparse : ∀ {s x}, parse s = .ok x → P x) (h : readOr env name parse fallback = .ok x) :
    P x := by
  unfold readOr at h
  simp only at h
  split at h
  next y hy =>
    cases h
    exact hparse hy
  next => cases h

theorem isBlank_of_require {s : String} (h : require env name = .ok s) :
    Text.isBlank s = false := by
  unfold require at h
  split at h
  next hgiven =>
    cases h
    exact isBlank_of_given hgiven
  next => cases h

theorem millis_pos {fallback : Nat} {d : Duration} (hfallback : 0 < fallback)
    (h : millis env name fallback = .ok d) : 0 < d :=
  of_read (Nat.mul_pos hfallback (by decide)) Setting.millis_pos h

/-! Groups of variables. -/

theorem between_name (c : Channel) : Setting.Between c.name := by
  cases c <;> exact ⟨by simp [Channel.name], ⟨by simp [Channel.name], by simp [Channel.name]⟩⟩

theorem loadProfile_fit {c : Channel} {p : Profile} (h : loadProfile env c = .ok p) :
    p.channel = c ∧ p.Fit := by
  unfold loadProfile at h
  obtain ⟨subject, hsubject, h⟩ := bind_eq_ok.mp h
  cases h
  refine ⟨rfl, ?_, ?_, of_read (between_name c) Setting.subject_between hsubject⟩
  · cases given env (channelVariable c "UNIT_IDS") with
    | none => exact Setting.listed_nil
    | some s => exact Setting.listed_unitIds s
  · cases hbucket : given env (channelVariable c "BUCKET") with
    | none =>
      change c.name ++ "-bucket" ≠ ""
      cases c <;> decide
    | some s =>
      change Text.trim s ≠ ""
      rw [Ne, Text.trim_eq_empty_iff, isBlank_of_given hbucket]
      exact Bool.false_ne_true

theorem loadProbe_runs {p : ProbeSettings} (h : loadProbe env = .ok p) : p.Runs := by
  unfold loadProbe at h
  obtain ⟨period, hperiod, h⟩ := bind_eq_ok.mp h
  obtain ⟨timeout, htimeout, h⟩ := bind_eq_ok.mp h
  obtain ⟨concurrency, hconcurrency, h⟩ := bind_eq_ok.mp h
  cases h
  exact ⟨millis_pos (by decide) hperiod, millis_pos (by decide) htimeout,
    of_read (P := fun n => 0 < n) (by decide) Setting.positive_pos hconcurrency⟩

theorem grows_two : Setting.Grows 2.0 := ⟨by decide +kernel, by decide +kernel⟩

theorem loadRetry_grows {r : RetrySettings} (h : loadRetry env = .ok r) :
    r.Grows := by
  unfold loadRetry at h
  obtain ⟨first, hfirst, h⟩ := bind_eq_ok.mp h
  obtain ⟨most, -, h⟩ := bind_eq_ok.mp h
  obtain ⟨factor, hfactor, h⟩ := bind_eq_ok.mp h
  split at h
  next => cases h
  next hbound =>
    cases h
    exact ⟨millis_pos (by decide) hfirst, Nat.le_of_not_lt hbound,
      of_read grows_two Setting.factor_grows hfactor⟩

theorem mapM_loadProfile {cs : List Channel} {ps : List Profile}
    (h : cs.mapM (loadProfile env) = .ok ps) :
    ps.map Profile.channel = cs ∧ ∀ p ∈ ps, p.Fit := by
  induction cs generalizing ps with
  | nil =>
    cases h
    exact ⟨rfl, List.forall_mem_nil _⟩
  | cons c cs ih =>
    rw [List.mapM_cons] at h
    obtain ⟨p, hp, h⟩ := bind_eq_ok.mp h
    obtain ⟨qs, hqs, h⟩ := bind_eq_ok.mp h
    cases h
    obtain ⟨hchannel, hfit⟩ := loadProfile_fit hp
    obtain ⟨hchannels, hfits⟩ := ih hqs
    exact ⟨by rw [List.map_cons, hchannel, hchannels], List.forall_mem_cons.mpr ⟨hfit, hfits⟩⟩

/-! The table of profiles. -/

theorem filed?_of_map {ps : List Profile} (h : ps.map Profile.channel = Channel.all) (c : Channel) :
    ∃ p ∈ ps, Profile.filed? ps c = some p ∧ p.channel = c := by
  have hmem : ∃ p ∈ ps, p.channel = c := by
    rw [← List.mem_map, h]
    cases c <;> decide
  obtain ⟨p, hp, hc⟩ := hmem
  cases hfiled : Profile.filed? ps c with
  | none =>
    have hnone := List.find?_eq_none.mp hfiled p (List.mem_reverse.mpr hp)
    exact absurd (decide_eq_true hc) hnone
  | some q =>
    have hq := List.find?_some hfiled
    exact ⟨q, List.mem_reverse.mp (List.mem_of_find?_eq_some hfiled), rfl, of_decide_eq_true hq⟩

theorem active_eq {s : Settings} (h : ∀ c, ∃ p ∈ s.profiles, s.profile? c = some p ∧ p.channel = c) :
    s.active.map some = s.selection.channels.map s.profile? := by
  rw [active]
  induction s.selection.channels with
  | nil => rfl
  | cons c cs ih =>
    obtain ⟨p, -, hp, -⟩ := h c
    rw [List.filterMap_cons_some hp, List.map_cons, ih, List.map_cons, hp]

/-- Settings each part of which was loaded. -/
structure Loads (env : Environment) (s : Settings) : Prop where
  selection : loadSelection env = .ok s.selection
  bus : loadBusUrl env = .ok s.bus.url
  reconnects : loadReconnects env = .ok s.bus.reconnects
  sink : loadSinkUrl env = .ok s.sink.url
  profiles : Channel.all.mapM (loadProfile env) = .ok s.profiles
  probe : loadProbe env = .ok s.probe
  refresh : millis env "TELEMATIC_REFRESH_PERIOD_MS" 30000 = .ok s.refreshPeriod
  retry : loadRetry env = .ok s.retry
  listenAddress :
    readOr env "TELEMATIC_HTTP_ADDR" Setting.listenAddress "0.0.0.0:8080" = .ok s.listenAddress
  database : require env "DATABASE_URL" = .ok s.databaseUrl

theorem loads_of_load {s : Settings} (h : load env = .ok s) : Loads env s := by
  unfold load at h
  obtain ⟨selection, hselection, h⟩ := bind_eq_ok.mp h
  obtain ⟨busUrl, hbus, h⟩ := bind_eq_ok.mp h
  obtain ⟨reconnects, hreconnects, h⟩ := bind_eq_ok.mp h
  obtain ⟨sinkUrl, hsink, h⟩ := bind_eq_ok.mp h
  obtain ⟨profiles, hprofiles, h⟩ := bind_eq_ok.mp h
  obtain ⟨probe, hprobe, h⟩ := bind_eq_ok.mp h
  obtain ⟨refreshPeriod, hrefresh, h⟩ := bind_eq_ok.mp h
  obtain ⟨retry, hretry, h⟩ := bind_eq_ok.mp h
  obtain ⟨listenAddress, hlisten, h⟩ := bind_eq_ok.mp h
  obtain ⟨databaseUrl, hdatabase, h⟩ := bind_eq_ok.mp h
  cases h
  exact ⟨hselection, hbus, hreconnects, hsink, hprofiles, hprobe, hrefresh, hretry, hlisten,
    hdatabase⟩

/-- Whatever environment settings are loaded from, a bridge can run with them. -/
theorem sound_of_load {s : Settings} (h : load env = .ok s) : s.Sound := by
  have hloads := loads_of_load h
  obtain ⟨hchannels, hfit⟩ := mapM_loadProfile hloads.profiles
  have hfiled := filed?_of_map hchannels
  exact {
    probe := loadProbe_runs hloads.probe
    refresh := millis_pos (by decide) hloads.refresh
    retry := loadRetry_grows hloads.retry
    bus := of_readOr Setting.url_reaches hloads.bus
    sink := of_readOr Setting.url_reaches hloads.sink
    channels := hchannels
    filed := hfiled
    profiles := hfit
    database := isBlank_of_require hloads.database
    active := active_eq hfiled }

/-- An environment with a variable of each kind that need not be given. -/
def fleet (name : String) : Option String :=
  match name with
  | "TELEMATIC_CHANNEL" => some " all"
  | "DATABASE_URL" => some "postgres://db/fleet"
  | "TELEMATIC_NATS_URL" => some "tls://bus"
  | "TELEMATIC_STREETS_UNIT_IDS" => some "RSU-1, RSU-2,, RSU-1"
  | "TELEMATIC_STREETS_SUBJECT" => some ".road.side."
  | "TELEMATIC_PROBE_PERIOD_MS" => some "+250"
  | "TELEMATIC_CONNECT_RETRY_FACTOR" => some "1.5"
  | _ => none

theorem fleet_sound : ∃ s, load fleet = .ok s ∧ s.Sound := by
  have hok : (load fleet).isOk = true := by decide +kernel
  cases hload : load fleet with
  | error e =>
    rw [hload] at hok
    cases hok
  | ok s => exact ⟨s, rfl, sound_of_load hload⟩

end Settings
end FleetBridge
