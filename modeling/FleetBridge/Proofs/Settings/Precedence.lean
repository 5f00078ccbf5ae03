import FleetBridge.Proofs.Settings.Load

/-!
Which of several faults of an environment is reported. The checks come in one order, each reads its
own variables, and the first that fails decides, whatever the variables of later checks hold.
-/
namespace FleetBridge

/-- The variable that a complaint is about. -/
def SettingFault.about : SettingFault → String
  | .missing name => name
  | .selection _ => "TELEMATIC_CHANNEL"
  | .invalid name _ _ => name

namespace Settings

/-- The checks that loading makes: of one variable each, and of the bound on waits. -/
inductive Check where
  | selection
  | busUrl
  | reconnects
  | sinkUrl
  | subject (c : Channel)
  | probePeriod
  | probeTimeout
  | concurrency
  | refreshPeriod
  | firstWait
  | longestWait
  | factor
  | waitBound
  | listenAddress
  | databaseUrl
  deriving DecidableEq, Repr

/-- What loading complains of, if it fails. -/
def complaint {α : Type} : Loaded α → Option SettingFault
  | .ok _ => none
  | .error e => some e

namespace Check

/-- The order in which the checks decide. -/
def order : List Check :=
  [selection, busUrl, reconnects, sinkUrl, subject .platform, subject .streets, subject .cloud,
    probePeriod, probeTimeout, concurrency, refreshPeriod, firstWait, longestWait, factor,
    waitBound, listenAddress, databaseUrl]

/-- The checks that come before one. -/
def earlier (c : Check) : List Check := order.takeWhile (· ≠ c)

/-- The variables that a check reads. -/
def inputs : Check → List String
  | selection => ["TELEMATIC_CHANNEL"]
  | busUrl => ["TELEMATIC_NATS_URL"]
  | reconnects => ["TELEMATIC_NATS_MAX_RECONNECTS"]
  | sinkUrl => ["TELEMATIC_INFLUX_URL"]
  | subject c => [channelVariable c "SUBJECT"]
  | probePeriod => ["TELEMATIC_PROBE_PERIOD_MS"]
  | probeTimeout => ["TELEMATIC_PROBE_TIMEOUT_MS"]
  | concurrency => ["TELEMATIC_PROBE_CONCURRENCY"]
  | refreshPeriod => ["TELEMATIC_REFRESH_PERIOD_MS"]
  | firstWait => ["TELEMATIC_CONNECT_RETRY_MS"]
  | longestWait => ["TELEMATIC_CONNECT_RETRY_MAX_MS"]
  | factor => ["TELEMATIC_CONNECT_RETRY_FACTOR"]
  | waitBound => ["TELEMATIC_CONNECT_RETRY_MAX_MS", "TELEMATIC_CONNECT_RETRY_MS"]
  | listenAddress => ["TELEMATIC_HTTP_ADDR"]
  | databaseUrl => ["DATABASE_URL"]

/-- What a check by itself has to complain of. The bound on waits is checked of two waits that can
be read. -/
def fault? (env : Environment) : Check → Option SettingFault
  | selection => complaint (loadSelection env)
  | busUrl => complaint (loadBusUrl env)
  | reconnects => complaint (loadReconnects env)
  | sinkUrl => complaint (loadSinkUrl env)
  | subject c => complaint (read env (channelVariable c "SUBJECT") Setting.subject c.name)
  | probePeriod => complaint (millis env "TELEMATIC_PROBE_PERIOD_MS" 5000)
  | probeTimeout => complaint (millis env "TELEMATIC_PROBE_TIMEOUT_MS" 2000)
  | concurrency => complaint (read env "TELEMATIC_PROBE_CONCURRENCY" Setting.count 64)
  | refreshPeriod => complaint (millis env "TELEMATIC_REFRESH_PERIOD_MS" 30000)
  | firstWait => complaint (millis env "TELEMATIC_CONNECT_RETRY_MS" 100)
  | longestWait => complaint (millis env "TELEMATIC_CONNECT_RETRY_MAX_MS" 30000)
  | factor => complaint (read env "TELEMATIC_CONNECT_RETRY_FACTOR" Setting.factor 2.0)
  | waitBound =>
    match millis env "TELEMATIC_CONNECT_RETRY_MS" 100,
      millis env "TELEMATIC_CONNECT_RETRY_MAX_MS" 30000 with
    | .ok first, .ok most =>
      if most < first then
        some (.invalid "TELEMATIC_CONNECT_RETRY_MAX_MS" (toString (most / Duration.perMilli))
          .belowInitialDelay)
      else none
    | _, _ => none
  | listenAddress =>
    complaint (readOr env "TELEMATIC_HTTP_ADDR" Setting.listenAddress "0.0.0.0:8080")
  | databaseUrl => complaint (require env "DATABASE_URL")

/-- All earlier checks pass and this one fails. -/
structure FailsFirst (env : Environment) (c : Check) (e : SettingFault) : Prop where
  earlier : ∀ b ∈ c.earlier, b.fault? env = none
  fails : c.fault? env = some e

end Check

/-- A variable that is not set, or set to blanks. -/
def Unset (value : Option String) : Prop := ∀ s ∈ value, Text.isBlank s = true

/-- Two environments have the same value for a variable, or neither has one. -/
def Agree (env env' : Environment) (name : String) : Prop :=
  env name = env' name ∨ Unset (env name) ∧ Unset (env' name)

variable {α β : Type} {env env' : Environment} {name : String}

/-! What is read of a variable. -/

theorem given_eq_none_iff : given env name = none ↔ Unset (env name) := by
  rw [given, Option.filter_eq_none_iff, Unset]
  simp

theorem Agree.given_eq (h : Agree env env' name) : given env name = given env' name := by
  rcases h with h | ⟨h, h'⟩
  · rw [given, given, h]
  · rw [given_eq_none_iff.mpr h, given_eq_none_iff.mpr h']

theorem read_congr (h : given env name = given env' name) (parse : Setting.Read α) (fallback : α) :
    read env name parse fallback = read env' name parse fallback := by
  rw [read, read, h]

theorem readOr_congr (h : given env name = given env' name) (parse : Setting.Read α)
    (fallback : String) : readOr env name parse fallback = readOr env' name parse fallback := by
  rw [readOr, readOr, h]

theorem require_congr (h : given env name = given env' name) :
    require env name = require env' name := by
  rw [require, require, h]

variable {x : Loaded α} {e : SettingFault}

/-! Complaints. -/

theorem complaint_eq_some_iff : complaint x = some e ↔ x = .error e := by
  cases x with
  | error e' => simp [complaint]
  | ok a => simp [complaint]

theorem complaint_eq_none_iff : complaint x = none ↔ ∃ a, x = .ok a := by
  cases x with
  | error e' => simp [complaint]
  | ok a => simp [complaint]

theorem complaint_bind (x : Loaded α) (f : α → Loaded β) :
    complaint (x >>= f) = match x with
      | .error e => some e
      | .ok a => complaint (f a) := by
  cases x <;> rfl

theorem complaint_read {parse : Setting.Read α} {fallback : α}
    (h : complaint (read env name parse fallback) = some e) : e.about = name := by
  rw [complaint_eq_some_iff, read] at h
  split at h
  next => cases h
  next s _ =>
    split at h
    next => cases h
    next => cases h; rfl

theorem complaint_readOr {parse : Setting.Read α} {fallback : String}
    (h : complaint (readOr env name parse fallback) = some e) : e.about = name := by
  rw [complaint_eq_some_iff, readOr] at h
  split at h
  next => cases h
  next => cases h; rfl

theorem complaint_require (h : complaint (require env name) = some e) : e.about = name := by
  rw [complaint_eq_some_iff, require] at h
  split at h
  next => cases h
  next => cases h; rfl

theorem complaint_loadSelection (h : complaint (loadSelection env) = some e) :
    e.about = "TELEMATIC_CHANNEL" := by
  rw [loadSelection, complaint_bind] at h
  split at h
  next e' hs =>
    cases h
    exact complaint_require (complaint_eq_some_iff.mpr hs)
  next s _ =>
    cases hword : Channel.Selection.ofText? s with
    | some c => simp [hword, complaint] at h
    | none =>
      simp only [hword, complaint, Option.some.injEq] at h
      rw [← h]
      rfl

namespace Check

variable {c : Check}

/-- Each complaint is about a variable that the check reads. -/
theorem about_mem_inputs (h : c.fault? env = some e) : e.about ∈ c.inputs := by
  cases c <;> simp only [fault?, loadBusUrl, loadReconnects, loadSinkUrl, millis] at h <;>
    simp only [inputs, List.mem_singleton]
  case selection => exact complaint_loadSelection h
  case busUrl | sinkUrl | listenAddress => exact complaint_readOr h
  case databaseUrl => exact complaint_require h
  case waitBound =>
    split at h
    next =>
      split at h
      next =>
        cases h
        exact List.mem_cons_self
      next => cases h
    next => cases h
  all_goals exact complaint_read h

/-- What a check complains of depends on what is given for its own variables. -/
theorem fault?_congr (h : ∀ name ∈ c.inputs, given env name = given env' name) :
    c.fault? env = c.fault? env' := by
  cases c <;> simp only [inputs, List.forall_mem_cons] at h <;>
    simp only [fault?, loadSelection, loadBusUrl, loadReconnects, loadSinkUrl, millis]
  case selection => rw [require_congr h.1]
  case busUrl | sinkUrl | listenAddress => rw [readOr_congr h.1]
  case databaseUrl => rw [require_congr h.1]
  case waitBound => rw [read_congr h.1, read_congr h.2.1]
  all_goals rw [read_congr h.1]

end Check

/-! Loading. -/

/-- Loading complains just as the first of some checks does that fails. -/
def Makes (env : Environment) (x : Loaded α) (cs : List Check) : Prop :=
  complaint x = cs.findSome? (Check.fault? env)

variable {cs ds : List Check} {f : α → Loaded β}

theorem makes_ok (a : α) : Makes env (.ok a) [] := rfl

theorem makes_one {c : Check} (h : c.fault? env = complaint x) : Makes env x [c] := by
  rw [Makes, List.findSome?_cons, h]
  cases complaint x <;> rfl

theorem Makes.bind (hx : Makes env x cs) (hf : ∀ a, x = .ok a → Makes env (f a) ds) :
    Makes env (x >>= f) (cs ++ ds) := by
  rw [Makes, List.findSome?_append, ← hx, complaint_bind]
  cases x with
  | error e => rfl
  | ok a => exact hf a rfl

theorem makes_loadProfile (env : Environment) (c : Channel) :
    Makes env (loadProfile env c) [.subject c] :=
  (makes_one (c := .subject c) rfl).bind fun _ _ => makes_ok _

theorem makes_profiles (env : Environment) (cs : List Channel) :
    Makes env (cs.mapM (loadProfile env)) (cs.map Check.subject) := by
  induction cs with
  | nil => exact makes_ok _
  | cons c cs ih =>
    rw [List.mapM_cons, List.map_cons, ← List.append_nil (cs.map Check.subject)]
    exact (makes_loadProfile env c).bind fun p _ => ih.bind fun ps _ => makes_ok (p :: ps)

theorem makes_loadProbe (env : Environment) :
    Makes env (loadProbe env) [.probePeriod, .probeTimeout, .concurrency] :=
  (makes_one (c := .probePeriod) rfl).bind fun _ _ =>
    (makes_one (c := .probeTimeout) rfl).bind fun _ _ =>
      (makes_one (c := .concurrency) rfl).bind fun _ _ => makes_ok _

theorem makes_loadRetry (env : Environment) :
    Makes env (loadRetry env) [.firstWait, .longestWait, .factor, .waitBound] := by
  refine (makes_one (c := .firstWait) rfl).bind fun first hfirst => ?_
  refine (makes_one (c := .longestWait) rfl).bind fun most hmost => ?_
  refine (makes_one (c := .factor) rfl).bind fun factor _ => makes_one ?_
  simp only [Check.fault?, hfirst, hmost]
  split <;> rfl

theorem makes_load (env : Environment) : Makes env (load env) Check.order := by
  unfold load
  refine (makes_one (c := .selection) (by rw [Check.fault?])).bind fun selection _ => ?_
  refine (makes_one (c := .busUrl) (by rw [Check.fault?])).bind fun busUrl _ => ?_
  refine (makes_one (c := .reconnects) (by rw [Check.fault?])).bind fun reconnects _ => ?_
  refine (makes_one (c := .sinkUrl) (by rw [Check.fault?])).bind fun sinkUrl _ => ?_
  refine (makes_profiles env Channel.all).bind fun profiles _ => ?_
  refine (makes_loadProbe env).bind fun probe _ => ?_
  refine (makes_one (c := .refreshPeriod) (by rw [Check.fault?])).bind fun refreshPeriod _ => ?_
  refine (makes_loadRetry env).bind fun retry _ => ?_
  refine (makes_one (c := .listenAddress) (by rw [Check.fault?])).bind fun listenAddress _ => ?_
  exact (makes_one (c := .databaseUrl) (by rw [Check.fault?])).bind fun databaseUrl _ => makes_ok _

theorem load_congr (h : given env = given env') : load env = load env' := by
  have hread {α : Type} (name : String) (parse : Setting.Read α) (fallback : α) :
      read env name parse fallback = read env' name parse fallback :=
    read_congr (congrFun h name) parse fallback
  have hreadOr {α : Type} (name : String) (parse : Setting.Read α) (fallback : String) :
      readOr env name parse fallback = readOr env' name parse fallback :=
    readOr_congr (congrFun h name) parse fallback
  have hrequire (name : String) : require env name = require env' name :=
    require_congr (congrFun h name)
  have hprofile : loadProfile env = loadProfile env' := by
    funext c
    rw [loadProfile, loadProfile, hread, h]
  simp only [load, loadSelection, loadBusUrl, loadReconnects, loadSinkUrl, loadProbe, loadRetry,
    millis, hread, hreadOr, hrequire, hprofile, h]

namespace Check

variable {c : Check}

/-- Before a check come the earlier ones and no others. -/
theorem exists_order_eq (c : Check) : ∃ later, order = c.earlier ++ c :: later := by
  refine ⟨(order.dropWhile (· ≠ c)).tail, ?_⟩
  cases c with
  | subject c => cases c <;> rfl
  | _ => rfl

theorem notMem_earlier (c : Check) : c ∉ c.earlier := by
  intro h
  have hne := List.mem_takeWhile_imp h
  simp at hne

/-- The checks stand in the order once each, so what stands before one is told by the check. -/
theorem earlier_eq {before later : List Check} (h : order = before ++ c :: later)
    (hc : c ∉ before) : c.earlier = before := by
  rw [earlier, h, List.takeWhile_append_of_pos, List.takeWhile_cons_of_neg (by simp),
    List.append_nil]
  intro b hb
  have hne : b ≠ c := fun he => hc (he ▸ hb)
  simpa using hne

/-- A check fails first in every environment that agrees on its variables and on those of the
checks before it. -/
theorem FailsFirst.congr (h : FailsFirst env c e)
    (hagree : ∀ b ∈ c.earlier ++ [c], ∀ name ∈ b.inputs, Agree env env' name) :
    FailsFirst env' c e := by
  have hfault (b : Check) (hb : b ∈ c.earlier ++ [c]) : b.fault? env' = b.fault? env :=
    fault?_congr fun name hname => (hagree b hb name hname).given_eq.symm
  constructor
  · intro b hb
    rw [hfault b (List.mem_append_left _ hb), h.earlier b hb]
  · rw [hfault c (List.mem_append_right _ List.mem_cons_self), h.fails]

theorem findSome?_order_iff :
    order.findSome? (fault? env) = some e ↔ ∃ c, FailsFirst env c e := by
  constructor
  · intro h
    obtain ⟨before, c, later, horder, hfails, hbefore⟩ := List.findSome?_eq_some_iff.mp h
    have hc : c ∉ before := fun hc => by
      rw [hbefore c hc] at hfails
      cases hfails
    exact ⟨c, fun b hb => hbefore b (earlier_eq horder hc ▸ hb), hfails⟩
  · rintro ⟨c, hearlier, hfails⟩
    obtain ⟨later, horder⟩ := exists_order_eq c
    rw [horder, List.findSome?_append, List.findSome?_eq_none_iff.mpr hearlier,
      List.findSome?_cons, hfails]
    rfl

end Check

theorem load_eq_error_iff : load env = .error e ↔ ∃ c, Check.FailsFirst env c e := by
  rw [← complaint_eq_some_iff, makes_load, Check.findSome?_order_iff]

/-- Nothing fails in an environment that is loaded. -/
theorem exists_load_iff :
    (∃ s, load env = .ok s) ↔ ∀ c : Check, c.fault? env = none := by
  rw [← complaint_eq_none_iff, makes_load, List.findSome?_eq_none_iff]
  refine ⟨fun h c => h c ?_, fun h c _ => h c⟩
  obtain ⟨later, horder⟩ := c.exists_order_eq
  rw [horder]
  exact List.mem_append_right _ List.mem_cons_self

/-- Only the last check misses the URL of the database. -/
theorem eq_databaseUrl_of_about {c : Check} (h : c.fault? env = some e)
    (habout : e.about = "DATABASE_URL") : c = .databaseUrl := by
  have hmem := Check.about_mem_inputs h
  rw [habout] at hmem
  cases c with
  | databaseUrl => rfl
  | subject c => cases c <;> exact absurd hmem (by decide)
  | _ => exact absurd hmem (by decide)

theorem mem_earlier_databaseUrl {c : Check} (h : c ≠ .databaseUrl) :
    c ∈ Check.earlier .databaseUrl := by
  cases c with
  | databaseUrl => exact absurd rfl h
  | subject c => cases c <;> decide
  | _ => decide

theorem load_eq_missing_database_iff :
    load env = .error (.missing "DATABASE_URL") ↔
      given env "DATABASE_URL" = none ∧ ∀ c : Check, c ≠ .databaseUrl → c.fault? env = none := by
  have hfails : Check.fault? env .databaseUrl = some (.missing "DATABASE_URL") ↔
      given env "DATABASE_URL" = none := by
    rw [Check.fault?, complaint_eq_some_iff, require]
    cases given env "DATABASE_URL" <;> simp
  rw [load_eq_error_iff]
  constructor
  · rintro ⟨c, hc⟩
    obtain rfl := eq_databaseUrl_of_about hc.fails rfl
    exact ⟨hfails.mp hc.fails, fun b hb => hc.earlier b (mem_earlier_databaseUrl hb)⟩
  · rintro ⟨hnone, hothers⟩
    refine ⟨.databaseUrl, fun b hb => hothers b ?_, hfails.mpr hnone⟩
    rintro rfl
    exact Check.notMem_earlier _ hb

/-- An environment that lacks a database only is loaded with any. -/
theorem exists_load_of_missing_database (h : load env = .error (.missing "DATABASE_URL"))
    {url : String} (hurl : Text.isBlank url = false) :
    ∃ s, load (Function.update env "DATABASE_URL" (some url)) = .ok s := by
  obtain ⟨-, hothers⟩ := load_eq_missing_database_iff.mp h
  rw [exists_load_iff]
  intro c
  by_cases hc : c = .databaseUrl
  · subst hc
    have hgiven : given (Function.update env "DATABASE_URL" (some url)) "DATABASE_URL" =
        some url := by
      rw [given, Function.update_self]
      simp [hurl]
    rw [Check.fault?, complaint_eq_none_iff, require, hgiven]
    exact ⟨url, rfl⟩
  · have hinputs : "DATABASE_URL" ∉ c.inputs := by
      cases c with
      | databaseUrl => exact absurd rfl hc
      | subject c => cases c <;> decide
      | _ => decide
    rw [← hothers c hc]
    refine Check.fault?_congr fun name hname => ?_
    have hne : name ≠ "DATABASE_URL" := fun he => hinputs (he ▸ hname)
    rw [given, given, Function.update_of_ne hne]

/-- How loading decides what to report. -/
structure Precedence (env : Environment) : Prop where
  /-- A blank value is as good as none. -/
  blanks : ∀ env', (∀ name, Agree env env' name) → load env' = load env
  /-- The report is the complaint of the first check that fails. -/
  first : ∀ e, load env = .error e ↔ ∃ c, Check.FailsFirst env c e
  /-- Only the variables of that check and of the earlier ones matter. -/
  stays : ∀ c e, Check.FailsFirst env c e → ∀ env',
    (∀ b ∈ c.earlier ++ [c], ∀ name ∈ b.inputs, Agree env env' name) →
    Check.FailsFirst env' c e ∧ load env' = .error e
  /-- A report on the selection depends on nothing else. -/
  selection : ∀ e, loadSelection env = .error e → ∀ env', Agree env env' "TELEMATIC_CHANNEL" →
    load env' = .error e
  /-- The database is missed only if nothing else is wrong. -/
  database : load env = .error (.missing "DATABASE_URL") →
    Unset (env "DATABASE_URL") ∧ (∀ c : Check, c ≠ .databaseUrl → c.fault? env = none) ∧
      ∀ url, Text.isBlank url = false →
        ∃ s, load (Function.update env "DATABASE_URL" (some url)) = .ok s

/-- Of several faults the first in the order of the checks is reported, whatever the later variables
hold, and a blank value counts as none. -/
theorem reports_first_fault (env : Environment) : Precedence env where
  blanks env' h := load_congr (funext fun name => (h name).given_eq.symm)
  first _ := load_eq_error_iff
  stays c e h env' hagree := by
    have hfirst := h.congr hagree
    exact ⟨hfirst, load_eq_error_iff.mpr ⟨c, hfirst⟩⟩
  selection e h env' hagree := by
    have hfirst : Check.FailsFirst env .selection e :=
      ⟨fun b hb => absurd hb (by decide +revert), complaint_eq_some_iff.mpr h⟩
    refine load_eq_error_iff.mpr ⟨_, hfirst.congr fun b hb name hname => ?_⟩
    rw [List.mem_singleton.mp hb] at hname
    rw [List.mem_singleton.mp hname]
    exact hagree
  database h := by
    obtain ⟨hnone, hothers⟩ := load_eq_missing_database_iff.mp h
    exact ⟨given_eq_none_iff.mp hnone, hothers, fun url hurl =>
      exists_load_of_missing_database h hurl⟩

/-- An environment with two faults, and no database. -/
def muddled (name : String) : Option String :=
  match name with
  | "TELEMATIC_CHANNEL" => some "ALL"
  | "TELEMATIC_NATS_URL" => some "  "
  | "TELEMATIC_CLOUD_SUBJECT" => some "cloud.>"
  | "TELEMATIC_PROBE_PERIOD_MS" => some "0"
  | _ => none

/-- The subject is reported, before the period and the database, and also with those mended. -/
theorem muddled_reports_subject :
    load muddled = .error (.invalid "TELEMATIC_CLOUD_SUBJECT" "cloud.>" .invalidSubject) ∧
      load (Function.update (Function.update muddled "TELEMATIC_PROBE_PERIOD_MS" none)
        "DATABASE_URL" (some "postgres://db/fleet")) =
        .error (.invalid "TELEMATIC_CLOUD_SUBJECT" "cloud.>" .invalidSubject) := by
  have hfirst : Check.FailsFirst muddled (.subject .cloud)
      (.invalid "TELEMATIC_CLOUD_SUBJECT" "cloud.>" .invalidSubject) :=
    ⟨by decide +kernel, by decide +kernel⟩
  have hprecedence := reports_first_fault muddled
  refine ⟨(hprecedence.first _).mpr ⟨_, hfirst⟩, (hprecedence.stays _ _ hfirst _ ?_).2⟩
  intro b hb name hname
  have hnames : ∀ b ∈ Check.earlier (.subject .cloud) ++ [.subject .cloud], ∀ name ∈ b.inputs,
      name ≠ "DATABASE_URL" ∧ name ≠ "TELEMATIC_PROBE_PERIOD_MS" := by
    decide
  obtain ⟨hdatabase, hperiod⟩ := hnames b hb name hname
  refine .inl ?_
  rw [Function.update_of_ne hdatabase, Function.update_of_ne hperiod]

end Settings
end FleetBridge
