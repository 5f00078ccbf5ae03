import FleetBridge.Proofs.Bridge.Course
import FleetBridge.Proofs.Bridge.Ownership

/-!
What a bootstrap does to get a link and a sink up, whatever becomes of its attempts and whatever
others do meanwhile. It keeps what is up: the bus is dialled until the first success and the sink is
asked only while it is down; between two rounds it waits as its policy says.
-/
namespace FleetBridge

/-- How often a sink was asked to connect. -/
def Bridge.sinkAttempts (i : SinkId) (b : Bridge) : Nat :=
  ((b.sinks[i]?).map MemorySink.attempts).getD 0

namespace Bootstrap

open Turn (Taken Course Ends filterMap_concat filterMap_concat_of_none forall_mem_concat)

/-! What the turns of a bootstrap show. -/

/-- What came of the dial that a turn made, if it made one. -/
def dialled? (t : Taken Bootstrap) : Option (Option Link) :=
  if (t.after turn).dialler.attempts = t.bridge.dialler.attempts then none
  else some t.bridge.dial.1

/-- Whether a sink was up after the turn that asked it to connect, if the turn did. -/
def asked? (i : SinkId) (t : Taken Bootstrap) : Option Bool :=
  if (t.after turn).sinkAttempts i = t.bridge.sinkAttempts i then none
  else some ((t.after turn).sinkConnected i)

/-- A wait between two rounds, with the chance by which it was drawn. -/
structure Rest where
  chance : Nat
  since : Instant
  wake : Instant

/-- The wait that a turn begins, if it begins one. -/
def rested? (t : Taken Bootstrap) : Option Rest :=
  match t.state.phase, turn t.chance t.state t.bridge with
  | .connecting, .next s b => match s.phase with
    | .resting wake => some ⟨t.chance, b.now, wake⟩
    | _ => none
  | _, _ => none

def dials (ts : List (Taken Bootstrap)) : List (Option Link) := ts.filterMap dialled?

def asks (i : SinkId) (ts : List (Taken Bootstrap)) : List Bool := ts.filterMap (asked? i)

def rests (ts : List (Taken Bootstrap)) : List Rest := ts.filterMap rested?

/-! The dialler and the sink. -/

variable {n : ℕ} {s s' : Bootstrap} {b b' : Bridge} {i j : SinkId} {up : Bool}

/-- Every dial counts as an attempt and touches nothing but the dialler and the connections. -/
theorem dial_attempts (b : Bridge) : b.dial.2.dialler.attempts = b.dialler.attempts + 1 ∧
    b.dial.2.sinks = b.sinks ∧ b.dial.2.fired = b.fired ∧ b.dial.2.meters = b.meters := by
  have hattempt : b.dialler.attempt.2.attempts = b.dialler.attempts + 1 := by
    unfold Dialler.attempt
    dsimp only
    split <;> rfl
  unfold Bridge.dial
  generalize b.dialler.attempt = x at hattempt
  obtain ⟨outcome, d⟩ := x
  cases outcome with
  | failed => exact ⟨hattempt, rfl, rfl, rfl⟩
  | dead => exact ⟨hattempt, rfl, rfl, rfl⟩
  | reached => exact ⟨hattempt, rfl, rfl, rfl⟩

theorem dial_of_failures {m : ℕ} (h : b.dialler.failures = m + 1) :
    b.dial.1 = none ∧ b.dial.2.dialler.failures = m := by
  unfold Bridge.dial Dialler.attempt
  rw [h]
  exact ⟨rfl, rfl⟩

/-- With no failures left a dial gives a link, be it a dead one. -/
theorem dial_of_no_failures (h : b.dialler.failures = 0) : ∃ l, b.dial.1 = some l := by
  unfold Bridge.dial Dialler.attempt
  rw [h]
  cases b.dialler.deadLinks with
  | zero => exact ⟨_, rfl⟩
  | succ m => exact ⟨_, rfl⟩

/-- What a sink that is asked to connect does, and that nothing else happens. -/
theorem connectSink_of_getElem? {k : MemorySink} (h : b.sinks[i]? = some k) :
    (b.connectSink i).1 = k.connect.1 ∧ (b.connectSink i).2.sinks = b.sinks.set i k.connect.2 := by
  unfold Bridge.connectSink
  rw [h]
  exact ⟨rfl, rfl⟩

theorem connectSink_kept (i : SinkId) (b : Bridge) :
    (b.connectSink i).2.dialler = b.dialler ∧ (b.connectSink i).2.fired = b.fired ∧
      (b.connectSink i).2.meters = b.meters ∧
      ∀ j, j ≠ i → (b.connectSink i).2.sinks[j]? = b.sinks[j]? := by
  unfold Bridge.connectSink
  cases b.sinks[i]? with
  | none => exact ⟨rfl, rfl, rfl, fun _ _ => rfl⟩
  | some k => exact ⟨rfl, rfl, rfl, fun j hj => List.getElem?_set_ne (Ne.symm hj)⟩

/-- A sink that agreed to connect is up. -/
theorem sinkConnected_of_connectSink (h : (b.connectSink i).1.isOk = true) :
    (b.connectSink i).2.sinkConnected i = true := by
  cases hk : b.sinks[i]? with
  | none =>
    rw [Bridge.connectSink, hk] at h
    cases h
  | some k =>
    obtain ⟨hanswer, hsinks⟩ := connectSink_of_getElem? hk
    have hlt : i < b.sinks.length := (List.getElem?_eq_some_iff.mp hk).1
    rw [Bridge.sinkConnected, hsinks, List.getElem?_set_self hlt, Option.any_some]
    rw [hanswer] at h
    unfold MemorySink.connect at h ⊢
    dsimp only at h ⊢
    split
    next hfailures =>
      rw [hfailures] at h
      cases h
    next => rfl

/-- A sink that was down is up after an attempt exactly if that succeeded. -/
theorem connect_of_down {k : MemorySink} (h : k.connected = false) :
    k.connect.2.attempts = k.attempts + 1 ∧ k.connect.2.connected = k.connect.1.isOk := by
  obtain ⟨failures, attempts, connected, rejecting, samples⟩ := k
  cases failures with
  | zero => exact ⟨rfl, rfl⟩
  | succ m => exact ⟨rfl, h⟩

/-! One turn. -/

/-- The sink is up already or there is none, or it is down and is asked to connect. -/
inductive SinkUp (s : Bootstrap) (b : Bridge) : Bool → Bridge → Prop
  | there : (∀ i, s.sink = some i → b.sinkConnected i = true) → SinkUp s b true b
  | asked {i : SinkId} {up : Bool} : s.sink = some i → b.sinkConnected i = false →
    (b.connectSink i).1.isOk = up →
    SinkUp s b up ((b.connectSink i).2.metered (·.countConnect "sink" up))

theorem sinkUp_cases (s : Bootstrap) (b : Bridge) : SinkUp s b (s.sinkUp b).1 (s.sinkUp b).2 := by
  unfold sinkUp
  cases hsink : s.sink with
  | none => exact .there fun i hi => by rw [hsink] at hi; cases hi
  | some i =>
    dsimp only
    cases hup : b.sinkConnected i with
    | true =>
      refine .there fun j hj => ?_
      rw [hsink, Option.some.injEq] at hj
      exact hj ▸ hup
    | false =>
      rw [if_neg Bool.false_ne_true]
      have hasked : SinkUp s b (b.connectSink i).1.isOk _ := .asked hsink hup rfl
      unfold connectSink
      generalize b.connectSink i = answer at hasked ⊢
      obtain ⟨f | u, b'⟩ := answer
      · exact hasked
      · exact hasked

/-- What a turn of a bootstrap that goes on can do. -/
inductive Goes (n : ℕ) (s : Bootstrap) (b : Bridge) : Bootstrap → Bridge → Prop
  | dialled : s.phase = .dialling → b.isFired s.token = false → s.link = none →
    Goes n s b { s with link := b.dial.1, phase := .connecting }
      (b.dial.2.metered (·.countConnect "bus" b.dial.1.isSome))
  | held {l : Link} : s.phase = .dialling → s.link = some l →
    Goes n s b { s with phase := .connecting } b
  | rests {up : Bool} {b' : Bridge} : s.phase = .connecting → SinkUp s b up b' →
    (s.link = none ∨ up = false) →
    Goes n s b
      { s with
        attempt := Backoff.nextAttempt s.attempt
        phase := .resting (b'.after (s.backoff.drawn n s.attempt)) } b'
  | wakes {wake : Instant} : s.phase = .resting wake → wake ≤ b.now →
    Goes n s b { s with phase := .dialling } b

/-- How a bootstrap can end. -/
inductive Stops (s : Bootstrap) (b : Bridge) : Option Link → Bridge → Prop
  | cancelled : s.phase ≠ .connecting → b.isFired s.token = true → Stops s b none b
  | connected {l : Link} {b' : Bridge} : s.phase = .connecting → s.link = some l →
    SinkUp s b true b' → Stops s b (some l) b'

theorem goes_or_stops (n : ℕ) (s : Bootstrap) (b : Bridge) :
    (s.turn n b).Yields (Goes n s b) (Stops s b) := by
  have hsink := s.sinkUp_cases b
  unfold turn
  obtain ⟨sink, p, t, link, attempt, phase⟩ := s
  cases phase with
  | dialling =>
    dsimp only
    split
    next hfired => exact .cancelled nofun hfired
    next hcalm =>
      rw [Bool.not_eq_true] at hcalm
      cases link with
      | some l => exact .held rfl rfl
      | none => exact .dialled rfl hcalm rfl
  | connecting =>
    -- The sink is asked whether or not there is a link.
    dsimp only
    generalize sinkUp _ b = answer at hsink
    obtain ⟨up, b'⟩ := answer
    cases link with
    | none => exact .rests rfl hsink (.inl rfl)
    | some l =>
      cases up with
      | false => exact .rests rfl hsink (.inr rfl)
      | true => exact .connected rfl rfl hsink
  | resting wake =>
    dsimp only
    split
    next hfirst =>
      rw [tokenFirst, Bool.and_eq_true] at hfirst
      exact .cancelled nofun hfirst.1
    next =>
      split
      next hdue => exact .wakes rfl (of_decide_eq_true hdue)
      next => trivial

theorem goes_of_turn (h : s.turn n b = .next s' b') : Goes n s b s' b' := by
  have hyields := goes_or_stops n s b
  rwa [h] at hyields

theorem stops_of_turn {r : Option Link} (h : s.turn n b = .done r b') : Stops s b r b' := by
  have hyields := goes_or_stops n s b
  rwa [h] at hyields

/-- A bootstrap waits only in a rest that is not over. -/
theorem resting_of_wait (h : s.turn n b = .wait) :
    ∃ wake, s.phase = .resting wake ∧ b.now < wake := by
  unfold turn at h
  cases hphase : s.phase with
  | dialling =>
    rw [hphase] at h
    dsimp only at h
    split at h <;> cases h
  | connecting =>
    rw [hphase] at h
    dsimp only at h
    generalize s.sinkUp b = answer at h
    obtain ⟨up, b'⟩ := answer
    cases hlink : s.link with
    | none =>
      rw [hlink] at h
      cases h
    | some l =>
      rw [hlink] at h
      cases up <;> cases h
  | resting wake =>
    refine ⟨wake, rfl, Nat.lt_of_not_le fun hdue => ?_⟩
    rw [hphase] at h
    dsimp only at h
    rw [decide_eq_true hdue, if_pos rfl] at h
    split at h <;> cases h

/-! What a turn shows. -/

theorem dialled?_eq_none (h : (Taken.after turn ⟨n, s, b⟩).dialler = b.dialler) :
    dialled? ⟨n, s, b⟩ = none :=
  if_pos (congrArg Dialler.attempts h)

theorem asked?_eq_none (h : (Taken.after turn ⟨n, s, b⟩).sinks[i]? = b.sinks[i]?) :
    asked? i ⟨n, s, b⟩ = none :=
  if_pos (congrArg (fun k : Option MemorySink => (k.map MemorySink.attempts).getD 0) h)

theorem rested?_eq_none (h : s.phase ≠ .connecting) : rested? ⟨n, s, b⟩ = none := by
  unfold rested?
  cases hphase : s.phase with
  | connecting => exact absurd hphase h
  | dialling => rfl
  | resting wake => rfl

theorem SinkUp.kept (h : SinkUp s b up b') : b'.dialler = b.dialler ∧ b'.fired = b.fired := by
  cases h with
  | there => exact ⟨rfl, rfl⟩
  | asked => exact ⟨(connectSink_kept _ b).1, (connectSink_kept _ b).2.1⟩

/-- Only the sink of the bootstrap may change, and only if it was down. -/
theorem SinkUp.sinks (h : SinkUp s b up b')
    (hi : ¬ (s.sink = some i ∧ b.sinkConnected i = false)) : b'.sinks[i]? = b.sinks[i]? := by
  cases h with
  | there => rfl
  | @asked j _ hsink hdown =>
    refine (connectSink_kept j b).2.2.2 i fun hij => hi ?_
    subst hij
    exact ⟨hsink, hdown⟩

theorem SinkUp.connected (h : SinkUp s b true b') (hi : s.sink = some i) :
    b'.sinkConnected i = true := by
  cases h with
  | there hup => exact hup i hi
  | @asked j _ hsink _ hok =>
    obtain rfl : j = i := Option.some.inj (hsink.symm.trans hi)
    exact sinkConnected_of_connectSink hok

/-- What is asked of each turn: it dials only if the token was not fired, it asks only the sink of
the bootstrap and only if that is down, and it goes on from a wait only when that is over. -/
structure Spares (sink : Option SinkId) (tok : Token) (t : Taken Bootstrap) : Prop where
  dialled : dialled? t ≠ none → t.bridge.isFired tok = false
  asked : ∀ i, asked? i t ≠ none → sink = some i ∧ t.bridge.sinkConnected i = false
  rested : ∀ wake, t.state.phase = .resting wake →
    wake ≤ t.bridge.now ∨ t.bridge.isFired tok = true

theorem spares_of_kept (hdial : (Taken.after turn ⟨n, s, b⟩).dialler = b.dialler)
    (hsinks : ∀ i, ¬ (s.sink = some i ∧ b.sinkConnected i = false) →
      (Taken.after turn ⟨n, s, b⟩).sinks[i]? = b.sinks[i]?)
    (hrest : ∀ wake, s.phase = .resting wake → wake ≤ b.now ∨ b.isFired s.token = true) :
    Spares s.sink s.token ⟨n, s, b⟩ where
  dialled h := absurd (dialled?_eq_none hdial) h
  asked i h := by
    by_contra hi
    exact h (asked?_eq_none (hsinks i hi))
  rested := hrest

theorem spares_of_next (h : s.turn n b = .next s' b') : Spares s.sink s.token ⟨n, s, b⟩ := by
  have hafter := Taken.after_of_next h
  cases goes_of_turn h with
  | dialled hphase hcalm =>
    refine ⟨fun _ => hcalm, fun i hi => absurd ?_ hi, fun wake hwake => ?_⟩
    · refine asked?_eq_none ?_
      rw [hafter]
      exact congrArg (·[i]?) (dial_attempts b).2.1
    · rw [hphase] at hwake
      cases hwake
  | held hphase =>
    refine spares_of_kept ?_ (fun i _ => ?_) fun wake hwake => ?_
    · rw [hafter]
    · rw [hafter]
    · rw [hphase] at hwake
      cases hwake
  | rests hphase hsink =>
    refine spares_of_kept ?_ (fun i hi => ?_) fun wake hwake => ?_
    · rw [hafter]
      exact hsink.kept.1
    · rw [hafter]
      exact hsink.sinks hi
    · rw [hphase] at hwake
      cases hwake
  | wakes hphase hdue =>
    refine spares_of_kept ?_ (fun i _ => ?_) fun wake hwake => .inl ?_
    · rw [hafter]
    · rw [hafter]
    · rw [hphase, Phase.resting.injEq] at hwake
      exact hwake ▸ hdue

theorem spares_of_done {r : Option Link} (h : s.turn n b = .done r b') :
    Spares s.sink s.token ⟨n, s, b⟩ := by
  have hafter := Taken.after_of_done h
  cases stops_of_turn h with
  | cancelled _ hfired =>
    refine spares_of_kept ?_ (fun i _ => ?_) fun _ _ => .inr hfired
    · rw [hafter]
    · rw [hafter]
  | connected hphase _ hsink =>
    refine spares_of_kept ?_ (fun i hi => ?_) fun wake hwake => ?_
    · rw [hafter]
      exact hsink.kept.1
    · rw [hafter]
      exact hsink.sinks hi
    · rw [hphase] at hwake
      cases hwake

/-- A turn that leaves the bridge as it is and begins no wait. -/
theorem shows_nothing (ts : List (Taken Bootstrap)) (hafter : Taken.after turn ⟨n, s, b⟩ = b)
    (hphase : s.phase ≠ .connecting) :
    dials (ts ++ [⟨n, s, b⟩]) = dials ts ∧ (∀ i, asks i (ts ++ [⟨n, s, b⟩]) = asks i ts) ∧
      rests (ts ++ [⟨n, s, b⟩]) = rests ts := by
  refine ⟨filterMap_concat_of_none (dialled?_eq_none ?_) ts,
    fun i => filterMap_concat_of_none (asked?_eq_none ?_) ts,
    filterMap_concat_of_none (rested?_eq_none hphase) ts⟩
  · rw [hafter]
  · rw [hafter]

theorem shows_dial {f : Meters → Meters} (ts : List (Taken Bootstrap))
    (ht : s.turn n b = .next s' (b.dial.2.metered f)) (hphase : s.phase = .dialling) :
    dials (ts ++ [⟨n, s, b⟩]) = dials ts ++ [b.dial.1] ∧
      (∀ i, asks i (ts ++ [⟨n, s, b⟩]) = asks i ts) ∧
      rests (ts ++ [⟨n, s, b⟩]) = rests ts := by
  have hafter := Taken.after_of_next ht
  have hdial : dialled? ⟨n, s, b⟩ = some b.dial.1 := by
    unfold dialled?
    rw [hafter]
    exact if_neg fun hsame => Nat.succ_ne_self _ ((dial_attempts b).1.symm.trans hsame)
  refine ⟨?_, fun i => filterMap_concat_of_none (asked?_eq_none ?_) ts,
    filterMap_concat_of_none (rested?_eq_none ?_) ts⟩
  · rw [dials, filterMap_concat, hdial, Option.toList_some, ← dials]
  · rw [hafter]
    exact congrArg (·[i]?) (dial_attempts b).2.1
  · rw [hphase]
    nofun

theorem shows_rest (ts : List (Taken Bootstrap)) (ht : s.turn n b = .next s' b')
    (hphase : s.phase = .connecting) (hsink : SinkUp s b up b') {wake : Instant}
    (hwake : s'.phase = .resting wake) :
    dials (ts ++ [⟨n, s, b⟩]) = dials ts ∧
      rests (ts ++ [⟨n, s, b⟩]) = rests ts ++ [⟨n, b'.now, wake⟩] := by
  have hdial : dialled? ⟨n, s, b⟩ = none := by
    refine dialled?_eq_none ?_
    rw [Taken.after_of_next ht]
    exact hsink.kept.1
  have hrest : rested? ⟨n, s, b⟩ = some ⟨n, b'.now, wake⟩ := by
    unfold rested?
    rw [hphase, ht]
    dsimp only
    rw [hwake]
  refine ⟨filterMap_concat_of_none hdial ts, ?_⟩
  rw [rests, filterMap_concat, hrest, Option.toList_some, ← rests]

theorem shows_end {r : Option Link} (ts : List (Taken Bootstrap)) (ht : s.turn n b = .done r b') :
    dials (ts ++ [⟨n, s, b⟩]) = dials ts ∧ rests (ts ++ [⟨n, s, b⟩]) = rests ts := by
  have hafter := Taken.after_of_done ht
  have hrest : rested? ⟨n, s, b⟩ = none := by
    unfold rested?
    rw [ht]
    cases s.phase with
    | connecting => rfl
    | dialling => rfl
    | resting wake => rfl
  refine ⟨filterMap_concat_of_none (dialled?_eq_none ?_) ts, filterMap_concat_of_none hrest ts⟩
  rw [hafter]
  cases stops_of_turn ht with
  | cancelled => rfl
  | connected _ _ hsink => exact hsink.kept.1

variable {ts : List (Taken Bootstrap)} {sink : Option SinkId} {p : Backoff} {tok : Token}

/-- The wait that a bootstrap is in, if it is in one, is among those that it began. -/
def Begun (ts : List (Taken Bootstrap)) (s : Bootstrap) : Prop :=
  ∀ wake, s.phase = .resting wake → ∃ r ∈ rests ts, r.wake = wake

theorem Begun.concat (h : Begun ts s) (t : Taken Bootstrap) : Begun (ts ++ [t]) s := by
  intro wake hwake
  obtain ⟨r, hr, hrest⟩ := h wake hwake
  refine ⟨r, ?_, hrest⟩
  rw [rests, filterMap_concat]
  exact List.mem_append_left _ hr

/-- What the turns of a bootstrap come to that holds `held`. -/
structure Sparing (sink : Option SinkId) (p : Backoff) (tok : Token)
    (ts : List (Taken Bootstrap)) (held : Option Link) : Prop where
  turns : ∀ t ∈ ts, Spares sink tok t
  /-- All dials but the one that gave the link have failed. -/
  dials : ∃ k, dials ts = List.replicate k none ++ (held.map some).toList
  waits : ∀ t ∈ ts, Begun ts t.state
  /-- The waits are as long as the policy says. -/
  rests : ∀ j r, (rests ts)[j]? = some r →
    r.wake = Instant.after r.since (p.drawn r.chance (min j Backoff.lastAttempt))

/-- What every course of a bootstrap keeps. -/
structure Keeps (sink : Option SinkId) (p : Backoff) (tok : Token)
    (ts : List (Taken Bootstrap)) (s : Bootstrap) : Prop where
  sparing : Sparing sink p tok ts s.link
  sink : s.sink = sink
  backoff : s.backoff = p
  token : s.token = tok
  attempt : s.attempt = min (rests ts).length Backoff.lastAttempt
  begun : Begun ts s

theorem waits_concat (hts : ∀ t ∈ ts, Begun ts t.state) (hs : Begun ts s) (n : ℕ) (b : Bridge) :
    ∀ t ∈ ts ++ [⟨n, s, b⟩], Begun (ts ++ [⟨n, s, b⟩]) t.state :=
  forall_mem_concat (fun t ht => (hts t ht).concat _) (hs.concat _)

/-- A turn that neither dials nor begins a wait. -/
theorem Keeps.still (h : Keeps sink p tok ts s) (ht : Spares sink tok ⟨n, s, b⟩)
    (hdials : dials (ts ++ [⟨n, s, b⟩]) = dials ts)
    (hrests : rests (ts ++ [⟨n, s, b⟩]) = rests ts) :
    Sparing sink p tok (ts ++ [⟨n, s, b⟩]) s.link where
  turns := forall_mem_concat h.sparing.turns ht
  dials := hdials ▸ h.sparing.dials
  waits := waits_concat h.sparing.waits h.begun n b
  rests := hrests ▸ h.sparing.rests

theorem Keeps.turn (h : Keeps sink p tok ts s) (ht : s.turn n b = .next s' b') :
    Keeps sink p tok (ts ++ [⟨n, s, b⟩]) s' := by
  have hspares := spares_of_next ht
  rw [h.sink, h.token] at hspares
  have hturns := forall_mem_concat h.sparing.turns hspares
  have hwaits := waits_concat h.sparing.waits h.begun n b
  cases goes_of_turn ht with
  | dialled hphase _ hlink =>
    obtain ⟨hdials, -, hrests⟩ := shows_dial ts ht hphase
    refine ⟨⟨hturns, ?_, hwaits, hrests ▸ h.sparing.rests⟩, h.sink, h.backoff, h.token,
      hrests ▸ h.attempt, nofun⟩
    obtain ⟨k, hk⟩ := h.sparing.dials
    rw [hlink, Option.map_none, Option.toList_none, List.append_nil] at hk
    rw [hdials, hk]
    dsimp only
    cases b.dial.1 with
    | none =>
      refine ⟨k + 1, ?_⟩
      rw [List.replicate_succ', Option.map_none, Option.toList_none, List.append_nil]
    | some l => exact ⟨k, rfl⟩
  | held hphase =>
    obtain ⟨hdials, -, hrests⟩ := shows_nothing ts (Taken.after_of_next ht)
      (by rw [hphase]; nofun)
    exact ⟨h.still hspares hdials hrests, h.sink, h.backoff, h.token, hrests ▸ h.attempt, nofun⟩
  | wakes hphase =>
    obtain ⟨hdials, -, hrests⟩ := shows_nothing ts (Taken.after_of_next ht)
      (by rw [hphase]; nofun)
    exact ⟨h.still hspares hdials hrests, h.sink, h.backoff, h.token, hrests ▸ h.attempt, nofun⟩
  | rests hphase hsink =>
    obtain ⟨hdials, hrests⟩ := shows_rest ts ht hphase hsink rfl
    refine ⟨⟨hturns, hdials ▸ h.sparing.dials, hwaits, ?_⟩, h.sink, h.backoff, h.token, ?_, ?_⟩
    · -- The number of the new wait is how many there were before, up to the last number.
      rw [hrests]
      intro j r hr
      rw [List.getElem?_append] at hr
      split at hr
      next => exact h.sparing.rests j r hr
      next hle =>
        rw [List.getElem?_singleton] at hr
        split at hr
        next hj =>
          cases hr
          have hlast : j = (rests ts).length := by omega
          rw [hlast, ← h.attempt, ← h.backoff]
          rfl
        next => cases hr
    · rw [hrests, List.length_append, List.length_singleton]
      dsimp only
      rw [h.attempt, Backoff.nextAttempt]
      omega
    · intro wake hwake
      cases hwake
      rw [hrests]
      exact ⟨_, List.mem_append_right _ (List.mem_singleton_self _), rfl⟩

theorem keeps_start (sink : Option SinkId) (p : Backoff) (tok : Token) :
    Keeps sink p tok [] (start sink p tok) := by
  have hbegun : Begun [] (start sink p tok) := fun _ hphase => Phase.noConfusion hphase
  exact ⟨⟨List.forall_mem_nil _, ⟨0, rfl⟩, List.forall_mem_nil _, nofun⟩, rfl, rfl, rfl, rfl,
    hbegun⟩

theorem keeps_of_course {amid : Bridge → Bridge → Prop} {b₀ : Bridge}
    (h : Course turn amid (start sink p tok) b₀ ts s b) : Keeps sink p tok ts s :=
  h.invariant (fun ts s _ => Keeps sink p tok ts s) (keeps_start sink p tok)
    (fun _ _ _ _ hkeeps _ => hkeeps) fun _ _ _ _ _ _ hkeeps ht => hkeeps.turn ht

theorem sparing_of_connected {amid : Bridge → Bridge → Prop} {b₀ : Bridge} {l : Link}
    (h : Ends turn amid (start sink p tok) b₀ ts (some l) b) :
    Sparing sink p tok ts (some l) ∧ ∀ i, sink = some i → b.sinkConnected i = true := by
  cases h with
  | done n hcourse ht =>
    have hkeeps := keeps_of_course hcourse
    have hspares := spares_of_done ht
    rw [hkeeps.sink, hkeeps.token] at hspares
    obtain ⟨hdials, hrests⟩ := shows_end _ ht
    cases stops_of_turn ht with
    | connected _ hlink hsink =>
      refine ⟨hlink ▸ hkeeps.still hspares hdials hrests, fun i hi => hsink.connected ?_⟩
      exact hkeeps.sink.trans hi

theorem fired_of_cancelled {amid : Bridge → Bridge → Prop} {b₀ : Bridge}
    (h : Ends turn amid (start sink p tok) b₀ ts none b) :
    (∃ held, Sparing sink p tok ts held) ∧ b.isFired tok = true := by
  cases h with
  | done n hcourse ht =>
    have hkeeps := keeps_of_course hcourse
    have hspares := spares_of_done ht
    rw [hkeeps.sink, hkeeps.token] at hspares
    obtain ⟨hdials, hrests⟩ := shows_end _ ht
    cases stops_of_turn ht with
    | cancelled _ hfired =>
      exact ⟨⟨_, hkeeps.still hspares hdials hrests⟩, hkeeps.token ▸ hfired⟩

end Bootstrap
end FleetBridge
