import FleetBridge.Proofs.Meters.Counters
import FleetBridge.Proofs.Supervision.Connecting

/-!
How often a bootstrap has to dial, to ask its sink and to wait, if nobody else meddles with them: as
often as they fail, and once more.
-/
namespace FleetBridge.Bootstrap

open Turn (Taken Course Ends filterMap_concat filterMap_concat_of_none)

variable {n : ℕ} {s s' : Bootstrap} {b b' : Bridge} {i : SinkId} {up : Bool} {p : Backoff}
  {tok : Token} {ts : List (Taken Bootstrap)}

/-- Others leave the dialler, the sink and the count of attempts alone, and fire no token. -/
structure Undisturbed (i : SinkId) (tok : Token) (b b' : Bridge) : Prop where
  dialler : b'.dialler = b.dialler
  sink : b'.sinks[i]? = b.sinks[i]?
  counts : b'.meters.connectAttempts = b.meters.connectAttempts
  calm : b.isFired tok = false → b'.isFired tok = false

/-- How far the tries have got of something that fails `f` times: they have failed in each of `n`
rounds, or there was a first success after which it was not tried again. -/
inductive Tried {α : Type} (bad : α) (f n : ℕ) : ℕ → Option α → List α → Prop
  | down {left : ℕ} : left + n = f → Tried bad f n left none (List.replicate n bad)
  | up {left : ℕ} {good : α} : f < n →
    Tried bad f n left (some good) (List.replicate f bad ++ [good])

namespace Tried

variable {α : Type} {bad good : α} {f m m' : ℕ} {os : List α}

theorem fail (h : Tried bad f n (m + 1) none os) : Tried bad f (n + 1) m none (os ++ [bad]) := by
  cases h with
  | down hleft =>
    rw [← List.replicate_succ']
    exact .down (by omega)

theorem succeed (good : α) (h : Tried bad f n 0 none os) :
    Tried bad f (n + 1) m (some good) (os ++ [good]) := by
  cases h with
  | down hleft =>
    obtain rfl : n = f := by omega
    exact .up (Nat.lt_succ_self n)

theorem skip (h : Tried bad f n m (some good) os) :
    Tried bad f (n + 1) m' (some good) os := by
  cases h with
  | up hlt => exact .up (Nat.lt_succ_of_lt hlt)

theorem le (h : Tried bad f n m none os) : n ≤ f := by
  cases h with
  | down hleft => omega

theorem lt (h : Tried bad f n m (some good) os) : f < n := by
  cases h with
  | up hlt => exact hlt

theorem outcomes (h : Tried bad f n m (some good) os) : os = List.replicate f bad ++ [good] := by
  cases h with
  | up => rfl

end Tried

/-- The labels under which the attempts are counted. -/
def attempted (i : SinkId) (ts : List (Taken Bootstrap)) : List (List String) :=
  (dials ts).map (fun l => [if l.isSome then "success" else "failure", "bus"]) ++
    (asks i ts).map fun up => [if up then "success" else "failure", "sink"]

/-- The rounds whose dial is over. -/
def dialRounds (s : Bootstrap) (ts : List (Taken Bootstrap)) : ℕ :=
  match s.phase with
  | .connecting => (rests ts).length + 1
  | _ => (rests ts).length

/-- How far a sink has got after `m` rounds that was `k₀` at first. -/
def SinkTried (i : SinkId) (k₀ : MemorySink) (m : ℕ) (os : List Bool) (b : Bridge) : Prop :=
  ∃ k, b.sinks[i]? = some k ∧ k.attempts = k₀.attempts + os.length ∧
    Tried false k₀.failures m k.failures (if k.connected then some true else none) os

/-- A sink that is there is asked if it is down, and what it answers is counted. -/
theorem SinkUp.shows {k : MemorySink} (h : SinkUp s b up b') (hi : s.sink = some i)
    (hk : b.sinks[i]? = some k) (hafter : Taken.after turn ⟨n, s, b⟩ = b') :
    (k.connected = true ∧ up = true ∧ b' = b ∧ asked? i ⟨n, s, b⟩ = none) ∨
      (k.connected = false ∧ up = k.connect.1.isOk ∧ b'.sinks[i]? = some k.connect.2 ∧
        asked? i ⟨n, s, b⟩ = some up ∧ b'.meters.connectAttempts =
          b.meters.connectAttempts.tick [if up then "success" else "failure", "sink"]) := by
  have hconnected : b.sinkConnected i = k.connected := by
    rw [Bridge.sinkConnected, hk, Option.any_some]
  cases h with
  | there hup =>
    refine .inl ⟨hconnected ▸ hup i hi, rfl, rfl, asked?_eq_none ?_⟩
    rw [hafter]
  | @asked j _ hsink hdown hok =>
    obtain rfl : j = i := Option.some.inj (hsink.symm.trans hi)
    obtain ⟨hanswer, hsinks⟩ := connectSink_of_getElem? hk
    have hlt : j < b.sinks.length := (List.getElem?_eq_some_iff.mp hk).1
    have hk' : (b.connectSink j).2.sinks[j]? = some k.connect.2 := by
      rw [hsinks, List.getElem?_set_self hlt]
    rw [hconnected] at hdown
    obtain ⟨hmore, hright⟩ := connect_of_down hdown
    refine .inr ⟨hdown, hanswer ▸ hok.symm, hk', ?_, ?_⟩
    · unfold asked?
      rw [hafter]
      simp only [Bridge.sinkAttempts, Bridge.sinkConnected, Bridge.metered, hk', hk, hmore,
        Option.map_some, Option.getD_some, Option.any_some, hright, ← hanswer, hok]
      exact if_neg (Nat.succ_ne_self _)
    · exact congrArg (fun m : Meters => m.connectAttempts.tick _) (connectSink_kept j b).2.2.1

/-- One round of a sink. -/
theorem SinkTried.round {k₀ : MemorySink} {m : ℕ} (h : SinkTried i k₀ m (asks i ts) b)
    (hup : SinkUp s b up b') (hi : s.sink = some i) (hafter : Taken.after turn ⟨n, s, b⟩ = b') :
    SinkTried i k₀ (m + 1) (asks i (ts ++ [⟨n, s, b⟩])) b' ∧ b'.sinkConnected i = up := by
  obtain ⟨k, hk, hattempts, htried⟩ := h
  have hasks : asks i (ts ++ [⟨n, s, b⟩]) = asks i ts ++ (asked? i ⟨n, s, b⟩).toList :=
    filterMap_concat _ _ _
  rw [hasks]
  rcases hup.shows hi hk hafter with ⟨hconnected, rfl, rfl, hasked⟩ |
    ⟨hconnected, rfl, hk', hasked, -⟩
  · rw [hasked, Option.toList_none, List.append_nil]
    rw [hconnected, if_pos rfl] at htried
    refine ⟨⟨k, hk, hattempts, ?_⟩, ?_⟩
    · rw [hconnected, if_pos rfl]
      exact htried.skip
    · rw [Bridge.sinkConnected, hk, Option.any_some, hconnected]
  · rw [hasked, Option.toList_some, Bridge.sinkConnected, hk', Option.any_some]
    rw [hconnected, if_neg Bool.false_ne_true] at htried
    unfold SinkTried
    rw [hk', List.length_append, List.length_singleton, ← Nat.add_assoc, ← hattempts]
    obtain ⟨failures, attempts, connected, rejecting, samples⟩ := k
    obtain rfl : connected = false := hconnected
    cases failures with
    | zero => exact ⟨⟨_, rfl, rfl, htried.succeed true⟩, rfl⟩
    | succ m => exact ⟨⟨_, rfl, rfl, htried.fail⟩, rfl⟩

theorem count_tick_of_perm {c c₀ : Meters.Counters} {ls ls' : List (List String)}
    {l : List String} (h : ∀ v, c.count v = c₀.count v + .ofNat (ls.count v))
    (hls : ls'.Perm (ls ++ [l])) (v : List String) :
    (c.tick l).count v = c₀.count v + .ofNat (ls'.count v) := by
  have htick : (c.tick l).count v = c.count v + .ofNat ([l].count v) :=
    Meters.Counters.count_foldl_tick [l] v c
  rw [htick, h, hls.count_eq, List.count_append, UInt64.ofNat_add, add_assoc]

theorem SinkUp.counted {k : MemorySink} {c₀ : Meters.Counters} (h : SinkUp s b up b')
    (hi : s.sink = some i) (hk : b.sinks[i]? = some k)
    (hafter : Taken.after turn ⟨n, s, b⟩ = b')
    (hdials : dials (ts ++ [⟨n, s, b⟩]) = dials ts)
    (hcounts : ∀ v, b.meters.connectAttempts.count v =
      c₀.count v + .ofNat ((attempted i ts).count v)) (v : List String) :
    b'.meters.connectAttempts.count v =
      c₀.count v + .ofNat ((attempted i (ts ++ [⟨n, s, b⟩])).count v) := by
  rcases h.shows hi hk hafter with ⟨-, -, rfl, hasked⟩ | ⟨-, -, -, hasked, htick⟩
  · rw [attempted, hdials, asks, filterMap_concat_of_none hasked]
    exact hcounts v
  · rw [htick]
    refine count_tick_of_perm hcounts (.of_eq ?_) v
    rw [attempted, attempted, hdials, asks, filterMap_concat, hasked, Option.toList_some,
      List.map_append, List.append_assoc]
    rfl

theorem SinkTried.le {k₀ : MemorySink} {m : ℕ} {os : List Bool} (h : SinkTried i k₀ m os b)
    (hdown : b.sinkConnected i = false) : m ≤ k₀.failures := by
  obtain ⟨k, hk, -, htried⟩ := h
  rw [Bridge.sinkConnected, hk, Option.any_some] at hdown
  rw [hdown, if_neg Bool.false_ne_true] at htried
  exact htried.le

theorem SinkTried.outcomes {k₀ : MemorySink} {m : ℕ} {os : List Bool}
    (h : SinkTried i k₀ m os b) (hup : b.sinkConnected i = true) :
    k₀.failures < m ∧ os = List.replicate k₀.failures false ++ [true] := by
  obtain ⟨k, hk, -, htried⟩ := h
  rw [Bridge.sinkConnected, hk, Option.any_some] at hup
  rw [hup, if_pos rfl] at htried
  exact ⟨htried.lt, htried.outcomes⟩

/-- What an undisturbed course keeps of a bootstrap with a sink that was `k₀` at first. -/
structure Counted (i : SinkId) (p : Backoff) (tok : Token) (k₀ : MemorySink) (b₀ : Bridge)
    (ts : List (Taken Bootstrap)) (s : Bootstrap) (b : Bridge) : Prop where
  keeps : Keeps (some i) p tok ts s
  calm : b.isFired tok = false
  bus : Tried none b₀.dialler.failures (s.dialRounds ts) b.dialler.failures (s.link.map some)
    (dials ts)
  dialled : b.dialler.attempts = b₀.dialler.attempts + (dials ts).length
  tried : SinkTried i k₀ (rests ts).length (asks i ts) b
  counts : ∀ labels, b.meters.connectAttempts.count labels =
    b₀.meters.connectAttempts.count labels + .ofNat ((attempted i ts).count labels)
  most : (rests ts).length ≤ max b₀.dialler.failures k₀.failures
  turns : match s.phase with
    | .dialling => ts.length = 3 * (rests ts).length
    | .connecting => ts.length = 3 * (rests ts).length + 1
    | .resting _ => ts.length + 1 = 3 * (rests ts).length

variable {k₀ : MemorySink} {b₀ : Bridge}

theorem Counted.between (h : Counted i p tok k₀ b₀ ts s b) (hb : Undisturbed i tok b b') :
    Counted i p tok k₀ b₀ ts s b' where
  keeps := h.keeps
  calm := hb.calm h.calm
  bus := hb.dialler ▸ h.bus
  dialled := hb.dialler ▸ h.dialled
  tried := by
    obtain ⟨k, hk, hrest⟩ := h.tried
    exact ⟨k, hb.sink ▸ hk, hrest⟩
  counts := hb.counts ▸ h.counts
  most := h.most
  turns := h.turns

theorem Counted.turn (h : Counted i p tok k₀ b₀ ts s b) (ht : s.turn n b = .next s' b') :
    Counted i p tok k₀ b₀ (ts ++ [⟨n, s, b⟩]) s' b' := by
  have hkeeps := h.keeps.turn ht
  have hturns := h.turns
  have hbus := h.bus
  have hlength (t : Taken Bootstrap) : (ts ++ [t]).length = ts.length + 1 := List.length_append
  unfold dialRounds at hbus
  cases goes_of_turn ht with
  | dialled hphase _ hlink =>
    obtain ⟨hdials, hasks, hrests⟩ := shows_dial ts ht hphase
    obtain ⟨hattempts, hsinks, hfired, hmeters⟩ := dial_attempts b
    rw [hphase] at hturns
    rw [hphase, hlink, Option.map_none] at hbus
    refine ⟨hkeeps, ?_, ?_, ?_, ?_, ?_, hrests ▸ h.most, ?_⟩
    · have hcalm := h.calm
      rw [Bridge.isFired, ← hfired] at hcalm
      exact hcalm
    · unfold dialRounds
      rw [hdials, hrests]
      change Tried none _ _ b.dial.2.dialler.failures _ _
      cases hfailures : b.dialler.failures with
      | zero =>
        obtain ⟨l, hl⟩ := dial_of_no_failures hfailures
        rw [hfailures] at hbus
        simp only [hl, Option.map_some]
        exact hbus.succeed (some l)
      | succ m =>
        obtain ⟨hl, hleft⟩ := dial_of_failures hfailures
        rw [hfailures] at hbus
        simp only [hl, hleft, Option.map_none]
        exact hbus.fail
    · rw [hdials, List.length_append, ← Nat.add_assoc, ← h.dialled]
      exact hattempts
    · rw [hasks, hrests]
      obtain ⟨k, hk, hrest⟩ := h.tried
      refine ⟨k, ?_, hrest⟩
      rw [← hk]
      exact congrArg (·[i]?) hsinks
    · refine count_tick_of_perm (c := b.dial.2.meters.connectAttempts) (hmeters ▸ h.counts) ?_
      rw [attempted, attempted, hdials, hasks, List.map_append, List.append_assoc,
        List.append_assoc]
      exact List.perm_append_comm.append_left _
    · rw [hrests, hlength, hturns]
  | held hphase hlink =>
    obtain ⟨hdials, hasks, hrests⟩ := shows_nothing ts (Taken.after_of_next ht)
      (by rw [hphase]; nofun)
    rw [hphase] at hturns
    rw [hphase, hlink, Option.map_some] at hbus
    refine ⟨hkeeps, h.calm, ?_, hdials ▸ h.dialled, ?_, ?_, hrests ▸ h.most, ?_⟩
    · unfold dialRounds
      rw [hdials, hrests, hlink, Option.map_some]
      exact hbus.skip
    · rw [hasks, hrests]
      exact h.tried
    · rw [attempted, hdials, hasks]
      exact h.counts
    · rw [hrests, hlength, hturns]
  | wakes hphase =>
    obtain ⟨hdials, hasks, hrests⟩ := shows_nothing ts (Taken.after_of_next ht)
      (by rw [hphase]; nofun)
    rw [hphase] at hturns hbus
    refine ⟨hkeeps, h.calm, ?_, hdials ▸ h.dialled, ?_, ?_, hrests ▸ h.most, ?_⟩
    · unfold dialRounds
      rw [hdials, hrests]
      exact hbus
    · rw [hasks, hrests]
      exact h.tried
    · rw [attempted, hdials, hasks]
      exact h.counts
    · rw [hrests, hlength, hturns]
  | rests hphase hsink hdown =>
    obtain ⟨hdials, hrests⟩ := shows_rest ts ht hphase hsink rfl
    have hafter := Taken.after_of_next ht
    obtain ⟨htried, hconnected⟩ := h.tried.round hsink h.keeps.sink hafter
    obtain ⟨k, hk, -⟩ := h.tried
    have hmore : (rests (ts ++ [⟨n, s, b⟩])).length = (rests ts).length + 1 := by
      rw [hrests, List.length_append, List.length_singleton]
    rw [hphase] at hturns hbus
    refine ⟨hkeeps, ?_, ?_, ?_, ?_, ?_, ?_, ?_⟩
    · have hcalm := h.calm
      rw [Bridge.isFired, ← hsink.kept.2] at hcalm
      exact hcalm
    · unfold dialRounds
      rw [hdials, hmore, hsink.kept.1]
      exact hbus
    · rw [hdials, hsink.kept.1]
      exact h.dialled
    · rw [hmore]
      exact htried
    · exact hsink.counted h.keeps.sink hk hafter hdials h.counts
    · rw [hmore]
      -- Another round is needed only if link or sink have failed in every round so far.
      rcases hdown with hlink | rfl
      · rw [hlink, Option.map_none] at hbus
        exact le_max_of_le_left hbus.le
      · exact le_max_of_le_right (htried.le hconnected)
    · rw [hmore, hlength, hturns]
      rfl

theorem counted_of_course (hk : b₀.sinks[i]? = some k₀) (hdown : k₀.connected = false)
    (hcalm : b₀.isFired tok = false)
    (h : Course turn (Undisturbed i tok) (start (some i) p tok) b₀ ts s b) :
    Counted i p tok k₀ b₀ ts s b := by
  refine h.invariant (Counted i p tok k₀ b₀) ?_ (fun _ _ _ _ hc hb => hc.between hb)
    fun _ _ _ _ _ _ hc ht => hc.turn ht
  have htried : Tried false k₀.failures 0 k₀.failures
      (if k₀.connected then some true else none) [] := by
    rw [hdown]
    exact .down rfl
  exact ⟨keeps_start _ p tok, hcalm, .down rfl, rfl, ⟨k₀, hk, rfl, htried⟩,
    fun _ => (add_zero _).symm, Nat.zero_le _, rfl⟩

theorem Counted.length_le (h : Counted i p tok k₀ b₀ ts s b) :
    ts.length ≤ 3 * max b₀.dialler.failures k₀.failures + 1 := by
  have hmost := h.most
  have hturns := h.turns
  cases hphase : s.phase with
  | dialling =>
    rw [hphase] at hturns
    dsimp only at hturns
    omega
  | connecting =>
    rw [hphase] at hturns
    dsimp only at hturns
    omega
  | resting wake =>
    rw [hphase] at hturns
    dsimp only at hturns
    omega

/-- What was needed to get a link and a sink up, of which the dialler failed so often at first and
the sink was `k₀`. -/
structure Needed (i : SinkId) (p : Backoff) (k₀ : MemorySink) (b₀ : Bridge)
    (ts : List (Taken Bootstrap)) (l : Link) (b : Bridge) : Prop where
  dials : dials ts = List.replicate b₀.dialler.failures none ++ [some l]
  asks : asks i ts = List.replicate k₀.failures false ++ [true]
  waits : (rests ts).length = max b₀.dialler.failures k₀.failures
  lengths : ∀ j r, (rests ts)[j]? = some r →
    r.wake = Instant.after r.since (p.drawn r.chance (min j Backoff.lastAttempt))
  dialled : b.dialler.attempts = b₀.dialler.attempts + (b₀.dialler.failures + 1)
  asked : b.sinkAttempts i = k₀.attempts + (k₀.failures + 1)
  connected : b.sinkConnected i = true
  counts : ∀ labels, b.meters.connectAttempts.count labels =
    b₀.meters.connectAttempts.count labels +
      .ofNat ((List.replicate b₀.dialler.failures ["failure", "bus"] ++ [["success", "bus"]] ++
        (List.replicate k₀.failures ["failure", "sink"] ++ [["success", "sink"]])).count labels)

theorem needed_of_ends {r : Option Link} (hk : b₀.sinks[i]? = some k₀)
    (hdown : k₀.connected = false) (hcalm : b₀.isFired tok = false)
    (h : Ends turn (Undisturbed i tok) (start (some i) p tok) b₀ ts r b) :
    ∃ l, r = some l ∧ Needed i p k₀ b₀ ts l b := by
  have hends := h
  cases h with
  | @done ts s b b' _ n hcourse ht =>
    have hcounted := counted_of_course hk hdown hcalm hcourse
    have hafter := Taken.after_of_done ht
    obtain ⟨hdials, hrests⟩ := shows_end ts ht
    cases stops_of_turn ht with
    | cancelled _ hfired =>
      rw [hcounted.keeps.token, hcounted.calm] at hfired
      cases hfired
    | @connected l _ hphase hlink hsink =>
      obtain ⟨hsparing, hup⟩ := sparing_of_connected hends
      have hconnected := hup i rfl
      obtain ⟨k, hk, -⟩ := hcounted.tried
      obtain ⟨htried, -⟩ := hcounted.tried.round hsink hcounted.keeps.sink hafter
      obtain ⟨hs, hasks⟩ := htried.outcomes hconnected
      have hbus := hcounted.bus
      unfold dialRounds at hbus
      rw [hphase, hlink, Option.map_some] at hbus
      have hmost := hcounted.most
      -- Link and sink are up in the round after the last wait, and `most` says not later.
      have hf : b₀.dialler.failures < (rests ts).length + 1 := hbus.lt
      refine ⟨l, rfl, ?_, hasks, ?_, hsparing.rests, ?_, ?_, hconnected, fun labels => ?_⟩
      · rw [hdials, hbus.outcomes]
      · rw [hrests]
        omega
      · rw [hsink.kept.1, hcounted.dialled, hbus.outcomes, List.length_append,
          List.length_replicate, List.length_singleton]
      · obtain ⟨k', hk', hattempts, -⟩ := htried
        rw [Bridge.sinkAttempts, hk', Option.map_some, Option.getD_some, hattempts, hasks,
          List.length_append, List.length_replicate, List.length_singleton]
      · rw [hsink.counted hcounted.keeps.sink hk hafter hdials hcounted.counts, attempted, hdials,
          hasks, hbus.outcomes, List.map_append, List.map_append, List.map_replicate,
          List.map_replicate]
        rfl

/-- Left undisturbed, a bootstrap gets there: time passes, and it takes one turn after another. -/
theorem exists_ends (hk : b₀.sinks[i]? = some k₀) (hdown : k₀.connected = false)
    (hcalm : b₀.isFired tok = false) (m : ℕ)
    (h : Course turn (Undisturbed i tok) (start (some i) p tok) b₀ ts s b)
    (hm : 3 * max b₀.dialler.failures k₀.failures + 1 < ts.length + m) :
    ∃ ts' r b', Ends turn (Undisturbed i tok) (start (some i) p tok) b₀ ts' r b' := by
  induction m generalizing ts s b with
  | zero =>
    have hle := (counted_of_course hk hdown hcalm h).length_le
    omega
  | succ m ih =>
    -- A wait is over once its time has passed, so some turn can be taken.
    obtain ⟨b₁, h₁, hgoes⟩ := h.exists_going 0 fun hwait => by
      obtain ⟨wake, hphase, -⟩ := resting_of_wait hwait
      refine ⟨{ b with now := wake }, ⟨rfl, rfl, rfl, id⟩, fun hwait' => ?_⟩
      obtain ⟨wake', hphase', hlt⟩ := resting_of_wait hwait'
      rw [hphase, Phase.resting.injEq] at hphase'
      exact Nat.ne_of_lt hlt hphase'
    cases hturn : s.turn 0 b₁ with
    | wait => exact absurd hturn hgoes
    | next s' b' =>
      refine ih (h₁.taken 0 hturn) ?_
      rw [List.length_append, List.length_singleton]
      omega
    | done r b' => exact ⟨_, r, b', .done 0 h₁ hturn⟩

/-- A bootstrap dials and connects no more than it has to: the bus up to the first success, a sink
only while it is down, with the waits of its policy in between. It ends with a link when everything
is up, and without one only on a fired token. Left undisturbed, with a sink that is down, it comes
to its end after exactly as many tries as fail and one more for each. -/
theorem dials_as_needed (sink : Option SinkId) (p : Backoff) (tok : Token) (b₀ : Bridge) :
    (∀ amid ts s b, Course turn amid (start sink p tok) b₀ ts s b →
      Sparing sink p tok ts s.link) ∧
    (∀ amid ts l b, Ends turn amid (start sink p tok) b₀ ts (some l) b →
      Sparing sink p tok ts (some l) ∧ ∀ i, sink = some i → b.sinkConnected i = true) ∧
    (∀ amid ts b, Ends turn amid (start sink p tok) b₀ ts none b →
      (∃ held, Sparing sink p tok ts held) ∧ b.isFired tok = true) ∧
    ∀ i k₀, sink = some i → b₀.sinks[i]? = some k₀ → k₀.connected = false →
      b₀.isFired tok = false →
      (∀ ts s b, Course turn (Undisturbed i tok) (start sink p tok) b₀ ts s b →
        ts.length ≤ 3 * max b₀.dialler.failures k₀.failures + 1 ∧
        ∀ n, s.turn n b = .wait → ∃ r ∈ rests ts, s.phase = .resting r.wake ∧ b.now < r.wake) ∧
      (∃ ts l b, Ends turn (Undisturbed i tok) (start sink p tok) b₀ ts (some l) b) ∧
      ∀ ts r b, Ends turn (Undisturbed i tok) (start sink p tok) b₀ ts r b →
        ∃ l, r = some l ∧ Needed i p k₀ b₀ ts l b := by
  refine ⟨fun amid ts s b h => (keeps_of_course h).sparing,
    fun amid ts l b h => sparing_of_connected h, fun amid ts b h => fired_of_cancelled h, ?_⟩
  rintro i k₀ rfl hk hdown hcalm
  refine ⟨fun ts s b h => ?_, ?_, fun ts r b h => needed_of_ends hk hdown hcalm h⟩
  · have hcounted := counted_of_course hk hdown hcalm h
    refine ⟨hcounted.length_le, fun n hwait => ?_⟩
    obtain ⟨wake, hphase, hlt⟩ := resting_of_wait hwait
    obtain ⟨r, hr, rfl⟩ := hcounted.keeps.begun wake hphase
    exact ⟨r, hr, hphase, hlt⟩
  · obtain ⟨ts, r, b, hends⟩ := exists_ends (p := p) hk hdown hcalm
      (3 * max b₀.dialler.failures k₀.failures + 2) .start (by omega)
    obtain ⟨l, rfl, -⟩ := needed_of_ends hk hdown hcalm hends
    exact ⟨ts, l, b, hends⟩

/-- Three failed dials and five failed connects take four dials, six connects and five waits. -/
theorem four_dials_and_six_connects :
    let b₀ := Bridge.start [] (.start 3 0) 5
    let p : Backoff := ⟨.ofMillis 100, .ofMillis 1000, 2.0, .none⟩
    ∃ ts l b, Ends turn (Undisturbed 0 ⟨0, none⟩) (start (some 0) p ⟨0, none⟩) b₀ ts (some l) b ∧
      dials ts = [none, none, none, some l] ∧
      asks 0 ts = [false, false, false, false, false, true] ∧ (rests ts).length = 5 ∧
      b.dialler.attempts = 4 ∧ b.sinkAttempts 0 = 6 ∧
      b.meters.connectAttempts.count ["failure", "sink"] = 5 := by
  intro b₀ p
  obtain ⟨-, -, -, h⟩ := dials_as_needed (some 0) p ⟨0, none⟩ b₀
  obtain ⟨-, ⟨ts, l, b, hends⟩, hneeded⟩ := h 0 (.start 5) rfl rfl rfl rfl
  obtain ⟨l', hl, hall⟩ := hneeded ts (some l) b hends
  obtain rfl : l = l' := Option.some.inj hl
  exact ⟨ts, l, b, hends, hall.dials, hall.asks, hall.waits, hall.dialled, hall.asked,
    hall.counts _⟩

end FleetBridge.Bootstrap
