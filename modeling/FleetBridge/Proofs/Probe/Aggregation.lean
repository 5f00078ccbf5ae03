import FleetBridge.Proofs.Probe.Eviction

/-!
What a cycle reports and writes: one status for each event of which a unit answered or was evicted,
whatever the order in which the probes ended.
-/
namespace FleetBridge

namespace Probe

/-- Reports that differ at most in the order of the evictions. -/
structure Report.Alike (r r' : Report) : Prop where
  probed_eq : r'.probed = r.probed
  healthy_eq : r'.healthy = r.healthy
  evicted_perm : r'.evicted.Perm r.evicted
  failed_eq : r'.failed = r.failed
  statuses_eq : r'.statuses = r.statuses
  skipped_eq : r'.skipped = r.skipped

/-- A report says what came of the results. -/
structure Report.Sums (r : Report) (results : List Result) (before after : Roster) : Prop where
  /-- A result counts as an eviction if the very registration was on the roster and no longer is. -/
  dismissed_iff : ∀ x ∈ results, isDismissed before x = true ↔
    x.2 = .unresponsive ∧ x.1 ∈ before.entries ∧ x.1 ∉ after.entries
  evicted_eq : r.evicted = (results.filter (isDismissed before)).map fun x => x.1.unit.unitId
  /-- No event has two statuses. -/
  statuses_ordered : r.statuses.Ordered
  get?_statuses : ∀ event, r.statuses.get? event =
    verdict (answered event results) (dismissed before event results)
  healthy_eq : r.healthy = results.countP fun x => x.2 = .healthy
  failed_eq : r.failed = results.countP fun x => x.2.isFailed
  probed_eq : r.probed = r.healthy + r.evicted.length + r.failed + kept before results
  probed_eq_length : r.probed = results.length
  not_skipped : r.skipped = false

end Probe

namespace Cycle

open Probe

variable {n : Nat} {l : Link} {st : ProbeSettings} {b b' : Bridge} {c c' : Cycle} {r₀ : Roster}
  {results : List Result}

theorem Concluded.isDismissed_iff (h : Concluded r₀ results b) (hs : r₀.Sound) {x : Result}
    (hx : x ∈ results) : isDismissed b.roster x = true ↔
      x.2 = .unresponsive ∧ x.1 ∈ b.roster.entries := by
  have hholds : b.roster.holds x.1.unit.unitId x.1.stamp = true ↔ x.1 ∈ b.roster.entries := by
    rw [(hs.changes h.changes).holds_iff]
    constructor
    · rintro ⟨e, he, hm⟩
      exact h.eq_of_mark hs hx he hm.symm ▸ he
    · intro he
      exact ⟨x.1, he, rfl⟩
  rw [isDismissed, Bool.and_eq_true, decide_eq_true_eq, hholds]

theorem Concluded.sums (h : Concluded r₀ results b) (hs : r₀.Sound) :
    (reportOf b results).Sums results b.roster
      (Settlement.of b.roster b.meters results).roster where
  dismissed_iff x hx := by
    rw [h.isDismissed_iff hs hx, Settlement.of_entries (hs.changes h.changes)]
    refine and_congr_right fun hu => (and_iff_left fun hmem => ?_).symm
    have hany : (results.any fun y => y.2 = .unresponsive && y.1.mark = x.1.mark) = true :=
      List.any_eq_true.mpr ⟨x, hx, by simp [hu]⟩
    have hnone := (List.mem_filter.mp hmem).2
    rw [hany] at hnone
    exact absurd hnone Bool.false_ne_true
  evicted_eq := Settlement.of_evicted _ _ (h.apart hs)
  statuses_ordered := Settlement.of_statuses_ordered _ _ _
  get?_statuses := Settlement.of_statuses_get? _ _ (h.apart hs)
  healthy_eq := Settlement.of_healthy _ _ _
  failed_eq := Settlement.of_failed _ _ _
  probed_eq := by
    have hevicted : (reportOf b results).evicted.length =
        results.countP (isDismissed b.roster) := by
      change (Settlement.of b.roster b.meters results).evicted.length = _
      rw [Settlement.of_evicted _ _ (h.apart hs), List.length_map, List.countP_eq_length_filter]
    have hhealthy : (reportOf b results).healthy = _ := Settlement.of_healthy _ _ _
    have hfailed : (reportOf b results).failed = _ := Settlement.of_failed _ _ _
    rw [hevicted, hhealthy, hfailed]
    exact length_eq_sum b.roster results
  probed_eq_length := rfl
  not_skipped := rfl

/-! The writes. -/

/-- The statuses of a report that are not written yet are those that are left. -/
def Wrote (r : Report) (ts : List (Turn.Taken Cycle)) : Phase → Prop
  | .writing r' rest => r' = r ∧ Turn.written turn ts ++ rest = r.statuses
  | .counting r' => r' = r ∧ Turn.written turn ts = r.statuses
  | _ => False

theorem written_next (ts : List (Turn.Taken Cycle)) (ws : List (Int × Event.Status))
    (ht : c.turn n b = .next c' b') (hb : b'.statuses.updates = b.statuses.updates ++ ws) :
    Turn.written turn (ts ++ [⟨n, c, b⟩]) = Turn.written turn ts ++ ws := by
  have hone : Turn.Taken.written turn ⟨n, c, b⟩ = ws := by
    rw [Turn.Taken.written, ht]
    change b'.statuses.updates.drop _ = ws
    rw [hb, List.drop_left]
  rw [Turn.written_append, hone]

theorem Wrote.turn {r : Report} {ts : List (Turn.Taken Cycle)} (h : Wrote r ts c.phase)
    (ht : c.turn n b = .next c' b') : Wrote r (ts ++ [⟨n, c, b⟩]) c'.phase := by
  obtain ⟨l, st, phase⟩ := c
  cases phase with
  | starting => cases h
  | probing pending underway results => cases h
  | counting r' => cases ht
  | writing r' rest =>
    obtain ⟨hr, hw⟩ := h
    cases rest with
    | nil =>
      have hsame := written_next ts [] ht (by cases ht; simp)
      cases ht
      refine ⟨hr, ?_⟩
      rw [hsame]
      exact hw
    | cons w rest =>
      have hone := written_next ts [w] ht (by cases ht; rfl)
      cases ht
      refine ⟨hr, ?_⟩
      rw [hone, List.append_assoc]
      exact hw

theorem Wrote.done {r r' : Report} {ts : List (Turn.Taken Cycle)} (h : Wrote r ts c.phase)
    (ht : c.turn n b = .done r' b') :
    r' = r ∧ Turn.written Cycle.turn (ts ++ [⟨n, c, b⟩]) = r.statuses := by
  obtain ⟨l, st, phase⟩ := c
  cases phase with
  | starting => cases h
  | probing pending underway results => cases h
  | writing r' rest => cases rest <;> cases ht
  | counting r'' =>
    obtain ⟨hr, hw⟩ := h
    have hnone : Turn.Taken.written Cycle.turn ⟨n, ⟨l, st, .counting r''⟩, b⟩ = [] := by
      rw [Turn.Taken.written, ht]
      cases ht
      exact List.drop_length
    cases ht
    rw [Turn.written_append, hnone, List.append_nil]
    exact ⟨hr, hw⟩

/-- From its settlement on a cycle has no choice but to write what it reports. -/
theorem ends_wrote {amid : Bridge → Bridge → Prop} {r e : Report} {ts : List (Turn.Taken Cycle)}
    (h : Turn.Ends Cycle.turn amid ⟨l, st, .writing r r.statuses⟩ b ts e b') :
    e = r ∧ Turn.written Cycle.turn ts = r.statuses := by
  obtain ⟨n, hcourse, hdone⟩ := h
  have hwrote := hcourse.invariant (fun ts c _ => Wrote r ts c.phase)
    (show Wrote r [] (.writing r r.statuses) from ⟨rfl, rfl⟩)
    (fun _ _ _ _ hc _ => hc) (fun _ _ _ _ _ _ hc ht => hc.turn ht)
  exact hwrote.done hdone

/-- And it comes to its end. -/
theorem exists_ends (amid : Bridge → Bridge → Prop) {c₀ : Cycle} {b₀ : Bridge} {r : Report}
    {rest : Table Int Event.Status} {ts : List (Turn.Taken Cycle)}
    (h : Turn.Course Cycle.turn amid c₀ b₀ ts ⟨l, st, .writing r rest⟩ b) :
    ∃ ts' b', Turn.Ends Cycle.turn amid c₀ b₀ ts' r b' := by
  induction rest generalizing ts b with
  | nil =>
    have hcounting : Turn.Course Cycle.turn amid c₀ b₀ _ ⟨l, st, .counting r⟩ b := h.taken 0 rfl
    exact ⟨_, _, .done 0 hcounting rfl⟩
  | cons w rest ih =>
    have hnext : Turn.Course Cycle.turn amid c₀ b₀ _ ⟨l, st, .writing r rest⟩ _ := h.taken 0 rfl
    exact ih hnext

/-- A cycle that started up to some point of its course. -/
def Drafted (r₀ : Roster) (ts : List (Turn.Taken Cycle)) (c : Cycle) : Prop :=
  (∃ pending underway results, c.phase = .probing pending underway results ∧
    Turn.written turn ts = []) ∨
  ∃ results b, Concluded r₀ results b ∧ Wrote (reportOf b results) ts c.phase

theorem Drafted.turn {ts : List (Turn.Taken Cycle)} (hu : Underway l st r₀ ts c b)
    (h : Drafted r₀ ts c) (ht : c.turn n b = .next c' b') :
    Drafted r₀ (ts ++ [⟨n, c, b⟩]) c' := by
  rcases h with ⟨pending, underway, results, hphase, hnone⟩ | ⟨results, b₁, hconcluded, hwrote⟩
  · have hprobing := hu.probing hphase
    obtain ⟨l', st', phase⟩ := c
    obtain rfl : phase = .probing pending underway results := hphase
    by_cases hopen : pending = [] ∧ underway = []
    · obtain ⟨rfl, rfl⟩ := hopen
      have hsame := written_next ts [] ht (by cases ht; simp)
      rw [hnone] at hsame
      refine .inr ⟨results, b, ⟨?_, hu.changes⟩, ?_⟩
      · exact hprobing.perm
      · rw [turn_settle] at ht
        cases ht
        refine ⟨rfl, ?_⟩
        rw [hsame]
        rfl
    · obtain ⟨hquiet, pending', underway', results', rfl⟩ := turn_open hopen ht
      have hsame := written_next ts [] ht (by rw [hquiet.statuses, List.append_nil])
      rw [hnone] at hsame
      exact .inl ⟨pending', underway', results', rfl, hsame⟩
  · exact .inr ⟨results, b₁, hconcluded, hwrote.turn ht⟩

/-- A cycle that ends without having been skipped wrote the statuses of its report. -/
theorem ends_reported {c₀ : Cycle} {b₀ b₁ : Bridge} {n₀ : Nat} {ts : List (Turn.Taken Cycle)}
    {r : Report} (hstart : (start l st).turn n₀ b₀ = .next c₀ b₁)
    (h : Turn.Ends Cycle.turn Bridge.Amid c₀ b₁ ts r b') :
    ∃ results b, Concluded b₀.roster results b ∧ r = reportOf b results ∧
      Turn.written Cycle.turn ts = r.statuses := by
  obtain ⟨n, hcourse, hdone⟩ := h
  obtain ⟨-, rfl, rfl⟩ := turn_start hstart
  have hdrafted := hcourse.invariant
    (fun ts c b => Underway l st b₁.roster ts c b ∧ Drafted b₁.roster ts c) ?_ ?_ ?_
  · rcases hdrafted.2 with ⟨pending, underway, results, hphase, -⟩ | ⟨results, b, hb, hwrote⟩
    · rcases (turn_done hdone).2 with hcounting | ⟨hstarting, -⟩
      · exact nomatch hphase.symm.trans hcounting
      · exact nomatch hphase.symm.trans hstarting
    · obtain ⟨rfl, hwritten⟩ := hwrote.done hdone
      exact ⟨results, b, hb, rfl, hwritten⟩
  · exact ⟨course_underway hstart .start, .inl ⟨_, _, _, rfl, rfl⟩⟩
  · intro ts c b b' hc hb
    exact ⟨hc.1.amid hb, hc.2⟩
  · intro ts n c b c' b' hc ht
    exact ⟨hc.1.turn ht, hc.2.turn hc.1 ht⟩

/-! The order of the results. -/

theorem alike_reportOf {results' : List Result} (h : Apart results) (hp : results.Perm results')
    (b : Bridge) : (reportOf b results).Alike (reportOf b results') where
  probed_eq := hp.length_eq.symm
  healthy_eq := by
    change (Settlement.of _ _ results').healthy = (Settlement.of _ _ results).healthy
    rw [Settlement.of_healthy, Settlement.of_healthy, hp.countP_eq]
  evicted_perm := (Settlement.of_evicted_perm h hp _ _).symm
  failed_eq := by
    change (Settlement.of _ _ results').failed = (Settlement.of _ _ results).failed
    rw [Settlement.of_failed, Settlement.of_failed, hp.countP_eq]
  statuses_eq := by
    change (Settlement.of _ _ results').tally.statuses = (Settlement.of _ _ results).tally.statuses
    rw [Settlement.of_tally_perm h hp]
  skipped_eq := rfl

/-- A cycle with another report to write. -/
def restated (r : Report) (c : Cycle) : Cycle :=
  { c with phase := match c.phase with
    | .writing _ rest => .writing r rest
    | .counting _ => .counting r
    | p => p }

/-- The report that a cycle is about to give is a given one. -/
def States (r : Report) (c : Cycle) : Prop :=
  match c.phase with
  | .writing r' _ => r' = r
  | .counting r' => r' = r
  | _ => False

theorem States.turn {r : Report} (h : States r c) (ht : c.turn n b = .next c' b') :
    States r c' := by
  obtain ⟨l, st, phase⟩ := c
  cases phase with
  | starting => cases h
  | probing pending underway results => cases h
  | counting r' => cases ht
  | writing r' rest =>
    cases rest <;>
    · cases ht
      exact h

/-- Reports that are alike show in nothing that a cycle does with them. -/
theorem turn_restated {r r' : Report} (ha : r.Alike r') (n : Nat) (b : Bridge)
    (h : States r c) :
    (c.restated r').turn n b = (c.turn n b).map (restated r') fun _ => r' := by
  obtain ⟨l, st, phase⟩ := c
  cases phase with
  | starting => cases h
  | probing pending underway results => cases h
  | writing r₁ rest => cases rest <;> rfl
  | counting r₁ =>
    obtain rfl : r₁ = r := h
    have hlive : r'.live = r₁.live := by rw [Report.live, ha.statuses_eq, Report.live]
    change Turn.done r' (b.metered fun m =>
      (m.addEvictions r'.evicted.length).setLiveEvents r'.live).meterRoster = _
    rw [hlive, ha.evicted_perm.length_eq]
    rfl

theorem ends_restated {amid : Bridge → Bridge → Prop} {r r' e : Report}
    {ts : List (Turn.Taken Cycle)} (ha : r.Alike r')
    (h : Turn.Ends Cycle.turn amid ⟨l, st, .writing r r.statuses⟩ b ts e b') :
    ∃ ts', Turn.Ends Cycle.turn amid ⟨l, st, .writing r' r'.statuses⟩ b ts' r' b' := by
  obtain ⟨n, hcourse, hdone⟩ := h
  -- The two cycles go in lockstep: `restated r'` takes every turn of one to a turn of the other.
  have hfirst : States r ⟨l, st, .writing r r.statuses⟩ := rfl
  obtain ⟨hstates, hcourse'⟩ := hcourse.map (States r) (restated r') (fun _ => r') hfirst
    (fun _ _ _ _ _ hs ht => hs.turn ht) (fun n _ b hs => turn_restated ha n b hs)
  have hdone' := (turn_restated ha n _ hstates).trans
    (congrArg (Turn.map (restated r') fun _ => r') hdone)
  have hstart : restated r' ⟨l, st, .writing r r.statuses⟩ = ⟨l, st, .writing r' r'.statuses⟩ := by
    rw [ha.statuses_eq]
    rfl
  rw [hstart] at hcourse'
  exact ⟨_, .done n hcourse' hdone'⟩

/-- A cycle that is not skipped reports what came of the results it got for its snapshot, and
writes exactly the statuses of its report, each once. Whatever the results are, the report counts
them as it should; and another order of them changes no more than the order of the evictions. -/
theorem statuses_exact (hr : r₀.Reachable) (l : Link) (st : ProbeSettings) :
    (∀ (b₀ b₁ b : Bridge) (n₀ : Nat) (c₀ : Cycle) (ts : List (Turn.Taken Cycle)) (r : Report),
      b₀.roster = r₀ → (start l st).turn n₀ b₀ = .next c₀ b₁ →
      Turn.Ends Cycle.turn Bridge.Amid c₀ b₁ ts r b →
      ∃ results b₂, Concluded r₀ results b₂ ∧ r = reportOf b₂ results ∧
        Turn.written Cycle.turn ts = r.statuses) ∧
    (∀ (results : List Result) (b : Bridge) (n : Nat), Concluded r₀ results b →
      ∃ r b', turn n ⟨l, st, .probing [] [] results⟩ b = .next ⟨l, st, .writing r r.statuses⟩ b' ∧
        r = reportOf b results ∧ r.Sums results b.roster b'.roster ∧
        ∀ amid, (∃ ts b'', Turn.Ends Cycle.turn amid ⟨l, st, .writing r r.statuses⟩ b' ts r b'') ∧
          ∀ ts e b'', Turn.Ends Cycle.turn amid ⟨l, st, .writing r r.statuses⟩ b' ts e b'' →
            e = r ∧ Turn.written Cycle.turn ts = r.statuses) ∧
    ∀ (results results' : List Result) (b : Bridge) (n n' : Nat), Concluded r₀ results b →
      results.Perm results' →
      ∃ r r' b', turn n ⟨l, st, .probing [] [] results⟩ b =
          .next ⟨l, st, .writing r r.statuses⟩ b' ∧
        turn n' ⟨l, st, .probing [] [] results'⟩ b =
          .next ⟨l, st, .writing r' r'.statuses⟩ b' ∧
        r.Alike r' ∧
        ∀ amid ts b'', Turn.Ends Cycle.turn amid ⟨l, st, .writing r r.statuses⟩ b' ts r b'' →
          ∃ ts', Turn.Ends Cycle.turn amid ⟨l, st, .writing r' r'.statuses⟩ b' ts' r' b'' ∧
            Turn.written Cycle.turn ts' = Turn.written Cycle.turn ts := by
  refine ⟨?_, ?_, ?_⟩
  · rintro b₀ b₁ b n₀ c₀ ts r rfl hstart hends
    exact ends_reported hstart hends
  · intro results b n h
    refine ⟨_, _, turn_settle n l st results b, rfl, h.sums hr.sound, fun amid => ⟨?_, ?_⟩⟩
    · exact exists_ends amid .start
    · intro ts e b'' hends
      exact ends_wrote hends
  · intro results results' b n n' h hp
    have hapart := h.apart hr.sound
    have hsettle := turn_settle n' l st results' b
    rw [← Settlement.of_roster_perm hapart hp, ← Settlement.of_meters_perm hp] at hsettle
    have halike := alike_reportOf hapart hp b
    refine ⟨_, _, _, turn_settle n l st results b, hsettle, halike, ?_⟩
    intro amid ts b'' hends
    obtain ⟨ts', hends'⟩ := ends_restated halike hends
    refine ⟨ts', hends', ?_⟩
    rw [(ends_wrote hends').2, (ends_wrote hends).2, halike.statuses_eq]

/-- One unit of an event answers and one is evicted; a third is silent too but registered again. -/
theorem tie_and_newcomer_not_live :
    ∃ r b' ts b'',
      turn 0 ⟨.working 0, ⟨5000, 2000, 1⟩, .probing [] [] [(⟨.bare "U2" 7, 2⟩, .unresponsive),
          (⟨.bare "U3" 9, 3⟩, .unresponsive), (⟨.bare "U1" 7, 1⟩, .healthy)]⟩
          (.holding ((((Roster.empty.register (.bare "U1" 7)).register (.bare "U2" 7)).register
            (.bare "U3" 9)).register (.bare "U3" 9))) =
        .next ⟨.working 0, ⟨5000, 2000, 1⟩, .writing r r.statuses⟩ b' ∧
      Turn.Ends Cycle.turn Bridge.Amid
        ⟨.working 0, ⟨5000, 2000, 1⟩, .writing r r.statuses⟩ b' ts r b'' ∧
      Turn.written Cycle.turn ts = [(7, .notLive)] ∧ r.evicted = ["U2"] ∧ r.probed = 3 := by
  have hr : (((Roster.empty.register (.bare "U1" 7)).register (.bare "U2" 7)).register
      (.bare "U3" 9)).Reachable :=
    ((Relation.ReflTransGen.single (.registered _ _)).tail (.registered _ _)).tail
      (.registered _ _)
  have hsnapshot : (((Roster.empty.register (.bare "U1" 7)).register (.bare "U2" 7)).register
      (.bare "U3" 9)).entries = [⟨.bare "U1" 7, 1⟩, ⟨.bare "U2" 7, 2⟩, ⟨.bare "U3" 9, 3⟩] :=
    Roster.entries_eq_of_pairwise (by decide)
  have hconcluded : Concluded
      (((Roster.empty.register (.bare "U1" 7)).register (.bare "U2" 7)).register (.bare "U3" 9))
      [(⟨.bare "U2" 7, 2⟩, .unresponsive), (⟨.bare "U3" 9, 3⟩, .unresponsive),
        (⟨.bare "U1" 7, 1⟩, .healthy)]
      (.holding ((((Roster.empty.register (.bare "U1" 7)).register (.bare "U2" 7)).register
        (.bare "U3" 9)).register (.bare "U3" 9))) := by
    refine ⟨?_, .single (.registered _ _)⟩
    rw [hsnapshot]
    exact @List.perm_append_comm _ [_, _] [_]
  obtain ⟨r, b', hturn, rfl, hsums, hends⟩ :=
    (statuses_exact hr (.working 0) ⟨5000, 2000, 1⟩).2.1 _ _ 0 hconcluded
  obtain ⟨ts, b'', hend⟩ := (hends Bridge.Amid).1
  refine ⟨_, b', ts, b'', hturn, hend, ?_, rfl, hsums.probed_eq_length⟩
  rw [((hends Bridge.Amid).2 _ _ _ hend).2]
  rfl

end Cycle
end FleetBridge
