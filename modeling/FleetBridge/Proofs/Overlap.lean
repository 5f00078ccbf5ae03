import FleetBridge.Proofs.Bridge.Tasks
import FleetBridge.Proofs.Probe.Aggregation
import FleetBridge.Proofs.Registration.Handling
import FleetBridge.Proofs.StatusLog

/-!
One cycle side by side with any number of registrations, turn by turn. The cycle can undo what a
registration wrote, but only with a verdict of its own.
-/
namespace FleetBridge

open Probe

/-- What can come next: a turn of any task, an announcement, or something that shows neither on the
roster nor in the status log nor among the tasks. -/
inductive Bridge.Moves : Bridge → Bridge → Prop
  | turn {b b' : Bridge} (n : Nat) (i : TaskId) : b.turn? n i = some b' → Moves b b'
  | announced (l : Link) (m : Message) (b : Bridge) :
    Moves b (b.spawn (.registration (.start l m))).2
  | outside {b b' : Bridge} : Bridge.Quiet b b' → Moves b b'

abbrev Bridge.Run : Bridge → Bridge → Prop := Relation.ReflTransGen Bridge.Moves

/-- How far the task of a cycle got in a run from `b₀`, where it took its snapshot at `y`. -/
inductive Cycle.Stage (b₀ : Bridge) (i : TaskId) (l : Link) (st : ProbeSettings) (b : Bridge) :
    Program → Prop
  | starting : Stage b₀ i l st b (.cycle (.start l st))
  | underway {y : Bridge} {ts : List (Turn.Taken Cycle)} {c : Cycle} : Bridge.Run b₀ y →
    y.program? i = some (.cycle (.start l st)) → y.roster.Reachable →
    Cycle.Underway l st y.roster ts c b → Cycle.Drafted y.roster ts c →
    Stage b₀ i l st b (.cycle c)
  | ended (r : Report) : Stage b₀ i l st b (.finished (.probed r))

theorem Cycle.Stage.amid {b₀ b b' : Bridge} {i : TaskId} {l : Link} {st : ProbeSettings}
    {p : Program} (h : Cycle.Stage b₀ i l st b p) (hb : Bridge.Amid b b') :
    Cycle.Stage b₀ i l st b' p := by
  cases h with
  | starting => exact .starting
  | underway hy hstart hr hu hd => exact .underway hy hstart hr (hu.amid hb) hd
  | ended r => exact .ended r

/-- A bridge in a run whose tasks are one cycle and registrations. -/
structure Overlap (b₀ : Bridge) (i : TaskId) (l : Link) (st : ProbeSettings) (b : Bridge) :
    Prop where
  run : Bridge.Run b₀ b
  lt_nextTask : ∀ j p, b.program? j = some p → j < b.nextTask
  reachable : b.roster.Reachable
  cycle : ∃ p, b.program? i = some p ∧ Cycle.Stage b₀ i l st b p
  others : ∀ j p, j ≠ i → b.program? j = some p →
    (∃ r, p = .registration r) ∨ ∃ e, p = .finished e

namespace Overlap

/-- The report of a task's cycle, once there is one. -/
def report? (i : TaskId) (b : Bridge) : Option Report :=
  match b.program? i with
  | some (.cycle c) => c.report?
  | some (.finished (.probed r)) => some r
  | _ => none

/-- The event of a unit is marked and the unit not filed yet. -/
def Filing (u : FieldUnit) (b : Bridge) : Prop :=
  ∃ j r, b.program? j = some (.registration r) ∧ r.phase = .filing u

/-- A report is drawn up when the results are settled, and stays. -/
def Reports (i : TaskId) (b b' : Bridge) : Prop :=
  report? i b' = report? i b ∨ report? i b = none ∧ (report? i b' = some .skip ∨
    ∃ c results, b.program? i = some (.cycle c) ∧ c.phase = .probing [] [] results ∧
      report? i b' = some (Cycle.reportOf b results))

/-- What shows of a move: nothing, the mark of a registration, or a write of the cycle. -/
inductive Effect (i : TaskId) (b b' : Bridge) : Prop
  | silent : b'.statuses = b.statuses → (∀ u, Filing u b' → Filing u b) → Effect i b b'
  | marked (u : FieldUnit) : b'.statuses = b.statuses.write u.eventId .live →
    (∀ v, Filing v b' → Filing v b ∨ v = u) → Effect i b b'
  | wrote (r : Report) (event : Int) (status : Event.Status) :
    b'.statuses = b.statuses.write event status → report? i b = some r →
    r.statuses.get? event = some status → (∀ u, Filing u b' → Filing u b) → Effect i b b'

/-- A move keeps the bridge in order, and only the cycle's settlement draws up its report. -/
structure Moved (b₀ : Bridge) (i : TaskId) (l : Link) (st : ProbeSettings) (b b' : Bridge) :
    Prop where
  overlap : Overlap b₀ i l st b'
  reports : Reports i b b'
  effect : Effect i b b'

theorem Reports.kept {i : TaskId} {b b' : Bridge} (h : Reports i b b') {r : Report}
    (hr : report? i b = some r) : report? i b' = some r := by
  rcases h with hsame | ⟨hnone, -⟩
  · exact hsame.trans hr
  · exact nomatch hnone.symm.trans hr

variable {i j : TaskId} {l : Link} {st : ProbeSettings} {b b' b₀ b₁ : Bridge} {n : Nat}

/-- A task took a turn and keeps to what it is: the cycle's task to its course, and another one to
its registration. -/
theorem placed {p₀ p : Program} (h : Overlap b₀ i l st b) (hrun : Bridge.Run b₀ b')
    (hj : b.program? j = some p₀) (htasks : b₁.tasks = b.tasks ∧ b₁.nextTask = b.nextTask)
    (hamid : Bridge.Amid b b₁) (hplaced : Bridge.Placed j p b₁ b')
    (hcycle : j = i → Cycle.Stage b₀ i l st b₁ p)
    (hother : j ≠ i → (∃ r, p = .registration r) ∨ ∃ e, p = .finished e) :
    Overlap b₀ i l st b' := by
  have hself := hplaced.self
  have hne {k : TaskId} (hk : k ≠ j) : b'.program? k = b.program? k :=
    (hplaced.ne k hk).trans (Bridge.program?_congr htasks.1 k)
  refine ⟨hrun, fun k q hq => ?_, ?_, ?_, fun k q hk hq => ?_⟩
  · rw [hplaced.nextTask, htasks.2]
    by_cases hkj : k = j
    · exact hkj ▸ h.lt_nextTask j p₀ hj
    · exact h.lt_nextTask k q ((hne hkj).symm.trans hq)
  · rw [hplaced.calm.roster]
    exact h.reachable.trans hamid.roster
  · by_cases hji : j = i
    · exact ⟨p, hji ▸ hself, (hcycle hji).amid hplaced.calm.amid⟩
    · obtain ⟨p₁, hp₁, hstage⟩ := h.cycle
      exact ⟨p₁, (hne (Ne.symm hji)).trans hp₁, (hstage.amid hamid).amid hplaced.calm.amid⟩
  · by_cases hkj : k = j
    · obtain rfl : p = q := Option.some.inj (hself.symm.trans (hkj ▸ hq))
      exact hother (hkj ▸ hk)
    · exact h.others k q hk ((hne hkj).symm.trans hq)

/-- Only the task that took a turn can have come to file a unit. -/
theorem filing_placed {p : Program} (htasks : b₁.tasks = b.tasks)
    (hplaced : Bridge.Placed j p b₁ b') {u : FieldUnit} (hu : Filing u b') :
    Filing u b ∨ ∃ r, p = .registration r ∧ r.phase = .filing u := by
  obtain ⟨k, r, hk, hphase⟩ := hu
  by_cases hkj : k = j
  · rw [hkj, hplaced.self] at hk
    exact .inr ⟨r, Option.some.inj hk, hphase⟩
  · rw [hplaced.ne k hkj, Bridge.program?_congr htasks] at hk
    exact .inl ⟨k, r, hk, hphase⟩

theorem filing_of_placed {p : Program} (htasks : b₁.tasks = b.tasks)
    (hplaced : Bridge.Placed j p b₁ b') (hp : ∀ r, p ≠ .registration r) (u : FieldUnit)
    (hu : Filing u b') : Filing u b := by
  rcases filing_placed htasks hplaced hu with hold | ⟨r, hr, -⟩
  · exact hold
  · exact absurd hr (hp r)

/-! Turns of the cycle. -/

theorem stage_next {c c' : Cycle} (h : Overlap b₀ i l st b)
    (hp : b.program? i = some (.cycle c)) (hs : Cycle.Stage b₀ i l st b (.cycle c))
    (ht : c.turn n b = .next c' b₁) : Cycle.Stage b₀ i l st b₁ (.cycle c') := by
  cases hs with
  | starting =>
    have hu := Cycle.course_underway ht .start
    obtain ⟨-, rfl, rfl⟩ := Cycle.turn_start ht
    exact .underway h.run hp h.reachable hu (.inl ⟨_, _, _, rfl, rfl⟩)
  | underway hy hstart hr hu hd => exact .underway hy hstart hr (hu.turn ht) (hd.turn hu ht)

/-- A status that a cycle is about to write is the one that it reports. -/
theorem get?_of_writing {c : Cycle} {r : Report} {event : Int} {status : Event.Status}
    {rest : Table Int Event.Status} (h : Cycle.Stage b₀ i l st b (.cycle c))
    (hphase : c.phase = .writing r ((event, status) :: rest)) :
    r.statuses.get? event = some status := by
  cases h with
  | starting => cases hphase
  | underway hy hstart hr hu hd =>
    rcases hd with ⟨pending, underway, results, hprobing, -⟩ | ⟨results, b₂, hc, hwrote⟩
    · exact nomatch hprobing.symm.trans hphase
    · rw [hphase] at hwrote
      obtain ⟨rfl, hwritten⟩ := hwrote
      have hordered : (Cycle.reportOf b₂ results).statuses.Ordered :=
        (hc.sums hr.sound).statuses_ordered
      rw [hordered.get?_eq_some_iff, ← hwritten]
      exact List.mem_append_right _ List.mem_cons_self

theorem turn_cycle (h : Overlap b₀ i l st b) (ht : b.turn? n i = some b') :
    Moved b₀ i l st b b' := by
  have hrun := h.run.tail (.turn n i ht)
  obtain ⟨p, hp, hcases⟩ := Bridge.turn?_eq_some ht
  obtain ⟨p₀, hp₀, hstage⟩ := h.cycle
  obtain rfl : p₀ = p := Option.some.inj (hp₀.symm.trans hp)
  -- A task that is over takes no turn, so the program is that of a cycle.
  have hcycle : ∃ c, p₀ = .cycle c := by
    cases hstage with
    | starting => exact ⟨_, rfl⟩
    | underway => exact ⟨_, rfl⟩
    | ended r => rcases hcases with ⟨p', b₁, hnext, -⟩ | ⟨e, b₁, hdone, -⟩ <;> contradiction
  obtain ⟨c, rfl⟩ := hcycle
  have hreport : report? i b = c.report? := by rw [report?, hp]
  have htasks := Cycle.tasks_eq_turn n c b
  have hamid := Cycle.amid_turn n c b
  rcases hcases with ⟨p', b₁, hnext, hplaced⟩ | ⟨e, b₁, hdone, hplaced⟩
  · obtain ⟨c', hc', rfl⟩ := Turn.map_eq_next hnext
    rw [hc'] at htasks hamid
    have hoverlap := h.placed hrun hp htasks hamid hplaced
      (fun _ => h.stage_next hp hstage hc') fun hne => absurd rfl hne
    have hfiling := filing_of_placed htasks.1 hplaced nofun
    have hreport' : report? i b' = c'.report? := by rw [report?, hplaced.self]
    rcases Cycle.turn_next hc' with ⟨hquiet, hsame⟩ | ⟨results, hphase, rfl, rfl⟩ |
      ⟨r, event, status, rest, hphase, rfl, rfl⟩
    · refine ⟨hoverlap, .inl ?_, .silent (hplaced.calm.statuses.trans hquiet.statuses) hfiling⟩
      rw [hreport', hsame, hreport]
    · refine ⟨hoverlap, .inr ⟨?_, .inr ⟨c, results, hp, hphase, hreport'⟩⟩,
        .silent hplaced.calm.statuses hfiling⟩
      rw [hreport, Cycle.report?, hphase]
    · refine ⟨hoverlap, .inl ?_, .wrote r event status hplaced.calm.statuses ?_
        (get?_of_writing hstage hphase) hfiling⟩
      · rw [hreport', hreport, Cycle.report?, Cycle.report?, hphase]
      · rw [hreport, Cycle.report?, hphase]
  · obtain ⟨r, hr, rfl⟩ := Turn.map_eq_done hdone
    rw [hr] at htasks hamid
    obtain ⟨hquiet, hphase⟩ := Cycle.turn_done hr
    have hreport' : report? i b' = some r := by rw [report?, hplaced.self]
    have hoverlap := h.placed hrun hp htasks hamid hplaced (fun _ => .ended r)
      fun hne => absurd rfl hne
    refine ⟨hoverlap, ?_, .silent (hplaced.calm.statuses.trans hquiet.statuses)
        (filing_of_placed htasks.1 hplaced nofun)⟩
    rcases hphase with hphase | ⟨hphase, rfl⟩
    · refine .inl ?_
      rw [hreport', hreport, Cycle.report?, hphase]
    · refine .inr ⟨?_, .inl hreport'⟩
      rw [hreport, Cycle.report?, hphase]

/-! Turns of registrations. -/

theorem report?_congr (h : b'.program? i = b.program? i) : report? i b' = report? i b := by
  rw [report?, h, report?]

theorem reports_of_ne {p : Program} (hj : j ≠ i) (htasks : b₁.tasks = b.tasks)
    (hplaced : Bridge.Placed j p b₁ b') : Reports i b b' :=
  .inl (report?_congr ((hplaced.ne i (Ne.symm hj)).trans (Bridge.program?_congr htasks i)))

theorem turn_registration (h : Overlap b₀ i l st b) (hj : j ≠ i) (ht : b.turn? n j = some b') :
    Moved b₀ i l st b b' := by
  have hrun := h.run.tail (.turn n j ht)
  obtain ⟨p, hp, hcases⟩ := Bridge.turn?_eq_some ht
  obtain ⟨r, rfl⟩ : ∃ r, p = .registration r := by
    rcases h.others j p hj hp with hr | ⟨e, rfl⟩
    · exact hr
    · rcases hcases with ⟨p', b₁, hnext, -⟩ | ⟨e, b₁, hdone, -⟩ <;> contradiction
  have htasks := r.tasks_eq_turn b
  have hamid := r.amid_turn b
  rcases hcases with ⟨p', b₁, hnext, hplaced⟩ | ⟨e, b₁, hdone, hplaced⟩
  · obtain ⟨r', hr', rfl⟩ := Turn.map_eq_next hnext
    rw [hr'] at htasks hamid
    have hoverlap := h.placed hrun hp htasks hamid hplaced (fun hi => absurd hi hj)
      fun _ => .inl ⟨r', rfl⟩
    have hreports := reports_of_ne hj htasks.1 hplaced
    have hfiling {u : FieldUnit} (hu : Filing u b') : Filing u b ∨ r'.phase = .filing u := by
      rcases filing_placed htasks.1 hplaced hu with hold | ⟨q, hq, hphase⟩
      · exact .inl hold
      · cases hq
        exact .inr hphase
    rcases Registration.turn_next hr' with ⟨hquiet, hmarked, hfiled⟩ | ⟨u, hphase, rfl, rfl⟩ |
      ⟨u, hphase, rfl, rfl⟩
    · refine ⟨hoverlap, hreports,
        .silent (hplaced.calm.statuses.trans hquiet.statuses) fun u hu => ?_⟩
      rcases hfiling hu with hold | hnew
      · exact hold
      · rw [Registration.Phase.eq_filing_iff, hmarked, hfiled,
          ← Registration.Phase.eq_filing_iff] at hnew
        exact ⟨j, r, hp, hnew⟩
    · refine ⟨hoverlap, hreports, .marked u hplaced.calm.statuses fun v hv => ?_⟩
      rcases hfiling hv with hold | hnew
      · exact .inl hold
      · cases hnew
        exact .inr rfl
    · refine ⟨hoverlap, hreports, .silent hplaced.calm.statuses fun v hv => ?_⟩
      rcases hfiling hv with hold | hnew
      · exact hold
      · cases hnew
  · obtain ⟨o, ho, rfl⟩ := Turn.map_eq_done hdone
    rw [ho] at htasks hamid
    have hoverlap := h.placed hrun hp htasks hamid hplaced (fun hi => absurd hi hj)
      fun _ => .inr ⟨_, rfl⟩
    have hquiet := (Registration.turn_done ho).2
    exact ⟨hoverlap, reports_of_ne hj htasks.1 hplaced,
      .silent (hplaced.calm.statuses.trans hquiet.statuses)
        (filing_of_placed htasks.1 hplaced nofun)⟩

/-! Any move. -/

theorem announced (h : Overlap b₀ i l st b) (l' : Link) (m : Message) :
    Moved b₀ i l st b (b.spawn (.registration (.start l' m))).2 := by
  obtain ⟨p₀, hp₀, hstage⟩ := h.cycle
  have hi : i ≠ b.nextTask := Nat.ne_of_lt (h.lt_nextTask i p₀ hp₀)
  refine ⟨⟨h.run.tail (.announced l' m b), ?_, h.reachable, ?_, ?_⟩, ?_, ?_⟩
  · intro k q hk
    by_cases hknew : k = b.nextTask
    · rw [hknew]
      exact Nat.lt_succ_self b.nextTask
    · rw [Bridge.program?_spawn_of_ne hknew] at hk
      exact Nat.lt_succ_of_lt (h.lt_nextTask k q hk)
  · refine ⟨p₀, ?_, hstage.amid (Bridge.amid_spawn _ b)⟩
    rw [Bridge.program?_spawn_of_ne hi, hp₀]
  · intro k q hki hk
    by_cases hknew : k = b.nextTask
    · rw [hknew, Bridge.program?_spawn_self] at hk
      exact .inl ⟨_, (Option.some.inj hk).symm⟩
    · rw [Bridge.program?_spawn_of_ne hknew] at hk
      exact h.others k q hki hk
  · exact .inl (report?_congr (Bridge.program?_spawn_of_ne hi _))
  · refine .silent rfl fun u hu => ?_
    obtain ⟨k, q, hk, hphase⟩ := hu
    by_cases hknew : k = b.nextTask
    · rw [hknew, Bridge.program?_spawn_self] at hk
      cases hk
      cases hphase
    · rw [Bridge.program?_spawn_of_ne hknew] at hk
      exact ⟨k, q, hk, hphase⟩

theorem outside (h : Overlap b₀ i l st b) (hb : Bridge.Quiet b b') : Moved b₀ i l st b b' := by
  have hprogram := Bridge.program?_congr hb.tasks
  refine ⟨⟨h.run.tail (.outside hb), ?_, hb.roster ▸ h.reachable, ?_, ?_⟩, ?_, ?_⟩
  · intro k q hk
    rw [hb.nextTask]
    exact h.lt_nextTask k q ((hprogram k).symm.trans hk)
  · obtain ⟨p₀, hp₀, hstage⟩ := h.cycle
    exact ⟨p₀, (hprogram i).trans hp₀, hstage.amid hb.amid⟩
  · intro k q hki hk
    exact h.others k q hki ((hprogram k).symm.trans hk)
  · exact .inl (report?_congr (hprogram i))
  · refine .silent hb.statuses fun u hu => ?_
    obtain ⟨k, q, hk, hphase⟩ := hu
    exact ⟨k, q, (hprogram k).symm.trans hk, hphase⟩

theorem moved (h : Overlap b₀ i l st b) (hm : Bridge.Moves b b') : Moved b₀ i l st b b' := by
  cases hm with
  | turn n j ht =>
    by_cases hj : j = i
    · exact h.turn_cycle (hj ▸ ht)
    · exact h.turn_registration hj ht
  | announced l' m => exact h.announced l' m
  | outside hb => exact h.outside hb

/-! Any run. -/

theorem start (htasks : b.tasks = [(i, .cycle (.start l st))]) (hi : i < b.nextTask)
    (hroster : b.roster.Reachable) :
    Overlap b i l st b ∧ report? i b = none ∧ ∀ u, ¬ Filing u b := by
  have hprogram : ∀ j p, b.program? j = some p → j = i ∧ p = .cycle (.start l st) := by
    intro j p hp
    rw [Bridge.program?, htasks, Table.get?] at hp
    split at hp
    next hj => exact ⟨hj, (Option.some.inj hp).symm⟩
    next => cases hp
  have hself : b.program? i = some (.cycle (.start l st)) := by
    rw [Bridge.program?, htasks, Table.get?, if_pos rfl]
  refine ⟨⟨.refl, ?_, hroster, ⟨_, hself, .starting⟩, ?_⟩, ?_, ?_⟩
  · intro j p hp
    rw [(hprogram j p hp).1]
    exact hi
  · intro j p hj hp
    exact absurd (hprogram j p hp).1 hj
  · rw [report?, hself]
    rfl
  · rintro u ⟨j, r, hp, -⟩
    cases (hprogram j _ hp).2

/-- An event is live, or it is not and the cycle itself reports so. -/
def LiveUnlessReported (i : TaskId) (event : Int) (b : Bridge) : Prop :=
  b.statuses.last? event = some .live ∨
    b.statuses.last? event = some .notLive ∧
      ∃ r, report? i b = some r ∧ r.statuses.get? event = some .notLive

theorem LiveUnlessReported.kept {event : Int} (h : LiveUnlessReported i event b)
    (hr : Reports i b b') (hlast : b'.statuses.last? event = b.statuses.last? event) :
    LiveUnlessReported i event b' := by
  rw [LiveUnlessReported, hlast]
  rcases h with hlive | ⟨hnot, r, hreport, hget⟩
  · exact .inl hlive
  · exact .inr ⟨hnot, r, hr.kept hreport, hget⟩

theorem LiveUnlessReported.moved {event : Int} (h : LiveUnlessReported i event b)
    (hm : Moved b₀ i l st b b') : LiveUnlessReported i event b' := by
  cases hm.effect with
  | silent hstatuses _ => exact h.kept hm.reports (hstatuses ▸ rfl)
  | marked u hstatuses _ =>
    by_cases hevent : event = u.eventId
    · refine .inl ?_
      rw [hstatuses, hevent, StatusLog.last?_write_self]
    · refine h.kept hm.reports ?_
      rw [hstatuses, StatusLog.last?_write_of_ne hevent]
  | wrote r event' status hstatuses hr hget _ =>
    by_cases hevent : event = event'
    · subst hevent
      rw [LiveUnlessReported, hstatuses, StatusLog.last?_write_self]
      cases status with
      | live => exact .inl rfl
      | notLive => exact .inr ⟨rfl, r, hm.reports.kept hr, hget⟩
    · refine h.kept hm.reports ?_
      rw [hstatuses, StatusLog.last?_write_of_ne hevent]

/-- The bridges of a run: what they have in common, and where the cycle's report comes from. -/
structure Kept (b₀ : Bridge) (i : TaskId) (l : Link) (st : ProbeSettings) (b : Bridge) :
    Prop where
  overlap : Overlap b₀ i l st b
  filing : ∀ u, Filing u b → LiveUnlessReported i u.eventId b
  settled : ∀ r, report? i b = some r → r = .skip ∨ ∃ x c results, Overlap b₀ i l st x ∧
    x.program? i = some (.cycle c) ∧ c.phase = .probing [] [] results ∧
    r = Cycle.reportOf x results ∧ Bridge.Run x b

theorem Kept.moved (h : Kept b₀ i l st b) (hm : Bridge.Moves b b') : Kept b₀ i l st b' := by
  have hmoved := h.overlap.moved hm
  refine ⟨hmoved.overlap, fun u hu => ?_, fun r hr => ?_⟩
  · cases hmoved.effect with
    | silent _ hfiling => exact (h.filing u (hfiling u hu)).moved hmoved
    | marked v hstatuses hfiling =>
      rcases hfiling u hu with hold | rfl
      · exact (h.filing u hold).moved hmoved
      · rw [LiveUnlessReported, hstatuses]
        exact .inl (StatusLog.last?_write_self _ _ _)
    | wrote _ _ _ _ _ _ hfiling => exact (h.filing u (hfiling u hu)).moved hmoved
  · rcases hmoved.reports with hsame | ⟨-, hskip | ⟨c, results, hp, hphase, hreport⟩⟩
    · rcases h.settled r (hsame.symm.trans hr) with
        hskip | ⟨x, c, results, hx, hp, hphase, he, hrun⟩
      · exact .inl hskip
      · exact .inr ⟨x, c, results, hx, hp, hphase, he, hrun.tail hm⟩
    · exact .inl (Option.some.inj (hr.symm.trans hskip))
    · exact .inr ⟨b, c, results, h.overlap, hp, hphase,
        Option.some.inj (hr.symm.trans hreport), .single hm⟩

theorem Kept.run (h : Kept b₀ i l st b) (hr : Bridge.Run b b') : Kept b₀ i l st b' := by
  induction hr with
  | refl => exact h
  | tail _ hm ih => exact ih.moved hm

theorem LiveUnlessReported.run {event : Int} (h : LiveUnlessReported i event b)
    (ho : Overlap b₀ i l st b) (hr : Bridge.Run b b') : LiveUnlessReported i event b' := by
  -- From the front, since `ho` is about the first bridge of the run.
  induction hr using Relation.ReflTransGen.head_induction_on with
  | refl => exact h
  | head hm _ ih =>
    have hmoved := ho.moved hm
    exact ih (h.moved hmoved) hmoved.overlap

theorem kept_start (htasks : b.tasks = [(i, .cycle (.start l st))]) (hi : i < b.nextTask)
    (hroster : b.roster.Reachable) : Kept b i l st b := by
  obtain ⟨hoverlap, hnone, hfiling⟩ := start htasks hi hroster
  exact ⟨hoverlap, fun u hu => absurd hu (hfiling u), fun r hr => nomatch hnone.symm.trans hr⟩

/-- A unit is filed while a cycle runs. Once the cycle has ended, the status written last for the
unit's event is live, or it is the cycle's own verdict that the event is not live: with the results
for its snapshot the cycle evicted a unit of the event, and no more units of it answered than were
evicted. -/
theorem live_unless_outvoted {b₁ b₂ b₃ : Bridge} {q : Registration} {u : FieldUnit} {r : Report}
    (htasks : b₀.tasks = [(i, .cycle (.start l st))]) (hi : i < b₀.nextTask)
    (hroster : b₀.roster.Reachable) (hbefore : Bridge.Run b₀ b₁)
    (hq : b₁.program? j = some (.registration q)) (hphase : q.phase = .filing u)
    (hturn : b₁.turn? n j = some b₂) (hafter : Bridge.Run b₂ b₃)
    (hend : b₃.exit? i = some (.probed r)) (hr : r.skipped = false) :
    b₃.statuses.last? u.eventId = some .live ∨
      b₃.statuses.last? u.eventId = some .notLive ∧
        ∃ x y results, Bridge.Run b₀ x ∧ x.program? i = some (.cycle (.start l st)) ∧
          Bridge.Run b₀ y ∧ y.program? i = some (.cycle ⟨l, st, .probing [] [] results⟩) ∧
          Bridge.Run y b₃ ∧ Cycle.Concluded x.roster results y ∧ r = Cycle.reportOf y results ∧
          0 < dismissed y.roster u.eventId results ∧
          answered u.eventId results ≤ dismissed y.roster u.eventId results := by
  -- A unit that is being filed has had its event marked, and nobody but the cycle unmarks it.
  have hkept := (kept_start htasks hi hroster).run hbefore
  have hmoved := hkept.overlap.moved (.turn n j hturn)
  have hfiled := (hkept.filing u ⟨j, q, hq, hphase⟩).moved hmoved
  have hlast := hfiled.run hmoved.overlap hafter
  have hprogram : b₃.program? i = some (.finished (.probed r)) := by
    unfold Bridge.exit? at hend
    split at hend
    next e he =>
      cases hend
      exact he
    next => cases hend
  have hreport : report? i b₃ = some r := by rw [report?, hprogram]
  rcases hlast with hlive | ⟨hnot, r', hr', hget⟩
  · exact .inl hlive
  · obtain rfl : r = r' := Option.some.inj (hreport.symm.trans hr')
    refine .inr ⟨hnot, ?_⟩
    rcases ((hkept.moved (.turn n j hturn)).run hafter).settled r hreport with
      rfl | ⟨y, c, results, hy, hc, hphase', rfl, hrest⟩
    · cases hr
    · obtain ⟨p, hp, hstage⟩ := hy.cycle
      obtain rfl : p = .cycle c := Option.some.inj (hp.symm.trans hc)
      cases hstage with
      | starting => cases hphase'
      | @underway x ts _ hx hstart hsound hu hd =>
        obtain ⟨l', st', phase⟩ := c
        obtain rfl : l' = l := hu.link
        obtain rfl : st' = st := hu.settings
        obtain rfl : phase = .probing [] [] results := hphase'
        have hconcluded : Cycle.Concluded x.roster results y := ⟨(hu.probing rfl).perm, hu.changes⟩
        have hcounts : 0 < dismissed y.roster u.eventId results ∧
            answered u.eventId results ≤ dismissed y.roster u.eventId results := by
          -- The report follows the verdict, and this one is not live.
          rw [(hconcluded.sums hsound.sound).get?_statuses, verdict] at hget
          split at hget
          next => cases hget
          next hsome =>
            split at hget
            next => cases hget
            next => omega
        exact ⟨x, y, results, hx, hstart, hy.run, hc, hrest, hconcluded, rfl, hcounts⟩

/-! A unit registers while the only other unit of its event is probed in vain. -/

theorem turn?_reading {a : Announcement} {m : Message}
    (ha : Announcement.ofPayload m.payload = .ok a)
    (hj : b.program? j = some (.registration (.start l m))) :
    b.turn? n j = some (b.become j (.registration ⟨l, m, .asking a⟩)) := by
  rw [Bridge.turn?, hj]
  dsimp only [Program.turn]
  rw [Registration.turn_reading ha]
  rfl

def overtaken : Bridge :=
  { Bridge.attended "U2.check_status" [("U1", ⟨7, "", "", ""⟩)]
      (Roster.empty.register (.bare "U2" 7)) with
    tasks := [(0, .cycle (.start (.working 0) ⟨5000, 2000, 1⟩))]
    nextTask := 1 }

/-- The registration is filed between the snapshot and the verdict, and the verdict comes last. -/
theorem run_overtaken :
    ∃ b₁ b₂ b₃ q r, Bridge.Run overtaken b₁ ∧
      b₁.program? 0 ≠ some (.cycle (.start (.working 0) ⟨5000, 2000, 1⟩)) ∧
      b₁.program? 1 = some (.registration q) ∧ q.phase = .filing (.bare "U1" 7) ∧
      b₁.turn? 0 1 = some b₂ ∧ Bridge.Run b₂ b₃ ∧ b₃.exit? 0 = some (.probed r) ∧
      r.skipped = false ∧ (b₃.tasks.all fun t => t.2.isOver) = true ∧
      b₃.roster.unit? "U1" = some (.bare "U1" 7) ∧ b₃.statuses.last? 7 = some .notLive := by
  have hsnapshot : overtaken.roster.entries = [⟨.bare "U2" 7, 1⟩] :=
    Roster.entries_eq_of_pairwise (by decide)
  have hstart : overtaken.turn? 0 0 = some (overtaken.become 0
      (.cycle ⟨.working 0, ⟨5000, 2000, 1⟩, .probing [⟨.bare "U2" 7, 1⟩] [] []⟩)) := by
    rw [← hsnapshot]
    rfl
  have hrest {b b' : Bridge} (_ : Bridge.Run b b') : Bridge.Run b' b' := .refl
  have hlater (b : Bridge) (t : Instant) : Bridge.Quiet b { b with now := t } :=
    ⟨rfl, rfl, rfl, rfl, Nat.le_refl _⟩
  have hsnapped : Bridge.Run overtaken _ := .single (.turn 0 0 hstart)
  have hasked := hsnapped.tail (.turn 0 0 rfl)
  have hannounced := hasked.tail (.announced (.working 0) Registration.bareMessage _)
  have hread := hannounced.tail
    (.turn 0 1 (turn?_reading Registration.ofPayload_bareMessage rfl))
  have hfound := hread.tail (.turn 0 1 rfl)
  have hmarked := hfound.tail (.turn 0 1 rfl)
  have hfiled := hmarked.tail (.turn 0 1 rfl)
  have hreplied := (hrest hfiled).tail (.turn 0 1 rfl)
  have hhandled := hreplied.tail (.turn 0 1 rfl)
  have hlate := hhandled.tail (.outside (hlater _ 2000))
  have htimedOut := hlate.tail (.turn 0 0 rfl)
  have hsettled := htimedOut.tail (.turn 0 0 rfl)
  have hwritten := hsettled.tail (.turn 0 0 rfl)
  have hcounting := hwritten.tail (.turn 0 0 rfl)
  have hended := hcounting.tail (.turn 0 0 rfl)
  exact ⟨_, _, _, _, _, hmarked, nofun, rfl, rfl, rfl, hended, rfl, rfl, rfl, rfl, rfl⟩

theorem reachable_overtaken : overtaken.roster.Reachable := .single (.registered _ _)

/-- The cycle's verdict is what remains, and it comes from the unit that was evicted. -/
theorem overtaken_outvoted :
    ∃ (b₃ : Bridge) (r : Report), Bridge.Run overtaken b₃ ∧ b₃.exit? 0 = some (.probed r) ∧
      b₃.statuses.last? 7 = some .notLive ∧ ∃ y results, Bridge.Run overtaken y ∧
        r = Cycle.reportOf y results ∧ 0 < dismissed y.roster 7 results := by
  obtain ⟨b₁, b₂, b₃, q, r, hbefore, -, hq, hphase, hturn, hafter, hend, hr, -, -, hlast⟩ :=
    run_overtaken
  rcases live_unless_outvoted rfl Nat.zero_lt_one reachable_overtaken hbefore hq hphase hturn hafter
    hend hr with hlive | ⟨hnot, x, y, results, -, -, hy, -, -, -, hreport, hdismissed, -⟩
  · exact nomatch hlast.symm.trans hlive
  · exact ⟨b₃, r, (hbefore.tail (.turn 0 1 hturn)).trans hafter, hend, hnot, y, results, hy,
      hreport, hdismissed⟩

/-- So a registration during a cycle does not always leave its event live, even if the unit is still
registered for it when all have finished. -/
theorem not_live_though_registered :
    ¬ ∀ (i j : TaskId) (n : Nat) (l : Link) (st : ProbeSettings) (b₀ b₁ b₂ b₃ : Bridge)
      (q : Registration) (u v : FieldUnit) (r : Report),
      b₀.tasks = [(i, .cycle (.start l st))] → i < b₀.nextTask → b₀.roster.Reachable →
      Bridge.Run b₀ b₁ → b₁.program? i ≠ some (.cycle (.start l st)) →
      b₁.program? j = some (.registration q) → q.phase = .filing u →
      b₁.turn? n j = some b₂ → Bridge.Run b₂ b₃ →
      b₃.exit? i = some (.probed r) → r.skipped = false →
      (b₃.tasks.all fun t => t.2.isOver) = true →
      b₃.roster.unit? u.unitId = some v → v.eventId = u.eventId →
      b₃.statuses.last? u.eventId = some .live := by
  intro hall
  obtain ⟨b₁, b₂, b₃, q, r, hbefore, htaken, hq, hphase, hturn, hafter, hend, hr, hover, hunit,
    hlast⟩ := run_overtaken
  have hlive := hall 0 1 0 _ _ overtaken b₁ b₂ b₃ q _ _ r rfl Nat.zero_lt_one reachable_overtaken
    hbefore htaken hq hphase hturn hafter hend hr hover hunit rfl
  exact nomatch hlast.symm.trans hlive

end Overlap
end FleetBridge
