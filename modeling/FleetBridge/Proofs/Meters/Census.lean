import FleetBridge.Proofs.Meters.Postings
import FleetBridge.Proofs.Registration.Outcomes

/-!
The meters and the roster in every history of registrations and cycles. A report is drawn up in one
turn and counted in a later one, so the meters of the cycles may lag behind the roster; they agree
with it whenever nothing is under way.
-/
namespace FleetBridge

open Probe (Report)

/-- Two states of the meters to which registrations and cycles post. -/
structure Meters.SameCounts (m m' : Meters) : Prop where
  registrations : m'.registrations = m.registrations
  probes : m'.probes = m.probes
  evictions : m'.evictions = m.evictions
  registeredUnits : m'.registeredUnits = m.registeredUnits
  liveEvents : m'.liveEvents = m.liveEvents

theorem Books.Balances.congr {ps : List Posting} {k k' : Books} (h : k.Balances ps)
    (hroster : k'.roster = k.roster) (hm : k.meters.SameCounts k'.meters) : k'.Balances ps where
  sound := hroster ▸ h.sound
  ordered := by
    rw [hm.registrations, hm.probes]
    exact h.ordered
  registrations := hm.registrations ▸ h.registrations
  handled := hm.registrations ▸ h.handled
  healthy := hm.probes ▸ h.healthy
  failed := hm.probes ▸ h.failed
  unresponsive := hm.probes ▸ h.unresponsive
  probed := hm.probes ▸ h.probed
  drawn := h.drawn
  arrivals := hroster ▸ h.arrivals
  evictions := hm.evictions.trans h.evictions
  liveEvents := hm.liveEvents.trans h.liveEvents

namespace Bridge

variable {b b' b₀ : Bridge} {j : TaskId} {n : Nat} {ts : List Step}

/-- Nothing is posted, and what is under way is left alone; registrations and cycles may begin. -/
structure Unposted (b b' : Bridge) : Prop extends Apart b b' where
  cycles : ∀ j c, b.cycling? j = some c → b'.cycling? j = some c
  starts : ∀ j c, b'.cycling? j = some c →
    b.cycling? j = some c ∨ b.cycling? j = none ∧ c.phase = .starting
  roster : b'.roster = b.roster
  meters : b.meters.SameCounts b'.meters

/-- The report that a task draws up in a turn. -/
def Step.draft? (t : Step) : Option Report := t.posting?.bind Posting.draft?

/-- The report that a task counts in a turn. -/
def Step.counted? (t : Step) : Option Report := t.posting?.bind Posting.counted?

/-- The report with which a cycle ends in a turn. -/
def Step.report? (t : Step) : Option Report := t.posting?.bind Posting.report?

/-- Whether a unit is filed in a turn whose id is not on the roster. -/
def Step.isArrival (t : Step) : Bool := t.posting?.any Posting.isArrival

theorem uncounted?_of_unposted (h : b.Unposted b') (j : TaskId) :
    b'.uncounted? j = b.uncounted? j := by
  unfold uncounted?
  cases hc : b.cycling? j with
  | some c => rw [h.cycles j c hc]
  | none =>
    cases hc' : b'.cycling? j with
    | none => rfl
    | some c =>
      rcases h.starts j c hc' with hold | ⟨-, hphase⟩
      · rw [hc] at hold
        cases hold
      · rw [Option.bind_some, Cycle.report?, hphase]
        rfl

theorem WillShow.congr (h : b.WillShow j) (hp : b'.program? j = b.program? j) : b'.WillShow j := by
  rw [WillShow, handling?_congr hp, cycling?, hp]
  exact h

/-- What the books, the reports and the gauge have come to. -/
structure Audited (ts : List Step) (b : Bridge) : Prop where
  books : b.books.Balances (ts.filterMap Step.posting?)
  carried : ∀ j, told Step.draft? j ts = told Step.counted? j ts ++ (b.uncounted? j).toList
  shown : b.books.Shows ∨ ∃ j, b.WillShow j

namespace Audited

theorem unposted (h : Audited ts b) (hbounded : ∀ j r, b.handling? j = some r → j < b.nextTask)
    (hu : b.Unposted b') : Audited ts b' where
  books := h.books.congr hu.roster hu.meters
  carried j := by
    rw [uncounted?_of_unposted hu]
    exact h.carried j
  shown := by
    rcases h.shown with hshows | ⟨j, hhandling | ⟨c, hc, hphase⟩⟩
    · left
      change b'.meters.registeredUnits = Meters.gauge b'.roster.size
      rw [hu.roster, hu.meters.registeredUnits]
      exact hshows
    · obtain ⟨r, hr⟩ := Option.ne_none_iff_exists'.mp hhandling
      exact .inr ⟨j, .inl (hu.kept j (hbounded j r hr) ▸ hhandling)⟩
    · exact .inr ⟨j, .inr ⟨c, hu.cycles j c hc, hphase⟩⟩

theorem posted (h : Audited ts b) {t : Step} (hb : t.before = b) (hp : t.Posts) :
    Audited (ts ++ [t]) t.after := by
  subst hb
  refine ⟨?_, fun j => ?_, ?_⟩
  · rw [Turn.filterMap_concat, hp.books]
    cases hposting : t.posting? with
    | none =>
      rw [Option.toList_none, List.append_nil]
      exact h.books
    | some p => exact h.books.post (Step.fits hposting)
  · by_cases hj : t.task = j
    · subst hj
      rw [told_append_self _ _ _ rfl, told_append_self _ _ _ rfl, h.carried, List.append_assoc,
        List.append_assoc]
      exact congrArg _ hp.carries
    · rw [told_append_of_ne _ _ _ hj, told_append_of_ne _ _ _ hj, h.carried, uncounted?, uncounted?,
        cycling?, cycling?, hp.others j (Ne.symm hj)]
  · rcases hp.shows with hwill | hshows | ⟨hsame, hnot⟩
    · exact .inr ⟨_, hwill⟩
    · exact .inl hshows
    · rcases h.shown with hshows | ⟨k, hk⟩
      · exact .inl (hsame ▸ hshows)
      · have hne : k ≠ t.task := by
          rintro rfl
          exact hnot hk
        exact .inr ⟨k, hk.congr (hp.others k hne)⟩

end Audited

/-- Nothing is on the roster, nothing was counted and nothing is under way. -/
structure Fresh (b : Bridge) : Prop where
  roster : b.roster = .empty
  meters : Meters.SameCounts .zero b.meters
  idle : ∀ j, b.isAtWork j = false

theorem isAtWork_eq_false : b.isAtWork j = false ↔ b.handling? j = none ∧ b.cycling? j = none := by
  simp [isAtWork]

theorem Fresh.unbegun (h : b.Fresh) : b.Unbegun := by
  intro j r hr
  rw [(isAtWork_eq_false.mp (h.idle j)).1] at hr
  cases hr

theorem Audited.start (h : b.Fresh) : Audited [] b where
  books := Books.Balances.start.congr h.roster h.meters
  carried j := by
    rw [uncounted?, (isAtWork_eq_false.mp (h.idle j)).2]
    rfl
  shown := by
    left
    change b.meters.registeredUnits = Meters.gauge b.roster.size
    rw [h.roster, h.meters.registeredUnits]
    rfl

/-- Whoever neither registers nor probes posts nothing. -/
theorem Step.posting?_of_idle {t : Step} (h : t.before.isAtWork t.task = false) :
    t.posting? = none := by
  obtain ⟨hhandling, hcycling⟩ := isAtWork_eq_false.mp h
  rw [posting?, hhandling, hcycling]
  rfl

theorem Audited.aside (h : Audited ts b) {t : Step} (hposting : t.posting? = none) :
    Audited (ts ++ [t]) b where
  books := by
    rw [Turn.filterMap_concat, hposting, Option.toList_none, List.append_nil]
    exact h.books
  carried j := by
    have hsame (f : Posting → Option Report) :
        told (fun t => t.posting?.bind f) j (ts ++ [t]) =
          told (fun t => t.posting?.bind f) j ts := by
      by_cases hj : t.task = j
      · rw [told_append_self _ _ _ hj, hposting]
        exact List.append_nil _
      · rw [told_append_of_ne _ _ _ hj]
    exact (hsame _).trans ((h.carried j).trans (congrArg (· ++ _) (hsame _).symm))
  shown := h.shown

/-- Anyone else may take turns too, as long as he posts nothing. -/
theorem audited_of_history (hfresh : b₀.Fresh) (h : History (fun _ => True) Unposted b₀ ts b)
    (hothers : ∀ t ∈ ts, t.before.isAtWork t.task = false → t.before.Unposted t.after) :
    Audited ts b := by
  induction h with
  | start => exact .start hfresh
  | between hbefore hu ih =>
    have hkept := kept_of_history hfresh.unbegun (hbefore.mono fun _ _ hu => hu.toApart)
    exact (ih hothers).unposted hkept.bounded hu
  | @turn ts j b b' n hbefore _ ht ih =>
    have haudited := ih fun t hmem => hothers t (List.mem_append_left _ hmem)
    have hlast := hothers ⟨j, n, b, b'⟩ (List.mem_append_right _ (List.mem_singleton_self _))
    cases hr : b.handling? j with
    | some r => exact haudited.posted rfl (posts_registration hr ht)
    | none =>
      cases hc : b.cycling? j with
      | some c => exact haudited.posted rfl (posts_cycle hc ht)
      | none =>
        have hidle : b.isAtWork j = false := isAtWork_eq_false.mpr ⟨hr, hc⟩
        have hkept := kept_of_history hfresh.unbegun (hbefore.mono fun _ _ hu => hu.toApart)
        exact (haudited.unposted hkept.bounded (hlast hidle)).aside
          (Step.posting?_of_idle (t := ⟨j, n, b, b'⟩) hidle)

/-! Nothing under way. -/

/-- The reports with which cycles ended, in the order in which they did. -/
def reports (ts : List Step) : List Report := ts.filterMap Step.report?

/-- What the meters show of what registrations and cycles came to. -/
structure Consistent (ts : List Step) (b : Bridge) : Prop where
  registeredUnits : b.meters.registeredUnits = Meters.gauge b.roster.size
  evictions : b.meters.evictions = .ofNat ((reports ts).map fun r => r.evicted.length).sum
  /-- Whoever arrived was evicted or is still there. -/
  arrivals : ts.countP Step.isArrival =
    ((reports ts).map fun r => r.evicted.length).sum + b.roster.size
  probed : b.meters.probes.total = .ofNat ((reports ts).map Report.probed).sum
  healthy : b.meters.probes.count [Meters.Probe.healthy.label] =
    .ofNat ((reports ts).map Report.healthy).sum
  failed : b.meters.probes.count [Meters.Probe.failed.label] =
    .ofNat ((reports ts).map Report.failed).sum
  /-- The silent probes are the rest, and more than the evictions unless the counter runs over. -/
  unresponsive : ∃ silent, b.meters.probes.count [Meters.Probe.unresponsive.label] =
      .ofNat silent ∧ ((reports ts).map fun r => r.evicted.length).sum ≤ silent ∧
    ((reports ts).map Report.probed).sum =
      ((reports ts).map Report.healthy).sum + silent + ((reports ts).map Report.failed).sum ∧
    (silent < UInt64.size →
      b.meters.evictions ≤ b.meters.probes.count [Meters.Probe.unresponsive.label])
  registrations : ∀ o : Meters.Registration, b.meters.registrations.count [o.label] =
    .ofNat ((ts.filterMap Step.outcome?).countP fun x => x.meter = o)
  handled : b.meters.registrations.total = .ofNat (ts.filterMap Step.outcome?).length
  once : ∀ t ∈ ts, t.before.handling? t.task ≠ none → ∃ o, told Step.outcome? t.task ts = [o]
  /-- The outcomes and the reports are what the tasks leave behind. -/
  outcomes : ∀ t ∈ ts, t.before.handling? t.task ≠ none → ∀ o,
    t.after.program? t.task = some (.finished (.registered o)) → t.outcome? = some o
  reported : ∀ t ∈ ts, t.before.cycling? t.task ≠ none → ∀ r,
    t.after.program? t.task = some (.finished (.probed r)) → t.report? = some r
  liveEvents : b.meters.liveEvents = (((reports ts).filter fun r => !r.skipped).getLast?.map
    fun r => Meters.gauge r.live).getD 0

theorem Step.outcome?_eq (t : Step) : t.outcome? = t.posting?.bind Posting.outcome? := by
  unfold outcome? posting?
  cases t.before.handling? t.task with
  | some r =>
    obtain ⟨l, m, phase⟩ := r
    cases phase <;> rfl
  | none =>
    cases t.before.cycling? t.task with
    | none => rfl
    | some c =>
      change none = (c.posting? t.before).bind Posting.outcome?
      unfold Cycle.posting?
      split <;> first | rfl | (split <;> rfl)

/-- A cycle ends with a report that it counts, or at once. -/
theorem Step.report?_cases (t : Step) :
    t.report? = t.counted? ∨ t.report? = some .skip ∧ t.counted? = none := by
  unfold report? counted?
  cases t.posting? with
  | none => exact .inl rfl
  | some p => cases p <;> first | exact .inl rfl | exact .inr ⟨rfl, rfl⟩

/-- A cycle that ended at once adds nothing. -/
theorem sum_reports {f : Report → Nat} (hskip : f .skip = 0) (ts : List Step) :
    ((reports ts).map f).sum = ((ts.filterMap Step.counted?).map f).sum := by
  unfold reports
  induction ts with
  | nil => rfl
  | cons t ts ih =>
    rcases t.report?_cases with hsame | ⟨hreport, hcounted⟩
    · rw [List.filterMap_cons, List.filterMap_cons, hsame]
      cases t.counted? with
      | none => exact ih
      | some r => exact congrArg (f r + ·) ih
    · rw [List.filterMap_cons_some hreport, List.filterMap_cons_none hcounted, List.map_cons,
        List.sum_cons, hskip, Nat.zero_add, ih]

/-- The reports that are counted are those of cycles that probed. -/
theorem filter_reports (h : ∀ r ∈ ts.filterMap Step.counted?, r.skipped = false) :
    (reports ts).filter (fun r => !r.skipped) = ts.filterMap Step.counted? := by
  rw [reports, List.filter_filterMap]
  refine List.filterMap_congr fun t ht => ?_
  rcases t.report?_cases with hsame | ⟨hreport, hcounted⟩
  · rw [hsame]
    cases hcounted : t.counted? with
    | none => rfl
    | some r =>
      have hr := h r (List.mem_filterMap.mpr ⟨t, ht, hcounted⟩)
      exact Option.filter_some_pos (by simp [hr])
  · rw [hreport, hcounted]
    rfl

/-- With nothing under way every report that was drawn up is counted. -/
theorem Audited.drafts_perm (h : Audited ts b) (hidle : ∀ j, b.isAtWork j = false) :
    (ts.filterMap Step.draft?).Perm (ts.filterMap Step.counted?) := by
  refine filterMap_perm_of_told Step.draft? fun j => ?_
  rw [h.carried, uncounted?, (isAtWork_eq_false.mp (hidle j)).2]
  exact List.append_nil _

theorem Audited.agrees (h : Audited ts b) : b.books.Agrees (ts.filterMap Step.outcome?)
    (ts.filterMap Step.draft?) (ts.filterMap Step.counted?) (ts.countP Step.isArrival) := by
  have hbooks := h.books
  have houtcomes : (ts.filterMap Step.posting?).filterMap Posting.outcome? =
      ts.filterMap Step.outcome? := by
    rw [List.filterMap_filterMap, ← funext Step.outcome?_eq]
  have harrivals : (ts.filterMap Step.posting?).countP Posting.isArrival =
      ts.countP Step.isArrival := by
    rw [List.countP_filterMap]
    refine List.countP_congr fun t _ => ?_
    rw [Step.isArrival]
    cases t.posting? <;> rfl
  unfold Books.Balances at hbooks
  rw [houtcomes, harrivals, List.filterMap_filterMap, List.filterMap_filterMap] at hbooks
  exact hbooks

/-- Whenever neither a registration nor a cycle is under way, the meters tell what all of them came
to and how many units there are. -/
theorem consistent_of_history (hfresh : b₀.Fresh) (h : History (fun _ => True) Unposted b₀ ts b)
    (hothers : ∀ t ∈ ts, t.before.isAtWork t.task = false → t.before.Unposted t.after)
    (hidle : ∀ j, b.isAtWork j = false) : Consistent ts b := by
  have haudited := audited_of_history hfresh h hothers
  have hagrees := haudited.agrees
  have hperm := haudited.drafts_perm hidle
  have hsum (f : Report → Nat) (hskip : f .skip = 0) :
      ((ts.filterMap Step.draft?).map f).sum = ((reports ts).map f).sum := by
    rw [sum_reports hskip]
    exact (hperm.map f).sum_eq
  have hdrawn : ∀ r ∈ ts.filterMap Step.counted?, r.Drawn := fun r hr =>
    hagrees.drawn r (hperm.symm.subset hr)
  have hevicted := hsum (fun r => r.evicted.length) rfl
  refine ⟨?registeredUnits, ?evictions, ?arrivals, ?probed, ?healthy, ?failed, ?unresponsive,
    hagrees.registrations, hagrees.handled, ?once, ?outcomes, ?reported, ?liveEvents⟩
  case registeredUnits =>
    rcases haudited.shown with hshows | ⟨j, hwill⟩
    · exact hshows
    · obtain ⟨hhandling, hcycling⟩ := isAtWork_eq_false.mp (hidle j)
      rcases hwill with hsome | ⟨c, hc, -⟩
      · exact absurd hhandling hsome
      · rw [hcycling] at hc
        cases hc
  case evictions =>
    rw [sum_reports rfl]
    exact hagrees.evictions
  case arrivals => exact hevicted ▸ hagrees.arrivals
  case probed => exact hsum Report.probed rfl ▸ hagrees.probed
  case healthy => exact hsum Report.healthy rfl ▸ hagrees.healthy
  case failed => exact hsum Report.failed rfl ▸ hagrees.failed
  case unresponsive =>
    obtain ⟨hle, hprobed⟩ := Report.sum_drawn hagrees.drawn
    rw [hevicted] at hle
    rw [hsum Report.probed rfl, hsum Report.healthy rfl, hsum Report.failed rfl] at hprobed
    refine ⟨_, hagrees.unresponsive, hle, hprobed, fun hsmall => ?_⟩
    have hevictions : b.meters.evictions =
        .ofNat ((reports ts).map fun r => r.evicted.length).sum := by
      rw [sum_reports rfl]
      exact hagrees.evictions
    have hunresponsive := hagrees.unresponsive
    change b.meters.probes.count _ = _ at hunresponsive
    rw [hevictions, hunresponsive, UInt64.le_iff_toNat_le, UInt64.toNat_ofNat_of_lt' hsmall,
      UInt64.toNat_ofNat_of_lt' (Nat.lt_of_le_of_lt hle hsmall)]
    exact hle
  case once =>
    intro t ht hr
    exact told_outcome_of_done hfresh.unbegun (h.mono fun _ _ hu => hu.toApart) ht hr
      (isAtWork_eq_false.mp (hidle t.task)).1
  case outcomes =>
    intro t ht hsome o he
    obtain ⟨r, hr⟩ := Option.ne_none_iff_exists'.mp hsome
    rw [Step.outcome?, hr, Option.bind_some, Registration.concluded?_eq_some]
    exact (exit_iff_counting hr (h.turn_of_mem ht)).mp he
  case reported =>
    intro t ht hsome r he
    obtain ⟨c, hc⟩ := Option.ne_none_iff_exists'.mp hsome
    exact report?_of_probed hc (h.turn_of_mem ht) he
  case liveEvents =>
    rw [filter_reports fun r hr => (hdrawn r hr).skipped]
    exact hagrees.liveEvents

/-- A registration or a cycle may be started at any time. -/
theorem unposted_spawn {p : Program} (hfree : b.program? b.nextTask = none)
    (hcycle : ∀ c, p.cycle? = some c → c.phase = .starting)
    (hregistration : ∀ r, p = .registration r → r.phase = .reading)
    (hbounded : ∀ j r, b.handling? j = some r → j < b.nextTask) : b.Unposted (b.spawn p).2 := by
  have hself := program?_spawn_self p b
  have hne {j : TaskId} (hj : j ≠ b.nextTask) : (b.spawn p).2.program? j = b.program? j :=
    program?_spawn_of_ne hj p
  refine ⟨⟨Nat.le_succ _, fun j hj => ?_, fun j r hj hr => ?_⟩, fun j c hc => ?_, fun j c hc => ?_,
    rfl, ⟨rfl, rfl, rfl, rfl, rfl⟩⟩
  · exact handling?_congr (hne (Nat.ne_of_lt hj))
  · by_cases he : j = b.nextTask
    · rw [he, handling?_eq_some, hself] at hr
      exact ⟨he ▸ Nat.lt_succ_self _, hregistration r (Option.some.inj hr)⟩
    · rw [handling?_congr (hne he)] at hr
      exact absurd (hbounded j r hr) (Nat.not_lt.mpr hj)
  · have he : j ≠ b.nextTask := by
      rintro rfl
      rw [cycling?, hfree] at hc
      cases hc
    rw [cycling?, hne he]
    exact hc
  · by_cases he : j = b.nextTask
    · rw [he, cycling?, hself] at hc
      refine .inr ⟨?_, hcycle c hc⟩
      rw [he, cycling?, hfree]
      rfl
    · rw [cycling?, hne he] at hc
      exact .inl hc

theorem isAtWork_of_over (h : (b.tasks.all fun t => t.2.isOver) = true) (j : TaskId) :
    b.isAtWork j = false := by
  rw [isAtWork_eq_false, cycling?, handling?]
  cases hp : b.program? j with
  | none => exact ⟨rfl, rfl⟩
  | some p =>
    have hover := List.all_eq_true.mp h _ (Table.mem_of_get? hp)
    cases p with
    | finished e => exact ⟨rfl, rfl⟩
    | _ => cases hover

/-- A bridge at rest that knows the event of one unit. -/
def unitExpected : Bridge := start [("U1", ⟨7, "trial", "yard", "endurance"⟩)] (.start 0 0) 0

theorem fresh_unitExpected : unitExpected.Fresh where
  roster := rfl
  meters := ⟨rfl, rfl, rfl, rfl, rfl⟩
  idle := isAtWork_of_over rfl

/-- A silent unit is evicted, and it comes again before that cycle is over. -/
theorem unitExpected_consistent : ∃ ts b,
    History (fun _ => True) Unposted unitExpected ts b ∧ Consistent ts b ∧
    ts.countP Step.isArrival = 2 ∧ (reports ts).map Report.evicted = [["U1"], []] ∧
    b.meters.evictions = 1 ∧ b.meters.registeredUnits = 1 := by
  have hstart : History (fun _ => True) Unposted unitExpected [] _ := .start
  have hspawn {ts : List Step} {b : Bridge} (p : Program)
      (h : History (fun _ => True) Unposted unitExpected ts b)
      (hfree : (b.program? b.nextTask).isNone = true)
      (hcycle : ∀ c, p.cycle? = some c → c.phase = .starting)
      (hregistration : ∀ r, p = .registration r → r.phase = .reading) :
      History (fun _ => True) Unposted unitExpected ts (b.spawn p).2 :=
    h.between (unposted_spawn (Option.isNone_iff_eq_none.mp hfree) hcycle hregistration
      (kept_of_history fresh_unitExpected.unbegun (h.mono fun _ _ hu => hu.toApart)).bounded)
  have hregister {ts : List Step} {b : Bridge}
      (h : History (fun _ => True) Unposted unitExpected ts b)
      (hfree : (b.program? b.nextTask).isNone = true) := hspawn
    (.registration (.start (.working 0) ⟨"U1.register_unit", none,
      .ofText "\x7b\"unit_id\":\"U1\"\x7d"⟩)) h hfree nofun
    fun r hr => by cases hr; rfl
  have hcycle {ts : List Step} {b : Bridge} (l : Link)
      (h : History (fun _ => True) Unposted unitExpected ts b)
      (hfree : (b.program? b.nextTask).isNone = true) := hspawn (.cycle (.start l ⟨5, 2, 1⟩)) h hfree
    (fun c hc => by cases hc; rfl) nofun
  have hfirst := (hregister hstart rfl).played [0, 0, 0, 0, 0, 0] (fun _ _ => trivial)
    (by decide +kernel)
  have hprobed := (hcycle (.working 0) hfirst (by decide +kernel)).played [1, 1, 1]
    (fun _ _ => trivial) (by decide +kernel)
  have hagain := (hregister hprobed (by decide +kernel)).played [2, 2, 2, 2, 1, 1, 1, 2, 2]
    (fun _ _ => trivial) (by decide +kernel)
  have hall := (hcycle .dead hagain (by decide +kernel)).played [3] (fun _ _ => trivial)
    (by decide +kernel)
  have hmine {f : Step → Bool} {ts : List Step} (h : ts.all f = true) : ∀ t ∈ ts, f t = true :=
    List.all_eq_true.mp h
  refine ⟨_, _, hall, consistent_of_history fresh_unitExpected hall (fun t ht hidle => ?_)
    (isAtWork_of_over (by decide +kernel)), by decide +kernel, by decide +kernel, by decide +kernel,
    by decide +kernel⟩
  have hworks := hmine (f := fun t => t.before.isAtWork t.task) (by decide +kernel) t ht
  exact absurd (hidle.symm.trans hworks) Bool.false_ne_true

end Bridge
end FleetBridge
