import FleetBridge.Proofs.Meters.Counters
import FleetBridge.Registration.Basic

/-!
The books: the roster and the meters, to which registrations and cycles post. The meters agree with
all that was posted, except that evictions are counted when the cycle is over and not when the units
go.
-/
namespace FleetBridge

open Probe (Report Result Settlement)
open Registration (Outcome)

/-- How many probed units did not answer. -/
def Probe.Report.silent (r : Report) : Nat := r.probed - r.healthy - r.failed

/-- A report of a cycle that has probed: every probe ended in one of three ways, and only silent
units were evicted. -/
structure Probe.Report.Drawn (r : Report) : Prop where
  skipped : r.skipped = false
  probed : r.probed = r.healthy + r.silent + r.failed
  evicted : r.evicted.length ≤ r.silent

theorem Probe.Report.sum_drawn {rs : List Report} (h : ∀ r ∈ rs, r.Drawn) :
    (rs.map fun r => r.evicted.length).sum ≤ (rs.map silent).sum ∧
      (rs.map probed).sum = (rs.map healthy).sum + (rs.map silent).sum + (rs.map failed).sum := by
  induction rs with
  | nil => exact ⟨Nat.le_refl _, rfl⟩
  | cons r rs ih =>
    obtain ⟨hle, hsum⟩ := ih fun r hr => h r (List.mem_cons_of_mem _ hr)
    have hr := h r List.mem_cons_self
    simp only [List.map_cons, List.sum_cons]
    exact ⟨Nat.add_le_add hr.evicted hle, by rw [hr.probed, hsum]; omega⟩

/-- What registrations and cycles do to the books. -/
inductive Posting where
  /-- A unit is filed; `arrives` says whether its id was not on the roster. -/
  | filed (u : FieldUnit) (arrives : Bool)
  | concluded (o : Outcome)
  /-- The results of a cycle are gone through, and its report is drawn up. -/
  | settled (results : List Result) (r : Report)
  /-- A cycle ends with its report. -/
  | reported (r : Report)
  /-- A cycle ends at once. -/
  | skipped

structure Books where
  roster : Roster
  meters : Meters

def Books.post (k : Books) : Posting → Books
  | .filed u _ => { k with roster := k.roster.register u }
  | .concluded o =>
    { k with meters := (k.meters.countRegistration o.meter).setRegisteredUnits k.roster.size }
  | .settled results _ =>
    let s := Settlement.of k.roster k.meters results
    ⟨s.roster, s.meters⟩
  | .reported r =>
    { k with meters := ((k.meters.addEvictions r.evicted.length).setLiveEvents
        r.live).setRegisteredUnits k.roster.size }
  | .skipped => k

namespace Posting

/-- A posting tells the truth about the books that it is made to. -/
def Fits (k : Books) : Posting → Prop
  | filed u arrives => arrives = !k.roster.contains u.unitId
  | settled results r => r = (Settlement.of k.roster k.meters results).report results.length
  | _ => True

def outcome? : Posting → Option Outcome
  | concluded o => some o
  | _ => none

/-- The report that is drawn up. -/
def draft? : Posting → Option Report
  | settled _ r => some r
  | _ => none

/-- The report that is counted. -/
def counted? : Posting → Option Report
  | reported r => some r
  | _ => none

/-- The report with which a cycle ends. -/
def report? : Posting → Option Report
  | reported r => some r
  | skipped => some .skip
  | _ => none

def isArrival : Posting → Bool
  | filed _ arrives => arrives
  | _ => false

end Posting

/-- The books agree with the outcomes of registrations, with the reports that were drawn up and
those that were counted, and with the number of arrivals. -/
structure Books.Agrees (outcomes : List Outcome) (drafts counted : List Report) (arrivals : Nat)
    (k : Books) : Prop where
  sound : k.roster.Sound
  ordered : k.meters.registrations.Ordered ∧ k.meters.probes.Ordered
  registrations : ∀ o : Meters.Registration, k.meters.registrations.count [o.label] =
    .ofNat (outcomes.countP fun x => x.meter = o)
  handled : k.meters.registrations.total = .ofNat outcomes.length
  healthy : k.meters.probes.count [Meters.Probe.healthy.label] =
    .ofNat (drafts.map Report.healthy).sum
  failed : k.meters.probes.count [Meters.Probe.failed.label] =
    .ofNat (drafts.map Report.failed).sum
  unresponsive : k.meters.probes.count [Meters.Probe.unresponsive.label] =
    .ofNat (drafts.map Report.silent).sum
  probed : k.meters.probes.total = .ofNat (drafts.map Report.probed).sum
  drawn : ∀ r ∈ drafts, r.Drawn
  arrivals : arrivals = (drafts.map fun r => r.evicted.length).sum + k.roster.size
  evictions : k.meters.evictions = .ofNat (counted.map fun r => r.evicted.length).sum
  liveEvents : k.meters.liveEvents = (counted.getLast?.map fun r => Meters.gauge r.live).getD 0

namespace Probe.Settlement

variable (r : Roster) (m : Meters) (xs : List Result)

theorem countP_unresponsive :
    (xs.countP fun x => x.2 = .unresponsive) = xs.countP fun x => x.2.meter = .unresponsive :=
  List.countP_congr fun x _ => by cases x.2 <;> simp [Probe.Outcome.meter]

theorem report_healthy : ((of r m xs).report xs.length).healthy =
    xs.countP fun x => x.2.meter = .healthy := by
  refine (of_healthy r m xs).trans (List.countP_congr fun x _ => ?_)
  cases x.2 <;> simp [Probe.Outcome.meter]

theorem report_failed : ((of r m xs).report xs.length).failed =
    xs.countP fun x => x.2.meter = .failed := by
  refine (of_failed r m xs).trans (List.countP_congr fun x _ => ?_)
  cases x.2 <;> simp [Probe.Outcome.meter, Probe.Outcome.isFailed]

theorem length_eq_countP : xs.length = (xs.countP fun x => x.2.meter = .healthy) +
    (xs.countP fun x => x.2.meter = .unresponsive) + xs.countP fun x => x.2.meter = .failed := by
  induction xs with
  | nil => rfl
  | cons x xs ih =>
    simp only [List.length_cons, List.countP_cons, decide_eq_true_eq]
    cases x.2.meter <;> simp <;> omega

theorem report_silent : ((of r m xs).report xs.length).silent =
    xs.countP fun x => x.2.meter = .unresponsive := by
  have hlength := length_eq_countP xs
  rw [Report.silent, report_healthy, report_failed]
  change xs.length - _ - _ = _
  omega

theorem report_drawn : ((of r m xs).report xs.length).Drawn where
  skipped := rfl
  probed := by
    rw [report_healthy, report_failed, report_silent]
    exact length_eq_countP xs
  evicted := by
    rw [report_silent, ← countP_unresponsive]
    exact length_evicted_of_le r m xs

theorem meters_of : (of r m xs).meters = { m with
    probes := (xs.map fun x => [x.2.meter.label]).foldl
      (fun c values => c.tick values) m.probes } := by
  rw [of, foldl_take_meters]
  exact Meters.foldl_countProbe xs m

end Probe.Settlement

namespace Books.Agrees

variable {os : List Outcome} {ds cs : List Report} {n : Nat} {k : Books}

theorem start : Agrees [] [] [] 0 ⟨.empty, .zero⟩ where
  sound := Roster.sound_empty
  ordered := ⟨.nil, .nil⟩
  registrations _ := rfl
  handled := rfl
  healthy := rfl
  failed := rfl
  unresponsive := rfl
  probed := rfl
  drawn := nofun
  arrivals := rfl
  evictions := rfl
  liveEvents := rfl

theorem filed (h : Agrees os ds cs n k) (u : FieldUnit) :
    Agrees os ds cs (n + if (!k.roster.contains u.unitId) = true then 1 else 0)
      { k with roster := k.roster.register u } :=
  { h with
    sound := h.sound.register u
    arrivals := by
      rw [h.arrivals, h.sound.size_register]
      cases k.roster.contains u.unitId <;> rfl }

theorem concluded (h : Agrees os ds cs n k) (o : Outcome) : Agrees (os ++ [o]) ds cs n
    { k with meters := (k.meters.countRegistration o.meter).setRegisteredUnits k.roster.size } :=
  { h with
    ordered := ⟨h.ordered.1.put _ _, h.ordered.2⟩
    registrations := fun x => by
      change (k.meters.registrations.tick [o.meter.label]).count [x.label] = _
      rw [List.countP_append, UInt64.ofNat_add, ← h.registrations]
      by_cases hx : o.meter = x
      · rw [hx, Meters.Counters.count_tick, List.countP_singleton, if_pos (decide_eq_true hx)]
        rfl
      · have hne : [x.label] ≠ [o.meter.label] := fun he =>
          hx (Meters.Registration.label_injective (List.cons.inj he).1).symm
        rw [Meters.Counters.count_tick_of_ne hne, List.countP_singleton, if_neg (by simpa using hx)]
        exact (add_zero _).symm
    handled := by
      change (k.meters.registrations.tick [o.meter.label]).total = _
      rw [Meters.Counters.total_tick h.ordered.1, h.handled, List.length_append,
        UInt64.ofNat_add]
      rfl }

theorem settled (h : Agrees os ds cs n k) (xs : List Result) :
    Agrees os (ds ++ [(Settlement.of k.roster k.meters xs).report xs.length]) cs n
      ⟨(Settlement.of k.roster k.meters xs).roster, (Settlement.of k.roster k.meters xs).meters⟩ := by
  have hcount (o : Meters.Probe) {f : Report → Nat}
      (hold : k.meters.probes.count [o.label] = .ofNat (ds.map f).sum)
      (hnew : f ((Settlement.of k.roster k.meters xs).report xs.length) =
        xs.countP fun x => x.2.meter = o) :
      ((xs.map fun x => [x.2.meter.label]).foldl (fun c values => c.tick values)
        k.meters.probes).count [o.label] = .ofNat ((ds ++
          [(Settlement.of k.roster k.meters xs).report xs.length]).map f).sum := by
    rw [Meters.Counters.count_foldl_tick, Meters.count_label, hold, List.map_append,
      List.sum_append, UInt64.ofNat_add, List.map_singleton, List.sum_singleton, hnew]
  have hsize := Settlement.size_of k.roster k.meters xs
  rw [Settlement.meters_of]
  exact { h with
    sound := h.sound.changes (Settlement.changes_of _ _ _)
    ordered := ⟨h.ordered.1, Meters.Counters.ordered_foldl_tick h.ordered.2 _⟩
    healthy := hcount .healthy h.healthy (Settlement.report_healthy _ _ _)
    failed := hcount .failed h.failed (Settlement.report_failed _ _ _)
    unresponsive := hcount .unresponsive h.unresponsive (Settlement.report_silent _ _ _)
    probed := by
      rw [Meters.Counters.total_foldl_tick h.ordered.2, h.probed, List.map_append, List.sum_append,
        UInt64.ofNat_add, List.length_map]
      rfl
    drawn := fun r hr => by
      rcases List.mem_append.mp hr with hr | hr
      · exact h.drawn r hr
      · rw [List.mem_singleton.mp hr]
        exact Settlement.report_drawn _ _ _
    arrivals := by
      rw [h.arrivals, List.map_append, List.sum_append, List.map_singleton, List.sum_singleton]
      change _ = _ + (Settlement.of k.roster k.meters xs).evicted.length +
        (Settlement.of k.roster k.meters xs).roster.size
      omega }

theorem reported (h : Agrees os ds cs n k) (r : Report) : Agrees os ds (cs ++ [r]) n
    { k with meters := ((k.meters.addEvictions r.evicted.length).setLiveEvents
        r.live).setRegisteredUnits k.roster.size } :=
  { h with
    evictions := by
      rw [List.map_append, List.sum_append, UInt64.ofNat_add, ← h.evictions, List.map_singleton,
        List.sum_singleton]
      rfl
    liveEvents := by
      rw [List.getLast?_append]
      rfl }

end Books.Agrees

/-- The books agree with what was posted. -/
def Books.Balances (ps : List Posting) (k : Books) : Prop :=
  k.Agrees (ps.filterMap Posting.outcome?) (ps.filterMap Posting.draft?)
    (ps.filterMap Posting.counted?) (ps.countP Posting.isArrival)

theorem Books.Balances.start : Books.Balances [] ⟨.empty, .zero⟩ := Books.Agrees.start

theorem Books.Balances.post {ps : List Posting} {k : Books} (h : k.Balances ps) {p : Posting}
    (hp : p.Fits k) : (k.post p).Balances (ps ++ [p]) := by
  have hconcat {α : Type} (f : Posting → Option α) :
      (ps ++ [p]).filterMap f = ps.filterMap f ++ (f p).toList := by
    rw [List.filterMap_append]
    cases hf : f p <;> simp [hf]
  unfold Balances at h ⊢
  rw [hconcat, hconcat, hconcat, List.countP_append, List.countP_singleton]
  cases p <;> simp only [Posting.outcome?, Posting.draft?, Posting.counted?, Option.toList_none,
    Option.toList_some, List.append_nil]
  case filed u arrives =>
    obtain rfl : arrives = !k.roster.contains u.unitId := hp
    exact h.filed u
  case concluded o => exact h.concluded o
  case settled xs r =>
    obtain rfl : r = (Settlement.of k.roster k.meters xs).report xs.length := hp
    exact h.settled xs
  case reported r => exact h.reported r
  case skipped => exact h

end FleetBridge
