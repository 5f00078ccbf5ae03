import FleetBridge.Probe.Basic
import FleetBridge.Proofs.Roster
import Mathlib.Data.List.Lex
import Mathlib.Order.Lattice.Nat

/-!
What the results of a cycle come to: which registrations go, how the events are counted, and that
the order of the results shows in nothing but the order of the evictions.
-/
namespace FleetBridge.Probe

/-- No unit was probed twice. -/
def Apart (xs : List Result) : Prop := (xs.map fun x => x.1.unit.unitId).Nodup

def Outcome.isFailed : Outcome → Bool
  | failed _ => true
  | _ => false

/-- Whether a result makes a roster lose the registration that was probed. -/
def isDismissed (r : Roster) (x : Result) : Bool :=
  x.2 = .unresponsive && r.holds x.1.unit.unitId x.1.stamp

/-- How many units of an event answered. -/
def answered (event : Int) (xs : List Result) : Nat :=
  xs.countP fun x => x.1.unit.eventId = event && x.2 = .healthy

/-- How many units of an event were evicted. -/
def dismissed (r : Roster) (event : Int) (xs : List Result) : Nat :=
  xs.countP fun x => x.1.unit.eventId = event && isDismissed r x

/-- How many silent units stay because they registered again or were removed. -/
def kept (r : Roster) (xs : List Result) : Nat :=
  xs.countP fun x => x.2 = .unresponsive && !isDismissed r x

/-- The status that the counts of an event call for; none if nothing was counted. -/
def verdict (answered dismissed : Nat) : Option Event.Status :=
  if answered + dismissed = 0 then none
  else if dismissed < answered then some .live else some .notLive

/-- A result as far as the roster is concerned. -/
def dismiss (r : Roster) (x : Result) : Roster :=
  if x.2 = .unresponsive then r.evict x.1.unit.unitId x.1.stamp else r

theorem Apart.tail {x : Result} {xs : List Result} (h : Apart (x :: xs)) : Apart xs :=
  (List.nodup_cons.mp h).2

theorem Apart.head_ne {x : Result} {xs : List Result} (h : Apart (x :: xs)) :
    ∀ y ∈ xs, y.1.unit.unitId ≠ x.1.unit.unitId :=
  fun _ hy he => (List.nodup_cons.mp h).1 (List.mem_map.mpr ⟨_, hy, he⟩)

theorem Apart.perm {xs ys : List Result} (h : Apart xs) (hp : xs.Perm ys) : Apart ys :=
  (hp.map _).nodup_iff.mp h

theorem Apart.eq_of_unitId {xs : List Result} (h : Apart xs) {x y : Result} (hx : x ∈ xs)
    (hy : y ∈ xs) (he : x.1.unit.unitId = y.1.unit.unitId) : x = y :=
  List.inj_on_of_nodup_map h hx hy he

theorem isDismissed_dismiss_of_ne {x y : Result} (h : y.1.unit.unitId ≠ x.1.unit.unitId)
    (r : Roster) : isDismissed (dismiss r x) y = isDismissed r y := by
  unfold dismiss isDismissed
  split
  · rw [Roster.holds_evict_of_ne h]
  · rfl

/-! What one result does. -/

namespace Settlement

variable (s : Settlement) (x : Result)

theorem take_roster : (s.take x).roster = dismiss s.roster x := by
  obtain ⟨e, o⟩ := x
  cases o with
  | healthy => rfl
  | failed f => rfl
  | unresponsive =>
    simp only [take, dismiss, Roster.evict, if_true]
    split <;> rfl

theorem take_meters : (s.take x).meters = s.meters.countProbe x.2.meter := by
  obtain ⟨e, o⟩ := x
  cases o with
  | healthy => rfl
  | failed f => rfl
  | unresponsive =>
    simp only [take]
    split <;> rfl

theorem take_healthy : (s.take x).healthy = s.healthy + if x.2 = .healthy then 1 else 0 := by
  obtain ⟨e, o⟩ := x
  cases o with
  | healthy => rfl
  | failed f => rfl
  | unresponsive =>
    simp only [take]
    split <;> rfl

theorem take_failed : (s.take x).failed = s.failed + if x.2.isFailed then 1 else 0 := by
  obtain ⟨e, o⟩ := x
  cases o with
  | healthy => rfl
  | failed f => rfl
  | unresponsive =>
    simp only [take]
    split <;> rfl

theorem take_evicted : (s.take x).evicted =
    s.evicted ++ if isDismissed s.roster x then [x.1.unit.unitId] else [] := by
  obtain ⟨e, o⟩ := x
  cases o with
  | healthy => simp [take, isDismissed]
  | failed f => simp [take, isDismissed]
  | unresponsive =>
    simp only [take, isDismissed, decide_true, Bool.true_and]
    split <;> simp

theorem take_tally : (s.take x).tally =
    if x.2 = .healthy then s.tally.answered x.1.unit.eventId
    else if isDismissed s.roster x then s.tally.missed x.1.unit.eventId else s.tally := by
  obtain ⟨e, o⟩ := x
  cases o with
  | healthy => rfl
  | failed f => simp [take, isDismissed]
  | unresponsive =>
    simp only [take, isDismissed, decide_true, Bool.true_and, reduceCtorEq, if_false]
    split <;> rfl

end Settlement

/-! What all results do. -/

theorem foldl_take_roster (s : Settlement) (xs : List Result) :
    (xs.foldl Settlement.take s).roster = xs.foldl dismiss s.roster := by
  induction xs generalizing s with
  | nil => rfl
  | cons x xs ih => rw [List.foldl_cons, List.foldl_cons, ih, Settlement.take_roster]

theorem foldl_take_meters (s : Settlement) (xs : List Result) :
    (xs.foldl Settlement.take s).meters =
      xs.foldl (fun m x => m.countProbe x.2.meter) s.meters := by
  induction xs generalizing s with
  | nil => rfl
  | cons x xs ih => rw [List.foldl_cons, List.foldl_cons, ih, Settlement.take_meters]

theorem foldl_take_healthy (s : Settlement) (xs : List Result) :
    (xs.foldl Settlement.take s).healthy = s.healthy + xs.countP fun x => x.2 = .healthy := by
  induction xs generalizing s with
  | nil => rfl
  | cons x xs ih =>
    rw [List.foldl_cons, ih, Settlement.take_healthy, List.countP_cons]
    simp only [decide_eq_true_eq]
    omega

theorem foldl_take_failed (s : Settlement) (xs : List Result) :
    (xs.foldl Settlement.take s).failed = s.failed + xs.countP fun x => x.2.isFailed := by
  induction xs generalizing s with
  | nil => rfl
  | cons x xs ih =>
    rw [List.foldl_cons, ih, Settlement.take_failed, List.countP_cons]
    omega

theorem isDismissed_take_of_ne {s : Settlement} {x y : Result}
    (h : y.1.unit.unitId ≠ x.1.unit.unitId) :
    isDismissed (s.take x).roster y = isDismissed s.roster y := by
  rw [Settlement.take_roster, isDismissed_dismiss_of_ne h]

theorem foldl_take_evicted (s : Settlement) {xs : List Result} (h : Apart xs) :
    (xs.foldl Settlement.take s).evicted =
      s.evicted ++ (xs.filter (isDismissed s.roster)).map fun x => x.1.unit.unitId := by
  induction xs generalizing s with
  | nil => simp
  | cons x xs ih =>
    have hsame : xs.filter (isDismissed (s.take x).roster) =
        xs.filter (isDismissed s.roster) :=
      List.filter_congr fun y hy => isDismissed_take_of_ne (h.head_ne y hy)
    rw [List.foldl_cons, ih _ h.tail, hsame, Settlement.take_evicted, List.filter_cons]
    split <;> simp

theorem dismissed_take {s : Settlement} {x : Result} {xs : List Result} (h : Apart (x :: xs))
    (event : Int) : dismissed (s.take x).roster event xs = dismissed s.roster event xs := by
  refine List.countP_congr fun y hy => ?_
  rw [isDismissed_take_of_ne (h.head_ne y hy)]

theorem take_tally_get? (s : Settlement) (x : Result) (event : Int) :
    (s.take x).tally.get? event =
      if answered event [x] + dismissed s.roster event [x] = 0 then s.tally.get? event
      else some ((s.tally.get? event).getD 0 + answered event [x] -
        dismissed s.roster event [x]) := by
  rw [Settlement.take_tally]
  obtain ⟨e, o⟩ := x
  by_cases he : event = e.unit.eventId
  · subst he
    cases o with
    | healthy => simp [Tally.answered, Tally.add, answered, dismissed, isDismissed]
    | failed f => simp [answered, dismissed, isDismissed]
    | unresponsive =>
      by_cases hh : s.roster.holds e.unit.unitId e.stamp
      · simp [Tally.missed, Tally.add, answered, dismissed, isDismissed, hh, Int.sub_eq_add_neg]
      · simp [answered, dismissed, isDismissed, hh]
  · have he' : ¬ e.unit.eventId = event := Ne.symm he
    have hzero : answered event [(e, o)] = 0 ∧ dismissed s.roster event [(e, o)] = 0 := by
      simp [answered, dismissed, he']
    rw [hzero.1, hzero.2]
    cases o with
    | healthy => simp [Tally.answered, Tally.add, he]
    | failed f => simp [isDismissed]
    | unresponsive =>
      simp only [reduceCtorEq, if_false]
      split <;> simp [Tally.missed, Tally.add, he]

theorem answered_cons (event : Int) (x : Result) (xs : List Result) :
    answered event (x :: xs) = answered event [x] + answered event xs := by
  rw [answered, ← List.singleton_append, List.countP_append]
  rfl

theorem dismissed_cons (r : Roster) (event : Int) (x : Result) (xs : List Result) :
    dismissed r event (x :: xs) = dismissed r event [x] + dismissed r event xs := by
  rw [dismissed, ← List.singleton_append, List.countP_append]
  rfl

/-- Each event is counted by its units that answered less those that were evicted. -/
theorem foldl_take_tally_get? (s : Settlement) {xs : List Result} (h : Apart xs) (event : Int) :
    (xs.foldl Settlement.take s).tally.get? event =
      if answered event xs + dismissed s.roster event xs = 0 then s.tally.get? event
      else some ((s.tally.get? event).getD 0 + answered event xs -
        dismissed s.roster event xs) := by
  induction xs generalizing s with
  | nil => simp [answered, dismissed]
  | cons x xs ih =>
    -- What the others lose does not depend on `x`, since no unit was probed twice.
    rw [List.foldl_cons, ih _ h.tail, dismissed_take h, take_tally_get?, answered_cons event x xs,
      dismissed_cons s.roster event x xs]
    by_cases hx : answered event [x] + dismissed s.roster event [x] = 0
    · have ha : answered event [x] = 0 := by omega
      have hd : dismissed s.roster event [x] = 0 := by omega
      simp [ha, hd]
    · by_cases hxs : answered event xs + dismissed s.roster event xs = 0
      · have ha : answered event xs = 0 := by omega
        have hd : dismissed s.roster event xs = 0 := by omega
        simp [ha, hd]
      · have hsum : answered event [x] + answered event xs +
            (dismissed s.roster event [x] + dismissed s.roster event xs) ≠ 0 := by omega
        simp only [hx, hxs, hsum, if_false, Option.getD_some, Option.some.injEq]
        omega

theorem foldl_take_ordered (s : Settlement) (xs : List Result) (h : s.tally.Ordered) :
    (xs.foldl Settlement.take s).tally.Ordered := by
  induction xs generalizing s with
  | nil => exact h
  | cons x xs ih =>
    refine ih _ ?_
    rw [Settlement.take_tally]
    split
    · exact h.put _ _
    · split
      · exact h.put _ _
      · exact h

/-! The roster after all results. -/

theorem changes_dismiss (r : Roster) (x : Result) : Roster.Changes r (dismiss r x) := by
  unfold dismiss
  split
  · exact Roster.changes_evict _ _ r
  · exact .refl

theorem changes_foldl_dismiss (r : Roster) (xs : List Result) :
    Roster.Changes r (xs.foldl dismiss r) := by
  induction xs generalizing r with
  | nil => exact .refl
  | cons x xs ih => exact (changes_dismiss r x).trans (ih _)

theorem mem_foldl_dismiss {r : Roster} (h : r.Sound) (xs : List Result)
    {x : String × Roster.Entry} :
    x ∈ (xs.foldl dismiss r).filed ↔
      x ∈ r.filed ∧ ∀ y ∈ xs, y.2 = .unresponsive → y.1.mark ≠ x.2.mark := by
  induction xs generalizing r with
  | nil => simp
  | cons y xs ih =>
    have hstep : x ∈ (dismiss r y).filed ↔
        x ∈ r.filed ∧ (y.2 = .unresponsive → y.1.mark ≠ x.2.mark) := by
      unfold dismiss
      split
      next hy =>
        rw [h.mem_evict]
        exact and_congr_right fun _ => by simp [hy, Roster.Entry.mark, eq_comm]
      next hy => simp [hy]
    rw [List.foldl_cons, ih (h.changes (changes_dismiss r y)), hstep, and_assoc,
      List.forall_mem_cons]

namespace Settlement

theorem changes_of (r : Roster) (m : Meters) (xs : List Result) :
    Roster.Changes r (of r m xs).roster := by
  rw [of, foldl_take_roster]
  exact changes_foldl_dismiss r xs

/-- Exactly the registrations whose probes met silence go, and the others keep their order. -/
theorem of_entries {r : Roster} (h : r.Sound) (m : Meters) (xs : List Result) :
    (of r m xs).roster.entries = r.entries.filter fun e =>
      !xs.any fun x => x.2 = .unresponsive && x.1.mark = e.mark := by
  refine h.entries_filter (h.changes (changes_of r m xs)) _ fun x => ?_
  rw [of, foldl_take_roster, start, mem_foldl_dismiss h]
  simp

theorem of_statuses_get? (r : Roster) (m : Meters) {xs : List Result} (h : Apart xs)
    (event : Int) :
    (of r m xs).tally.statuses.get? event =
      verdict (answered event xs) (dismissed r event xs) := by
  rw [Tally.statuses, Table.get?_map_snd, of, foldl_take_tally_get? _ h]
  simp only [start, verdict, Table.get?, Option.getD_none, Int.zero_add]
  by_cases hnone : answered event xs + dismissed r event xs = 0
  · rw [if_pos hnone, if_pos hnone, Option.map_none]
  · rw [if_neg hnone, if_neg hnone, Option.map_some, Event.Status.ofTally]
    by_cases hlt : dismissed r event xs < answered event xs
    · rw [if_pos hlt, if_pos (by omega)]
    · rw [if_neg hlt, if_neg (by omega)]

theorem of_statuses_ordered (r : Roster) (m : Meters) (xs : List Result) :
    (of r m xs).tally.statuses.Ordered :=
  (foldl_take_ordered (start r m) xs List.Pairwise.nil).map_snd _

theorem of_healthy (r : Roster) (m : Meters) (xs : List Result) :
    (of r m xs).healthy = xs.countP fun x => x.2 = .healthy := by
  rw [of, foldl_take_healthy, start, Nat.zero_add]

theorem of_failed (r : Roster) (m : Meters) (xs : List Result) :
    (of r m xs).failed = xs.countP fun x => x.2.isFailed := by
  rw [of, foldl_take_failed, start, Nat.zero_add]

theorem of_evicted (r : Roster) (m : Meters) {xs : List Result} (h : Apart xs) :
    (of r m xs).evicted = (xs.filter (isDismissed r)).map fun x => x.1.unit.unitId := by
  rw [of, foldl_take_evicted _ h, start, List.nil_append]

end Settlement

namespace Settlement

/-- The units that go are those that are named as evicted. -/
theorem size_take (s : Settlement) (x : Result) :
    (s.take x).roster.size + (s.take x).evicted.length = s.roster.size + s.evicted.length := by
  obtain ⟨e, o⟩ := x
  cases o with
  | healthy => rfl
  | failed f => rfl
  | unresponsive =>
    simp only [take]
    split
    next hholds =>
      have hsize : (s.roster.remove e.unit.unitId).size + 1 = s.roster.size := by
        obtain ⟨e', he', -⟩ := Option.any_eq_true _ _ |>.mp hholds
        exact Roster.size_remove (Option.isSome_iff_exists.mpr ⟨e', he'⟩)
      simp only [List.length_append, List.length_singleton]
      omega
    next => rfl

theorem size_of (r : Roster) (m : Meters) (xs : List Result) :
    (of r m xs).roster.size + (of r m xs).evicted.length = r.size := by
  have hfold (s : Settlement) : (xs.foldl take s).roster.size + (xs.foldl take s).evicted.length =
      s.roster.size + s.evicted.length := by
    induction xs generalizing s with
    | nil => rfl
    | cons x xs ih => rw [List.foldl_cons, ih, size_take]
  exact hfold (start r m)

/-- Only silent units are evicted. -/
theorem length_evicted_of_le (r : Roster) (m : Meters) (xs : List Result) :
    (of r m xs).evicted.length ≤ xs.countP fun x => x.2 = .unresponsive := by
  have hfold (s : Settlement) : (xs.foldl take s).evicted.length ≤
      s.evicted.length + xs.countP fun x => x.2 = .unresponsive := by
    induction xs generalizing s with
    | nil => exact Nat.le_refl _
    | cons x xs ih =>
      have hx := ih (s.take x)
      rw [take_evicted, List.length_append, isDismissed] at hx
      rw [List.foldl_cons, List.countP_cons]
      refine hx.trans ?_
      by_cases hsilent : x.2 = .unresponsive
      · rw [if_pos (decide_eq_true hsilent)]
        split <;> simp only [List.length_singleton, List.length_nil] <;> omega
      · simp only [hsilent, decide_false, Bool.false_and, Bool.false_eq_true, if_false,
          List.length_nil]
        omega
  exact (hfold (start r m)).trans_eq (Nat.zero_add _)

end Settlement

/-- Every result is of one of four kinds. -/
theorem length_eq_sum (r : Roster) (xs : List Result) :
    xs.length = (xs.countP fun x => x.2 = .healthy) + xs.countP (isDismissed r) +
      (xs.countP fun x => x.2.isFailed) + kept r xs := by
  induction xs with
  | nil => rfl
  | cons x xs ih =>
    have hx : 1 = (if decide (x.2 = .healthy) = true then 1 else 0) +
        (if isDismissed r x = true then 1 else 0) + (if x.2.isFailed = true then 1 else 0) +
        (if (decide (x.2 = .unresponsive) && !isDismissed r x) = true then 1 else 0) := by
      obtain ⟨e, o⟩ := x
      cases o with
      | healthy => simp [isDismissed, Outcome.isFailed]
      | failed f => simp [isDismissed, Outcome.isFailed]
      | unresponsive =>
        by_cases hh : r.holds e.unit.unitId e.stamp <;> simp [isDismissed, Outcome.isFailed, hh]
    simp only [kept, List.countP_cons, List.length_cons] at ih ⊢
    omega

/-! The order of the results. -/

theorem dismiss_comm {x y : Result} (h : x.1.unit.unitId ≠ y.1.unit.unitId) (r : Roster) :
    dismiss (dismiss r x) y = dismiss (dismiss r y) x := by
  unfold dismiss
  split
  · split
    · exact Roster.evict_comm h _ _ r
    · rfl
  · rfl

theorem foldl_dismiss_perm {xs ys : List Result} (h : Apart xs) (hp : xs.Perm ys) (r : Roster) :
    xs.foldl dismiss r = ys.foldl dismiss r := by
  refine hp.foldl_eq' (fun x hx y hy r => ?_) r
  by_cases he : x.1.unit.unitId = y.1.unit.unitId
  · rw [h.eq_of_unitId hx hy he]
  · exact dismiss_comm he r

theorem tick_comm (a b : List String) (c : Meters.Counters) :
    (c.tick a).tick b = (c.tick b).tick a := by
  by_cases h : a = b
  · rw [h]
  · simp only [Meters.Counters.tick, Meters.Counters.count]
    rw [Table.get?_put_of_ne (Ne.symm h), Table.get?_put_of_ne h, Table.put_comm (Ne.symm h)]

theorem countProbe_perm {xs ys : List Result} (hp : xs.Perm ys) (m : Meters) :
    xs.foldl (fun m x => m.countProbe x.2.meter) m =
      ys.foldl (fun m x => m.countProbe x.2.meter) m :=
  hp.foldl_eq' (fun _ _ _ _ m => by simp only [Meters.countProbe, tick_comm]) m

theorem answered_perm {xs ys : List Result} (hp : xs.Perm ys) (event : Int) :
    answered event xs = answered event ys :=
  hp.countP_eq _

theorem dismissed_perm {xs ys : List Result} (hp : xs.Perm ys) (r : Roster) (event : Int) :
    dismissed r event xs = dismissed r event ys :=
  hp.countP_eq _

namespace Settlement

theorem of_roster_perm {xs ys : List Result} (h : Apart xs) (hp : xs.Perm ys) (r : Roster)
    (m : Meters) : (of r m xs).roster = (of r m ys).roster := by
  rw [of, of, foldl_take_roster, foldl_take_roster, foldl_dismiss_perm h hp]

theorem of_meters_perm {xs ys : List Result} (hp : xs.Perm ys) (r : Roster) (m : Meters) :
    (of r m xs).meters = (of r m ys).meters := by
  rw [of, of, foldl_take_meters, foldl_take_meters, countProbe_perm hp]

theorem of_tally_perm {xs ys : List Result} (h : Apart xs) (hp : xs.Perm ys) (r : Roster)
    (m : Meters) : (of r m xs).tally = (of r m ys).tally := by
  -- The events may be filed in another order, but a table in order is known by its counts.
  refine Table.Ordered.ext (foldl_take_ordered _ _ List.Pairwise.nil)
    (foldl_take_ordered _ _ List.Pairwise.nil) fun event => ?_
  rw [of, of, foldl_take_tally_get? _ h, foldl_take_tally_get? _ (h.perm hp), answered_perm hp,
    dismissed_perm hp]

theorem of_evicted_perm {xs ys : List Result} (h : Apart xs) (hp : xs.Perm ys) (r : Roster)
    (m : Meters) : (of r m xs).evicted.Perm (of r m ys).evicted := by
  rw [of_evicted r m h, of_evicted r m (h.perm hp)]
  exact (hp.filter _).map _

end Settlement
end FleetBridge.Probe
