import FleetBridge.Proofs.Probe.Settlement
import FleetBridge.Proofs.Telemetry.Dispatching
import Mathlib.Algebra.BigOperators.Group.List.Basic
import Mathlib.Data.UInt

/-!
Families of counters: what they count under each label and all together.
-/
namespace FleetBridge.Meters

namespace Counters

variable {c : Counters} {values values' : List String}

/-- All that a family counts. -/
def total (c : Counters) : UInt64 := (c.map Prod.snd).sum

theorem count_tick_of_ne (h : values' ≠ values) (c : Counters) :
    (c.tick values).count values' = c.count values' := by
  rw [tick, count, Table.get?_put_of_ne h, count]

theorem total_tick (h : c.Ordered) (values : List String) :
    (c.tick values).total = c.total + 1 := by
  have hput := (h.perm_put values (c.count values + 1)).map Prod.snd
  rw [total, tick, hput.sum_eq, List.map_cons, List.sum_cons, total, count]
  cases hv : Table.get? values c with
  | none =>
    rw [Table.erase_of_get?_none hv, Option.getD_none, zero_add, add_comm]
  | some v =>
    rw [((Table.perm_cons_erase hv).map Prod.snd).sum_eq, List.map_cons, List.sum_cons,
      Option.getD_some, add_right_comm]

/-- The family after a number of ticks. -/
theorem ordered_foldl_tick (h : c.Ordered) (labels : List (List String)) :
    (labels.foldl (fun c values => c.tick values) c).Ordered := by
  induction labels generalizing c with
  | nil => exact h
  | cons values labels ih => exact ih (h.put _ _)

theorem count_foldl_tick (labels : List (List String)) (values : List String) (c : Counters) :
    (labels.foldl (fun c values => c.tick values) c).count values =
      c.count values + .ofNat (labels.count values) := by
  induction labels generalizing c with
  | nil => exact (add_zero _).symm
  | cons values' labels ih =>
    rw [List.foldl_cons, ih]
    by_cases h : values = values'
    · subst h
      rw [count_tick, List.count_cons_self, UInt64.ofNat_add, add_assoc, add_comm (1 : UInt64)]
      rfl
    · rw [count_tick_of_ne h, List.count_cons_of_ne (Ne.symm h)]

theorem total_foldl_tick (h : c.Ordered) (labels : List (List String)) :
    (labels.foldl (fun c values => c.tick values) c).total = c.total + .ofNat labels.length := by
  induction labels generalizing c with
  | nil => exact (add_zero _).symm
  | cons values labels ih =>
    have htick : (c.tick values).Ordered := h.put _ _
    rw [List.foldl_cons, ih htick, total_tick h, List.length_cons, UInt64.ofNat_add,
      add_assoc, add_comm (1 : UInt64)]
    rfl

end Counters

/-! The meters after probes were counted. -/

theorem foldl_countProbe (xs : List Probe.Result) (m : Meters) :
    xs.foldl (fun m x => m.countProbe x.2.meter) m =
      { m with probes :=
          (xs.map fun x => [x.2.meter.label]).foldl (fun c values => c.tick values) m.probes } := by
  induction xs generalizing m with
  | nil => rfl
  | cons x xs ih =>
    rw [List.foldl_cons, ih]
    rfl

theorem Registration.label_injective : Function.Injective Registration.label := by
  intro o o' h
  cases o <;> cases o' <;> first | rfl | (exact absurd h (by decide))

theorem Probe.label_injective : Function.Injective Probe.label := by
  intro o o' h
  cases o <;> cases o' <;> first | rfl | (exact absurd h (by decide))

/-- Probes are counted under their labels. -/
theorem count_label (xs : List FleetBridge.Probe.Result) (o : Probe) :
    (xs.map fun x => [x.2.meter.label]).count [o.label] = xs.countP fun x => x.2.meter = o := by
  rw [List.count, List.countP_map]
  refine List.countP_congr fun x _ => ?_
  simp [Probe.label_injective.eq_iff]

end FleetBridge.Meters
