import FleetBridge.Directory
import FleetBridge.Proofs.Table
import Mathlib.Order.Lattice.Nat

/-!
The status written last for an event, after one write and after the writes of a whole table.
-/
namespace FleetBridge.StatusLog

theorem last?_congr {l l' : StatusLog} (h : l'.updates = l.updates) (event : Int) :
    l'.last? event = l.last? event := by
  rw [last?, h, last?]

@[simp] theorem last?_write_self (event : Int) (s : Event.Status) (l : StatusLog) :
    (l.write event s).last? event = some s := by
  simp [last?, write]

@[simp] theorem last?_write_of_ne {event event' : Int} (h : event' ≠ event) (s : Event.Status)
    (l : StatusLog) : (l.write event s).last? event' = l.last? event' := by
  have hne : event ≠ event' := h.symm
  simp [last?, write, hne]

/-- A table of statuses overrides what was written before, event by event. -/
theorem last?_append {ws : Table Int Event.Status} (hw : ws.Ordered) {l l' : StatusLog}
    (h : l'.updates = l.updates ++ ws) (event : Int) :
    l'.last? event = (ws.get? event).or (l.last? event) := by
  induction ws generalizing l with
  | nil =>
    rw [List.append_nil] at h
    rw [last?_congr h]
    rfl
  | cons w ws ih =>
    obtain ⟨event', s⟩ := w
    have hrest : l'.updates = (l.write event' s).updates ++ ws := by
      rw [h, write, List.append_assoc, List.singleton_append]
    rw [ih hw.tail hrest]
    by_cases he : event = event'
    · subst he
      have hnone : Table.get? event ws = none := by
        rw [Table.get?_eq_none_iff]
        intro hm
        obtain ⟨y, hy, hye⟩ := List.mem_map.mp hm
        exact hw.head_ne y hy hye
      rw [hnone, last?_write_self, Table.get?, if_pos rfl]
      rfl
    · rw [last?_write_of_ne he, Table.get?, if_neg he]

end FleetBridge.StatusLog
