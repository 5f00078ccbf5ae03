import FleetBridge.Bridge.Schedule
import FleetBridge.Proofs.Bridge.Frame

/-!
The programs of a bridge's tasks after a turn and after the start of a task.
-/
namespace FleetBridge.Bridge

variable {b b' : Bridge} {i j : TaskId}

theorem program?_congr (h : b'.tasks = b.tasks) (i : TaskId) : b'.program? i = b.program? i := by
  rw [program?, h, program?]

/-- A program stands in the place of a task, and nothing else happened. -/
structure Placed (i : TaskId) (p : Program) (b b' : Bridge) : Prop where
  self : b'.program? i = some p
  ne : ∀ j, j ≠ i → b'.program? j = b.program? j
  calm : Calm b b'
  nextTask : b'.nextTask = b.nextTask

theorem placed_become (i : TaskId) (p : Program) (b : Bridge) : Placed i p b (b.become i p) where
  self := Table.get?_put_self i p b.tasks
  ne _ h := Table.get?_put_of_ne h p b.tasks
  calm := calm_become i p b
  nextTask := rfl

theorem placed_finish (i : TaskId) (e : Exit) (b : Bridge) :
    Placed i (.finished e) b (b.finish i e) where
  self := Table.get?_put_self i _ b.tasks
  ne _ h := Table.get?_put_of_ne h _ b.tasks
  calm := calm_finish i e b
  nextTask := rfl

/-- A turn of a task is a turn of its program; what becomes of the program stands in its place. -/
theorem turn?_eq_some {n : Nat} (h : b.turn? n i = some b') :
    ∃ p, b.program? i = some p ∧
      ((∃ p' b₁, p.turn n b = .next p' b₁ ∧ Placed i p' b₁ b') ∨
        ∃ e b₁, p.turn n b = .done e b₁ ∧ Placed i (.finished e) b₁ b') := by
  unfold turn? at h
  split at h
  next => cases h
  next p hp =>
    refine ⟨p, hp, ?_⟩
    split at h
    next => cases h
    next p' b₁ ht =>
      cases h
      exact .inl ⟨p', b₁, ht, placed_become i p' b₁⟩
    next e b₁ ht =>
      cases h
      exact .inr ⟨e, b₁, ht, placed_finish i e b₁⟩

theorem program?_spawn_self (p : Program) (b : Bridge) :
    (b.spawn p).2.program? b.nextTask = some p :=
  Table.get?_put_self b.nextTask p b.tasks

theorem program?_spawn_of_ne (h : j ≠ b.nextTask) (p : Program) :
    (b.spawn p).2.program? j = b.program? j :=
  Table.get?_put_of_ne h p b.tasks

theorem isRunning_eq_true : b.isRunning i = true ↔ ∃ p, b.program? i = some p ∧ p.isOver = false := by
  rw [isRunning, Option.any_eq_true]
  simp

/-- Who is at its end takes no turns. -/
theorem isRunning_of_turn? {n : Nat} (h : b.turn? n i = some b') : b.isRunning i = true := by
  unfold turn? at h
  split at h
  next => cases h
  next p hp =>
    refine isRunning_eq_true.mpr ⟨p, hp, ?_⟩
    cases p with
    | finished e => cases h
    | _ => rfl

theorem not_finished_of_turn? {n : Nat} {e : Exit} (h : b.turn? n i = some b') :
    b.program? i ≠ some (.finished e) := by
  intro he
  rw [turn?, he] at h
  cases h

/-- Who runs still runs when somebody is started, even under the same number. -/
theorem isRunning_spawn (h : b.isRunning i = true) {p : Program} (hp : p.isOver = false) :
    (b.spawn p).2.isRunning i = true := by
  by_cases hi : i = b.nextTask
  · rw [isRunning_eq_true, hi]
    exact ⟨p, program?_spawn_self p b, hp⟩
  · rw [isRunning, program?_spawn_of_ne hi]
    exact h

end FleetBridge.Bridge
