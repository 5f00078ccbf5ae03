import FleetBridge.Bridge.Schedule
import FleetBridge.Proofs.Roster

/-!
What the operations of a bridge leave alone. Whatever task takes a turn, the roster changes by
registrations and removals only, and no number of a stream is given twice.
-/
namespace FleetBridge.Bridge

/-- Nothing shows on the roster, in the status log or among the tasks. -/
structure Quiet (b b' : Bridge) : Prop where
  roster : b'.roster = b.roster
  statuses : b'.statuses = b.statuses
  tasks : b'.tasks = b.tasks
  nextTask : b'.nextTask = b.nextTask
  streams : b.broker.nextStream ≤ b'.broker.nextStream

/-- Nothing shows on the roster or in the status log. -/
structure Calm (b b' : Bridge) : Prop where
  roster : b'.roster = b.roster
  statuses : b'.statuses = b.statuses
  streams : b.broker.nextStream ≤ b'.broker.nextStream

/-- Units register and are removed; all else may change in any way, except that the numbers of
streams are not given again. -/
structure Amid (b b' : Bridge) : Prop where
  roster : Roster.Changes b.roster b'.roster
  streams : b.broker.nextStream ≤ b'.broker.nextStream

/-- A bridge at rest, with a roster. -/
def holding (r : Roster) : Bridge := { start [] (.start 0 0) 0 with roster := r }

/-- A bridge at rest, with a roster, a directory and one subscription. -/
def attended (pattern : String) (events : Table String Event) (r : Roster) : Bridge :=
  { ((start events (.start 0 0) 0).attend pattern).2 with roster := r }

variable {b b' b'' : Bridge}

theorem Quiet.refl (b : Bridge) : Quiet b b := ⟨rfl, rfl, rfl, rfl, Nat.le_refl _⟩

theorem Quiet.trans (h : Quiet b b') (h' : Quiet b' b'') : Quiet b b'' :=
  ⟨h'.roster.trans h.roster, h'.statuses.trans h.statuses, h'.tasks.trans h.tasks,
    h'.nextTask.trans h.nextTask, h.streams.trans h'.streams⟩

theorem Quiet.calm (h : Quiet b b') : Calm b b' := ⟨h.roster, h.statuses, h.streams⟩

theorem Calm.refl (b : Bridge) : Calm b b := (Quiet.refl b).calm

theorem Calm.trans (h : Calm b b') (h' : Calm b' b'') : Calm b b'' :=
  ⟨h'.roster.trans h.roster, h'.statuses.trans h.statuses, h.streams.trans h'.streams⟩

theorem Calm.amid (h : Calm b b') : Amid b b' := ⟨h.roster ▸ .refl, h.streams⟩

theorem Quiet.amid (h : Quiet b b') : Amid b b' := h.calm.amid

/-! The operations. -/

theorem quiet_wake (s : Signal) (b : Bridge) : Quiet b (b.wake s) :=
  ⟨rfl, rfl, rfl, rfl, Nat.le_refl _⟩

theorem quiet_metered (f : Meters → Meters) (b : Bridge) : Quiet b (b.metered f) :=
  ⟨rfl, rfl, rfl, rfl, Nat.le_refl _⟩

theorem quiet_meterRoster (b : Bridge) : Quiet b b.meterRoster := quiet_metered _ b

theorem quiet_deliver (m : Message) (b : Bridge) : Quiet b (b.deliver m) := by
  have hfold (ids : List StreamId) (b : Bridge) :
      Quiet b (ids.foldl (fun b s => b.wake (.arrival s)) b) := by
    induction ids generalizing b with
    | nil => exact .refl b
    | cons i ids ih => exact (quiet_wake _ b).trans (ih _)
  have hb : Quiet b { b with broker := b.broker.deliver m } :=
    ⟨rfl, rfl, rfl, rfl, Nat.le_refl _⟩
  exact hb.trans (hfold _ _)

theorem quiet_publish (l : Link) (subject : String) (p : Payload) (b : Bridge) :
    Quiet b (b.publish l subject p).2 := by
  unfold publish
  split
  · exact quiet_deliver _ b
  · exact .refl b

theorem quiet_read {s : StreamId} {m : Message} (h : b.read? s = some (m, b')) : Quiet b b' := by
  unfold read? at h
  obtain ⟨⟨m', k⟩, hk, he⟩ := Option.map_eq_some_iff.mp h
  cases he
  have hnext : k.nextStream = b.broker.nextStream := by
    unfold Broker.read? at hk
    split at hk
    · cases hk
    · cases hk
      rfl
  exact ⟨rfl, rfl, rfl, rfl, hnext.symm.le⟩

theorem quiet_leave (s : StreamId) (b : Bridge) : Quiet b (b.leave s) :=
  ⟨rfl, rfl, rfl, rfl, Nat.le_refl _⟩

theorem quiet_ask (l : Link) (subject : String) (p : Payload) (timeout : Duration) (b : Bridge) :
    Quiet b (b.ask l subject p timeout).2 := by
  unfold ask
  split
  · exact .refl b
  · split
    · exact .refl b
    · have hb : Quiet b (({ b with broker := b.broker.inbox.2 }.attend b.broker.inbox.1).2) :=
        ⟨rfl, rfl, rfl, rfl, Nat.le_succ _⟩
      have hd := hb.trans (quiet_deliver ⟨subject, some b.broker.inbox.1, p⟩ _)
      simp only
      split
      · exact hd.trans (quiet_leave _ _)
      · exact hd

theorem quiet_collect (e : Exchange) (b : Bridge) : Quiet b (b.collect e).2 := by
  unfold collect
  split
  next m b' h => exact (quiet_read h).trans (quiet_leave _ _)
  next => exact quiet_leave _ b

theorem amid_spawn (p : Program) (b : Bridge) : Amid b (b.spawn p).2 := ⟨.refl, Nat.le_refl _⟩

theorem calm_become (i : TaskId) (p : Program) (b : Bridge) : Calm b (b.become i p) :=
  ⟨rfl, rfl, Nat.le_refl _⟩

theorem calm_finish (i : TaskId) (e : Exit) (b : Bridge) : Calm b (b.finish i e) :=
  (calm_become i _ b).trans (quiet_wake _ _).calm

end FleetBridge.Bridge
