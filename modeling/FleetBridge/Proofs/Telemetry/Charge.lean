import FleetBridge.Proofs.Bridge.Gauge

/-!
The dispatchers in a refresher's charge. Each is filed under the subject that it attends, so no two
of them attend the same subject.
-/
namespace FleetBridge

variable {b b' : Bridge} {i j : TaskId} {n : Nat} {d d' : Dispatcher} {subject : String}

/-- Whether messages on a subject reach a running dispatcher. -/
def Bridge.IsServed (subject : String) (b : Bridge) : Prop :=
  ∃ j d, b.program? j = some (.dispatcher d) ∧ b.broker.Attended d.stream subject

namespace Refresher

variable {r : Refresher}

/-- A dispatcher forwards for the refresher's channel and is filed under the subject that it
attends. -/
structure Charge (r : Refresher) (b : Bridge) (j : TaskId) (d : Dispatcher) : Prop where
  profile : d.profile = r.profile
  filed : ∃ s ∈ r.profile.subjects,
    r.dispatchers.get? s = some j ∧ b.broker.Attended d.stream s

namespace Charge

theorem get?_of_attended (h : r.Charge b j d) (ha : b.broker.Attended d.stream subject) :
    r.dispatchers.get? subject = some j := by
  obtain ⟨s, -, hget, hs⟩ := h.filed
  rw [ha.pattern_unique hs]
  exact hget

theorem task_unique (h : r.Charge b i d) (h' : r.Charge b j d')
    (ha : b.broker.Attended d.stream subject) (ha' : b.broker.Attended d'.stream subject) :
    i = j :=
  Option.some.inj ((h.get?_of_attended ha).symm.trans (h'.get?_of_attended ha'))

theorem mono (h : r.Charge b j d) (hphase : d'.profile = d.profile ∧ d'.stream = d.stream)
    (ha : ∀ s, b.broker.Attended d.stream s → b'.broker.Attended d.stream s) :
    r.Charge b' j d' := by
  obtain ⟨s, hmem, hget, hs⟩ := h.filed
  exact ⟨hphase.1.trans h.profile, s, hmem, hget, hphase.2 ▸ ha s hs⟩

/-- A subject that is not served can be filed anew: no running dispatcher stands there. -/
theorem refiled (h : r.Charge b j d) (hp : b.program? j = some (.dispatcher d))
    (hserves : r.serves b subject = false)
    (ha : ∀ s, b.broker.Attended d.stream s → b'.broker.Attended d.stream s) (i : TaskId) :
    { r with dispatchers := r.dispatchers.put subject i }.Charge b' j d := by
  obtain ⟨s, hmem, hget, hs⟩ := h.filed
  have hne : s ≠ subject := by
    rintro rfl
    rw [serves, hget, Option.any_some, Bridge.isRunning, hp] at hserves
    cases hserves
  exact ⟨h.profile, s, hmem, (Table.get?_put_of_ne hne i _).trans hget, ha s hs⟩

/-- The dispatcher that gets a new stream is filed under its subject. -/
theorem started (hb : b.broker.Bounded) (hbroker : b'.broker = (b.broker.subscribe subject).2)
    (hmem : subject ∈ r.profile.subjects) (i : TaskId) :
    { r with dispatchers := r.dispatchers.put subject i }.Charge b' i
      (r.dispatcher b.broker.nextStream) :=
  ⟨rfl, subject, hmem, Table.get?_put_self subject i _, hbroker ▸ .subscribed hb subject⟩

/-- When all dispatchers of a refresher have ended, none of those in its charge runs. -/
theorem not_running (h : r.Charge b j d)
    (hended : ∀ x ∈ r.dispatchers, b.isRunning x.2 = false) :
    b.program? j ≠ some (.dispatcher d) := by
  intro hp
  obtain ⟨s, -, hget, -⟩ := h.filed
  have hrunning : b.isRunning j = true := Bridge.isRunning_eq_true.mpr ⟨_, hp, rfl⟩
  have hidle := hended _ (Table.mem_of_get? hget)
  rw [hrunning] at hidle
  cases hidle

/-- A bus that counts as lost leaves no dispatcher in the refresher's charge running. -/
theorem not_running_of_busLost (h : r.Charge b j d) (hlost : r.busLost b = true) :
    b.program? j ≠ some (.dispatcher d) := by
  intro hp
  obtain ⟨s, -, hget, -⟩ := h.filed
  have hserves : r.serves b s = true := by
    rw [serves, hget, Option.any_some]
    exact Bridge.isRunning_eq_true.mpr ⟨_, hp, rfl⟩
  have hkey : s ∈ r.dispatchers.keys := by
    by_contra hnot
    rw [Table.get?_eq_none_iff.mpr hnot] at hget
    cases hget
  have hactive : s ∈ r.active b := List.mem_filter.mpr ⟨hkey, hserves⟩
  rw [busLost, Bool.and_eq_true, List.isEmpty_iff] at hlost
  rw [hlost.2] at hactive
  cases hactive

end Charge
end Refresher

/-! Turns of dispatchers. -/

namespace Bridge

/-- Nothing makes a dispatcher end: it was not told to stop, and its stream is open. -/
def Unharmed (d : Dispatcher) (b : Bridge) : Prop :=
  b.isFired d.token = false ∧ b.broker.isOver d.stream = false

/-- A dispatcher that is there after a turn of a task was there before or was started by it. -/
theorem Moved.dispatcher_cases {p p' : Program} {started : List Program} {old new : Nat}
    (h : Moved i p p' started old new b b') (hgoes : p.Goes b b'.broker p' started) (ho : b.Owned)
    (hd : b'.program? j = some (.dispatcher d')) :
    (∃ d, b.program? j = some (.dispatcher d) ∧ d'.profile = d.profile ∧ d'.stream = d.stream ∧
      ∀ s, b.broker.Attended d.stream s → b'.broker.Attended d.stream s) ∨
    ∃ k, j = b.nextTask + k ∧ started[k]? = some (.dispatcher d') := by
  rcases h.cases ho hd with ⟨rfl, rfl⟩ | ⟨hne, -, hold⟩ | hnew
  · cases hgoes with
    | aside _ haside => cases haside
    | dispatcher ha => exact .inl ⟨_, h.before, rfl, rfl, ha⟩
  · refine .inl ⟨d', hold, rfl, rfl, fun s hs => ?_⟩
    exact (h.spares ho hold hne (List.mem_singleton_self _)).attended s hs
  · exact .inr hnew

/-- Whatever is started, a dispatcher that runs goes on. -/
theorem Does.dispatcher {held : List StreamId} {started : List Program} {old new : Nat}
    (h : Does [] held started old new b b') (ho : b.Owned)
    (hd : b.program? j = some (.dispatcher d)) :
    b'.program? j = some (.dispatcher d) ∧
      ∀ s, b.broker.Attended d.stream s → b'.broker.Attended d.stream s :=
  ⟨(h.kept j (ho.task_lt j _ hd)).trans hd, (h.tends.spares d.stream
    (ho.held_lt j _ hd d.stream (List.mem_singleton_self _)) List.not_mem_nil).attended⟩

/-- A dispatcher outlives every turn of others and those of its own at which nothing makes it
end. -/
theorem dispatcher_outlives (ho : b.Owned) (ht : b.turn? n i = some b')
    (hd : b.program? j = some (.dispatcher d)) (hcalm : j = i → Unharmed d b) :
    ∃ d', b'.program? j = some (.dispatcher d') ∧ d'.stream = d.stream ∧
      ∀ s, b.broker.Attended d.stream s → b'.broker.Attended d.stream s := by
  obtain ⟨p, p', started, b₁, hp, htook⟩ := turn?_took ht
  have hm := htook.moved ho hp
  by_cases hne : j = i
  · subst hne
    obtain rfl : p = .dispatcher d := Option.some.inj (hp.symm.trans hd)
    obtain ⟨hcold, hopen⟩ := hcalm rfl
    have hgoes := htook.goes
    cases hgoes with
    | aside haside => cases haside
    | dispatcher ha => exact ⟨_, hm.self, rfl, ha⟩
    | finished hclear =>
      rcases hclear with hfired | hover
      · rw [hcold] at hfired
        cases hfired
      · rw [hopen] at hover
        cases hover
  · exact ⟨d, (hm.kept j (ho.task_lt j _ hd) hne).trans hd, rfl,
      (hm.spares ho hd hne (List.mem_singleton_self _)).attended⟩

end Bridge
end FleetBridge
