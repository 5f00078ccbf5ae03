import FleetBridge.Proofs.Telemetry.Charge

/-!
Who answers for whom below a supervisor. A worker answers for the dispatchers of its refresher, and
the control plane answers for its prober and for the registrations of its listener; neither lets go
of a task that runs.
-/
namespace FleetBridge

open Bridge (Moved Owned)

variable {b b' : Bridge} {k : Broker} {i j : TaskId} {n m : Nat} {started : List Program}

/-- The prober of a control plane that has not seen its end yet. -/
def ControlPlane.prober? (c : ControlPlane) : Option TaskId :=
  match c.phase with
  | .listening _ i _ => some i
  | .joining i _ => some i
  | _ => none

/-! What workers and control planes keep to. -/

/-- A worker's refresher serves the worker's channel. -/
def Worker.Fit (w : Worker) : Prop :=
  ∀ r, w.phase = .refreshing r → r.refresher.profile = w.profile ∧
    ∀ rest report, r.phase = .passing rest report → ∀ s ∈ rest, s ∈ w.profile.subjects

/-- A listener has started no registration before it has subscribed. -/
def ControlPlane.Fit (c : ControlPlane) : Prop :=
  ∀ l i plane, c.phase = .listening l i plane → l.phase = .subscribing → l.handlers = []

theorem Worker.Goes.fit {w w' : Worker} (h : w.Goes b k w' started) (hfit : w.Fit) : w'.Fit := by
  intro r' hr'
  cases h with
  | connecting => cases hr'
  | started =>
    cases hr'
    exact ⟨rfl, fun _ _ hpassing => by cases hpassing⟩
  | @refreshing r _ _ hphase hgoes =>
    cases hr'
    obtain ⟨hprofile, hrest⟩ := hfit r hphase
    cases hgoes with
    | connected =>
      refine ⟨hprofile, fun _ _ hpassing s hs => ?_⟩
      cases hpassing
      exact hprofile ▸ hs
    | passed hpassed =>
      refine ⟨hprofile, fun _ _ hpassing s hs => ?_⟩
      cases hpassing
      exact hrest _ _ hpassed s (List.mem_cons_of_mem _ hs)
    | created hpassed =>
      refine ⟨hprofile, fun _ _ hpassing s hs => ?_⟩
      cases hpassing
      exact hrest _ _ hpassed s (List.mem_cons_of_mem _ hs)
    | _ => exact ⟨hprofile, fun _ _ hpassing => by cases hpassing⟩
  | lost => cases hr'
  | again => cases hr'

theorem Worker.Goes.profile_eq {w w' : Worker} (h : w.Goes b k w' started) :
    w'.profile = w.profile := by
  cases h <;> rfl

theorem ControlPlane.Goes.fit {c c' : ControlPlane} (h : c.Goes b c' started) : c'.Fit := by
  intro l' i' plane hl' hsubscribing
  cases h with
  | started =>
    cases hl'
    rfl
  | listening _ hkeeps =>
    cases hl'
    exact absurd hsubscribing hkeeps.phase
  | _ => cases hl'

/-! Who answers for a task. -/

namespace Program

/-- A program knows of a task and waits for its end. -/
inductive Answers (b : Bridge) : Program → TaskId → Program → Prop
  | dispatcher {w : Worker} {r : Refreshing} {j : TaskId} {d : Dispatcher} :
    w.phase = .refreshing r → r.refresher.Charge b j d → Answers b (.worker w) j (.dispatcher d)
  | prober {c : ControlPlane} {j : TaskId} {q : Prober} : c.prober? = some j →
    Answers b (.control c) j (.prober q)
  | registration {c : ControlPlane} {l : Listener} {i j : TaskId} {plane : Token}
    {q : Registration} : c.phase = .listening l i plane → j ∈ l.handlers →
    Answers b (.control c) j (.registration q)

/-- The streams that a program holds as a dispatcher stay attended. -/
def Spared (b b' : Bridge) (q : Program) : Prop :=
  ∀ d, q = .dispatcher d → ∀ s, b.broker.Attended d.stream s → b'.broker.Attended d.stream s

def Fit : Program → Prop
  | worker w => w.Fit
  | control c => c.Fit
  | _ => True

theorem Answers.mono {p q : Program} (h : p.Answers b j q) (ha : Spared b b' q) :
    p.Answers b' j q := by
  cases h with
  | dispatcher hphase hcharge => exact .dispatcher hphase (hcharge.mono ⟨rfl, rfl⟩ (ha _ rfl))
  | prober hprober => exact .prober hprober
  | registration hphase hmem => exact .registration hphase hmem

end Program

/-- A worker lets go of no dispatcher that runs. -/
theorem Worker.Goes.charge {w w' : Worker} {r : Refreshing} {d : Dispatcher}
    (h : w.Goes b k w' started) (hphase : w.phase = .refreshing r)
    (hcharge : r.refresher.Charge b j d) (hd : b.program? j = some (.dispatcher d))
    (ha : ∀ s, b.broker.Attended d.stream s → b'.broker.Attended d.stream s) :
    ∃ r', w'.phase = .refreshing r' ∧ r'.refresher.Charge b' j d := by
  cases h with
  | connecting hother => cases hphase.symm.trans hother
  | started hother => cases hphase.symm.trans hother
  | refreshing hsame hgoes =>
    cases hphase.symm.trans hsame
    refine ⟨_, rfl, ?_⟩
    cases hgoes with
    | created _ hserves _ => exact hcharge.refiled hd hserves ha b.nextTask
    | _ => exact hcharge.mono ⟨rfl, rfl⟩ ha
  | lost _ _ hclear => exact absurd hd (hcharge.not_running (hclear r hphase))
  | again hother => cases hphase.symm.trans hother

/-- A dispatcher that a worker starts is in its charge. -/
theorem Worker.Goes.charge_started {w w' : Worker} {q : Program}
    (h : w.Goes b b'.broker w' started) (hfit : w.Fit) (hb : b.broker.Bounded)
    (hq : started[m]? = some q) : Program.Answers b' (.worker w') (b.nextTask + m) q := by
  cases h with
  | @refreshing r _ _ hphase hgoes =>
    cases hgoes with
    | created hpassed _ hbroker =>
      obtain ⟨hprofile, hrest⟩ := hfit r hphase
      have hmem := hrest _ _ hpassed _ List.mem_cons_self
      obtain ⟨hm, rfl⟩ := List.getElem?_eq_some_iff.mp hq
      obtain rfl : m = 0 := Nat.lt_one_iff.mp hm
      exact .dispatcher rfl (.started hb hbroker (hprofile ▸ hmem) b.nextTask)
    | _ => cases hq
  | _ => cases hq

/-- A control plane lets go neither of its prober nor of a registration as long as they run. -/
theorem ControlPlane.Goes.answers {c c' : ControlPlane} {q : Program}
    (h : c.Goes b c' started) (hfit : c.Fit) (hq : b.program? j = some q)
    (hover : q.isOver = false) (hans : Program.Answers b (.control c) j q) :
    Program.Answers b' (.control c') j q := by
  have hrunning : b.isRunning j = true := Bridge.isRunning_eq_true.mpr ⟨q, hq, hover⟩
  cases hans with
  | prober hprober =>
    unfold prober? at hprober
    cases h with
    | connecting hphase => rw [hphase] at hprober; cases hprober
    | started hphase => rw [hphase] at hprober; cases hprober
    | listening hphase => rw [hphase] at hprober; exact .prober hprober
    | drained hphase => rw [hphase] at hprober; exact .prober hprober
    | lost hphase hidle =>
      rw [hphase] at hprober
      cases hprober
      rw [hrunning] at hidle
      cases hidle
    | again hphase => rw [hphase] at hprober; cases hprober
  | registration hlistening hmem =>
    cases h with
    | connecting hphase => cases hlistening.symm.trans hphase
    | started hphase => cases hlistening.symm.trans hphase
    | listening hphase hkeeps =>
      cases hlistening.symm.trans hphase
      exact .registration rfl (hkeeps.handlers j hmem hrunning)
    | drained hphase hidle =>
      cases hlistening.symm.trans hphase
      rcases hidle with hsubscribing | hidle
      · rw [hfit _ _ _ hphase hsubscribing] at hmem
        cases hmem
      · rw [hidle j hmem] at hrunning
        cases hrunning
    | lost hphase => cases hlistening.symm.trans hphase
    | again hphase => cases hlistening.symm.trans hphase

theorem ControlPlane.Goes.answers_started {c c' : ControlPlane} {q : Program}
    (h : c.Goes b c' started) (hq : started[m]? = some q) :
    Program.Answers b' (.control c') (b.nextTask + m) q := by
  cases h with
  | started =>
    obtain ⟨hm, rfl⟩ := List.getElem?_eq_some_iff.mp hq
    obtain rfl : m = 0 := Nat.lt_one_iff.mp hm
    exact .prober rfl
  | listening _ hkeeps =>
    rcases hkeeps.started with rfl | ⟨r, rfl, hmem⟩
    · cases hq
    · obtain ⟨hm, rfl⟩ := List.getElem?_eq_some_iff.mp hq
      obtain rfl : m = 0 := Nat.lt_one_iff.mp hm
      exact .registration rfl hmem
  | _ => cases hq

namespace Program

/-- Whoever answers for a task that runs answers for it after a turn of its own. -/
theorem Goes.answers {p p' q : Program} (h : p.Goes b k p' started) (hfit : p.Fit)
    (hq : b.program? j = some q) (hans : p.Answers b j q) (ha : Spared b b' q) :
    p'.Answers b' j q := by
  have hclear (hclear : p.Clear b) : False := by
    cases hans with
    | dispatcher hphase hcharge => exact hcharge.not_running (hclear _ hphase) hq
    | prober hprober =>
      unfold ControlPlane.prober? at hprober
      split at hprober
      next hphase => exact hclear.listening _ _ _ hphase
      next hphase =>
        have hidle := hclear.joining _ _ hphase
        cases hprober
        rw [Bridge.isRunning, hq] at hidle
        cases hidle
      next => cases hprober
    | registration hphase => exact hclear.listening _ _ _ hphase
  cases h with
  | finished hall => exact (hclear hall).elim
  | aside haside => cases hans <;> cases haside
  | worker hgoes =>
    cases hans with
    | dispatcher hphase hcharge =>
      obtain ⟨r', hphase', hcharge'⟩ := hgoes.charge hphase hcharge hq (ha _ rfl)
      exact .dispatcher hphase' hcharge'
  | control hgoes =>
    refine hgoes.answers hfit hq ?_ hans
    cases hans <;> rfl
  | _ => cases hans

/-- Whoever starts a task answers for it, the supervisor apart. -/
theorem Goes.answers_started {p p' q : Program} (h : p.Goes b b'.broker p' started)
    (hfit : p.Fit) (hb : b.broker.Bounded) (hlistener : ∀ l, p ≠ .listener l)
    (hrefreshing : ∀ r, p ≠ .refreshing r) (hsupervisor : ∀ s, p = .supervisor s → s.phase ≠ .starting)
    (hq : started[m]? = some q) : p'.Answers b' (b.nextTask + m) q := by
  cases h with
  | listener => exact absurd rfl (hlistener _)
  | refreshing => exact absurd rfl (hrefreshing _)
  | supervisor hstarting => exact absurd hstarting (hsupervisor _ rfl)
  | worker hgoes => exact hgoes.charge_started hfit hb hq
  | control hgoes => exact hgoes.answers_started hq
  | _ => cases hq

end Program

/-! The staff of a supervisor. -/

namespace Supervisor

variable {as : List Assignment} {sup first : TaskId}

/-- What a task can be below a supervisor `sup` that started its workers from number `first` on. -/
inductive Vouched (as : List Assignment) (sup first : TaskId) (b : Bridge) :
    TaskId → Program → Prop
  | aside {j : TaskId} {p : Program} : p.isAside = true → Vouched as sup first b j p
  | supervisor {s : Supervisor} : s.phase = .joining (List.range' first (as.length + 1)) →
    Vouched as sup first b sup (.supervisor s)
  | worker {m : Nat} {a : Assignment} {w : Worker} : as[m]? = some a → w.profile = a.profile →
    w.Fit → Vouched as sup first b (first + m) (.worker w)
  | control {c : ControlPlane} : c.Fit → Vouched as sup first b (first + as.length) (.control c)
  | helper {i j : TaskId} {p q : Program} : b.program? i = some q → q.Answers b j p →
    Vouched as sup first b j p

namespace Vouched

variable {p : Program}

theorem of_supervisor {s : Supervisor} (h : Vouched as sup first b j (.supervisor s)) :
    j = sup ∧ s.phase = .joining (List.range' first (as.length + 1)) := by
  cases h with
  | aside haside => cases haside
  | supervisor hphase => exact ⟨rfl, hphase⟩
  | helper _ hans => cases hans

theorem of_worker {w : Worker} (h : Vouched as sup first b j (.worker w)) :
    ∃ m a, j = first + m ∧ as[m]? = some a ∧ w.profile = a.profile ∧ w.Fit := by
  cases h with
  | aside haside => cases haside
  | worker ha hprofile hfit => exact ⟨_, _, rfl, ha, hprofile, hfit⟩
  | helper _ hans => cases hans

theorem of_control {c : ControlPlane} (h : Vouched as sup first b j (.control c)) :
    j = first + as.length ∧ c.Fit := by
  cases h with
  | aside haside => cases haside
  | control hfit => exact ⟨rfl, hfit⟩
  | helper _ hans => cases hans

theorem of_dispatcher {d : Dispatcher} (h : Vouched as sup first b j (.dispatcher d)) :
    ∃ i w r, b.program? i = some (.worker w) ∧ w.phase = .refreshing r ∧
      r.refresher.Charge b j d := by
  cases h with
  | aside haside => cases haside
  | helper hi hans =>
    cases hans with
    | dispatcher hphase hcharge => exact ⟨_, _, _, hi, hphase, hcharge⟩

theorem of_prober {q : Prober} (h : Vouched as sup first b j (.prober q)) :
    ∃ i c, b.program? i = some (.control c) ∧ c.prober? = some j := by
  cases h with
  | aside haside => cases haside
  | helper hi hans =>
    cases hans with
    | prober hprober => exact ⟨_, _, hi, hprober⟩

theorem of_registration {q : Registration} (h : Vouched as sup first b j (.registration q)) :
    ∃ i c l e plane, b.program? i = some (.control c) ∧ c.phase = .listening l e plane := by
  cases h with
  | aside haside => cases haside
  | helper hi hans =>
    cases hans with
    | registration hphase => exact ⟨_, _, _, _, _, hi, hphase⟩

theorem ne_listener (h : Vouched as sup first b j p) (l : Listener) : p ≠ .listener l := by
  rintro rfl
  cases h with
  | aside haside => cases haside
  | helper _ hans => cases hans

theorem ne_refreshing (h : Vouched as sup first b j p) (r : Refreshing) : p ≠ .refreshing r := by
  rintro rfl
  cases h with
  | aside haside => cases haside
  | helper _ hans => cases hans

theorem fit (h : Vouched as sup first b j p) : p.Fit := by
  cases h with
  | worker _ _ hfit => exact hfit
  | control hfit => exact hfit
  | aside haside =>
    cases p with
    | worker => cases haside
    | control => cases haside
    | _ => trivial
  | supervisor => trivial
  | helper _ hans => cases hans <;> trivial

end Vouched

/-- Everybody on a bridge is vouched for, and the supervisor waits for the workers and the control
plane. -/
structure Staffed (as : List Assignment) (sup first : TaskId) (b : Bridge) : Prop where
  owned : b.Owned
  vouched : ∀ j p, b.program? j = some p → Vouched as sup first b j p
  lt : first + as.length < b.nextTask
  waits : (∃ s, b.program? sup = some (.supervisor s)) ∨
    ∀ m ≤ as.length, b.isRunning (first + m) = false

/-- A bridge on which a supervisor is about to start and everybody else stands aside. -/
structure Vacant (as : List Assignment) (sup : TaskId) (b : Bridge) : Prop where
  owned : b.Owned
  supervisor : ∃ s, b.program? sup = some (.supervisor s) ∧ s.phase = .starting ∧
    s.assignments = as
  others : ∀ j p, b.program? j = some p → j ≠ sup → p.isAside = true

/-- Who has ended stays at the end. -/
theorem isRunning_eq_false_of_turn (ho : b.Owned) (ht : b.turn? n i = some b')
    (hlt : j < b.nextTask) (hj : b.isRunning j = false) : b'.isRunning j = false := by
  obtain ⟨p, p', started, b₁, hp, htook⟩ := Bridge.turn?_took ht
  have hne : j ≠ i := by
    rintro rfl
    rw [Bridge.isRunning_of_turn? ht] at hj
    cases hj
  rw [Bridge.isRunning, (htook.moved ho hp).kept j hlt hne]
  exact hj

/-- The tasks that a supervisor starts come in the order of the assignments, the control plane
last. -/
theorem programs_getElem? {s : Supervisor} {q : Program} (hq : s.programs[m]? = some q) :
    (∃ a, s.assignments[m]? = some a ∧ q = .worker (.start a.profile a.sink s.token s.plan)) ∨
      m = s.assignments.length ∧ q = .control (.start s.token s.plan) := by
  unfold programs at hq
  rw [List.getElem?_append] at hq
  split at hq
  next hlt =>
    rw [List.getElem?_map, Option.map_eq_some_iff] at hq
    obtain ⟨a, ha, rfl⟩ := hq
    exact .inl ⟨a, ha, rfl⟩
  next hle =>
    obtain ⟨hm, rfl⟩ := List.getElem?_eq_some_iff.mp hq
    rw [List.length_singleton, List.length_map] at hm
    rw [List.length_map] at hle
    refine .inr ⟨by omega, ?_⟩
    simp

namespace Vacant

/-- The supervisor's first turn puts everybody in place. -/
theorem launch (h : Vacant as sup b) (ht : b.turn? n sup = some b') :
    Staffed as sup b.nextTask b' := by
  obtain ⟨s, hs, hphase, rfl⟩ := h.supervisor
  obtain ⟨p, p', started, b₁, hp, htook⟩ := Bridge.turn?_took ht
  have hm := htook.moved h.owned hp
  have hgoes := htook.goes
  obtain rfl : p = .supervisor s := Option.some.inj (hp.symm.trans hs)
  cases hgoes with
  | aside haside => cases haside
  | finished hclear =>
    obtain ⟨ids, hjoining, -⟩ := hclear
    cases hphase.symm.trans hjoining
  | supervisor =>
    have hlength : s.programs.length = s.assignments.length + 1 := by
      rw [programs, List.length_append, List.length_map, List.length_singleton]
    refine ⟨hm.owned h.owned, fun j q hq => ?_, ?_, .inl ⟨_, hm.self⟩⟩
    · rcases hm.cases h.owned hq with ⟨rfl, rfl⟩ | ⟨hne, -, hold⟩ | ⟨m, rfl, hnew⟩
      · exact .supervisor (congrArg (fun m => Phase.joining (List.range' _ m)) hlength)
      · exact .aside (h.others j q hold hne)
      · rcases programs_getElem? hnew with ⟨a, ha, rfl⟩ | ⟨rfl, rfl⟩
        · exact .worker ha rfl fun r hr => by cases hr
        · exact .control fun l e plane hl => by cases hl
    · rw [hm.nextTask, hlength]
      exact Nat.lt_succ_self _

/-- As long as only others take turns, they stay aside. -/
theorem turn (h : Vacant as sup b) (ht : b.turn? n i = some b') (hne : i ≠ sup) :
    Vacant as sup b' := by
  obtain ⟨p, p', started, b₁, hp, htook⟩ := Bridge.turn?_took ht
  have hm := htook.moved h.owned hp
  have haside := h.others i p hp hne
  obtain ⟨s, hs, hrest⟩ := h.supervisor
  have hkept := hm.kept sup (h.owned.task_lt sup _ hs) hne.symm
  have hsame : p'.isAside = true ∧ started = [] := by
    have hgoes := htook.goes
    cases hgoes with
    | aside _ haside' => exact ⟨haside', rfl⟩
    | finished => exact ⟨rfl, rfl⟩
    | _ => cases haside
  refine ⟨hm.owned h.owned, ⟨s, hkept.trans hs, hrest⟩, fun j q hq hj => ?_⟩
  rcases hm.cases h.owned hq with ⟨-, rfl⟩ | ⟨-, -, hold⟩ | ⟨m, -, hnew⟩
  · exact hsame.1
  · exact h.others j q hold hj
  · rw [hsame.2] at hnew
    cases hnew

end Vacant

namespace Staffed

variable {p p' q : Program} {old new : Nat}

/-- Who did not take the turn is still vouched for. -/
theorem vouched_kept (h : Staffed as sup first b) (hm : Moved i p p' started old new b b')
    (hgoes : p.Goes b b'.broker p' started) (hne : j ≠ i) (hq : b.program? j = some q) :
    Vouched as sup first b' j q := by
  have hspared : Program.Spared b b' q := by
    rintro d rfl
    exact (hm.spares h.owned hq hne (List.mem_singleton_self _)).attended
  cases h.vouched j q hq with
  | aside haside => exact .aside haside
  | supervisor hphase => exact .supervisor hphase
  | worker ha hprofile hfit => exact .worker ha hprofile hfit
  | control hfit => exact .control hfit
  | @helper i₂ _ _ q₂ hsuperior hans =>
    by_cases hi : i₂ = i
    · subst hi
      obtain rfl : p = q₂ := Option.some.inj (hm.before.symm.trans hsuperior)
      exact .helper hm.self (hgoes.answers (h.vouched i₂ p hm.before).fit hq hans hspared)
    · have hkept := hm.kept i₂ (h.owned.task_lt i₂ q₂ hsuperior) hi
      exact .helper (hkept.trans hsuperior) (hans.mono hspared)

/-- Who took the turn is still vouched for. -/
theorem vouched_self (h : Staffed as sup first b) (hm : Moved i p p' started old new b b')
    (hgoes : p.Goes b b'.broker p' started) : Vouched as sup first b' i p' := by
  have hi := h.vouched i p hm.before
  -- Who answers for the task is somebody else and takes no turn.
  have hsuperior {i₂ : TaskId} {q₂ : Program} (hq₂ : b.program? i₂ = some q₂) (hne : q₂ ≠ p) :
      b'.program? i₂ = some q₂ := by
    have hi₂ : i₂ ≠ i := by
      rintro rfl
      exact hne (Option.some.inj (hq₂.symm.trans hm.before))
    exact (hm.kept i₂ (h.owned.task_lt i₂ q₂ hq₂) hi₂).trans hq₂
  cases hgoes with
  | aside _ haside => exact .aside haside
  | finished => exact .aside rfl
  | listener => exact absurd rfl (hi.ne_listener _)
  | refreshing => exact absurd rfl (hi.ne_refreshing _)
  | supervisor hstarting => cases hstarting.symm.trans hi.of_supervisor.2
  | worker hgoes =>
    obtain ⟨m, a, rfl, ha, hprofile, hfit⟩ := hi.of_worker
    exact .worker ha (hgoes.profile_eq.trans hprofile) (hgoes.fit hfit)
  | control hgoes =>
    obtain ⟨rfl, -⟩ := hi.of_control
    exact .control hgoes.fit
  | registration =>
    cases hi with
    | aside haside => cases haside
    | helper hq₂ hans =>
      cases hans with
      | registration hphase hmem =>
        exact .helper (hsuperior hq₂ nofun) (.registration hphase hmem)
  | prober =>
    obtain ⟨i₂, c, hc, hprober⟩ := hi.of_prober
    exact .helper (hsuperior hc nofun) (.prober hprober)
  | dispatcher ha =>
    obtain ⟨i₂, w, r, hw, hphase, hcharge⟩ := hi.of_dispatcher
    exact .helper (hsuperior hw nofun) (.dispatcher hphase (hcharge.mono ⟨rfl, rfl⟩ ha))

/-- Whatever turn a task takes, everybody is vouched for after it. -/
theorem turn (h : Staffed as sup first b) (ht : b.turn? n i = some b') :
    Staffed as sup first b' := by
  obtain ⟨p, p', started, b₁, hp, htook⟩ := Bridge.turn?_took ht
  have hm := htook.moved h.owned hp
  have hgoes := htook.goes
  have hi := h.vouched i p hp
  have hended {j : TaskId} (hlt : j < b.nextTask) := isRunning_eq_false_of_turn h.owned ht hlt
  have hlt {m : Nat} (hm : m ≤ as.length) : first + m < b.nextTask :=
    Nat.lt_of_le_of_lt (Nat.add_le_add_left hm first) h.lt
  refine ⟨hm.owned h.owned, fun j q hq => ?_, ?_, ?_⟩
  · rcases hm.cases h.owned hq with ⟨rfl, rfl⟩ | ⟨hne, -, hold⟩ | ⟨m, rfl, hnew⟩
    · exact h.vouched_self hm hgoes
    · exact h.vouched_kept hm hgoes hne hold
    · refine .helper hm.self (hgoes.answers_started hi.fit h.owned.bounded hi.ne_listener
        hi.ne_refreshing ?_ hnew)
      rintro s rfl hstarting
      cases hstarting.symm.trans hi.of_supervisor.2
  · rw [hm.nextTask]
    exact Nat.lt_add_right _ h.lt
  · rcases h.waits with ⟨s, hs⟩ | hidle
    · by_cases hne : sup = i
      · subst hne
        obtain rfl : p = .supervisor s := Option.some.inj (hp.symm.trans hs)
        cases hgoes with
        | aside haside => cases haside
        | supervisor hstarting => cases hstarting.symm.trans hi.of_supervisor.2
        | finished hclear =>
          obtain ⟨ids, hids, hidle⟩ := hclear
          cases hids.symm.trans hi.of_supervisor.2
          refine .inr fun m hm => hended (hlt hm) (hidle _ ?_)
          exact List.mem_range'_1.mpr ⟨Nat.le_add_right _ _, by omega⟩
      · exact .inl ⟨s, (hm.kept sup (h.owned.task_lt sup _ hs) hne).trans hs⟩
    · exact .inr fun m hm => hended (hlt hm) (hidle m hm)

end Staffed

/-! What happens outside. -/

/-- What others do starts only tasks that stand aside, and leaves to its readers every stream that
a dispatcher attends. Connections and streams may break, subscriptions be refused, messages be
published, time pass and tokens be fired at will. -/
structure Outside (b b' : Bridge) : Prop where
  kept : ∀ j p, b.program? j = some p → b'.program? j = some p
  begun : ∀ j p, b.program? j = none → b'.program? j = some p →
    b.nextTask ≤ j ∧ p.isAside = true
  nextTask : b.nextTask ≤ b'.nextTask
  owned : b.Owned → b'.Owned
  gauge : b'.meters.subscriptions = b.meters.subscriptions
  spared : ∀ j p, b.program? j = some p → Program.Spared b b' p

namespace Outside

/-- Who does not stand aside was there before. -/
theorem program?_eq (h : Outside b b') {p : Program} (hp : b'.program? j = some p)
    (haside : p.isAside = false) : b.program? j = some p := by
  cases hold : b.program? j with
  | none =>
    rw [(h.begun j p hold hp).2] at haside
    cases haside
  | some q => exact (h.kept j q hold).symm.trans hp

theorem isRunning_eq_false (h : Outside b b') (hlt : j < b.nextTask)
    (hj : b.isRunning j = false) : b'.isRunning j = false := by
  cases hold : b.program? j with
  | none =>
    cases hnew : b'.program? j with
    | none => rw [Bridge.isRunning, hnew, Option.any_none]
    | some p => exact absurd hlt (Nat.not_lt.mpr (h.begun j p hold hnew).1)
  | some q =>
    rw [Bridge.isRunning, hold] at hj
    rw [Bridge.isRunning, h.kept j q hold]
    exact hj

theorem staffed (h : Outside b b') (hs : Staffed as sup first b) : Staffed as sup first b' where
  owned := h.owned hs.owned
  vouched j p hp := by
    cases haside : p.isAside with
    | true => exact .aside haside
    | false =>
      have hold := h.program?_eq hp haside
      cases hs.vouched j p hold with
      | aside haside => exact .aside haside
      | supervisor hphase => exact .supervisor hphase
      | worker ha hprofile hfit => exact .worker ha hprofile hfit
      | control hfit => exact .control hfit
      | helper hq hans => exact .helper (h.kept _ _ hq) (hans.mono (h.spared j p hold))
  lt := Nat.lt_of_lt_of_le hs.lt h.nextTask
  waits := by
    rcases hs.waits with ⟨s, hs'⟩ | hidle
    · exact .inl ⟨s, h.kept sup _ hs'⟩
    · refine .inr fun m hm => h.isRunning_eq_false ?_ (hidle m hm)
      exact Nat.lt_of_le_of_lt (Nat.add_le_add_left hm first) hs.lt

theorem vacant (h : Outside b b') (hv : Vacant as sup b) : Vacant as sup b' where
  owned := h.owned hv.owned
  supervisor := by
    obtain ⟨s, hs, hrest⟩ := hv.supervisor
    exact ⟨s, h.kept sup _ hs, hrest⟩
  others j p hp hne := by
    cases haside : p.isAside with
    | true => rfl
    | false => exact haside.symm.trans (hv.others j p (h.program?_eq hp haside) hne)

theorem tallied {g : Int64} (h : Outside b b') (ho : b.Owned) (ht : b.Tallied g) :
    b'.Tallied g :=
  ht.congr ho (h.owned ho) h.gauge fun j _ => ⟨fun hd => h.program?_eq hd rfl, h.kept j _⟩

theorem of_steady {mine : List StreamId} (h : Bridge.Steady mine b b')
    (ha : ∀ i s, b.broker.Attended i s → b'.broker.Attended i s) : Outside b b' where
  kept j _ hp := (Bridge.program?_congr h.tasks j).trans hp
  begun j p hnone hp := by
    rw [Bridge.program?_congr h.tasks, hnone] at hp
    cases hp
  nextTask := Nat.le_of_eq h.nextTask.symm
  owned ho := ho.of_steady h
  gauge := h.gauge
  spared _ _ _ d _ := ha d.stream

/-- Tasks may be told to stop. -/
theorem fire (t : Token) (b : Bridge) : Outside b (b.fire t) :=
  of_steady (.fire [] t b) fun _ _ ha => ha

/-- A stream may be closed. -/
theorem close (i : StreamId) (b : Bridge) : Outside b (b.close i) :=
  of_steady (.close (List.mem_singleton_self i) b) fun _ _ ha => ha.close i

/-- A connection may go down or come back, and it may begin or cease to refuse subjects. -/
theorem amend (l : Link) (f : Connection → Connection) (b : Bridge) : Outside b (b.amend l f) :=
  of_steady (.amend [] l f b) fun _ _ ha => by cases l <;> exact ha

/-- Time may pass. -/
theorem wait (now : Instant) (b : Bridge) : Outside b { b with now := now } :=
  of_steady (.wait [] now b) fun _ _ ha => ha

end Outside
end Supervisor
end FleetBridge
