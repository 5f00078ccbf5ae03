import FleetBridge.Proofs.Registration.Outcomes

/-!
The listener among the registrations that it starts. Each message that it takes off its stream is
handled by one registration, and the listener comes to its end after all of them.
-/
namespace FleetBridge

open Bridge (told Step History Apart)

namespace Listener

variable {l : Listener} {b b' : Bridge} {i j : TaskId} {n : Nat} {m : Message}

/-- The registration that the listener starts for a message. -/
def registration (l : Listener) (m : Message) : Registration := .start l.replyLink m

/-- A program stands in the place of a task, and `started` is what was started besides. -/
structure Leads (i : TaskId) (p : Program) (started : Option Program) (b b' : Bridge) :
    Prop where
  self : b'.program? i = some p
  nextTask : b'.nextTask = b.nextTask + started.toList.length
  others : ∀ j, j ≠ i → j ≠ b.nextTask → b'.program? j = b.program? j
  next : i ≠ b.nextTask → b'.program? b.nextTask = started.or (b.program? b.nextTask)

theorem Leads.of_placed {p : Program} {b₁ : Bridge} (h : Bridge.Placed i p b₁ b')
    (htasks : b₁.tasks = b.tasks) (hnext : b₁.nextTask = b.nextTask) : Leads i p none b b' where
  self := h.self
  nextTask := h.nextTask.trans hnext
  others j hj _ := (h.ne j hj).trans (Bridge.program?_congr htasks j)
  next hi := (h.ne b.nextTask (Ne.symm hi)).trans (Bridge.program?_congr htasks b.nextTask)

theorem Leads.of_spawned {p q : Program} {b₁ : Bridge} (h : Bridge.Placed i p (b₁.spawn q).2 b')
    (htasks : b₁.tasks = b.tasks) (hnext : b₁.nextTask = b.nextTask) :
    Leads i p (some q) b b' where
  self := h.self
  nextTask := h.nextTask.trans (congrArg Nat.succ hnext)
  others j hj hne := (h.ne j hj).trans
    ((Bridge.program?_spawn_of_ne (hnext ▸ hne) q).trans (Bridge.program?_congr htasks j))
  next hi := (h.ne b.nextTask (Ne.symm hi)).trans
    (hnext ▸ Bridge.program?_spawn_self q b₁)

/-- All that a turn of a listener's task can do. -/
inductive Acts (i : TaskId) (l : Listener) (b b' : Bridge) : Prop
  | subscribed {s : StreamId} : l.phase = .subscribing →
    (b.subscribe l.link Subject.announcements).1 = .ok s →
    Leads i (.listener { l with phase := .listening s }) none b b' → Acts i l b b'
  | refused {f : BusFault} : l.phase = .subscribing →
    (b.subscribe l.link Subject.announcements).1 = .error f →
    Leads i (.finished (.ended .lost)) none b b' → Acts i l b b'
  | stopped {s : StreamId} : l.phase = .listening s → b.isFired l.token = true →
    b'.broker = b.broker →
    Leads i (.listener { l with phase := .draining s .cancelled }) none b b' → Acts i l b b'
  | took {s : StreamId} {m : Message} {handlers : List TaskId} : l.phase = .listening s →
    b.broker.read? s = some (m, b'.broker) →
    (∀ j ∈ l.handlers, b.isRunning j = true → j ∈ handlers) → b.nextTask ∈ handlers →
    Leads i (.listener { l with handlers := handlers }) (some (.registration (l.registration m)))
      b b' → Acts i l b b'
  | exhausted {s : StreamId} : l.phase = .listening s → b.broker.isOver s = true →
    b.broker.waiting s = [] → b'.broker = b.broker →
    Leads i (.listener { l with phase := .draining s .lost }) none b b' → Acts i l b b'
  | ended {s : StreamId} {e : Ending} : l.phase = .draining s e →
    (∀ j ∈ l.handlers, b.isRunning j = false) → Leads i (.finished (.ended e)) none b b' →
    Acts i l b b'

theorem acts (i : TaskId) (n : Nat) (l : Listener) (b : Bridge) : (l.turn n b).Yields
    (fun l' b' => l.Acts i b (b'.become i (.listener l')))
    (fun e b' => l.Acts i b (b'.finish i (.ended e))) := by
  have hnext (p : Program) {b₁ : Bridge} (htasks : b₁.tasks = b.tasks)
      (hnext : b₁.nextTask = b.nextTask) : Leads i p none b (b₁.become i p) :=
    .of_placed (Bridge.placed_become i p b₁) htasks hnext
  have hdone (e : Ending) {b₁ : Bridge} (htasks : b₁.tasks = b.tasks)
      (hnext : b₁.nextTask = b.nextTask) :
      Leads i (.finished (.ended e)) none b (b₁.finish i (.ended e)) :=
    .of_placed (Bridge.placed_finish i (.ended e) b₁) htasks hnext
  unfold turn
  cases hphase : l.phase with
  | subscribing =>
    dsimp only
    rcases Bridge.subscribe_cases [] l.link Subject.announcements b with
      ⟨f, hsub⟩ | ⟨b₁, hsub, hsteady, -⟩
    · rw [hsub]
      exact .refused hphase (congrArg Prod.fst hsub) (hdone .lost rfl rfl)
    · rw [hsub]
      exact .subscribed hphase (congrArg Prod.fst hsub) (hnext _ hsteady.tasks hsteady.nextTask)
  | listening s =>
    dsimp only
    split
    next hfirst =>
      rw [tokenFirst, Bool.and_eq_true] at hfirst
      exact .stopped hphase hfirst.1 rfl (hnext _ rfl rfl)
    next =>
      cases hread : b.broker.read? s with
      | none =>
        simp only [Bridge.read?, hread, Option.map_none]
        split
        next hover =>
          exact .exhausted hphase hover (Broker.read?_eq_none_iff.mp hread) rfl (hnext _ rfl rfl)
        next => trivial
      | some x =>
        obtain ⟨m, k⟩ := x
        simp only [Bridge.read?, hread, Option.map_some]
        rw [← hphase]
        refine .took hphase hread (fun j hj hrun => List.mem_append_left _ ?_)
          (List.mem_append_right _ (List.mem_singleton_self _))
          (.of_spawned (Bridge.placed_become i _ _) rfl rfl)
        exact List.mem_filter.mpr ⟨hj, Bridge.isRunning_spawn hrun rfl⟩
  | draining s e =>
    dsimp only
    split
    next => trivial
    next hidle =>
      rw [Bool.not_eq_true, List.any_eq_false] at hidle
      exact .ended hphase (fun j hj => Bool.eq_false_iff.mpr (hidle j hj)) (hdone e rfl rfl)

theorem acts_of_turn? (hl : b.program? i = some (.listener l)) (h : b.turn? n i = some b') :
    l.Acts i b b' := by
  have hacts := l.acts i n b
  rw [Bridge.turn?, hl] at h
  simp only [Program.turn] at h
  cases hturn : l.turn n b with
  | wait =>
    rw [hturn] at h
    cases h
  | next l' b₁ =>
    rw [hturn] at h hacts
    cases h
    exact hacts
  | done e b₁ =>
    rw [hturn] at h hacts
    cases h
    exact hacts

end Listener

namespace Bridge

variable {b b' b₀ : Bridge} {i j : TaskId} {l l₀ : Listener} {n : Nat} {ts : List Step} {m : Message}

/-- The message that a listener takes off its stream in a turn. -/
def Step.read? (t : Step) : Option Message :=
  match t.before.program? t.task with
  | some (.listener l) =>
    match l.phase with
    | .listening s =>
      if (t.after.broker.waiting s).length < (t.before.broker.waiting s).length then
        (t.before.broker.waiting s).head?
      else none
    | _ => none
  | _ => none

/-- The registration that is started in a turn, under its number. -/
def Step.begun? (t : Step) : Option (TaskId × Registration) :=
  if t.before.nextTask < t.after.nextTask then
    (t.after.handling? t.before.nextTask).map fun r => (t.before.nextTask, r)
  else none

/-- What a listener's turn shows of the messages and the registrations. -/
inductive Hires (l : Listener) (t : Step) : Prop
  | idle : t.read? = none → t.begun? = none → t.after.nextTask = t.before.nextTask →
    (∀ j, t.after.handling? j = t.before.handling? j) → Hires l t
  | one {m : Message} : t.read? = some m →
    t.begun? = some (t.before.nextTask, l.registration m) →
    t.after.nextTask = t.before.nextTask + 1 →
    t.after.handling? t.before.nextTask = some (l.registration m) →
    (∀ j, j ≠ t.before.nextTask → t.after.handling? j = t.before.handling? j) → Hires l t

theorem Step.begun?_of_nextTask {t : Step} (h : t.after.nextTask = t.before.nextTask) :
    t.begun? = none := by
  rw [begun?, if_neg (Nat.not_lt.mpr h.le)]

theorem Step.begun?_of_handling? {t : Step} {r : Registration}
    (h : t.after.nextTask = t.before.nextTask + 1)
    (hr : t.after.handling? t.before.nextTask = some r) :
    t.begun? = some (t.before.nextTask, r) := by
  rw [begun?, if_pos (h ▸ Nat.lt_succ_self _), hr, Option.map_some]

theorem Step.read?_of_phase {t : Step} (hl : t.before.program? t.task = some (.listener l))
    (h : ∀ s, l.phase ≠ .listening s) : t.read? = none := by
  rw [read?, hl]
  dsimp only
  split
  next s hs => exact absurd hs (h s)
  next => rfl

theorem Step.read?_of_waiting {t : Step} (hl : t.before.program? t.task = some (.listener l))
    {s : StreamId} (hs : l.phase = .listening s)
    (h : t.after.broker.waiting s = t.before.broker.waiting s) : t.read? = none := by
  rw [read?, hl]
  simp only [hs, h, lt_irrefl, if_false]

theorem Step.read?_of_read {t : Step} (hl : t.before.program? t.task = some (.listener l))
    {s : StreamId} (hs : l.phase = .listening s) {k : Broker}
    (hread : t.before.broker.read? s = some (m, k)) (hk : t.after.broker = k) :
    t.read? = some m := by
  obtain ⟨x, rest, hx, hwaiting, rfl⟩ := Broker.read?_eq_some hread
  have hafter := Broker.waiting_of_find?
    (Broker.find?_update_self (f := fun x => { x with waiting := rest }) (fun _ => rfl) hx)
  have hbefore := (Broker.waiting_of_find? hx).trans hwaiting
  rw [read?, hl]
  simp only [hs, hk, hafter, hbefore, List.length_cons, List.head?_cons, if_pos (Nat.lt_succ_self _)]

theorem handling?_of_listener (h : b.program? i = some (.listener l)) : b.handling? i = none := by
  rw [handling?, h]

/-- Where nothing is started, everyone handles what he handled. -/
theorem handling?_of_leads {p : Program} (hi : i < b.nextTask) (hnone : b.handling? i = none)
    (h : Listener.Leads i p none b b') (hp : ∀ r, p ≠ .registration r) (j : TaskId) :
    b'.handling? j = b.handling? j := by
  by_cases hj : j = i
  · rw [hj, hnone]
    refine Option.eq_none_iff_forall_ne_some.mpr fun r hr => ?_
    rw [handling?_eq_some, h.self] at hr
    exact hp r (Option.some.inj hr)
  · by_cases hnext : j = b.nextTask
    · rw [hnext]
      exact handling?_congr (h.next (Nat.ne_of_lt hi))
    · exact handling?_congr (h.others j hj hnext)

theorem listener_ne_registration (l : Listener) (r : Registration) :
    Program.listener l ≠ .registration r := nofun

theorem finished_ne_registration (e : Exit) (r : Registration) :
    Program.finished e ≠ .registration r := nofun

/-- A listener goes on without a registration, or starts one for the message that it takes. -/
theorem hires (hl : b.program? i = some (.listener l)) (hi : i < b.nextTask)
    (h : l.Acts i b b') : Hires l ⟨i, n, b, b'⟩ := by
  have hidle {p : Program} (hleads : Listener.Leads i p none b b')
      (hp : ∀ r, p ≠ .registration r) (hread : Step.read? ⟨i, n, b, b'⟩ = none) :
      Hires l ⟨i, n, b, b'⟩ :=
    .idle hread (Step.begun?_of_nextTask hleads.nextTask) hleads.nextTask
      (handling?_of_leads hi (handling?_of_listener hl) hleads hp)
  have hblind (hphase : ∀ s, l.phase ≠ .listening s) : Step.read? ⟨i, n, b, b'⟩ = none :=
    Step.read?_of_phase hl hphase
  cases h with
  | subscribed hphase _ hleads =>
    exact hidle hleads (listener_ne_registration _) (hblind (by simp [hphase]))
  | refused hphase _ hleads =>
    exact hidle hleads (finished_ne_registration _) (hblind (by simp [hphase]))
  | ended hphase _ hleads =>
    exact hidle hleads (finished_ne_registration _) (hblind (by simp [hphase]))
  | stopped hphase _ hsame hleads =>
    exact hidle hleads (listener_ne_registration _)
      (Step.read?_of_waiting hl hphase (congrArg (Broker.waiting _) hsame))
  | exhausted hphase _ _ hsame hleads =>
    exact hidle hleads (listener_ne_registration _)
      (Step.read?_of_waiting hl hphase (congrArg (Broker.waiting _) hsame))
  | took hphase hread _ _ hleads =>
    have hbegun := handling?_eq_some.mpr (hleads.next (Nat.ne_of_lt hi))
    refine .one (Step.read?_of_read hl hphase hread rfl)
      (Step.begun?_of_handling? hleads.nextTask hbegun) hleads.nextTask hbegun fun j hj => ?_
    by_cases hji : j = i
    · rw [hji]
      exact (handling?_of_listener hleads.self).trans (handling?_of_listener hl).symm
    · exact handling?_congr (hleads.others j hji hj)

theorem Step.fst_of_begun? {t : Step} {g : TaskId × Registration} (h : t.begun? = some g) :
    g.1 = t.before.nextTask := by
  unfold begun? at h
  split at h
  next =>
    obtain ⟨r, -, rfl⟩ := Option.map_eq_some_iff.mp h
    rfl
  next => cases h

namespace Hires

variable {t : Step} (h : Hires l t)
include h

theorem nextTask_le : t.before.nextTask ≤ t.after.nextTask := by
  cases h with
  | idle _ _ hnext => exact hnext.ge
  | one _ _ hnext => exact hnext ▸ Nat.le_succ _

theorem kept {j : TaskId} (hj : j < t.before.nextTask) :
    t.after.handling? j = t.before.handling? j := by
  cases h with
  | idle _ _ _ hall => exact hall j
  | one _ _ _ _ hothers => exact hothers j (Nat.ne_of_lt hj)

/-- What is started is a registration for the message that is taken. -/
theorem matches_read : t.read?.toList = (t.begun?.toList.map fun g => g.2.message) := by
  cases h with
  | idle hread hbegun => rw [hread, hbegun]; rfl
  | one hread hbegun => rw [hread, hbegun]; rfl

theorem of_begun {g : TaskId × Registration} (hg : t.begun? = some g) :
    g.2 = l.registration g.2.message ∧ g.1 < t.after.nextTask ∧
      t.after.handling? g.1 = some g.2 := by
  cases h with
  | idle _ hbegun =>
    rw [hbegun] at hg
    cases hg
  | one _ hbegun hnext hself =>
    rw [hbegun] at hg
    cases hg
    exact ⟨rfl, hnext ▸ Nat.lt_succ_self _, hself⟩

end Hires

/-- Why a listener takes no more messages. -/
inductive Stops (i : TaskId) (l₀ : Listener) (ts : List Step) : Ending → Prop
  | fired {t : Step} : t ∈ ts → t.task = i → t.before.isFired l₀.token = true →
    Stops i l₀ ts .cancelled
  | refused {t : Step} {l : Listener} {f : BusFault} : t ∈ ts → t.task = i →
    t.before.program? i = some (.listener l) → l.phase = .subscribing →
    (t.before.subscribe l.link Subject.announcements).1 = .error f → Stops i l₀ ts .lost
  | exhausted {t : Step} {l : Listener} {s : StreamId} : t ∈ ts → t.task = i →
    t.before.program? i = some (.listener l) → l.phase = .listening s →
    t.before.broker.isOver s = true → t.before.broker.waiting s = [] → Stops i l₀ ts .lost

theorem Stops.mono {e : Ending} {ts' : List Step} (h : Stops i l₀ ts e) (hts : ts ⊆ ts') :
    Stops i l₀ ts' e := by
  cases h with
  | fired ht hi hfired => exact .fired (hts ht) hi hfired
  | refused ht hi hl hphase hsub => exact .refused (hts ht) hi hl hphase hsub
  | exhausted ht hi hl hphase hover hempty => exact .exhausted (hts ht) hi hl hphase hover hempty

/-- The registrations that a task started, by number. -/
def hired (i : TaskId) (ts : List Step) : List (TaskId × Registration) := told Step.begun? i ts

/-- A listener that goes on knows all its registrations under way. -/
structure Runs (i : TaskId) (l₀ : Listener) (ts : List Step) (b : Bridge) (l : Listener) :
    Prop where
  program : b.program? i = some (.listener l)
  link : l.link = l₀.link
  replyLink : l.replyLink = l₀.replyLink
  token : l.token = l₀.token
  known : ∀ g ∈ hired i ts, b.handling? g.1 ≠ none → g.1 ∈ l.handlers
  fresh : l.phase = .subscribing → hired i ts = []
  goes : ∀ t ∈ ts, t.task = i → ∃ l', t.after.program? i = some (.listener l')
  opened : ∀ s, l.phase = .listening s → ∃ t ∈ ts, t.task = i ∧
    (t.before.subscribe l₀.link Subject.announcements).1 = .ok s
  stops : ∀ s e, l.phase = .draining s e → Stops i l₀ ts e

/-- A listener goes on, or it has ended and none of its registrations is under way. -/
inductive Stands (i : TaskId) (l₀ : Listener) (ts : List Step) (b : Bridge) : Prop
  | running {l : Listener} : Runs i l₀ ts b l → Stands i l₀ ts b
  | ended {e : Ending} : b.program? i = some (.finished (.ended e)) →
    (∀ g ∈ hired i ts, b.handling? g.1 = none) → Stops i l₀ ts e → Stands i l₀ ts b

/-- What a listener has done so far with the messages that it took. -/
structure Serves (i : TaskId) (l₀ : Listener) (ts : List Step) (b : Bridge) : Prop where
  lt : i < b.nextTask
  handed : told Step.read? i ts = (hired i ts).map fun g => g.2.message
  begun : ∀ g ∈ hired i ts, g.2 = l₀.registration g.2.message ∧ g.1 < b.nextTask
  nodup : ((hired i ts).map Prod.fst).Nodup
  underway : ∀ g ∈ hired i ts, ∀ r, b.handling? g.1 = some r → r.errand = g.2.errand
  own : ∀ g ∈ hired i ts, ∀ t ∈ ts, t.task = g.1 → ∀ r, t.before.handling? t.task = some r →
    r.errand = g.2.errand
  ended : ∀ g ∈ hired i ts, b.handling? g.1 = none → ∃ o, o ∈ told Step.outcome? g.1 ts
  stands : Stands i l₀ ts b

/-- Anything else may happen but to the listener itself and to registrations under way. -/
structure Aside (i : TaskId) (b b' : Bridge) : Prop extends Apart b b' where
  listener : b'.program? i = b.program? i

namespace Serves

theorem start {lk rl : Link} {tok : Token}
    (hl : b.program? i = some (.listener (.start lk rl tok))) (hi : i < b.nextTask) :
    Serves i (.start lk rl tok) [] b where
  lt := hi
  handed := rfl
  begun := List.forall_mem_nil _
  nodup := .nil
  underway := List.forall_mem_nil _
  own := List.forall_mem_nil _
  ended := List.forall_mem_nil _
  stands := .running ⟨hl, rfl, rfl, rfl, List.forall_mem_nil _, fun _ => rfl, List.forall_mem_nil _,
    nofun, nofun⟩

theorem aside (h : Serves i l₀ ts b) (ha : Aside i b b') : Serves i l₀ ts b' := by
  have hsame : ∀ g ∈ hired i ts, b'.handling? g.1 = b.handling? g.1 := fun g hg =>
    ha.kept g.1 (h.begun g hg).2
  refine ⟨Nat.lt_of_lt_of_le h.lt ha.nextTask_le, h.handed, ?begun, h.nodup, ?underway, h.own,
    ?ended, ?stands⟩
  case begun =>
    exact fun g hg => ⟨(h.begun g hg).1, Nat.lt_of_lt_of_le (h.begun g hg).2 ha.nextTask_le⟩
  case underway =>
    intro g hg
    rw [hsame g hg]
    exact h.underway g hg
  case ended =>
    intro g hg
    rw [hsame g hg]
    exact h.ended g hg
  case stands =>
    cases h.stands with
    | running hr =>
      refine .running { hr with
        program := ha.listener.trans hr.program
        known := fun g hg => ?_ }
      rw [hsame g hg]
      exact hr.known g hg
    | ended he hnone hstops =>
      refine .ended (ha.listener.trans he) (fun g hg => ?_) hstops
      rw [hsame g hg]
      exact hnone g hg

/-- The turns of other tasks. -/
theorem other_turn (h : Serves i l₀ ts b)
    (hbounded : ∀ j r, b.handling? j = some r → j < b.nextTask) (hj : j ≠ i)
    (ht : b.turn? n j = some b') : Serves i l₀ (ts ++ [⟨j, n, b, b'⟩]) b' := by
  obtain ⟨hnext, hhandling⟩ := handling?_of_turn? hbounded ht
  have hself := program?_of_turn?_of_ne ht h.lt (Ne.symm hj)
  have hhired : hired i (ts ++ [⟨j, n, b, b'⟩]) = hired i ts :=
    told_append_of_ne Step.begun? ts ⟨j, n, b, b'⟩ hj
  have hnone : ∀ g ∈ hired i ts, b.handling? g.1 = none → b'.handling? g.1 = none := by
    intro g hg hno
    rcases hhandling g.1 (h.begun g hg).2 with hsame | ⟨he, r, hr, -⟩
    · exact hsame.trans hno
    · rw [he, hr] at hno
      cases hno
  refine ⟨Nat.lt_of_lt_of_le h.lt hnext, ?handed, ?begun, hhired.symm ▸ h.nodup, ?underway, ?own,
    ?ended, ?stands⟩
  case handed =>
    rw [hhired, told_append_of_ne Step.read? ts ⟨j, n, b, b'⟩ hj]
    exact h.handed
  case begun =>
    rw [hhired]
    exact fun g hg => ⟨(h.begun g hg).1, Nat.lt_of_lt_of_le (h.begun g hg).2 hnext⟩
  case underway =>
    rw [hhired]
    intro g hg r hr
    rcases hhandling g.1 (h.begun g hg).2 with hsame | ⟨he, r₀, hr₀, hown⟩
    · exact h.underway g hg r (hsame ▸ hr)
    · rcases hown with ⟨r', hr', herrand⟩ | ⟨hno, -⟩
      · obtain rfl : r' = r := Option.some.inj (hr'.symm.trans (he ▸ hr))
        exact herrand.trans (h.underway g hg r₀ (he ▸ hr₀))
      · rw [he, hno] at hr
        cases hr
  case own =>
    rw [hhired]
    intro g hg t hmem htask r hr
    rcases List.mem_append.mp hmem with hmem | hmem
    · exact h.own g hg t hmem htask r hr
    · rw [List.mem_singleton.mp hmem] at htask hr
      exact h.underway g hg r (htask ▸ hr)
  case ended =>
    rw [hhired]
    intro g hg hno
    rcases hhandling g.1 (h.begun g hg).2 with hsame | ⟨he, r, hr, hown⟩
    · obtain ⟨o, ho⟩ := h.ended g hg (hsame ▸ hno)
      exact ⟨o, told_subset_append Step.outcome? ts _ ho⟩
    · rcases hown with ⟨r', hr', -⟩ | ⟨-, o, ho⟩
      · rw [he, hr'] at hno
        cases hno
      · exact ⟨o, (mem_told _).mpr
          ⟨_, List.mem_append_right _ (List.mem_singleton_self _), he.symm, ho⟩⟩
  case stands =>
    cases h.stands with
    | running hr =>
      refine .running { hr with
        program := hself.trans hr.program
        known := ?_
        fresh := fun hphase => hhired.trans (hr.fresh hphase)
        goes := fun t hmem htask => ?_
        opened := fun s hphase => ?_
        stops := fun s e hphase => (hr.stops s e hphase).mono (List.subset_append_left _ _) }
      · rw [hhired]
        exact fun g hg hsome => hr.known g hg (mt (hnone g hg) hsome)
      · exact hr.goes t (Kept.mem_of_task_ne hmem (htask ▸ hj.symm)) htask
      · obtain ⟨t, hmem, hopened⟩ := hr.opened s hphase
        exact ⟨t, List.mem_append_left _ hmem, hopened⟩
    | ended he hno hstops =>
      refine .ended (hself.trans he) ?_ (hstops.mono (List.subset_append_left _ _))
      rw [hhired]
      exact fun g hg => hnone g hg (hno g hg)

/-- What stays known of the registrations under way when the listener itself takes a turn. -/
theorem known_own {l : Listener} {handlers : List TaskId} {t : Step}
    (hknown : ∀ g ∈ hired i ts, t.before.handling? g.1 ≠ none → g.1 ∈ l.handlers)
    (hlt : ∀ g ∈ hired i ts, g.1 < t.before.nextTask) (hi : t.task = i) (hh : Hires l t)
    (hkept : ∀ j ∈ l.handlers, t.before.isRunning j = true → j ∈ handlers)
    (hnew : t.begun? ≠ none → t.before.nextTask ∈ handlers) :
    ∀ g ∈ hired i (ts ++ [t]), t.after.handling? g.1 ≠ none → g.1 ∈ handlers := by
  intro g hg hsome
  rw [hired, told_append_self Step.begun? ts t hi, List.mem_append, Option.mem_toList] at hg
  rcases hg with hg | hg
  · rw [hh.kept (hlt g hg)] at hsome
    obtain ⟨r, hr⟩ := Option.ne_none_iff_exists'.mp hsome
    exact hkept g.1 (hknown g hg hsome)
      (isRunning_eq_true.mpr ⟨_, handling?_eq_some.mp hr, rfl⟩)
  · rw [Step.fst_of_begun? hg]
    exact hnew (by rw [hg]; exact nofun)

/-- After a turn of its own the listener stands as well. -/
theorem stands_own (h : Serves i l₀ ts b) {l : Listener} (hl : b.program? i = some (.listener l))
    (hacts : l.Acts i b b') : Stands i l₀ (ts ++ [⟨i, n, b, b'⟩]) b' := by
  have hh : Hires l ⟨i, n, b, b'⟩ := hires hl h.lt hacts
  have hlt : ∀ g ∈ hired i ts, g.1 < b.nextTask := fun g hg => (h.begun g hg).2
  have hlast : (⟨i, n, b, b'⟩ : Step) ∈ ts ++ [⟨i, n, b, b'⟩] :=
    List.mem_append_right _ (List.mem_singleton_self _)
  have holder : ts ⊆ ts ++ [⟨i, n, b, b'⟩] := List.subset_append_left _ _
  cases h.stands with
  | ended he => exact nomatch hl.symm.trans he
  | @running l' hr =>
    obtain rfl : l' = l :=
      Program.listener.inj (Option.some.inj (hr.program.symm.trans hl))
    have hgoes {l₁ : Listener} (hl₁ : b'.program? i = some (.listener l₁)) :
        ∀ t ∈ ts ++ [⟨i, n, b, b'⟩], t.task = i → ∃ l', t.after.program? i = some (.listener l') := by
      intro t hmem htask
      rcases List.mem_append.mp hmem with hmem | hmem
      · exact hr.goes t hmem htask
      · rw [List.mem_singleton.mp hmem]
        exact ⟨l₁, hl₁⟩
    have hknown (hnext : b'.nextTask = b.nextTask) :
        ∀ g ∈ hired i (ts ++ [⟨i, n, b, b'⟩]), b'.handling? g.1 ≠ none → g.1 ∈ l'.handlers :=
      known_own hr.known hlt rfl hh (fun j hj _ => hj) fun hsome =>
        absurd (Step.begun?_of_nextTask hnext) hsome
    have hdraining {s : StreamId} {e : Ending}
        (hleads : Listener.Leads i (.listener { l' with phase := .draining s e }) none b b')
        (hstops : Stops i l₀ (ts ++ [⟨i, n, b, b'⟩]) e) :
        Stands i l₀ (ts ++ [⟨i, n, b, b'⟩]) b' := by
      refine .running ⟨hleads.self, hr.link, hr.replyLink, hr.token, hknown hleads.nextTask, nofun,
        hgoes hleads.self, nofun, fun s' e' he => ?_⟩
      obtain ⟨-, rfl⟩ := Listener.Phase.draining.inj he
      exact hstops
    cases hacts with
    | subscribed hphase hsub hleads =>
      refine .running ⟨hleads.self, hr.link, hr.replyLink, hr.token, hknown hleads.nextTask, nofun,
        hgoes hleads.self, fun s' hs => ?_, nofun⟩
      obtain rfl := Listener.Phase.listening.inj hs
      exact ⟨_, hlast, rfl, hr.link ▸ hsub⟩
    | refused hphase hsub hleads =>
      have hempty : hired i (ts ++ [⟨i, n, b, b'⟩]) = [] := by
        rw [hired, told_append_self Step.begun? ts ⟨i, n, b, b'⟩ rfl,
          Step.begun?_of_nextTask hleads.nextTask]
        exact (List.append_nil _).trans (hr.fresh hphase)
      refine .ended hleads.self ?_ (.refused hlast rfl hl hphase hsub)
      rw [hempty]
      exact nofun
    | stopped hphase hfired _ hleads =>
      exact hdraining hleads (.fired hlast rfl (hr.token ▸ hfired))
    | took hphase hread hkept hnew hleads =>
      refine .running ⟨hleads.self, hr.link, hr.replyLink, hr.token, ?_, fun he => ?_,
        hgoes hleads.self, fun s' hs => ?_, fun s' e he => ?_⟩
      · exact known_own hr.known hlt rfl hh hkept fun _ => hnew
      · exact nomatch hphase.symm.trans he
      · obtain ⟨t, hmem, hopened⟩ := hr.opened s' hs
        exact ⟨t, holder hmem, hopened⟩
      · exact nomatch hphase.symm.trans he
    | exhausted hphase hover hempty _ hleads =>
      exact hdraining hleads (.exhausted hlast rfl hl hphase hover hempty)
    | ended hphase hidle hleads =>
      refine .ended hleads.self (fun g hg => ?_) ((hr.stops _ _ hphase).mono holder)
      -- Whoever were still at work would be known to the listener, and all whom it knows are done.
      by_contra hsome
      have hmem := hknown hleads.nextTask g hg hsome
      rw [handling?_of_leads h.lt (handling?_of_listener hl) hleads
        (finished_ne_registration _)] at hsome
      obtain ⟨r, hhandling⟩ := Option.ne_none_iff_exists'.mp hsome
      have hrun : b.isRunning g.1 = true :=
        isRunning_eq_true.mpr ⟨_, handling?_eq_some.mp hhandling, rfl⟩
      rw [hidle g.1 hmem] at hrun
      cases hrun

/-- A listener that takes a turn has not ended. -/
theorem runs_of_turn? (h : Serves i l₀ ts b) (ht : b.turn? n i = some b') :
    ∃ l, Runs i l₀ ts b l := by
  cases h.stands with
  | running hr => exact ⟨_, hr⟩
  | ended he => exact absurd he (not_finished_of_turn? ht)

theorem own_turn (h : Serves i l₀ ts b) (hk : Kept ts b) (ht : b.turn? n i = some b') :
    Serves i l₀ (ts ++ [⟨i, n, b, b'⟩]) b' := by
  obtain ⟨l, hr⟩ := h.runs_of_turn? ht
  have hl := hr.program
  have hacts := Listener.acts_of_turn? hl ht
  have hh : Hires l ⟨i, n, b, b'⟩ := hires hl h.lt hacts
  have hhired : hired i (ts ++ [⟨i, n, b, b'⟩]) =
      hired i ts ++ (Step.begun? ⟨i, n, b, b'⟩).toList :=
    told_append_self Step.begun? ts ⟨i, n, b, b'⟩ rfl
  have hcases {g : TaskId × Registration} (hg : g ∈ hired i (ts ++ [⟨i, n, b, b'⟩])) :
      g ∈ hired i ts ∨ Step.begun? ⟨i, n, b, b'⟩ = some g := by
    rw [hhired, List.mem_append, Option.mem_toList] at hg
    exact hg
  -- The listener handles nothing itself, so the turn is no registration's.
  have hmine {t : Step} (hmem : t ∈ ts ++ [⟨i, n, b, b'⟩]) {r : Registration}
      (hr : t.before.handling? t.task = some r) : t ∈ ts := by
    rcases List.mem_append.mp hmem with hmem | hmem
    · exact hmem
    · rw [List.mem_singleton.mp hmem, handling?_of_listener hl] at hr
      cases hr
  refine ⟨Nat.lt_of_lt_of_le h.lt hh.nextTask_le, ?handed, ?begun, ?nodup, ?underway, ?own, ?outcome,
    h.stands_own hl hacts⟩
  case handed =>
    rw [hhired, told_append_self Step.read? ts ⟨i, n, b, b'⟩ rfl, h.handed, hh.matches_read,
      List.map_append]
  case begun =>
    intro g hg
    rcases hcases hg with hg | hg
    · exact ⟨(h.begun g hg).1, Nat.lt_of_lt_of_le (h.begun g hg).2 hh.nextTask_le⟩
    · obtain ⟨hstart, hlt, -⟩ := hh.of_begun hg
      refine ⟨?_, hlt⟩
      rw [hstart, Listener.registration, Listener.registration, hr.replyLink]
      rfl
  case nodup =>
    rw [hhired]
    cases hbegun : Step.begun? ⟨i, n, b, b'⟩ with
    | none => simpa using h.nodup
    | some g =>
      refine nodup_map_concat h.nodup fun g' hg' => ?_
      rw [Step.fst_of_begun? hbegun]
      exact (h.begun g' hg').2
  case underway =>
    intro g hg r hr
    rcases hcases hg with hg | hg
    · exact h.underway g hg r (hh.kept (h.begun g hg).2 ▸ hr)
    · obtain ⟨-, -, hself⟩ := hh.of_begun hg
      rw [Option.some.inj (hself.symm.trans hr)]
  case own =>
    intro g hg t hmem htask r hr
    have hold := hmine hmem hr
    rcases hcases hg with hg | hg
    · exact h.own g hg t hold htask r hr
    · have hlt := hk.steps_lt t hold r hr
      rw [htask, Step.fst_of_begun? hg] at hlt
      exact absurd hlt (Nat.lt_irrefl _)
  case outcome =>
    intro g hg hnone
    rcases hcases hg with hg | hg
    · obtain ⟨o, ho⟩ := h.ended g hg (hh.kept (h.begun g hg).2 ▸ hnone)
      exact ⟨o, told_subset_append Step.outcome? ts _ ho⟩
    · rw [(hh.of_begun hg).2.2] at hnone
      cases hnone

end Serves

theorem serves_of_history {lk rl : Link} {tok : Token} (hbegin : b₀.Unbegun)
    (hl : b₀.program? i = some (.listener (.start lk rl tok))) (hi : i < b₀.nextTask)
    (h : History (fun _ => True) (Aside i) b₀ ts b) : Serves i (.start lk rl tok) ts b := by
  induction h with
  | start => exact .start hl hi
  | between _ ha ih => exact ih.aside ha
  | @turn ts j b b' n hbefore _ ht ih =>
    have hkept := kept_of_history hbegin (hbefore.mono fun _ _ ha => ha.toApart)
    by_cases hj : j = i
    · subst hj
      exact ih.own_turn hkept ht
    · exact ih.other_turn hkept.bounded hj ht

/-! What waits on the stream. -/

end Bridge

/-- Nothing is taken off a stream: messages may come in, and it may come to its end. -/
def Broker.Supplies (s : StreamId) (k k' : Broker) : Prop :=
  ∀ x, k.find? s = some x → x.phase ≠ .dropped →
    ∃ x', k'.find? s = some x' ∧ x'.phase ≠ .dropped ∧ x.waiting <+: x'.waiting

namespace Broker

variable {s : StreamId} {k k' : Broker}

theorem Supplies.refl (s : StreamId) (k : Broker) : Supplies s k k :=
  fun x hx hphase => ⟨x, hx, hphase, List.prefix_refl _⟩

theorem Supplies.deliver (s : StreamId) (m : Message) (k : Broker) :
    Supplies s k (k.deliver m) := by
  intro x hx hphase
  refine ⟨x.push m, find?_deliver hx hphase, ?_, ?_⟩
  · rw [Subscription.push_phase]
    exact hphase
  · unfold Subscription.push
    split
    · exact List.prefix_append _ _
    · exact List.prefix_refl _

/-- A stream may end behind what waits on it. -/
theorem Supplies.ended (s : StreamId) (k : Broker) :
    Supplies s k (k.update s fun x => { x with phase := .ended }) := by
  intro x hx _
  exact ⟨{ x with phase := .ended }, find?_update_self (fun _ => rfl) hx, nofun,
    List.prefix_refl _⟩

end Broker

namespace Bridge

variable {b b' b₀ b₁ : Bridge} {i j : TaskId} {l l₀ : Listener} {n : Nat} {ts ts₁ ts₂ : List Step}
  {s : StreamId} {ms : List Message}

/-- A registration's turn takes nothing off any stream. -/
theorem supplies_registration {r : Registration} (hr : b.handling? j = some r)
    (ht : b.turn? n j = some b') (s : StreamId) : b.broker.Supplies s b'.broker := by
  rcases published_of_turn hr ht with hsame | ⟨u, subject, -, -, hbroker⟩
  · rw [hsame]
    exact .refl s _
  · rw [hbroker]
    exact .deliver s _ _

/-- From one moment to another nobody but the listener takes messages off its stream. -/
structure Fed (i : TaskId) (s : StreamId) (b : Bridge) (ts : List Step) (b' : Bridge) : Prop where
  history : History (fun _ => True) (fun b b' => Aside i b b' ∧ b.broker.Supplies s b'.broker) b ts b'
  turns : ∀ t ∈ ts, t.task ≠ i → t.before.handling? t.task = none →
    t.before.broker.Supplies s t.after.broker

/-- Messages that waited on a listener's stream are taken or still wait, until it is told to stop. -/
inductive Due (i : TaskId) (s : StreamId) (ms : List Message) (ts : List Step) (b : Bridge) : Prop
  | listening {l : Listener} {x : Subscription} : b.program? i = some (.listener l) →
    l.phase = .listening s → b.broker.find? s = some x → x.phase ≠ .dropped →
    ms <+: told Step.read? i ts ++ x.waiting → Due i s ms ts b
  | draining {l : Listener} {s' : StreamId} {e : Ending} : b.program? i = some (.listener l) →
    l.phase = .draining s' e → (e = .lost → ms <+: told Step.read? i ts) → Due i s ms ts b
  | ended {e : Ending} : b.program? i = some (.finished (.ended e)) →
    (e = .lost → ms <+: told Step.read? i ts) → Due i s ms ts b

namespace Due

theorem aside (h : Due i s ms ts b) (hself : b'.program? i = b.program? i)
    (hsupplies : b.broker.Supplies s b'.broker) : Due i s ms ts b' := by
  cases h with
  | listening hl hphase hx hlive hms =>
    obtain ⟨x', hx', hlive', hwaiting⟩ := hsupplies _ hx hlive
    exact .listening (hself.trans hl) hphase hx' hlive'
      (hms.trans ((List.prefix_append_right_inj _).mpr hwaiting))
  | draining hl hphase hms => exact .draining (hself.trans hl) hphase hms
  | ended he hms => exact .ended (hself.trans he) hms

theorem own_turn (h : Due i s ms ts b) (ht : b.turn? n i = some b') :
    Due i s ms (ts ++ [⟨i, n, b, b'⟩]) b' := by
  have htold := told_append_self Step.read? ts ⟨i, n, b, b'⟩ rfl
  have hblind (hread : Step.read? ⟨i, n, b, b'⟩ = none) :
      told Step.read? i (ts ++ [⟨i, n, b, b'⟩]) = told Step.read? i ts := by
    rw [htold, hread]
    exact List.append_nil _
  cases h with
  | @listening l x hl hphase hx hlive hms =>
    have hwaiting := Broker.waiting_of_find? hx
    cases Listener.acts_of_turn? hl ht with
    | subscribed hphase' => exact nomatch hphase.symm.trans hphase'
    | refused hphase' => exact nomatch hphase.symm.trans hphase'
    | ended hphase' => exact nomatch hphase.symm.trans hphase'
    | stopped _ _ _ hleads => exact .draining hleads.self rfl nofun
    | @took s' m handlers hphase' hread _ _ hleads =>
      obtain rfl := Listener.Phase.listening.inj (hphase'.symm.trans hphase)
      obtain ⟨x₁, rest, hx₁, hm, hbroker⟩ := Broker.read?_eq_some hread
      obtain rfl : x₁ = x := Option.some.inj (hx₁.symm.trans hx)
      have hself := Broker.find?_update_self (f := fun x => { x with waiting := rest })
        (fun _ => rfl) hx
      refine .listening (x := { x₁ with waiting := rest }) hleads.self hphase' ?_ hlive ?_
      · rw [hbroker]
        exact hself
      · rw [htold, Step.read?_of_read hl hphase' hread rfl, List.append_assoc]
        rw [hm] at hms
        exact hms
    | @exhausted s' hphase' _ hempty hsame hleads =>
      obtain rfl := Listener.Phase.listening.inj (hphase'.symm.trans hphase)
      refine .draining hleads.self rfl fun _ => ?_
      rw [hblind (Step.read?_of_waiting hl hphase' (congrArg (Broker.waiting _) hsame))]
      rw [← hwaiting, hempty, List.append_nil] at hms
      exact hms
  | @draining l s' e hl hphase hms =>
    rw [← hblind (Step.read?_of_phase hl (by simp [hphase]))] at hms
    cases Listener.acts_of_turn? hl ht with
    | @ended s₁ e' hphase' _ hleads =>
      obtain ⟨-, rfl⟩ := Listener.Phase.draining.inj (hphase'.symm.trans hphase)
      exact .ended hleads.self hms
    | subscribed hphase' => exact nomatch hphase.symm.trans hphase'
    | refused hphase' => exact nomatch hphase.symm.trans hphase'
    | stopped hphase' => exact nomatch hphase.symm.trans hphase'
    | took hphase' => exact nomatch hphase.symm.trans hphase'
    | exhausted hphase' => exact nomatch hphase.symm.trans hphase'
  | ended he hms => exact absurd he (not_finished_of_turn? ht)

end Due

section Histories
variable {lk rl : Link} {tok : Token} (hbegin : b₀.Unbegun)
  (hl : b₀.program? i = some (.listener (.start lk rl tok))) (hi : i < b₀.nextTask)
include hbegin hl hi

theorem due_of_fed {x : Subscription} (h₁ : History (fun _ => True) (Aside i) b₀ ts₁ b₁)
    (hprogram : b₁.program? i = some (.listener l)) (hphase : l.phase = .listening s)
    (hx : b₁.broker.find? s = some x) (hlive : x.phase ≠ .dropped) (hfed : Fed i s b₁ ts₂ b) :
    Due i s (told Step.read? i ts₁ ++ x.waiting) (ts₁ ++ ts₂) b := by
  obtain ⟨hhistory, hturns⟩ := hfed
  induction hhistory with
  | start =>
    rw [List.append_nil]
    exact .listening hprogram hphase hx hlive (List.prefix_refl _)
  | between _ ha ih => exact (ih hturns).aside ha.1.listener ha.2
  | @turn ts j b b' n hbefore _ ht ih =>
    have hdue := ih fun t hmem => hturns t (List.mem_append_left _ hmem)
    rw [← List.append_assoc]
    by_cases hj : j = i
    · subst hj
      exact hdue.own_turn ht
    · have hserves := serves_of_history hbegin hl hi (h₁.append (hbefore.mono fun _ _ ha => ha.1))
      have hself := program?_of_turn?_of_ne ht hserves.lt (Ne.symm hj)
      have hsupplies : b.broker.Supplies s b'.broker := by
        cases hr : b.handling? j with
        | none =>
          exact hturns ⟨j, n, b, b'⟩ (List.mem_append_right _ (List.mem_singleton_self _)) hj hr
        | some r => exact supplies_registration hr ht s
      have hread := told_append_of_ne Step.read? (ts₁ ++ ts) ⟨j, n, b, b'⟩ hj
      cases hdue.aside hself hsupplies with
      | listening hl' hphase' hx' hlive' hms =>
        exact .listening hl' hphase' hx' hlive' (hread.symm ▸ hms)
      | draining hl' hphase' hms => exact .draining hl' hphase' (hread.symm ▸ hms)
      | ended he hms => exact .ended he (hread.symm ▸ hms)

end Histories

/-- Every message that a listener takes is handled once, and the listener ends after all of them. -/
structure Drains (i : TaskId) (l₀ : Listener) (b₀ : Bridge) (ts : List Step) (b : Bridge) :
    Prop where
  handed : told Step.read? i ts = (hired i ts).map fun g => g.2.message
  begun : ∀ g ∈ hired i ts, g.2 = l₀.registration g.2.message
  once : ((hired i ts).map Prod.fst).Nodup
  own : ∀ g ∈ hired i ts, ∀ t ∈ ts, t.task = g.1 → ∀ r, t.before.handling? t.task = some r →
    r.errand = g.2.errand
  opened : ∀ l s, b.program? i = some (.listener l) → l.phase = .listening s → ∃ t ∈ ts,
    t.task = i ∧ (t.before.subscribe l₀.link Subject.announcements).1 = .ok s
  /-- At its end there was a reason to stop, and each of its registrations came to one outcome. -/
  ended : ∀ e, b.program? i = some (.finished (.ended e)) →
    Stops i l₀ ts e ∧ ∀ g ∈ hired i ts, ∃ o, told Step.outcome? g.1 ts = [o]
  /-- After its end neither the listener nor any of its registrations takes a turn. -/
  last : ∀ ts₁ t ts₂ e, ts = ts₁ ++ t :: ts₂ → t.task = i →
    t.after.program? i = some (.finished (.ended e)) → ∀ t' ∈ ts₂, t'.task ≠ i ∧
      ∀ g ∈ hired i ts, t'.task = g.1 → t'.before.handling? t'.task = none
  /-- Without a token that tells it to stop it takes all that ever waited on its stream. -/
  complete : ∀ ts₁ ts₂ b₁ l s x e, ts = ts₁ ++ ts₂ →
    History (fun _ => True) (Aside i) b₀ ts₁ b₁ → b₁.program? i = some (.listener l) →
    l.phase = .listening s → b₁.broker.find? s = some x → x.phase ≠ .dropped → Fed i s b₁ ts₂ b →
    b.program? i = some (.finished (.ended e)) →
    (∀ t ∈ ts, t.task = i → t.before.isFired l₀.token = false) →
    told Step.read? i ts₁ ++ x.waiting <+: told Step.read? i ts

theorem Serves.ended_of_program? (h : Serves i l₀ ts b) {e : Ending}
    (he : b.program? i = some (.finished (.ended e))) :
    (∀ g ∈ hired i ts, b.handling? g.1 = none) ∧ Stops i l₀ ts e := by
  cases h.stands with
  | running hr => exact nomatch he.symm.trans hr.program
  | ended he' hnone hstops =>
    rw [he'] at he
    cases he
    exact ⟨hnone, hstops⟩

/-- After the turn in which a listener ended nothing is started, and all that it started is done. -/
theorem Serves.after (h : Serves i l₀ ts b) {t : Step} (ht : t ∈ ts) (hi : t.task = i) {e : Ending}
    (he : t.after.program? i = some (.finished (.ended e))) :
    ∃ e', b.program? i = some (.finished (.ended e')) := by
  cases h.stands with
  | running hr =>
    obtain ⟨l, hl⟩ := hr.goes t ht hi
    rw [he] at hl
    cases hl
  | ended he' => exact ⟨_, he'⟩

theorem hired_append_of_ne {ts₁ ts₂ : List Step} (h : ∀ t ∈ ts₂, t.task ≠ i) :
    hired i (ts₁ ++ ts₂) = hired i ts₁ := by
  have hnil : ts₂.filter (fun t => t.task = i) = [] :=
    List.filter_eq_nil_iff.mpr fun t ht => by simpa using h t ht
  rw [hired, told, List.filter_append, hnil, List.append_nil]
  rfl

section Histories
variable {lk rl : Link} {tok : Token} (hbegin : b₀.Unbegun)
  (hl : b₀.program? i = some (.listener (.start lk rl tok))) (hi : i < b₀.nextTask)
  (h : History (fun _ => True) (Aside i) b₀ ts b)
include hbegin hl hi h

/-- Once the listener has ended, neither it nor any of its registrations acts. -/
theorem idle_after_end {t t' : Step} {e : Ending} (ht : t ∈ ts₁) (htask : t.task = i)
    (he : t.after.program? i = some (.finished (.ended e))) (hpart : ts₁ ++ [t'] <+: ts) :
    t'.task ≠ i ∧ ∀ g ∈ hired i ts₁, t'.before.handling? g.1 = none := by
  obtain ⟨hbefore, hturn⟩ := h.of_prefix hpart
  have hserves := serves_of_history hbegin hl hi hbefore
  obtain ⟨e', he'⟩ := hserves.after ht htask he
  refine ⟨fun hself => ?_, (hserves.ended_of_program? he').1⟩
  rw [hself] at hturn
  exact not_finished_of_turn? hturn he'

/-- What was started in all was started when the listener ended. -/
theorem hired_of_end {t : Step} {e : Ending} (hts : ts = ts₁ ++ t :: ts₂) (htask : t.task = i)
    (he : t.after.program? i = some (.finished (.ended e))) :
    hired i ts = hired i (ts₁ ++ [t]) ∧ ∀ t' ∈ ts₂, t'.task ≠ i := by
  have hothers : ∀ t' ∈ ts₂, t'.task ≠ i := by
    intro t' ht'
    obtain ⟨ts₃, ts₄, hts₂⟩ := List.append_of_mem ht'
    have hpart : (ts₁ ++ t :: ts₃) ++ [t'] <+: ts := ⟨ts₄, by rw [hts, hts₂]; simp⟩
    exact (idle_after_end hbegin hl hi h (List.mem_append_right _ List.mem_cons_self) htask he
      hpart).1
  refine ⟨?_, hothers⟩
  rw [hts, List.append_cons]
  exact hired_append_of_ne hothers

/-- All that waits on the stream at some moment is taken, unless the token fires. -/
theorem taken_of_fed {x : Subscription} {e : Ending} (hts : ts = ts₁ ++ ts₂)
    (h₁ : History (fun _ => True) (Aside i) b₀ ts₁ b₁)
    (hprogram : b₁.program? i = some (.listener l)) (hphase : l.phase = .listening s)
    (hx : b₁.broker.find? s = some x) (hlive : x.phase ≠ .dropped) (hfed : Fed i s b₁ ts₂ b)
    (he : b.program? i = some (.finished (.ended e)))
    (hcalm : ∀ t ∈ ts, t.task = i → t.before.isFired tok = false) :
    told Step.read? i ts₁ ++ x.waiting <+: told Step.read? i ts := by
  have hdue := due_of_fed hbegin hl hi h₁ hprogram hphase hx hlive hfed
  rw [hts]
  cases hdue with
  | listening hl' => exact nomatch he.symm.trans hl'
  | draining hl' => exact nomatch he.symm.trans hl'
  | @ended e' he' hms =>
    refine hms ?_
    cases ((serves_of_history hbegin hl hi h).ended_of_program? he').2 with
    | fired ht hti hfired => exact absurd ((hcalm _ ht hti).symm.trans hfired) Bool.false_ne_true
    | refused => rfl
    | exhausted => rfl

end Histories

/-- Whatever else happens, whenever the token fires and whenever the stream ends: the listener gives
each message to one registration and waits for them all. -/
theorem drains_of_history {lk rl : Link} {tok : Token} (hbegin : b₀.Unbegun)
    (hl : b₀.program? i = some (.listener (.start lk rl tok))) (hi : i < b₀.nextTask)
    (h : History (fun _ => True) (Aside i) b₀ ts b) : Drains i (.start lk rl tok) b₀ ts b := by
  have hserves := serves_of_history hbegin hl hi h
  refine ⟨hserves.handed, fun g hg => (hserves.begun g hg).1, hserves.nodup, hserves.own,
    ?opened, ?ended, ?last, ?complete⟩
  case opened =>
    intro l s hprogram hphase
    cases hserves.stands with
    | running hr =>
      obtain rfl := Program.listener.inj (Option.some.inj (hr.program.symm.trans hprogram))
      exact hr.opened s hphase
    | ended he => exact nomatch he.symm.trans hprogram
  case ended =>
    intro e he
    obtain ⟨hnone, hstops⟩ := hserves.ended_of_program? he
    refine ⟨hstops, fun g hg => ?_⟩
    obtain ⟨o, ho⟩ := hserves.ended g hg (hnone g hg)
    exact ⟨o, told_outcome_once hbegin (h.mono fun _ _ ha => ha.toApart) ho⟩
  case last =>
    intro ts₁ t ts₂ e hts htask he t' ht'
    obtain ⟨hhired, hothers⟩ := hired_of_end hbegin hl hi h hts htask he
    refine ⟨hothers t' ht', fun g hg hg' => ?_⟩
    obtain ⟨ts₃, ts₄, hts₂⟩ := List.append_of_mem ht'
    have hpart : (ts₁ ++ t :: ts₃) ++ [t'] <+: ts := ⟨ts₄, by rw [hts, hts₂]; simp⟩
    have hmem : g ∈ hired i (ts₁ ++ t :: ts₃) := by
      rw [List.append_cons, hired, told_append]
      rw [hhired] at hg
      exact List.mem_append_left _ hg
    rw [hg']
    exact (idle_after_end hbegin hl hi h (List.mem_append_right _ List.mem_cons_self) htask he
      hpart).2 g hmem
  case complete =>
    intro ts₁ ts₂ b₁ l s x e hts h₁ hprogram hphase hx hlive hfed he hcalm
    exact taken_of_fed hbegin hl hi h hts h₁ hprogram hphase hx hlive hfed he hcalm

theorem Aside.of_tasks (hbounded : ∀ j r, b.handling? j = some r → j < b.nextTask)
    (htasks : b'.tasks = b.tasks) (hnext : b'.nextTask = b.nextTask) (i : TaskId) :
    Aside i b b' where
  nextTask_le := hnext.ge
  kept j _ := handling?_congr (program?_congr htasks j)
  begins j r hj hr := by
    rw [handling?_congr (program?_congr htasks j)] at hr
    exact absurd (hbounded j r hr) (Nat.not_lt.mpr hj)
  listener := program?_congr htasks i

theorem Aside.of_broker (hbounded : ∀ j r, b.handling? j = some r → j < b.nextTask) (k : Broker)
    (i : TaskId) : Aside i b { b with broker := k } := by
  apply Aside.of_tasks hbounded
  · rfl
  · rfl

/-- A listener that is about to subscribe, and an event for one unit. -/
def listeningAlone : Bridge :=
  (spawn (.listener (.start (.working 0) (.working 0) ⟨0, none⟩))
    (start [("U1", ⟨7, "trial", "yard", "endurance"⟩)] (.start 0 0) 0)).2

theorem unbegun_listeningAlone : listeningAlone.Unbegun := by
  intro j r hr
  rw [handling?_eq_some, program?, listeningAlone] at hr
  change (if j = 0 then _ else none) = _ at hr
  split at hr
  next => cases hr
  next => cases hr

/-- The announcement of a unit that asks for a reply. -/
def announced : Message :=
  ⟨"U1.register_unit", some "r1", .ofText "\x7b\"unit_id\":\"U1\"\x7d"⟩

/-- The stream ends behind a message that nobody has read, and the message is handled nevertheless. -/
theorem listeningAlone_drains : ∃ ts b, History (fun _ => True) (Aside 0) listeningAlone ts b ∧
    Drains 0 (.start (.working 0) (.working 0) ⟨0, none⟩) listeningAlone ts b ∧
      b.program? 0 = some (.finished (.ended .lost)) ∧ [announced] <+: told Step.read? 0 ts ∧
      b.roster.size = 1 := by
  have hstart : History (fun _ => True) (Aside 0) listeningAlone [] _ := .start
  have hsubscribed := hstart.went (i := 0) trivial (by decide +kernel)
  have hbounded {ts : List Step} {b : Bridge}
      (h : History (fun _ => True) (Aside 0) listeningAlone ts b) :=
    (kept_of_history unbegun_listeningAlone (h.mono fun _ _ ha => ha.toApart)).bounded
  have hquiet := quiet_deliver announced (listeningAlone.went 0)
  have hdelivered := hsubscribed.between
    (.of_tasks (hbounded hsubscribed) hquiet.tasks hquiet.nextTask 0)
  -- From here on the stream is left to its reader.
  have hfed : History (fun _ => True) (fun b b' => Aside 0 b b' ∧ b.broker.Supplies 0 b'.broker)
      ((listeningAlone.went 0).deliver announced) [] _ := .start
  have hended := hfed.between ⟨.of_broker (hbounded hdelivered) _ 0, .ended 0 _⟩
  have hall := hended.played [0, 0, 1, 1, 1, 1, 1, 1, 0] (fun _ _ => trivial) (by decide +kernel)
  have hwhole := hdelivered.append (hall.mono fun _ _ ha => ha.1)
  have hdrains := drains_of_history unbegun_listeningAlone rfl Nat.zero_lt_one hwhole
  have hmine {f : Step → Bool} {ts : List Step} (h : ts.all f = true) : ∀ t ∈ ts, f t = true :=
    List.all_eq_true.mp h
  refine ⟨_, _, hwhole, hdrains, rfl, ?_, by decide +kernel⟩
  refine hdrains.complete [_] _ _ _ 0 _ .lost rfl hdelivered rfl rfl rfl nofun ⟨hall, ?_⟩ rfl ?_
  · intro t ht hne hnone
    have hcase := hmine (f := fun t => t.task = 0 || (t.before.handling? t.task).isSome)
      (by decide +kernel) t ht
    simp [hne, hnone] at hcase
  · intro t ht _
    have hcase := hmine (f := fun t => !t.before.isFired ⟨0, none⟩) (by decide +kernel) t ht
    change t.before.isFired ⟨0, none⟩ = false
    simpa using hcase

end Bridge
end FleetBridge
