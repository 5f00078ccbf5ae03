import FleetBridge.Proofs.Bridge.History
import FleetBridge.Proofs.Bridge.Turns
import FleetBridge.Proofs.Registration.Handling

/-!
Registrations side by side, among all else that goes on. What the handling of an announcement asks
of the directory, the status log, the roster and the bus depends on its outcome alone: everything
or, beyond the lookup, nothing, and the unit is filed before its reply goes out.
-/
namespace FleetBridge

namespace Registration

/-- A call to one of the services that registrations work with. -/
inductive Call where
  | find (unitId : String)
  | mark (event : Int) (s : Event.Status)
  | file (u : FieldUnit)
  | publish (l : Link) (subject : String) (p : Payload)

/-- The bridge after a call, whether the call is answered or fails. -/
def Call.perform (b : Bridge) : Call → Bridge
  | find id => { b with directory := b.directory.noted id }
  | mark event s => { b with statuses := b.statuses.write event s }
  | file u => { b with roster := b.roster.register u }
  | publish l subject p => (b.publish l subject p).2

/-- What is handled, and where the reply goes out. -/
def errand (r : Registration) : Link × Message := (r.link, r.message)

/-- The call that is made in the next turn. -/
def call? (r : Registration) : Option Call :=
  match r.phase with
  | .asking a => some (.find a.unitId)
  | .marking u => some (.mark u.eventId .live)
  | .filing u => some (.file u)
  | .replying u =>
    r.message.reply.map fun subject => .publish r.link subject (Payload.ofText u.text)
  | _ => none

/-- All calls for a message whose handling comes to this outcome. -/
def Outcome.calls (l : Link) (m : Message) : Outcome → List Call
  | registered u => [.find u.unitId, .mark u.eventId .live, .file u] ++
      (m.reply.map fun subject => Call.publish l subject (Payload.ofText u.text)).toList
  | malformed => []
  | unresolved id => [.find id]
  | lookupFailed id => [.find id]

/-- The calls that were made up to a phase. -/
def Phase.calls (l : Link) (m : Message) : Phase → List Call
  | reading => []
  | asking _ => []
  | marking u => [.find u.unitId]
  | filing u => [.find u.unitId, .mark u.eventId .live]
  | replying u => [.find u.unitId, .mark u.eventId .live, .file u]
  | counting o => o.calls l m

variable {r r' : Registration} {b b' : Bridge} {o : Outcome}

/-- A turn adds its call to those before, for the same message. -/
theorem calls_next (h : r.turn b = .next r' b') : r'.errand = r.errand ∧
    r'.phase.calls r'.link r'.message =
      r.phase.calls r.link r.message ++ r.call?.toList := by
  obtain ⟨l, m, phase⟩ := r
  cases phase with
  | reading =>
    unfold turn at h
    dsimp only at h
    split at h
    · cases h
      exact ⟨rfl, rfl⟩
    · cases h
      exact ⟨rfl, rfl⟩
  | asking a =>
    cases h
    refine ⟨rfl, ?_⟩
    change (answered a (b.directory.find a.unitId)).calls l m = _
    unfold answered
    split <;> rfl
  | marking u => cases h; exact ⟨rfl, rfl⟩
  | filing u => cases h; exact ⟨rfl, rfl⟩
  | replying u => cases h; exact ⟨rfl, rfl⟩
  | counting o => cases h

/-- What a turn shows is what its call does; besides, the outcome is counted at the end. -/
theorem turn_performs (r : Registration) (b : Bridge) :
    (r.turn b).All fun b' =>
      b' = { r.call?.elim b (Call.perform b) with meters := b'.meters } := by
  obtain ⟨l, m, phase⟩ := r
  cases phase with
  | reading =>
    unfold turn
    dsimp only
    split <;> rfl
  | asking a => rfl
  | marking u => rfl
  | filing u => rfl
  | replying u =>
    obtain ⟨subject, reply, payload⟩ := m
    cases reply <;> rfl
  | counting o => rfl

end Registration

namespace Bridge
open Registration (Call)

/-- The registration under way in a task. -/
def handling? (j : TaskId) (b : Bridge) : Option Registration :=
  match b.program? j with
  | some (.registration r) => some r
  | _ => none

/-- The call that a registration makes in a turn. -/
def Step.call? (t : Step) : Option Call := (t.before.handling? t.task).bind Registration.call?

/-- Nothing of this is done by registrations: any other change, and that new ones are started. -/
structure Apart (b b' : Bridge) : Prop where
  nextTask_le : b.nextTask ≤ b'.nextTask
  kept : ∀ j < b.nextTask, b'.handling? j = b.handling? j
  begins : ∀ j r, b.nextTask ≤ j → b'.handling? j = some r →
    j < b'.nextTask ∧ r.phase = .reading

/-- Each registration is yet to begin. -/
def Unbegun (b : Bridge) : Prop :=
  ∀ j r, b.handling? j = some r → j < b.nextTask ∧ r.phase = .reading

variable {b b' : Bridge} {j : TaskId} {r : Registration} {n : Nat} {ts : List Step}

theorem handling?_eq_some : b.handling? j = some r ↔ b.program? j = some (.registration r) := by
  unfold handling?
  split
  next r' h => simp [h]
  next h =>
    simp only [false_iff, reduceCtorEq]
    exact h r

theorem handling?_congr (h : b'.program? j = b.program? j) : b'.handling? j = b.handling? j := by
  unfold handling?
  rw [h]

/-- What a turn of a registration does, and what becomes of it. -/
theorem turn?_registration (hr : b.handling? j = some r) (ht : b.turn? n j = some b') :
    (b'.nextTask = b.nextTask ∧ ∀ i, i ≠ j → b'.handling? i = b.handling? i) ∧
      b' = { r.call?.elim b (Call.perform b) with
        tasks := b'.tasks, queue := b'.queue, meters := b'.meters } ∧
      ((∃ r', b'.handling? j = some r' ∧ r'.errand = r.errand ∧
          r'.phase.calls r'.link r'.message =
            r.phase.calls r.link r.message ++ r.call?.toList ∧ ∀ o, r.phase ≠ .counting o) ∨
        b'.handling? j = none ∧ ∃ o, r.phase = .counting o ∧
          b'.program? j = some (.finished (.registered o))) := by
  -- The program's turn changes no task; only the task itself is put back or ended.
  have hperforms := r.turn_performs b
  have hstill := r.tasks_eq_turn b
  have hothers {b₁ : Bridge} {p : Program} (htasks : b₁.tasks = b.tasks)
      (hplaced : Placed j p b₁ b') (i : TaskId) (hi : i ≠ j) : b'.handling? i = b.handling? i :=
    handling?_congr ((hplaced.ne i hi).trans (program?_congr htasks i))
  unfold turn? at ht
  rw [handling?_eq_some.mp hr] at ht
  simp only [Program.turn] at ht
  cases hturn : r.turn b with
  | wait =>
    rw [hturn] at ht
    cases ht
  | next r' b₁ =>
    rw [hturn] at ht hperforms hstill
    cases ht
    have hplaced := placed_become j (.registration r') b₁
    obtain ⟨herrand, hcalls⟩ := Registration.calls_next hturn
    refine ⟨⟨hplaced.nextTask.trans hstill.2, hothers hstill.1 hplaced⟩, ?_, .inl
      ⟨r', handling?_eq_some.mpr hplaced.self, herrand, hcalls, ?_⟩⟩
    · rw [hperforms]
      rfl
    · intro o ho
      obtain ⟨l, m, phase⟩ := r
      obtain rfl : phase = .counting o := ho
      cases hturn
  | done o b₁ =>
    rw [hturn] at ht hperforms hstill
    cases ht
    have hplaced := placed_finish j (.registered o) b₁
    refine ⟨⟨hplaced.nextTask.trans hstill.2, hothers hstill.1 hplaced⟩, ?_, .inr
      ⟨?_, o, (Registration.turn_done hturn).1, hplaced.self⟩⟩
    · rw [hperforms]
      rfl
    · unfold handling?
      rw [hplaced.self]

/-- A registration's task ends with the outcome that is counted in its last turn. -/
theorem exit_iff_counting {o : Registration.Outcome} (hr : b.handling? j = some r)
    (ht : b.turn? n j = some b') :
    b'.program? j = some (.finished (.registered o)) ↔ r.phase = .counting o := by
  obtain ⟨-, -, ⟨r', hr', -, -, hne⟩ | ⟨-, o', hphase, hexit⟩⟩ := turn?_registration hr ht
  · rw [handling?_eq_some.mp hr']
    exact ⟨nofun, fun ho => absurd ho (hne o)⟩
  · rw [hexit, hphase]
    simp [eq_comm]

/-- No other task becomes a registration, and none meddles with one. -/
theorem turn?_other (hnone : b.handling? j = none)
    (hbounded : ∀ i r, b.handling? i = some r → i < b.nextTask) (ht : b.turn? n j = some b') :
    b'.handling? j = none ∧ b.Apart b' := by
  obtain ⟨p, p', started, b₁, hp, htook⟩ := turn?_took ht
  have hspawns : Spawns started b b₁ := htook.acts.does.toSpawns
  have hself : b'.handling? j = none := by
    refine Option.eq_none_iff_forall_ne_some.mpr fun r hr => ?_
    rw [handling?_eq_some, htook.placed.self] at hr
    refine htook.acts.goes.ne_registration (fun r' hr' => ?_) r (Option.some.inj hr)
    rw [handling?_eq_some.mpr (hr' ▸ hp)] at hnone
    cases hnone
  have hothers (i : TaskId) (hi : i ≠ j) : b'.handling? i = b₁.handling? i :=
    handling?_congr (htook.placed.ne i hi)
  have hnext : b'.nextTask = b.nextTask + started.length :=
    htook.placed.nextTask.trans hspawns.nextTask
  refine ⟨hself, hnext ▸ Nat.le_add_right _ _, fun i hi => ?_, fun i r hi hr => ?_⟩
  · by_cases hij : i = j
    · rw [hij, hself, hnone]
    · rw [hothers i hij, handling?_congr (hspawns.kept i hi)]
  · by_cases hij : i = j
    · rw [hij, hself] at hr
      cases hr
    · -- No registration had such a number before, so this one was started now.
      rw [hothers i hij, handling?_eq_some, hspawns.begun i hi, Option.or_eq_some_iff] at hr
      rcases hr with hk | ⟨-, hold⟩
      · obtain ⟨hlt, -⟩ := List.getElem?_eq_some_iff.mp hk
        exact ⟨hnext ▸ (Nat.sub_lt_iff_lt_add' hi).mp hlt,
          htook.acts.goes.begins _ (List.mem_of_getElem? hk)⟩
      · exact absurd (hbounded i r (handling?_eq_some.mpr hold)) (Nat.not_lt.mpr hi)

/-- What the registrations have done so far. -/
structure Kept (ts : List Step) (b : Bridge) : Prop where
  bounded : ∀ j r, b.handling? j = some r → j < b.nextTask
  steps_lt : ∀ t ∈ ts, ∀ r, t.before.handling? t.task = some r → t.task < b.nextTask
  underway : ∀ j r, b.handling? j = some r →
    told Step.call? j ts = r.phase.calls r.link r.message
  ended : ∀ t ∈ ts, ∀ l m o, t.before.handling? t.task = some ⟨l, m, .counting o⟩ →
    b.handling? t.task = none ∧ told Step.call? t.task ts = o.calls l m
  steady : ∀ t ∈ ts, ∀ r r', t.before.handling? t.task = some r → b.handling? t.task = some r' →
    r.errand = r'.errand
  same : ∀ t ∈ ts, ∀ t' ∈ ts, t.task = t'.task → ∀ r r', t.before.handling? t.task = some r →
    t'.before.handling? t'.task = some r' → r.errand = r'.errand

namespace Kept

theorem start (h : b.Unbegun) : Kept [] b where
  bounded j r hr := (h j r hr).1
  steps_lt := nofun
  underway j r hr := by
    rw [(h j r hr).2]
    rfl
  ended := nofun
  steady := nofun
  same := nofun

theorem apart (h : Kept ts b) (ha : b.Apart b') : Kept ts b' where
  bounded j r hr := by
    by_cases hj : j < b.nextTask
    · exact Nat.lt_of_lt_of_le hj ha.nextTask_le
    · exact (ha.begins j r (Nat.not_lt.mp hj) hr).1
  steps_lt t ht r hr := Nat.lt_of_lt_of_le (h.steps_lt t ht r hr) ha.nextTask_le
  underway j r hr := by
    by_cases hj : j < b.nextTask
    · exact h.underway j r (ha.kept j hj ▸ hr)
    · rw [(ha.begins j r (Nat.not_lt.mp hj) hr).2]
      -- A number that was not given before is in no turn so far.
      refine told_eq_nil _ fun t ht htask => ?_
      rw [Step.call?, Option.bind_eq_none_iff]
      intro r' hr'
      exact absurd (htask ▸ h.steps_lt t ht r' hr') hj
  ended t ht l m o ho := by
    rw [ha.kept t.task (h.steps_lt t ht _ ho)]
    exact h.ended t ht l m o ho
  steady t ht r r' hr hr' :=
    h.steady t ht r r' hr (ha.kept t.task (h.steps_lt t ht r hr) ▸ hr')
  same := h.same

theorem other_turn (h : Kept ts b) (hnone : b.handling? j = none) (ht : b.turn? n j = some b') :
    Kept (ts ++ [⟨j, n, b, b'⟩]) b' := by
  have h' := h.apart (turn?_other hnone h.bounded ht).2
  have htold (i : TaskId) : told Step.call? i (ts ++ [⟨j, n, b, b'⟩]) = told Step.call? i ts := by
    by_cases hi : j = i
    · have hcall : Step.call? ⟨j, n, b, b'⟩ = none := by
        rw [Step.call?, hnone]
        rfl
      rw [told_append_self Step.call? ts ⟨j, n, b, b'⟩ hi, hcall]
      exact List.append_nil _
    · exact told_append_of_ne Step.call? ts ⟨j, n, b, b'⟩ hi
  have hold {t : Step} (ht : t ∈ ts ++ [⟨j, n, b, b'⟩]) {r : Registration}
      (hr : t.before.handling? t.task = some r) : t ∈ ts := by
    rcases List.mem_append.mp ht with ht | ht
    · exact ht
    · rw [List.mem_singleton.mp ht, hnone] at hr
      cases hr
  refine ⟨h'.bounded, fun t ht r hr => h'.steps_lt t (hold ht hr) r hr, fun i r hr => ?_,
    fun t ht l m o ho => ?_, fun t ht r r' hr hr' => h'.steady t (hold ht hr) r r' hr hr',
    fun t ht t' ht' htask r r' hr hr' =>
      h'.same t (hold ht hr) t' (hold ht' hr') htask r r' hr hr'⟩
  · rw [htold]
    exact h'.underway i r hr
  · rw [htold]
    exact h'.ended t (hold ht ho) l m o ho

theorem mem_of_task_ne {t : Step} (ht : t ∈ ts ++ [⟨j, n, b, b'⟩]) (hne : t.task ≠ j) :
    t ∈ ts := by
  rcases List.mem_append.mp ht with ht | ht
  · exact ht
  · exact absurd (congrArg Step.task (List.mem_singleton.mp ht)) hne

/-- All turns of a task up to now are about what it handles now. -/
theorem errand_eq (h : Kept ts b) (hr : b.handling? j = some r) {t : Step}
    (ht : t ∈ ts ++ [⟨j, n, b, b'⟩]) (htask : t.task = j) {r₁ : Registration}
    (hr₁ : t.before.handling? t.task = some r₁) : r₁.errand = r.errand := by
  rcases List.mem_append.mp ht with ht | ht
  · exact h.steady t ht r₁ r hr₁ (htask ▸ hr)
  · rw [List.mem_singleton.mp ht] at hr₁
    exact congrArg Registration.errand (Option.some.inj (hr₁.symm.trans hr))

theorem told_own (h : Kept ts b) (hr : b.handling? j = some r) :
    told Step.call? j (ts ++ [⟨j, n, b, b'⟩]) =
      r.phase.calls r.link r.message ++ r.call?.toList := by
  have hcall : Step.call? ⟨j, n, b, b'⟩ = r.call? := by
    rw [Step.call?, hr]
    rfl
  rw [told_append_self Step.call? ts ⟨j, n, b, b'⟩ rfl, hcall, h.underway j r hr]

theorem own_turn (h : Kept ts b) (hr : b.handling? j = some r) (ht : b.turn? n j = some b') :
    Kept (ts ++ [⟨j, n, b, b'⟩]) b' := by
  obtain ⟨⟨hnext, hothers⟩, -, hown⟩ := turn?_registration hr ht
  have htold_ne (i : TaskId) (hi : i ≠ j) :
      told Step.call? i (ts ++ [⟨j, n, b, b'⟩]) = told Step.call? i ts :=
    told_append_of_ne Step.call? ts ⟨j, n, b, b'⟩ hi.symm
  have hlt := h.bounded j r hr
  refine ⟨?bounded, ?steps_lt, ?underway, ?ended, ?steady, ?same⟩
  case bounded =>
    intro i r' hr'
    rw [hnext]
    by_cases hi : i = j
    · exact hi ▸ hlt
    · exact h.bounded i r' (hothers i hi ▸ hr')
  case steps_lt =>
    intro t ht r' hr'
    rw [hnext]
    by_cases hi : t.task = j
    · exact hi ▸ hlt
    · exact h.steps_lt t (mem_of_task_ne ht hi) r' hr'
  case underway =>
    intro i r' hr'
    by_cases hi : i = j
    · subst hi
      rcases hown with ⟨r'', hr'', -, hcalls, -⟩ | ⟨hnone, -⟩
      · obtain rfl : r'' = r' := Option.some.inj (hr''.symm.trans hr')
        rw [h.told_own hr, hcalls]
      · rw [hnone] at hr'
        cases hr'
    · rw [htold_ne i hi]
      exact h.underway i r' (hothers i hi ▸ hr')
  case ended =>
    intro t ht l m o ho
    rcases List.mem_append.mp ht with ht | ht
    · -- A task that counted its outcome handles nothing, so this turn is another's.
      obtain ⟨hnone, hcalls⟩ := h.ended t ht l m o ho
      have hne : t.task ≠ j := by
        intro he
        rw [he, hr] at hnone
        cases hnone
      exact ⟨(hothers t.task hne).trans hnone, (htold_ne t.task hne).trans hcalls⟩
    · rw [List.mem_singleton.mp ht] at ho ⊢
      obtain rfl : r = ⟨l, m, .counting o⟩ := Option.some.inj (hr.symm.trans ho)
      rcases hown with ⟨-, -, -, -, hne⟩ | ⟨hnone, -⟩
      · exact absurd rfl (hne o)
      · exact ⟨hnone, (h.told_own hr).trans (List.append_nil _)⟩
  case steady =>
    intro t ht r₁ r₂ hr₁ hr₂
    by_cases hi : t.task = j
    · rw [hi] at hr₂
      rcases hown with ⟨r', hr', herrand, -⟩ | ⟨hnone, -⟩
      · obtain rfl : r' = r₂ := Option.some.inj (hr'.symm.trans hr₂)
        exact (h.errand_eq hr ht hi hr₁).trans herrand.symm
      · rw [hnone] at hr₂
        cases hr₂
    · exact h.steady t (mem_of_task_ne ht hi) r₁ r₂ hr₁ (hothers t.task hi ▸ hr₂)
  case same =>
    intro t ht t' ht' htask r₁ r₂ hr₁ hr₂
    by_cases hi : t.task = j
    · exact (h.errand_eq hr ht hi hr₁).trans (h.errand_eq hr ht' (htask ▸ hi) hr₂).symm
    · exact h.same t (mem_of_task_ne ht hi) t' (mem_of_task_ne ht' (htask ▸ hi)) htask r₁ r₂
        hr₁ hr₂

theorem turn (h : Kept ts b) (ht : b.turn? n j = some b') : Kept (ts ++ [⟨j, n, b, b'⟩]) b' := by
  cases hr : b.handling? j with
  | none => exact h.other_turn hr ht
  | some r => exact h.own_turn hr ht

end Kept

theorem kept_of_history {b₀ : Bridge} (hbegin : b₀.Unbegun)
    (h : History (fun _ => True) Apart b₀ ts b) : Kept ts b := by
  induction h with
  | start => exact .start hbegin
  | between _ ha ih => exact ih.apart ha
  | turn n _ _ ht ih => exact ih.turn ht

section
variable {b₀ : Bridge}

theorem performs_of_mem (h : History (fun _ => True) Apart b₀ ts b) {t : Step} (ht : t ∈ ts)
    {r : Registration} (hr : t.before.handling? t.task = some r) :
    t.after = { r.call?.elim t.before (Call.perform t.before) with
      tasks := t.after.tasks, queue := t.after.queue, meters := t.after.meters } :=
  (turn?_registration hr (h.turn_of_mem ht)).2.1

/-- A unit that is about to get its reply was filed in a turn before. -/
theorem filed_of_replying (hbegin : b₀.Unbegun) (h : History (fun _ => True) Apart b₀ ts b)
    {l : Link} {m : Message} {u : FieldUnit} (hr : b.handling? j = some ⟨l, m, .replying u⟩) :
    ∃ t ∈ ts, t.task = j ∧ t.after.roster = t.before.roster.register u := by
  have hmem : Call.file u ∈ told Step.call? j ts := by
    rw [(kept_of_history hbegin h).underway j _ hr]
    simp [Registration.Phase.calls]
  obtain ⟨t, ht, htask, hcall⟩ := (mem_told _).mp hmem
  obtain ⟨r, hr', hcall'⟩ := Option.bind_eq_some_iff.mp hcall
  have hafter := performs_of_mem h ht hr'
  rw [hcall'] at hafter
  exact ⟨t, ht, htask, congrArg Bridge.roster hafter⟩

/-- Only a reply is published, and it tells of the unit. -/
theorem published_of_turn (hr : b.handling? j = some r) (ht : b.turn? n j = some b') :
    b'.broker = b.broker ∨
      ∃ u subject, r.phase = .replying u ∧ r.message.reply = some subject ∧
        b'.broker = b.broker.deliver ⟨subject, none, Payload.ofText u.text⟩ := by
  have hbroker := congrArg Bridge.broker (turn?_registration hr ht).2.1
  obtain ⟨l, m, phase⟩ := r
  cases phase with
  | replying u =>
    cases hreply : m.reply with
    | none =>
      simp only [Registration.call?, hreply] at hbroker
      exact .inl hbroker
    | some subject =>
      simp only [Registration.call?, hreply, Option.map_some, Option.elim_some, Call.perform,
        Bridge.publish] at hbroker
      split at hbroker
      next => exact .inr ⟨u, subject, rfl, rfl, hbroker.trans (deliver_broker _ _)⟩
      next => exact .inl hbroker
  | reading => exact .inl hbroker
  | asking a => exact .inl hbroker
  | marking u => exact .inl hbroker
  | filing u => exact .inl hbroker
  | counting o => exact .inl hbroker

end

end Bridge
end FleetBridge
