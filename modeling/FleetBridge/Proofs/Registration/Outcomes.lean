import FleetBridge.Proofs.Registration.Calls

/-!
What registrations come to. Whoever handles an announcement comes to one outcome, once, and the unit
in it is built from the announcement. The task ends with that outcome, and what it asked of the
directory, the status log, the roster and the bus is all that the outcome calls for and no more.
-/
namespace FleetBridge

namespace Registration

/-- The outcome that is counted in the next turn. -/
def concluded? (r : Registration) : Option Outcome :=
  match r.phase with
  | .counting o => some o
  | _ => none

theorem concluded?_eq_some {r : Registration} {o : Outcome} :
    r.concluded? = some o ↔ r.phase = .counting o := by
  unfold concluded?
  split
  next o' h => simp [h]
  next h =>
    simp only [reduceCtorEq, false_iff]
    exact h o

/-- A unit is what an announcement tells, with an event. -/
def BuiltFrom (m : Message) (u : FieldUnit) : Prop :=
  ∃ a e, Announcement.ofPayload m.payload = .ok a ∧ u = a.attach e

/-- What is known of the announcement in a phase. -/
def Phase.Follows (m : Message) : Phase → Prop
  | reading => True
  | asking a => Announcement.ofPayload m.payload = .ok a
  | marking u => BuiltFrom m u
  | filing u => BuiltFrom m u
  | replying u => BuiltFrom m u
  | counting o => ∀ u, o = .registered u → BuiltFrom m u

theorem follows_next {r r' : Registration} {b b' : Bridge} (h : r.turn b = .next r' b')
    (hf : r.phase.Follows r.message) : r'.phase.Follows r'.message := by
  obtain ⟨l, m, phase⟩ := r
  cases phase with
  | reading =>
    unfold turn at h
    dsimp only at h
    split at h
    next a ha =>
      cases h
      exact ha
    next =>
      cases h
      exact nofun
  | asking a =>
    cases h
    change (answered a (b.directory.find a.unitId)).Follows m
    unfold answered
    split
    next e _ => exact ⟨a, e, hf, rfl⟩
    next => exact nofun
    next => exact nofun
  | marking u =>
    cases h
    exact hf
  | filing u =>
    cases h
    exact hf
  | replying u =>
    cases h
    intro v hv
    cases hv
    exact hf
  | counting o => cases h

end Registration

namespace Bridge
open Registration (Call Outcome)

variable {b b' b₀ : Bridge} {j : TaskId} {r : Registration} {n : Nat} {ts : List Step}

/-- The outcome that a registration comes to in a turn. -/
def Step.outcome? (t : Step) : Option Outcome :=
  (t.before.handling? t.task).bind Registration.concluded?

theorem handling?_of_mem_told {o : Outcome} (h : o ∈ told Step.outcome? j ts) :
    ∃ t ∈ ts, t.task = j ∧ ∃ r, t.before.handling? j = some r ∧ r.phase = .counting o := by
  obtain ⟨t, ht, rfl, ho⟩ := (mem_told _).mp h
  obtain ⟨r, hr, hphase⟩ := Option.bind_eq_some_iff.mp ho
  exact ⟨t, ht, rfl, r, hr, Registration.concluded?_eq_some.mp hphase⟩

/-- A registration under way has come to no outcome yet. -/
theorem told_outcome_underway (hbegin : b₀.Unbegun) (h : History (fun _ => True) Apart b₀ ts b)
    (hr : b.handling? j = some r) : told Step.outcome? j ts = [] := by
  refine List.eq_nil_iff_forall_not_mem.mpr fun o ho => ?_
  obtain ⟨t, ht, rfl, r', hr', hphase⟩ := handling?_of_mem_told ho
  obtain ⟨l, m, phase⟩ := r'
  obtain rfl : phase = .counting o := hphase
  have hnone := ((kept_of_history hbegin h).ended t ht l m o hr').1
  rw [hr] at hnone
  cases hnone

/-- Nobody comes to two outcomes. -/
theorem told_outcome_once (hbegin : b₀.Unbegun) (h : History (fun _ => True) Apart b₀ ts b)
    {o : Outcome} (ho : o ∈ told Step.outcome? j ts) : told Step.outcome? j ts = [o] := by
  induction h with
  | start => cases ho
  | between _ _ ih => exact ih ho
  | @turn ts i b b' n hbefore _ _ ih =>
    by_cases hi : i = j
    · rw [told_append_self Step.outcome? ts ⟨i, n, b, b'⟩ hi] at ho ⊢
      cases houtcome : Step.outcome? ⟨i, n, b, b'⟩ with
      | none =>
        rw [houtcome] at ho
        rw [Option.toList_none, List.append_nil] at ho ⊢
        exact ih ho
      | some o' =>
        obtain ⟨r', hr', -⟩ := Option.bind_eq_some_iff.mp houtcome
        have hnil := told_outcome_underway hbegin hbefore (hi ▸ hr' : b.handling? j = some r')
        rw [houtcome] at ho
        rw [hnil] at ho ⊢
        rw [List.mem_singleton.mp ho]
        rfl
    · rw [told_append_of_ne Step.outcome? ts ⟨i, n, b, b'⟩ hi] at ho ⊢
      exact ih ho

/-- Whatever turn a registration takes, either it goes on or it comes to its outcome. -/
theorem outcome?_of_turn? (hr : b.handling? j = some r) (ht : b.turn? n j = some b') :
    ((∃ r', b'.handling? j = some r' ∧ r'.errand = r.errand) ∧
        Step.outcome? ⟨j, n, b, b'⟩ = none) ∨
      b'.handling? j = none ∧ ∃ o, Step.outcome? ⟨j, n, b, b'⟩ = some o := by
  have houtcome : Step.outcome? ⟨j, n, b, b'⟩ = r.concluded? := by
    rw [Step.outcome?, hr]
    rfl
  obtain ⟨-, -, ⟨r', hr', herrand, -, hne⟩ | ⟨hnone, o, ho, -⟩⟩ := turn?_registration hr ht
  · refine .inl ⟨⟨r', hr', herrand⟩, ?_⟩
    rw [houtcome]
    refine Option.eq_none_iff_forall_ne_some.mpr fun o ho => ?_
    exact hne o (Registration.concluded?_eq_some.mp ho)
  · exact .inr ⟨hnone, o, houtcome.trans (Registration.concluded?_eq_some.mpr ho)⟩

/-- What is handled in a task changes in its own turns only. -/
theorem handling?_of_turn? (hbounded : ∀ i r, b.handling? i = some r → i < b.nextTask)
    (ht : b.turn? n j = some b') : b.nextTask ≤ b'.nextTask ∧ ∀ k < b.nextTask,
      b'.handling? k = b.handling? k ∨ k = j ∧ ∃ r, b.handling? j = some r ∧
        ((∃ r', b'.handling? j = some r' ∧ r'.errand = r.errand) ∨
          b'.handling? j = none ∧ ∃ o, Step.outcome? ⟨j, n, b, b'⟩ = some o) := by
  cases hj : b.handling? j with
  | none =>
    have hother := (turn?_other hj hbounded ht).2
    exact ⟨hother.nextTask_le, fun k hk => .inl (hother.kept k hk)⟩
  | some r =>
    obtain ⟨hnext, hkept⟩ := (turn?_registration hj ht).1
    refine ⟨Nat.le_of_eq hnext.symm, fun k _ => ?_⟩
    by_cases hk : k = j
    · refine .inr ⟨hk, r, rfl, ?_⟩
      exact (outcome?_of_turn? hj ht).imp And.left fun h => h
    · exact .inl (hkept k hk)

/-- Whoever has taken turns and handles nothing any more has come to one outcome. -/
theorem told_outcome_of_done (hbegin : b₀.Unbegun) (h : History (fun _ => True) Apart b₀ ts b)
    {t : Step} (ht : t ∈ ts) (hr : t.before.handling? t.task ≠ none)
    (hnone : b.handling? t.task = none) : ∃ o, told Step.outcome? t.task ts = [o] := by
  suffices hmem : ∃ o, o ∈ told Step.outcome? t.task ts by
    obtain ⟨o, ho⟩ := hmem
    exact ⟨o, told_outcome_once hbegin h ho⟩
  induction h with
  | start => cases ht
  | between hbefore ha ih =>
    obtain ⟨r, hr'⟩ := Option.ne_none_iff_exists'.mp hr
    refine ih ht ?_
    rw [← ha.kept _ ((kept_of_history hbegin hbefore).steps_lt t ht r hr')]
    exact hnone
  | @turn ts j b b' n hbefore _ hturn ih =>
    have hkept := kept_of_history hbegin hbefore
    obtain ⟨r, hr'⟩ := Option.ne_none_iff_exists'.mp hr
    have hcases : t ∈ ts ∨ t.task = j ∧ b.handling? j = some r := by
      rcases List.mem_append.mp ht with hmem | hmem
      · exact .inl hmem
      · rw [List.mem_singleton.mp hmem] at hr' ⊢
        exact .inr ⟨rfl, hr'⟩
    have hlt : t.task < b.nextTask := by
      rcases hcases with hmem | ⟨htask, hhandling⟩
      · exact hkept.steps_lt t hmem r hr'
      · exact htask ▸ hkept.bounded j r hhandling
    rcases (handling?_of_turn? hkept.bounded hturn).2 t.task hlt with
      hsame | ⟨htask, r₀, -, ⟨r', hgoes, -⟩ | ⟨-, o, ho⟩⟩
    · rcases hcases with hmem | ⟨htask, hhandling⟩
      · obtain ⟨o, ho⟩ := ih hmem (hsame ▸ hnone)
        exact ⟨o, told_subset_append Step.outcome? ts _ ho⟩
      · rw [hsame, htask, hhandling] at hnone
        cases hnone
    · rw [htask, hgoes] at hnone
      cases hnone
    · exact ⟨o, (mem_told _).mpr
        ⟨_, List.mem_append_right _ (List.mem_singleton_self _), htask.symm, ho⟩⟩

/-- What a registration goes on with follows from its announcement. -/
theorem follows_turn? (hr : b.handling? j = some r) (hf : r.phase.Follows r.message)
    (ht : b.turn? n j = some b') {r' : Registration} (hr' : b'.handling? j = some r') :
    r'.phase.Follows r'.message := by
  obtain ⟨p, hp, hturn⟩ := turn?_eq_some ht
  rw [handling?_eq_some.mp hr] at hp
  cases hp
  rw [handling?_eq_some] at hr'
  rcases hturn with ⟨p', b₁, hnext, hplaced⟩ | ⟨e, b₁, -, hplaced⟩
  · rw [hplaced.self] at hr'
    cases hr'
    rw [Program.turn] at hnext
    cases hown : r.turn b with
    | wait =>
      rw [hown] at hnext
      cases hnext
    | next r₁ b₂ =>
      rw [hown] at hnext
      cases hnext
      exact Registration.follows_next hown hf
    | done o b₂ =>
      rw [hown] at hnext
      cases hnext
  · rw [hplaced.self] at hr'
    cases hr'

/-- In every history units are built from the announcements that are handled. -/
theorem follows_of_history (hbegin : b₀.Unbegun) (h : History (fun _ => True) Apart b₀ ts b) :
    (∀ j r, b.handling? j = some r → r.phase.Follows r.message) ∧
      ∀ t ∈ ts, ∀ r, t.before.handling? t.task = some r → r.phase.Follows r.message := by
  induction h with
  | start =>
    refine ⟨fun j r hr => ?_, nofun⟩
    rw [(hbegin j r hr).2]
    trivial
  | @between ts b b' hbefore ha ih =>
    refine ⟨fun j r hr => ?_, ih.2⟩
    by_cases hj : j < b.nextTask
    · exact ih.1 j r (ha.kept j hj ▸ hr)
    · rw [(ha.begins j r (Nat.not_lt.mp hj) hr).2]
      trivial
  | @turn ts i b b' n hbefore _ ht ih =>
    refine ⟨fun j r hr => ?_, fun t hmem r hr => ?_⟩
    · cases hi : b.handling? i with
      | none =>
        have hother := (turn?_other hi (kept_of_history hbegin hbefore).bounded ht).2
        by_cases hj : j < b.nextTask
        · exact ih.1 j r (hother.kept j hj ▸ hr)
        · rw [(hother.begins j r (Nat.not_lt.mp hj) hr).2]
          trivial
      | some r₀ =>
        by_cases hj : j = i
        · subst hj
          exact follows_turn? hi (ih.1 j r₀ hi) ht hr
        · exact ih.1 j r ((turn?_registration hi ht).1.2 j hj ▸ hr)
    · rcases List.mem_append.mp hmem with hmem | hmem
      · exact ih.2 t hmem r hr
      · rw [List.mem_singleton.mp hmem] at hr
        exact ih.1 i r hr

/-! All or nothing. -/

/-- Whoever takes turns and handles nothing any more ended with an outcome. -/
theorem exit_of_done (hbegin : b₀.Unbegun) (h : History (fun _ => True) Apart b₀ ts b) {t : Step}
    (ht : t ∈ ts) (hr : t.before.handling? t.task ≠ none) (hnone : b.handling? t.task = none) :
    ∃ t' ∈ ts, t'.task = t.task ∧ t'.before.handling? t'.task ≠ none ∧
      ∃ o, t'.after.program? t'.task = some (.finished (.registered o)) := by
  obtain ⟨o, ho⟩ := told_outcome_of_done hbegin h ht hr hnone
  have hmem : o ∈ told Step.outcome? t.task ts := by
    rw [ho]
    exact List.mem_singleton_self o
  obtain ⟨t', ht', htask, r, hr', hphase⟩ := handling?_of_mem_told hmem
  rw [← htask] at hr'
  refine ⟨t', ht', htask, ?_, o, (exit_iff_counting hr' (h.turn_of_mem ht')).mpr hphase⟩
  rw [hr']
  exact Option.some_ne_none r

/-- A task that ends with an outcome has made the calls for it, in their order, and no others. -/
theorem calls_of_exit (hbegin : b₀.Unbegun) (h : History (fun _ => True) Apart b₀ ts b) {t : Step}
    (ht : t ∈ ts) (hr : t.before.handling? t.task = some r) {o : Outcome}
    (he : t.after.program? t.task = some (.finished (.registered o))) :
    told Step.call? t.task ts = o.calls r.link r.message := by
  have hphase := (exit_iff_counting hr (h.turn_of_mem ht)).mp he
  obtain ⟨l, m, phase⟩ := r
  obtain rfl : phase = .counting o := hphase
  exact ((kept_of_history hbegin h).ended t ht l m o hr).2

/-- Without a unit in the end all that was asked for is the lookup. -/
theorem eq_find_of_mem_calls {l : Link} {m : Message} {o : Outcome} {c : Call}
    (hnone : o.unit? = none) (hc : c ∈ o.calls l m) : ∃ id, c = .find id := by
  cases o with
  | registered u => cases hnone
  | malformed => cases hc
  | unresolved id => exact ⟨id, List.mem_singleton.mp hc⟩
  | lookupFailed id => exact ⟨id, List.mem_singleton.mp hc⟩

/-- Turns of a task that makes no other calls than lookups leave no trace. -/
theorem unchanged_of_calls (h : History (fun _ => True) Apart b₀ ts b)
    (hcalls : ∀ c ∈ told Step.call? j ts, ∃ id, c = .find id) {t : Step} (ht : t ∈ ts)
    (htask : t.task = j) (hr : t.before.handling? t.task = some r) :
    t.after.roster = t.before.roster ∧ t.after.statuses = t.before.statuses ∧
      t.after.broker = t.before.broker := by
  have hafter := performs_of_mem h ht hr
  cases hcall : r.call? with
  | none =>
    rw [hcall] at hafter
    rw [hafter]
    exact ⟨rfl, rfl, rfl⟩
  | some c =>
    have hmem : c ∈ told Step.call? j ts := by
      refine (mem_told _).mpr ⟨t, ht, htask, ?_⟩
      rw [Step.call?, hr]
      exact hcall
    obtain ⟨id, rfl⟩ := hcalls c hmem
    rw [hcall] at hafter
    rw [hafter]
    exact ⟨rfl, rfl, rfl⟩

/-- Registrations are all or nothing, and nobody gets a reply before he is on the roster. -/
structure AllOrNothing (ts : List Step) (b : Bridge) : Prop where
  /-- Turns show what their calls do and nothing else. -/
  performs : ∀ t ∈ ts, ∀ r, t.before.handling? t.task = some r →
    t.after = { r.call?.elim t.before (Call.perform t.before) with
      tasks := t.after.tasks, queue := t.after.queue, meters := t.after.meters }
  underway : ∀ j r, b.handling? j = some r →
    told Step.call? j ts = r.phase.calls r.link r.message
  /-- A registration that is over has left an outcome as its task's exit. -/
  leaves : ∀ t ∈ ts, t.before.handling? t.task ≠ none → b.handling? t.task = none →
    ∃ t' ∈ ts, t'.task = t.task ∧ t'.before.handling? t'.task ≠ none ∧
      ∃ o, t'.after.program? t'.task = some (.finished (.registered o))
  /-- Whoever ends with an outcome has made the calls for it, in their order, and no others. -/
  ended : ∀ t ∈ ts, ∀ r, t.before.handling? t.task = some r → ∀ o,
    t.after.program? t.task = some (.finished (.registered o)) →
    told Step.call? t.task ts = o.calls r.link r.message
  same : ∀ t ∈ ts, ∀ t' ∈ ts, t.task = t'.task → ∀ r r', t.before.handling? t.task = some r →
    t'.before.handling? t'.task = some r' → r.errand = r'.errand
  /-- Whoever ends without being registered leaves no trace at any time. -/
  refused : ∀ t ∈ ts, ∀ r, t.before.handling? t.task = some r → ∀ o,
    t.after.program? t.task = some (.finished (.registered o)) → o.unit? = none →
    ∀ t' ∈ ts, t'.task = t.task → t'.before.handling? t'.task ≠ none →
      t'.after.roster = t'.before.roster ∧ t'.after.statuses = t'.before.statuses ∧
        t'.after.broker = t'.before.broker
  /-- What a registration publishes tells of a unit that it filed before. -/
  answered : ∀ ts₁ t, ts₁ ++ [t] <+: ts → ∀ r, t.before.handling? t.task = some r →
    t.after.broker = t.before.broker ∨
      ∃ u subject, r.message.reply = some subject ∧
        t.after.broker = t.before.broker.deliver ⟨subject, none, Payload.ofText u.text⟩ ∧
        ∃ t' ∈ ts₁, t'.task = t.task ∧ t'.after.roster = t'.before.roster.register u

/-- The handling of announcements side by side, whatever the services answer and whatever else goes
on in between. -/
theorem registers_all_or_nothing (hbegin : b₀.Unbegun)
    (h : History (fun _ => True) Apart b₀ ts b) : AllOrNothing ts b := by
  have hkept := kept_of_history hbegin h
  refine {
    performs := fun t ht r hr => performs_of_mem h ht hr
    underway := hkept.underway
    leaves := fun t ht hr hnone => exit_of_done hbegin h ht hr hnone
    ended := fun t ht r hr o he => calls_of_exit hbegin h ht hr he
    same := hkept.same
    refused := fun t ht r hr o he hnone t' ht' htask hr' => ?refused
    answered := fun ts₁ t ht r hr => ?answered }
  case refused =>
    obtain ⟨r', hr'⟩ := Option.ne_none_iff_exists'.mp hr'
    refine unchanged_of_calls h (fun c hc => ?_) ht' htask hr'
    rw [calls_of_exit hbegin h ht hr he] at hc
    exact eq_find_of_mem_calls hnone hc
  case answered =>
    obtain ⟨hbefore, hturn⟩ := h.of_prefix ht
    obtain hsame | ⟨u, subject, hphase, hreply, hbroker⟩ := published_of_turn hr hturn
    · exact .inl hsame
    · obtain ⟨l, m, phase⟩ := r
      obtain rfl : phase = .replying u := hphase
      exact .inr ⟨u, subject, hreply, hbroker, filed_of_replying hbegin hbefore hr⟩

/-- Two announcements, of which one tells no unit. -/
def twoAnnounced : Bridge :=
  let b := start [("U1", ⟨7, "trial", "yard", "endurance"⟩)] (.start 0 0) 0
  let known := Payload.ofText "\x7b\"unit_id\":\"U1\"\x7d"
  let b := (b.spawn (.registration (.start (.working 0) ⟨"U1.register_unit", some "r1", known⟩))).2
  (b.spawn (.registration (.start (.working 0)
    ⟨"U2.register_unit", some "r2", Payload.ofText "null"⟩))).2

theorem unbegun_twoAnnounced : twoAnnounced.Unbegun := by
  intro j r hr
  rw [handling?_eq_some, program?, twoAnnounced] at hr
  change (if j = 0 then _ else if j = 1 then _ else none) = _ at hr
  split at hr
  next hj =>
    cases hr
    exact ⟨hj ▸ Nat.zero_lt_two, rfl⟩
  next =>
    split at hr
    next hj =>
      cases hr
      exact ⟨hj ▸ Nat.one_lt_two, rfl⟩
    next => cases hr

/-- One unit is registered and gets its reply, and the other announcement leaves no trace. -/
theorem twoAnnounced_registers : ∃ ts b, History (fun _ => True) Apart twoAnnounced ts b ∧
    AllOrNothing ts b ∧
    b.program? 0 = some (.finished (.registered
      (.registered ⟨"U1", 7, "trial", "yard", "endurance", []⟩))) ∧
    b.program? 1 = some (.finished (.registered .malformed)) ∧ b.roster.size = 1 ∧
    b.statuses.updates = [(7, .live)] ∧ b.broker.journal.length = 1 := by
  have hstart : History (fun _ => True) Apart twoAnnounced [] _ := .start
  have hall := hstart.played [0, 1, 0, 0, 1, 0, 0, 0] (fun _ _ => trivial) (by decide +kernel)
  exact ⟨_, _, hall, registers_all_or_nothing unbegun_twoAnnounced hall, rfl, rfl,
    by decide +kernel, by decide +kernel, by decide +kernel⟩

end Bridge
end FleetBridge
