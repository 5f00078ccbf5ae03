import FleetBridge.Proofs.Bridge.History
import FleetBridge.Proofs.Telemetry.Charge

/-!
Passes of a refresher, while dispatchers take turns, streams are closed, subscriptions are refused
and the bus goes down and up. Each pass tells exactly which subjects it found without a dispatcher.
-/
namespace FleetBridge

variable {b b' : Bridge} {i j : TaskId} {n : Nat} {subject : String}

theorem Profile.nodup_subjects {p : Profile} (h : p.unitIds.Nodup) : p.subjects.Nodup := by
  refine h.map fun u v he => ?_
  unfold Subject.telemetry at he
  rw [String.append_left_inj, String.append_left_inj, String.append_left_inj] at he
  exact he

/-- Whether a task starts dispatchers of its own. -/
def Program.refreshes : Program → Bool
  | refreshing _ => true
  | worker _ => true
  | _ => false

/-- Who does not refresh a channel starts no dispatcher. -/
theorem Program.Goes.forwards_eq_false {p p' : Program} {started : List Program}
    {k : Broker} (h : p.Goes b k p' started) (hp : p.refreshes = false) :
    ∀ q ∈ started, q.forwards = false := by
  intro q hq
  cases h with
  | listener hkeeps =>
    have hnone := hkeeps.dispatchers_eq
    exact Bool.eq_false_iff.mpr (List.countP_eq_zero.mp hnone q hq)
  | refreshing => cases hp
  | worker => cases hp
  | control hgoes => exact Bool.eq_false_iff.mpr (List.countP_eq_zero.mp hgoes.dispatchers_eq q hq)
  | @supervisor s =>
    exact Bool.eq_false_iff.mpr (List.countP_eq_zero.mp s.dispatchers_programs q hq)
  | _ => cases hq

namespace Refresher

variable {r r' : Refresher} {report report' : RefreshReport}

/-! Passes and what may come in between. -/

/-- One visit of a pass, with the refresher and the bridge before and after it. -/
structure Visit where
  subject : String
  before : Refresher × Bridge
  after : Refresher × Bridge

/-- A pass with the subjects that it has not reached yet, its visits and its report so far. -/
structure Pass where
  rest : List String
  visits : List Visit
  report : RefreshReport

def Pass.start (p : Profile) : Pass := ⟨p.subjects, [], .empty⟩

structure Stage where
  refresher : Refresher
  bridge : Bridge
  /-- The pass that is under way. -/
  pass : Option Pass
  /-- The passes that were completed, in their order. -/
  passes : List Pass

/-- What others do leaves the dispatchers and the meter alone. Streams may be closed, connections
lost, subscriptions refused, messages published and tokens fired at will. -/
structure Beside (b b' : Bridge) : Prop where
  dispatchers : ∀ j d, b'.program? j = some (.dispatcher d) ↔ b.program? j = some (.dispatcher d)
  ended : ∀ j < b.nextTask, b'.isRunning j = true → b.isRunning j = true
  nextTask : b.nextTask ≤ b'.nextTask
  owned : b.Owned → b'.Owned
  gauge : b'.meters.subscriptions = b.meters.subscriptions
  attended : ∀ j d, b.program? j = some (.dispatcher d) →
    ∀ s, b.broker.Attended d.stream s → b'.broker.Attended d.stream s

/-- What may come next; `calm` says when a dispatcher may take a turn. -/
inductive Move (calm : Dispatcher → Bridge → Prop) : Stage → Stage → Prop
  | begin {r : Refresher} {b : Bridge} {xs : List Pass} :
    Move calm ⟨r, b, none, xs⟩ ⟨r, b, some (.start r.profile), xs⟩
  | visit {subject : String} {rest : List String} {visits : List Visit}
    {report report' : RefreshReport} {r r' : Refresher} {b b' : Bridge} {xs : List Pass} :
    Refresher.visit subject (r, report, b) = (r', report', b') →
    Move calm ⟨r, b, some ⟨subject :: rest, visits, report⟩, xs⟩
      ⟨r', b', some ⟨rest, visits ++ [⟨subject, (r, b), (r', b')⟩], report'⟩, xs⟩
  | finish {r : Refresher} {b : Bridge} {x : Pass} {xs : List Pass} : x.rest = [] →
    Move calm ⟨r, b, some x, xs⟩ ⟨r, b, none, xs ++ [x]⟩
  | turn {r : Refresher} {b b' : Bridge} {x : Option Pass} {xs : List Pass} {i : TaskId} {n : Nat}
    {p : Program} : b.program? i = some p → p.refreshes = false →
    (∀ d, p = .dispatcher d → calm d b) → b.turn? n i = some b' →
    Move calm ⟨r, b, x, xs⟩ ⟨r, b', x, xs⟩
  | beside {r : Refresher} {b b' : Bridge} {x : Option Pass} {xs : List Pass} : Beside b b' →
    Move calm ⟨r, b, x, xs⟩ ⟨r, b', x, xs⟩

/-- Any dispatcher may take a turn at any time. -/
abbrev AnyMove : Stage → Stage → Prop := Move fun _ _ => True

/-- No dispatcher is told to stop or finds its stream over. -/
abbrev CalmMove : Stage → Stage → Prop := Move Bridge.Unharmed

def Stage.start (r : Refresher) (b : Bridge) : Stage := ⟨r, b, none, []⟩

/-! What a visit does. -/

namespace Visit

/-- Whether the refresher had no running dispatcher for the subject. -/
def missing (v : Visit) : Bool := !v.before.1.serves v.before.2 v.subject

/-- Whether a subscription would be granted. -/
def granted (v : Visit) : Bool := (v.before.2.subscribe v.before.1.link v.subject).1.isOk

def creates (v : Visit) : Bool := v.missing && v.granted

def fails (v : Visit) : Bool := v.missing && !v.granted

/-- A visit finds out whether a dispatcher runs, starts one if none does, and otherwise or if the
subscription fails changes nothing. -/
structure Exact (v : Visit) : Prop where
  missing_iff : v.missing = true ↔ ¬v.before.2.IsServed v.subject
  created : v.creates = true → v.after.2.IsServed v.subject
  unchanged : v.creates = false → v.after = v.before

end Visit

/-- What a pass over the subjects of a channel did, in their order. -/
structure Pass.Exact (p : Profile) (x : Pass) : Prop where
  visited : x.visits.map Visit.subject ++ x.rest = p.subjects
  created : x.report.created = (x.visits.filter Visit.creates).map Visit.subject
  failed : x.report.failed = (x.visits.filter Visit.fails).map Visit.subject
  visits : ∀ v ∈ x.visits, v.Exact

/-- A pass that found a dispatcher for every subject, asked for no subscription and changed
nothing. -/
structure Pass.Idle (x : Pass) : Prop where
  report : x.report = .empty
  served : ∀ v ∈ x.visits, v.missing = false
  unchanged : ∀ v ∈ x.visits, v.after = v.before

theorem visit_report (h : visit subject (r, report, b) = (r', report', b')) :
    let v : Visit := ⟨subject, (r, b), (r', b')⟩
    report'.created = report.created ++ ([v].filter Visit.creates).map Visit.subject ∧
      report'.failed = report.failed ++ ([v].filter Visit.fails).map Visit.subject ∧
      (v.creates = false → v.after = v.before) := by
  have hcreates (v : Visit) : v.creates = (v.missing && v.granted) := rfl
  have hfails (v : Visit) : v.fails = (v.missing && !v.granted) := rfl
  have hmissing (x : Refresher × Bridge) :
      (⟨subject, (r, b), x⟩ : Visit).missing = !r.serves b subject := rfl
  have hgranted (x : Refresher × Bridge) :
      (⟨subject, (r, b), x⟩ : Visit).granted = (b.subscribe r.link subject).1.isOk := rfl
  dsimp only
  rcases visit_cases h with ⟨hserves, rfl, rfl, rfl⟩ | ⟨hserves, ⟨f, hsub⟩, rfl, rfl, rfl⟩ |
    ⟨hserves, ⟨b₁, hsub⟩, rfl, rfl, -⟩
  · simp [hcreates, hfails, hmissing, hserves]
  · simp [hcreates, hfails, hmissing, hgranted, hserves, hsub, Except.isOk, Except.toBool]
  · simp [hcreates, hfails, hmissing, hgranted, hserves, hsub, Except.isOk, Except.toBool]

/-- After a visit the subject is served, unless the subscription failed and this is reported. -/
theorem visit_serves (h : visit subject (r, report, b) = (r', report', b')) :
    r'.serves b' subject = true ∨
      (∃ f, b.subscribe r.link subject = (.error f, b)) ∧ subject ∈ report'.failed := by
  rcases visit_cases h with ⟨hserves, rfl, rfl, rfl⟩ | ⟨-, hsub, rfl, rfl, rfl⟩ |
    ⟨-, -, rfl, -, hdoes, -⟩
  · exact .inl hserves
  · exact .inr ⟨hsub, List.mem_append_right _ (List.mem_singleton_self _)⟩
  · have hself : b'.program? b.nextTask =
        some (.dispatcher (r.dispatcher b.broker.nextStream)) := by
      rw [hdoes.begun _ (Nat.le_refl _), Nat.sub_self]
      rfl
    rw [serves, Table.get?_put_self]
    exact .inl (Bridge.isRunning_eq_true.mpr ⟨_, hself, rfl⟩)

/-! What every move keeps. -/

/-- The refresher's files agree with the dispatchers that run. -/
structure Kept (p : Profile) (g : Int64) (r : Refresher) (b : Bridge) : Prop where
  owned : b.Owned
  profile : r.profile = p
  charges : ∀ j d, b.program? j = some (.dispatcher d) → r.Charge b j d
  filed_lt : ∀ s i, r.dispatchers.get? s = some i → i < b.nextTask
  filed : ∀ s i, r.dispatchers.get? s = some i → b.isRunning i = true →
    ∃ d, b.program? i = some (.dispatcher d) ∧ b.broker.Attended d.stream s
  tallied : b.Tallied g

namespace Kept

variable {p : Profile} {g : Int64}

theorem start (r : Refresher) (ho : b.Owned) (hnone : b.forwarders = [])
    (hr : r.dispatchers = []) : Kept r.profile b.meters.subscriptions r b where
  owned := ho
  profile := rfl
  charges j d hd := by
    have hmem := ho.mem_forwarders.mpr ⟨d, hd⟩
    rw [hnone] at hmem
    cases hmem
  filed_lt s i hi := by
    rw [hr] at hi
    cases hi
  filed s i hi := by
    rw [hr] at hi
    cases hi
  tallied := (Bridge.tallied_iff_of_nil hnone).mpr rfl

theorem serves_iff (h : Kept p g r b) : r.serves b subject = true ↔ b.IsServed subject := by
  rw [serves, Option.any_eq_true]
  constructor
  · rintro ⟨i, hi, hrunning⟩
    obtain ⟨d, hd, ha⟩ := h.filed subject i hi hrunning
    exact ⟨i, d, hd, ha⟩
  · rintro ⟨j, d, hd, ha⟩
    exact ⟨j, (h.charges j d hd).get?_of_attended ha, Bridge.isRunning_eq_true.mpr ⟨_, hd, rfl⟩⟩

theorem turn (h : Kept p g r b) {q : Program} (hq : b.program? i = some q)
    (hrefreshes : q.refreshes = false) (ht : b.turn? n i = some b') : Kept p g r b' := by
  obtain ⟨q₁, q', started, b₁, hq₁, htook⟩ := Bridge.turn?_took ht
  obtain rfl : q₁ = q := Option.some.inj (hq₁.symm.trans hq)
  have hm := htook.moved h.owned hq
  have hle : b.nextTask ≤ b'.nextTask := hm.nextTask ▸ Nat.le_add_right _ _
  refine ⟨hm.owned h.owned, h.profile, fun j d hd => ?charges,
    fun s k hk => Nat.lt_of_lt_of_le (h.filed_lt s k hk) hle, fun s k hk hrunning => ?filed,
    h.tallied.turn h.owned ht⟩
  case charges =>
    rcases hm.dispatcher_cases htook.goes h.owned hd with
      ⟨d', hd', hprofile, hstream, ha⟩ | ⟨k, -, hk⟩
    · exact (h.charges j d' hd').mono ⟨hprofile, hstream⟩ ha
    · have hnone := htook.goes.forwards_eq_false hrefreshes _ (List.mem_of_getElem? hk)
      cases hnone
  case filed =>
    have hrunning₀ : b.isRunning k = true := by
      by_cases hne : k = i
      · exact hne ▸ Bridge.isRunning_of_turn? ht
      · rw [Bridge.isRunning, ← hm.kept k (h.filed_lt s k hk) hne]
        exact hrunning
    obtain ⟨d, hd, ha⟩ := h.filed s k hk hrunning₀
    by_cases hne : k = i
    · subst hne
      obtain rfl : q₁ = .dispatcher d := Option.some.inj (hq.symm.trans hd)
      have hgoes := htook.goes
      cases hgoes with
      | aside haside => cases haside
      | dispatcher hkept => exact ⟨_, hm.self, hkept s ha⟩
      | finished =>
        rw [Bridge.isRunning, hm.self] at hrunning
        cases hrunning
    · exact ⟨d, (hm.kept k (h.filed_lt s k hk) hne).trans hd,
        (hm.spares h.owned hd hne (List.mem_singleton_self _)).attended s ha⟩

theorem beside (h : Kept p g r b) (hb : Beside b b') : Kept p g r b' where
  owned := hb.owned h.owned
  profile := h.profile
  charges j d hd := by
    have hold := (hb.dispatchers j d).mp hd
    exact (h.charges j d hold).mono ⟨rfl, rfl⟩ (hb.attended j d hold)
  filed_lt s k hk := Nat.lt_of_lt_of_le (h.filed_lt s k hk) hb.nextTask
  filed s k hk hrunning := by
    obtain ⟨d, hd, ha⟩ := h.filed s k hk (hb.ended k (h.filed_lt s k hk) hrunning)
    exact ⟨d, (hb.dispatchers k d).mpr hd, hb.attended k d hd s ha⟩
  tallied := h.tallied.congr h.owned (hb.owned h.owned) hb.gauge hb.dispatchers

/-- A dispatcher on a new stream for a subject that was not served. -/
theorem started (h : Kept p g r b) (hmem : subject ∈ p.subjects)
    (hserves : r.serves b subject = false)
    (hdoes : Bridge.Does [] [] [.dispatcher (r.dispatcher b.broker.nextStream)] 0 1 b b')
    (hbroker : b'.broker = (b.broker.subscribe subject).2) (ho : b'.Owned) :
    Kept p g { r with dispatchers := r.dispatchers.put subject b.nextTask } b' := by
  have hself : b'.program? b.nextTask =
      some (.dispatcher (r.dispatcher b.broker.nextStream)) := by
    rw [hdoes.begun _ (Nat.le_refl _), Nat.sub_self]
    rfl
  have hattended : b'.broker.Attended b.broker.nextStream subject :=
    hbroker ▸ .subscribed h.owned.bounded subject
  refine ⟨ho, h.profile, fun j d hd => ?charges, fun s k hk => ?filed_lt,
    fun s k hk hrunning => ?filed, h.tallied.spawns hdoes.toSpawns ?gauge⟩
  case charges =>
    rcases hdoes.toSpawns.cases hd with hold | ⟨hle, hnew⟩
    · have ha := (hdoes.dispatcher h.owned hold).2
      exact (h.charges j d hold).refiled hold hserves ha b.nextTask
    · obtain ⟨hk, -⟩ := List.getElem?_eq_some_iff.mp hnew
      have hj : j = b.nextTask :=
        Nat.le_antisymm (Nat.sub_eq_zero_iff_le.mp (Nat.lt_one_iff.mp hk)) hle
      subst hj
      obtain rfl : r.dispatcher b.broker.nextStream = d := by
        rw [hself] at hd
        simpa using hd
      exact .started h.owned.bounded hbroker (h.profile ▸ hmem) b.nextTask
  case filed_lt =>
    have hnext : b'.nextTask = b.nextTask + 1 := hdoes.nextTask
    rw [hnext]
    by_cases hs : s = subject
    · rw [hs, Table.get?_put_self] at hk
      exact Option.some.inj hk ▸ Nat.lt_succ_self _
    · rw [Table.get?_put_of_ne hs] at hk
      exact Nat.lt_succ_of_lt (h.filed_lt s k hk)
  case filed =>
    by_cases hs : s = subject
    · rw [hs, Table.get?_put_self] at hk
      rw [hs, ← Option.some.inj hk]
      exact ⟨_, hself, hattended⟩
    · rw [Table.get?_put_of_ne hs] at hk
      rw [Bridge.isRunning, hdoes.kept k (h.filed_lt s k hk)] at hrunning
      obtain ⟨d, hd, ha⟩ := h.filed s k hk hrunning
      have hkept := hdoes.dispatcher h.owned hd
      exact ⟨d, hkept.1, hkept.2 s ha⟩
  case gauge => exact (Int64.add_zero _).symm.trans hdoes.gauge

theorem visit (h : Kept p g r b) (hmem : subject ∈ p.subjects)
    (hv : Refresher.visit subject (r, report, b) = (r', report', b')) : Kept p g r' b' := by
  rcases visit_cases hv with ⟨-, rfl, -, rfl⟩ | ⟨-, -, rfl, -, rfl⟩ |
    ⟨hserves, -, rfl, -, hdoes, hbroker, howned⟩
  · exact h
  · exact h
  · exact h.started hmem hserves hdoes hbroker (howned h.owned)

/-- A visit tells what it found and what it did. -/
theorem visit_exact (h : Kept p g r b)
    (hv : Refresher.visit subject (r, report, b) = (r', report', b')) (h' : Kept p g r' b') :
    (⟨subject, (r, b), (r', b')⟩ : Visit).Exact where
  missing_iff := by
    rw [← h.serves_iff, Visit.missing, Bool.not_eq_true, Bool.not_eq_eq_eq_not]
    exact Iff.rfl
  created hcreates := by
    rcases visit_serves hv with hserves | ⟨⟨f, hsub⟩, -⟩
    · exact h'.serves_iff.mp hserves
    · rw [Visit.creates, Visit.granted, hsub, Bool.and_comm] at hcreates
      cases hcreates
  unchanged := (visit_report hv).2.2

/-- Each dispatcher has a subject of its own under which it is filed. -/
theorem length_forwarders_le (h : Kept p g r b) :
    b.forwarders.length ≤ p.subjects.length := by
  have hsubset : b.forwarders ⊆ p.subjects.filterMap (r.dispatchers.get? ·) := by
    intro j hj
    obtain ⟨d, hd⟩ := h.owned.mem_forwarders.mp hj
    obtain ⟨s, hs, hget, -⟩ := (h.charges j d hd).filed
    exact List.mem_filterMap.mpr ⟨s, h.profile ▸ hs, hget⟩
  exact ((b.nodup_forwarders.subperm hsubset).length_le).trans (List.length_filterMap_le _ _)

end Kept

/-! Passes in a run. -/

namespace Stage

variable {p : Profile} {g : Int64} {calm : Dispatcher → Bridge → Prop} {st st' : Stage}
  {xs ys : List Pass}

/-- The passes so far told what they found and did. -/
structure Sound (p : Profile) (g : Int64) (st : Stage) : Prop where
  kept : Kept p g st.refresher st.bridge
  passes : ∀ x ∈ st.passes, x.rest = [] ∧ x.Exact p
  underway : ∀ x ∈ st.pass, x.Exact p

theorem Sound.move (h : st.Sound p g) (hm : Move calm st st') : st'.Sound p g := by
  obtain ⟨hkept, hpasses, hunderway⟩ := h
  cases hm with
  | begin =>
    refine ⟨hkept, hpasses, fun x hx => ?_⟩
    obtain rfl := Option.mem_some_iff.mp hx
    have hsubjects := congrArg Profile.subjects hkept.profile
    exact ⟨hsubjects, rfl, rfl, fun v hv => absurd hv List.not_mem_nil⟩
  | @visit subject rest visits report report' r r' b b' _ hv =>
    obtain ⟨hvisited, hcreated, hfailed, hvisits⟩ := hunderway _ rfl
    have hmem : subject ∈ p.subjects :=
      hvisited ▸ List.mem_append_right _ List.mem_cons_self
    have hkept' := hkept.visit hmem hv
    obtain ⟨hcreated', hfailed', -⟩ := visit_report hv
    refine ⟨hkept', hpasses, fun x hx => ?_⟩
    obtain rfl := Option.mem_some_iff.mp hx
    dsimp only at hvisited hcreated hfailed hcreated' hfailed'
    refine ⟨?_, ?_, ?_, List.forall_mem_append.mpr
      ⟨hvisits, List.forall_mem_singleton.mpr (hkept.visit_exact hv hkept')⟩⟩
    · rw [List.map_append, List.append_assoc]
      exact hvisited
    · rw [hcreated', hcreated, List.filter_append, List.map_append]
    · rw [hfailed', hfailed, List.filter_append, List.map_append]
  | @finish r b x xs hrest =>
    exact ⟨hkept, List.forall_mem_append.mpr ⟨hpasses,
      List.forall_mem_singleton.mpr ⟨hrest, hunderway x rfl⟩⟩, fun y hy => by cases hy⟩
  | turn hp hrefreshes _ ht => exact ⟨hkept.turn hp hrefreshes ht, hpasses, hunderway⟩
  | beside hb => exact ⟨hkept.beside hb, hpasses, hunderway⟩

theorem Sound.moves (h : st.Sound p g) (hm : Relation.ReflTransGen (Move calm) st st') :
    st'.Sound p g := by
  induction hm with
  | refl => exact h
  | tail _ hlast ih => exact ih.move hlast

/-- As long as no dispatcher is told to stop or finds its stream over, a subject that is served
stays served. -/
theorem isServed_move (h : st.Sound p g) (hm : CalmMove st st')
    (hserved : st.bridge.IsServed subject) : st'.bridge.IsServed subject := by
  obtain ⟨j, d, hd, ha⟩ := hserved
  cases hm with
  | begin => exact ⟨j, d, hd, ha⟩
  | visit hv =>
    rcases visit_cases hv with ⟨-, -, -, rfl⟩ | ⟨-, -, -, -, rfl⟩ | ⟨-, -, -, -, hdoes, -⟩
    · exact ⟨j, d, hd, ha⟩
    · exact ⟨j, d, hd, ha⟩
    · have hkept := hdoes.dispatcher h.kept.owned hd
      exact ⟨j, d, hkept.1, hkept.2 subject ha⟩
  | finish => exact ⟨j, d, hd, ha⟩
  | @turn _ b _ _ _ i _ q hq _ hcalm ht =>
    have hself : j = i → b.Unharmed d := by
      rintro rfl
      exact hcalm d (Option.some.inj (hq.symm.trans hd))
    obtain ⟨d', hd', hstream, hkept⟩ := Bridge.dispatcher_outlives h.kept.owned ht hd hself
    exact ⟨j, d', hd', hstream ▸ hkept subject ha⟩
  | beside hb => exact ⟨j, d, (hb.dispatchers j d).mpr hd, hb.attended j d hd subject ha⟩

/-- What is known of the passes `xs` that were completed in a calm time, and of the one under
way. -/
structure Calmed (xs : List Pass) (st : Stage) : Prop where
  served : ∀ x ∈ xs ++ st.pass.toList, ∀ v ∈ x.visits,
    v.subject ∈ x.report.failed ∨ st.bridge.IsServed v.subject
  idle : ∀ x ys, xs = x :: ys → x.report.failed = [] → ∀ y ∈ ys ++ st.pass.toList, y.Idle

/-- A pass without failures leaves every subject served as long as it is calm. -/
theorem Calmed.isServed (h : st.Calmed xs) (hs : st.Sound p g) {x : Pass} (hx : x ∈ xs)
    (hpasses : x ∈ st.passes) (hfailed : x.report.failed = []) (hmem : subject ∈ p.subjects) :
    st.bridge.IsServed subject := by
  obtain ⟨hrest, hexact⟩ := hs.passes x hpasses
  have hvisited := hexact.visited
  rw [hrest, List.append_nil] at hvisited
  rw [← hvisited] at hmem
  obtain ⟨v, hv, rfl⟩ := List.mem_map.mp hmem
  refine (h.served x (List.mem_append_left _ hx) v hv).resolve_left ?_
  rw [hfailed]
  exact List.not_mem_nil

/-- A visit to a subject that is served is idle. -/
theorem idle_visit {rest : List String} {visits : List Visit} {b b' : Bridge}
    (h : Kept p g r b) (hserved : b.IsServed subject)
    (hv : Refresher.visit subject (r, report, b) = (r', report', b'))
    (hidle : (⟨subject :: rest, visits, report⟩ : Pass).Idle) :
    (⟨rest, visits ++ [⟨subject, (r, b), (r', b')⟩], report'⟩ : Pass).Idle := by
  have hserves := h.serves_iff.mpr hserved
  rcases visit_cases hv with ⟨-, rfl, rfl, rfl⟩ | ⟨hnot, -⟩ | ⟨hnot, -⟩
  · refine ⟨hidle.report, List.forall_mem_append.mpr ⟨hidle.served, ?_⟩,
      List.forall_mem_append.mpr ⟨hidle.unchanged, List.forall_mem_singleton.mpr rfl⟩⟩
    exact List.forall_mem_singleton.mpr (congrArg not hserves)
  · rw [hserves] at hnot
    cases hnot
  · rw [hserves] at hnot
    cases hnot

theorem Calmed.move (h : st.Calmed xs) (hs : st.Sound p g) (hm : CalmMove st st')
    (hxs : st.passes = ys ++ xs) : ∃ zs, st'.passes = ys ++ zs ∧ st'.Calmed zs := by
  have hserved {x : Pass} (hx : x ∈ xs ++ st.pass.toList) : ∀ v ∈ x.visits,
      v.subject ∈ x.report.failed ∨ st'.bridge.IsServed v.subject :=
    fun v hv => (h.served x hx v hv).imp_right (isServed_move hs hm)
  have hs' := hs.move hm
  cases hm with
  | begin =>
    refine ⟨xs, hxs, List.forall_mem_append.mpr
      ⟨fun x hx => hserved (List.mem_append_left _ hx), ?_⟩, fun x zs he hfailed => ?_⟩
    · exact List.forall_mem_singleton.mpr fun v hv => absurd hv List.not_mem_nil
    · refine List.forall_mem_append.mpr
        ⟨fun y hy => h.idle x zs he hfailed y (List.mem_append_left _ hy), ?_⟩
      exact List.forall_mem_singleton.mpr ⟨rfl, fun v hv => absurd hv List.not_mem_nil,
        fun v hv => absurd hv List.not_mem_nil⟩
  | @visit subject rest visits report report' r r' b b' _ hv =>
    have hreport := (visit_report hv).2.1
    refine ⟨xs, hxs, List.forall_mem_append.mpr
      ⟨fun x hx => hserved (List.mem_append_left _ hx), ?_⟩, fun x zs he hfailed => ?_⟩
    · refine List.forall_mem_singleton.mpr (List.forall_mem_append.mpr ⟨fun v hv => ?_, ?_⟩)
      · refine (hserved (List.mem_append_right _ (List.mem_singleton_self _)) v hv).imp_left ?_
        intro hmem
        rw [hreport]
        exact List.mem_append_left _ hmem
      · refine List.forall_mem_singleton.mpr ?_
        rcases visit_serves hv with hserves | ⟨-, hmem⟩
        · exact .inr (hs'.kept.serves_iff.mp hserves)
        · exact .inl hmem
    · refine List.forall_mem_append.mpr
        ⟨fun y hy => h.idle x zs he hfailed y (List.mem_append_left _ hy), ?_⟩
      refine List.forall_mem_singleton.mpr ?_
      have hbefore := h.idle x zs he hfailed _ (List.mem_append_right _ (List.mem_singleton_self _))
      have hx : x ∈ xs := he ▸ List.mem_cons_self
      have hmem : subject ∈ p.subjects := by
        rw [← (hs.underway _ rfl).visited]
        exact List.mem_append_right _ List.mem_cons_self
      have hpasses : x ∈ ys ++ xs := List.mem_append_right _ hx
      exact idle_visit hs.kept (h.isServed hs hx (hxs ▸ hpasses) hfailed hmem) hv hbefore
  | @finish r b x _ hrest =>
    refine ⟨xs ++ [x], by rw [← List.append_assoc, ← hxs], fun y hy => ?_, fun y zs he hfailed => ?_⟩
    · exact hserved (List.append_nil (xs ++ [x]) ▸ hy)
    · cases xs with
      | nil =>
        obtain ⟨-, rfl⟩ := List.cons.inj he
        exact fun z hz => absurd hz List.not_mem_nil
      | cons x₀ xs =>
        obtain ⟨rfl, rfl⟩ := List.cons.inj he
        exact fun z hz => h.idle x₀ xs rfl hfailed z (List.append_nil (xs ++ [x]) ▸ hz)
  | turn => exact ⟨xs, hxs, fun x hx => hserved hx, h.idle⟩
  | beside => exact ⟨xs, hxs, fun x hx => hserved hx, h.idle⟩

theorem Calmed.moves (hs : st.Sound p g) (hnone : st.pass = none)
    (hm : Relation.ReflTransGen CalmMove st st') :
    ∃ xs, st'.passes = st.passes ++ xs ∧ st'.Calmed xs := by
  induction hm with
  | refl =>
    refine ⟨[], (List.append_nil _).symm, fun x hx => ?_, fun x ys he => ?_⟩
    · rw [hnone] at hx
      cases hx
    · cases he
  | tail hfirst hlast ih =>
    obtain ⟨xs, hxs, hcalmed⟩ := ih
    exact hcalmed.move (hs.moves hfirst) hlast hxs

/-! What can be relied on at every stage. -/

/-- The dispatchers that run, the meter and the reports agree. -/
structure Faithful (p : Profile) (g : Int64) (st : Stage) : Prop where
  /-- No subject has two dispatchers. -/
  one : ∀ s i j d d', st.bridge.program? i = some (.dispatcher d) →
    st.bridge.program? j = some (.dispatcher d') →
    st.bridge.broker.Attended d.stream s → st.bridge.broker.Attended d'.stream s → i = j
  /-- Every dispatcher has one of the channel's subjects and no other. -/
  desired : ∀ j d, st.bridge.program? j = some (.dispatcher d) →
    ∃ s ∈ p.subjects, ∀ s', st.bridge.broker.Attended d.stream s' ↔ s' = s
  gauge : st.bridge.meters.subscriptions = g + Int64.ofNat st.bridge.forwarders.length
  counted : st.bridge.forwarders.Nodup ∧ ∀ j, j ∈ st.bridge.forwarders ↔
    ∃ d, st.bridge.program? j = some (.dispatcher d)
  few : st.bridge.forwarders.length ≤ p.subjects.length
  /-- Each subject comes once in a pass. -/
  once : p.subjects.Nodup
  /-- A completed pass visited all subjects in order, whatever failed. -/
  passes : ∀ x ∈ st.passes, x.rest = [] ∧ x.Exact p
  underway : ∀ x ∈ st.pass, x.Exact p
  /-- After a pass without failures, in a time in which no dispatcher was told to stop or found its
  stream over, further passes are idle. -/
  idle : ∀ st' x ys, st.pass = none → Relation.ReflTransGen CalmMove st st' →
    st'.passes = st.passes ++ x :: ys → x.report.failed = [] → ∀ y ∈ ys ++ st'.pass.toList, y.Idle

end Stage

/-! Runs. -/

/-- The visits of a pass that is made without anything in between. -/
def visits : List String → Refresher × RefreshReport × Bridge → List Visit
  | [], _ => []
  | subject :: rest, x =>
    let y := visit subject x
    ⟨subject, (x.1, x.2.2), (y.1, y.2.2)⟩ :: visits rest y

variable {calm : Dispatcher → Bridge → Prop}

theorem moves_visits (subjects : List String) (vs : List Visit) (xs : List Pass)
    (x : Refresher × RefreshReport × Bridge) :
    let y := subjects.foldl (fun x subject => visit subject x) x
    Relation.ReflTransGen (Move calm) ⟨x.1, x.2.2, some ⟨subjects, vs, x.2.1⟩, xs⟩
      ⟨y.1, y.2.2, some ⟨[], vs ++ visits subjects x, y.2.1⟩, xs⟩ := by
  induction subjects generalizing vs x with
  | nil =>
    rw [visits, List.append_nil]
    exact .refl
  | cons subject rest ih =>
    refine .head (.visit rfl) ?_
    have hrest := ih (vs ++ [⟨subject, (x.1, x.2.2), ((visit subject x).1, (visit subject x).2.2)⟩])
      (visit subject x)
    rw [List.append_assoc] at hrest
    exact hrest

/-- The pass that a refresher makes in one go is a run. -/
theorem moves_pass (r : Refresher) (b : Bridge) (xs : List Pass) :
    Relation.ReflTransGen (Move calm) ⟨r, b, none, xs⟩
      ⟨(r.pass b).1, (r.pass b).2.2, none,
        xs ++ [⟨[], visits r.profile.subjects (r, .empty, b), (r.pass b).2.1⟩]⟩ :=
  .head .begin (.tail (moves_visits r.profile.subjects [] xs (r, .empty, b)) (.finish rfl))

namespace Beside

theorem of_steady {mine : List StreamId} (h : Bridge.Steady mine b b')
    (ha : ∀ i s, b.broker.Attended i s → b'.broker.Attended i s) : Beside b b' where
  dispatchers j d := by rw [Bridge.program?_congr h.tasks]
  ended j _ hrunning := by
    rw [Bridge.isRunning, Bridge.program?_congr h.tasks] at hrunning
    exact hrunning
  nextTask := Nat.le_of_eq h.nextTask.symm
  owned ho := ho.of_steady h
  gauge := h.gauge
  attended _ d _ := ha d.stream

/-- A connection may go down or come back, and it may begin or cease to refuse subjects. -/
theorem amend (l : Link) (f : Connection → Connection) (b : Bridge) : Beside b (b.amend l f) := by
  refine of_steady (.amend [] l f b) fun i s ha => ?_
  cases l <;> exact ha

/-- A stream may be closed. -/
theorem close (i : StreamId) (b : Bridge) : Beside b (b.close i) :=
  of_steady (.close (List.mem_singleton_self i) b) fun _ _ ha => ha.close i

end Beside

/-- A channel with two units. -/
def twoUnits : Profile := ⟨.platform, "door", ["u1", "u2"], "fleet"⟩

/-- A bridge whose connection does not subscribe for the first unit. -/
def refusing : Bridge :=
  (Bridge.start [] (.start 0 0) 0).amend (.working 0) (·.refuse "u1.door.>")

end Refresher
end FleetBridge
