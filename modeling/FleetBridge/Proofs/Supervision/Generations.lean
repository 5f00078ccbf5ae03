import FleetBridge.Proofs.Bridge.History
import FleetBridge.Proofs.Supervision.Staff

/-!
Generations. A channel never has two dispatchers for one subject and the control plane never has two
listeners or probers, as nothing is started again before what was started last has come to its end.
A supervisor that has ended leaves nothing behind.
-/
namespace FleetBridge

open Bridge (History Step)

variable {b b' : Bridge} {i j : TaskId} {n : Nat} {t : Step} {ts : List Step}

/-! Dialling. -/

theorem Bridge.subscribe_dialler (l : Link) (pattern : String) (b : Bridge) :
    (b.subscribe l pattern).2.dialler = b.dialler := by
  generalize hsub : b.subscribe l pattern = answer
  obtain ⟨f | s, b'⟩ := answer
  · rcases Bridge.subscribe_cases [] l pattern b with ⟨f', hsame⟩ | ⟨b₁, hother, -⟩
    · cases hsub.symm.trans hsame
      rfl
    · cases hsub.symm.trans hother
  · obtain ⟨-, connections, rfl⟩ := Forwarding.subscribe_eq_ok hsub
    rfl

theorem Refresher.visit_dialler (subject : String) (x : Refresher × RefreshReport × Bridge) :
    (Refresher.visit subject x).2.2.dialler = x.2.2.dialler := by
  obtain ⟨r, report, b⟩ := x
  have hsub := b.subscribe_dialler r.link subject
  unfold visit
  dsimp only
  split
  · rfl
  · generalize b.subscribe r.link subject = answer at hsub ⊢
    obtain ⟨f | s, b'⟩ := answer <;> exact hsub

/-- A refresher never dials. -/
theorem Refreshing.turn_dialler (n : Nat) (r : Refreshing) (b : Bridge) : (r.turn n b).Yields
    (fun _ b' => b'.dialler = b.dialler) (fun _ b' => b'.dialler = b.dialler) := by
  unfold turn
  cases r.phase with
  | resting =>
    dsimp only
    split
    · rfl
    · split
      · trivial
      · split <;> rfl
  | connecting =>
    dsimp only
    split
    · rfl
    · unfold Bridge.connectSink
      split <;> rfl
  | passing rest report =>
    cases rest with
    | nil => rfl
    | cons subject rest => exact Refresher.visit_dialler subject (r.refresher, report, b)
  | closing e =>
    dsimp only
    split
    · trivial
    · rfl

/-- Only a worker that has no refresher dials. -/
theorem Worker.turn_dialler (n : Nat) {w : Worker} (hphase : ∀ s, w.phase ≠ .connecting s)
    (b : Bridge) : (w.turn n b).Yields
    (fun _ b' => b'.dialler = b.dialler) (fun _ b' => b'.dialler = b.dialler) := by
  unfold turn
  cases hw : w.phase with
  | connecting s => exact absurd hw (hphase s)
  | refreshing r =>
    refine ((r.turn_dialler n b).mono (fun _ _ h => h) fun e b' h => ?_).andThen
    cases e <;> exact h
  | resting wake =>
    dsimp only
    split
    · rfl
    · split
      · rfl
      · trivial

theorem Bridge.turn?_dialler {w : Worker} (hw : b.program? i = some (.worker w))
    (hphase : ∀ s, w.phase ≠ .connecting s) (ht : b.turn? n i = some b') :
    b'.dialler = b.dialler := by
  have hyields := w.turn_dialler n hphase b
  unfold turn? at ht
  simp only [hw, Program.turn] at ht
  generalize w.turn n b = outcome at hyields ht
  cases outcome with
  | wait => cases ht
  | next w' b₁ =>
    cases ht
    exact hyields
  | done e b₁ =>
    cases ht
    exact hyields

/-! What a history shows of the workers and the control plane. -/

/-- A worker that has no refresher, or whose refresher is closing on a lost bus. -/
def Worker.Bereft (w : Worker) : Prop :=
  ∀ r, w.phase = .refreshing r → r.phase = .closing .lost

namespace Program

/-- Whether a task is a listener for registrations or runs one. -/
def listens : Program → Bool
  | listener _ => true
  | control c => match c.phase with
    | .listening .. => true
    | _ => false
  | _ => false

/-- Whether a task is a part of a control plane that runs. -/
def isPlane : Program → Bool
  | prober _ => true
  | registration _ => true
  | p => p.listens

end Program

namespace Bridge.Step

/-- A worker starts a refresher. -/
def Starts (t : Step) : Prop :=
  ∃ w w' s r, t.before.program? t.task = some (.worker w) ∧ w.phase = .connecting s ∧
    t.after.program? t.task = some (.worker w') ∧ w'.phase = .refreshing r

/-- The tick of a worker's refresher finds the bus down and no dispatcher of the channel running,
whereupon the refresher closes. -/
def Loses (t : Step) : Prop :=
  ∃ w w' r r', t.before.program? t.task = some (.worker w) ∧ w.phase = .refreshing r ∧
    r.phase = .resting ∧ r.ticker.due ≤ t.before.now ∧
    t.before.isConnected r.refresher.link = false ∧
    (∀ j d, t.before.program? j = some (.dispatcher d) →
      d.profile.channel ≠ w.profile.channel) ∧
    t.after.program? t.task = some (.worker w') ∧ w'.phase = .refreshing r' ∧
    r'.phase = .closing .lost

/-- A control plane starts to listen. -/
def Opens (t : Step) : Prop :=
  ∃ c c' l e plane, t.before.program? t.task = some (.control c) ∧
    (∀ l e plane, c.phase ≠ .listening l e plane) ∧
    t.after.program? t.task = some (.control c') ∧ c'.phase = .listening l e plane

end Bridge.Step

namespace Supervisor

/-- Every refresher that a worker started was given up later. -/
def Relieved (i : TaskId) (ts : List Step) : Prop :=
  ∀ ts₁ t ts₂, ts = ts₁ ++ t :: ts₂ → t.task = i → t.Starts → ∃ u ∈ ts₂, u.task = i ∧ u.Loses

/-- A turn in a list is the last one or has the last one behind it. -/
theorem concat_cases {ts₁ ts₂ : List Step} {u : Step} (h : ts ++ [t] = ts₁ ++ u :: ts₂) :
    u = t ∨ ∃ ts₃, ts₂ = ts₃ ++ [t] ∧ ts = ts₁ ++ u :: ts₃ := by
  rcases List.eq_nil_or_concat ts₂ with rfl | ⟨ts₃, v, rfl⟩
  · exact .inl (List.singleton_inj.mp (List.append_inj' h rfl).2).symm
  · rw [List.concat_eq_append] at h ⊢
    have hsplit : ts ++ [t] = (ts₁ ++ u :: ts₃) ++ [v] := by
      rw [h, List.append_assoc, List.cons_append]
    obtain ⟨hts, hlast⟩ := List.append_inj' hsplit rfl
    exact .inr ⟨ts₃, by rw [hlast], hts⟩

namespace Relieved

theorem of_ne (h : ∀ t ∈ ts, t.task ≠ i) : Relieved i ts := by
  rintro ts₁ t ts₂ rfl htask
  exact absurd htask (h t (List.mem_append_right _ List.mem_cons_self))

/-- A turn in which no refresher is started changes nothing. -/
theorem concat (h : Relieved i ts) (ht : t.task = i → ¬t.Starts) : Relieved i (ts ++ [t]) := by
  intro ts₁ u ts₂ he htask hstarts
  rcases concat_cases he with rfl | ⟨ts₃, rfl, hts⟩
  · exact absurd hstarts (ht htask)
  · obtain ⟨x, hx, hrest⟩ := h ts₁ u ts₃ hts htask hstarts
    exact ⟨x, List.mem_append_left _ hx, hrest⟩

/-- A tick that gives a refresher up relieves all that were started before. -/
theorem of_loses (ht : t.task = i) (hloses : t.Loses) : Relieved i (ts ++ [t]) := by
  intro ts₁ u ts₂ he _ hstarts
  rcases concat_cases he with rfl | ⟨ts₃, rfl, -⟩
  · obtain ⟨w, -, s, -, hw, hconnecting, -⟩ := hstarts
    obtain ⟨w₁, -, r, -, hw₁, hrefreshing, -⟩ := hloses
    cases hw.symm.trans hw₁
    cases hconnecting.symm.trans hrefreshing
  · exact ⟨t, List.mem_append_right _ (List.mem_singleton_self t), ht, hloses⟩

end Relieved

variable {as : List Assignment} {sup first : TaskId}

/-! Who is on the staff at one moment. -/

namespace Staffed

variable (h : Staffed as sup first b)
include h

/-- No two workers serve one channel. -/
theorem worker_unique (has : (as.map fun a => a.profile.channel).Nodup) {w w' : Worker}
    (hw : b.program? i = some (.worker w)) (hw' : b.program? j = some (.worker w'))
    (hchannel : w.profile.channel = w'.profile.channel) : i = j := by
  obtain ⟨m, a, rfl, ha, hprofile, -⟩ := (h.vouched i _ hw).of_worker
  obtain ⟨m', a', rfl, ha', hprofile', -⟩ := (h.vouched j _ hw').of_worker
  rw [hprofile, hprofile'] at hchannel
  have hlt : m < (as.map fun a => a.profile.channel).length := by
    rw [List.length_map]
    exact (List.getElem?_eq_some_iff.mp ha).1
  have hsame : (as.map fun a => a.profile.channel)[m]? =
      (as.map fun a => a.profile.channel)[m']? := by
    rw [List.getElem?_map, List.getElem?_map, ha, ha']
    exact congrArg some hchannel
  rw [(List.getElem?_inj hlt has).mp hsame]

/-- A dispatcher is in the charge of a worker's refresher and has the worker's profile. -/
theorem dispatcher_worker {d : Dispatcher} (hd : b.program? j = some (.dispatcher d)) :
    ∃ i w r, b.program? i = some (.worker w) ∧ w.phase = .refreshing r ∧
      r.refresher.Charge b j d ∧ d.profile = w.profile ∧ ∃ a ∈ as, d.profile = a.profile := by
  obtain ⟨i, w, r, hw, hphase, hcharge⟩ := (h.vouched j _ hd).of_dispatcher
  obtain ⟨m, a, -, ha, hprofile, hfit⟩ := (h.vouched i _ hw).of_worker
  have hsame : d.profile = w.profile := hcharge.profile.trans (hfit r hphase).1
  exact ⟨i, w, r, hw, hphase, hcharge, hsame, a, List.mem_of_getElem? ha, hsame.trans hprofile⟩

/-- A worker without a refresher, or whose refresher has lost its bus, has no dispatcher. -/
theorem no_dispatcher (has : (as.map fun a => a.profile.channel).Nodup) {w : Worker}
    {d : Dispatcher} (hw : b.program? i = some (.worker w))
    (hlost : ∀ r, w.phase = .refreshing r → r.refresher.busLost b = true)
    (hd : b.program? j = some (.dispatcher d)) : d.profile.channel ≠ w.profile.channel := by
  intro hchannel
  obtain ⟨i', w', r, hw', hphase, hcharge, hprofile, -⟩ := h.dispatcher_worker hd
  obtain rfl := h.worker_unique has hw' hw (hprofile ▸ hchannel)
  obtain rfl : w' = w := by
    rw [hw] at hw'
    simpa using hw'.symm
  exact hcharge.not_running_of_busLost (hlost r hphase) hd

/-- There is one control plane. -/
theorem control_unique {c c' : ControlPlane} (hc : b.program? i = some (.control c))
    (hc' : b.program? j = some (.control c')) : i = j := by
  rw [(h.vouched i _ hc).of_control.1, (h.vouched j _ hc').of_control.1]

end Staffed

/-! What histories keep. -/

/-- Whom a history has put in place, and what it shows of the refreshers. -/
structure Orderly (as : List Assignment) (sup : TaskId) (g : Int64) (ts : List Step)
    (b : Bridge) : Prop where
  staff : Vacant as sup b ∨ ∃ first, Staffed as sup first b
  task_lt : ∀ t ∈ ts, t.task < b.nextTask
  relieved : ∀ i w, b.program? i = some (.worker w) → w.Bereft → Relieved i ts
  tallied : b.Tallied g

namespace Orderly

variable {g : Int64}

theorem owned (h : Orderly as sup g ts b) : b.Owned := by
  rcases h.staff with hvacant | ⟨first, hstaffed⟩
  · exact hvacant.owned
  · exact hstaffed.owned

theorem staffed (h : Orderly as sup g ts b) {p : Program} (hp : b.program? i = some p)
    (haside : p.isAside = false) (hsupervisor : ∀ s, p ≠ .supervisor s) :
    ∃ first, Staffed as sup first b := by
  refine h.staff.resolve_left fun hvacant => ?_
  obtain ⟨s, hs, -⟩ := hvacant.supervisor
  have hne : i ≠ sup := by
    rintro rfl
    exact hsupervisor s (Option.some.inj (hp.symm.trans hs))
  rw [hvacant.others i p hp hne] at haside
  cases haside

theorem outside (h : Orderly as sup g ts b) (ho : Outside b b') : Orderly as sup g ts b' where
  staff := h.staff.imp ho.vacant fun ⟨first, hstaffed⟩ => ⟨first, ho.staffed hstaffed⟩
  task_lt t ht := Nat.lt_of_lt_of_le (h.task_lt t ht) ho.nextTask
  relieved i w hw := h.relieved i w (ho.program?_eq hw rfl)
  tallied := ho.tallied h.owned h.tallied

/-- A turn of a worker that leaves it bereft gives its refresher up or starts none. -/
theorem relieved_worker (h : Orderly as sup g ts b)
    (has : (as.map fun a => a.profile.channel).Nodup) {w w' : Worker} {k : Broker}
    {started : List Program} (hw : b.program? i = some (.worker w))
    (hw' : b'.program? i = some (.worker w')) (hgoes : w.Goes b k w' started)
    (hbereft : w'.Bereft) : Relieved i (ts ++ [⟨i, n, b, b'⟩]) := by
  have hno : (∀ r, w'.phase ≠ .refreshing r) → ¬(⟨i, n, b, b'⟩ : Step).Starts := by
    rintro hphase ⟨-, w₁, -, r, -, -, hw₁, hr⟩
    cases hw'.symm.trans hw₁
    exact hphase r hr
  cases hgoes with
  | connecting hphase =>
    have hrelieved := h.relieved i w hw fun r hr => by cases hphase.symm.trans hr
    exact hrelieved.concat fun _ => hno nofun
  | started => cases hbereft _ rfl
  | again hphase =>
    have hrelieved := h.relieved i w hw fun r hr => by cases hphase.symm.trans hr
    exact hrelieved.concat fun _ => hno nofun
  | lost hphase hclosing =>
    have hrelieved := h.relieved i w hw fun r hr => by
      cases hphase.symm.trans hr
      exact hclosing
    exact hrelieved.concat fun _ => hno nofun
  | @refreshing r _ _ hphase hgoes =>
    have hclosing := hbereft _ rfl
    cases hgoes with
    | lost hresting hdue hlost =>
      obtain ⟨first, hstaffed⟩ := h.staffed hw rfl nofun
      have hdown : b.isConnected r.refresher.link = false := by
        rw [Refresher.busLost, Bool.and_eq_true] at hlost
        simpa using hlost.1
      refine .of_loses rfl ⟨w, _, r, _, hw, hphase, hresting, hdue, hdown, fun j d hd => ?_, hw',
        rfl, rfl⟩
      refine hstaffed.no_dispatcher has hw (fun r' hr' => ?_) hd
      cases hphase.symm.trans hr'
      exact hlost
    | _ => cases hclosing

theorem turn (h : Orderly as sup g ts b) (has : (as.map fun a => a.profile.channel).Nodup)
    (ht : b.turn? n i = some b') : Orderly as sup g (ts ++ [⟨i, n, b, b'⟩]) b' := by
  obtain ⟨p, p', started, b₁, hp, htook⟩ := Bridge.turn?_took ht
  have hm := htook.moved h.owned hp
  have hlt : ∀ t ∈ ts ++ [⟨i, n, b, b'⟩], t.task < b.nextTask :=
    List.forall_mem_append.mpr ⟨h.task_lt, List.forall_mem_singleton.mpr (h.owned.task_lt i p hp)⟩
  refine ⟨?_, fun t ht => ?_, fun j w' hw' hbereft => ?_, h.tallied.turn h.owned ht⟩
  · rcases h.staff with hvacant | ⟨first, hstaffed⟩
    · by_cases hi : i = sup
      · subst hi
        exact .inr ⟨_, hvacant.launch ht⟩
      · exact .inl (hvacant.turn ht hi)
    · exact .inr ⟨first, hstaffed.turn ht⟩
  · rw [hm.nextTask]
    exact Nat.lt_add_right _ (hlt t ht)
  · rcases hm.cases h.owned hw' with ⟨rfl, hself⟩ | ⟨hne, -, hold⟩ | ⟨m, rfl, -⟩
    · have hgoes := htook.goes
      subst hself
      cases hgoes with
      | worker hgoes => exact h.relieved_worker has hp hw' hgoes hbereft
      | aside _ haside => cases haside
    · exact (h.relieved j w' hold hbereft).concat fun htask => absurd htask.symm hne
    · exact .of_ne fun t ht =>
        Nat.ne_of_lt (Nat.lt_of_lt_of_le (hlt t ht) (Nat.le_add_right _ _))

theorem of_history {b₀ : Bridge} (has : (as.map fun a => a.profile.channel).Nodup)
    (hv : Vacant as sup b₀) (h : History (fun _ => True) Outside b₀ ts b) :
    Orderly as sup b₀.meters.subscriptions ts b := by
  induction h with
  | start =>
    have hnone : ∀ j d, b₀.program? j ≠ some (.dispatcher d) := by
      intro j d hd
      obtain ⟨s, hs, -⟩ := hv.supervisor
      have hne : j ≠ sup := by
        rintro rfl
        cases hs.symm.trans hd
      have haside := hv.others j _ hd hne
      cases haside
    exact ⟨.inl hv, fun t ht => absurd ht List.not_mem_nil,
      fun _ _ _ _ => .of_ne fun t ht => absurd ht List.not_mem_nil,
      (Bridge.tallied_iff_of_nil (hv.owned.forwarders_eq_nil hnone)).mpr rfl⟩
  | between _ ho ih => exact ih.outside ho
  | turn n _ _ ht ih => exact ih.turn has ht

end Orderly

/-! Generations do not overlap. -/

namespace Staffed

/-- Only the control plane listens. -/
theorem control_of_listens (h : Staffed as sup first b) {p : Program}
    (hp : b.program? j = some p) (hlistens : p.listens = true) :
    ∃ c l e plane, p = .control c ∧ c.phase = .listening l e plane := by
  cases p with
  | listener l => exact absurd rfl ((h.vouched j _ hp).ne_listener l)
  | control c =>
    unfold Program.listens at hlistens
    dsimp only at hlistens
    split at hlistens
    next l e plane hphase => exact ⟨c, l, e, plane, rfl, hphase⟩
    next => cases hlistens
  | _ => cases hlistens

/-- Before a control plane has started to listen, and after it has closed, no part of it runs. -/
theorem no_plane (h : Staffed as sup first b) {c : ControlPlane} {p : Program}
    (hc : b.program? i = some (.control c)) (hnone : c.prober? = none)
    (hp : b.program? j = some p) : p.isPlane = false := by
  have hsame {i' : TaskId} {c' : ControlPlane} (hc' : b.program? i' = some (.control c')) :
      c' = c := by
    obtain rfl := h.control_unique hc' hc
    rw [hc] at hc'
    simpa using hc'.symm
  have hidle {l : Listener} {e : TaskId} {plane : Token} : c.phase ≠ .listening l e plane := by
    intro hphase
    rw [ControlPlane.prober?, hphase] at hnone
    cases hnone
  by_contra hplane
  rw [Bool.not_eq_false] at hplane
  cases p with
  | prober q =>
    obtain ⟨i', c', hc', hprober⟩ := (h.vouched j _ hp).of_prober
    rw [hsame hc', hnone] at hprober
    cases hprober
  | registration q =>
    obtain ⟨i', c', l, e, plane, hc', hphase⟩ := (h.vouched j _ hp).of_registration
    exact hidle (hsame hc' ▸ hphase)
  | listener l => exact (h.vouched j _ hp).ne_listener l rfl
  | control c' =>
    obtain ⟨c'', l, e, plane, he, hphase⟩ := h.control_of_listens hp hplane
    cases he
    exact hidle (hsame hp ▸ hphase)
  | _ => cases hplane

/-- When the supervisor has ended, everybody else stands aside. -/
theorem isAside_of_finished (h : Staffed as sup first b) {e : Exit} {p : Program}
    (hsup : b.program? sup = some (.finished e)) (hp : b.program? j = some p) :
    p.isAside = true := by
  have hidle : ∀ m ≤ as.length, b.isRunning (first + m) = false := by
    refine h.waits.resolve_left ?_
    rintro ⟨s, hs⟩
    cases hs.symm.trans hsup
  have hworker {i : TaskId} {w : Worker} : b.program? i ≠ some (.worker w) := by
    intro hw
    obtain ⟨m, a, rfl, ha, -⟩ := (h.vouched i _ hw).of_worker
    have hm : m ≤ as.length := Nat.le_of_lt (List.getElem?_eq_some_iff.mp ha).1
    have hended := hidle m hm
    rw [Bridge.isRunning, hw] at hended
    cases hended
  have hcontrol {i : TaskId} {c : ControlPlane} : b.program? i ≠ some (.control c) := by
    intro hc
    obtain ⟨rfl, -⟩ := (h.vouched i _ hc).of_control
    have hended := hidle as.length (Nat.le_refl _)
    rw [Bridge.isRunning, hc] at hended
    cases hended
  cases h.vouched j p hp with
  | aside haside => exact haside
  | supervisor => cases hsup.symm.trans hp
  | worker => exact absurd hp hworker
  | control => exact absurd hp hcontrol
  | helper hq hans =>
    cases hans with
    | dispatcher => exact absurd hq hworker
    | prober => exact absurd hq hcontrol
    | registration => exact absurd hq hcontrol

end Staffed

/-- What a supervisor's history never shows. -/
structure Tidy (as : List Assignment) (sup : TaskId) (g : Int64) (ts : List Step)
    (b : Bridge) : Prop where
  /-- No channel has two dispatchers for one subject. -/
  one : ∀ s i j d d', b.program? i = some (.dispatcher d) →
    b.program? j = some (.dispatcher d') → d.profile.channel = d'.profile.channel →
    b.broker.Attended d.stream s → b.broker.Attended d'.stream s → i = j
  /-- Every dispatcher has one of the subjects of a channel. -/
  assigned : ∀ j d, b.program? j = some (.dispatcher d) → ∃ a ∈ as, d.profile = a.profile ∧
    ∃ s ∈ a.profile.subjects, ∀ s', b.broker.Attended d.stream s' ↔ s' = s
  /-- There is one listener at most. -/
  listener : ∀ i j p q, b.program? i = some p → b.program? j = some q → p.listens = true →
    q.listens = true → i = j
  /-- There is one prober at most. -/
  prober : ∀ i j p q, b.program? i = some (.prober p) → b.program? j = some (.prober q) → i = j
  /-- When a worker dials or starts a refresher, no dispatcher of its channel runs, and every
  refresher that it started before was given up at a tick that found the bus lost. -/
  dials : ∀ ts₁ t ts₂ w, ts = ts₁ ++ t :: ts₂ → t.before.program? t.task = some (.worker w) →
    t.after.dialler ≠ t.before.dialler ∨ t.Starts →
    (∀ j d, t.before.program? j = some (.dispatcher d) →
      d.profile.channel ≠ w.profile.channel) ∧ Relieved t.task ts₁
  /-- When a control plane starts, no listener, prober or registration runs. -/
  opens : ∀ t ∈ ts, t.Opens → ∀ j p, t.before.program? j = some p → p.isPlane = false
  /-- A supervisor that has ended leaves nothing running and the meter where it was. -/
  closed : ∀ e, b.program? sup = some (.finished e) →
    (∀ j p, b.program? j = some p → p.isAside = true) ∧ b.meters.subscriptions = g

/-- What starts to listen was about to connect before. -/
theorem prober?_of_opens (ht : t.before.turn? t.chance t.task = some t.after) (h : t.Opens) :
    ∃ c, t.before.program? t.task = some (.control c) ∧ c.prober? = none := by
  obtain ⟨c, c', l, e, plane, hc, hidle, hc', hphase⟩ := h
  obtain ⟨p, p', started, b₁, hp, htook⟩ := Bridge.turn?_took ht
  cases hc.symm.trans hp
  cases hc'.symm.trans htook.placed.self
  have hgoes := htook.goes
  refine ⟨c, hc, ?_⟩
  cases hgoes with
  | aside haside => cases haside
  | control hgoes =>
    cases hgoes with
    | started hconnecting => rw [ControlPlane.prober?, hconnecting]
    | listening hlistening => exact absurd hlistening (hidle _ _ _)
    | _ => cases hphase

/-- Whatever breaks and in whatever order turns are taken, a supervisor over distinct channels
never runs two generations at once. -/
theorem tidy_of_history {b₀ : Bridge} (has : (as.map fun a => a.profile.channel).Nodup)
    (hv : Vacant as sup b₀) (h : History (fun _ => True) Outside b₀ ts b) :
    Tidy as sup b₀.meters.subscriptions ts b := by
  have horderly := Orderly.of_history has hv h
  refine {
    one := fun s i j d d' hd hd' hchannel ha ha' => ?one
    assigned := fun j d hd => ?assigned
    listener := fun i j p q hp hq hlistens hlistens' => ?listener
    prober := fun i j p q hp hq => ?prober
    dials := fun ts₁ t ts₂ w he hw hdials => ?dials
    opens := fun t ht hopens j p hp => ?opens
    closed := fun e hsup => ?closed }
  case one =>
    obtain ⟨first, hs⟩ := horderly.staffed hd rfl nofun
    obtain ⟨k, w, r, hw, hphase, hcharge, hprofile, -⟩ := hs.dispatcher_worker hd
    obtain ⟨k', w', r', hw', hphase', hcharge', hprofile', -⟩ := hs.dispatcher_worker hd'
    rw [hprofile, hprofile'] at hchannel
    obtain rfl := hs.worker_unique has hw hw' hchannel
    cases hw.symm.trans hw'
    cases hphase.symm.trans hphase'
    exact hcharge.task_unique hcharge' ha ha'
  case assigned =>
    obtain ⟨first, hs⟩ := horderly.staffed hd rfl nofun
    obtain ⟨k, w, r, -, -, hcharge, -, a, ha, hprofile⟩ := hs.dispatcher_worker hd
    obtain ⟨s, hmem, -, hattended⟩ := hcharge.filed
    have hsubjects : s ∈ a.profile.subjects := by
      rw [← hprofile, hcharge.profile]
      exact hmem
    refine ⟨a, ha, hprofile, s, hsubjects, fun s' => ⟨fun h => h.pattern_unique hattended, ?_⟩⟩
    rintro rfl
    exact hattended
  case listener =>
    have haside : p.isAside = false := by
      cases p <;> first | rfl | cases hlistens
    have hsupervisor : ∀ s, p ≠ .supervisor s := by
      rintro s rfl
      cases hlistens
    obtain ⟨first, hs⟩ := horderly.staffed hp haside hsupervisor
    obtain ⟨c, -, -, -, rfl, -⟩ := hs.control_of_listens hp hlistens
    obtain ⟨c', -, -, -, rfl, -⟩ := hs.control_of_listens hq hlistens'
    exact hs.control_unique hp hq
  case prober =>
    obtain ⟨first, hs⟩ := horderly.staffed hp rfl nofun
    obtain ⟨k, c, hc, hprober⟩ := (hs.vouched i _ hp).of_prober
    obtain ⟨k', c', hc', hprober'⟩ := (hs.vouched j _ hq).of_prober
    obtain rfl := hs.control_unique hc hc'
    cases hc.symm.trans hc'
    exact Option.some.inj (hprober.symm.trans hprober')
  case dials =>
    have hprefix : ts₁ ++ [t] <+: ts := ⟨ts₂, by rw [he, List.append_assoc]; rfl⟩
    obtain ⟨hbefore, hturn⟩ := h.of_prefix hprefix
    have hthen := Orderly.of_history has hv hbefore
    obtain ⟨first, hs⟩ := hthen.staffed hw rfl nofun
    have hconnecting : ∃ s, w.phase = .connecting s := by
      rcases hdials with hdials | ⟨w', -, s, -, hw', hphase, -⟩
      · by_contra hnot
        exact hdials (Bridge.turn?_dialler hw (fun s hs => hnot ⟨s, hs⟩) hturn)
      · cases hw.symm.trans hw'
        exact ⟨s, hphase⟩
    obtain ⟨s, hphase⟩ := hconnecting
    have hnone {r : Refreshing} : w.phase ≠ .refreshing r := by
      rw [hphase]
      exact nofun
    exact ⟨fun j d => hs.no_dispatcher has hw fun r hr => absurd hr hnone,
      hthen.relieved t.task w hw fun r hr => absurd hr hnone⟩
  case opens =>
    obtain ⟨ts₁, ts₂, rfl⟩ := List.append_of_mem ht
    have hprefix : ts₁ ++ [t] <+: ts₁ ++ t :: ts₂ := ⟨ts₂, by simp⟩
    obtain ⟨hbefore, hturn⟩ := h.of_prefix hprefix
    obtain ⟨c, hc, hnone⟩ := prober?_of_opens hturn hopens
    obtain ⟨first, hs⟩ := (Orderly.of_history has hv hbefore).staffed hc rfl nofun
    exact hs.no_plane hc hnone hp
  case closed =>
    rcases horderly.staff with hvacant | ⟨first, hs⟩
    · obtain ⟨s, hs, -⟩ := hvacant.supervisor
      cases hs.symm.trans hsup
    · have haside {j : TaskId} {p : Program} (hp : b.program? j = some p) :=
        hs.isAside_of_finished hsup hp
      have hnone : ∀ j d, b.program? j ≠ some (.dispatcher d) := by
        intro j d hd
        have hdispatcher := haside hd
        cases hdispatcher
      exact ⟨fun j p hp => haside hp, (Bridge.tallied_iff_of_nil
        (hs.owned.forwarders_eq_nil hnone)).mp horderly.tallied⟩

/-- A supervisor of one channel with one unit, about to start. -/
def oneChannel : Supervisor :=
  .start [⟨⟨.platform, "door", ["u1"], "fleet"⟩, 0⟩] ⟨0, none⟩
    ⟨⟨1000, 100, 2⟩, 1000, ⟨10, 50, 2, .none⟩⟩

def launching : Bridge := ((Bridge.start [] (.start 0 0) 0).spawn (.supervisor oneChannel)).2

theorem vacant_launching : Vacant oneChannel.assignments 0 launching where
  owned := (Bridge.Owned.of_tasks_nil rfl fun _ hs => absurd hs List.not_mem_nil).spawn_of_held_nil
    rfl
  supervisor := ⟨oneChannel, rfl, rfl, rfl⟩
  others j p hp hne := by
    have hnone : launching.program? j = none := Bridge.program?_spawn_of_ne hne _
    rw [hnone] at hp
    cases hp

/-- The worker starts a dispatcher, loses its bus and dials again; when all are told to stop, each
comes to its end, the supervisor last. -/
theorem launching_tidy : ∃ ts b, History (fun _ => True) Outside launching ts b ∧
    Tidy oneChannel.assignments 0 launching.meters.subscriptions ts b ∧
    (ts.filter fun t => t.after.meters.subscriptions = 1).length = 12 ∧ b.dialler.attempts = 3 ∧
      (b.exit? 0).isSome = true := by
  have hstart : History (fun _ => True) Outside launching [] _ := .start
  have hlaunched := hstart.went (i := 0) trivial (by decide +kernel)
  have hconnected := (hlaunched.went (i := 1) trivial (by decide +kernel)).went (i := 1) trivial
    (by decide +kernel)
  have hticked := (hconnected.went (i := 1) trivial (by decide +kernel)).went (i := 1) trivial
    (by decide +kernel)
  have hserved := (hticked.went (i := 1) trivial (by decide +kernel)).went (i := 1) trivial
    (by decide +kernel)
  have hbroken := (((hserved.between (.amend (.working 1) (fun c => { c with connected := false })
    _)).between (.close 0 _)).between (.wait 1000 _)).went (i := 3) trivial (by decide +kernel)
  have hlost := (hbroken.went (i := 1) trivial (by decide +kernel)).went (i := 1) trivial
    (by decide +kernel)
  have hwoken := (hlost.between (.wait 2000 _)).went (i := 1) trivial (by decide +kernel)
  have hagain := (hwoken.went (i := 1) trivial (by decide +kernel)).went (i := 1) trivial
    (by decide +kernel)
  have hpassing := (hagain.went (i := 1) trivial (by decide +kernel)).went (i := 1) trivial
    (by decide +kernel)
  have hrestored := (hpassing.went (i := 1) trivial (by decide +kernel)).went (i := 1) trivial
    (by decide +kernel)
  have hplane := (hrestored.went (i := 2) trivial (by decide +kernel)).went (i := 2) trivial
    (by decide +kernel)
  have hlistening := hplane.went (i := 2) trivial (by decide +kernel)
  have hstopped := hlistening.between (.fire ⟨0, none⟩ _)
  have hdrained := (hstopped.went (i := 2) trivial (by decide +kernel)).went (i := 2) trivial
    (by decide +kernel)
  have hjoined := (hdrained.went (i := 5) trivial (by decide +kernel)).went (i := 2) trivial
    (by decide +kernel)
  have hclosing := (hjoined.went (i := 1) trivial (by decide +kernel)).went (i := 4) trivial
    (by decide +kernel)
  have hended := (hclosing.went (i := 1) trivial (by decide +kernel)).went (i := 0) trivial
    (by decide +kernel)
  exact ⟨_, _, hended, tidy_of_history (by decide) vacant_launching hended, by decide +kernel,
    by decide +kernel, by decide +kernel⟩

end Supervisor
end FleetBridge
