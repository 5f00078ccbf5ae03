import FleetBridge.Proofs.Bridge.Conversing
import FleetBridge.Proofs.Telemetry.Dispatching

/-!
What the turn of each program can do, said once for each: what becomes of the program, what it
starts and which streams it holds.
-/
namespace FleetBridge

open Bridge (Does Spawns Steady)

variable {b b' : Bridge} {k : Broker}

/-! Programs that start nothing. -/

theorem Responder.yields (r : Responder) (b : Bridge) : (r.turn b).Yields
    (fun r' b' => r' = r ∧ Steady [r.stream] b b') (fun _ _ => False) := by
  unfold turn
  cases hread : b.read? r.stream with
  | none => trivial
  | some x =>
    obtain ⟨m, b₁⟩ := x
    have hact : Steady [r.stream] b (r.act.perform b₁) := by
      refine (Steady.read (List.mem_singleton_self _) hread).trans ?_
      cases r.act with
      | nothing => exact .refl _ _
      | register u => exact .of_eq rfl rfl rfl rfl
      | remove id => exact .of_eq rfl rfl rfl rfl
      | disconnect l => exact .amend _ l _ _
    dsimp only
    cases r.reply? m with
    | none => exact ⟨rfl, hact⟩
    | some answer => exact ⟨rfl, hact.trans (.deliver _ answer _)⟩

theorem Registration.yields (r : Registration) (b : Bridge) : (r.turn b).Yields
    (fun _ b' => Steady [] b b') (fun _ b' => Steady [] b b') := by
  unfold turn
  cases r.phase with
  | reading =>
    dsimp only
    cases Announcement.ofPayload r.message.payload with
    | ok a => exact .refl [] b
    | error f => exact .refl [] b
  | asking a => exact .of_eq rfl rfl rfl rfl
  | marking u => exact .of_eq rfl rfl rfl rfl
  | filing u => exact .of_eq rfl rfl rfl rfl
  | replying u =>
    change Steady [] b (r.reply u b)
    unfold reply
    cases r.message.reply with
    | none => exact .refl [] b
    | some subject => exact .publish [] _ _ _ b
  | counting o => exact .of_eq rfl rfl rfl rfl

theorem Bootstrap.steady_sinkUp (s : Bootstrap) (b : Bridge) : Steady [] b (s.sinkUp b).2 := by
  unfold sinkUp
  cases s.sink with
  | none => exact .refl [] b
  | some i =>
    dsimp only
    split
    · exact .refl [] b
    · have hsink := Steady.connectSink [] i b
      unfold connectSink
      generalize b.connectSink i = answer at hsink ⊢
      obtain ⟨f | u, b'⟩ := answer
      · exact hsink.trans (.of_eq rfl rfl rfl rfl)
      · exact hsink.trans (.of_eq rfl rfl rfl rfl)

theorem Bootstrap.yields (n : Nat) (s : Bootstrap) (b : Bridge) : (s.turn n b).Yields
    (fun _ b' => Steady [] b b') (fun _ b' => Steady [] b b') := by
  unfold turn
  cases s.phase with
  | dialling =>
    dsimp only
    split
    · exact .refl [] b
    · change Steady [] b (s.dial b).2
      unfold dial
      cases s.link with
      | some l => exact .refl [] b
      | none => exact (Steady.dial [] b).trans (.of_eq rfl rfl rfl rfl)
  | connecting =>
    have hsink := s.steady_sinkUp b
    dsimp only
    generalize s.sinkUp b = answer at hsink ⊢
    obtain ⟨up, b'⟩ := answer
    cases s.link <;> cases up <;> exact hsink
  | resting wake =>
    dsimp only
    split
    · exact .refl [] b
    · split
      · exact .refl [] b
      · trivial

/-! Dispatchers and the refresher. -/

/-- A dispatcher goes on with its stream, or leaves it and is counted off the meter. -/
theorem Dispatcher.yields (n : Nat) (d : Dispatcher) (b : Bridge) : (d.turn n b).Yields
    (fun d' b' => (∃ phase, d' = { d with phase := phase }) ∧ Steady [d.stream] b b' ∧
      ∀ s, b.broker.Attended d.stream s → b'.broker.Attended d.stream s)
    (fun _ b' => Does [d.stream] [] [] 1 0 b b' ∧
      (b.isFired d.token = true ∨ b.broker.isOver d.stream = true)) := by
  have hnil : Spawns [] b (d.quit b) := .nil rfl rfl
  have hquit : Does [d.stream] [] [] 1 0 b (d.quit b) :=
    { hnil with
      gauge := by
        change b.meters.subscriptions + Int64.ofInt (-1) + Int64.ofNat 1 = _
        rw [Int64.add_assoc]
        rfl
      tends := .drop (List.mem_singleton_self _) b.broker
      passes := .kept (List.nil_sublist _) }
  unfold turn
  cases hphase : d.phase with
  | writing x =>
    have hwrite := Steady.write [d.stream] d.sink x b
    refine ⟨⟨.idle, rfl⟩, ?_, fun s ha => ?_⟩
    · unfold store
      generalize b.write d.sink x = answer at hwrite ⊢
      obtain ⟨f | u, b'⟩ := answer
      · exact hwrite.trans (.of_eq rfl rfl rfl rfl)
      · exact hwrite.trans (.of_eq rfl rfl rfl rfl)
    · rw [d.store_broker]
      exact ha
  | idle =>
    dsimp only
    split
    next hfirst =>
      have hfired : b.isFired d.token = true := by
        rw [tokenFirst, Bool.and_eq_true] at hfirst
        exact hfirst.1
      exact ⟨hquit, .inl hfired⟩
    next =>
      cases hread : b.read? d.stream with
      | none =>
        dsimp only
        split
        next hover => exact ⟨hquit, .inr hover⟩
        next => trivial
      | some x =>
        obtain ⟨m, b₁⟩ := x
        have hsteady := Steady.read (List.mem_singleton_self d.stream) hread
        have hattended (s : String) (ha : b.broker.Attended d.stream s) :
            b₁.broker.Attended d.stream s := by
          obtain ⟨⟨m', k⟩, hk, he⟩ := Option.map_eq_some_iff.mp hread
          cases he
          exact ha.read hk
        dsimp only
        split
        · exact ⟨⟨_, rfl⟩, hsteady, hattended⟩
        · exact ⟨⟨.idle, by rw [← hphase]⟩, hsteady.trans (.of_eq rfl rfl rfl rfl), hattended⟩

namespace Refresher

/-- The dispatcher that a refresher starts on a new stream. -/
def dispatcher (stream : StreamId) (r : Refresher) : Dispatcher :=
  ⟨r.profile, r.sink, stream, r.token, .idle⟩

/-- A subject that is served is passed over; for any other one a subscription is asked for, which is
refused without a trace or gets a dispatcher of its own. -/
theorem visit_cases {subject : String} {r r' : Refresher} {report report' : RefreshReport}
    (h : visit subject (r, report, b) = (r', report', b')) :
    (r.serves b subject = true ∧ r' = r ∧ report' = report ∧ b' = b) ∨
    (r.serves b subject = false ∧ (∃ f, b.subscribe r.link subject = (.error f, b)) ∧
      r' = r ∧ report' = { report with failed := report.failed ++ [subject] } ∧ b' = b) ∨
    (r.serves b subject = false ∧
      (∃ b₁, b.subscribe r.link subject = (.ok b.broker.nextStream, b₁)) ∧
      r' = { r with dispatchers := r.dispatchers.put subject b.nextTask } ∧
      report' = { report with created := report.created ++ [subject] } ∧
      Does [] [] [.dispatcher (r.dispatcher b.broker.nextStream)] 0 1 b b' ∧
      b'.broker = (b.broker.subscribe subject).2 ∧ (b.Owned → b'.Owned)) := by
  unfold visit at h
  dsimp only at h
  cases hserves : r.serves b subject with
  | true =>
    rw [hserves, if_pos rfl] at h
    cases h
    exact .inl ⟨rfl, rfl, rfl, rfl⟩
  | false =>
    rw [hserves, if_neg Bool.false_ne_true] at h
    refine .inr ?_
    rcases Bridge.subscribe_cases [] r.link subject b with ⟨f, hsub⟩ | ⟨b₁, hsub, hsteady, hbroker⟩
    · rw [hsub] at h
      cases h
      exact .inl ⟨rfl, ⟨f, hsub⟩, rfl, rfl, rfl⟩
    · have hnext : b₁.nextTask = b.nextTask := hsteady.nextTask
      have hlt : b.broker.nextStream < b₁.broker.nextStream := hbroker ▸ Nat.lt_succ_self _
      rw [hsub] at h
      cases h
      refine .inr ⟨rfl, ⟨b₁, hsub⟩, ?_, rfl, ?_, hbroker, fun ho => ?_⟩
      · rw [← hnext]
        rfl
      · have hnil : Spawns [] b (b₁.metered (·.addSubscriptions 1)) := .nil hsteady.tasks hnext
        exact { hnil.trans (.spawn _ _) with
          gauge := by
            rw [← hsteady.gauge]
            exact Int64.add_zero _
          tends := hsteady.tends
          passes := .opened rfl hlt }
      · have hcounted : (b₁.metered (·.addSubscriptions 1)).Owned := { ho.of_steady hsteady with }
        refine hcounted.spawn ?_ (List.nodup_singleton _) fun j p hp s hs hmem => ?_
        · exact List.forall_mem_singleton.mpr hlt
        · have hold : b.program? j = some p := Bridge.program?_congr hsteady.tasks j ▸ hp
          exact Nat.ne_of_lt (ho.held_lt j p hold s hs) (List.mem_singleton.mp hmem)

end Refresher

namespace Refreshing

/-- What a turn of a refresher that goes on can do, and what it starts. -/
inductive Goes (r : Refreshing) (b : Bridge) (k : Broker) : Refreshing → List Program → Prop
  | cancelled : r.phase = .resting → Goes r b k { r with phase := .closing .cancelled } []
  /-- A tick found the bus down and no dispatcher running. -/
  | lost : r.phase = .resting → r.ticker.due ≤ b.now → r.refresher.busLost b = true →
    Goes r b k { r with ticker := r.ticker.next b.now, phase := .closing .lost } []
  | ticked : r.phase = .resting →
    Goes r b k { r with ticker := r.ticker.next b.now, phase := .connecting } []
  | connected : r.phase = .connecting →
    Goes r b k { r with phase := .passing r.refresher.profile.subjects .empty } []
  | passed {subject : String} {rest : List String} {report report' : RefreshReport} :
    r.phase = .passing (subject :: rest) report →
    Goes r b k { r with phase := .passing rest report' } []
  | created {subject : String} {rest : List String} {report report' : RefreshReport} :
    r.phase = .passing (subject :: rest) report → r.refresher.serves b subject = false →
    k = (b.broker.subscribe subject).2 →
    Goes r b k
      { r with
        refresher := { r.refresher with
          dispatchers := r.refresher.dispatchers.put subject b.nextTask }
        phase := .passing rest report' }
      [.dispatcher (r.refresher.dispatcher b.broker.nextStream)]
  | rested {report : RefreshReport} : r.phase = .passing [] report →
    Goes r b k { r with phase := .resting } []

theorem yields (n : Nat) (r : Refreshing) (b : Bridge) : (r.turn n b).Yields
    (fun r' b' => ∃ started, r.Goes b b'.broker r' started ∧
      Does [] [] started 0 started.length b b')
    (fun e b' => r.phase = .closing e ∧ Steady [] b b' ∧
      ∀ d ∈ r.refresher.dispatchers, b.isRunning d.2 = false) := by
  have hstill {b' : Bridge} (h : Steady [] b b') : Does [] [] [] 0 0 b b' :=
    h.does (List.nil_sublist _)
  unfold turn
  cases hphase : r.phase with
  | resting =>
    dsimp only
    split
    next => exact ⟨[], .cancelled hphase, hstill (.fire [] _ b)⟩
    next =>
      split
      next => trivial
      next hdue =>
        have hnow : r.ticker.due ≤ b.now := by simpa using hdue
        split
        next hlost => exact ⟨[], .lost hphase hnow hlost, hstill (.fire [] _ b)⟩
        next => exact ⟨[], .ticked hphase, hstill (.refl [] b)⟩
  | connecting =>
    refine ⟨[], .connected hphase, hstill ?_⟩
    split
    · exact .refl [] b
    · exact .connectSink [] _ b
  | passing rest report =>
    cases rest with
    | nil => exact ⟨[], .rested hphase, hstill (.refl [] b)⟩
    | cons subject rest =>
      dsimp only
      generalize hvisit : Refresher.visit subject (r.refresher, report, b) = x
      obtain ⟨refresher, report', b'⟩ := x
      rcases Refresher.visit_cases hvisit with ⟨-, rfl, rfl, rfl⟩ | ⟨-, -, rfl, rfl, rfl⟩ |
        ⟨hserves, -, rfl, rfl, hdoes, hbroker, -⟩
      · exact ⟨[], .passed hphase, hstill (.refl [] _)⟩
      · exact ⟨[], .passed hphase, hstill (.refl [] _)⟩
      · exact ⟨_, .created hphase hserves hbroker, hdoes⟩
  | closing e =>
    dsimp only
    split
    next => trivial
    next hidle =>
      refine ⟨rfl, .refl [] b, fun d hd => ?_⟩
      rw [Bool.not_eq_true, List.any_eq_false] at hidle
      exact Bool.eq_false_iff.mpr (hidle d hd)

end Refreshing

/-! Listeners, workers, the control plane and the supervisor. -/

namespace Listener

/-- The listener that goes on has not lost sight of a registration that it started. -/
structure Keeps (l : Listener) (b : Bridge) (l' : Listener) (started : List Program) : Prop where
  handlers : ∀ j ∈ l.handlers, b.isRunning j = true → j ∈ l'.handlers
  started : started = [] ∨
    ∃ m, started = [.registration (.start l.replyLink m)] ∧ b.nextTask ∈ l'.handlers
  phase : l'.phase ≠ .subscribing

theorem yields (n : Nat) (l : Listener) (b : Bridge) : (l.turn n b).Yields
    (fun l' b' => ∃ started, l.Keeps b l' started ∧ Does l.held l'.held started 0 0 b b')
    (fun _ b' => (l.phase = .subscribing ∨ ∀ j ∈ l.handlers, b.isRunning j = false) ∧
      Does l.held [] [] 0 0 b b') := by
  unfold turn held
  cases hphase : l.phase with
  | subscribing =>
    dsimp only
    rcases Bridge.subscribe_cases [] l.link Subject.announcements b with
      ⟨f, hsub⟩ | ⟨b', hsub, hsteady, hbroker⟩
    · rw [hsub]
      exact ⟨.inl rfl, (Steady.refl [] b).does (List.nil_sublist _)⟩
    · rw [hsub]
      have hlt : b.broker.nextStream < b'.broker.nextStream := hbroker ▸ Nat.lt_succ_self _
      exact ⟨[], ⟨fun _ hj _ => hj, .inl rfl, nofun⟩, hsteady.opens hlt⟩
  | listening s =>
    have hmoved (e : Ending) : l.Keeps b { l with phase := .draining s e } [] :=
      ⟨fun _ hj _ => hj, .inl rfl, nofun⟩
    have hstill : Does [s] [s] [] 0 0 b b := (Steady.refl [s] b).does (List.Sublist.refl _)
    dsimp only
    split
    next => exact ⟨[], hmoved .cancelled, hstill⟩
    next =>
      cases hread : b.read? s with
      | none =>
        dsimp only
        split
        next => exact ⟨[], hmoved .lost, hstill⟩
        next => trivial
      | some x =>
        obtain ⟨m, b₁⟩ := x
        have hsteady := Steady.read (List.mem_singleton_self s) hread
        refine ⟨[.registration (.start l.replyLink m)], ⟨fun j hj hrun => ?_, ?_, nofun⟩,
          hsteady.spawns rfl⟩
        · refine List.mem_append_left _ (List.mem_filter.mpr ⟨hj, ?_⟩)
          have hsame : b₁.isRunning j = true := by
            rw [Bridge.isRunning, Bridge.program?_congr hsteady.tasks]
            exact hrun
          exact Bridge.isRunning_spawn hsame rfl
        · exact .inr ⟨_, rfl, List.mem_append_right _ (by
            rw [← hsteady.nextTask]
            exact List.mem_singleton_self _)⟩
  | draining s e =>
    dsimp only
    split
    next => trivial
    next hidle =>
      rw [Bool.not_eq_true, List.any_eq_false] at hidle
      exact ⟨.inr fun j hj => Bool.eq_false_iff.mpr (hidle j hj),
        (Steady.leave (List.mem_singleton_self s) b).does (List.nil_sublist _)⟩

end Listener

namespace Worker

/-- None of the dispatchers that it started is running. -/
def Clear (w : Worker) (b : Bridge) : Prop :=
  ∀ r, w.phase = .refreshing r → ∀ d ∈ r.refresher.dispatchers, b.isRunning d.2 = false

/-- What a turn of a worker that goes on can do, and what it starts. -/
inductive Goes (w : Worker) (b : Bridge) (k : Broker) : Worker → List Program → Prop
  | connecting {s s' : Bootstrap} : w.phase = .connecting s →
    Goes w b k { w with phase := .connecting s' } []
  | started {s : Bootstrap} {now : Instant} {l : Link} {t : Token} : w.phase = .connecting s →
    Goes w b k
      { w with phase :=
          .refreshing (.start now (.start w.profile l w.sink t) w.token w.plan.refreshPeriod) } []
  | refreshing {r r' : Refreshing} {started : List Program} : w.phase = .refreshing r →
    r.Goes b k r' started → Goes w b k { w with phase := .refreshing r' } started
  | lost {r : Refreshing} {wake : Instant} : w.phase = .refreshing r → r.phase = .closing .lost →
    w.Clear b →
    Goes w b k { w with losses := Backoff.nextAttempt w.losses, phase := .resting wake } []
  | again {wake : Instant} : w.phase = .resting wake → Goes w b k w.connect []

theorem yields (n : Nat) (w : Worker) (b : Bridge) : (w.turn n b).Yields
    (fun w' b' => ∃ started, w.Goes b b'.broker w' started ∧
      Does [] [] started 0 started.length b b')
    (fun _ b' => w.Clear b ∧ Steady [] b b') := by
  have hstill {b' : Bridge} (h : Steady [] b b') : Does [] [] [] 0 0 b b' :=
    h.does (List.nil_sublist _)
  unfold turn
  cases hphase : w.phase with
  | connecting s =>
    have hclear : w.Clear b := fun r hr => by rw [hphase] at hr; cases hr
    refine ((s.yields n b).mono (fun s' b' h => ?_) fun l b' h => ?_).andThen
    · exact ⟨[], .connecting hphase, hstill h⟩
    · cases l with
      | none => exact ⟨hclear, h⟩
      | some l => exact ⟨[], .started hphase, hstill (h.trans (.of_eq rfl rfl rfl rfl))⟩
  | refreshing r =>
    refine ((r.yields n b).mono (fun r' b' h => ?_) fun e b' h => ?_).andThen
    · obtain ⟨started, hgoes, hdoes⟩ := h
      exact ⟨started, .refreshing hphase hgoes, hdoes⟩
    · obtain ⟨hclosing, hsteady, hidle⟩ := h
      have hclear : w.Clear b := by
        intro r' hr
        rw [hphase] at hr
        cases hr
        exact hidle
      cases e with
      | cancelled => exact ⟨hclear, hsteady⟩
      | lost => exact ⟨[], .lost hphase hclosing hclear, hstill hsteady⟩
  | resting wake =>
    have hclear : w.Clear b := fun r hr => by rw [hphase] at hr; cases hr
    dsimp only
    split
    · exact ⟨hclear, .refl [] b⟩
    · split
      · exact ⟨[], .again hphase, hstill (.refl [] b)⟩
      · trivial

end Worker

namespace ControlPlane

/-- Neither the prober nor a registration that it started is running. -/
structure Clear (c : ControlPlane) (b : Bridge) : Prop where
  listening : ∀ l i plane, c.phase ≠ .listening l i plane
  joining : ∀ i e, c.phase = .joining i e → b.isRunning i = false

/-- What a turn of a control plane that goes on can do, and what it starts. -/
inductive Goes (c : ControlPlane) (b : Bridge) : ControlPlane → List Program → Prop
  | connecting {s s' : Bootstrap} : c.phase = .connecting s →
    Goes c b { c with phase := .connecting s' } []
  | started {s : Bootstrap} {l : Link} {plane : Token} {p : Prober} : c.phase = .connecting s →
    p.phase = .resting →
    Goes c b { c with phase := .listening (.start l l plane) b.nextTask plane } [.prober p]
  | listening {l l' : Listener} {i : TaskId} {plane : Token} {started : List Program} :
    c.phase = .listening l i plane → l.Keeps b l' started →
    Goes c b { c with phase := .listening l' i plane } started
  | drained {l : Listener} {i : TaskId} {plane : Token} {e : Ending} :
    c.phase = .listening l i plane →
    (l.phase = .subscribing ∨ ∀ j ∈ l.handlers, b.isRunning j = false) →
    Goes c b { c with phase := .joining i e } []
  | lost {i : TaskId} {wake : Instant} : c.phase = .joining i .lost → b.isRunning i = false →
    Goes c b { c with losses := Backoff.nextAttempt c.losses, phase := .resting wake } []
  | again {wake : Instant} : c.phase = .resting wake → Goes c b c.connect []

theorem yields (n : Nat) (c : ControlPlane) (b : Bridge) : (c.turn n b).Yields
    (fun c' b' => ∃ started, c.Goes b c' started ∧ Does c.held c'.held started 0 0 b b')
    (fun _ b' => c.Clear b ∧ Does c.held [] [] 0 0 b b') := by
  have hstill {b' : Bridge} (h : Steady [] b b') : Does [] [] [] 0 0 b b' :=
    h.does (List.nil_sublist _)
  unfold turn held
  cases hphase : c.phase with
  | connecting s =>
    have hclear : c.Clear b := ⟨by simp [hphase], by simp [hphase]⟩
    refine ((s.yields n b).mono (fun s' b' h => ?_) fun l b' h => ?_).andThen
    · exact ⟨[], .connecting hphase, hstill h⟩
    · cases l with
      | none => exact ⟨hclear, hstill h⟩
      | some l =>
        have hbranch : Steady [] b (b'.branch c.token).2 := h.trans (.of_eq rfl rfl rfl rfl)
        refine ⟨_, ?_, hbranch.spawns rfl⟩
        have hnext : b'.nextTask = b.nextTask := h.nextTask
        change c.Goes b { c with phase := .listening _ b'.nextTask _ } _
        rw [hnext]
        exact .started hphase rfl
  | listening l i plane =>
    refine ((l.yields n b).mono (fun l' b' h => ?_) fun e b' h => ?_).andThen
    · obtain ⟨started, hkeeps, hdoes⟩ := h
      exact ⟨started, .listening hphase hkeeps, hdoes⟩
    · obtain ⟨hidle, hdoes⟩ := h
      exact ⟨[], .drained hphase hidle, { hdoes with }⟩
  | joining i e =>
    dsimp only
    split
    next => trivial
    next hidle =>
      rw [Bool.not_eq_true] at hidle
      cases e with
      | cancelled =>
        refine ⟨⟨by simp [hphase], fun i' e' he => ?_⟩, hstill (.refl [] b)⟩
        rw [hphase] at he
        cases he
        exact hidle
      | lost => exact ⟨[], .lost hphase hidle, hstill (.refl [] b)⟩
  | resting wake =>
    have hclear : c.Clear b := ⟨by simp [hphase], by simp [hphase]⟩
    dsimp only
    split
    · exact ⟨hclear, hstill (.refl [] b)⟩
    · split
      · exact ⟨[], .again hphase, hstill (.refl [] b)⟩
      · trivial

end ControlPlane

namespace Supervisor

/-- What a supervisor starts. -/
def programs (s : Supervisor) : List Program :=
  s.assignments.map (fun a => .worker (.start a.profile a.sink s.token s.plan)) ++
    [.control (.start s.token s.plan)]

/-- Programs that hold nothing, started one after the other. -/
theorem does_spawns {ps : List Program} (hps : ∀ p ∈ ps, p.held = []) (ids : List TaskId)
    (b : Bridge) :
    let f (x : List TaskId × Bridge) (p : Program) := (x.1 ++ [(x.2.spawn p).1], (x.2.spawn p).2)
    (ps.foldl f (ids, b)).1 = ids ++ List.range' b.nextTask ps.length ∧
      Spawns ps b (ps.foldl f (ids, b)).2 ∧
      (ps.foldl f (ids, b)).2.meters = b.meters ∧ (ps.foldl f (ids, b)).2.broker = b.broker := by
  induction ps generalizing ids b with
  | nil => exact ⟨(List.append_nil _).symm, .nil rfl rfl, rfl, rfl⟩
  | cons p ps ih =>
    obtain ⟨hids, hspawns, hmeters, hbroker⟩ :=
      ih (fun q hq => hps q (List.mem_cons_of_mem p hq)) (ids ++ [b.nextTask]) (b.spawn p).2
    refine ⟨?_, (Spawns.spawn p b).trans hspawns, hmeters, hbroker⟩
    rw [List.append_assoc] at hids
    exact hids

theorem yields (s : Supervisor) (b : Bridge) : (s.turn b).Yields
    (fun s' b' => s.phase = .starting ∧
      s' = { s with phase := .joining (List.range' b.nextTask s.programs.length) } ∧
      Does [] [] s.programs 0 0 b b')
    (fun _ b' => (∃ ids, s.phase = .joining ids ∧ ∀ j ∈ ids, b.isRunning j = false) ∧
      Steady [] b b') := by
  have hheld : ∀ p ∈ s.programs, p.held = [] := by
    intro p hp
    rcases List.mem_append.mp hp with hp | hp
    · obtain ⟨a, -, rfl⟩ := List.mem_map.mp hp
      rfl
    · rw [List.mem_singleton.mp hp]
      rfl
  unfold turn
  cases hphase : s.phase with
  | starting =>
    obtain ⟨hids, hspawns, hmeters, hbroker⟩ := does_spawns hheld [] b
    refine ⟨rfl, congrArg (fun ids => { s with phase := .joining ids }) hids, { hspawns with
      gauge := ?_
      tends := ?_
      passes := .kept ?_ }⟩
    · exact congrArg (fun m : Meters => m.subscriptions + Int64.ofNat 0) hmeters
    · change b.broker.Tends [] (s.launch b).2.broker
      have hsame : (s.launch b).2.broker = b.broker := hbroker
      rw [hsame]
      exact .refl [] _
    · rw [List.nil_append, List.flatMap_eq_nil_iff.mpr hheld]
  | joining ids =>
    dsimp only
    split
    next => trivial
    next hidle =>
      rw [Bool.not_eq_true, List.any_eq_false] at hidle
      exact ⟨⟨ids, rfl, fun j hj => Bool.eq_false_iff.mpr (hidle j hj)⟩, .refl [] b⟩

end Supervisor

/-! All programs. -/

namespace Program

/-- Whether a task stands aside: no service starts it, and it starts nothing. -/
def isAside : Program → Bool
  | responder _ => true
  | request _ => true
  | cycle _ => true
  | bootstrap _ => true
  | alarm .. => true
  | finished _ => true
  | _ => false

/-- What lets a task come to its end: whatever it started is at its end, and a dispatcher was told
to stop or finds its stream over. -/
def Clear (b : Bridge) : Program → Prop
  | listener l => l.phase = .subscribing ∨ ∀ j ∈ l.handlers, b.isRunning j = false
  | dispatcher d => b.isFired d.token = true ∨ b.broker.isOver d.stream = true
  | refreshing r => ∀ d ∈ r.refresher.dispatchers, b.isRunning d.2 = false
  | worker w => w.Clear b
  | control c => c.Clear b
  | supervisor s => ∃ ids, s.phase = .joining ids ∧ ∀ j ∈ ids, b.isRunning j = false
  | _ => True

/-- What becomes of a program in a turn, and what it starts. -/
inductive Goes (b : Bridge) (k : Broker) : Program → Program → List Program → Prop
  | aside {p p' : Program} : p.isAside = true → p'.isAside = true → Goes b k p p' []
  | registration {r r' : Registration} : Goes b k (.registration r) (.registration r') []
  | listener {l l' : Listener} {started : List Program} : l.Keeps b l' started →
    Goes b k (.listener l) (.listener l') started
  | prober {p p' : Prober} : Goes b k (.prober p) (.prober p') []
  | dispatcher {d : Dispatcher} {phase : Dispatcher.Phase} :
    (∀ s, b.broker.Attended d.stream s → k.Attended d.stream s) →
    Goes b k (.dispatcher d) (.dispatcher { d with phase := phase }) []
  | refreshing {r r' : Refreshing} {started : List Program} : r.Goes b k r' started →
    Goes b k (.refreshing r) (.refreshing r') started
  | worker {w w' : Worker} {started : List Program} : w.Goes b k w' started →
    Goes b k (.worker w) (.worker w') started
  | control {c c' : ControlPlane} {started : List Program} : c.Goes b c' started →
    Goes b k (.control c) (.control c') started
  | supervisor {s : Supervisor} : s.phase = .starting →
    Goes b k (.supervisor s)
      (.supervisor { s with phase := .joining (List.range' b.nextTask s.programs.length) })
      s.programs
  | finished {p : Program} {e : Exit} : p.Clear b → Goes b k p (.finished e) []

/-- How many of some programs count on the meter of active subscriptions. -/
def dispatchers (ps : List Program) : Nat := ps.countP forwards

/-- Nothing happens to requests, as none is under way and none is sent. -/
structure Mute (n : Nat) (b : Bridge) (p p' : Program) : Prop where
  asks : p.asks? = none
  before : p.exchanges = []
  after : p'.exchanges = []
  answer : p.answer? n b = none

/-- All that a turn of a program does. -/
structure Acts (n : Nat) (b b' : Bridge) (p p' : Program) (started : List Program) : Prop where
  goes : Goes b b'.broker p p' started
  does : Does p.held p'.held started (dispatchers [p]) (dispatchers (p' :: started)) b b'
  talks : Bridge.Converses p.asks? p.exchanges p'.exchanges (p.answer? n b) b b' ∨ Mute n b p p'

/-- What holds of the program that stands in a task's place after a turn. -/
abbrev Leaves (P : Program → Bridge → Prop) (t : Turn Program Exit) : Prop :=
  t.Yields P fun e b => P (.finished e) b

/-- Of a program that is no dispatcher only those that it starts count. -/
theorem dispatchers_cons {p : Program} {started : List Program} (hp : p.forwards = false) :
    dispatchers (p :: started) = dispatchers started :=
  List.countP_cons_of_neg (by simp [hp])

end Program

open Program (dispatchers)

theorem Refreshing.Goes.dispatchers_eq {r r' : Refreshing} {started : List Program}
    (h : r.Goes b k r' started) : dispatchers started = started.length := by
  cases h <;> rfl

theorem Worker.Goes.dispatchers_eq {w w' : Worker} {started : List Program}
    (h : w.Goes b k w' started) : dispatchers started = started.length := by
  cases h with
  | refreshing _ hgoes => exact hgoes.dispatchers_eq
  | _ => rfl

theorem Listener.Keeps.dispatchers_eq {l l' : Listener} {started : List Program}
    (h : l.Keeps b l' started) : dispatchers started = 0 := by
  rcases h.started with rfl | ⟨r, rfl, -⟩ <;> rfl

theorem ControlPlane.Goes.dispatchers_eq {c c' : ControlPlane} {started : List Program}
    (h : c.Goes b c' started) : dispatchers started = 0 := by
  cases h with
  | listening _ hkeeps => exact hkeeps.dispatchers_eq
  | _ => rfl

theorem Supervisor.dispatchers_programs (s : Supervisor) : dispatchers s.programs = 0 := by
  refine List.countP_eq_zero.mpr fun q hq => ?_
  rcases List.mem_append.mp hq with hq | hq
  · obtain ⟨a, -, rfl⟩ := List.mem_map.mp hq
    exact nofun
  · rw [List.mem_singleton.mp hq]
    exact nofun

theorem Program.acts (n : Nat) (p : Program) (b : Bridge) :
    Leaves (fun p' b' => ∃ started, Acts n b b' p p' started) (p.turn n b) := by
  cases p with
  | responder r =>
    refine ((r.yields b).mono (fun r' b' h => ?_) fun _ _ h => h.elim).map
    obtain ⟨rfl, hsteady⟩ := h
    exact ⟨[], .aside rfl rfl, hsteady.does (List.Sublist.refl _), .inr ⟨rfl, rfl, rfl, rfl⟩⟩
  | request r =>
    have h := r.converses b
    rw [turn]
    cases hturn : r.turn b with
    | wait => trivial
    | next r' b' =>
      rw [hturn] at h
      refine ⟨[], .aside rfl rfl, h.does, .inl ?_⟩
      rw [answer?, hturn]
      exact h
    | done answer b' =>
      rw [hturn] at h
      refine ⟨[], .aside rfl rfl, h.does, .inl ?_⟩
      rw [answer?, hturn]
      exact h
  | registration r =>
    refine ((r.yields b).mono (fun r' b' h => ?_) fun _ b' h => ?_).map
    · exact ⟨[], .registration, h.does (List.Sublist.refl _), .inr ⟨rfl, rfl, rfl, rfl⟩⟩
    · exact ⟨[], .finished trivial, h.does (List.Sublist.refl _), .inr ⟨rfl, rfl, rfl, rfl⟩⟩
  | listener l =>
    refine ((l.yields n b).mono (fun l' b' h => ?_) fun _ b' h => ?_).map
    · obtain ⟨started, hkeeps, hdoes⟩ := h
      refine ⟨started, .listener hkeeps, ?_, .inr ⟨rfl, rfl, rfl, rfl⟩⟩
      rw [dispatchers_cons (p := .listener l') rfl, hkeeps.dispatchers_eq]
      exact hdoes
    · exact ⟨[], .finished h.1, h.2, .inr ⟨rfl, rfl, rfl, rfl⟩⟩
  | cycle c =>
    refine ((c.converses n b).mono (fun c' b' h => ?_) fun _ b' h => ?_).map
    · exact ⟨[], .aside rfl rfl, h.does, .inl h⟩
    · exact ⟨[], .aside rfl rfl, h.does, .inl h⟩
  | prober p =>
    refine ((p.converses n b).mono (fun p' b' h => ?_) fun _ b' h => ?_).map
    · exact ⟨[], .prober, h.does, .inl h⟩
    · exact ⟨[], .finished trivial, h.does, .inl h⟩
  | dispatcher d =>
    refine ((d.yields n b).mono (fun d' b' h => ?_) fun _ b' h => ?_).map
    · obtain ⟨⟨phase, rfl⟩, hsteady, hattended⟩ := h
      exact ⟨[], .dispatcher hattended, hsteady.does (List.Sublist.refl _),
        .inr ⟨rfl, rfl, rfl, rfl⟩⟩
    · exact ⟨[], .finished h.2, h.1, .inr ⟨rfl, rfl, rfl, rfl⟩⟩
  | refreshing r =>
    refine ((r.yields n b).mono (fun r' b' h => ?_) fun _ b' h => ?_).map
    · obtain ⟨started, hgoes, hdoes⟩ := h
      refine ⟨started, .refreshing hgoes, ?_, .inr ⟨rfl, rfl, rfl, rfl⟩⟩
      rw [dispatchers_cons (p := .refreshing r') rfl, hgoes.dispatchers_eq]
      exact hdoes
    · exact ⟨[], .finished h.2.2, h.2.1.does (List.Sublist.refl _), .inr ⟨rfl, rfl, rfl, rfl⟩⟩
  | bootstrap s =>
    refine ((s.yields n b).mono (fun s' b' h => ?_) fun _ b' h => ?_).map
    · exact ⟨[], .aside rfl rfl, h.does (List.Sublist.refl _), .inr ⟨rfl, rfl, rfl, rfl⟩⟩
    · exact ⟨[], .aside rfl rfl, h.does (List.Sublist.refl _), .inr ⟨rfl, rfl, rfl, rfl⟩⟩
  | worker w =>
    refine ((w.yields n b).mono (fun w' b' h => ?_) fun _ b' h => ?_).map
    · obtain ⟨started, hgoes, hdoes⟩ := h
      refine ⟨started, .worker hgoes, ?_, .inr ⟨rfl, rfl, rfl, rfl⟩⟩
      rw [dispatchers_cons (p := .worker w') rfl, hgoes.dispatchers_eq]
      exact hdoes
    · exact ⟨[], .finished h.1, h.2.does (List.Sublist.refl _), .inr ⟨rfl, rfl, rfl, rfl⟩⟩
  | control c =>
    refine ((c.yields n b).mono (fun c' b' h => ?_) fun _ b' h => ?_).map
    · obtain ⟨started, hgoes, hdoes⟩ := h
      refine ⟨started, .control hgoes, ?_, .inr ⟨rfl, rfl, rfl, rfl⟩⟩
      rw [dispatchers_cons (p := .control c') rfl, hgoes.dispatchers_eq]
      exact hdoes
    · exact ⟨[], .finished h.1, h.2, .inr ⟨rfl, rfl, rfl, rfl⟩⟩
  | supervisor s =>
    refine ((s.yields b).mono (fun s' b' h => ?_) fun _ b' h => ?_).map
    · obtain ⟨hphase, rfl, hdoes⟩ := h
      refine ⟨_, .supervisor hphase, ?_, .inr ⟨rfl, rfl, rfl, rfl⟩⟩
      have hcount (s' : Supervisor) : dispatchers (.supervisor s' :: s.programs) = 0 :=
        (dispatchers_cons rfl).trans s.dispatchers_programs
      rw [hcount]
      exact hdoes
    · exact ⟨[], .finished h.1, h.2.does (List.Sublist.refl _), .inr ⟨rfl, rfl, rfl, rfl⟩⟩
  | alarm wake t =>
    rw [turn]
    split
    · exact ⟨[], .aside rfl rfl, (Steady.fire [] t b).does (List.Sublist.refl _),
        .inr ⟨rfl, rfl, rfl, rfl⟩⟩
    · trivial
  | finished e => trivial

/-! Whatever is started begins at its beginning. -/

/-- A registration reads its message first, and nothing else has a request under way. -/
def Program.Begins : Program → Prop
  | registration r => r.phase = .reading
  | p => p.exchanges = []

theorem Program.Begins.exchanges {p : Program} (h : p.Begins) : p.exchanges = [] := by
  cases p with
  | registration r => rfl
  | _ => exact h

theorem Listener.Keeps.begins {l l' : Listener} {started : List Program}
    (h : l.Keeps b l' started) : ∀ q ∈ started, q.Begins := by
  intro q hq
  rcases h.started with rfl | ⟨m, rfl, -⟩
  · cases hq
  · rw [List.mem_singleton.mp hq]
    rfl

theorem Refreshing.Goes.begins {r r' : Refreshing} {started : List Program}
    (h : r.Goes b k r' started) : ∀ q ∈ started, q.Begins := by
  intro q hq
  cases h with
  | created =>
    rw [List.mem_singleton.mp hq]
    rfl
  | _ => cases hq

theorem ControlPlane.Goes.begins {c c' : ControlPlane} {started : List Program}
    (h : c.Goes b c' started) : ∀ q ∈ started, q.Begins := by
  intro q hq
  cases h with
  | started _ hresting =>
    rw [List.mem_singleton.mp hq]
    change Prober.exchanges _ = []
    rw [Prober.exchanges, hresting]
  | listening _ hkeeps => exact hkeeps.begins q hq
  | _ => cases hq

theorem Program.Goes.begins {p p' : Program} {started : List Program}
    (h : Goes b k p p' started) : ∀ q ∈ started, q.Begins := by
  intro q hq
  cases h with
  | listener hkeeps => exact hkeeps.begins q hq
  | refreshing hgoes => exact hgoes.begins q hq
  | worker hgoes =>
    cases hgoes with
    | refreshing _ hgoes => exact hgoes.begins q hq
    | _ => cases hq
  | control hgoes => exact hgoes.begins q hq
  | supervisor =>
    rcases List.mem_append.mp hq with hq | hq
    · obtain ⟨a, -, rfl⟩ := List.mem_map.mp hq
      rfl
    · rw [List.mem_singleton.mp hq]
      rfl
  | _ => cases hq

/-- Only registrations go on as registrations. -/
theorem Program.Goes.ne_registration {p p' : Program} {started : List Program}
    (h : Goes b k p p' started) (hp : ∀ r, p ≠ .registration r) (r : Registration) :
    p' ≠ .registration r := by
  intro hr
  cases h with
  | registration => exact hp _ rfl
  | aside _ hp' =>
    rw [hr] at hp'
    cases hp'
  | _ => cases hr

namespace Bridge

variable {i : TaskId} {n : Nat}

/-- All that a turn of a task does, and the bridge before the program was put back in its place. -/
structure Took (n : Nat) (i : TaskId) (b b₁ b' : Bridge) (p p' : Program)
    (started : List Program) : Prop where
  acts : p.Acts n b b₁ p' started
  placed : Placed i p' b₁ b'
  broker : b'.broker = b₁.broker
  meters : b'.meters = b₁.meters

theorem turn?_took (h : b.turn? n i = some b') : ∃ p p' started b₁,
    b.program? i = some p ∧ Took n i b b₁ b' p p' started := by
  unfold turn? at h
  split at h
  next => cases h
  next p hp =>
    have hacts := p.acts n b
    split at h
    next => cases h
    next p' b₁ ht =>
      cases h
      rw [ht] at hacts
      obtain ⟨started, hacts⟩ := hacts
      exact ⟨p, p', started, b₁, hp, hacts, placed_become i p' b₁, rfl, rfl⟩
    next e b₁ ht =>
      cases h
      rw [ht] at hacts
      obtain ⟨started, hacts⟩ := hacts
      exact ⟨p, .finished e, started, b₁, hp, hacts, placed_finish i e b₁, rfl, rfl⟩

theorem Took.goes {b₁ : Bridge} {p p' : Program} {started : List Program}
    (h : Took n i b b₁ b' p p' started) : p.Goes b b'.broker p' started :=
  h.broker ▸ h.acts.goes

theorem Took.moved {b₁ : Bridge} {p p' : Program} {started : List Program}
    (h : Took n i b b₁ b' p p' started) (ho : b.Owned) (hp : b.program? i = some p) :
    Moved i p p' started (dispatchers [p]) (dispatchers (p' :: started)) b b' :=
  ho.moved hp h.acts.does h.placed h.broker h.meters

/-- A turn of a task leaves the programs of all others alone. -/
theorem program?_of_turn?_of_ne (h : b.turn? n i = some b') {j : TaskId} (hj : j < b.nextTask)
    (hne : j ≠ i) : b'.program? j = b.program? j := by
  obtain ⟨p, p', started, b₁, hp, htook⟩ := turn?_took h
  exact (htook.placed.ne j hne).trans (htook.acts.does.kept j hj)

/-- No turn gives a stream a second holder. -/
theorem Owned.turn (ho : b.Owned) (h : b.turn? n i = some b') : b'.Owned := by
  obtain ⟨p, p', started, b₁, hp, htook⟩ := turn?_took h
  exact (htook.moved ho hp).owned ho

end Bridge
end FleetBridge
