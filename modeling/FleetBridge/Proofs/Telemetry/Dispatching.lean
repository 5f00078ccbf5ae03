import FleetBridge.Bridge.Schedule
import FleetBridge.Proofs.Bridge.Tasks
import FleetBridge.Proofs.Bus.Feed

/-!
Turns of a dispatcher that runs: it takes a message or offers a sample to the sink, and whatever
comes of either, it goes on.
-/
namespace FleetBridge

@[simp] theorem Meters.Counters.count_tick (values : List String) (c : Counters) :
    (c.tick values).count values = c.count values + 1 := by
  rw [tick, count, Table.get?_put_self, Option.getD_some]

/-- What a sink holds. -/
def Bridge.samples (i : SinkId) (b : Bridge) : List Sample :=
  ((b.sinks[i]?).map MemorySink.samples).getD []

/-- Whether a sink would take a sample now. -/
def Bridge.takes (i : SinkId) (x : Sample) (b : Bridge) : Bool := (b.write i x).1.isOk

namespace Dispatcher

/-- The message that a dispatcher takes in a turn, and when. -/
def taken? (chance : Nat) (d : Dispatcher) (b : Bridge) : Option (Message × Int) :=
  match d.phase, d.turn chance b with
  | .idle, .next _ _ => (b.read? d.stream).map fun x => (x.1, b.now)
  | _, _ => none

/-- The sample that a dispatcher offers to the sink in a turn, and whether the sink takes it. -/
def offered? (d : Dispatcher) (b : Bridge) : Option (Sample × Bool) :=
  match d.phase with
  | .writing x => some (x, b.takes d.sink x)
  | .idle => none

/-- The sample that was made and not offered yet. -/
def Phase.held : Phase → List Sample
  | idle => []
  | writing x => [x]

variable {d : Dispatcher} {b b' : Bridge} {i : TaskId} {n : Nat} {x : Sample}

theorem turn_writing (h : d.phase = .writing x) (n : Nat) (b : Bridge) :
    d.turn n b = .next { d with phase := .idle } (d.store x b) := by
  rw [turn, h]

/-- A dispatcher that is to go on waits for a message and takes it. -/
theorem turn_idle (h : d.phase = .idle) (hcalm : b.isFired d.token = false)
    (hlive : b.broker.isOver d.stream = false) (n : Nat) :
    d.turn n b = match b.broker.read? d.stream with
      | none => .wait
      | some (m, k) => match Telemetry.sample? d.profile m b.now with
        | some x => .next { d with phase := .writing x } { b with broker := k }
        | none => .next d (d.failure { b with broker := k }) := by
  simp only [turn, h, hcalm, hlive, tokenFirst, Bool.false_and, Bool.false_eq_true, if_false,
    Bridge.read?]
  cases b.broker.read? d.stream with
  | none => rfl
  | some y => rfl

/-- What a turn of the task of a running dispatcher does. -/
inductive Acts (i : TaskId) (d : Dispatcher) (b : Bridge) : Bridge → Prop
  | decodes {m : Message} {k : Broker} {x : Sample} : d.phase = .idle →
    b.broker.read? d.stream = some (m, k) → Telemetry.sample? d.profile m b.now = some x →
    Acts i d b (Bridge.become i (.dispatcher { d with phase := .writing x }) { b with broker := k })
  | skips {m : Message} {k : Broker} : d.phase = .idle →
    b.broker.read? d.stream = some (m, k) → Telemetry.sample? d.profile m b.now = none →
    Acts i d b (Bridge.become i (.dispatcher d) (d.failure { b with broker := k }))
  | offers {x : Sample} : d.phase = .writing x →
    Acts i d b (Bridge.become i (.dispatcher { d with phase := .idle }) (d.store x b))

theorem acts_of_turn? (hd : b.program? i = some (.dispatcher d))
    (hcalm : b.isFired d.token = false) (hlive : b.broker.isOver d.stream = false)
    (h : b.turn? n i = some b') : Acts i d b b' := by
  rw [Bridge.turn?, hd] at h
  simp only [Program.turn] at h
  cases hphase : d.phase with
  | writing x =>
    rw [turn_writing hphase] at h
    cases h
    exact .offers hphase
  | idle =>
    rw [turn_idle hphase hcalm hlive] at h
    cases hread : b.broker.read? d.stream with
    | none =>
      rw [hread] at h
      cases h
    | some y =>
      obtain ⟨m, k⟩ := y
      rw [hread] at h
      cases hx : Telemetry.sample? d.profile m b.now with
      | none =>
        simp only [hx] at h
        cases h
        exact .skips hphase hread hx
      | some x =>
        simp only [hx] at h
        cases h
        exact .decodes hphase hread hx

/-- A running dispatcher waits only if nothing is there for it to do. -/
theorem turn?_eq_none (hd : b.program? i = some (.dispatcher d))
    (hcalm : b.isFired d.token = false) (hlive : b.broker.isOver d.stream = false)
    (h : b.turn? n i = none) : d.phase = .idle ∧ b.broker.waiting d.stream = [] := by
  rw [Bridge.turn?, hd] at h
  simp only [Program.turn] at h
  cases hphase : d.phase with
  | writing x =>
    rw [turn_writing hphase] at h
    cases h
  | idle =>
    rw [turn_idle hphase hcalm hlive] at h
    refine ⟨rfl, Broker.read?_eq_none_iff.mp ?_⟩
    cases hread : b.broker.read? d.stream with
    | none => rfl
    | some y =>
      obtain ⟨m, k⟩ := y
      cases hx : Telemetry.sample? d.profile m b.now <;> simp [hread, hx, Turn.map] at h

/-! What goes to the sink. -/

theorem taken?_of_idle (h : d.phase = .idle) (hcalm : b.isFired d.token = false)
    (hlive : b.broker.isOver d.stream = false) {m : Message} {k : Broker}
    (hread : b.broker.read? d.stream = some (m, k)) (n : Nat) :
    d.taken? n b = some (m, (b.now : Int)) := by
  rw [taken?, turn_idle h hcalm hlive, h, hread]
  cases hx : Telemetry.sample? d.profile m b.now <;> simp [hx, Bridge.read?, hread]

theorem taken?_of_writing (h : d.phase = .writing x) (n : Nat) (b : Bridge) :
    d.taken? n b = none := by
  simp only [taken?, h]

theorem offered?_of_idle (h : d.phase = .idle) (b : Bridge) : d.offered? b = none := by
  rw [offered?, h]

theorem offered?_of_writing (h : d.phase = .writing x) (b : Bridge) :
    d.offered? b = some (x, b.takes d.sink x) := by
  rw [offered?, h]

/-- A sample that the sink takes is stored and counted as dispatched. -/
theorem store_of_takes (h : b.takes d.sink x = true) :
    ∃ s, b.sinks[d.sink]? = some s ∧
      d.store x b = { b with
        sinks := b.sinks.set d.sink { s with samples := s.samples ++ [x] }
        meters := b.meters.countDispatched d.profile.channel.name } := by
  unfold store
  unfold Bridge.takes at h
  unfold Bridge.write at h ⊢
  cases hs : b.sinks[d.sink]? with
  | none => simp [hs, Except.isOk, Except.toBool] at h
  | some s =>
    refine ⟨s, rfl, ?_⟩
    simp only [hs, MemorySink.write] at h ⊢
    cases hup : s.connected with
    | false => simp [hup, Except.isOk, Except.toBool] at h
    | true =>
      cases hno : s.rejecting with
      | true => simp [hup, hno, Except.isOk, Except.toBool] at h
      | false => simp [Bridge.metered]

/-- A sample that the sink does not take is counted as a failure. -/
theorem store_of_not_takes (h : b.takes d.sink x = false) :
    d.store x b = { b with meters := b.meters.countSinkFailure d.profile.channel.name } := by
  unfold store
  unfold Bridge.takes at h
  unfold Bridge.write at h ⊢
  cases hs : b.sinks[d.sink]? with
  | none => simp [failure, Bridge.metered]
  | some s =>
    have hset : b.sinks.set d.sink s = b.sinks := by
      obtain ⟨hlt, rfl⟩ := List.getElem?_eq_some_iff.mp hs
      exact List.set_getElem_self hlt
    simp only [hs, MemorySink.write] at h ⊢
    cases hup : s.connected with
    | false => simp [failure, Bridge.metered, hset]
    | true =>
      cases hno : s.rejecting with
      | true => simp [failure, Bridge.metered, hset]
      | false => simp [hup, hno, Except.isOk, Except.toBool] at h

/-- The sample comes last in the sink. -/
theorem samples_store (h : b.takes d.sink x = true) :
    (d.store x b).samples d.sink = b.samples d.sink ++ [x] := by
  obtain ⟨s, hs, hstore⟩ := store_of_takes h
  obtain ⟨hlt, rfl⟩ := List.getElem?_eq_some_iff.mp hs
  rw [hstore]
  simp [Bridge.samples, hlt]

/-- Storing shows in the sinks and on the meters only. -/
theorem store_eq (d : Dispatcher) (x : Sample) (b : Bridge) :
    ∃ sinks meters, d.store x b = { b with sinks := sinks, meters := meters } := by
  cases h : b.takes d.sink x with
  | true =>
    obtain ⟨s, -, hstore⟩ := store_of_takes h
    exact ⟨_, _, hstore⟩
  | false => exact ⟨b.sinks, _, store_of_not_takes h⟩

theorem store_broker (d : Dispatcher) (x : Sample) (b : Bridge) :
    (d.store x b).broker = b.broker := by
  obtain ⟨sinks, meters, hstore⟩ := d.store_eq x b
  rw [hstore]

/-! What a turn leaves alone. -/

theorem Acts.program?_of_ne (h : d.Acts i b b') {j : TaskId} (hj : j ≠ i) :
    b'.program? j = b.program? j := by
  cases h with
  | decodes => exact (Bridge.placed_become _ _ _).ne j hj
  | skips => exact (Bridge.placed_become _ _ _).ne j hj
  | @offers x =>
    obtain ⟨sinks, meters, hstore⟩ := d.store_eq x b
    rw [hstore]
    exact (Bridge.placed_become _ _ _).ne j hj

theorem Acts.isFired_eq (h : d.Acts i b b') (t : Token) : b'.isFired t = b.isFired t := by
  cases h with
  | decodes => rfl
  | skips => rfl
  | @offers x =>
    obtain ⟨sinks, meters, hstore⟩ := d.store_eq x b
    rw [hstore]
    rfl

end Dispatcher
end FleetBridge
