import FleetBridge.Bridge.Schedule
import FleetBridge.Proofs.Bridge.Tasks
import FleetBridge.Proofs.Bus.Feed
import FleetBridge.Proofs.Telemetry.Serving

/-!
Who holds which streams. Whatever is done on the bus on behalf of one reader, the streams of all
others go on as if only messages had been delivered.
-/
namespace FleetBridge

namespace Broker

/-- The numbers of streams are given in order. -/
def Bounded (b : Broker) : Prop := ∀ s ∈ b.subscriptions, s.id < b.nextStream

/-- A stream was opened for a pattern, and its reader has not left it. -/
def Attended (i : StreamId) (pattern : String) (b : Broker) : Prop :=
  ∃ s, b.find? i = some s ∧ s.pattern = pattern ∧ s.phase ≠ .dropped

variable {b b' b'' : Broker} {i j : StreamId} {m : Message} {pattern : String}

theorem Attended.pattern_unique {pattern' : String} (h : b.Attended i pattern)
    (h' : b.Attended i pattern') : pattern = pattern' := by
  obtain ⟨s, hs, hp, -⟩ := h
  obtain ⟨s', hs', hp', -⟩ := h'
  obtain rfl : s = s' := Option.some.inj (hs.symm.trans hs')
  exact hp.symm.trans hp'

/-- A new stream is attended for its pattern. -/
theorem Attended.subscribed (h : b.Bounded) (pattern : String) :
    (b.subscribe pattern).2.Attended b.nextStream pattern :=
  ⟨⟨b.nextStream, pattern, .live, []⟩, find?_subscribe_self h, rfl, nofun⟩

/-- Reading leaves all streams attended. -/
theorem Attended.read (h : b.Attended i pattern) (hr : b.read? j = some (m, b')) :
    b'.Attended i pattern := by
  obtain ⟨s, hs, hrest⟩ := h
  obtain ⟨s', rest, -, -, rfl⟩ := read?_eq_some hr
  have hid : ∀ s : Subscription, { s with waiting := rest }.id = s.id := fun _ => rfl
  by_cases hij : i = j
  · subst hij
    exact ⟨{ s with waiting := rest }, find?_update_self hid hs, hrest⟩
  · exact ⟨s, (find?_update_of_ne hid hij).trans hs, hrest⟩

/-- A stream that has ended is still attended until its reader leaves it. -/
theorem Attended.close (h : b.Attended i pattern) (j : StreamId) :
    (b.close j).Attended i pattern := by
  obtain ⟨s, hs, hpattern, hphase⟩ := h
  unfold Broker.close
  by_cases hij : i = j
  · subst hij
    refine ⟨_, find?_update_self ?_ hs, hpattern, ?_⟩
    · exact fun _ => rfl
    · dsimp only
      split
      · exact nofun
      · exact hphase
  · refine ⟨s, (find?_update_of_ne ?_ hij).trans hs, hpattern, hphase⟩
    exact fun _ => rfl

/-! What the operations do to the streams of others. -/

/-- A reader of a stream sees no difference but new messages. -/
structure Spares (i : StreamId) (b b' : Broker) : Prop where
  attended : ∀ pattern, b.Attended i pattern → b'.Attended i pattern
  feeds : ∀ pattern since taken, b.Feeds i pattern since taken → b'.Feeds i pattern since taken

/-- The streams in `mine` are read or left, new ones are opened and messages are delivered. -/
structure Tends (mine : List StreamId) (b b' : Broker) : Prop where
  streams : b.nextStream ≤ b'.nextStream
  inboxes : b.nextInbox ≤ b'.nextInbox
  bounded : b.Bounded → b'.Bounded
  spares : ∀ i < b.nextStream, i ∉ mine → Spares i b b'

namespace Spares

theorem refl (i : StreamId) (b : Broker) : Spares i b b := ⟨fun _ h => h, fun _ _ _ h => h⟩

theorem trans (h : Spares i b b') (h' : Spares i b' b'') : Spares i b b'' :=
  ⟨fun p ha => h'.attended p (h.attended p ha),
    fun p since taken hf => h'.feeds p since taken (h.feeds p since taken hf)⟩

theorem subscribe (i : StreamId) (pattern : String) (b : Broker) :
    Spares i b (b.subscribe pattern).2 where
  attended _ h := by
    obtain ⟨s, hs, hrest⟩ := h
    exact ⟨s, find?_subscribe hs, hrest⟩
  feeds _ _ _ h := h.other_subscribed pattern

theorem deliver (i : StreamId) (m : Message) (b : Broker) : Spares i b (b.deliver m) where
  attended _ h := by
    obtain ⟨s, hs, hp, hlive⟩ := h
    refine ⟨s.push m, find?_deliver hs hlive, ?_, ?_⟩
    · rw [Subscription.push_pattern, hp]
    · rw [Subscription.push_phase]
      exact hlive
  feeds _ _ _ h := h.delivered m

theorem update {f : Subscription → Subscription} (hf : ∀ s, (f s).id = s.id) (h : i ≠ j)
    (b : Broker) : Spares i b (b.update j f) where
  attended _ ha := by
    obtain ⟨s, hs, hrest⟩ := ha
    exact ⟨s, (find?_update_of_ne hf h).trans hs, hrest⟩
  feeds _ _ _ hfeeds := hfeeds.other_updated hf h

end Spares

namespace Tends

variable {mine mine' : List StreamId}

theorem refl (mine : List StreamId) (b : Broker) : Tends mine b b :=
  ⟨Nat.le_refl _, Nat.le_refl _, fun h => h, fun i _ _ => .refl i b⟩

/-- What is tended later was tended before or is new. -/
theorem trans (h : Tends mine b b') (h' : Tends mine' b' b'')
    (hmine : ∀ i < b.nextStream, i ∈ mine' → i ∈ mine) : Tends mine b b'' where
  streams := h.streams.trans h'.streams
  inboxes := h.inboxes.trans h'.inboxes
  bounded hb := h'.bounded (h.bounded hb)
  spares i hi hnot := (h.spares i hi hnot).trans
    (h'.spares i (Nat.lt_of_lt_of_le hi h.streams) (mt (hmine i hi) hnot))

theorem subscribe (mine : List StreamId) (pattern : String) (b : Broker) :
    Tends mine b (b.subscribe pattern).2 where
  streams := Nat.le_succ _
  inboxes := Nat.le_refl _
  bounded h s hs := by
    rcases List.mem_append.mp hs with hs | hs
    · exact Nat.lt_succ_of_lt (h s hs)
    · rw [List.mem_singleton.mp hs]
      exact Nat.lt_succ_self _
  spares i _ _ := .subscribe i pattern b

theorem deliver (mine : List StreamId) (m : Message) (b : Broker) : Tends mine b (b.deliver m) where
  streams := Nat.le_refl _
  inboxes := Nat.le_refl _
  bounded h s hs := by
    obtain ⟨s', hs', rfl⟩ := List.mem_map.mp hs
    rw [Subscription.push_id]
    exact h s' (List.mem_filter.mp hs').1
  spares i _ _ := .deliver i m b

theorem update {f : Subscription → Subscription} (hf : ∀ s, (f s).id = s.id) (hi : i ∈ mine)
    (b : Broker) : Tends mine b (b.update i f) where
  streams := Nat.le_refl _
  inboxes := Nat.le_refl _
  bounded h s hs := by
    rcases mem_update.mp hs with ⟨s', hs', -, rfl⟩ | ⟨hs', -⟩
    · rw [hf]
      exact h s' hs'
    · exact h s hs'
  spares j _ hj := by
    have hne : j ≠ i := fun he => hj (he.symm ▸ hi)
    exact .update hf hne b

theorem inbox (mine : List StreamId) (b : Broker) : Tends mine b b.inbox.2 where
  streams := Nat.le_refl _
  inboxes := Nat.le_succ _
  bounded h := h
  spares _ _ _ := ⟨fun _ h => h, fun _ _ _ h => h.congr rfl rfl⟩

theorem read (hi : i ∈ mine) (h : b.read? i = some (m, b')) : Tends mine b b' := by
  obtain ⟨s, rest, -, -, rfl⟩ := read?_eq_some h
  exact update (f := fun s => { s with waiting := rest }) (fun _ => rfl) hi b

theorem close (hi : i ∈ mine) (b : Broker) : Tends mine b (b.close i) := by
  unfold Broker.close
  refine update ?_ hi b
  exact fun _ => rfl

theorem drop (hi : i ∈ mine) (b : Broker) : Tends mine b (b.drop i) :=
  update (f := fun s => { s with phase := .dropped, waiting := [] }) (fun _ => rfl) hi b

end Tends
end Broker

/-! Programs and what they hold. -/

def Request.exchanges (r : Request) : List Exchange :=
  match r.phase with
  | .waiting e => [e]
  | .asking => []

def Cycle.exchanges (c : Cycle) : List Exchange :=
  match c.phase with
  | .probing _ underway _ => underway.map Prod.snd
  | _ => []

def Prober.exchanges (p : Prober) : List Exchange :=
  match p.phase with
  | .cycling c => c.exchanges
  | .resting => []

def Listener.held (l : Listener) : List StreamId :=
  match l.phase with
  | .subscribing => []
  | .listening s => [s]
  | .draining s _ => [s]

def ControlPlane.held (c : ControlPlane) : List StreamId :=
  match c.phase with
  | .listening l _ _ => l.held
  | _ => []

namespace Program

/-- The requests that a task has under way. -/
def exchanges : Program → List Exchange
  | request r => r.exchanges
  | cycle c => c.exchanges
  | prober p => p.exchanges
  | _ => []

/-- The streams that a task has not left. -/
def held : Program → List StreamId
  | responder r => [r.stream]
  | listener l => l.held
  | dispatcher d => [d.stream]
  | control c => c.held
  | p => p.exchanges.map Exchange.inbox

/-- Whether a task counts on the meter of active subscriptions. -/
def forwards : Program → Bool
  | dispatcher _ => true
  | _ => false

end Program

/-! Parts of turns. -/

namespace Bridge

/-- Nothing shows among the tasks or on the meter of active subscriptions. -/
structure Steady (mine : List StreamId) (b b' : Bridge) : Prop where
  tasks : b'.tasks = b.tasks
  nextTask : b'.nextTask = b.nextTask
  gauge : b'.meters.subscriptions = b.meters.subscriptions
  tends : b.broker.Tends mine b'.broker

variable {b b' b'' : Bridge} {mine : List StreamId} {i : StreamId} {m : Message}

namespace Steady

theorem of_eq (htasks : b'.tasks = b.tasks) (hnext : b'.nextTask = b.nextTask)
    (hgauge : b'.meters.subscriptions = b.meters.subscriptions) (hbroker : b'.broker = b.broker) :
    Steady mine b b' :=
  ⟨htasks, hnext, hgauge, hbroker ▸ .refl mine _⟩

theorem refl (mine : List StreamId) (b : Bridge) : Steady mine b b := of_eq rfl rfl rfl rfl

theorem trans (h : Steady mine b b') (h' : Steady mine b' b'') : Steady mine b b'' :=
  ⟨h'.tasks.trans h.tasks, h'.nextTask.trans h.nextTask, h'.gauge.trans h.gauge,
    h.tends.trans h'.tends fun _ _ hi => hi⟩

theorem deliver (mine : List StreamId) (m : Message) (b : Bridge) : Steady mine b (b.deliver m) := by
  obtain ⟨q, hq⟩ := deliver_eq m b
  rw [hq]
  exact ⟨rfl, rfl, rfl, .deliver mine m _⟩

theorem publish (mine : List StreamId) (l : Link) (subject : String) (p : Payload) (b : Bridge) :
    Steady mine b (b.publish l subject p).2 := by
  unfold Bridge.publish
  split
  · exact deliver mine _ b
  · exact refl mine b

theorem read (hi : i ∈ mine) (h : b.read? i = some (m, b')) : Steady mine b b' := by
  unfold read? at h
  obtain ⟨⟨m', k⟩, hk, he⟩ := Option.map_eq_some_iff.mp h
  cases he
  exact ⟨rfl, rfl, rfl, .read hi hk⟩

theorem leave (hi : i ∈ mine) (b : Bridge) : Steady mine b (b.leave i) :=
  ⟨rfl, rfl, rfl, .drop hi _⟩

theorem close (hi : i ∈ mine) (b : Bridge) : Steady mine b (b.close i) :=
  ⟨rfl, rfl, rfl, .close hi b.broker⟩

theorem collect {e : Exchange} (he : e.inbox ∈ mine) (b : Bridge) :
    Steady mine b (b.collect e).2 := by
  unfold Bridge.collect
  split
  next m b' h => exact (read he h).trans (leave he b')
  next => exact leave he b

theorem amend (mine : List StreamId) (l : Link) (f : Connection → Connection) (b : Bridge) :
    Steady mine b (b.amend l f) := by
  cases l with
  | working i => exact of_eq rfl rfl rfl rfl
  | dead => exact refl mine b

theorem connectSink (mine : List StreamId) (i : SinkId) (b : Bridge) :
    Steady mine b (b.connectSink i).2 := by
  unfold Bridge.connectSink
  split
  · exact refl mine b
  · exact of_eq rfl rfl rfl rfl

theorem write (mine : List StreamId) (i : SinkId) (x : Sample) (b : Bridge) :
    Steady mine b (b.write i x).2 := by
  unfold Bridge.write
  split
  · exact refl mine b
  · exact of_eq rfl rfl rfl rfl

theorem dial (mine : List StreamId) (b : Bridge) : Steady mine b b.dial.2 := by
  unfold Bridge.dial
  split
  · exact of_eq rfl rfl rfl rfl
  · exact of_eq rfl rfl rfl rfl
  · exact of_eq rfl rfl rfl rfl

theorem wait (mine : List StreamId) (now : Instant) (b : Bridge) :
    Steady mine b { b with now := now } :=
  of_eq rfl rfl rfl rfl

theorem fire (mine : List StreamId) (t : Token) (b : Bridge) : Steady mine b (b.fire t) :=
  of_eq rfl rfl rfl rfl

end Steady

/-- A refused subscription changes nothing; a subscription that is granted has the next number. -/
theorem subscribe_cases (mine : List StreamId) (l : Link) (pattern : String) (b : Bridge) :
    (∃ f, b.subscribe l pattern = (.error f, b)) ∨
      ∃ b', b.subscribe l pattern = (.ok b.broker.nextStream, b') ∧ Steady mine b b' ∧
        b'.broker = (b.broker.subscribe pattern).2 := by
  generalize hsub : b.subscribe l pattern = answer
  obtain ⟨f | i, b'⟩ := answer
  · have hsame : b' = b := by
      unfold subscribe at hsub
      cases hc : b.connection? l with
      | none =>
        simp only [hc] at hsub
        exact (Prod.mk.inj hsub).2.symm
      | some c =>
        simp only [hc] at hsub
        split at hsub
        · exact (Prod.mk.inj hsub).2.symm
        · split at hsub
          · exact (Prod.mk.inj hsub).2.symm
          · cases (Prod.mk.inj hsub).1
    exact .inl ⟨f, by rw [hsame]⟩
  · obtain ⟨rfl, connections, rfl⟩ := Forwarding.subscribe_eq_ok hsub
    exact .inr ⟨_, rfl, ⟨rfl, rfl, rfl, .subscribe mine pattern b.broker⟩, rfl⟩

/-- An answered turn leaves its inbox open exactly if the request went out to somebody. -/
theorem ask_cases (mine : List StreamId) (l : Link) (subject : String) (p : Payload)
    (timeout : Duration) (b : Bridge) :
    (∃ f b', b.ask l subject p timeout = (.error f, b') ∧ Steady mine b b') ∨
      ∃ e b', b.ask l subject p timeout = (.ok e, b') ∧ Steady mine b b' ∧
        e.inbox = b.broker.nextStream ∧ b.broker.nextStream < b'.broker.nextStream := by
  unfold ask
  split
  · exact .inl ⟨_, _, rfl, .refl mine b⟩
  split
  · exact .inl ⟨_, _, rfl, .refl mine b⟩
  have hopened : Steady mine b
      (({ b with broker := b.broker.inbox.2 }.attend b.broker.inbox.1).2) :=
    ⟨rfl, rfl, rfl, (Broker.Tends.inbox mine b.broker).trans
      (.subscribe mine b.broker.inbox.1 b.broker.inbox.2) fun _ _ hi => hi⟩
  have hsent := hopened.trans (.deliver mine ⟨subject, some b.broker.inbox.1, p⟩ _)
  dsimp only
  split
  · -- The inbox that is left is new, so nobody else can have held it.
    have hleft : Steady [b.broker.nextStream] _ _ :=
      .leave (List.mem_singleton_self _) (Bridge.deliver ⟨subject, some b.broker.inbox.1, p⟩
        ({ b with broker := b.broker.inbox.2 }.attend b.broker.inbox.1).2)
    refine .inl ⟨_, _, rfl, hleft.tasks.trans hsent.tasks, hleft.nextTask.trans hsent.nextTask,
      hleft.gauge.trans hsent.gauge, hsent.tends.trans hleft.tends fun i hi hmem => ?_⟩
    exact absurd (List.mem_singleton.mp hmem) (Nat.ne_of_lt hi)
  · refine .inr ⟨_, _, rfl, hsent, rfl, ?_⟩
    rw [deliver_broker]
    exact Nat.lt_succ_self _

end Bridge
end FleetBridge
