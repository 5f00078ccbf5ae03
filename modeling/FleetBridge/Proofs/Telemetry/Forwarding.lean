import FleetBridge.Proofs.Bridge.History
import FleetBridge.Proofs.Telemetry.Decode
import FleetBridge.Proofs.Telemetry.Dispatching
import FleetBridge.Proofs.Telemetry.Serving

/-!
The dispatchers of a channel side by side. Each message of a unit is taken once, by the dispatcher
of that unit, and what the sink takes of it is stored once, in the order of publication.
-/
namespace FleetBridge

namespace Bridge.Step

/-- The message that is taken in a turn of a dispatcher, and when. -/
def taken? (t : Step) : Option (Message × Int) :=
  match t.before.program? t.task with
  | some (.dispatcher d) => d.taken? t.chance t.before
  | _ => none

/-- The sample that is offered to the sink in a turn of a dispatcher, and whether the sink takes
it. -/
def offered? (t : Step) : Option (Sample × Bool) :=
  match t.before.program? t.task with
  | some (.dispatcher d) => d.offered? t.before
  | _ => none

end Bridge.Step

namespace Forwarding
open Bridge (Step told History)

namespace Duty

variable (w : Duty)

/-- Whether a message is telemetry of the channel. -/
def concerns (m : Message) : Bool := w.profile.subjects.any fun s => Subject.accepts s m.subject

def dispatched (b : Bridge) : UInt64 := b.meters.dispatched.count [w.profile.channel.name]

def failures (b : Bridge) : UInt64 := b.meters.sinkFailures.count [w.profile.channel.name]

/-- What leaves the forwarding alone: anything, except that only the channel stores in its sink and
touches its two counters, that nothing is published, and that the dispatchers keep their programs,
their streams and their token. Whether the sink takes what it is offered may change. -/
structure Aside (b b' : Bridge) : Prop where
  journal : b'.broker.journal = b.broker.journal
  streams : ∀ q ∈ w.posts, b'.broker.find? q.stream = b.broker.find? q.stream
  programs : ∀ q ∈ w.posts, b'.program? q.task = b.program? q.task
  calm : b'.isFired w.token = b.isFired w.token
  samples : b'.samples w.sink = b.samples w.sink
  dispatched : w.dispatched b' = w.dispatched b
  failures : w.failures b' = w.failures b

/-- Between two turns of the dispatchers any message may be published on any subject. -/
def Meanwhile (b b' : Bridge) : Prop := (∃ m, b' = b.deliver m) ∨ w.Aside b b'

/-- The samples that the sink took among those that it was offered. -/
def accepted (offers : List (Sample × Bool)) : List Sample := (offers.filter Prod.snd).map Prod.fst

/-- How many messages were taken in vain: they made no sample or the sink did not take it. -/
def lost (takes : List (Message × Int)) (offers : List (Sample × Bool)) : Nat :=
  (takes.countP fun x => !(Telemetry.sample? w.profile x.1 x.2).isSome) +
    offers.countP fun x => !x.2

/-- What the dispatcher of a post has done so far: each sample that it made of the messages of its
stream it has offered to the sink, in order, except one that it may still hold. -/
structure Keeps (since : Nat) (ts : List Step) (b : Bridge) (q : Post) : Prop where
  runs : ∃ phase, b.program? q.task = some (.dispatcher (w.dispatcher q phase)) ∧
    (told Step.offered? q.task ts).map Prod.fst ++ phase.held =
      (told Step.taken? q.task ts).filterMap fun x => Telemetry.sample? w.profile x.1 x.2
  feeds : b.broker.Feeds q.stream (w.pattern q) since
    ((told Step.taken? q.task ts).map Prod.fst)

/-- What all of them took and offered so far shows in the sink and on the counters. -/
structure Books (b₀ : Bridge) (takes : List (Message × Int)) (offers : List (Sample × Bool))
    (b : Bridge) : Prop where
  samples : b.samples w.sink = b₀.samples w.sink ++ accepted offers
  dispatched : w.dispatched b = w.dispatched b₀ + UInt64.ofNat (accepted offers).length
  failures : w.failures b = w.failures b₀ + UInt64.ofNat (w.lost takes offers)

/-- What each of them and all of them have done so far. -/
structure Accounts (b₀ : Bridge) (ts : List Step) (b : Bridge) : Prop where
  keeps : ∀ q ∈ w.posts, w.Keeps b₀.broker.journal.length ts b q
  books : w.Books b₀ (ts.filterMap Step.taken?) (ts.filterMap Step.offered?) b
  calm : b.isFired w.token = false

variable {w} {b₀ b b' : Bridge} {ts : List Step} {q q' : Post} {n : Nat} {since : Nat}

/-! What one dispatcher keeps. -/

namespace Keeps

theorem live (h : w.Keeps since ts b q) : b.broker.isOver q.stream = false := by
  obtain ⟨s, hs, -, hphase⟩ := h.feeds.found
  simp [Broker.isOver, Broker.phase?, hs, hphase]

theorem delivered (h : w.Keeps since ts b q) (m : Message) :
    w.Keeps since ts (b.deliver m) q where
  runs := by
    rw [Bridge.program?_congr (Bridge.quiet_deliver m b).tasks]
    exact h.runs
  feeds := by
    rw [Bridge.deliver_broker]
    exact h.feeds.delivered m

theorem aside (h : w.Keeps since ts b q) (hq : q ∈ w.posts) (ha : w.Aside b b') :
    w.Keeps since ts b' q where
  runs := ha.programs q hq ▸ h.runs
  feeds := h.feeds.congr ha.journal (ha.streams q hq)

/-- The sample made of a message that was taken is held, the one that was held is offered. -/
theorem acted (h : w.Keeps since ts b q) (hcalm : b.isFired w.token = false)
    (ht : b.turn? n q.task = some b') : w.Keeps since (ts ++ [⟨q.task, n, b, b'⟩]) b' q := by
  obtain ⟨phase, hprogram, hmade⟩ := h.runs
  have hlive := h.live
  have hacts := Dispatcher.acts_of_turn? hprogram hcalm hlive ht
  have hlast {α : Type} (f : Step → Option α) : told f q.task (ts ++ [⟨q.task, n, b, b'⟩]) =
      told f q.task ts ++ (f ⟨q.task, n, b, b'⟩).toList :=
    Bridge.told_append_self f ts ⟨q.task, n, b, b'⟩ rfl
  have htakes : told Step.taken? q.task (ts ++ [⟨q.task, n, b, b'⟩]) =
      told Step.taken? q.task ts ++ ((w.dispatcher q phase).taken? n b).toList := by
    simp only [hlast, Step.taken?, hprogram]
  have hoffers : told Step.offered? q.task (ts ++ [⟨q.task, n, b, b'⟩]) =
      told Step.offered? q.task ts ++ ((w.dispatcher q phase).offered? b).toList := by
    simp only [hlast, Step.offered?, hprogram]
  have hself (p : Program) (b : Bridge) : (b.become q.task p).program? q.task = some p :=
    (Bridge.placed_become q.task p b).self
  cases hacts with
  | @decodes m k x hidle hread hx =>
    rw [Dispatcher.taken?_of_idle hidle hcalm hlive hread] at htakes
    rw [Dispatcher.offered?_of_idle hidle] at hoffers
    obtain rfl : phase = .idle := hidle
    refine ⟨⟨.writing x, hself _ _, ?_⟩, ?_⟩
    · rw [htakes, hoffers, List.filterMap_append, ← hmade]
      change Telemetry.sample? w.profile m b.now = some x at hx
      simp [Dispatcher.Phase.held, hx]
    · rw [htakes, List.map_append]
      exact h.feeds.read hread
  | @skips m k hidle hread hx =>
    rw [Dispatcher.taken?_of_idle hidle hcalm hlive hread] at htakes
    rw [Dispatcher.offered?_of_idle hidle] at hoffers
    obtain rfl : phase = .idle := hidle
    refine ⟨⟨.idle, hself _ _, ?_⟩, ?_⟩
    · rw [htakes, hoffers, List.filterMap_append, ← hmade]
      change Telemetry.sample? w.profile m b.now = none at hx
      simp [Dispatcher.Phase.held, hx]
    · rw [htakes, List.map_append]
      exact h.feeds.read hread
  | @offers x hwriting =>
    rw [Dispatcher.taken?_of_writing hwriting] at htakes
    rw [Dispatcher.offered?_of_writing hwriting] at hoffers
    obtain rfl : phase = .writing x := hwriting
    refine ⟨⟨.idle, hself _ _, ?_⟩, ?_⟩
    · rw [htakes, hoffers, Option.toList_none, List.append_nil, ← hmade, List.map_append,
        List.append_assoc]
      rfl
    · rw [htakes, Option.toList_none, List.append_nil]
      exact h.feeds.congr (congrArg Broker.journal (Dispatcher.store_broker _ x b))
        (congrArg (Broker.find? q.stream) (Dispatcher.store_broker _ x b))

/-- Others that do their duty are not noticed. -/
theorem other_acted (h : w.Keeps since ts b q) (h' : w.Keeps since ts b q')
    (hcalm : b.isFired w.token = false) (htask : q.task ≠ q'.task) (hstream : q.stream ≠ q'.stream)
    (ht : b.turn? n q'.task = some b') : w.Keeps since (ts ++ [⟨q'.task, n, b, b'⟩]) b' q := by
  obtain ⟨phase, hprogram, -⟩ := h'.runs
  have hacts := Dispatcher.acts_of_turn? hprogram hcalm h'.live ht
  have htold {α : Type} (f : Step → Option α) :
      told f q.task (ts ++ [⟨q'.task, n, b, b'⟩]) = told f q.task ts :=
    Bridge.told_append_of_ne f ts _ htask.symm
  refine ⟨?_, ?_⟩
  · rw [hacts.program?_of_ne htask, htold, htold]
    exact h.runs
  · rw [htold]
    cases hacts with
    | decodes _ hread => exact h.feeds.other_read hstream hread
    | skips _ hread => exact h.feeds.other_read hstream hread
    | @offers x =>
      exact h.feeds.congr (congrArg Broker.journal (Dispatcher.store_broker _ x b))
        (congrArg (Broker.find? q.stream) (Dispatcher.store_broker _ x b))

end Keeps

/-! What all of them keep. -/

theorem accepted_concat (offers : List (Sample × Bool)) (x : Sample) (taken : Bool) :
    accepted (offers ++ [(x, taken)]) = accepted offers ++ if taken = true then [x] else [] := by
  cases taken <;> simp [accepted]

/-- The books are kept by each turn. -/
theorem Books.acted {takes : List (Message × Int)} {offers : List (Sample × Bool)}
    {phase : Dispatcher.Phase} {i : TaskId} (h : w.Books b₀ takes offers b)
    (hcalm : b.isFired w.token = false) (hlive : b.broker.isOver q.stream = false)
    (hacts : (w.dispatcher q phase).Acts i b b') (n : Nat) :
    w.Books b₀ (takes ++ ((w.dispatcher q phase).taken? n b).toList)
      (offers ++ ((w.dispatcher q phase).offered? b).toList) b' := by
  cases hacts with
  | @decodes m k x hidle hread hx =>
    rw [Dispatcher.taken?_of_idle hidle hcalm hlive hread, Dispatcher.offered?_of_idle hidle,
      Option.toList_none, List.append_nil, Option.toList_some]
    change Telemetry.sample? w.profile m b.now = some x at hx
    refine ⟨h.samples, h.dispatched, ?_⟩
    have hlost : w.lost (takes ++ [(m, (b.now : Int))]) offers = w.lost takes offers := by
      simp [lost, hx]
    rw [hlost]
    exact h.failures
  | @skips m k hidle hread hx =>
    rw [Dispatcher.taken?_of_idle hidle hcalm hlive hread, Dispatcher.offered?_of_idle hidle,
      Option.toList_none, List.append_nil, Option.toList_some]
    change Telemetry.sample? w.profile m b.now = none at hx
    refine ⟨h.samples, h.dispatched, ?_⟩
    have hlost : w.lost (takes ++ [(m, (b.now : Int))]) offers = w.lost takes offers + 1 := by
      simp only [lost, List.countP_append, List.countP_singleton, hx, Option.isSome_none,
        Bool.not_false, if_true]
      omega
    rw [hlost, UInt64.ofNat_add, ← UInt64.add_assoc, ← h.failures]
    exact Meters.Counters.count_tick _ _
  | @offers x hwriting =>
    rw [Dispatcher.taken?_of_writing hwriting, Dispatcher.offered?_of_writing hwriting,
      Option.toList_none, List.append_nil, Option.toList_some]
    change w.Books b₀ takes (offers ++ [(x, b.takes w.sink x)]) _
    cases htaken : b.takes w.sink x with
    | true =>
      have hsamples := Dispatcher.samples_store (d := w.dispatcher q phase) htaken
      obtain ⟨s, -, hstore⟩ := Dispatcher.store_of_takes (d := w.dispatcher q phase) htaken
      have hlost : w.lost takes (offers ++ [(x, true)]) = w.lost takes offers := by simp [lost]
      refine ⟨?_, ?_, ?_⟩
      · rw [accepted_concat, if_pos rfl, ← List.append_assoc, ← h.samples]
        exact hsamples
      · rw [accepted_concat, if_pos rfl, List.length_append, UInt64.ofNat_add, ← UInt64.add_assoc,
          ← h.dispatched, hstore]
        exact Meters.Counters.count_tick _ _
      · rw [hlost, hstore]
        exact h.failures
    | false =>
      have hstore := Dispatcher.store_of_not_takes (d := w.dispatcher q phase) htaken
      have hlost : w.lost takes (offers ++ [(x, false)]) = w.lost takes offers + 1 := by
        simp only [lost, List.countP_append, List.countP_singleton, Bool.not_false, if_true]
        omega
      rw [hstore]
      refine ⟨?_, ?_, ?_⟩
      · rw [accepted_concat, if_neg Bool.false_ne_true, List.append_nil]
        exact h.samples
      · rw [accepted_concat, if_neg Bool.false_ne_true, List.append_nil]
        exact h.dispatched
      · rw [hlost, UInt64.ofNat_add, ← UInt64.add_assoc, ← h.failures]
        exact Meters.Counters.count_tick _ _

namespace Accounts

theorem start (h : w.Serving b) : w.Accounts b [] b where
  keeps q hq := ⟨⟨.idle, h.programs q hq, rfl⟩, h.feeds q hq⟩
  books := ⟨(List.append_nil _).symm, (UInt64.add_zero _).symm, (UInt64.add_zero _).symm⟩
  calm := h.calm

theorem delivered (h : w.Accounts b₀ ts b) (m : Message) : w.Accounts b₀ ts (b.deliver m) := by
  obtain ⟨queue, hdeliver⟩ := Bridge.deliver_eq m b
  refine ⟨fun q hq => (h.keeps q hq).delivered m, ?_, ?_⟩
  · rw [hdeliver]
    exact ⟨h.books.samples, h.books.dispatched, h.books.failures⟩
  · rw [hdeliver]
    exact h.calm

theorem aside (h : w.Accounts b₀ ts b) (ha : w.Aside b b') : w.Accounts b₀ ts b' where
  keeps q hq := (h.keeps q hq).aside hq ha
  books := ⟨ha.samples.trans h.books.samples, ha.dispatched.trans h.books.dispatched,
    ha.failures.trans h.books.failures⟩
  calm := ha.calm.trans h.calm

theorem acted (h : w.Accounts b₀ ts b) (hserve : w.Serving b₀) (hq : q ∈ w.posts)
    (ht : b.turn? n q.task = some b') : w.Accounts b₀ (ts ++ [⟨q.task, n, b, b'⟩]) b' := by
  have hself := h.keeps q hq
  obtain ⟨phase, hprogram, -⟩ := hself.runs
  have hacts := Dispatcher.acts_of_turn? hprogram h.calm hself.live ht
  refine ⟨fun q' hq' => ?_, ?_, (hacts.isFired_eq w.token).trans h.calm⟩
  · by_cases htask : q'.task = q.task
    · obtain rfl : q' = q := List.inj_on_of_nodup_map hserve.tasks hq' hq htask
      exact hself.acted h.calm ht
    · refine (h.keeps q' hq').other_acted hself h.calm htask (fun hstream => htask ?_) ht
      rw [List.inj_on_of_nodup_map hserve.streams hq' hq hstream]
  · have hbooks := h.books.acted h.calm hself.live hacts n
    rw [Turn.filterMap_concat, Turn.filterMap_concat]
    simpa only [Step.taken?, Step.offered?, hprogram] using hbooks

end Accounts

/-- Whatever happens, the dispatchers go on and their accounts are right. -/
theorem accounts_of_history (hserve : w.Serving b₀)
    (h : History (fun i => ∃ q ∈ w.posts, q.task = i) w.Meanwhile b₀ ts b) :
    w.Accounts b₀ ts b := by
  induction h with
  | start => exact .start hserve
  | between _ ha ih =>
    rcases ha with ⟨m, rfl⟩ | ha
    · exact ih.delivered m
    · exact ih.aside ha
  | turn n _ hi ht ih =>
    obtain ⟨q, hq, rfl⟩ := hi
    exact ih.acted hserve hq ht

variable (w) in
/-- The telemetry that was published is stored as far as it makes samples that the sink takes, unit
by unit in the order of publication, and all of it is counted. -/
structure Forwarded (b₀ : Bridge) (ts : List Step) (b : Bridge) : Prop where
  owned : ∀ m, (w.posts.countP fun q => Subject.accepts (w.pattern q) m.subject) =
    if w.concerns m = true then 1 else 0
  taken : ∀ q ∈ w.posts, (told Step.taken? q.task ts).map Prod.fst =
    b.broker.publishedSince b₀.broker.journal.length (w.pattern q)
  readable : ∀ m time, (Telemetry.sample? w.profile m time).isSome ↔ Telemetry.Readable m
  offered : ∀ q ∈ w.posts, (told Step.offered? q.task ts).map Prod.fst =
    (told Step.taken? q.task ts).filterMap fun x => Telemetry.sample? w.profile x.1 x.2
  stored : ∃ new, b.samples w.sink = b₀.samples w.sink ++ new ∧
    (∀ q ∈ w.posts, new.filter (fun x => x.unit? = some q.unit) =
      accepted (told Step.offered? q.task ts)) ∧
    (∀ x ∈ new, ∃ q ∈ w.posts, x.unit? = some q.unit) ∧
    w.dispatched b = w.dispatched b₀ + UInt64.ofNat new.length ∧
    ∃ lost, lost + new.length =
        (b.broker.journal.drop b₀.broker.journal.length).countP w.concerns ∧
      w.failures b = w.failures b₀ + UInt64.ofNat lost

section Shares
variable (hunits : w.posts.map Post.unit = w.profile.unitIds) (hnodup : w.profile.unitIds.Nodup)
  (htokens : ∀ u ∈ w.profile.unitIds, Subject.IsToken u)
include hunits hnodup htokens

/-- A message belongs to one post if it is telemetry of the channel, and to none if it is not. -/
theorem countP_accepts (m : Message) :
    (w.posts.countP fun q => Subject.accepts (w.pattern q) m.subject) =
      if w.concerns m = true then 1 else 0 := by
  have hcount : (w.posts.countP fun q => Subject.accepts (w.pattern q) m.subject) =
      w.profile.unitIds.countP fun u =>
        Subject.accepts (Subject.telemetry u w.profile.subject) m.subject := by
    rw [← hunits, List.countP_map]
    rfl
  rw [hcount]
  split
  next hconcerns =>
    obtain ⟨s, hs, hself⟩ := List.any_eq_true.mp hconcerns
    obtain ⟨u, hu, rfl⟩ := List.mem_map.mp hs
    -- Units are tokens, so no other unit's pattern accepts the subject as well.
    rw [← List.count_eq_one_of_mem hnodup hu, List.count]
    refine List.countP_congr fun v hv => ?_
    rw [beq_iff_eq]
    exact ⟨fun hother => Subject.unit_unique (htokens v hv) (htokens u hu) hother hself,
      fun he => he ▸ hself⟩
  next hconcerns =>
    rw [List.countP_eq_zero]
    intro u hu haccepts
    exact hconcerns (List.any_eq_true.mpr ⟨_, List.mem_map_of_mem hu, haccepts⟩)

omit hnodup in
/-- Whatever a dispatcher offers to the sink bears the unit of its post. -/
theorem Keeps.unit?_of_offered (h : w.Keeps since ts b q) (hq : q ∈ w.posts) {x : Sample}
    {taken : Bool} (hx : (x, taken) ∈ told Step.offered? q.task ts) : x.unit? = some q.unit := by
  obtain ⟨phase, -, hmade⟩ := h.runs
  have hmem : x ∈ (told Step.offered? q.task ts).map Prod.fst ++ phase.held :=
    List.mem_append_left _ (List.mem_map_of_mem hx)
  rw [hmade] at hmem
  obtain ⟨⟨m, time⟩, hm, hsample⟩ := List.mem_filterMap.mp hmem
  -- What was taken came on a subject that the post's pattern accepts, and that tells the unit.
  have hpublished : m ∈ b.broker.publishedSince since (w.pattern q) := by
    rw [← h.feeds.exact]
    exact List.mem_append_left _ (List.mem_map_of_mem hm)
  have haccepts := (List.mem_filter.mp hpublished).2
  have hu : Subject.IsToken q.unit := htokens _ (hunits ▸ List.mem_map_of_mem hq)
  exact Telemetry.unit?_of_sample? (Subject.unit?_of_accepts hu haccepts) hsample

end Shares

/-- A dispatcher that waits has offered all that it made of all that was published for it. -/
theorem Keeps.finished (h : w.Keeps since ts b q) (hcalm : b.isFired w.token = false)
    (hidle : ∃ n, b.turn? n q.task = none) :
    (told Step.taken? q.task ts).map Prod.fst = b.broker.publishedSince since (w.pattern q) ∧
      (told Step.offered? q.task ts).map Prod.fst =
        (told Step.taken? q.task ts).filterMap fun x => Telemetry.sample? w.profile x.1 x.2 := by
  obtain ⟨phase, hprogram, hmade⟩ := h.runs
  obtain ⟨n, hnone⟩ := hidle
  obtain ⟨hphase, hwaiting⟩ := Dispatcher.turn?_eq_none hprogram hcalm h.live hnone
  have hexact := h.feeds.exact
  rw [show b.broker.waiting q.stream = [] from hwaiting, List.append_nil] at hexact
  rw [show phase = .idle from hphase, Dispatcher.Phase.held, List.append_nil] at hmade
  exact ⟨hexact, hmade⟩

theorem length_accepted (offers : List (Sample × Bool)) :
    (accepted offers).length = offers.countP Prod.snd := by
  rw [accepted, List.length_map, List.countP_eq_length_filter]

/-- Every message that was taken either made a sample that was stored or is counted as lost. -/
theorem lost_add_accepted {takes : List (Message × Int)} {offers : List (Sample × Bool)}
    (h : (takes.filterMap fun x => Telemetry.sample? w.profile x.1 x.2).length = offers.length) :
    w.lost takes offers + (accepted offers).length = takes.length := by
  have htakes := List.length_eq_countP_add_countP (l := takes)
    fun x => (Telemetry.sample? w.profile x.1 x.2).isSome
  have hoffers := List.length_eq_countP_add_countP (l := offers) Prod.snd
  rw [List.length_filterMap_eq_countP] at h
  simp only [Bool.not_eq_true, Bool.decide_eq_false] at htakes hoffers
  rw [lost, length_accepted]
  omega

/-! What all turns tell, from what the dispatchers did one by one. -/

section Together
variable (hserve : w.Serving b₀)
  (h : History (fun i => ∃ q ∈ w.posts, q.task = i) w.Meanwhile b₀ ts b)
include hserve h

theorem sum_told {α : Type} (f : Step → Option α) :
    (w.posts.map fun q => (told f q.task ts).length).sum = (ts.filterMap f).length := by
  have hids : ∀ t ∈ ts, t.task ∈ w.posts.map Post.task := by
    intro t ht
    obtain ⟨q, hq, htask⟩ := h.who_of_mem t ht
    exact htask ▸ List.mem_map_of_mem hq
  rw [← Bridge.sum_length_told f hserve.tasks hids, List.map_map]
  rfl

/-- Whatever is offered to the sink bears the unit of the post that offers it. -/
theorem unit?_of_offered (htokens : ∀ u ∈ w.profile.unitIds, Subject.IsToken u) {t : Step}
    (ht : t ∈ ts) {x : Sample} {taken : Bool} (ho : t.offered? = some (x, taken)) :
    ∃ q ∈ w.posts, q.task = t.task ∧ x.unit? = some q.unit := by
  obtain ⟨q, hq, htask⟩ := h.who_of_mem t ht
  have hkeeps := (accounts_of_history hserve h).keeps q hq
  exact ⟨q, hq, htask, hkeeps.unit?_of_offered hserve.units htokens hq
    ((Bridge.mem_told _).mpr ⟨t, ht, htask.symm, ho⟩)⟩

/-- What one dispatcher offered is told apart from all offers by the unit. -/
theorem filter_offered_eq_told (hnodup : w.profile.unitIds.Nodup)
    (htokens : ∀ u ∈ w.profile.unitIds, Subject.IsToken u) (hq : q ∈ w.posts) :
    (ts.filterMap Step.offered?).filter (fun o => o.1.unit? = some q.unit) =
      told Step.offered? q.task ts := by
  refine Bridge.filter_filterMap_eq_told _ _ ?_
  rintro t ht ⟨x, taken⟩ ho
  obtain ⟨q', hq', htask, hunit⟩ := unit?_of_offered hserve h htokens ht ho
  rw [decide_eq_true_iff, hunit, Option.some.injEq, ← htask]
  constructor
  · intro he
    exact congrArg Post.task (List.inj_on_of_nodup_map (hserve.units ▸ hnodup) hq' hq he)
  · intro he
    exact congrArg Post.unit (List.inj_on_of_nodup_map hserve.tasks hq' hq he)

/-- Once the dispatchers wait, each message that is telemetry of the channel was lost or stored. -/
theorem lost_add_stored (hnodup : w.profile.unitIds.Nodup)
    (htokens : ∀ u ∈ w.profile.unitIds, Subject.IsToken u)
    (hidle : ∀ q ∈ w.posts, ∃ n, b.turn? n q.task = none) :
    w.lost (ts.filterMap Step.taken?) (ts.filterMap Step.offered?) +
        (accepted (ts.filterMap Step.offered?)).length =
      (b.broker.journal.drop b₀.broker.journal.length).countP w.concerns := by
  have haccounts := accounts_of_history hserve h
  have hfinished (q : Post) (hq : q ∈ w.posts) :=
    (haccounts.keeps q hq).finished haccounts.calm (hidle q hq)
  have hmade : ((ts.filterMap Step.taken?).filterMap fun x =>
      Telemetry.sample? w.profile x.1 x.2).length = (ts.filterMap Step.offered?).length := by
    rw [List.filterMap_filterMap, ← sum_told hserve h, ← sum_told hserve h]
    refine congrArg List.sum (List.map_congr_left fun q hq => ?_)
    have hoffered := congrArg List.length (hfinished q hq).2
    rw [List.length_map] at hoffered
    rw [hoffered, told, told, List.filterMap_filterMap]
  -- Each message of the channel is counted at the one post whose pattern accepts it.
  rw [lost_add_accepted hmade, ← sum_told hserve h,
    ← Bridge.sum_countP_of_owned _ _ w.posts _ fun m _ =>
      countP_accepts hserve.units hnodup htokens m]
  refine congrArg List.sum (List.map_congr_left fun q hq => ?_)
  have htaken := congrArg List.length (hfinished q hq).1
  rw [List.length_map, Broker.publishedSince, ← List.countP_eq_length_filter] at htaken
  exact htaken

/-- Once the dispatchers wait, all telemetry was forwarded. -/
theorem forwarded_of_idle (hnodup : w.profile.unitIds.Nodup)
    (htokens : ∀ u ∈ w.profile.unitIds, Subject.IsToken u)
    (hidle : ∀ q ∈ w.posts, ∃ n, b.turn? n q.task = none) : w.Forwarded b₀ ts b := by
  have haccounts := accounts_of_history hserve h
  have hfinished (q : Post) (hq : q ∈ w.posts) :=
    (haccounts.keeps q hq).finished haccounts.calm (hidle q hq)
  refine ⟨countP_accepts hserve.units hnodup htokens, fun q hq => (hfinished q hq).1,
    Telemetry.sample?_isSome_iff w.profile, fun q hq => (hfinished q hq).2, _,
    haccounts.books.samples, fun q hq => ?_, fun x hx => ?_, haccounts.books.dispatched, _,
    lost_add_stored hserve h hnodup htokens hidle, haccounts.books.failures⟩
  · rw [← filter_offered_eq_told hserve h hnodup htokens hq, accepted, accepted, List.filter_map,
      List.filter_filter, List.filter_filter]
    simp only [Bool.and_comm, Function.comp_def]
  · obtain ⟨⟨x', taken⟩, ho, rfl⟩ := List.mem_map.mp hx
    obtain ⟨t, ht, hoffered⟩ := List.mem_filterMap.mp (List.mem_filter.mp ho).1
    obtain ⟨q, hq, -, hunit⟩ := unit?_of_offered hserve h htokens ht hoffered
    exact ⟨q, hq, hunit⟩

end Together

/-- Once the dispatchers wait, all telemetry was forwarded exactly once and in order, whatever came
in, whatever the sink took and in whatever order they had their turns; and no dispatcher ever came
to its end. -/
theorem forwards_exactly (hnodup : w.profile.unitIds.Nodup)
    (htokens : ∀ u ∈ w.profile.unitIds, Subject.IsToken u) (hserve : w.Serving b₀)
    (h : History (fun i => ∃ q ∈ w.posts, q.task = i) w.Meanwhile b₀ ts b) :
    (∀ q ∈ w.posts, ∃ phase, b.program? q.task = some (.dispatcher (w.dispatcher q phase))) ∧
      ((∀ q ∈ w.posts, ∃ n, b.turn? n q.task = none) → w.Forwarded b₀ ts b) := by
  refine ⟨fun q hq => ?_, forwarded_of_idle hserve h hnodup htokens⟩
  obtain ⟨phase, hprogram, -⟩ := ((accounts_of_history hserve h).keeps q hq).runs
  exact ⟨phase, hprogram⟩

/-- A new refresher needs no more than a pass that gets all its subscriptions. -/
theorem forwarded_of_pass {r : Refresher} {b₁ : Bridge} (hnew : r.dispatchers = [])
    (hnodup : r.profile.unitIds.Nodup) (htokens : ∀ u ∈ r.profile.unitIds, Subject.IsToken u)
    (hids : ∀ s ∈ b₁.broker.subscriptions, s.id < b₁.broker.nextStream)
    (hcalm : b₁.isFired r.token = false) (hok : (r.pass b₁).2.1.failed = []) :
    ∃ posts : List Post, posts.map Post.unit = r.profile.unitIds ∧
      ∀ ts b, History (fun i => ∃ q ∈ posts, q.task = i) (duty r posts).Meanwhile
          (r.pass b₁).2.2 ts b →
        (∀ q ∈ posts, ∃ n, b.turn? n q.task = none) →
        (duty r posts).Forwarded (r.pass b₁).2.2 ts b := by
  obtain ⟨posts, hserve⟩ := serving_of_pass hnew hnodup htokens hids hcalm hok
  exact ⟨posts, hserve.units, fun ts b h hidle => forwarded_of_idle hserve h hnodup htokens hidle⟩

/-- Two units whose dispatchers write to a sink that is up. -/
def pair : Duty :=
  ⟨⟨.streets, "telemetry", ["u1", "u2"], "bucket"⟩, 0, ⟨0, none⟩, [⟨"u1", 0, 0⟩, ⟨"u2", 1, 1⟩]⟩

/-- The bridge after a pass of their refresher. -/
def pairServed : Bridge :=
  ((Refresher.start pair.profile (.working 0) pair.sink pair.token).pass
    ((Bridge.start [] (.start 0 0) 0).connectSink 0).2).2.2

def sent (subject payload : String) : Message := ⟨subject, none, Payload.ofText payload⟩

def rejecting (b : Bridge) : Bridge :=
  { b with sinks := b.sinks.map fun s => { s with rejecting := true } }

theorem aside_rejecting (w : Duty) (b : Bridge) : w.Aside b (rejecting b) := by
  refine ⟨rfl, fun _ _ => rfl, fun _ _ => rfl, rfl, ?_, rfl, rfl⟩
  unfold Bridge.samples rejecting
  rw [List.getElem?_map]
  cases b.sinks[w.sink]? <;> rfl

theorem pair_serving : pair.Serving pairServed where
  units := rfl
  tasks := by decide
  streams := by decide
  programs := by
    intro q hq
    rcases List.mem_cons.mp hq with rfl | hq
    · rfl
    · rw [List.mem_singleton.mp hq]
      rfl
  feeds := by
    intro q hq
    rcases List.mem_cons.mp hq with rfl | hq
    · exact ⟨⟨_, rfl, rfl, rfl⟩, Nat.le_refl _, rfl⟩
    · rw [List.mem_singleton.mp hq]
      exact ⟨⟨_, rfl, rfl, rfl⟩, Nat.le_refl _, rfl⟩
  calm := rfl

/-- One message is stored, one cannot be read, one is of no unit of the channel and one comes when
the sink rejects it. -/
theorem pair_forwards : ∃ ts b,
    History (fun i => ∃ q ∈ pair.posts, q.task = i) pair.Meanwhile pairServed ts b ∧
    pair.Forwarded pairServed ts b ∧ (b.samples pair.sink).length = 1 ∧ pair.dispatched b = 1 ∧
    pair.failures b = 2 := by
  have h₁ : ∃ q ∈ pair.posts, q.task = 0 := ⟨_, List.mem_cons_self, rfl⟩
  have h₂ : ∃ q ∈ pair.posts, q.task = 1 := ⟨_, List.mem_cons_of_mem _ List.mem_cons_self, rfl⟩
  have hstart : History (fun i => ∃ q ∈ pair.posts, q.task = i) pair.Meanwhile pairServed [] _ :=
    .start
  have hsent := (((hstart.between
    (.inl ⟨sent "u1.telemetry.door" "\x7b\"open\":true\x7d", rfl⟩)).between
    (.inl ⟨sent "u2.telemetry.door" "open", rfl⟩)).between
    (.inl ⟨sent "u3.telemetry.door" "\x7b\"open\":true\x7d", rfl⟩)).between
    (.inl ⟨sent "u1.telemetry.door" "\x7b\"open\":false\x7d", rfl⟩)
  have hstored := ((hsent.turn 0 h₁ (Bridge.turn?_went (by decide +kernel))).turn 0 h₂
    (Bridge.turn?_went (by decide +kernel))).turn 0 h₁ (Bridge.turn?_went (by decide +kernel))
  have hended := ((hstored.between (.inr (aside_rejecting pair _))).turn 0 h₁
    (Bridge.turn?_went (by decide +kernel))).turn 0 h₁ (Bridge.turn?_went (by decide +kernel))
  refine ⟨_, _, hended, (forwards_exactly (by decide) (by decide) pair_serving hended).2 ?_, ?_, ?_,
    ?_⟩
  · intro q hq
    refine ⟨0, Option.isNone_iff_eq_none.mp ?_⟩
    rcases List.mem_cons.mp hq with rfl | hq
    · decide +kernel
    · rw [List.mem_singleton.mp hq]
      decide +kernel
  · decide +kernel
  · decide +kernel
  · decide +kernel

end Duty
end Forwarding
end FleetBridge
