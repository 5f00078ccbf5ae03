import FleetBridge.Proofs.Bridge.Holding

/-!
No stream is held by two tasks. What a turn starts gets the next numbers, and what is held after it
was held before or is new.
-/
namespace FleetBridge

namespace Turn

variable {σ ε σ' ε' : Type}

/-- What holds of the state that goes on after a turn, or of its end. -/
def Yields (N : σ → Bridge → Prop) (D : ε → Bridge → Prop) : Turn σ ε → Prop
  | wait => True
  | next s b => N s b
  | done e b => D e b

theorem Yields.map {N : σ' → Bridge → Prop} {D : ε' → Bridge → Prop} {f : σ → σ'} {g : ε → ε'}
    {t : Turn σ ε} (h : t.Yields (fun s b => N (f s) b) fun e b => D (g e) b) :
    (t.map f g).Yields N D := by
  cases t with
  | wait => trivial
  | next s b => exact h
  | done e b => exact h

theorem Yields.andThen {N : σ' → Bridge → Prop} {D : ε' → Bridge → Prop} {f : σ → σ'}
    {g : ε → Bridge → Turn σ' ε'} {t : Turn σ ε}
    (h : t.Yields (fun s b => N (f s) b) fun e b => (g e b).Yields N D) :
    (t.andThen f g).Yields N D := by
  cases t with
  | wait => trivial
  | next s b => exact h
  | done e b => exact h

theorem Yields.mono {N N' : σ → Bridge → Prop} {D D' : ε → Bridge → Prop} {t : Turn σ ε}
    (h : t.Yields N D) (hN : ∀ s b, N s b → N' s b) (hD : ∀ e b, D e b → D' e b) :
    t.Yields N' D' := by
  cases t with
  | wait => trivial
  | next s b => exact hN s b h
  | done e b => exact hD e b h

end Turn

namespace Bridge

variable {b b' b'' : Bridge} {held held' : List StreamId} {started started' : List Program}
  {old new : Nat}

/-- Programs were started under the next numbers, and all others are as they were. -/
structure Spawns (started : List Program) (b b' : Bridge) : Prop where
  nextTask : b'.nextTask = b.nextTask + started.length
  kept : ∀ j < b.nextTask, b'.program? j = b.program? j
  begun : ∀ j, b.nextTask ≤ j → b'.program? j = (started[j - b.nextTask]?).or (b.program? j)

/-- What is held was held before or is new. -/
inductive Passes (held held' : List StreamId) (b b' : Broker) : Prop
  | kept : held'.Sublist held → Passes held held' b b'
  | opened : held' = held ++ [b.nextStream] → b.nextStream < b'.nextStream → Passes held held' b b'

/-- What a turn does of which `held` was held before it and `held'` after it, if `old` dispatchers
were at work in it and `new` ones are. -/
structure Does (held held' : List StreamId) (started : List Program) (old new : Nat)
    (b b' : Bridge) : Prop extends Spawns started b b' where
  gauge : b'.meters.subscriptions + Int64.ofNat old = b.meters.subscriptions + Int64.ofNat new
  tends : b.broker.Tends held b'.broker
  passes : Passes held (held' ++ started.flatMap Program.held) b.broker b'.broker

namespace Spawns

theorem nil (htasks : b'.tasks = b.tasks) (hnext : b'.nextTask = b.nextTask) :
    Spawns [] b b' where
  nextTask := hnext
  kept j _ := program?_congr htasks j
  begun j _ := program?_congr htasks j

theorem spawn (p : Program) (b : Bridge) : Spawns [p] b (b.spawn p).2 where
  nextTask := rfl
  kept _ hj := program?_spawn_of_ne (Nat.ne_of_lt hj) p
  begun j hj := by
    rcases Nat.eq_or_lt_of_le hj with rfl | hlt
    · rw [Nat.sub_self]
      exact program?_spawn_self p b
    · have hnone : [p][j - b.nextTask]? = none := by
        rw [List.getElem?_eq_none_iff, List.length_singleton]
        omega
      rw [hnone, Option.none_or]
      exact program?_spawn_of_ne (Nat.ne_of_gt hlt) p

theorem trans (h : Spawns started b b') (h' : Spawns started' b' b'') :
    Spawns (started ++ started') b b'' where
  nextTask := by rw [h'.nextTask, h.nextTask, List.length_append, Nat.add_assoc]
  kept j hj := by
    have hlt : j < b'.nextTask := by
      rw [h.nextTask]
      exact Nat.lt_add_right _ hj
    rw [h'.kept j hlt, h.kept j hj]
  begun j hj := by
    by_cases hlt : j < b'.nextTask
    · have hk : j - b.nextTask < started.length :=
        Nat.sub_lt_left_of_lt_add hj (h.nextTask ▸ hlt)
      rw [h'.kept j hlt, h.begun j hj, List.getElem?_append_left hk]
    · have hk : started.length ≤ j - b.nextTask :=
        Nat.le_sub_of_add_le' (h.nextTask ▸ Nat.not_lt.mp hlt)
      have hsub : j - b'.nextTask = j - b.nextTask - started.length := by
        rw [h.nextTask, Nat.sub_add_eq]
      have hnone : started[j - b.nextTask]? = none := List.getElem?_eq_none_iff.mpr hk
      rw [h'.begun j (Nat.not_lt.mp hlt), h.begun j hj, hnone, Option.none_or,
        List.getElem?_append_right hk, hsub]

/-- Who is there was there before or was started. -/
theorem cases (h : Spawns started b b') {j : TaskId} {q : Program} (hq : b'.program? j = some q) :
    b.program? j = some q ∨
      b.nextTask ≤ j ∧ started[j - b.nextTask]? = some q := by
  by_cases hj : j < b.nextTask
  · exact .inl (h.kept j hj ▸ hq)
  · have hle := Nat.not_lt.mp hj
    rw [h.begun j hle] at hq
    cases hs : started[j - b.nextTask]? with
    | none =>
      rw [hs, Option.none_or] at hq
      exact .inl hq
    | some q' =>
      rw [hs, Option.some_or] at hq
      exact .inr ⟨hle, hq⟩

end Spawns

namespace Steady

theorem does (h : Steady held b b') (hsub : held'.Sublist held) :
    Does held held' [] old old b b' where
  toSpawns := .nil h.tasks h.nextTask
  gauge := by rw [h.gauge]
  tends := h.tends
  passes := .kept (by simpa using hsub)

theorem opens (h : Steady held b b') (hlt : b.broker.nextStream < b'.broker.nextStream) :
    Does held (held ++ [b.broker.nextStream]) [] old old b b' where
  toSpawns := .nil h.tasks h.nextTask
  gauge := by rw [h.gauge]
  tends := h.tends
  passes := .opened (by simp) hlt

theorem spawns (h : Steady held b b') {q : Program} (hq : q.held = []) :
    Does held held [q] old old b (b'.spawn q).2 where
  toSpawns := (Spawns.nil h.tasks h.nextTask).trans (.spawn q b')
  gauge := by
    rw [← h.gauge]
    rfl
  tends := h.tends
  passes := .kept (by simp [hq])

end Steady

/-- Every stream that is held has one holder, and numbers are given in order. -/
structure Owned (b : Bridge) : Prop where
  task_lt : ∀ j p, b.program? j = some p → j < b.nextTask
  bounded : b.broker.Bounded
  held_lt : ∀ j p, b.program? j = some p → ∀ s ∈ p.held, s < b.broker.nextStream
  nodup : ∀ j p, b.program? j = some p → p.held.Nodup
  apart : ∀ j p j' p', b.program? j = some p → b.program? j' = some p' → j ≠ j' →
    ∀ s ∈ p.held, s ∉ p'.held

namespace Owned

theorem of_tasks_nil (htasks : b.tasks = []) (hbounded : b.broker.Bounded) : b.Owned := by
  have hnone (j : TaskId) (p : Program) : b.program? j ≠ some p := by
    intro hp
    rw [program?, htasks] at hp
    cases hp
  exact ⟨fun j p hp => absurd hp (hnone j p), hbounded, fun j p hp => absurd hp (hnone j p),
    fun j p hp => absurd hp (hnone j p), fun j p _ _ hp => absurd hp (hnone j p)⟩

theorem of_steady {mine : List StreamId} (ho : b.Owned) (h : Steady mine b b') : b'.Owned := by
  have hsame := program?_congr h.tasks
  refine ⟨fun j p hp => ?_, h.tends.bounded ho.bounded, fun j p hp s hs => ?_, fun j p hp => ?_,
    fun j p j' p' hp hp' => ?_⟩
  · rw [h.nextTask]
    exact ho.task_lt j p (hsame j ▸ hp)
  · exact Nat.lt_of_lt_of_le (ho.held_lt j p (hsame j ▸ hp) s hs) h.tends.streams
  · exact ho.nodup j p (hsame j ▸ hp)
  · exact ho.apart j p j' p' (hsame j ▸ hp) (hsame j' ▸ hp')

/-- Starting a program that holds nothing or what nobody else does. -/
theorem spawn (ho : b.Owned) {q : Program} (hlt : ∀ s ∈ q.held, s < b.broker.nextStream)
    (hnodup : q.held.Nodup)
    (hfree : ∀ j p, b.program? j = some p → ∀ s ∈ p.held, s ∉ q.held) :
    (b.spawn q).2.Owned := by
  have hcases {j : TaskId} {p : Program} (hp : (b.spawn q).2.program? j = some p) :
      (j = b.nextTask ∧ p = q) ∨ j ≠ b.nextTask ∧ b.program? j = some p := by
    by_cases hj : j = b.nextTask
    · rw [hj, program?_spawn_self] at hp
      exact .inl ⟨hj, (Option.some.inj hp).symm⟩
    · rw [program?_spawn_of_ne hj] at hp
      exact .inr ⟨hj, hp⟩
  refine ⟨fun j p hp => ?_, ho.bounded, fun j p hp => ?_, fun j p hp => ?_,
    fun j p j' p' hp hp' hne s hs hs' => ?_⟩
  · rcases hcases hp with ⟨rfl, -⟩ | ⟨-, hp⟩
    · exact Nat.lt_succ_self _
    · exact Nat.lt_succ_of_lt (ho.task_lt j p hp)
  · rcases hcases hp with ⟨-, rfl⟩ | ⟨-, hp⟩
    · exact hlt
    · exact ho.held_lt j p hp
  · rcases hcases hp with ⟨-, rfl⟩ | ⟨-, hp⟩
    · exact hnodup
    · exact ho.nodup j p hp
  · rcases hcases hp with ⟨hj, rfl⟩ | ⟨-, hold⟩
    · rcases hcases hp' with ⟨hj', -⟩ | ⟨-, hold'⟩
      · exact hne (hj.trans hj'.symm)
      · exact hfree j' p' hold' s hs' hs
    · rcases hcases hp' with ⟨-, rfl⟩ | ⟨-, hold'⟩
      · exact hfree j p hold s hs hs'
      · exact ho.apart j p j' p' hold hold' hne s hs hs'

theorem spawn_of_held_nil (ho : b.Owned) {q : Program} (hq : q.held = []) :
    (b.spawn q).2.Owned := by
  refine ho.spawn ?_ ?_ ?_
  · rw [hq]
    exact nofun
  · rw [hq]
    exact .nil
  · rw [hq]
    exact fun _ _ _ _ _ => List.not_mem_nil

end Owned

namespace Passes

variable {k k' : Broker}

theorem nodup (h : Passes held held' k k') (hheld : held.Nodup)
    (hlt : ∀ s ∈ held, s < k.nextStream) : held'.Nodup := by
  cases h with
  | kept hsub => exact hheld.sublist hsub
  | opened he _ =>
    rw [he, List.nodup_append]
    refine ⟨hheld, List.nodup_singleton _, fun s hs s' hs' he => ?_⟩
    rw [List.mem_singleton.mp hs'] at he
    exact Nat.ne_of_lt (hlt s hs) he

theorem mem (h : Passes held held' k k') {s : StreamId} (hs : s ∈ held') :
    s ∈ held ∨ s = k.nextStream := by
  cases h with
  | kept hsub => exact .inl (hsub.subset hs)
  | opened he _ => simpa [he] using hs

theorem lt (h : Passes held held' k k') (hle : k.nextStream ≤ k'.nextStream)
    (hlt : ∀ s ∈ held, s < k.nextStream) : ∀ s ∈ held', s < k'.nextStream := by
  intro s hs
  cases h with
  | kept hsub => exact Nat.lt_of_lt_of_le (hlt s (hsub.subset hs)) hle
  | opened he hnext =>
    rw [he] at hs
    rcases List.mem_append.mp hs with hs | hs
    · exact Nat.lt_of_lt_of_le (hlt s hs) hle
    · rw [List.mem_singleton.mp hs]
      exact hnext

end Passes

section Moved
variable {i : TaskId} {p p' : Program}

/-- A task took a turn: a program stands in its place, programs were started, and the streams passed
on accordingly. -/
structure Moved (i : TaskId) (p p' : Program) (started : List Program) (old new : Nat)
    (b b' : Bridge) : Prop where
  before : b.program? i = some p
  self : b'.program? i = some p'
  kept : ∀ j < b.nextTask, j ≠ i → b'.program? j = b.program? j
  begun : ∀ j q, b'.program? j = some q → j ≠ i →
    b.program? j = some q ∨ b.nextTask ≤ j ∧ started[j - b.nextTask]? = some q
  spawned : ∀ k q, started[k]? = some q → b'.program? (b.nextTask + k) = some q
  nextTask : b'.nextTask = b.nextTask + started.length
  gauge : b'.meters.subscriptions + Int64.ofNat old = b.meters.subscriptions + Int64.ofNat new
  tends : b.broker.Tends p.held b'.broker
  passes : Passes p.held (p'.held ++ started.flatMap Program.held) b.broker b'.broker

theorem Owned.moved {b₁ : Bridge} (ho : b.Owned) (hp : b.program? i = some p)
    (hd : Does p.held p'.held started old new b b₁) (hplaced : Placed i p' b₁ b')
    (hbroker : b'.broker = b₁.broker) (hmeters : b'.meters = b₁.meters) :
    Moved i p p' started old new b b' where
  before := hp
  self := hplaced.self
  kept j hj hne := (hplaced.ne j hne).trans (hd.kept j hj)
  begun j q hq hne := hd.toSpawns.cases (hplaced.ne j hne ▸ hq)
  spawned k q hk := by
    have hlt := ho.task_lt i p hp
    have hne : b.nextTask + k ≠ i := Nat.ne_of_gt (Nat.lt_add_right k hlt)
    have hsub : b.nextTask + k - b.nextTask = k := Nat.add_sub_cancel_left _ _
    rw [hplaced.ne _ hne, hd.begun _ (Nat.le_add_right _ _), hsub, hk, Option.some_or]
  nextTask := hplaced.nextTask.trans hd.nextTask
  gauge := hmeters ▸ hd.gauge
  tends := hbroker ▸ hd.tends
  passes := hbroker ▸ hd.passes

namespace Moved

variable (h : Moved i p p' started old new b b') (ho : b.Owned)
include h ho

/-- What the task and those it started hold now. -/
theorem nodup_held : (p'.held ++ started.flatMap Program.held).Nodup :=
  h.passes.nodup (ho.nodup i p h.before) (ho.held_lt i p h.before)

/-- Who is there is the task itself, was there before, or was started. -/
theorem cases {j : TaskId} {q : Program} (hq : b'.program? j = some q) :
    (j = i ∧ q = p') ∨ (j ≠ i ∧ j < b.nextTask ∧ b.program? j = some q) ∨
      ∃ k, j = b.nextTask + k ∧ started[k]? = some q := by
  by_cases hne : j = i
  · rw [hne, h.self] at hq
    exact .inl ⟨hne, (Option.some.inj hq).symm⟩
  · rcases h.begun j q hq hne with hold | ⟨hle, hnew⟩
    · exact .inr (.inl ⟨hne, ho.task_lt j q hold, hold⟩)
    · exact .inr (.inr ⟨j - b.nextTask, (Nat.add_sub_of_le hle).symm, hnew⟩)

omit h ho in
theorem mem_new {k : Nat} {q : Program} (hk : started[k]? = some q) {s : StreamId}
    (hs : s ∈ q.held) : s ∈ p'.held ++ started.flatMap Program.held :=
  List.mem_append_right _ (List.mem_flatMap.mpr ⟨q, List.mem_of_getElem? hk, hs⟩)

/-- What others held the task and those it started do not hold. -/
theorem not_mem_new {j : TaskId} {q : Program} (hq : b.program? j = some q) (hne : j ≠ i)
    {s : StreamId} (hs : s ∈ q.held) : s ∉ p'.held ++ started.flatMap Program.held := by
  intro hnew
  rcases h.passes.mem hnew with hmine | hfresh
  · exact ho.apart j q i p hq h.before hne s hs hmine
  · exact Nat.ne_of_lt (ho.held_lt j q hq s hs) hfresh

theorem apart_started {k k' : Nat} {q q' : Program} (hk : started[k]? = some q)
    (hk' : started[k']? = some q') (hne : k ≠ k') {s : StreamId} (hs : s ∈ q.held) :
    s ∉ q'.held := by
  have hpairs : started.Pairwise fun q q' => List.Disjoint q.held q'.held :=
    (List.nodup_flatMap.mp (List.nodup_append.mp (h.nodup_held ho)).2.1).2
  obtain ⟨hlt, rfl⟩ := List.getElem?_eq_some_iff.mp hk
  obtain ⟨hlt', rfl⟩ := List.getElem?_eq_some_iff.mp hk'
  rcases Nat.lt_or_gt_of_ne hne with hkk | hkk
  · exact fun hs' => List.pairwise_iff_getElem.mp hpairs k k' hlt hlt' hkk hs hs'
  · exact fun hs' => List.pairwise_iff_getElem.mp hpairs k' k hlt' hlt hkk hs' hs

/-- A stream of somebody else is spared. -/
theorem spares {j : TaskId} {q : Program} (hq : b.program? j = some q) (hne : j ≠ i)
    {s : StreamId} (hs : s ∈ q.held) : b.broker.Spares s b'.broker :=
  h.tends.spares s (ho.held_lt j q hq s hs) (ho.apart j q i p hq h.before hne s hs)

/-- After the turn every stream has one holder as before. -/
theorem owned : b'.Owned where
  task_lt j q hq := by
    rw [h.nextTask]
    rcases h.cases ho hq with ⟨rfl, -⟩ | ⟨-, hlt, -⟩ | ⟨k, rfl, hk⟩
    · exact Nat.lt_add_right _ (ho.task_lt j p h.before)
    · exact Nat.lt_add_right _ hlt
    · exact Nat.add_lt_add_left (List.getElem?_eq_some_iff.mp hk).1 _
  bounded := h.tends.bounded ho.bounded
  held_lt j q hq s hs := by
    have hnew := h.passes.lt h.tends.streams (ho.held_lt i p h.before)
    rcases h.cases ho hq with ⟨-, rfl⟩ | ⟨-, -, hold⟩ | ⟨k, -, hk⟩
    · exact hnew s (List.mem_append_left _ hs)
    · exact Nat.lt_of_lt_of_le (ho.held_lt j q hold s hs) h.tends.streams
    · exact hnew s (mem_new hk hs)
  nodup j q hq := by
    have hnodup := List.nodup_append.mp (h.nodup_held ho)
    rcases h.cases ho hq with ⟨-, rfl⟩ | ⟨-, -, hold⟩ | ⟨k, -, hk⟩
    · exact hnodup.1
    · exact ho.nodup j q hold
    · exact (List.nodup_flatMap.mp hnodup.2.1).1 q (List.mem_of_getElem? hk)
  apart j q j' q' hq hq' hne s hs hs' := by
    have hnodup := List.nodup_append.mp (h.nodup_held ho)
    have hself {k : Nat} {q : Program} (hk : started[k]? = some q) (hs : s ∈ p'.held)
        (hs' : s ∈ q.held) : False :=
      hnodup.2.2 s hs s (List.mem_flatMap.mpr ⟨q, List.mem_of_getElem? hk, hs'⟩) rfl
    rcases h.cases ho hq with ⟨hi, rfl⟩ | ⟨hi, -, hold⟩ | ⟨k, hj, hk⟩
    · rcases h.cases ho hq' with ⟨hi', -⟩ | ⟨hi', -, hold'⟩ | ⟨k', -, hk'⟩
      · exact hne (hi.trans hi'.symm)
      · exact h.not_mem_new ho hold' hi' hs' (List.mem_append_left _ hs)
      · exact hself hk' hs hs'
    · rcases h.cases ho hq' with ⟨-, rfl⟩ | ⟨-, -, hold'⟩ | ⟨k', -, hk'⟩
      · exact h.not_mem_new ho hold hi hs (List.mem_append_left _ hs')
      · exact ho.apart j q j' q' hold hold' hne s hs hs'
      · exact h.not_mem_new ho hold hi hs (mem_new hk' hs')
    · rcases h.cases ho hq' with ⟨-, rfl⟩ | ⟨hi', -, hold'⟩ | ⟨k', hj', hk'⟩
      · exact hself hk hs' hs
      · exact h.not_mem_new ho hold' hi' hs' (mem_new hk hs)
      · have hkk : k ≠ k' := fun he => hne (by rw [hj, hj', he])
        exact h.apart_started ho hk hk' hkk hs hs'

end Moved
end Moved
end Bridge
end FleetBridge
