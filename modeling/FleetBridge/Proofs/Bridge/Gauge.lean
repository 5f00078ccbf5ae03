import FleetBridge.Proofs.Bridge.Turns

/-!
The meter of active subscriptions. It moves with the number of the dispatchers that run: whoever is
started is counted once, and whoever comes to its end is counted off once.
-/
namespace FleetBridge

open Program (dispatchers)

namespace Bridge

variable {b b' : Bridge} {g : Int64} {i : TaskId} {n : Nat}

/-- Whether a task is a running dispatcher. -/
def isForwarder (b : Bridge) (j : TaskId) : Bool := (b.program? j).any Program.forwards

/-- The running dispatchers, in the order in which they were started. -/
def forwarders (b : Bridge) : List TaskId := (List.range b.nextTask).filter b.isForwarder

/-- The meter has counted the running dispatchers on from `g`. -/
def Tallied (g : Int64) (b : Bridge) : Prop :=
  b.meters.subscriptions = g + Int64.ofNat b.forwarders.length

theorem isForwarder_eq_true {j : TaskId} :
    b.isForwarder j = true ↔ ∃ d, b.program? j = some (.dispatcher d) := by
  rw [isForwarder, Option.any_eq_true]
  constructor
  · rintro ⟨p, hp, hforwards⟩
    cases p with
    | dispatcher d => exact ⟨d, hp⟩
    | _ => cases hforwards
  · rintro ⟨d, hd⟩
    exact ⟨_, hd, rfl⟩

theorem Owned.mem_forwarders (ho : b.Owned) {j : TaskId} :
    j ∈ b.forwarders ↔ ∃ d, b.program? j = some (.dispatcher d) := by
  rw [forwarders, List.mem_filter, isForwarder_eq_true, List.mem_range]
  exact ⟨fun h => h.2, fun ⟨d, hd⟩ => ⟨ho.task_lt j _ hd, d, hd⟩⟩

theorem Owned.forwarders_eq_nil (ho : b.Owned)
    (h : ∀ j d, b.program? j ≠ some (.dispatcher d)) : b.forwarders = [] := by
  refine List.eq_nil_iff_forall_not_mem.mpr fun j hj => ?_
  obtain ⟨d, hd⟩ := ho.mem_forwarders.mp hj
  exact h j d hd

/-- Without dispatchers the meter stands where it started. -/
theorem tallied_iff_of_nil (h : b.forwarders = []) :
    b.Tallied g ↔ b.meters.subscriptions = g := by
  have hzero : Int64.ofNat b.forwarders.length = 0 := by
    rw [h]
    rfl
  rw [Tallied, hzero, Int64.add_zero]

theorem nodup_forwarders (b : Bridge) : b.forwarders.Nodup := List.nodup_range.filter _

/-! How many run after programs were started. -/

/-- Of two selections that differ at one place only. -/
theorem countP_eq_of_ne {p q : TaskId → Bool} {xs : List TaskId} (hxs : xs.Nodup) (hi : i ∈ xs)
    (h : ∀ j ∈ xs, j ≠ i → p j = q j) :
    xs.countP p + [i].countP q = xs.countP q + [i].countP p := by
  have hperm := List.perm_cons_erase hi
  have hrest : (xs.erase i).countP p = (xs.erase i).countP q :=
    List.countP_congr fun j hj => by
      obtain ⟨hne, hmem⟩ := hxs.mem_erase_iff.mp hj
      rw [h j hmem hne]
  have hsplit (f : TaskId → Bool) : xs.countP f = [i].countP f + (xs.erase i).countP f := by
    rw [hperm.countP_eq f, ← List.singleton_append, List.countP_append]
  rw [hsplit p, hsplit q, hrest]
  omega

/-- Those that were there and those that were started are counted apart. -/
theorem length_forwarders {started : List Program}
    (hnext : b'.nextTask = b.nextTask + started.length)
    (hspawned : ∀ k q, started[k]? = some q → b'.program? (b.nextTask + k) = some q) :
    b'.forwarders.length =
      (List.range b.nextTask).countP b'.isForwarder + dispatchers started := by
  have hnew : (List.range started.length).countP (fun k => b'.isForwarder (b.nextTask + k)) =
      dispatchers started := by
    have hsame : ∀ k ∈ List.range started.length,
        b'.isForwarder (b.nextTask + k) = started[k]?.any Program.forwards := by
      intro k hk
      have hlt : k < started.length := List.mem_range.mp hk
      rw [isForwarder, hspawned k started[k] (List.getElem?_eq_getElem hlt),
        List.getElem?_eq_getElem hlt]
    rw [List.countP_congr fun k hk => by rw [hsame k hk]]
    have hall : (List.range started.length).map (fun k => started[k]?) = started.map some := by
      refine List.ext_getElem (by simp) fun k _ hk => ?_
      simp
    have hcount := congrArg (List.countP (Option.any Program.forwards)) hall
    rw [List.countP_map, List.countP_map] at hcount
    exact hcount
  rw [forwarders, ← List.countP_eq_length_filter, hnext, List.range_add, List.countP_append,
    List.countP_map, ← hnew]
  rfl

/-- The meter follows when it was moved by as much as the number of the running dispatchers. -/
theorem Tallied.step {old new : Nat} (h : b.Tallied g)
    (hgauge : b'.meters.subscriptions + Int64.ofNat old = b.meters.subscriptions + Int64.ofNat new)
    (hcount : b'.forwarders.length + old = b.forwarders.length + new) : b'.Tallied g := by
  refine (Int64.add_left_inj (Int64.ofNat old)).mp ?_
  rw [hgauge, h, Int64.add_assoc, Int64.add_assoc, ← Int64.ofNat_add, ← Int64.ofNat_add, hcount]

/-- The meter still tells the number when the same dispatchers run. -/
theorem Tallied.congr (h : b.Tallied g) (ho : b.Owned) (ho' : b'.Owned)
    (hgauge : b'.meters.subscriptions = b.meters.subscriptions)
    (hsame : ∀ j d, b'.program? j = some (.dispatcher d) ↔ b.program? j = some (.dispatcher d)) :
    b'.Tallied g := by
  have hperm : b'.forwarders.Perm b.forwarders := by
    refine (List.perm_ext_iff_of_nodup b'.nodup_forwarders b.nodup_forwarders).mpr fun j => ?_
    rw [ho'.mem_forwarders, ho.mem_forwarders]
    exact exists_congr (hsame j)
  rw [Tallied, hperm.length_eq, hgauge]
  exact h

theorem Tallied.spawns {started : List Program} (h : b.Tallied g)
    (hspawns : Spawns started b b')
    (hgauge : b'.meters.subscriptions =
      b.meters.subscriptions + Int64.ofNat (dispatchers started)) : b'.Tallied g := by
  have hspawned : ∀ k q, started[k]? = some q → b'.program? (b.nextTask + k) = some q := by
    intro k q hk
    rw [hspawns.begun _ (Nat.le_add_right _ _), Nat.add_sub_cancel_left, hk, Option.some_or]
  have hkept : (List.range b.nextTask).countP b'.isForwarder = b.forwarders.length := by
    rw [forwarders, ← List.countP_eq_length_filter]
    refine List.countP_congr fun j hj => ?_
    rw [isForwarder, hspawns.kept j (List.mem_range.mp hj), isForwarder]
  have hcount : b'.forwarders.length + 0 = b.forwarders.length + dispatchers started := by
    rw [length_forwarders hspawns.nextTask hspawned, hkept, Nat.add_zero]
  refine h.step ?_ hcount
  rw [hgauge]
  exact Int64.add_zero _

/-- A turn of a task moves the meter and the number of the running dispatchers alike. -/
theorem Tallied.moved {p p' : Program} {started : List Program} (h : b.Tallied g) (ho : b.Owned)
    (hm : Moved i p p' started (dispatchers [p]) (dispatchers (p' :: started)) b b') :
    b'.Tallied g := by
  have hself (c : Bridge) {q : Program} (hq : c.program? i = some q) :
      [i].countP c.isForwarder = dispatchers [q] := by
    have hsame : c.isForwarder i = q.forwards := by
      rw [isForwarder, hq, Option.any_some]
    rw [dispatchers, List.countP_singleton, List.countP_singleton, hsame]
  have hmem : i ∈ List.range b.nextTask := List.mem_range.mpr (ho.task_lt i p hm.before)
  have hswap := countP_eq_of_ne List.nodup_range hmem fun j hj hne => by
    have hsame : b'.isForwarder j = b.isForwarder j := by
      rw [isForwarder, hm.kept j (List.mem_range.mp hj) hne, isForwarder]
    exact hsame
  rw [hself b hm.before, hself b' hm.self] at hswap
  have hcons : dispatchers (p' :: started) = dispatchers [p'] + dispatchers started := by
    rw [← List.singleton_append, dispatchers, List.countP_append, dispatchers, dispatchers]
  refine h.step hm.gauge ?_
  rw [length_forwarders hm.nextTask hm.spawned, hcons, forwarders, ← List.countP_eq_length_filter]
  omega

theorem Tallied.turn (h : b.Tallied g) (ho : b.Owned) (ht : b.turn? n i = some b') :
    b'.Tallied g := by
  obtain ⟨p, p', started, b₁, hp, htook⟩ := turn?_took ht
  exact h.moved ho (htook.moved ho hp)

end Bridge
end FleetBridge
