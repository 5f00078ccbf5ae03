import FleetBridge.Listing
import FleetBridge.Proofs.Roster
import Mathlib.Data.List.Induction

/-!
The roster as an enrolment: the registrations in force, in the order in which they were made. Filing
under ids, counting stamps and sorting by them comes to deleting from a list and appending to it.
-/
namespace FleetBridge.Roster

/-- What may be done to a roster. -/
inductive Operation where
  | register (u : FieldUnit)
  | remove (id : String)
  | evict (id : String) (stamp : Nat)

/-- What an operation is answered with. -/
inductive Answer where
  | stamped (n : Nat)
  /-- Whether there was something to remove. -/
  | removed (there : Bool)
  deriving DecidableEq, Repr

namespace Operation

def isRegistration : Operation → Bool
  | register _ => true
  | _ => false

/-- The answer and the roster after an operation. -/
def perform (r : Roster) : Operation → Answer × Roster
  | register u => (.stamped (r.register u).latest, r.register u)
  | remove id => (.removed (r.contains id), r.remove id)
  | evict id stamp => (.removed (r.holds id stamp), r.evict id stamp)

/-- Whether the registration of a unit that is in force is so no longer afterwards. -/
def Supersedes (id : String) (r : Roster) : Operation → Prop
  | register u => u.unitId = id
  | remove id' => id' = id
  | evict id' stamp => id' = id ∧ r.holds id stamp = true

end Operation

/-- The answers to some operations and the roster after them. -/
def run (ops : List Operation) (r : Roster) : List Answer × Roster :=
  ops.foldl (fun x o => (x.1 ++ [(o.perform x.2).1], (o.perform x.2).2)) ([], r)

/-- The registrations in force, in the order in which they were made, and the numbers that were
given to registrations so far. -/
structure Enrolment where
  listed : List Entry
  given : List Nat

namespace Enrolment

/-- What an operation does to an enrolment and how it is answered. Of the number of a registration
no more is said than that it is above all that were given before. -/
inductive Step (e : Enrolment) : Operation → Answer → Enrolment → Prop
  | registered (u : FieldUnit) (n : Nat) : (∀ k ∈ e.given, k < n) →
    Step e (.register u) (.stamped n)
      ⟨e.listed.filter (fun x => x.unit.unitId ≠ u.unitId) ++ [⟨u, n⟩], e.given ++ [n]⟩
  | removed (id : String) :
    Step e (.remove id) (.removed (e.listed.any fun x => x.unit.unitId = id))
      ⟨e.listed.filter fun x => x.unit.unitId ≠ id, e.given⟩
  | evicted (id : String) (n : Nat) :
    Step e (.evict id n) (.removed (e.listed.any fun x => x.mark = (id, n)))
      ⟨e.listed.filter fun x => x.mark ≠ (id, n), e.given⟩

/-- Operations one after another, from an enrolment with nobody in it. -/
inductive Run : List Operation → List Answer → Enrolment → Prop
  | start : Run [] [] ⟨[], []⟩
  | step {ops : List Operation} {as : List Answer} {e e' : Enrolment} {o : Operation}
    {a : Answer} : Run ops as e → Step e o a e' → Run (ops ++ [o]) (as ++ [a]) e'

end Enrolment

/-- A roster shows an enrolment to all who ask. -/
structure Shows (r : Roster) (e : Enrolment) : Prop where
  entries : r.entries = e.listed
  units : r.units = e.listed.map Entry.unit
  unit? : ∀ id, r.unit? id = (e.listed.find? fun x => x.unit.unitId = id).map Entry.unit
  contains : ∀ id, r.contains id = e.listed.any fun x => x.unit.unitId = id
  size : r.size = e.listed.length
  isEmpty : r.filed.isEmpty = e.listed.isEmpty
  page : ∀ l : Listing, l.roster = r → (l.respond "GET" "/registeredUnits").body =
    (Json.array (e.listed.map fun x => x.unit.toJson)).text

variable {r : Roster} {e : Enrolment} {id : String}

/-! The entries after each operation. -/

/-- Two lists in the order of their stamps are the same if their members are. -/
theorem eq_of_stamps_lt {xs ys : List Entry} (hxs : xs.Pairwise fun a b => a.stamp < b.stamp)
    (hys : ys.Pairwise fun a b => a.stamp < b.stamp) (hmem : ∀ x, x ∈ xs ↔ x ∈ ys) : xs = ys := by
  have hnodup {zs : List Entry} (hzs : zs.Pairwise fun a b => a.stamp < b.stamp) : zs.Nodup := by
    apply hzs.imp
    rintro a b hlt rfl
    exact Nat.lt_irrefl _ hlt
  have hperm : xs.Perm ys := (List.perm_ext_iff_of_nodup (hnodup hxs) (hnodup hys)).mpr hmem
  apply hperm.eq_of_pairwise _ hxs hys
  intro a b _ _ hab hba
  exact absurd (hab.trans hba) (Nat.lt_irrefl _)

/-- A registration deletes the unit from the list and appends it. -/
theorem Sound.entries_register (h : r.Sound) (u : FieldUnit) : (r.register u).entries =
    r.entries.filter (fun x => x.unit.unitId ≠ u.unitId) ++ [⟨u, r.latest + 1⟩] := by
  apply eq_of_stamps_lt (h.register u).entries_ordered
  · rw [List.pairwise_append]
    refine ⟨h.entries_ordered.filter _, List.pairwise_singleton _ _, ?_⟩
    intro a ha b hb
    obtain ⟨x, hx, rfl⟩ := mem_entries.mp (List.mem_filter.mp ha).1
    rw [List.mem_singleton.mp hb]
    exact Nat.lt_succ_of_le (h.stamp_le x hx)
  · intro x
    rw [(h.register u).mem_entries_iff, h.mem_register, List.mem_append, List.mem_filter,
      h.mem_entries_iff, List.mem_singleton, or_comm]
    simp only [decide_eq_true_eq]
    apply or_congr_right
    · constructor
      · intro hx
        exact congrArg Prod.snd hx
      · rintro rfl
        rfl

theorem Sound.entries_remove (h : r.Sound) (id : String) :
    (r.remove id).entries = r.entries.filter fun x => x.unit.unitId ≠ id := by
  apply h.entries_filter (h.remove id)
  intro x
  rw [h.mem_remove, decide_eq_true_eq]
  apply and_congr_right
  intro hx
  rw [h.filed_id x hx]

theorem Sound.entries_evict (h : r.Sound) (id : String) (n : Nat) :
    (r.evict id n).entries = r.entries.filter fun x => x.mark ≠ (id, n) := by
  apply h.entries_filter (h.changes (changes_evict id n r))
  intro x
  rw [h.mem_evict, decide_eq_true_eq]

/-! What is found under an id. -/

/-- The entry of a unit is the one that is listed with its id. -/
theorem Sound.entry?_eq_find? (h : r.Sound) (id : String) :
    r.entry? id = r.entries.find? fun x => x.unit.unitId = id := by
  cases hfind : r.entries.find? fun x => x.unit.unitId = id with
  | none =>
    rw [List.find?_eq_none] at hfind
    rw [Option.eq_none_iff_forall_not_mem]
    intro x hx
    rw [Option.mem_def, h.entry?_eq_some_iff] at hx
    apply hfind x (mem_entries.mpr ⟨_, hx, rfl⟩)
    exact decide_eq_true (h.filed_id _ hx)
  | some x =>
    have hid : x.unit.unitId = id := by simpa using List.find?_some hfind
    have hx := h.mem_entries_iff.mp (List.mem_of_find?_eq_some hfind)
    rw [hid] at hx
    exact h.entry?_eq_some_iff.mpr hx

theorem Sound.contains_eq (h : r.Sound) (id : String) :
    r.contains id = r.entries.any fun x => x.unit.unitId = id := by
  rw [contains, h.entry?_eq_find?, Bool.eq_iff_iff, List.find?_isSome, List.any_eq_true]

theorem Sound.holds_eq (h : r.Sound) (id : String) (n : Nat) :
    r.holds id n = r.entries.any fun x => x.mark = (id, n) := by
  rw [Bool.eq_iff_iff, h.holds_iff, List.any_eq_true]
  simp only [decide_eq_true_eq]

theorem size_eq (r : Roster) : r.size = r.entries.length := by
  rw [r.entries_perm.length_eq, List.length_map]
  rfl

theorem isEmpty_filed (r : Roster) : r.filed.isEmpty = r.entries.isEmpty := by
  rw [r.entries_perm.isEmpty_eq, List.isEmpty_map]

/-- Whoever lists the entries of a roster knows all that it shows. -/
theorem Sound.shows (h : r.Sound) (he : r.entries = e.listed) : r.Shows e where
  entries := he
  units := by rw [units, he]
  unit? id := by rw [Roster.unit?, h.entry?_eq_find?, he]
  contains id := by rw [h.contains_eq, he]
  size := by rw [size_eq, he]
  isEmpty := by rw [isEmpty_filed, he]
  page l hl := by
    have hbody : (l.respond "GET" "/registeredUnits").body =
        (Json.array (l.roster.units.map FieldUnit.toJson)).text := rfl
    rw [hbody, hl, units, he, List.map_map]
    rfl

/-! Runs. -/

theorem run_concat (ops : List Operation) (o : Operation) (r : Roster) :
    run (ops ++ [o]) r = ((run ops r).1 ++ [(o.perform (run ops r).2).1],
      (o.perform (run ops r).2).2) := by
  rw [run, List.foldl_append]
  rfl

theorem changes_perform (o : Operation) (r : Roster) : Changes r (o.perform r).2 := by
  cases o with
  | register u => exact .single (.registered u r)
  | remove id => exact .single (.removed id r)
  | evict id n => exact changes_evict id n r

/-- The roster after more operations comes from the one before by changes. -/
theorem changes_run (ops ops' : List Operation) (r : Roster) :
    Changes (run ops r).2 (run (ops ++ ops') r).2 := by
  induction ops' using List.reverseRecOn with
  | nil => rw [List.append_nil]
  | append_singleton ops' o ih =>
    rw [← List.append_assoc, run_concat]
    exact ih.trans (changes_perform o _)

theorem reachable_run (ops : List Operation) : (run ops empty).2.Reachable :=
  changes_run [] ops empty

theorem latest_perform (o : Operation) (r : Roster) :
    (o.perform r).2.latest = r.latest + if o.isRegistration = true then 1 else 0 := by
  cases o with
  | register u => rfl
  | remove id => rfl
  | evict id n =>
    change (r.evict id n).latest = r.latest
    unfold evict
    split <;> rfl

/-- Stamps count registrations. -/
theorem latest_run (ops : List Operation) :
    (run ops empty).2.latest = ops.countP Operation.isRegistration := by
  induction ops using List.reverseRecOn with
  | nil => rfl
  | append_singleton ops o ih =>
    rw [run_concat, latest_perform, ih, List.countP_append, List.countP_singleton]

/-- An operation does to the list of entries what it does to an enrolment. -/
theorem Sound.step (h : r.Sound) (he : r.entries = e.listed) (hgiven : ∀ k ∈ e.given, k ≤ r.latest)
    (o : Operation) : ∃ e', Enrolment.Step e o (o.perform r).1 e' ∧
      (o.perform r).2.entries = e'.listed ∧ ∀ k ∈ e'.given, k ≤ (o.perform r).2.latest := by
  cases o with
  | register u =>
    refine ⟨_, .registered u (r.latest + 1) ?_, ?_, ?_⟩
    · intro k hk
      exact Nat.lt_succ_of_le (hgiven k hk)
    · rw [← he]
      exact h.entries_register u
    · intro k hk
      show k ≤ r.latest + 1
      rcases List.mem_append.mp hk with hk | hk
      · exact Nat.le_succ_of_le (hgiven k hk)
      · exact (List.mem_singleton.mp hk).le
  | remove id =>
    change ∃ e', Enrolment.Step e _ (.removed (r.contains id)) e' ∧ _
    rw [h.contains_eq, he]
    refine ⟨_, .removed id, ?_, hgiven⟩
    rw [← he]
    exact h.entries_remove id
  | evict id n =>
    change ∃ e', Enrolment.Step e _ (.removed (r.holds id n)) e' ∧ _
    rw [h.holds_eq, he]
    refine ⟨_, .evicted id n, ?_, ?_⟩
    · rw [← he]
      exact h.entries_evict id n
    · rw [latest_perform]
      exact hgiven

/-- Every run of operations on a roster is one on an enrolment, with the same answers. -/
theorem exists_enrolment (ops : List Operation) :
    ∃ e, Enrolment.Run ops (run ops empty).1 e ∧ (run ops empty).2.entries = e.listed ∧
      ∀ k ∈ e.given, k ≤ (run ops empty).2.latest := by
  induction ops using List.reverseRecOn with
  | nil =>
    have hnobody : empty.entries = [] := List.mergeSort_nil
    exact ⟨⟨[], []⟩, .start, hnobody, nofun⟩
  | append_singleton ops o ih =>
    obtain ⟨e, hrun, he, hgiven⟩ := ih
    obtain ⟨e', hstep, he', hgiven'⟩ := (reachable_run ops).sound.step he hgiven o
    rw [run_concat]
    exact ⟨e', hrun.step hstep, he', hgiven'⟩

/-! Numbers from before. -/

/-- What supersedes the registration of a unit leaves no entry of it that was there before. -/
theorem Sound.stamp_gt_of_supersedes (h : r.Sound) {o : Operation} (ho : o.Supersedes id r)
    {x : Entry} (hx : (id, x) ∈ (o.perform r).2.filed) : r.latest < x.stamp := by
  cases o with
  | register u =>
    rcases h.mem_register.mp hx with he | ⟨-, hne⟩
    · cases he
      exact Nat.lt_succ_self _
    · exact absurd ho.symm hne
  | remove id' => exact absurd ho.symm (h.mem_remove.mp hx).2
  | evict id' n =>
    obtain ⟨rfl, hholds⟩ := ho
    obtain ⟨hmem, hmark⟩ := h.mem_evict.mp hx
    obtain ⟨y, hy, hy'⟩ := h.holds_iff.mp hholds
    -- The entry that was held is the only one of the unit.
    have hyid : y.unit.unitId = id' := congrArg Prod.fst hy'
    have hy₁ := h.entry?_eq_some_iff.mpr (hyid ▸ h.mem_entries_iff.mp hy)
    have hx₁ := h.entry?_eq_some_iff.mpr hmem
    obtain rfl : y = x := Option.some.inj (hy₁.symm.trans hx₁)
    exact absurd hy' hmark

/-- A number from before a registration was superseded is no later registration's. -/
theorem holds_of_superseded (ops ops' : List Operation) {o : Operation} {n : Nat}
    (ho : o.Supersedes id (run ops empty).2) (hn : n ≤ (run ops empty).2.latest) :
    (run (ops ++ o :: ops') empty).2.holds id n = false := by
  have hsound := (reachable_run ops).sound
  have hchange := changes_perform o (run ops empty).2
  have hlater := changes_run (ops ++ [o]) ops' empty
  rw [List.append_assoc, List.singleton_append, run_concat] at hlater
  rw [Bool.eq_false_iff]
  intro hholds
  obtain ⟨x, hx, hmark⟩ := ((reachable_run _).sound.holds_iff).mp hholds
  have hid : x.unit.unitId = id := congrArg Prod.fst hmark
  have hstamp : x.stamp = n := congrArg Prod.snd hmark
  have hfiled := (reachable_run _).sound.mem_entries_iff.mp hx
  rw [hid] at hfiled
  have hle : x.stamp ≤ (o.perform (run ops empty).2).2.latest :=
    (hstamp ▸ hn).trans hchange.latest_le
  -- A stamp that was given by then belongs to an entry that was there then.
  have hold := hlater.mem_of_stamp_le (hsound.changes hchange) hfiled hle
  have hgt := hsound.stamp_gt_of_supersedes ho hold
  omega

/-- A roster answers as an enrolment does and shows one. Its ids are filed under themselves, listed
once and in the order of their latest registrations, and whoever remembers a number from before a
registration was superseded evicts nobody with it. -/
theorem lists_registrations_in_order (ops : List Operation) :
    let r := (run ops empty).2
    (∃ e, Enrolment.Run ops (run ops empty).1 e ∧ r.Shows e) ∧
      r.latest = ops.countP Operation.isRegistration ∧
      (∀ x ∈ r.filed, x.2.unit.unitId = x.1) ∧
      (r.entries.map fun x => x.unit.unitId).Nodup ∧
      (r.entries.Pairwise fun x y => x.stamp < y.stamp) ∧
      ∀ before o later id n, ops = before ++ o :: later →
        o.Supersedes id (run before empty).2 → n ≤ (run before empty).2.latest →
          r.holds id n = false ∧ r.evict id n = r := by
  intro r
  have hsound : r.Sound := (reachable_run ops).sound
  obtain ⟨e, hrun, he, -⟩ := exists_enrolment ops
  refine ⟨⟨e, hrun, hsound.shows he⟩, latest_run ops, hsound.filed_id, hsound.nodup_ids,
    hsound.entries_ordered, ?_⟩
  rintro before o later id n rfl ho hn
  have hholds : r.holds id n = false := holds_of_superseded before later ho hn
  refine ⟨hholds, ?_⟩
  rw [evict, hholds]
  rfl

/-- The number of a first registration does not evict the second. -/
example : (run [.register (.bare "U1" 7), .register (.bare "U1" 9), .evict "U1" 1, .remove "U1",
    .evict "U1" 2] empty).1 =
      [.stamped 1, .stamped 2, .removed false, .removed true, .removed false] := by
  decide

end FleetBridge.Roster
