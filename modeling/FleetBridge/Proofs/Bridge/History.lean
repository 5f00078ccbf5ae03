import FleetBridge.Bridge.Schedule
import FleetBridge.Proofs.Bridge.Course
import Mathlib.Algebra.BigOperators.Group.List.Basic
import Mathlib.Algebra.GroupWithZero.Nat
import Mathlib.Data.List.Nodup

/-!
Histories: the turns that the tasks of a bridge take, one after another, while others do what they
may in between. Which task comes next is left open, so a statement about every history holds for
every interleaving.
-/
namespace FleetBridge.Bridge

/-- A turn that a task took: by which chance, and the bridge before and after it. -/
structure Step where
  task : TaskId
  chance : Nat
  before : Bridge
  after : Bridge

/-- A history lists its turns in the order in which they were taken; `who` says which tasks take
turns and `others` what else may happen between two of them. -/
inductive History (who : TaskId → Prop) (others : Bridge → Bridge → Prop) (b₀ : Bridge) :
    List Step → Bridge → Prop
  | start : History who others b₀ [] b₀
  | between {ts : List Step} {b b' : Bridge} :
    History who others b₀ ts b → others b b' → History who others b₀ ts b'
  | turn {ts : List Step} {i : TaskId} {b b' : Bridge} (n : Nat) :
    History who others b₀ ts b → who i → b.turn? n i = some b' →
    History who others b₀ (ts ++ [⟨i, n, b, b'⟩]) b'

variable {who : TaskId → Prop} {others : Bridge → Bridge → Prop} {b₀ b : Bridge} {ts : List Step}

theorem History.who_of_mem (h : History who others b₀ ts b) : ∀ t ∈ ts, who t.task := by
  induction h with
  | start => exact nofun
  | between _ _ ih => exact ih
  | turn n _ hi _ ih =>
    intro t ht
    rcases List.mem_append.mp ht with ht | ht
    · exact ih t ht
    · rw [List.mem_singleton.mp ht]
      exact hi

theorem History.mono {others' : Bridge → Bridge → Prop} (h : History who others b₀ ts b)
    (hothers : ∀ b b', others b b' → others' b b') : History who others' b₀ ts b := by
  induction h with
  | start => exact .start
  | between _ hb ih => exact ih.between (hothers _ _ hb)
  | turn n _ hi ht ih => exact ih.turn n hi ht

theorem History.append {b₁ : Bridge} {ts₁ : List Step} (h₁ : History who others b₀ ts₁ b₁)
    (h₂ : History who others b₁ ts b) : History who others b₀ (ts₁ ++ ts) b := by
  induction h₂ with
  | start =>
    rw [List.append_nil]
    exact h₁
  | between _ hb ih => exact ih.between hb
  | turn n _ hi ht ih =>
    rw [← List.append_assoc]
    exact ih.turn n hi ht

/-- Up to each of its turns a history is a history. -/
theorem History.of_prefix (h : History who others b₀ ts b) {ts₁ : List Step} {t : Step}
    (ht : ts₁ ++ [t] <+: ts) :
    History who others b₀ ts₁ t.before ∧ t.before.turn? t.chance t.task = some t.after := by
  induction h with
  | start => exact absurd (List.prefix_nil.mp ht) (by simp)
  | between _ _ ih => exact ih ht
  | turn n hbefore _ hturn ih =>
    rcases List.prefix_concat_iff.mp ht with he | ht
    · obtain ⟨rfl, rfl⟩ := List.concat_inj.mp (by simpa using he)
      exact ⟨hbefore, hturn⟩
    · exact ih ht

theorem History.exists_of_append {ts₁ ts₂ : List Step}
    (h : History who others b₀ (ts₁ ++ ts₂) b) : ∃ b₁, History who others b₀ ts₁ b₁ := by
  cases ts₂ with
  | nil => exact ⟨b, ts₁.append_nil ▸ h⟩
  | cons t ts₂ => exact ⟨t.before, (h.of_prefix ⟨ts₂, by simp⟩).1⟩

/-- After each of its turns a history goes on as a history. -/
theorem History.rest {ts₁ ts₂ : List Step} {t : Step}
    (h : History who others b₀ (ts₁ ++ t :: ts₂) b) : History who others t.after ts₂ b := by
  generalize hts : ts₁ ++ t :: ts₂ = ts at h
  induction h generalizing ts₂ with
  | start => exact absurd hts (by simp)
  | between _ hb ih => exact (ih hts).between hb
  | turn n _ hi ht ih =>
    rcases List.eq_nil_or_concat ts₂ with rfl | ⟨ts₃, t', rfl⟩
    · obtain ⟨-, rfl⟩ := List.concat_inj.mp (by simpa using hts)
      exact .start
    · rw [List.concat_eq_append, ← List.cons_append, ← List.append_assoc] at hts
      obtain ⟨hbefore, hlast⟩ := List.append_inj' hts rfl
      obtain rfl := List.singleton_inj.mp hlast
      rw [List.concat_eq_append]
      exact (ih hbefore).turn n hi ht

theorem History.turn_of_mem (h : History who others b₀ ts b) {t : Step} (ht : t ∈ ts) :
    t.before.turn? t.chance t.task = some t.after := by
  obtain ⟨ts₁, ts₂, rfl⟩ := List.append_of_mem ht
  have hprefix : ts₁ ++ [t] <+: ts₁ ++ t :: ts₂ := ⟨ts₂, by simp⟩
  exact (h.of_prefix hprefix).2

/-- The bridge after a turn of a task. -/
def went (i : TaskId) (b : Bridge) : Bridge := (b.turn? 0 i).getD b

theorem turn?_went {i : TaskId} (h : (b.turn? 0 i).isSome = true) :
    b.turn? 0 i = some (b.went i) := by
  obtain ⟨b', hb'⟩ := Option.isSome_iff_exists.mp h
  rw [went, hb', Option.getD_some]

/-- A history goes on with the turn of a task that can take one. -/
theorem History.went {i : TaskId} (h : History who others b₀ ts b) (hi : who i)
    (ht : (b.turn? 0 i).isSome = true) :
    History who others b₀ (ts ++ [⟨i, 0, b, b.went i⟩]) (b.went i) :=
  h.turn 0 hi (turn?_went ht)

/-- The turns that some tasks take one after another. -/
def played : List TaskId → Bridge → List Step
  | [], _ => []
  | i :: is, b => ⟨i, 0, b, b.went i⟩ :: played is (b.went i)

/-- The bridge after the turns that some tasks take one after another. -/
def afterPlay (is : List TaskId) (b : Bridge) : Bridge := is.foldl (fun b i => b.went i) b

/-- Every one of these tasks can take its turn when it comes to it. -/
def plays : List TaskId → Bridge → Bool
  | [], _ => true
  | i :: is, b => (b.turn? 0 i).isSome && plays is (b.went i)

theorem History.played (h : History who others b₀ ts b) (is : List TaskId) (hwho : ∀ i ∈ is, who i)
    (hplays : plays is b = true) :
    History who others b₀ (ts ++ Bridge.played is b) (afterPlay is b) := by
  induction is generalizing ts b with
  | nil =>
    rw [Bridge.played, List.append_nil]
    exact h
  | cons i is ih =>
    rw [plays, Bool.and_eq_true] at hplays
    have hrest := ih (h.went (hwho i List.mem_cons_self) hplays.1)
      (fun j hj => hwho j (List.mem_cons_of_mem _ hj)) hplays.2
    rw [List.append_assoc] at hrest
    exact hrest

/-! What the turns of one task tell. -/

section Told
variable {α : Type} (f : Step → Option α) {i : TaskId}

/-- What is read off the turns of one task, in their order. -/
def told (i : TaskId) (ts : List Step) : List α := (ts.filter fun t => t.task = i).filterMap f

theorem told_append (ts ts' : List Step) : told f i (ts ++ ts') = told f i ts ++ told f i ts' := by
  rw [told, List.filter_append, List.filterMap_append]
  rfl

theorem told_append_self (ts : List Step) (t : Step) (h : t.task = i) :
    told f i (ts ++ [t]) = told f i ts ++ (f t).toList := by
  rw [told, List.filter_append, List.filter_cons_of_pos (by simpa using h), List.filter_nil,
    Turn.filterMap_concat]
  rfl

@[simp] theorem told_append_of_ne (ts : List Step) (t : Step) (h : t.task ≠ i) :
    told f i (ts ++ [t]) = told f i ts := by
  rw [told, List.filter_append, List.filter_cons_of_neg (by simpa using h)]
  simp [told]

theorem told_subset_append (ts : List Step) (t : Step) : told f i ts ⊆ told f i (ts ++ [t]) := by
  intro a ha
  by_cases h : t.task = i
  · rw [told_append_self f ts t h]
    exact List.mem_append_left _ ha
  · rw [told_append_of_ne f ts t h]
    exact ha

theorem mem_told {a : α} : a ∈ told f i ts ↔ ∃ t ∈ ts, t.task = i ∧ f t = some a := by
  simp [told, and_assoc]

theorem told_eq_nil (h : ∀ t ∈ ts, t.task = i → f t = none) : told f i ts = [] := by
  refine List.eq_nil_iff_forall_not_mem.mpr fun a ha => ?_
  obtain ⟨t, ht, hi, hf⟩ := (mem_told f).mp ha
  rw [h t ht hi] at hf
  cases hf

/-- What the other tasks tell is not changed when one task's turns are left out. -/
theorem told_filter_ne (i k : TaskId) (ts : List Step) :
    told f k (ts.filter fun t => !decide (t.task = i)) = if k = i then [] else told f k ts := by
  rw [told, List.filter_filter]
  split
  next h =>
    subst h
    rw [List.filter_eq_nil_iff.mpr fun t _ => by simp]
    rfl
  next h =>
    have hsame : (ts.filter fun t => decide (t.task = k) && !decide (t.task = i)) =
        ts.filter fun t => t.task = k := by
      refine List.filter_congr fun t _ => ?_
      by_cases hk : t.task = k
      · simp [hk, h]
      · simp [hk]
    rw [hsame]
    rfl

/-- Where each task tells the same in two ways, all turns do, up to the order of the tasks. -/
theorem filterMap_perm_of_told {g : Step → Option α} (h : ∀ i, told f i ts = told g i ts) :
    (ts.filterMap f).Perm (ts.filterMap g) := by
  -- One task after another is taken out, so that the turns that are left become fewer.
  induction hn : ts.length using Nat.strongRecOn generalizing ts with
  | _ n ih =>
    cases hts : ts with
    | nil => exact .nil
    | cons t ts' =>
      rw [← hts]
      have hsplit (e : Step → Option α) : (ts.filterMap e).Perm
          (told e t.task ts ++ (ts.filter fun t' => !decide (t'.task = t.task)).filterMap e) := by
        rw [told, ← List.filterMap_append]
        exact (List.filter_append_perm (fun t' => decide (t'.task = t.task)) ts).symm.filterMap e
      have hfewer : (ts.filter fun t' => !decide (t'.task = t.task)).length < n := by
        rw [← hn, hts, List.filter_cons_of_neg (by simp)]
        exact Nat.lt_succ_of_le (List.length_filter_le _ _)
      have hrest := ih _ hfewer (fun k => by rw [told_filter_ne, told_filter_ne, h]) rfl
      refine (hsplit f).trans (.trans ?_ (hsplit g).symm)
      rw [h t.task]
      exact hrest.append_left _

end Told

/-- Things that show whose turn they came in are the same read off all turns or off one task's. -/
theorem filter_filterMap_eq_told {α : Type} (f : Step → Option α) (p : α → Bool) {i : TaskId}
    (h : ∀ t ∈ ts, ∀ a, f t = some a → (p a = true ↔ t.task = i)) :
    (ts.filterMap f).filter p = told f i ts := by
  induction ts with
  | nil => rfl
  | cons t ts ih =>
    have hrest := ih fun t' ht' => h t' (List.mem_cons_of_mem _ ht')
    have hfirst := h t List.mem_cons_self
    unfold told at hrest ⊢
    cases hf : f t with
    | none =>
      by_cases hi : t.task = i <;> simp [hf, hi, hrest]
    | some a =>
      by_cases hi : t.task = i
      · simp [hf, hi, hrest, (hfirst a hf).mpr hi]
      · simp [hf, hi, hrest, mt (hfirst a hf).mp hi]

/-! Counting by tasks. -/

theorem countP_eq_sum {β : Type} (p : β → Bool) (ys : List β) :
    ys.countP p = (ys.map fun y => if p y = true then 1 else 0).sum := by
  induction ys with
  | nil => rfl
  | cons y ys ih => rw [List.countP_cons, List.map_cons, List.sum_cons, ih, Nat.add_comm]

theorem sum_countP_comm {α β : Type} (p : α → β → Bool) (xs : List α) (ys : List β) :
    (xs.map fun x => ys.countP (p x)).sum = (ys.map fun y => xs.countP fun x => p x y).sum := by
  induction xs with
  | nil => simp
  | cons x xs ih =>
    simp only [List.map_cons, List.sum_cons, List.countP_cons]
    rw [ih, countP_eq_sum, List.sum_map_add, Nat.add_comm]

/-- Things that each have at most one owner are counted by their owners. -/
theorem sum_countP_of_owned {α β : Type} (p : α → β → Bool) (q : β → Bool) (xs : List α)
    (ys : List β) (h : ∀ y ∈ ys, (xs.countP fun x => p x y) = if q y = true then 1 else 0) :
    (xs.map fun x => ys.countP (p x)).sum = ys.countP q := by
  rw [sum_countP_comm, List.map_congr_left h, ← countP_eq_sum]

/-- What the tasks tell one by one is what all turns tell. -/
theorem sum_length_told {α : Type} (f : Step → Option α) {ids : List TaskId} (hids : ids.Nodup)
    (h : ∀ t ∈ ts, t.task ∈ ids) :
    (ids.map fun i => (told f i ts).length).sum = (ts.filterMap f).length := by
  have htold (i : TaskId) : (told f i ts).length =
      ts.countP fun t => decide (t.task = i) && (f t).isSome := by
    rw [told, List.length_filterMap_eq_countP, List.countP_filter]
    simp only [Bool.and_comm]
  simp only [htold]
  rw [List.length_filterMap_eq_countP]
  refine sum_countP_of_owned _ _ ids ts fun t ht => ?_
  by_cases hf : (f t).isSome = true
  · simp only [hf, Bool.and_true, if_true]
    rw [← List.count_eq_one_of_mem hids (h t ht), List.count]
    refine List.countP_congr fun i _ => ?_
    rw [decide_eq_true_iff, beq_iff_eq, eq_comm]
  · simp [hf]

end FleetBridge.Bridge
