import FleetBridge.Table
import Mathlib.Order.RelClasses
import Mathlib.Data.List.Induction
import Mathlib.Data.List.Nodup

/-!
Laws of tables: what is found after filing and erasing, which operations commute, and that a table
in order is known by what is found in it.
-/
namespace FleetBridge.Table

variable {κ α β : Type}

section Order
variable [LT κ]

/-- Each key once, in increasing order. -/
def Ordered (t : Table κ α) : Prop := List.Pairwise (fun x y => x.1 < y.1) t

theorem Ordered.tail {x : κ × α} {t : Table κ α} (h : Ordered (x :: t : Table κ α)) : Ordered t :=
  (List.pairwise_cons.mp h).2

theorem Ordered.head_lt {x : κ × α} {t : Table κ α} (h : Ordered (x :: t : Table κ α)) :
    ∀ y ∈ t, x.1 < y.1 :=
  (List.pairwise_cons.mp h).1

theorem Ordered.map_snd {t : Table κ α} (h : Ordered t) (f : α → β) :
    Ordered (t.map fun x => (x.1, f x.2)) :=
  List.pairwise_map.mpr h

variable [IsStrictTotalOrder κ (· < ·)]

theorem Ordered.head_ne {x : κ × α} {t : Table κ α} (h : Ordered (x :: t : Table κ α)) :
    ∀ y ∈ t, y.1 ≠ x.1 := by
  intro y hy he
  have hlt := h.head_lt y hy
  rw [he] at hlt
  exact Std.Irrefl.irrefl _ hlt

theorem Ordered.nodup_keys {t : Table κ α} (h : Ordered t) : t.keys.Nodup := by
  induction t with
  | nil => exact .nil
  | cons x t ih =>
    refine List.nodup_cons.mpr ⟨?_, ih h.tail⟩
    intro hx
    obtain ⟨y, hy, he⟩ := List.mem_map.mp hx
    exact h.head_ne y hy he

end Order

variable [DecidableEq κ]

theorem get?_map_snd (f : α → β) (t : Table κ α) (k : κ) :
    get? k (t.map fun x => (x.1, f x.2)) = (get? k t).map f := by
  induction t with
  | nil => rfl
  | cons x t ih =>
    simp only [List.map_cons, get?]
    split
    · rfl
    · exact ih

theorem mem_of_get? {t : Table κ α} {k : κ} {v : α} (h : get? k t = some v) : (k, v) ∈ t := by
  induction t with
  | nil => cases h
  | cons x t ih =>
    simp only [get?] at h
    split at h
    next hk =>
      cases h
      rw [hk]
      exact List.mem_cons_self
    next => exact List.mem_cons_of_mem _ (ih h)

theorem get?_eq_none_iff {t : Table κ α} {k : κ} : t.get? k = none ↔ k ∉ t.keys := by
  induction t with
  | nil => simp [get?, keys]
  | cons x t ih =>
    by_cases hk : k = x.1
    · simp [get?, keys, hk]
    · simpa [get?, keys, hk] using ih

theorem erase_sublist (k : κ) (t : Table κ α) : List.Sublist (erase k t) t := by
  induction t with
  | nil => exact .slnil
  | cons x t ih =>
    simp only [erase]
    split
    · exact List.sublist_cons_self _ _
    · exact ih.cons_cons _

@[simp] theorem get?_erase_of_ne {k k' : κ} (h : k' ≠ k) (t : Table κ α) :
    get? k' (erase k t) = get? k' t := by
  induction t with
  | nil => rfl
  | cons x t ih =>
    by_cases hx : k = x.1
    · simp [erase, get?, ← hx, h]
    · simp only [erase, hx, if_false, get?, ih]

theorem erase_comm {k k' : κ} (h : k ≠ k') (t : Table κ α) :
    erase k (erase k' t) = erase k' (erase k t) := by
  induction t with
  | nil => rfl
  | cons x t ih =>
    by_cases hx : k = x.1
    · have hx' : k' ≠ x.1 := fun e => h (hx.trans e.symm)
      simp [erase, ← hx, Ne.symm h]
    · by_cases hx' : k' = x.1
      · simp [erase, ← hx', h]
      · simp only [erase, hx, hx', if_false, ih]

theorem perm_cons_erase {t : Table κ α} {k : κ} {v : α} (h : get? k t = some v) :
    List.Perm t ((k, v) :: erase k t) := by
  induction t with
  | nil => cases h
  | cons x t ih =>
    by_cases hk : k = x.1
    · rw [get?, if_pos hk] at h
      cases h
      rw [erase, if_pos hk, hk]
    · rw [get?, if_neg hk] at h
      rw [erase, if_neg hk]
      exact ((ih h).cons x).trans (.swap _ _ _)

theorem erase_of_get?_none {t : Table κ α} {k : κ} (h : get? k t = none) : erase k t = t := by
  induction t with
  | nil => rfl
  | cons x t ih =>
    by_cases hk : k = x.1
    · rw [get?, if_pos hk] at h
      cases h
    · rw [get?, if_neg hk] at h
      rw [erase, if_neg hk, ih h]

section Filing
variable [LT κ] [DecidableLT κ]

@[simp] theorem get?_put_self (k : κ) (v : α) (t : Table κ α) : get? k (put k v t) = some v := by
  induction t with
  | nil => simp [put, get?]
  | cons x t ih =>
    simp only [put]
    split
    · simp [get?]
    next hk =>
      split
      · simp [get?]
      · simp [get?, hk, ih]

@[simp] theorem get?_put_of_ne {k k' : κ} (h : k' ≠ k) (v : α) (t : Table κ α) :
    get? k' (put k v t) = get? k' t := by
  induction t with
  | nil => simp [put, get?, h]
  | cons x t ih =>
    simp only [put]
    split
    next hk => simp [get?, ← hk, h]
    next hk =>
      split
      · simp [get?, h]
      · simp only [get?, ih]

theorem put_comm [IsStrictTotalOrder κ (· < ·)] {k k' : κ} (h : k ≠ k') (v w : α)
    (t : Table κ α) : put k v (put k' w t) = put k' w (put k v t) := by
  -- By symmetry `k` is the key that is filed in front.
  wlog hlt : k < k' generalizing k k' v w
  · have hgt : k' < k := by
      by_contra hgt
      exact h (Std.Trichotomous.trichotomous k k' hlt hgt)
    exact (this h.symm w v hgt).symm
  have hgt : ¬ k' < k := fun hgt => Std.Irrefl.irrefl k (IsTrans.trans k k' k hlt hgt)
  induction t with
  | nil => simp [put, h, hlt, h.symm, hgt]
  | cons x t ih =>
    by_cases hx : k = x.1
    · simp [put, ← hx, h.symm, hgt]
    · by_cases hx' : k' = x.1
      · simp [put, ← hx', h, hlt, h.symm, hgt]
      · by_cases hl : k < x.1
        · by_cases hl' : k' < x.1
          · simp [put, hx, hx', hl, hl', h, hlt, h.symm, hgt]
          · simp [put, hx, hx', hl, hl', h.symm, hgt]
        · have hl' : ¬ k' < x.1 := fun hl' => hl (IsTrans.trans k k' x.1 hlt hl')
          simp [put, hx, hx', hl, hl', ih]

end Filing

/-! Tables in order. -/

section Order
variable [LT κ]

theorem Ordered.erase {t : Table κ α} (h : Ordered t) (k : κ) : Ordered (t.erase k) :=
  List.Pairwise.sublist (erase_sublist k t) h

variable [IsStrictTotalOrder κ (· < ·)]

theorem Ordered.get?_eq_some_iff {t : Table κ α} (h : Ordered t) {k : κ} {v : α} :
    t.get? k = some v ↔ (k, v) ∈ t := by
  refine ⟨mem_of_get?, fun hm => ?_⟩
  induction t with
  | nil => cases hm
  | cons x t ih =>
    rcases List.mem_cons.mp hm with rfl | hm
    · simp [get?]
    · have hne : k ≠ x.1 := h.head_ne _ hm
      simp only [get?, hne, if_false, ih h.tail hm]

theorem Ordered.erase_eq_filter {t : Table κ α} (h : Ordered t) (k : κ) :
    t.erase k = t.filter fun x => x.1 ≠ k := by
  induction t with
  | nil => rfl
  | cons x t ih =>
    by_cases hk : k = x.1
    · have hall : ∀ y ∈ t, y.1 ≠ k := fun y hy => hk ▸ h.head_ne y hy
      have hself : t.filter (fun x => x.1 ≠ k) = t :=
        List.filter_eq_self.mpr fun y hy => decide_eq_true (hall y hy)
      simpa [Table.erase, ← hk] using hself.symm
    · simp [Table.erase, hk, Ne.symm hk, ih h.tail]

variable [DecidableLT κ]

theorem Ordered.mem_put {t : Table κ α} (h : Ordered t) {k : κ} {v : α} {x : κ × α} :
    x ∈ t.put k v ↔ x = (k, v) ∨ x ∈ t ∧ x.1 ≠ k := by
  induction t with
  | nil => simp [put]
  | cons y t ih =>
    simp only [put]
    split
    next hk =>
      subst hk
      have hne := h.head_ne
      simp only [List.mem_cons]
      constructor
      · rintro (rfl | hx)
        · exact .inl rfl
        · exact .inr ⟨.inr hx, hne x hx⟩
      · rintro (rfl | ⟨rfl | hx, hn⟩)
        · exact .inl rfl
        · exact absurd rfl hn
        · exact .inr hx
    next hk =>
      split
      next hlt =>
        have hn : ∀ z ∈ y :: t, z.1 ≠ k := by
          intro z hz he
          rcases List.mem_cons.mp hz with rfl | hz
          · exact hk he.symm
          · exact Std.Irrefl.irrefl k (he ▸ IsTrans.trans k y.1 z.1 hlt (h.head_lt z hz))
        rw [List.mem_cons]
        exact or_congr_right ⟨fun hx => ⟨hx, hn x hx⟩, fun hx => hx.1⟩
      · simp only [List.mem_cons, ih h.tail]
        constructor
        · rintro (rfl | rfl | hx)
          · exact .inr ⟨.inl rfl, Ne.symm hk⟩
          · exact .inl rfl
          · exact .inr ⟨.inr hx.1, hx.2⟩
        · rintro (rfl | ⟨rfl | hx, hn⟩)
          · exact .inr (.inl rfl)
          · exact .inl rfl
          · exact .inr (.inr ⟨hx, hn⟩)

theorem Ordered.put {t : Table κ α} (h : Ordered t) (k : κ) (v : α) : Ordered (t.put k v) := by
  induction t with
  | nil => exact List.pairwise_singleton _ _
  | cons x t ih =>
    simp only [Table.put]
    split
    next hk => exact List.pairwise_cons.mpr ⟨fun y hy => hk ▸ h.head_lt y hy, h.tail⟩
    next hk =>
      split
      next hlt =>
        refine List.pairwise_cons.mpr ⟨fun y hy => ?_, h⟩
        rcases List.mem_cons.mp hy with rfl | hy
        · exact hlt
        · exact IsTrans.trans _ _ _ hlt (h.head_lt y hy)
      next hlt =>
        refine List.pairwise_cons.mpr ⟨fun y hy => ?_, ih h.tail⟩
        rcases h.tail.mem_put.mp hy with rfl | ⟨hy, -⟩
        · by_contra hgt
          exact hk (Std.Trichotomous.trichotomous _ _ hlt hgt)
        · exact h.head_lt y hy

/-- What is filed comes in the place of what was filed under its key. -/
theorem Ordered.perm_put {t : Table κ α} (h : Ordered t) (k : κ) (v : α) :
    List.Perm (t.put k v) ((k, v) :: t.erase k) := by
  have hnot : (k, v) ∉ t.erase k := by
    rw [h.erase_eq_filter]
    simp
  have hnodup : (t.erase k).Nodup := .of_map _ (h.erase k).nodup_keys
  refine (List.perm_ext_iff_of_nodup (.of_map _ (h.put k v).nodup_keys)
    (List.nodup_cons.mpr ⟨hnot, hnodup⟩)).mpr fun x => ?_
  rw [h.mem_put, List.mem_cons, h.erase_eq_filter, List.mem_filter, decide_eq_true_eq]

omit [DecidableLT κ] in
/-- A table in order is known by what is found in it. -/
theorem Ordered.ext {t u : Table κ α} (ht : Ordered t) (hu : Ordered u)
    (h : ∀ k, t.get? k = u.get? k) : t = u := by
  have hp : List.Perm t u := by
    have htn : t.Nodup := List.Nodup.of_map _ ht.nodup_keys
    have hun : u.Nodup := List.Nodup.of_map _ hu.nodup_keys
    refine (List.perm_ext_iff_of_nodup htn hun).mpr fun x => ?_
    exact ht.get?_eq_some_iff.symm.trans ((h x.1).symm ▸ hu.get?_eq_some_iff)
  refine hp.eq_of_pairwise (fun x y _ _ hxy hyx => ?_) ht hu
  exact absurd (IsTrans.trans _ _ _ hxy hyx) (Std.Irrefl.irrefl _)

/-! Tables of entries. -/

omit [IsStrictTotalOrder κ (· < ·)] in
theorem ofList_append_singleton (es : List (κ × α)) (e : κ × α) :
    ofList (es ++ [e]) = (ofList es).put e.1 e.2 := by
  rw [ofList, List.foldl_append]
  rfl

theorem ordered_ofList (es : List (κ × α)) : Ordered (ofList es) := by
  induction es using List.reverseRecOn with
  | nil => exact .nil
  | append_singleton es e ih =>
    rw [ofList_append_singleton]
    exact ih.put e.1 e.2

/-- The value of the last entry with a key. -/
def last? (k : κ) (es : List (κ × α)) : Option α :=
  ((es.filter fun e => e.1 = k).map Prod.snd).getLast?

omit [IsStrictTotalOrder κ (· < ·)] in
theorem get?_ofList (es : List (κ × α)) (k : κ) : get? k (ofList es) = last? k es := by
  unfold last?
  induction es using List.reverseRecOn with
  | nil => rfl
  | append_singleton es e ih =>
    rw [ofList_append_singleton, List.filter_append]
    by_cases hk : e.1 = k
    · subst hk
      simp
    · rw [get?_put_of_ne (Ne.symm hk), ih]
      simp [hk]

theorem mem_of_mem_ofList {es : List (κ × α)} {x : κ × α} (h : x ∈ ofList es) : x ∈ es := by
  induction es using List.reverseRecOn with
  | nil => cases h
  | append_singleton es e ih =>
    rw [ofList_append_singleton] at h
    rcases (ordered_ofList es).mem_put.mp h with rfl | ⟨h, -⟩
    · exact List.mem_append_right es List.mem_cons_self
    · exact List.mem_append_left [e] (ih h)

omit [IsStrictTotalOrder κ (· < ·)] in
theorem mem_keys_ofList {es : List (κ × α)} {k : κ} :
    k ∈ (ofList es).keys ↔ k ∈ es.map Prod.fst := by
  refine not_iff_not.mp ?_
  rw [← get?_eq_none_iff, get?_ofList, last?, List.getLast?_eq_none_iff]
  simp only [List.map_eq_nil_iff, List.filter_eq_nil_iff, decide_eq_true_eq, List.mem_map,
    not_exists, not_and]

/-- Of entries with keys of their own none is lost. -/
theorem perm_ofList {es : List (κ × α)} (h : (es.map Prod.fst).Nodup) :
    List.Perm (ofList es) es := by
  have hof : (ofList es).Nodup := List.Nodup.of_map _ (ordered_ofList es).nodup_keys
  refine (List.perm_ext_iff_of_nodup hof (List.Nodup.of_map _ h)).mpr fun x => ?_
  clear hof
  induction es using List.reverseRecOn with
  | nil => rfl
  | append_singleton es e ih =>
    rw [List.map_append] at h
    obtain ⟨hes, -, hdisjoint⟩ := List.nodup_append.mp h
    rw [ofList_append_singleton, (ordered_ofList es).mem_put, ih hes, List.mem_append,
      List.mem_singleton, or_comm]
    refine or_congr_left ⟨fun hx => hx.1, fun hx => ⟨hx, ?_⟩⟩
    exact hdisjoint x.1 (List.mem_map_of_mem hx) e.1 (List.mem_singleton_self e.1)

omit [IsStrictTotalOrder κ (· < ·)] in
theorem ofList_eq_nil_iff {es : List (κ × α)} : ofList es = [] ↔ es = [] := by
  refine ⟨fun h => ?_, fun h => by rw [h]; rfl⟩
  cases es with
  | nil => rfl
  | cons e es =>
    have hmem : e.1 ∈ (ofList (e :: es)).keys := mem_keys_ofList.mpr List.mem_cons_self
    rw [h] at hmem
    cases hmem

theorem put_of_forall_lt {t : Table κ α} {k : κ} (h : ∀ x ∈ t, x.1 < k) (v : α) :
    t.put k v = t ++ [(k, v)] := by
  induction t with
  | nil => rfl
  | cons x t ih =>
    have hx := h x List.mem_cons_self
    have hne : k ≠ x.1 := by
      rintro rfl
      exact Std.Irrefl.irrefl _ hx
    have hnot : ¬ k < x.1 := fun hlt => Std.Irrefl.irrefl k (IsTrans.trans k x.1 k hlt hx)
    rw [Table.put, if_neg hne, if_neg hnot, ih fun y hy => h y (List.mem_cons_of_mem x hy)]
    rfl

theorem Ordered.ofList_eq {t : Table κ α} (h : Ordered t) : ofList t = t := by
  induction t using List.reverseRecOn with
  | nil => rfl
  | append_singleton t x ih =>
    obtain ⟨ht, -, hlast⟩ := List.pairwise_append.mp h
    rw [ofList_append_singleton, ih ht]
    exact put_of_forall_lt (fun y hy => hlast y hy x List.mem_cons_self) x.2

omit [LT κ] [IsStrictTotalOrder κ (· < ·)] [DecidableLT κ] in
theorem get?_filter (p : κ → Bool) (t : Table κ α) (k : κ) :
    get? k (t.filter fun x => p x.1) = if p k then get? k t else none := by
  induction t with
  | nil => simp [get?]
  | cons x t ih =>
    by_cases hk : k = x.1
    · subst hk
      by_cases hp : p x.1
      · simp [get?, hp]
      · simp [hp, ih]
    · by_cases hp : p x.1
      · simp [get?, hp, hk, ih]
      · simp [get?, hp, hk, ih]

/-- Leaving out keys before entries are filed or after makes no difference. -/
theorem filter_ofList (p : κ → Bool) (es : List (κ × α)) :
    ((ofList es).filter fun x => p x.1) = ofList (es.filter fun x => p x.1) := by
  have hleft : Ordered ((ofList es).filter fun x => p x.1) :=
    List.Pairwise.filter _ (ordered_ofList es)
  refine hleft.ext (ordered_ofList _) fun k => ?_
  rw [get?_filter, get?_ofList, get?_ofList, last?, last?, List.filter_filter]
  by_cases hp : p k
  · have hsame : (es.filter fun e => e.1 = k && p e.1) = es.filter fun e => e.1 = k := by
      refine List.filter_congr fun e _ => ?_
      by_cases he : e.1 = k
      · simp [he, hp]
      · simp [he]
    rw [if_pos hp, hsame]
  · have hnone : (es.filter fun e => e.1 = k && p e.1) = [] := by
      refine List.filter_eq_nil_iff.mpr fun e _ => ?_
      simp only [Bool.and_eq_true, decide_eq_true_eq, not_and]
      rintro rfl
      exact hp
    rw [if_neg hp, hnone]
    rfl

end Order
end FleetBridge.Table
