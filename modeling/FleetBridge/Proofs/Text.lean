import FleetBridge.Text.Blank
import FleetBridge.Text.Split
import Mathlib.Data.List.DropRight
import Mathlib.Data.List.Nodup
import Mathlib.Data.List.Induction

/-!
What is left of a text: trimmed at both ends, cut at separators, without repetitions.
-/
namespace FleetBridge.Text

/-! Ends. -/

section Ends
variable {p : Char → Bool} {s : List Char}

/-- Nothing of a class stands at either end. -/
structure Trimmed (p : Char → Bool) (s : List Char) : Prop where
  first : ∀ c ∈ s.head?, p c = false
  last : ∀ c ∈ s.getLast?, p c = false

theorem head?_dropWhile (p : Char → Bool) (s : List Char) :
    ∀ c ∈ (s.dropWhile p).head?, p c = false := by
  intro c hc
  have hnot := List.head?_dropWhile_not p s
  rwa [Option.mem_def.mp hc] at hnot

theorem dropWhile_eq_self (h : ∀ c ∈ s.head?, p c = false) : s.dropWhile p = s := by
  cases s with
  | nil => rfl
  | cons c s => rw [List.dropWhile_cons_of_neg (by simp [h c rfl])]

theorem trimmed_stripChars (p : Char → Bool) (s : List Char) : Trimmed p (stripChars p s) where
  first := by
    -- What is dropped at the end leaves a front of what begins well.
    intro c hc
    have hfront : stripChars p s <+: s.dropWhile p := by
      rw [← List.reverse_suffix, stripChars, List.reverse_reverse]
      exact List.dropWhile_suffix p
    obtain ⟨r, hr⟩ := hfront
    refine head?_dropWhile p s c ?_
    rw [← hr, List.head?_append, Option.mem_def.mp hc]
    rfl
  last := by
    rw [stripChars, List.getLast?_reverse]
    exact head?_dropWhile p _

theorem Trimmed.stripChars_eq (h : Trimmed p s) : stripChars p s = s := by
  rw [stripChars, dropWhile_eq_self h.first, dropWhile_eq_self, List.reverse_reverse]
  rw [List.head?_reverse]
  exact h.last

theorem sublist_stripChars (p : Char → Bool) (s : List Char) : (stripChars p s).Sublist s := by
  rw [stripChars, ← List.reverse_sublist, List.reverse_reverse]
  exact (List.dropWhile_sublist p).trans (List.dropWhile_sublist p).reverse

/-- Nothing is left just of what is all of the class. -/
theorem stripChars_eq_nil_iff : stripChars p s = [] ↔ s.all p = true := by
  rw [stripChars, List.reverse_eq_nil_iff, List.dropWhile_eq_nil_iff, List.all_eq_true]
  constructor
  · intro h
    have hall : s.dropWhile p = [] := by
      by_contra hne
      have hhead := List.head_dropWhile_not p hne
      rw [h _ (List.mem_reverse.mpr (List.head_mem hne))] at hhead
      cases hhead
    exact List.dropWhile_eq_nil_iff.mp hall
  · intro h c hc
    exact h c ((List.dropWhile_sublist p).subset (List.mem_reverse.mp hc))

theorem trim_trim (s : String) : trim (trim s) = trim s := by
  rw [trim, trim, strip, strip, String.toList_ofList,
    (trimmed_stripChars isBlankChar s.toList).stripChars_eq]

theorem trim_eq_empty_iff (s : String) : trim s = "" ↔ isBlank s = true := by
  rw [trim, strip, isBlank, ← stripChars_eq_nil_iff, ← String.toList_inj, String.toList_ofList]
  rfl

theorem mem_of_mem_trim {s : String} {c : Char} (h : c ∈ (trim s).toList) : c ∈ s.toList := by
  rw [trim, strip, String.toList_ofList] at h
  exact (sublist_stripChars isBlankChar s.toList).subset h

end Ends

/-! Pieces. -/

section Pieces
variable {α : Type} [DecidableEq α] {d : α} {s : List α}

theorem splitOn_cons (d c : α) (s : List α) :
    (c :: s).splitOn d = if c = d then [] :: s.splitOn d else (s.splitOn d).modifyHead (c :: ·) := by
  rw [List.splitOn, List.splitOnP_cons_eq_if_modifyHead]
  simp only [beq_iff_eq]
  rfl

theorem exists_splitOn_eq_cons (d : α) (s : List α) : ∃ t ts, s.splitOn d = t :: ts :=
  List.exists_cons_of_ne_nil (List.splitOnP_ne_nil (· == d) s)

/-- A piece is part of the text and holds no separator. -/
theorem mem_splitOn {t : List α} (h : t ∈ s.splitOn d) : d ∉ t ∧ t ⊆ s := by
  induction s generalizing t with
  | nil =>
    rw [List.splitOn_nil, List.mem_singleton] at h
    rw [h]
    exact ⟨List.not_mem_nil, List.nil_subset _⟩
  | cons c s ih =>
    have hlater (h : t ∈ s.splitOn d) : d ∉ t ∧ t ⊆ c :: s :=
      ⟨(ih h).1, List.subset_cons_of_subset c (ih h).2⟩
    rw [splitOn_cons] at h
    split at h
    next =>
      rcases List.mem_cons.mp h with rfl | h
      · exact ⟨List.not_mem_nil, List.nil_subset _⟩
      · exact hlater h
    next hc =>
      obtain ⟨u, us, hu⟩ := exists_splitOn_eq_cons d s
      rw [hu] at h
      rcases List.mem_cons.mp h with rfl | h
      · obtain ⟨hd, hsub⟩ := ih (hu ▸ List.mem_cons_self)
        refine ⟨?_, List.cons_subset_cons c hsub⟩
        rw [List.mem_cons, not_or]
        exact ⟨Ne.symm hc, hd⟩
      · exact hlater (hu ▸ List.mem_cons_of_mem u h)

theorem splitOn_head_eq_nil_iff {t : List α} {ts : List (List α)} (h : s.splitOn d = t :: ts) :
    t = [] ↔ (s ++ [d]).head? = some d := by
  cases s with
  | nil =>
    rw [List.splitOn_nil] at h
    simp [(List.cons.inj h).1.symm]
  | cons c s =>
    rw [splitOn_cons] at h
    split at h
    next hc => simp [(List.cons.inj h).1.symm, hc]
    next hc =>
      obtain ⟨u, us, hu⟩ := exists_splitOn_eq_cons d s
      rw [hu] at h
      simp [(List.cons.inj h).1.symm, hc]

/-- Behind the first piece one is empty just where two separators meet, or one and the end. -/
theorem nil_mem_tail_splitOn : [] ∈ (s.splitOn d).tail ↔ [d, d] <:+: s ++ [d] := by
  induction s with
  | nil => simp [List.infix_cons_iff]
  | cons c s ih =>
    obtain ⟨u, us, hu⟩ := exists_splitOn_eq_cons d s
    rw [splitOn_cons, List.cons_append, List.infix_cons_iff, ← ih, hu]
    split
    next hc =>
      rw [hc, List.cons_prefix_cons, and_iff_right rfl, List.tail_cons, List.mem_cons, List.tail_cons,
        eq_comm, splitOn_head_eq_nil_iff hu]
      cases hs : s ++ [d] <;> simp [eq_comm]
    next hc =>
      simp [Ne.symm hc]

end Pieces

/-- Of a text that neither begins nor ends with a separator a piece is empty just where two of them
meet, or all of it is. -/
theorem nil_mem_splitOn_iff {d : Char} {s : List Char} (h : Trimmed (· = d) s) :
    [] ∈ s.splitOn d ↔ s = [] ∨ [d, d] <:+: s := by
  obtain ⟨t, ts, ht⟩ := exists_splitOn_eq_cons d s
  have htail := nil_mem_tail_splitOn (d := d) (s := s)
  rw [ht, List.tail_cons, List.infix_concat_iff] at htail
  have hend : ¬ [d, d] <:+ s ++ [d] := by
    rintro ⟨r, hr⟩
    have hs : r ++ [d] = s := List.append_cancel_right ((List.append_assoc r [d] [d]).trans hr)
    have hlast := h.last d (by rw [← hs, List.getLast?_concat]; rfl)
    exact of_decide_eq_false hlast rfl
  have hhead : t = [] ↔ s = [] := by
    rw [splitOn_head_eq_nil_iff ht]
    cases s with
    | nil => exact ⟨fun _ => rfl, fun _ => rfl⟩
    | cons c s =>
      have hc : c ≠ d := of_decide_eq_false (h.first c rfl)
      simp [hc]
  rw [ht, List.mem_cons, htail, or_iff_right hend, eq_comm, hhead]

theorem not_mem_of_mem_pieces {sep : Char} {s t : String} (h : t ∈ pieces sep s) :
    sep ∉ t.toList := by
  obtain ⟨r, hr, rfl⟩ := List.mem_map.mp h
  rw [String.toList_ofList]
  exact (mem_splitOn hr).1

/-! Repetitions. -/

section Distinct
variable {α : Type} [DecidableEq α]

theorem distinct_append_singleton (xs : List α) (x : α) :
    distinct (xs ++ [x]) = if x ∈ distinct xs then distinct xs else distinct xs ++ [x] := by
  rw [distinct, List.foldl_append]
  rfl

theorem mem_distinct {xs : List α} {x : α} : x ∈ distinct xs ↔ x ∈ xs := by
  induction xs using List.reverseRecOn with
  | nil => rfl
  | append_singleton xs y ih =>
    rw [distinct_append_singleton]
    split
    next hy =>
      rw [List.mem_append, ← ih, List.mem_singleton, or_iff_left_of_imp]
      rintro rfl
      exact hy
    next => rw [List.mem_append, List.mem_append, ih]

theorem nodup_distinct (xs : List α) : (distinct xs).Nodup := by
  induction xs using List.reverseRecOn with
  | nil => exact List.nodup_nil
  | append_singleton xs y ih =>
    rw [distinct_append_singleton]
    split
    next => exact ih
    next hy => exact List.nodup_append.mpr ⟨ih, List.nodup_singleton y, by
      rintro a ha b hb rfl
      exact hy (List.mem_singleton.mp hb ▸ ha)⟩

end Distinct

end FleetBridge.Text
