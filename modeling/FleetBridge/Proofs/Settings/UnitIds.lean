import FleetBridge.Proofs.Settings.Values
import Mathlib.Data.List.Forall2

/-!
Reading a list of unit ids. What is read is told by three relations, none of which computes: how a
text is cut at commas, what is left of a piece without the blanks at its ends, and which of equal
texts is kept. They leave one answer, so a list that is read, joined and read again stays the same.
-/
namespace FleetBridge.Text

/-! Cutting. -/

/-- The texts between the separators of another one. -/
structure Cut (sep : Char) (s : String) (parts : List String) : Prop where
  nonempty : parts ≠ []
  bare : ∀ t ∈ parts, sep ∉ t.toList
  joined : (String.singleton sep).intercalate parts = s

theorem cut_pieces (sep : Char) (s : String) : Cut sep s (pieces sep s) where
  nonempty := mt List.map_eq_nil_iff.mp (List.splitOn_ne_nil sep s.toList)
  bare _ ht := not_mem_of_mem_pieces ht
  joined := by
    have hid : String.toList ∘ String.ofList = id := funext fun _ => String.toList_ofList
    rw [← String.toList_inj, String.toList_intercalate, String.toList_singleton, pieces,
      List.map_map, hid, List.map_id]
    exact List.intercalate_splitOn sep

variable {sep : Char} {s t : String} {parts : List String}

theorem Cut.eq_pieces (h : Cut sep s parts) : pieces sep s = parts := by
  have hbare : ∀ l ∈ parts.map String.toList, sep ∉ l := by
    intro l hl
    obtain ⟨t, ht, rfl⟩ := List.mem_map.mp hl
    exact h.bare t ht
  have hsplit := List.splitOn_intercalate sep hbare (mt List.map_eq_nil_iff.mp h.nonempty)
  have hid : String.ofList ∘ String.toList = id := funext fun _ => String.ofList_toList
  rw [← h.joined, pieces, String.toList_intercalate, String.toList_singleton, hsplit, List.map_map,
    hid, List.map_id]

/-! Trimming. -/

/-- What is left of a text without the blanks at its ends. -/
structure Trims (s t : String) : Prop where
  around : ∃ front back, s.toList = front ++ t.toList ++ back ∧
    front.all isBlankChar = true ∧ back.all isBlankChar = true
  trimmed : Trimmed isBlankChar t.toList

/-- Stripping drops a front and a back of the class. -/
theorem exists_around_stripChars (p : Char → Bool) (cs : List Char) :
    ∃ front back, cs = front ++ stripChars p cs ++ back ∧
      front.all p = true ∧ back.all p = true := by
  have hback : ((cs.dropWhile p).reverse.dropWhile p).reverse ++
      ((cs.dropWhile p).reverse.takeWhile p).reverse = cs.dropWhile p := by
    rw [← List.reverse_append, List.takeWhile_append_dropWhile, List.reverse_reverse]
  refine ⟨cs.takeWhile p, ((cs.dropWhile p).reverse.takeWhile p).reverse, ?_, List.all_takeWhile,
    ?_⟩
  · rw [stripChars, List.append_assoc, hback, List.takeWhile_append_dropWhile]
  · rw [List.all_reverse, List.all_takeWhile]

/-- Nothing but a front and a back of the class is dropped. -/
theorem stripChars_around {p : Char → Bool} {front cs back : List Char}
    (hfront : front.all p = true) (hback : back.all p = true) (h : Trimmed p cs) :
    stripChars p (front ++ cs ++ back) = cs := by
  cases cs with
  | nil =>
    rw [stripChars_eq_nil_iff, List.all_append, List.all_append, hfront, hback]
    rfl
  | cons c cs =>
    have hfirst : (front ++ (c :: cs) ++ back).dropWhile p = c :: cs ++ back := by
      rw [List.append_assoc, List.dropWhile_append_of_pos (List.all_eq_true.mp hfront)]
      exact dropWhile_eq_self h.first
    have hlast : ((c :: cs) ++ back).reverse.dropWhile p = (c :: cs).reverse := by
      have hback : back.reverse.all p = true := by rwa [List.all_reverse]
      rw [List.reverse_append, List.dropWhile_append_of_pos (List.all_eq_true.mp hback)]
      refine dropWhile_eq_self ?_
      rw [List.head?_reverse]
      exact h.last
    rw [stripChars, hfirst, hlast, List.reverse_reverse]

theorem trims_iff : Trims s t ↔ trim s = t := by
  rw [← String.toList_inj, trim, strip, String.toList_ofList]
  constructor
  · rintro ⟨⟨front, back, hs, hfront, hback⟩, htrimmed⟩
    rw [hs, stripChars_around hfront hback htrimmed]
  · intro h
    refine ⟨?_, h ▸ trimmed_stripChars isBlankChar s.toList⟩
    rw [← h]
    exact exists_around_stripChars isBlankChar s.toList

/-! Keeping what comes first. -/

section Firsts
variable {α : Type} [DecidableEq α] {xs ys : List α}

/-- The members of a list, each once and in the order in which they first occur. -/
structure Firsts (xs ys : List α) : Prop where
  mem_iff : ∀ x, x ∈ ys ↔ x ∈ xs
  inOrder : ys.Pairwise fun x y => xs.idxOf x < xs.idxOf y

theorem Firsts.nodup (h : Firsts xs ys) : ys.Nodup :=
  h.inOrder.imp fun hlt => by
    rintro rfl
    exact Nat.lt_irrefl _ hlt

theorem Firsts.unique {zs : List α} (hys : Firsts xs ys) (hzs : Firsts xs zs) : ys = zs := by
  have hperm : ys.Perm zs := by
    rw [List.perm_ext_iff_of_nodup hys.nodup hzs.nodup]
    exact fun x => (hys.mem_iff x).trans (hzs.mem_iff x).symm
  refine hperm.eq_of_pairwise (fun a b _ _ hab hba => ?_) hys.inOrder hzs.inOrder
  exact absurd hab (Nat.lt_asymm hba)

/-- One more member is kept if it is a new one. -/
theorem Firsts.concat (h : Firsts xs ys) (x : α) :
    Firsts (xs ++ [x]) (if x ∈ ys then ys else ys ++ [x]) := by
  -- A member that was there keeps its place, so only the new one is to be placed.
  have hplace {y : α} (hy : y ∈ ys) : (xs ++ [x]).idxOf y = xs.idxOf y :=
    List.idxOf_append_of_mem ((h.mem_iff y).mp hy)
  have hearlier : ys.Pairwise fun a b => (xs ++ [x]).idxOf a < (xs ++ [x]).idxOf b :=
    h.inOrder.imp_of_mem fun ha hb hlt => by rwa [hplace ha, hplace hb]
  split
  next hold =>
    refine ⟨fun y => ?_, hearlier⟩
    rw [h.mem_iff, List.mem_append, List.mem_singleton, or_iff_left_of_imp]
    rintro rfl
    exact (h.mem_iff y).mp hold
  next hnew =>
    constructor
    · intro y
      rw [List.mem_append, List.mem_append, h.mem_iff]
    · refine List.pairwise_append.mpr ⟨hearlier, List.pairwise_singleton _ _, fun a ha b hb => ?_⟩
      obtain rfl := List.mem_singleton.mp hb
      have hb : b ∉ xs := mt (h.mem_iff b).mpr hnew
      have ha' : xs.idxOf a < xs.length := List.idxOf_lt_length_iff.mpr ((h.mem_iff a).mp ha)
      rw [hplace ha, List.idxOf_append_of_notMem hb]
      omega

theorem firsts_distinct (xs : List α) : Firsts xs (distinct xs) := by
  induction xs using List.reverseRecOn with
  | nil => exact ⟨fun _ => Iff.rfl, List.Pairwise.nil⟩
  | append_singleton xs x ih =>
    rw [distinct_append_singleton]
    exact ih.concat x

/-- Without repetitions every member comes first. -/
theorem firsts_self (h : xs.Nodup) : Firsts xs xs where
  mem_iff _ := Iff.rfl
  inOrder := by
    rw [List.pairwise_iff_getElem]
    intro i j hi hj hlt
    rwa [h.idxOf_getElem, h.idxOf_getElem]

end Firsts
end FleetBridge.Text

namespace FleetBridge.Setting

variable {s : String} {ids : List String}

/-- The items of a text with commas: its pieces that are not blank, without the blanks at their
ends, each once and where it first occurs. -/
def Items (s : String) (ids : List String) : Prop :=
  ∃ parts texts, Text.Cut ',' s parts ∧
    List.Forall₂ Text.Trims (parts.filter fun t => !Text.isBlank t) texts ∧ Text.Firsts texts ids

theorem unitIds_eq (s : String) : unitIds s =
    Text.distinct (((Text.pieces ',' s).filter fun t => !Text.isBlank t).map Text.trim) := by
  have hblank : (fun x : String => !x.isEmpty) ∘ Text.trim = fun t => !Text.isBlank t := by
    funext t
    rw [Function.comp_apply, Bool.not_inj_iff, Bool.eq_iff_iff, String.isEmpty_iff,
      Text.trim_eq_empty_iff]
  rw [unitIds, List.filter_map, hblank]

theorem forall₂_trims_iff {ts us : List String} :
    List.Forall₂ Text.Trims ts us ↔ ts.map Text.trim = us := by
  have htrims : Text.Trims = fun t u => Text.trim t = u :=
    funext fun t => funext fun u => propext Text.trims_iff
  rw [htrims, ← List.forall₂_map_left_iff, List.forall₂_eq_eq_eq]

/-- Of each text just one list tells the items. -/
theorem items_iff : Items s ids ↔ unitIds s = ids := by
  rw [unitIds_eq]
  constructor
  · rintro ⟨parts, texts, hcut, htrims, hfirsts⟩
    rw [hcut.eq_pieces, forall₂_trims_iff.mp htrims]
    exact (Text.firsts_distinct texts).unique hfirsts
  · rintro rfl
    exact ⟨_, _, Text.cut_pieces ',' s, forall₂_trims_iff.mpr rfl, Text.firsts_distinct _⟩

/-- Ids that are told apart are the items of their joined text. -/
theorem Listed.items (h : Listed ids) : Items (",".intercalate ids) ids := by
  rcases eq_or_ne ids [] with rfl | hne
  -- Nothing is written as the empty text, and that still has one piece, a blank one.
  · refine ⟨[""], [], ⟨List.cons_ne_nil _ _, ?_, rfl⟩, List.Forall₂.nil, Text.firsts_self h.nodup⟩
    simp
  · have hfull : (ids.filter fun t => !Text.isBlank t) = ids := by
      rw [List.filter_eq_self]
      intro u hu
      have hsome : ¬ Text.isBlank u = true := by
        rw [← Text.trim_eq_empty_iff, h.trimmed u hu]
        exact h.nonempty u hu
      simpa using hsome
    refine ⟨ids, ids, ⟨hne, h.bare, rfl⟩, ?_, Text.firsts_self h.nodup⟩
    rw [hfull, List.forall₂_same]
    exact fun u hu => Text.trims_iff.mpr (h.trimmed u hu)

/-- Reading a list of unit ids gives its items and nothing else. They are told apart, and written
one behind the other with commas they are read as the same list. -/
theorem normalises_unitIds (s : String) :
    (∀ ids, Items s ids ↔ unitIds s = ids) ∧ Listed (unitIds s) ∧
      unitIds (",".intercalate (unitIds s)) = unitIds s :=
  ⟨fun _ => items_iff, listed_unitIds s, items_iff.mp (listed_unitIds s).items⟩

example : unitIds " U1, ,U2,U1 " = ["U1", "U2"] := by decide +kernel

end FleetBridge.Setting
