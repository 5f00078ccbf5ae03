import FleetBridge.Proofs.Decimal.Doubles
import FleetBridge.Proofs.Text
import FleetBridge.Settings.Value

/-!
What is known of a value once its text was read.
-/
namespace FleetBridge.Setting

variable {s : String}

theorem positive_pos {n : Nat} (h : positive s = .ok n) : 0 < n := by
  unfold positive at h
  split at h
  next => cases h
  next => cases h
  next n hzero _ =>
    cases h
    exact Nat.pos_of_ne_zero hzero

theorem millis_pos {d : Duration} (h : millis s = .ok d) : 0 < d := by
  unfold millis at h
  cases hn : positive s with
  | error e =>
    rw [hn] at h
    cases h
  | ok n =>
    rw [hn] at h
    cases h
    exact Nat.mul_pos (positive_pos hn) (by decide)

/-- A factor by which waits may grow. -/
structure Grows (x : Float) : Prop where
  finite : x.isFinite = true
  least : 1.0 ≤ x

theorem factor_grows {x : Float} (h : factor s = .ok x) : Grows x := by
  unfold factor at h
  split at h
  next => cases h
  next y _ =>
    split at h
    next => cases h
    next hcheck =>
      cases h
      simp only [Bool.or_eq_true, Bool.not_eq_true', decide_eq_true_eq, not_or,
        Bool.not_eq_false] at hcheck
      exact ⟨hcheck.1, Decimal.le_of_not_lt hcheck.1 (by decide +kernel) hcheck.2⟩

/-- A URL with one of the schemes that names a host. -/
structure Reaches (schemes : List String) (u : Url) : Prop where
  scheme : u.scheme ∈ schemes
  host : u.hostText ≠ ""

theorem url_reaches {schemes : List String} {u : Url} (h : url schemes s = .ok u) :
    Reaches schemes u := by
  unfold url at h
  split at h
  next => cases h
  next u' _ =>
    split at h
    next => cases h
    next hscheme =>
      split at h
      next => cases h
      next hhost =>
        cases h
        exact ⟨not_not.mp hscheme, by simpa using hhost⟩

/-- Unit ids as they are told apart: none twice, none empty, without commas and blanks at the
ends. -/
structure Listed (ids : List String) : Prop where
  nodup : ids.Nodup
  nonempty : ∀ u ∈ ids, u ≠ ""
  trimmed : ∀ u ∈ ids, Text.trim u = u
  bare : ∀ u ∈ ids, ',' ∉ u.toList

theorem listed_nil : Listed [] :=
  ⟨List.nodup_nil, List.forall_mem_nil _, List.forall_mem_nil _, List.forall_mem_nil _⟩

theorem mem_unitIds {u : String} (h : u ∈ unitIds s) :
    u ≠ "" ∧ ∃ t ∈ Text.pieces ',' s, Text.trim t = u := by
  obtain ⟨hmem, hne⟩ := List.mem_filter.mp (Text.mem_distinct.mp h)
  obtain ⟨t, ht, rfl⟩ := List.mem_map.mp hmem
  exact ⟨by simpa using hne, t, ht, rfl⟩

theorem listed_unitIds (s : String) : Listed (unitIds s) where
  nodup := Text.nodup_distinct _
  nonempty u hu := (mem_unitIds hu).1
  trimmed u hu := by
    obtain ⟨-, t, -, rfl⟩ := mem_unitIds hu
    exact Text.trim_trim t
  bare u hu hcomma := by
    obtain ⟨-, t, ht, rfl⟩ := mem_unitIds hu
    exact Text.not_mem_of_mem_pieces ht (Text.mem_of_mem_trim hcomma)

/-- Tokens that stand between a unit and its topics: without wildcards and spaces, and without dots
at the ends. -/
structure Between (t : String) : Prop where
  plain : ∀ c ∈ t.toList, c ≠ '*' ∧ c ≠ '>' ∧ c ≠ ' '
  ends : Text.Trimmed (· = '.') t.toList

theorem subject_between {t : String} (h : subject s = .ok t) : Between t := by
  unfold subject at h
  simp only at h
  split at h
  next => cases h
  next hcheck =>
    obtain rfl : Text.strip (· = '.') (Text.trim s) = t := Except.ok.inj h
    simp only [Bool.or_eq_true, not_or, Bool.not_eq_true, List.any_eq_false] at hcheck
    constructor
    · intro c hc
      rw [Text.strip, String.toList_ofList] at hc
      have hplain := hcheck.2 c ((Text.sublist_stripChars _ _).subset hc)
      simpa [isWildcardOrSpace, and_assoc] using hplain
    · rw [Text.strip, String.toList_ofList]
      exact Text.trimmed_stripChars _ _

end FleetBridge.Setting
