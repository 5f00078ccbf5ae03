import FleetBridge.Decimal.Shortest
import Mathlib.Algebra.Order.Field.Power
import Mathlib.Algebra.Order.Field.Rat
import Mathlib.Tactic.Linarith
import Mathlib.Tactic.NormNum
import Mathlib.Tactic.Positivity
import Mathlib.Tactic.Ring

/-!
The shortest decimal of a double lies in the interval that reads back as the double, and the
intervals of two doubles have no number in common. So the shortest decimal determines the double.
-/
namespace FleetBridge.Decimal

/-- The number that digits and an exponent stand for. -/
def Scientific.value (s : Scientific) : ℚ := s.digits * 10 ^ s.exponent

/-- The integer and the exponent of a positive double: the integer has 53 bits, or fewer if the
exponent is the least one. -/
structure Canonical (m : Nat) (q : Int) : Prop where
  pos : 0 < m
  bits : m < 2 ^ 53
  least : -1074 ≤ q
  leading : -1074 < q → 2 ^ 52 ≤ m

def lowerEnd (m : Nat) (q : Int) : Nat := (quarterBounds m q).1

def upperEnd (m : Nat) : Nat := 4 * m + 2

/-- A number reads back as `m * 2 ^ q` if it is between the ends of the interval, or at one of them
and `m` is even. -/
structure ReadsAs (m : Nat) (q : Int) (y : ℚ) : Prop where
  lower : lowerEnd m q * (2 : ℚ) ^ q < 4 * y ∨ lowerEnd m q * (2 : ℚ) ^ q = 4 * y ∧ m % 2 = 0
  upper : 4 * y < upperEnd m * (2 : ℚ) ^ q ∨ 4 * y = upperEnd m * (2 : ℚ) ^ q ∧ m % 2 = 0

variable {m m' : Nat} {q q' : Int} {y : ℚ}

theorem two_zpow_pos (q : Int) : (0 : ℚ) < 2 ^ q := zpow_pos two_pos q

theorem ten_zpow_pos (e : Int) : (0 : ℚ) < 10 ^ e := zpow_pos (by norm_num) e

/-! The intervals. -/

theorem lowerEnd_of_ne (h : m ≠ 2 ^ 52) (q : Int) : lowerEnd m q = 4 * m - 2 :=
  if_neg fun hm => h hm.1

theorem lowerEnd_le (m : Nat) (q : Int) : lowerEnd m q ≤ 4 * m - 1 := by
  unfold lowerEnd quarterBounds
  simp only
  split <;> omega

theorem le_lowerEnd (m : Nat) (q : Int) : 4 * m - 2 ≤ lowerEnd m q := by
  unfold lowerEnd quarterBounds
  simp only
  split <;> omega

theorem ReadsAs.le_upper (h : ReadsAs m q y) : 4 * y ≤ upperEnd m * (2 : ℚ) ^ q := by
  rcases h.upper with h | ⟨h, -⟩
  · exact h.le
  · exact h.le

theorem ReadsAs.lower_le (h : ReadsAs m q y) : lowerEnd m q * (2 : ℚ) ^ q ≤ 4 * y := by
  rcases h.lower with h | ⟨h, -⟩
  · exact h.le
  · exact h.le

theorem ReadsAs.pos (h : ReadsAs m q y) (hm : 0 < m) : 0 < y := by
  have hend : 0 < lowerEnd m q := Nat.lt_of_lt_of_le (by omega) (le_lowerEnd m q)
  have hpos : 0 < lowerEnd m q * (2 : ℚ) ^ q :=
    mul_pos (Nat.cast_pos.mpr hend) (two_zpow_pos q)
  linarith [h.lower_le]

/-- Where the intervals of two numbers touch, neither has an end if one of the two is odd. -/
theorem not_readsAs_of_le (hle : upperEnd m * (2 : ℚ) ^ q ≤ lowerEnd m' q' * (2 : ℚ) ^ q')
    (hodd : upperEnd m * (2 : ℚ) ^ q = lowerEnd m' q' * (2 : ℚ) ^ q' →
      m % 2 = 1 ∨ m' % 2 = 1) (h : ReadsAs m q y) (h' : ReadsAs m' q' y) : False := by
  have hupper := h.le_upper
  have hlower := h'.lower_le
  have hodd := hodd (le_antisymm hle (hlower.trans hupper))
  rcases h.upper with hlt | ⟨-, heven⟩
  · linarith
  rcases h'.lower with hlt | ⟨-, heven'⟩
  · linarith
  · omega

theorem ends_of_lt (h : m < m') (q : Int) : upperEnd m ≤ lowerEnd m' q := by
  have hle := le_lowerEnd m' q
  unfold upperEnd
  omega

theorem not_readsAs_of_lt (hlt : m < m') (h : ReadsAs m q y) (h' : ReadsAs m' q y) : False := by
  refine not_readsAs_of_le ?_ (fun he => ?_) h h'
  · exact mul_le_mul_of_nonneg_right (Nat.cast_le.mpr (ends_of_lt hlt q)) (two_zpow_pos q).le
  · have hends : upperEnd m = lowerEnd m' q :=
      Nat.cast_injective (mul_right_cancel₀ (two_zpow_pos q).ne' he)
    have hle := le_lowerEnd m' q
    unfold upperEnd at hends
    omega

/-- An exponent above another one puts the whole interval above the other's. -/
theorem not_readsAs_of_exponent_lt (hc : Canonical m q) (hc' : Canonical m' q') (hlt : q < q')
    (h : ReadsAs m q y) (h' : ReadsAs m' q' y) : False := by
  have hleading := hc'.leading (hc.least.trans_lt hlt)
  have hbits := hc.bits
  have hstep : 2 * (2 : ℚ) ^ q ≤ 2 ^ q' := by
    have hsucc : (2 : ℚ) ^ (q + 1) ≤ 2 ^ q' := zpow_le_zpow_right₀ one_le_two hlt
    rwa [zpow_add_one₀ two_ne_zero, mul_comm] at hsucc
  have hends : upperEnd m ≤ 2 * lowerEnd m' q' ∧
      (upperEnd m = 2 * lowerEnd m' q' → m % 2 = 1) := by
    unfold upperEnd
    by_cases hm' : m' = 2 ^ 52
    · have hle := le_lowerEnd m' q'
      have hcut : lowerEnd m' q' = 4 * m' - 1 := if_pos ⟨hm', hc.least.trans_lt hlt⟩
      omega
    · rw [lowerEnd_of_ne hm']
      omega
  have hcast : (upperEnd m : ℚ) ≤ 2 * lowerEnd m' q' := by exact_mod_cast hends.1
  have hscaled : upperEnd m * (2 : ℚ) ^ q ≤ lowerEnd m' q' * (2 * (2 : ℚ) ^ q) := by
    have hmul := mul_le_mul_of_nonneg_right hcast (two_zpow_pos q).le
    linarith
  have hraised : lowerEnd m' q' * (2 * (2 : ℚ) ^ q) ≤ lowerEnd m' q' * (2 : ℚ) ^ q' :=
    mul_le_mul_of_nonneg_left hstep (Nat.cast_nonneg _)
  refine not_readsAs_of_le (hscaled.trans hraised) (fun he => ?_) h h'
  have hsame : upperEnd m * (2 : ℚ) ^ q = 2 * lowerEnd m' q' * (2 : ℚ) ^ q := by linarith
  have hnat : (upperEnd m : ℚ) = 2 * lowerEnd m' q' :=
    mul_right_cancel₀ (two_zpow_pos q).ne' hsame
  exact .inl (hends.2 (by exact_mod_cast hnat))

/-- No number reads back as two doubles. -/
theorem ReadsAs.unique (hc : Canonical m q) (hc' : Canonical m' q') (h : ReadsAs m q y)
    (h' : ReadsAs m' q' y) : m = m' ∧ q = q' := by
  rcases lt_trichotomy q q' with hq | rfl | hq
  · exact (not_readsAs_of_exponent_lt hc hc' hq h h').elim
  · rcases lt_trichotomy m m' with hm | rfl | hm
    · exact (not_readsAs_of_lt hm h h').elim
    · exact ⟨rfl, rfl⟩
    · exact (not_readsAs_of_lt hm h' h).elim
  · exact (not_readsAs_of_exponent_lt hc' hc hq h' h).elim

/-! Grids. -/

theorem zpow_mul_pow_neg {b : ℚ} (hb : b ≠ 0) (n : Int) :
    b ^ n * b ^ (-n).toNat = b ^ n.toNat := by
  rw [← zpow_natCast, ← zpow_natCast, ← zpow_add₀ hb]
  congr 1
  omega

/-- A quarter of `2 ^ q` in the unit in which grids are compared. -/
def quarterUnit (q e : Int) : Nat := Nat.pow 2 q.toNat * Nat.pow 10 (-e).toNat

/-- The distance of two points of the grid of `10 ^ e` in the same unit. -/
def gridStep (q e : Int) : Nat := 4 * Nat.pow 2 (-q).toNat * Nat.pow 10 e.toNat

theorem quarterUnit_pos (q e : Int) : 0 < quarterUnit q e :=
  Nat.mul_pos (Nat.pow_pos two_pos) (Nat.pow_pos (by decide))

theorem gridStep_pos (q e : Int) : 0 < gridStep q e :=
  Nat.mul_pos (Nat.mul_pos (by decide) (Nat.pow_pos two_pos)) (Nat.pow_pos (by decide))

/-- Both numbers times the same positive one are whole. -/
theorem exists_scale (q e : Int) : ∃ r : ℚ, 0 < r ∧ (2 : ℚ) ^ q * r = quarterUnit q e ∧
    4 * (10 : ℚ) ^ e * r = gridStep q e := by
  refine ⟨2 ^ (-q).toNat * 10 ^ (-e).toNat, by positivity, ?_, ?_⟩
  · have htwo := zpow_mul_pow_neg (two_ne_zero (α := ℚ)) q
    rw [← mul_assoc, htwo, quarterUnit, Nat.pow_eq, Nat.pow_eq]
    push_cast
    rfl
  · have hten := zpow_mul_pow_neg (b := (10 : ℚ)) (by norm_num) e
    rw [gridStep, Nat.pow_eq, Nat.pow_eq]
    push_cast
    rw [← hten]
    ring

theorem units_lt_iff (a d : Nat) (q e : Int) :
    a * quarterUnit q e < d * gridStep q e ↔ a * (2 : ℚ) ^ q < 4 * (d * 10 ^ e) := by
  obtain ⟨r, hr, hunit, hstep⟩ := exists_scale q e
  rw [← mul_lt_mul_iff_of_pos_right hr, ← Nat.cast_lt (α := ℚ)]
  push_cast
  rw [← hunit, ← hstep]
  ring_nf

theorem units_eq_iff (a d : Nat) (q e : Int) :
    a * quarterUnit q e = d * gridStep q e ↔ a * (2 : ℚ) ^ q = 4 * (d * 10 ^ e) := by
  obtain ⟨r, hr, hunit, hstep⟩ := exists_scale q e
  rw [← mul_left_inj' hr.ne', ← Nat.cast_inj (R := ℚ)]
  push_cast
  rw [← hunit, ← hstep]
  ring_nf

theorem lt_units_iff (a d : Nat) (q e : Int) :
    d * gridStep q e < a * quarterUnit q e ↔ 4 * (d * (10 : ℚ) ^ e) < a * 2 ^ q := by
  obtain ⟨r, hr, hunit, hstep⟩ := exists_scale q e
  rw [← mul_lt_mul_iff_of_pos_right hr, ← Nat.cast_lt (α := ℚ)]
  push_cast
  rw [← hunit, ← hstep]
  ring_nf

/-- The point of a grid next below a double. -/
def gridBelow (m : Nat) (q e : Int) : Nat := 4 * m * quarterUnit q e / gridStep q e

theorem gridBelow_le (m : Nat) (q e : Int) :
    gridBelow m q e * gridStep q e ≤ 4 * m * quarterUnit q e :=
  Nat.div_mul_le_self _ _

theorem lt_gridBelow_succ (m : Nat) (q e : Int) :
    4 * m * quarterUnit q e < (gridBelow m q e + 1) * gridStep q e := by
  rw [Nat.mul_comm _ (gridStep q e)]
  exact Nat.lt_mul_div_succ _ (gridStep_pos q e)

/-- A grid's point is not below the interval's lower end. -/
def ReachesLower (m : Nat) (q e : Int) (d : Nat) : Prop :=
  lowerEnd m q * quarterUnit q e < d * gridStep q e ∨
    lowerEnd m q * quarterUnit q e = d * gridStep q e ∧ m % 2 = 0

/-- A grid's point is not above the interval's upper end. -/
def ReachesUpper (m : Nat) (q e : Int) (d : Nat) : Prop :=
  d * gridStep q e < upperEnd m * quarterUnit q e ∨
    d * gridStep q e = upperEnd m * quarterUnit q e ∧ m % 2 = 0

theorem reaches_iff {a b c : Nat} :
    (decide (a < b) || decide (a = b) && decide (c % 2 = 0)) = true ↔ a < b ∨ a = b ∧ c % 2 = 0 := by
  rw [Bool.or_eq_true, Bool.and_eq_true, decide_eq_true_eq, decide_eq_true_eq, decide_eq_true_eq]

variable {tie : Tie} {e : Int} {d : Nat}

/-- What is taken from a grid is one of the two points around the double, and inside. -/
theorem onGrid?_cases (h : onGrid? tie m q e = some d) :
    d = gridBelow m q e ∧ ReachesLower m q e d ∨ d = gridBelow m q e + 1 ∧ ReachesUpper m q e d := by
  have hbelow (hlow : ReachesLower m q e (gridBelow m q e)) (hd : gridBelow m q e = d) :
      d = gridBelow m q e ∧ ReachesLower m q e d ∨
        d = gridBelow m q e + 1 ∧ ReachesUpper m q e d :=
    .inl ⟨hd.symm, hd ▸ hlow⟩
  have habove (hhigh : ReachesUpper m q e (gridBelow m q e + 1)) (hd : gridBelow m q e + 1 = d) :
      d = gridBelow m q e ∧ ReachesLower m q e d ∨
        d = gridBelow m q e + 1 ∧ ReachesUpper m q e d :=
    .inr ⟨hd.symm, hd ▸ hhigh⟩
  unfold onGrid? at h
  simp only at h
  split at h
  next hlow hhigh =>
    -- Both are inside, so the nearer one is taken, or the one that the tie says.
    split at h
    next => exact hbelow (reaches_iff.mp hlow) (Option.some.inj h)
    split at h
    next => exact habove (reaches_iff.mp hhigh) (Option.some.inj h)
    split at h
    next => exact habove (reaches_iff.mp hhigh) (Option.some.inj h)
    next =>
      split at h
      next => exact hbelow (reaches_iff.mp hlow) (Option.some.inj h)
      next => exact habove (reaches_iff.mp hhigh) (Option.some.inj h)
  next hlow _ => exact hbelow (reaches_iff.mp hlow) (Option.some.inj h)
  next _ hhigh => exact habove (reaches_iff.mp hhigh) (Option.some.inj h)
  next => cases h

/-- A grid with the point above the double inside has a point to take. -/
theorem onGrid?_isSome (tie : Tie) (h : ReachesUpper m q e (gridBelow m q e + 1)) :
    (onGrid? tie m q e).isSome := by
  have hhigh := reaches_iff.mpr h
  unfold onGrid?
  simp only
  split
  next =>
    split
    next => rfl
    split
    next => rfl
    split <;> rfl
  next => rfl
  next => rfl
  next hnone => exact absurd (hhigh.symm.trans hnone) (by decide)

theorem readsAs_of_onGrid? (hm : 0 < m) (h : onGrid? tie m q e = some d) :
    ReadsAs m q (d * 10 ^ e) := by
  have hunit := quarterUnit_pos q e
  have hlower : lowerEnd m q * quarterUnit q e < 4 * m * quarterUnit q e :=
    Nat.mul_lt_mul_of_pos_right (by have := lowerEnd_le m q; omega) hunit
  have hupper : 4 * m * quarterUnit q e < upperEnd m * quarterUnit q e :=
    Nat.mul_lt_mul_of_pos_right (by unfold upperEnd; omega) hunit
  have hends : ReachesLower m q e d ∧ ReachesUpper m q e d := by
    rcases onGrid?_cases h with ⟨rfl, hlow⟩ | ⟨rfl, hhigh⟩
    · exact ⟨hlow, .inl ((gridBelow_le m q e).trans_lt hupper)⟩
    · exact ⟨.inl (hlower.trans (lt_gridBelow_succ m q e)), hhigh⟩
  have hlow := hends.1
  have hhigh := hends.2
  rw [ReachesLower, units_lt_iff, units_eq_iff] at hlow
  rw [ReachesUpper, lt_units_iff, eq_comm, units_eq_iff, eq_comm] at hhigh
  exact ⟨hlow, hhigh⟩

/-- A grid that is finer than half the gap to the next double has a point inside. -/
theorem onGrid?_isSome_of_fine (tie : Tie) (h : 2 * (10 : ℚ) ^ e < 2 ^ q) :
    (onGrid? tie m q e).isSome := by
  have hstep : gridStep q e < 2 * quarterUnit q e := by
    have hscaled := (lt_units_iff 2 1 q e).mpr (by push_cast; linarith)
    rwa [Nat.one_mul] at hscaled
  refine onGrid?_isSome tie (.inl ?_)
  have hle := gridBelow_le m q e
  have hend : upperEnd m * quarterUnit q e =
      4 * m * quarterUnit q e + 2 * quarterUnit q e := Nat.add_mul _ _ _
  rw [Nat.add_mul, Nat.one_mul, hend]
  omega

/-! The search. -/

theorem pow_le_of_toDigits {n : Nat} (hn : 0 < n) :
    10 ^ ((Nat.toDigits 10 n).length - 1) ≤ n := by
  generalize hk : (Nat.toDigits 10 n).length - 1 = k
  rcases Nat.eq_zero_or_pos k with rfl | hpos
  · exact hn
  · have hshort := (Nat.length_toDigits_le_iff (n := n) (b := 10) (by decide) hpos).not
    exact Nat.le_of_not_lt (hshort.mp (by omega))

theorem lt_pow_toDigits (n : Nat) : n < 10 ^ (Nat.toDigits 10 n).length :=
  (Nat.length_toDigits_le_iff (by decide) Nat.length_toDigits_pos).mp (Nat.le_refl _)

/-- The leading digit does not stand below the place before the leading exponent. -/
theorem ten_zpow_leadingExponent_le (hm : 0 < m) (q : Int) :
    (10 : ℚ) ^ (leadingExponent m q - 1) ≤ m * 2 ^ q := by
  have hvalue : (m * 2 ^ q) * ((2 ^ (-q).toNat : ℕ) : ℚ) = ((m * 2 ^ q.toNat : ℕ) : ℚ) := by
    push_cast
    rw [mul_assoc, zpow_mul_pow_neg two_ne_zero]
  have hd : 0 < 2 ^ (-q).toNat := Nat.two_pow_pos _
  have hn : 0 < m * 2 ^ q.toNat := Nat.mul_pos hm (Nat.two_pow_pos _)
  unfold leadingExponent
  simp only [Nat.pow_eq]
  generalize (m * 2 ^ q : ℚ) = x at hvalue ⊢
  generalize 2 ^ (-q).toNat = d at hvalue hd ⊢
  generalize m * 2 ^ q.toNat = n at hvalue hn ⊢
  have hdq : (0 : ℚ) < d := Nat.cast_pos.mpr hd
  rw [← mul_le_mul_iff_of_pos_right hdq, hvalue]
  split
  next hle =>
    have hquotient : 0 < n / d := Nat.div_pos hle hd
    have hlength : 0 < (Nat.toDigits 10 (n / d)).length := Nat.length_toDigits_pos
    have hpow : 10 ^ ((Nat.toDigits 10 (n / d)).length - 1) * d ≤ n :=
      (Nat.mul_le_mul_right d (pow_le_of_toDigits hquotient)).trans (Nat.div_mul_le_self n d)
    have hexponent : ((Nat.toDigits 10 (n / d)).length : Int) - 1 =
        (((Nat.toDigits 10 (n / d)).length - 1 : ℕ) : Int) := by omega
    rw [hexponent, zpow_natCast]
    exact_mod_cast hpow
  next =>
    have hpow : d < 10 ^ (Nat.toDigits 10 (d / n)).length * n :=
      (Nat.div_lt_iff_lt_mul hn).mp (lt_pow_toDigits _)
    have hexponent : 1 - ((Nat.toDigits 10 (d / n)).length : Int) - 1 =
        -((Nat.toDigits 10 (d / n)).length : Int) := by omega
    rw [hexponent, zpow_neg, zpow_natCast, inv_mul_le_iff₀ (by positivity)]
    exact_mod_cast hpow.le

/-- Nineteen places below the leading exponent grids are finer than any gap. -/
theorem fine_grid (hc : Canonical m q) :
    2 * (10 : ℚ) ^ (leadingExponent m q - 19) < 2 ^ q := by
  have hlead := ten_zpow_leadingExponent_le hc.pos q
  have hbits : (m : ℚ) < 2 ^ 53 := by exact_mod_cast hc.bits
  have hbelow : (m : ℚ) * 2 ^ q < 2 ^ 53 * 2 ^ q :=
    mul_lt_mul_of_pos_right hbits (two_zpow_pos q)
  have hplaces : (10 : ℚ) ^ (leadingExponent m q - 1) =
      10 ^ (leadingExponent m q - 19) * 10 ^ 18 := by
    rw [← zpow_natCast, ← zpow_add₀ (by norm_num)]
    congr 1
    ring
  rw [hplaces] at hlead
  linarith [ten_zpow_pos (leadingExponent m q - 19)]

theorem stripZeros_value (fuel : Nat) (s : Scientific) :
    (stripZeros fuel s).value = s.value := by
  induction fuel generalizing s with
  | zero => rfl
  | succ fuel ih =>
    unfold stripZeros
    split
    next h =>
      have hdigits : s.digits = s.digits / 10 * 10 := by omega
      rw [ih, Scientific.value, Scientific.value, zpow_add_one₀ (by norm_num)]
      nth_rewrite 2 [hdigits]
      push_cast
      ring
    next => rfl

/-- The shortest decimal of a positive double reads back as it. -/
theorem readsAs_shortest (tie : Tie) (hc : Canonical m q) :
    ReadsAs m q (shortest tie m q).value := by
  unfold shortest
  simp only
  rw [stripZeros_value]
  generalize hfound : (List.range 20).findSome? _ = found
  cases found with
  | none =>
    -- The finest grid that is tried is never left without a point.
    have hfine := onGrid?_isSome_of_fine (m := m) tie (fine_grid hc)
    have hnone := List.findSome?_eq_none_iff.mp hfound 19 (by decide)
    rw [Option.map_eq_none_iff] at hnone
    rw [Nat.cast_ofNat] at hnone
    rw [hnone] at hfine
    cases hfine
  | some s =>
    obtain ⟨k, -, hk⟩ := List.exists_of_findSome?_eq_some hfound
    obtain ⟨d, hd, rfl⟩ := Option.map_eq_some_iff.mp hk
    exact readsAs_of_onGrid? hc.pos hd

theorem shortest_value_pos (tie : Tie) (hc : Canonical m q) : 0 < (shortest tie m q).value :=
  (readsAs_shortest tie hc).pos hc.pos

/-- Two positive doubles with one shortest decimal are the same. -/
theorem eq_of_shortest_value (tie : Tie) (hc : Canonical m q) (hc' : Canonical m' q')
    (h : (shortest tie m q).value = (shortest tie m' q').value) : m = m' ∧ q = q' :=
  (readsAs_shortest tie hc).unique hc hc' (h ▸ readsAs_shortest tie hc')

end FleetBridge.Decimal
