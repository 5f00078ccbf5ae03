import FleetBridge.Proofs.Decimal.Packing

/-!
Lower bounds of doubles. Rounding to the nearest double never goes below a number that is a double
itself, so a bound from the scale of the doubles is kept by products with factors from one on, by
sums with positive terms and by quotients that reach it.
-/
namespace FleetBridge.Decimal

open Float.Model Float.Model.UnpackedFloat

/-- A number of up to 53 bits that is no less than the least normal double. -/
structure OnScale (v : ℚ) : Prop where
  normal : (2 : ℚ) ^ (-1022 : ℤ) ≤ v
  fits : ∃ (k : ℕ) (j : ℤ), k ≤ 2 ^ 53 ∧ -1074 ≤ j ∧ v = k * 2 ^ j

/-- Positive infinity, or a normal number that is no less than a bound. -/
inductive AtLeast (v : ℚ) : UnpackedFloat → Prop
  | infinity : AtLeast v (.infinity .positive)
  | finite {m : Nat} {e : Int} {hm : 0 < m} (bits : m.log2 = 52) (least : -1074 ≤ e)
      (le : v ≤ m * 2 ^ e) : AtLeast v (.finite .positive m e hm)

variable {v w : ℚ} {m : Nat} {e : Int}

theorem OnScale.pos (hv : OnScale v) : 0 < v := (two_zpow_pos _).trans_le hv.normal

/-- A number from the scale does not lie below the lowest leading bit. -/
theorem OnScale.total (hv : OnScale v) (hle : v ≤ m * 2 ^ e) : -1021 ≤ (m.log2 : ℤ) + 1 + e := by
  have hlt : (m : ℚ) < 2 ^ ((m.log2 : ℤ) + 1) := by
    have hnat : m < 2 ^ (m.log2 + 1) := Nat.lt_log2_self
    exact_mod_cast hnat
  have hpow : (2 : ℚ) ^ (-1022 : ℤ) < 2 ^ ((m.log2 : ℤ) + 1 + e) := by
    rw [zpow_add₀ two_ne_zero]
    exact (hv.normal.trans hle).trans_lt (mul_lt_mul_of_pos_right hlt (two_zpow_pos e))
  have hexponent := (zpow_lt_zpow_iff_right₀ one_lt_two).mp hpow
  omega

/-- A quotient of 53 bits or more is rounded down to no less than a number from the scale that it
reaches. -/
theorem OnScale.le_floor (hv : OnScale v) {n d : Nat} {t : ℤ} (hd : 0 < d)
    (hlong : 2 ^ 52 ≤ n / d) (hle : v * d ≤ n * 2 ^ t) : v ≤ (n / d : ℕ) * 2 ^ t := by
  obtain ⟨k, j, hk, -, rfl⟩ := hv.fits
  rcases le_or_gt t j with htj | hjt
  · -- The bound is a whole number of units, so it passes the floor.
    obtain ⟨a, rfl⟩ := Int.le.dest htj
    have hsplit : (k : ℚ) * 2 ^ (t + (a : ℤ)) = (k * 2 ^ a : ℕ) * 2 ^ t := by
      rw [zpow_add₀ two_ne_zero, zpow_natCast]
      push_cast
      ring
    have hunits : ((k * 2 ^ a * d : ℕ) : ℚ) ≤ n := by
      rw [hsplit] at hle
      refine le_of_mul_le_mul_right ?_ (two_zpow_pos t)
      push_cast at hle ⊢
      linarith
    have hfloor : k * 2 ^ a ≤ n / d := (Nat.le_div_iff_mul_le hd).mpr (Nat.cast_le.mp hunits)
    rw [hsplit]
    exact mul_le_mul_of_nonneg_right (Nat.cast_le.mpr hfloor) (two_zpow_pos t).le
  · -- A unit is at least twice that of the bound, which has no more than 53 bits.
    have hstep : (2 : ℚ) ^ j * 2 ≤ 2 ^ t := by
      rw [← zpow_add_one₀ two_ne_zero]
      exact zpow_le_zpow_right₀ one_le_two hjt
    have hfloor : (2 ^ 52 : ℚ) ≤ (n / d : ℕ) := by exact_mod_cast hlong
    have hbits : (k : ℚ) ≤ 2 ^ 53 := by exact_mod_cast hk
    calc (k : ℚ) * 2 ^ j ≤ 2 ^ 53 * 2 ^ j := mul_le_mul_of_nonneg_right hbits (two_zpow_pos j).le
      _ = 2 ^ 52 * (2 ^ j * 2) := by ring
      _ ≤ 2 ^ 52 * 2 ^ t := mul_le_mul_of_nonneg_left hstep (by positivity)
      _ ≤ (n / d : ℕ) * 2 ^ t := mul_le_mul_of_nonneg_right hfloor (two_zpow_pos t).le

/-- A shift to the exponent that the format asks for leaves 53 bits of a number that has them. -/
theorem OnScale.shift (hv : OnScale v) (hm : 52 ≤ m.log2) (hle : v ≤ m * 2 ^ e) (acc : Accuracy) :
    ∃ em e', shiftToTargetExponent Format.binary64 m e acc = (em, e') ∧
      em.mantissa.log2 = 52 ∧ -1074 ≤ e' ∧ v ≤ em.mantissa * 2 ^ e' := by
  obtain ⟨n, hmantissa, hexponent, hn⟩ := shiftToTargetExponent_spec m e acc
  have htotal := hv.total hle
  have hne : m ≠ 0 := by
    rintro rfl
    exact absurd hm (by decide)
  have hshift : n = m.log2 - 52 := by omega
  have hlong : 2 ^ 52 ≤ m / 2 ^ n := by
    rw [Nat.le_div_iff_mul_le (Nat.two_pow_pos n), ← Nat.pow_add]
    exact two_pow_le_of_log2 hne (by omega)
  generalize shiftToTargetExponent Format.binary64 m e acc = p at hmantissa hexponent
  obtain ⟨em, e'⟩ := p
  simp only at hmantissa hexponent
  refine ⟨em, e', rfl, ?_, by omega, ?_⟩
  · rw [hmantissa]
    refine le_antisymm (log2_le_of_lt ?_) ((Nat.le_log2 (by omega)).mpr hlong)
    have hlt := div_lt_two_pow m n
    rwa [hshift, Nat.sub_sub_self hm, ← hshift] at hlt
  · rw [hmantissa, hexponent]
    refine hv.le_floor (Nat.two_pow_pos n) hlong ?_
    rw [zpow_add₀ two_ne_zero, zpow_natCast]
    push_cast
    calc v * 2 ^ n ≤ m * 2 ^ e * 2 ^ n := mul_le_mul_of_nonneg_right hle (by positivity)
      _ = m * (2 ^ e * 2 ^ n) := by ring

theorem le_roundedMantissa (em : ExtendedMantissa) : em.mantissa ≤ em.roundedMantissa := by
  obtain ⟨m, round, sticky⟩ := em
  cases round <;> cases sticky <;>
    simp [ExtendedMantissa.roundedMantissa, ExtendedMantissa.accuracy, Accuracy.roundToNearestEven]

theorem OnScale.roundWithAccuracy (hv : OnScale v) (hm : 52 ≤ m.log2) (hle : v ≤ m * 2 ^ e)
    (acc : Accuracy) :
    AtLeast v (UnpackedFloat.roundWithAccuracy Format.binary64 .positive m e acc) := by
  obtain ⟨em, e₁, hfirst, hbits, -, hle₁⟩ := hv.shift hm hle acc
  have hrounded := le_roundedMantissa em
  -- Rounding does not go below what the first shift left, and the second one starts from there.
  have hle₂ : v ≤ em.roundedMantissa * 2 ^ e₁ :=
    hle₁.trans (mul_le_mul_of_nonneg_right (Nat.cast_le.mpr hrounded) (two_zpow_pos e₁).le)
  obtain ⟨em', e₂, hsecond, hbits', hleast, hle₃⟩ :=
    hv.shift (hbits.ge.trans (log2_mono hrounded)) hle₂ .exact
  unfold UnpackedFloat.roundWithAccuracy
  simp only [hfirst, hsecond]
  have hne : em'.mantissa ≠ 0 := fun h => by rw [h] at hbits'; cases hbits'
  rw [dif_neg hne]
  exact .finite hbits' hleast hle₃

theorem OnScale.round (hv : OnScale v) (hle : v ≤ m * 2 ^ e) :
    AtLeast v (UnpackedFloat.round Format.binary64 .positive m e) := by
  have htotal := hv.total hle
  have hne : m ≠ 0 := by
    rintro rfl
    rw [Nat.cast_zero, zero_mul] at hle
    exact absurd hle (not_le_of_gt hv.pos)
  unfold UnpackedFloat.round
  simp only [decreaseExponent, targetExponent_eq, totalExponent]
  generalize hn : (e - max ((m.log2 : Int) + 1 + e - 53) (-1074)).toNat = n
  refine hv.roundWithAccuracy ?_ ?_ .exact
  · have hlong : 2 ^ 52 ≤ m <<< n :=
      calc 2 ^ 52 ≤ 2 ^ (m.log2 + n) := Nat.pow_le_pow_right (by decide) (by omega)
        _ = 2 ^ m.log2 * 2 ^ n := Nat.pow_add 2 _ n
        _ ≤ m * 2 ^ n := Nat.mul_le_mul_right _ (Nat.log2_self_le hne)
        _ = m <<< n := (Nat.shiftLeft_eq m n).symm
    exact (Nat.le_log2 (by omega)).mpr hlong
  · rw [Nat.shiftLeft_eq]
    push_cast
    rw [mul_assoc, ← zpow_natCast, ← zpow_add₀ two_ne_zero]
    have hsame : (n : ℤ) + (e - n) = e := by omega
    rwa [hsame]

/-! Operations. -/

theorem AtLeast.mul {u u' : UnpackedFloat} (hv : OnScale v) (h : AtLeast v u) (h' : AtLeast 1 u') :
    AtLeast v (UnpackedFloat.mul Format.binary64 u u') := by
  cases h with
  | infinity => cases h' <;> exact .infinity
  | @finite m e hm bits least le =>
    cases h' with
    | infinity => exact .infinity
    | @finite m' e' hm' bits' least' le' =>
      refine hv.roundWithAccuracy (m := m * m') (e := e + e') ?_ ?_ .exact
      · exact bits.ge.trans (log2_mono (Nat.le_mul_of_pos_right m hm'))
      · rw [zpow_add₀ two_ne_zero]
        push_cast
        calc v ≤ m * 2 ^ e := le
          _ ≤ m * 2 ^ e * (m' * 2 ^ e') := le_mul_of_one_le_right (by positivity) le'
          _ = m * m' * (2 ^ e * 2 ^ e') := by ring

/-- A quotient by a number of 53 bits has enough bits to be rounded. -/
theorem AtLeast.div {u : UnpackedFloat} (hv : OnScale v) (h : AtLeast w u) (hw : 1 ≤ w)
    {m' : Nat} {e' : Int} (hm' : 0 < m') (bits' : m'.log2 = 52) (he' : e' ≤ 900)
    (hle : v * (m' * 2 ^ e') ≤ w) :
    AtLeast v (UnpackedFloat.div Format.binary64 u (.finite .positive m' e' hm')) := by
  cases h with
  | infinity => exact .infinity
  | @finite m e hm bits least le =>
    have hbound : -52 ≤ e := by
      by_contra hlow
      have hlt : (m : ℚ) < 2 ^ (53 : ℤ) := by
        have hnat := lt_of_bits bits
        exact_mod_cast hnat
      have hpow : (2 : ℚ) ^ (53 : ℤ) * 2 ^ e ≤ 1 := by
        rw [← zpow_add₀ two_ne_zero]
        exact zpow_le_one_of_nonpos₀ one_le_two (by omega)
      have hsmall := mul_lt_mul_of_pos_right hlt (two_zpow_pos e)
      linarith
    have htarget : min (e - e') (max ((m.log2 : Int) + 1 + e - (m'.log2 + 1 + e') - 53) (-1074)) =
        e - e' - 53 := by omega
    unfold UnpackedFloat.div
    simp only [divCore, targetExponent_eq, totalExponent, htarget]
    have hshift : (e - e' - (e - e' - 53)).toNat = 53 := by omega
    rw [hshift]
    have hlong : 2 ^ 52 ≤ (m <<< 53) / m' := by
      have hlt := lt_of_bits bits'
      have hge := two_pow_le_of_log2 hm.ne' bits.ge
      rw [Nat.le_div_iff_mul_le hm', Nat.shiftLeft_eq]
      omega
    refine hv.roundWithAccuracy (m := (m <<< 53) / m') ((Nat.le_log2 (by omega)).mpr hlong) ?_ _
    refine hv.le_floor hm' hlong ?_
    have hscale : (2 : ℚ) ^ e' * 2 ^ (e - e' - 53) * 2 ^ 53 = 2 ^ e := by
      rw [← zpow_natCast, ← zpow_add₀ two_ne_zero, ← zpow_add₀ two_ne_zero]
      congr 1
      push_cast
      ring
    rw [Nat.shiftLeft_eq]
    push_cast
    have hpos := two_zpow_pos e'
    refine le_of_mul_le_mul_right ?_ hpos
    calc v * m' * 2 ^ e' = v * (m' * 2 ^ e') := by ring
      _ ≤ m * 2 ^ e := hle.trans le
      _ = m * 2 ^ 53 * 2 ^ (e - e' - 53) * 2 ^ e' := by rw [← hscale]; ring

theorem normalize_natCast (spec : Format) {m : Nat} (hm : 0 < m) (e : Int) (s : Sign) :
    UnpackedFloat.normalize spec m e s = UnpackedFloat.round spec .positive m e := by
  have hpos : compare (m : Int) 0 = .gt := Int.compare_eq_gt.mpr (by omega)
  rw [UnpackedFloat.normalize, hpos]
  rfl

/-- A sum is no less than its first term. -/
theorem AtLeast.add {u u' : UnpackedFloat} (hv : OnScale v) (h : AtLeast v u)
    (h' : AtLeast w u') : AtLeast v (UnpackedFloat.add Format.binary64 u u') := by
  cases h with
  | infinity => cases h' <;> exact .infinity
  | @finite m e hm bits least le =>
    cases h' with
    | infinity => exact .infinity
    | @finite m' e' hm' bits' least' le' =>
      unfold UnpackedFloat.add
      simp only [decreaseExponent, Sign.apply]
      generalize hn : (e - min e e').toNat = n
      have hm₁ : 0 < m <<< n := by
        rw [Nat.shiftLeft_eq]
        positivity
      rw [← Int.natCast_add, normalize_natCast _ (Nat.add_pos_left hm₁ _)]
      refine hv.round (le.trans ?_)
      have hexponent : (2 : ℚ) ^ e = 2 ^ n * 2 ^ (min e e') := by
        rw [← zpow_natCast, ← zpow_add₀ two_ne_zero]
        congr 1
        omega
      rw [hexponent, ← mul_assoc, Nat.shiftLeft_eq]
      refine mul_le_mul_of_nonneg_right ?_ (two_zpow_pos _).le
      push_cast
      exact le_add_of_nonneg_right (Nat.cast_nonneg _)

theorem AtLeast.zero_add {u : UnpackedFloat} (h : AtLeast v u) (s : Sign) :
    AtLeast v (UnpackedFloat.add Format.binary64 (.zero s) u) := by
  cases h with
  | infinity => exact .infinity
  | finite bits least le => exact .finite bits least le

theorem AtLeast.add_zero {u : UnpackedFloat} (h : AtLeast v u) (s : Sign) :
    AtLeast v (UnpackedFloat.add Format.binary64 u (.zero s)) := by
  cases h with
  | infinity => exact .infinity
  | finite bits least le => exact .finite bits least le

/-- Packing keeps a lower bound; a number that is too large becomes infinite. -/
theorem AtLeast.pack {u : UnpackedFloat} (h : AtLeast v u) : AtLeast v
    (UnpackedFloat.unpack Format.binary64 (UnpackedFloat.pack Format.binary64 u)) := by
  cases h with
  | infinity =>
    change AtLeast v (UnpackedFloat.unpack Format.binary64 (packedInfinity Format.binary64 _))
    rw [unpack_pack_infinity]
    exact .infinity
  | @finite m e hm bits least le =>
    by_cases hhigh : e ≤ 971
    · rw [unpack_pack_normal _ hm bits least hhigh]
      exact .finite bits least le
    · have hbias : Format.binary64.exponentBias = 1023 := rfl
      have hlarge : 2 ^ 11 ≤ (e + (1023 : Nat) + (52 : Nat)).toNat + 1 := by omega
      simp only [UnpackedFloat.pack, hbias, hlarge, if_true]
      rw [unpack_pack_infinity]
      exact .infinity

/-! Doubles. -/

/-- A double that is infinite, or normal and no less than a bound. -/
def NoLess (v : ℚ) (x : Float) : Prop := AtLeast v x.toModel.unpack

variable {x y : Float}

theorem NoLess.mul (hv : OnScale v) (h : NoLess v x) (h' : NoLess 1 y) : NoLess v (x * y) :=
  (AtLeast.mul hv h h').pack

theorem NoLess.add (hv : OnScale v) (h : NoLess v x) (h' : NoLess w y) : NoLess v (x + y) :=
  (AtLeast.add hv h h').pack

theorem NoLess.zero_add {s : Sign} (hx : x.toModel.unpack = .zero s) (h : NoLess v y) :
    NoLess v (x + y) := by
  have hsum := (AtLeast.zero_add h s).pack
  rwa [← hx] at hsum

theorem NoLess.add_zero {s : Sign} (h : NoLess v x) (hy : y.toModel.unpack = .zero s) :
    NoLess v (x + y) := by
  have hsum := (AtLeast.add_zero h s).pack
  rwa [← hy] at hsum

theorem NoLess.div (hv : OnScale v) (h : NoLess w x) (hw : 1 ≤ w) {hm : 0 < m}
    (hbits : m.log2 = 52) (he : e ≤ 900) (hy : y.toModel.unpack = .finite .positive m e hm)
    (hle : v * (m * 2 ^ e) ≤ w) : NoLess v (x / y) := by
  have hquotient := (AtLeast.div hv h hw hm hbits he hle).pack
  rwa [← hy] at hquotient

theorem onScale_natCast {n : Nat} (hn : 0 < n) (hbits : n ≤ 2 ^ 53) : OnScale (n : ℚ) where
  normal := (zpow_le_one_of_nonpos₀ one_le_two (by decide)).trans (Nat.one_le_cast.mpr hn)
  fits := ⟨n, 0, hbits, by decide, by rw [zpow_zero, mul_one]⟩

theorem onScale_one : OnScale 1 := by
  have hone := onScale_natCast one_pos (by decide)
  rwa [Nat.cast_one] at hone

theorem noLess_one : NoLess 1 (Float.ofBits 0x3FF0000000000000) := by
  have hunpack : (Float.ofBits 0x3FF0000000000000).toModel.unpack =
      .finite .positive (2 ^ 52) (-52) (by decide) := rfl
  unfold NoLess
  rw [hunpack]
  refine .finite (by decide) (by decide) ?_
  norm_num

theorem noLess_toFloat (hv : OnScale v) {n : UInt64} (hle : v ≤ n.toNat) :
    NoLess v n.toFloat := by
  have hpos : 0 < n.toNat := by
    have := hv.pos.trans_le hle
    exact_mod_cast this
  have hnormal : AtLeast v (UnpackedFloat.normalize Format.binary64 n.toNat 0 .positive) := by
    rw [normalize_natCast _ hpos]
    refine hv.round ?_
    rwa [zpow_zero, mul_one]
  exact hnormal.pack

/-- A whole number is read as a double that is no less than any number from the scale below. -/
theorem noLess_ofScientific (hv : OnScale v) {s : Nat} (hle : v ≤ s) :
    NoLess v (Float.ofScientific s false 0) := by
  have hpos : 0 < s := by
    have := hv.pos.trans_le hle
    exact_mod_cast this
  unfold Float.ofScientific
  split
  next h =>
    have hsame : s.toUInt64.toNat = s := by
      rw [Nat.toUInt64, UInt64.toNat_ofNat']
      exact Nat.mod_eq_of_lt (by omega)
    have hfloat : NoLess v s.toUInt64.toFloat := noLess_toFloat hv (by rwa [hsame])
    exact hfloat.mul hv noLess_one
  next h =>
    have hmodel : AtLeast v (UnpackedFloat.ofScientific Format.binary64 s 0) := by
      have hrange : (2 : Int) ^ Format.binary64.exponentBits = 2048 := rfl
      have hbits : Format.binary64.mantissaBits = 53 := rfl
      have hhigh : ¬ (0 : Int) > 2048 := by decide
      have hlow : ¬ (0 : Int) < -(2048 + s.log2) := by omega
      simp only [UnpackedFloat.ofScientific, hrange, hbits, hhigh, hlow, hpos.ne', dif_neg,
        not_false_eq_true, if_false, Int.le_refl, if_true, UnpackedFloat.mul]
      have hsignificand : (s <<< 53) * 10 ^ (0 : Int).toNat = s * 2 ^ 53 := by
        rw [Nat.shiftLeft_eq, Int.toNat_zero, Nat.pow_zero, Nat.mul_one]
      have hlong : 2 ^ 52 ≤ s * 2 ^ 53 := by omega
      have hscale : (2 : ℚ) ^ 53 * 2 ^ (-((53 : ℕ) : ℤ) + 0) = 1 := by norm_num
      refine hv.roundWithAccuracy ?_ ?_ .exact
      · rw [hsignificand]
        exact (Nat.le_log2 (by omega)).mpr hlong
      · rw [hsignificand, Nat.cast_mul, Nat.cast_pow, Nat.cast_ofNat, mul_assoc, hscale, mul_one]
        exact hle
    exact hmodel.pack

theorem NoLess.exists_parts (h : NoLess v x) (hfinite : x.isFinite = true) :
    ∃ m e, binaryParts x = (m, e) ∧ v ≤ m * 2 ^ e := by
  unfold NoLess at h
  have hnumber : x.toModel.unpack.isFinite = true := hfinite
  generalize hu : x.toModel.unpack = u at h hnumber
  cases h with
  | infinity => cases hnumber
  | @finite m e hm bits least le => exact ⟨m, e, binaryParts_of_unpack hu, le⟩

/-! Order. -/

/-- Of two numbers of 53 bits the one with the smaller exponent is smaller, or else the one with the
smaller significand. -/
theorem value_lt {m' : Nat} {e' : Int} (hbits : m.log2 = 52) (hbits' : m'.log2 = 52)
    (h : e < e' ∨ e = e' ∧ m < m') : (m : ℚ) * 2 ^ e < m' * 2 ^ e' := by
  rcases h with he | ⟨rfl, hm⟩
  · have hstep : (2 : ℚ) ^ e * 2 ≤ 2 ^ e' := by
      rw [← zpow_add_one₀ two_ne_zero]
      exact zpow_le_zpow_right₀ one_le_two he
    have hlong : m < m' * 2 := by
      have hlt := lt_of_bits hbits
      have hge := two_pow_le_of_log2 (ne_zero_of_bits hbits') hbits'.ge
      omega
    have hcast : (m : ℚ) < m' * 2 := by exact_mod_cast hlong
    calc (m : ℚ) * 2 ^ e < m' * 2 * 2 ^ e := mul_lt_mul_of_pos_right hcast (two_zpow_pos e)
      _ = m' * (2 ^ e * 2) := by ring
      _ ≤ m' * 2 ^ e' := mul_le_mul_of_nonneg_left hstep (Nat.cast_nonneg _)
  · exact mul_lt_mul_of_pos_right (Nat.cast_lt.mpr hm) (two_zpow_pos e)

/-- Nothing from a bound on is less than a normal number up to the bound. -/
theorem NoLess.not_lt (h : NoLess v x) {hm : 0 < m} (hbits : m.log2 = 52)
    (hy : y.toModel.unpack = .finite .positive m e hm) (hle : m * (2 : ℚ) ^ e ≤ v) : ¬ x < y := by
  unfold NoLess at h
  rw [lt_iff, hy]
  generalize x.toModel.unpack = u at h ⊢
  cases h with
  | infinity => exact nofun
  | @finite m' e' hm' bits' least' le' =>
    intro hlt
    have hlt : (compare e' e).then (compare m' m) = .lt := Option.some.inj hlt
    rw [Ordering.then_eq_lt, Int.compare_eq_lt, Int.compare_eq_eq, Nat.compare_eq_lt] at hlt
    exact absurd (hle.trans le') (not_le_of_gt (value_lt bits' hbits hlt))

theorem noLess_one_of_le (hfinite : x.isFinite = true) (h : 1.0 ≤ x) : NoLess 1 x := by
  have hone : (1.0 : Float).toModel.unpack = .finite .positive (2 ^ 52) (-52) (by decide) := rfl
  have hnumber : x.toModel.unpack.isFinite = true := hfinite
  rw [le_iff, hone] at h
  unfold NoLess
  cases hu : x.toModel.unpack with
  | notANumber => rw [hu] at hnumber; cases hnumber
  | infinity s => rw [hu] at hnumber; cases hnumber
  | zero s => rw [hu] at h; cases h
  | finite s m e hm =>
    rw [hu] at h
    cases s with
    | negative => cases h
    | positive =>
      have hle : ((compare (-52) e).then (compare (2 ^ 52) m)).isLE = true := h
      have hexponent : -52 ≤ e := by
        by_contra hlt
        rw [Int.compare_eq_gt.mpr (by omega)] at hle
        cases hle
      have hbits := bits_of_unpack hu (by omega)
      refine .finite hbits (by omega) ?_
      have hlong : (2 ^ 52 : ℚ) ≤ m := by
        exact_mod_cast two_pow_le_of_log2 hm.ne' hbits.ge
      have hpow : (2 : ℚ) ^ (-52 : ℤ) ≤ 2 ^ e := zpow_le_zpow_right₀ one_le_two hexponent
      calc (1 : ℚ) = 2 ^ 52 * 2 ^ (-52 : ℤ) := by norm_num
        _ ≤ m * 2 ^ e := mul_le_mul hlong hpow (two_zpow_pos _).le (Nat.cast_nonneg _)

end FleetBridge.Decimal
