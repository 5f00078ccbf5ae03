import FleetBridge.Json.Reader
import Mathlib

/-!
How large doubles get under the operations that reading a number takes: a product of finite doubles
is finite or infinite, and a quotient by a power of ten is finite. Finite doubles are in order.

The lemmas about `packedZero`, `unpackSign` and `Float.toBits` that are used from here on are
Batteries', which only Mathlib as a whole imports in full.
-/
namespace FleetBridge.Decimal

open Float.Model Float.Model.UnpackedFloat

/-- A finite number below `2 ^ t` whose significand takes up to 53 bits. -/
inductive Bounded (t : Int) : UnpackedFloat → Prop
  | zero (s : Sign) : Bounded t (.zero s)
  | finite {s : Sign} {m : Nat} {e : Int} {hm : 0 < m} (htotal : m.log2 + 1 + e ≤ t)
      (hexponent : e ≤ t - 53) : Bounded t (.finite s m e hm)

theorem targetExponent_eq (t : Int) : Format.binary64.targetExponent t = max (t - 53) (-1074) := rfl

theorem mantissa_shiftRight (em : ExtendedMantissa) (n : Nat) :
    (em >>> n).mantissa = em.mantissa / 2 ^ n := by
  change (n.repeat ExtendedMantissa.shiftRightOne em).mantissa = _
  induction n with
  | zero => simp [Nat.repeat]
  | succ n ih =>
    rw [Nat.repeat, ExtendedMantissa.shiftRightOne, ih, Nat.pow_succ, Nat.div_div_eq_div_mul]

theorem roundedMantissa_le (em : ExtendedMantissa) : em.roundedMantissa ≤ em.mantissa + 1 := by
  obtain ⟨m, round, sticky⟩ := em
  cases round <;> cases sticky <;>
    simp [ExtendedMantissa.roundedMantissa, ExtendedMantissa.accuracy, Accuracy.roundToNearestEven]
  omega

theorem log2_le_of_lt {n k : Nat} (h : n < 2 ^ (k + 1)) : n.log2 ≤ k := by
  rcases eq_or_ne n 0 with rfl | hn
  · simp
  · exact Nat.le_of_lt_succ ((Nat.log2_lt hn).mpr h)

theorem div_lt_two_pow (m n : Nat) : m / 2 ^ n < 2 ^ (m.log2 - n + 1) := by
  have hbits : m.log2 + 1 ≤ n + (m.log2 - n + 1) := by omega
  have hm : m < 2 ^ n * 2 ^ (m.log2 - n + 1) :=
    Nat.pow_add 2 n _ ▸ Nat.lt_of_lt_of_le Nat.lt_log2_self (Nat.pow_le_pow_right (by decide) hbits)
  exact Nat.div_lt_of_lt_mul hm

theorem div_two_pow_eq_zero {m n : Nat} (h : m.log2 < n) : m / 2 ^ n = 0 :=
  Nat.div_eq_of_lt (Nat.lt_of_lt_of_le Nat.lt_log2_self (Nat.pow_le_pow_right (by decide) h))

/-- Rounding up what a shift leaves takes one bit more at most. -/
theorem log2_succ_div_le (m n : Nat) : (m / 2 ^ n + 1).log2 ≤ m.log2 + 1 - n := by
  have hdiv := div_lt_two_pow m n
  by_cases hn : n ≤ m.log2
  · refine log2_le_of_lt ?_
    have hbits : m.log2 + 1 - n + 1 = m.log2 - n + 1 + 1 := by omega
    rw [hbits, Nat.pow_succ]
    generalize m / 2 ^ n = q at hdiv ⊢
    omega
  · rw [div_two_pow_eq_zero (Nat.lt_of_not_le hn)]
    exact Nat.zero_le _

/-- A shift to the exponent that the format asks for drops as many bits as it adds to the
exponent. -/
theorem shiftToTargetExponent_spec (m : Nat) (e : Int) (acc : Accuracy) :
    ∃ n : Nat, (shiftToTargetExponent Format.binary64 m e acc).1.mantissa = m / 2 ^ n ∧
      (shiftToTargetExponent Format.binary64 m e acc).2 = e + n ∧
      e + n = max e (max (m.log2 + 1 + e - 53) (-1074)) := by
  refine ⟨(Format.binary64.targetExponent (totalExponent m e) - e).toNat, ?_, rfl, ?_⟩
  · rw [shiftToTargetExponent, shiftToExponent, mantissa_shiftRight]
    congr 1
    cases acc with
    | exact => rfl
    | inexact o => cases o <;> rfl
  · rw [targetExponent_eq, totalExponent]
    omega

theorem log2_mono {m n : Nat} (h : m ≤ n) : m.log2 ≤ n.log2 :=
  log2_le_of_lt (Nat.lt_of_le_of_lt h Nat.lt_log2_self)

theorem bounded_roundWithAccuracy {t : Int} (ht : -1021 ≤ t) (s : Sign) {m : Nat} {e : Int}
    (acc : Accuracy) (hm : m.log2 + 1 + e ≤ t) (he : e ≤ t - 52) :
    Bounded (t + 1) (roundWithAccuracy Format.binary64 s m e acc) := by
  obtain ⟨n, hmantissa, hexponent, hn⟩ := shiftToTargetExponent_spec m e acc
  unfold roundWithAccuracy
  generalize shiftToTargetExponent Format.binary64 m e acc = p at hmantissa hexponent ⊢
  obtain ⟨em, e₁⟩ := p
  simp only at hmantissa hexponent ⊢
  -- Rounding may carry into one more bit, so the number is shifted and rounded a second time.
  have hrounded : em.roundedMantissa.log2 ≤ m.log2 + 1 - n :=
    (log2_mono (hmantissa ▸ roundedMantissa_le em)).trans (log2_succ_div_le m n)
  obtain ⟨k, hmantissa', hexponent', hk⟩ :=
    shiftToTargetExponent_spec em.roundedMantissa e₁ .exact
  generalize shiftToTargetExponent Format.binary64 em.roundedMantissa e₁ .exact = p
    at hmantissa' hexponent' ⊢
  obtain ⟨em', e₂⟩ := p
  simp only at hmantissa' hexponent' ⊢
  split
  · exact .zero s
  next hpos =>
    have hfinal : em'.mantissa.log2 ≤ em.roundedMantissa.log2 - k := by
      rw [hmantissa']
      exact log2_le_of_lt (div_lt_two_pow _ _)
    have hlong : k ≤ em.roundedMantissa.log2 := by
      by_contra hk
      exact hpos (hmantissa'.trans (div_two_pow_eq_zero (Nat.lt_of_not_le hk)))
    exact .finite (by omega) (by omega)

/-- The exponent field of a pattern of bits bounds the number, unless it says that there is none. -/
theorem bounded_unpack {t : Int} (ht : -1021 ≤ t) {b : BitVec Format.binary64.numBits}
    (hfinite : unpackExponent b ≠ -1#_) (hb : ((unpackExponent b).toNat : Int) - 1022 ≤ t) :
    Bounded t (UnpackedFloat.unpack Format.binary64 b) := by
  have hbias : (Format.binary64.exponentBias : Int) +
      Format.binary64.mantissaBitsWithoutImplicit = 1075 := rfl
  unfold UnpackedFloat.unpack
  simp only [hfinite, if_false, hbias]
  split
  next hzero =>
    -- Without the implicit bit the smallest exponent holds.
    split
    · exact .zero _
    · have hmantissa : (unpackMantissa b).toNat.log2 ≤ 51 := log2_le_of_lt (unpackMantissa b).isLt
      have hexponent : ((unpackExponent b).toNat : Int) = 0 := by rw [hzero]; rfl
      exact .finite (by omega) (by omega)
  next hnormal =>
    have hmantissa : (1#1 ++ unpackMantissa b).toNat.log2 ≤ 52 :=
      log2_le_of_lt (1#1 ++ unpackMantissa b).isLt
    exact .finite (by omega) (by omega)

/-- The exponent field of a finite number whose exponent fits is never the last one; if it is not
the first it tells the exponent. -/
theorem unpackExponent_pack_finite (s : Sign) {m : Nat} {e : Int} (hm : 0 < m) (he : e ≤ 971) :
    ∃ b : BitVec 11, unpackExponent (UnpackedFloat.pack Format.binary64 (.finite s m e hm)) = b ∧
      b ≠ -1#11 ∧ (b.toNat = 0 ∨ (b.toNat : Int) = e + 1075 ∧ m.log2 = 52) := by
  have hfits : ¬ 2 ^ 11 ≤ (e + (1023 : Nat) + (52 : Nat)).toNat + 1 := by omega
  have hbits : Format.binary64.mantissaBits = 53 := rfl
  have hbias : Format.binary64.exponentBias = 1023 := rfl
  simp only [UnpackedFloat.pack, hbias, hfits, if_false, hbits]
  split
  next hlong =>
    refine ⟨_, unpackExponent_packComponents, ?_⟩
    have hfield : (BitVec.ofNat 11 (e + (1023 : Nat) + (52 : Nat)).toNat).toNat =
        (e + (1023 : Nat) + (52 : Nat)).toNat := by
      rw [BitVec.toNat_ofNat]
      exact Nat.mod_eq_of_lt (by omega)
    constructor
    · intro hones
      have hlast : (e + (1023 : Nat) + (52 : Nat)).toNat = 2047 :=
        hfield.symm.trans (congrArg BitVec.toNat hones)
      omega
    · rw [hfield]
      omega
  next => exact ⟨_, unpackExponent_packComponents, by decide, .inl rfl⟩

/-- Packing keeps a number that the format can hold. -/
theorem bounded_pack {t : Int} (ht : -1021 ≤ t) (ht' : t ≤ 1024) {u : UnpackedFloat}
    (h : Bounded t u) :
    Bounded t (UnpackedFloat.unpack Format.binary64 (UnpackedFloat.pack Format.binary64 u)) := by
  cases h with
  | zero s =>
    have hzero : UnpackedFloat.unpack Format.binary64
        (UnpackedFloat.pack Format.binary64 (.zero s)) = .zero s := unpack_packedZero
    rw [hzero]
    exact .zero s
  | @finite s m e hm htotal hexponent =>
    obtain ⟨b, hb, hfinite, hfield⟩ := unpackExponent_pack_finite s hm (e := e) (by omega)
    refine bounded_unpack ht (hb ▸ hfinite) ?_
    rw [hb]
    omega

theorem Bounded.isNaN_eq_false {t : Int} {u : UnpackedFloat} (h : Bounded t u) :
    u.isNaN = false := by
  cases h <;> rfl

theorem Bounded.isInf_eq_false {t : Int} {u : UnpackedFloat} (h : Bounded t u) :
    u.isInf = false := by
  cases h <;> rfl

theorem Bounded.isFinite_eq_true {t : Int} {u : UnpackedFloat} (h : Bounded t u) :
    u.isFinite = true := by
  cases h <;> rfl

theorem Bounded.mono {t t' : Int} {u : UnpackedFloat} (h : Bounded t u) (ht : t ≤ t') :
    Bounded t' u := by
  cases h with
  | zero s => exact .zero s
  | finite htotal hexponent => exact .finite (htotal.trans ht) (by omega)

theorem Bounded.neg {t : Int} {u : UnpackedFloat} (h : Bounded t u) : Bounded t u.neg := by
  cases h with
  | zero s => exact .zero _
  | finite htotal hexponent => exact .finite htotal hexponent

/-- What is neither infinite nor missing is finite. -/
theorem bounded_of_number {b : BitVec Format.binary64.numBits}
    (hnan : (UnpackedFloat.unpack Format.binary64 b).isNaN = false)
    (hinf : (UnpackedFloat.unpack Format.binary64 b).isInf = false) :
    Bounded 1024 (UnpackedFloat.unpack Format.binary64 b) := by
  have hfield : unpackExponent b ≠ -1#11 := by
    intro hones
    unfold UnpackedFloat.unpack at hnan hinf
    simp only [hones, if_true] at hnan hinf
    by_cases hzero : unpackMantissa b = 0#_
    · rw [if_pos hzero] at hinf
      cases hinf
    · rw [if_neg hzero] at hnan
      cases hnan
  have hbits : (unpackExponent b).toNat < 2048 := (unpackExponent b).isLt
  have hlast : (unpackExponent b).toNat ≠ 2047 := fun h => hfield (BitVec.eq_of_toNat_eq h)
  exact bounded_unpack (by decide) hfield (by omega)

/-- What is packed is a number again, if an infinite one. -/
theorem isNaN_unpack_pack {u : UnpackedFloat} (h : u.isNaN = false) :
    (UnpackedFloat.unpack Format.binary64
      (UnpackedFloat.pack Format.binary64 u)).isNaN = false := by
  have hinfinity (s : Sign) : (UnpackedFloat.unpack Format.binary64
      (packedInfinity Format.binary64 s)).isNaN = false := by
    simp [UnpackedFloat.unpack, packedInfinity, UnpackedFloat.isNaN]
  cases u with
  | notANumber => cases h
  | infinity s => exact hinfinity s
  | zero s => exact (bounded_pack (t := 0) (by decide) (by decide) (.zero s)).isNaN_eq_false
  | finite s m e hm =>
    by_cases he : e ≤ 971
    · obtain ⟨b, hb, hfinite, -⟩ := unpackExponent_pack_finite s hm he
      have hbits : b.toNat < 2048 := b.isLt
      exact (bounded_unpack (t := 1026) (by decide) (hb ▸ hfinite)
        (by rw [hb]; omega)).isNaN_eq_false
    · have hbias : Format.binary64.exponentBias = 1023 := rfl
      have hlarge : 2 ^ 11 ≤ (e + (1023 : Nat) + (52 : Nat)).toNat + 1 := by omega
      simp only [UnpackedFloat.pack, hbias, hlarge, if_true]
      exact hinfinity s

/-! Products and quotients. -/

theorem log2_mul_le (m n : Nat) : (m * n).log2 ≤ m.log2 + n.log2 + 1 := by
  refine log2_le_of_lt ?_
  have hbits : m.log2 + n.log2 + 1 + 1 = (m.log2 + 1) + (n.log2 + 1) := by omega
  rw [hbits, Nat.pow_add]
  exact Nat.mul_lt_mul'' Nat.lt_log2_self Nat.lt_log2_self

theorem bounded_mul {t t' : Int} {u u' : UnpackedFloat} (h : Bounded t u) (h' : Bounded t' u')
    (ht : -1021 ≤ t + t') : Bounded (t + t' + 1) (UnpackedFloat.mul Format.binary64 u u') := by
  cases h with
  | zero s => cases h' <;> exact .zero _
  | @finite s m e hm htotal hexponent =>
    cases h' with
    | zero s => exact .zero _
    | @finite s' m' e' hm' htotal' hexponent' =>
      have hlog := log2_mul_le m m'
      exact bounded_roundWithAccuracy ht _ _ (by omega) (by omega)

theorem log2_shiftLeft_le (m n : Nat) : (m <<< n).log2 ≤ m.log2 + n := by
  refine log2_le_of_lt ?_
  have hbits : m.log2 + n + 1 = (m.log2 + 1) + n := by omega
  rw [Nat.shiftLeft_eq, hbits, Nat.pow_add]
  exact Nat.mul_lt_mul_of_pos_right Nat.lt_log2_self (Nat.two_pow_pos n)

theorem log2_shiftLeft_div_le (m n : Nat) {m' : Nat} (h : m' ≠ 0) :
    ((m <<< n) / m').log2 ≤ m.log2 + n - m'.log2 := by
  have hle : (m <<< n) / m' ≤ (m <<< n) / 2 ^ m'.log2 :=
    Nat.div_le_div_left (Nat.log2_self_le h) (Nat.two_pow_pos _)
  have hquotient : ((m <<< n) / 2 ^ m'.log2).log2 ≤ (m <<< n).log2 - m'.log2 :=
    log2_le_of_lt (div_lt_two_pow _ _)
  exact (log2_mono hle).trans (hquotient.trans (Nat.sub_le_sub_right (log2_shiftLeft_le m n) _))

theorem bounded_round {t : Int} (ht : -1021 ≤ t) (s : Sign) {m : Nat} {e : Int}
    (hm : m.log2 + 1 + e ≤ t) : Bounded (t + 1) (round Format.binary64 s m e) := by
  unfold UnpackedFloat.round
  simp only [decreaseExponent, targetExponent_eq, totalExponent]
  have hn := log2_shiftLeft_le m (e - max ((m.log2 : Int) + 1 + e - 53) (-1074)).toNat
  exact bounded_roundWithAccuracy ht s .exact (by omega) (by omega)

/-- A finite number of `2 ^ (k - 1)` or more. -/
def Reaches (k : Int) : UnpackedFloat → Prop
  | .finite _ m e _ => k ≤ m.log2 + 1 + e ∧ m.log2 + 1 + e ≤ 1024 ∧ e ≤ 971
  | _ => False

instance (k : Int) (u : UnpackedFloat) : Decidable (Reaches k u) :=
  match u with
  | .notANumber => isFalse id
  | .infinity _ => isFalse id
  | .zero _ => isFalse id
  | .finite _ _ _ _ => inferInstanceAs (Decidable (_ ∧ _))

theorem Reaches.exists_eq {k : Int} {u : UnpackedFloat} (h : Reaches k u) :
    ∃ s m e hm, u = .finite s m e hm ∧ k ≤ m.log2 + 1 + e ∧ m.log2 + 1 + e ≤ 1024 ∧ e ≤ 971 := by
  cases u with
  | finite s m e hm => exact ⟨s, m, e, hm, rfl, h⟩
  | notANumber => exact h.elim
  | infinity s => exact h.elim
  | zero s => exact h.elim

theorem Reaches.bounded {k : Int} {u : UnpackedFloat} (h : Reaches k u) : Bounded 1024 u := by
  obtain ⟨s, m, e, hm, rfl, -, htotal, hexponent⟩ := h.exists_eq
  exact .finite htotal hexponent

/-- A number is no larger after division by one that is not below two. -/
theorem bounded_div {t : Int} {u u' : UnpackedFloat} (h : Bounded t u) (h' : Reaches 2 u')
    (ht : -1020 ≤ t) : Bounded t (UnpackedFloat.div Format.binary64 u u') := by
  obtain ⟨s', m', e', hm', rfl, htotal', -, -⟩ := h'.exists_eq
  cases h with
  | zero s => exact .zero _
  | @finite s m e hm htotal hexponent =>
    -- The quotient loses at least the one bit that rounding may add.
    have hround := bounded_roundWithAccuracy (t := t - 1) (by omega) (s / s')
      (m := (divCore Format.binary64 m e m' e').1) (e := (divCore Format.binary64 m e m' e').2.1)
      (divCore Format.binary64 m e m' e').2.2
    simp only [divCore, targetExponent_eq, totalExponent, Int.sub_add_cancel] at hround
    refine hround ?_ ?_
    · have hquotient := log2_shiftLeft_div_le m (e - e' - min (e - e')
        (max ((m.log2 : Int) + 1 + e - (m'.log2 + 1 + e') - 53) (-1074))).toNat hm'.ne'
      omega
    · omega

/-! Doubles. -/

/-- A finite double below `2 ^ t`. -/
def Below (t : Int) (x : Float) : Prop := Bounded t x.toModel.unpack

variable {x y : Float} {t t' : Int}

theorem Below.isNaN_eq_false (h : Below t x) : x.isNaN = false := Bounded.isNaN_eq_false h

theorem Below.isInf_eq_false (h : Below t x) : x.isInf = false := Bounded.isInf_eq_false h

theorem Below.isFinite_eq_true (h : Below t x) : x.isFinite = true := Bounded.isFinite_eq_true h

theorem Below.neg (h : Below 1024 x) : Below 1024 (-x) :=
  bounded_pack (by decide) (by decide) (Bounded.neg h)

theorem Below.mul (h : Below t x) (h' : Below t' y) (hlow : -1021 ≤ t + t')
    (hhigh : t + t' < 1024) : Below (t + t' + 1) (x * y) :=
  bounded_pack (by omega) (by omega) (bounded_mul h h' hlow)

/-- A product of finite doubles is finite if it does not overflow. -/
theorem Below.mul_of_not_inf (h : Below 1024 x) (h' : Below 1024 y)
    (hinf : (x * y).isInf = false) : Below 1024 (x * y) :=
  bounded_of_number (isNaN_unpack_pack (bounded_mul h h' (by decide)).isNaN_eq_false) hinf

theorem Below.div (h : Below 1024 x) (h' : Reaches 2 y.toModel.unpack) : Below 1024 (x / y) :=
  bounded_pack (by decide) (by decide) (bounded_div h h' (by decide))

theorem below_toFloat (n : UInt64) : Below 65 n.toFloat := by
  have hlog : n.toNat.log2 ≤ 63 := log2_le_of_lt n.toNat_lt
  have hnormal : Bounded 65 (UnpackedFloat.normalize Format.binary64 n.toNat 0 .positive) := by
    unfold UnpackedFloat.normalize
    split
    next hlt =>
      have hnonneg := Int.natCast_nonneg n.toNat
      have hnegative := Int.compare_eq_lt.mp hlt
      omega
    next => exact .zero _
    next => exact bounded_round (t := 64) (by decide) _ (by rw [Int.toNat_natCast]; omega)
  exact bounded_pack (by decide) (by decide) hnormal

/-- A significand of 64 bits is read as a small double. -/
theorem below_significand {s : Nat} (hs : s ≤ Word.maxUInt64) :
    Below 1024 (Float.ofScientific s false 0) := by
  have hlog : s.log2 ≤ 63 := log2_le_of_lt (Nat.lt_of_le_of_lt hs (by decide))
  unfold Float.ofScientific
  split
  next h =>
    have hone : Below 1 (Float.ofBits 0x3FF0000000000000) :=
      bounded_unpack (b := 0x3FF0000000000000#64) (by decide) (by decide) (by decide)
    exact Bounded.mono ((below_toFloat s.toUInt64).mul hone (by decide) (by decide)) (by decide)
  next h =>
    have hfinite : Bounded 118 (UnpackedFloat.ofScientific Format.binary64 s 0) := by
      have hrange : (2 : Int) ^ Format.binary64.exponentBits = 2048 := rfl
      have hbits : Format.binary64.mantissaBits = 53 := rfl
      have hhigh : ¬ (0 : Int) > 2048 := by decide
      have hlow : ¬ (0 : Int) < -(2048 + s.log2) := by omega
      have hshift := log2_shiftLeft_le s 53
      have hleft (h) : Bounded 64 (.finite .positive (s <<< 53) (-53) h) :=
        .finite (by omega) (by decide)
      have hright (h) : Bounded 53 (.finite .positive (10 ^ (0 : Int).toNat) 0 h) :=
        .finite (by decide) (by decide)
      simp only [UnpackedFloat.ofScientific, hrange, hbits, hhigh, hlow, if_false, Int.le_refl,
        if_true]
      split
      · exact .zero _
      · exact bounded_mul (hleft _) (hright _) (by decide)
    exact (bounded_pack (by decide) (by decide) hfinite).mono (by decide)

/-- The powers of ten that a step of reading takes are doubles. -/
theorem reaches_powerOfTen : ∀ k < 309,
    Reaches (if k = 0 then 1 else 2) (Json.powerOfTen k).toModel.unpack := by
  decide +kernel

theorem below_powerOfTen {k : Nat} (hk : k ≤ 308) : Below 1024 (Json.powerOfTen k) :=
  (reaches_powerOfTen k (Nat.lt_succ_of_le hk)).bounded

theorem Below.div_powerOfTen (h : Below 1024 x) {k : Nat} (hk : k ≤ 308) (hpos : k ≠ 0) :
    Below 1024 (x / Json.powerOfTen k) := by
  have hpower := reaches_powerOfTen k (Nat.lt_succ_of_le hk)
  rw [if_neg hpos] at hpower
  exact h.div hpower

/-! Order. -/

/-- Finite numbers compare, and the other way round the other way. -/
theorem compare_of_isFinite {u v : UnpackedFloat} (hu : u.isFinite = true)
    (hv : v.isFinite = true) : ∃ o, u.compare v = some o ∧ v.compare u = some o.swap := by
  cases u with
  | notANumber => cases hu
  | infinity s => cases hu
  | zero s =>
    cases v with
    | notANumber => cases hv
    | infinity t => cases hv
    | zero t => exact ⟨.eq, rfl, rfl⟩
    | finite t m e hm =>
      cases t with
      | positive => exact ⟨.lt, rfl, rfl⟩
      | negative => exact ⟨.gt, rfl, rfl⟩
  | finite s m e hm =>
    cases v with
    | notANumber => cases hv
    | infinity t => cases hv
    | zero t =>
      cases s with
      | positive => exact ⟨.gt, rfl, rfl⟩
      | negative => exact ⟨.lt, rfl, rfl⟩
    | finite t m' e' hm' =>
      have hswap : ((compare e e').then (compare m m')).swap =
          (compare e' e).then (compare m' m) := by
        rw [Ordering.swap_then, Int.compare_swap, Nat.compare_swap]
      cases s with
      | positive =>
        cases t with
        | positive => exact ⟨_, rfl, congrArg some hswap.symm⟩
        | negative => exact ⟨.gt, rfl, rfl⟩
      | negative =>
        cases t with
        | positive => exact ⟨.lt, rfl, rfl⟩
        | negative => exact ⟨_, rfl, congrArg (fun o : Ordering => some o.swap) hswap.symm⟩

theorem lt_iff : x < y ↔ x.toModel.unpack.compare y.toModel.unpack = some .lt := by
  change decide (x.toModel < y.toModel) = true ↔ _
  rw [decide_eq_true_iff]
  exact beq_iff_eq

theorem le_iff :
    x ≤ y ↔ (x.toModel.unpack.compare y.toModel.unpack).any (fun o => o.isLE) = true := by
  change decide (x.toModel ≤ y.toModel) = true ↔ _
  rw [decide_eq_true_iff]
  rfl

theorem le_of_not_lt (hx : x.isFinite = true) (hy : y.isFinite = true) (h : ¬ x < y) : y ≤ x := by
  obtain ⟨o, ho, hswap⟩ := compare_of_isFinite hx hy
  rw [lt_iff, ho] at h
  rw [le_iff, hswap]
  cases o with
  | lt => exact absurd rfl h
  | eq => rfl
  | gt => rfl

end FleetBridge.Decimal
