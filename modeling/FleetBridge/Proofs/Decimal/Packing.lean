import FleetBridge.Proofs.Decimal.Doubles
import FleetBridge.Proofs.Decimal.Layout

/-!
Doubles as bits. A normal number, which has 53 bits, comes back from the bits it is packed into, and
what a double is unpacked into are the integer and the exponent it is written from.
-/
namespace FleetBridge.Decimal

open Float.Model Float.Model.UnpackedFloat

variable {m : Nat} {e : Int} {x : Float}

/-! Numbers of 53 bits. -/

theorem two_pow_le_of_log2 {n k : Nat} (hn : n ≠ 0) (h : k ≤ n.log2) : 2 ^ k ≤ n :=
  (Nat.pow_le_pow_right (by decide) h).trans (Nat.log2_self_le hn)

theorem ne_zero_of_bits (h : m.log2 = 52) : m ≠ 0 := by
  rintro rfl
  cases h

theorem lt_of_bits (h : m.log2 = 52) : m < 2 ^ 53 := by
  have hlt : m < 2 ^ (m.log2 + 1) := Nat.lt_log2_self
  rwa [h] at hlt

theorem bits_of_between (hlow : 2 ^ 52 ≤ m) (hhigh : m < 2 ^ 53) : m.log2 = 52 :=
  le_antisymm (log2_le_of_lt hhigh) ((Nat.le_log2 (by omega)).mpr hlow)

/-! Packing. -/

theorem toNat_append_one (b : BitVec 52) : (1#1 ++ b).toNat = 2 ^ 52 + b.toNat := by
  rw [BitVec.toNat_append, ← Nat.shiftLeft_add_eq_or_of_lt b.isLt]
  rfl

/-- The leading bit that is left out puts a number of 53 bits together again. -/
theorem toNat_append_leading (hbits : m.log2 = 52) :
    (1#1 ++ BitVec.ofNat 52 m).toNat = m := by
  have hlow := two_pow_le_of_log2 (ne_zero_of_bits hbits) hbits.ge
  have hhigh := lt_of_bits hbits
  rw [toNat_append_one, BitVec.toNat_ofNat]
  omega

/-- Packing keeps a normal number that the format can hold. -/
theorem unpack_pack_normal (s : Sign) (hm : 0 < m) (hbits : m.log2 = 52)
    (hlow : -1074 ≤ e) (hhigh : e ≤ 971) :
    UnpackedFloat.unpack Format.binary64 (UnpackedFloat.pack Format.binary64 (.finite s m e hm)) =
      .finite s m e hm := by
  have hfits : ¬ 2 ^ 11 ≤ (e + (1023 : Nat) + (52 : Nat)).toNat + 1 := by omega
  have hlong : m.log2 + 1 = Format.binary64.mantissaBits := by rw [hbits]; rfl
  have hbias : Format.binary64.exponentBias = 1023 := rfl
  have hfield : (BitVec.ofNat 11 (e + (1023 : Nat) + (52 : Nat)).toNat).toNat =
      (e + (1023 : Nat) + (52 : Nat)).toNat := by
    rw [BitVec.toNat_ofNat]
    exact Nat.mod_eq_of_lt (by omega)
  simp only [UnpackedFloat.pack, hbias, hfits, if_false, hlong, if_true, UnpackedFloat.unpack,
    unpackExponent_packComponents, unpackMantissa_packComponents, unpackSign_packComponents,
    Sign.ofBitVec_toBitVec, hfield]
  have hfinite : BitVec.ofNat 11 (e + (1023 : Nat) + (52 : Nat)).toNat ≠ -1#11 := by
    intro h
    have hlast : (e + (1023 : Nat) + (52 : Nat)).toNat = 2047 :=
      hfield.symm.trans (congrArg BitVec.toNat h)
    omega
  have hnormal : BitVec.ofNat 11 (e + (1023 : Nat) + (52 : Nat)).toNat ≠ 0#11 := by
    intro h
    have hfirst : (e + (1023 : Nat) + (52 : Nat)).toNat = 0 :=
      hfield.symm.trans (congrArg BitVec.toNat h)
    omega
  rw [if_neg hfinite, if_neg hnormal]
  congr 1
  · exact toNat_append_leading hbits
  · omega

theorem unpack_pack_infinity (s : Sign) : UnpackedFloat.unpack Format.binary64
    (packedInfinity Format.binary64 s) = .infinity s := by
  simp only [UnpackedFloat.unpack, packedInfinity, unpackExponent_packComponents,
    unpackMantissa_packComponents, unpackSign_packComponents, Sign.ofBitVec_toBitVec, if_true]
  rfl

/-! The parts of a double. -/

theorem toNat_unpackExponent (b : BitVec Format.binary64.numBits) :
    (unpackExponent b).toNat = b.toNat / 2 ^ 52 % 2 ^ 11 := by
  rw [unpackExponent, BitVec.toNat_cast, BitVec.extractLsb_toNat, Nat.shiftRight_eq_div_pow]
  rfl

theorem toNat_unpackMantissa (b : BitVec Format.binary64.numBits) :
    (unpackMantissa b).toNat = b.toNat % 2 ^ 52 := by
  rw [unpackMantissa, BitVec.toNat_cast, BitVec.extractLsb_toNat, Nat.shiftRight_zero]
  rfl

/-- A finite number is unpacked from its exponent field and the bits below. -/
theorem eq_of_unpack {b : BitVec Format.binary64.numBits} {s : Sign} {hm : 0 < m}
    (h : UnpackedFloat.unpack Format.binary64 b = .finite s m e hm) :
    (if b.toNat / 2 ^ 52 % 2 ^ 11 = 0 then (b.toNat % 2 ^ 52, -1074)
      else (2 ^ 52 + b.toNat % 2 ^ 52, ((b.toNat / 2 ^ 52 % 2 ^ 11 : ℕ) : ℤ) - 1075)) = (m, e) := by
  have hbias : (Format.binary64.exponentBias : Int) +
      Format.binary64.mantissaBitsWithoutImplicit = 1075 := rfl
  rw [← toNat_unpackExponent, ← toNat_unpackMantissa]
  unfold UnpackedFloat.unpack at h
  simp only [hbias] at h
  split at h
  next => split at h <;> cases h
  next =>
    split at h
    next hzero =>
      split at h
      next => cases h
      next =>
        rw [UnpackedFloat.finite.injEq, hzero] at h
        rw [hzero, ← h.2.1, ← h.2.2]
        rfl
    next hnormal =>
      have hne : (unpackExponent b).toNat ≠ 0 := fun hzero => hnormal (BitVec.eq_of_toNat_eq hzero)
      rw [UnpackedFloat.finite.injEq, toNat_append_one] at h
      rw [if_neg hne, ← h.2.1, ← h.2.2]

/-- The numbers that a finite double is unpacked into are those that it is written from. -/
theorem binaryParts_of_unpack {s : Sign} {hm : 0 < m} (h : x.toModel.unpack = .finite s m e hm) :
    binaryParts x = (m, e) :=
  (binaryParts_eq x).trans (eq_of_unpack h)

/-- Above the least exponent a number has 53 bits. -/
theorem bits_of_unpack {s : Sign} {hm : 0 < m} (h : x.toModel.unpack = .finite s m e hm)
    (he : -1074 < e) : m.log2 = 52 := by
  have hparts := parts_binaryParts x
  rw [binaryParts_of_unpack h] at hparts
  rcases hparts with hc | ⟨hzero, -⟩
  · exact bits_of_between (hc.leading he) hc.bits
  · exact absurd hzero hm.ne'

end FleetBridge.Decimal
