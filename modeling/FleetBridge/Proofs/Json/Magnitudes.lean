import FleetBridge.Proofs.Decimal.Doubles

/-!
What a number's text is read as: an integer or a finite double, however many digits it has and
however large its exponent is.
-/
namespace FleetBridge.Json

open Decimal

theorem below_scale {fuel : Nat} {x y : Float} {e : Int} (h : Below 1024 x)
    (hscale : scale fuel x e = some y) : Below 1024 y := by
  induction fuel generalizing x e with
  | zero =>
    cases hscale
    exact h
  | succ fuel ih =>
    unfold scale at hscale
    split at hscale
    next hstep =>
      split at hscale
      next hpos =>
        -- The product is given out unless it is infinite.
        simp only at hscale
        split at hscale
        next => cases hscale
        next hinf =>
          cases hscale
          exact h.mul_of_not_inf (below_powerOfTen hstep) (Bool.eq_false_iff.mpr hinf)
      next hneg =>
        cases hscale
        exact h.div_powerOfTen hstep (by omega)
    next =>
      split at hscale
      next =>
        cases hscale
        exact h
      next =>
        split at hscale
        next => cases hscale
        next => exact ih (h.div_powerOfTen (by decide) (by decide)) hscale

theorem collect_le {s : Nat} (hs : s ≤ Word.maxUInt64) (digits : List Char) :
    (collect s digits).1 ≤ Word.maxUInt64 := by
  induction digits generalizing s with
  | nil => exact hs
  | cons c r ih =>
    simp only [collect]
    split
    next hnext => exact ih hnext
    next => exact hs

theorem below_zero : Below 1024 0.0 := by
  have hzero : (0.0 : Float) = Float.ofBits 0 := by decide +kernel
  rw [hzero]
  exact bounded_unpack (b := 0#64) (by decide) (by decide) (by decide)

theorem below_magnitude {n : Numeral} {x : Float} (h : n.magnitude? = some x) :
    Below 1024 x := by
  unfold Numeral.magnitude? at h
  have hs := collect_le (collect_le (Nat.zero_le _) n.whole) (n.fraction.getD [])
  have hsignificand := below_significand hs
  simp only at h
  split at h
  next => exact below_scale hsignificand h
  next =>
    split at h
    next => exact below_scale hsignificand h
    next =>
      split at h
      next =>
        cases h
        exact below_zero
      next => cases h

/-- A number that has a text: an integer, or a finite double. -/
def Number.IsFinite : Number → Prop
  | .int _ => True
  | .float x => Below 1024 x

theorem isFinite_of_value {n : Numeral} {x : Number} (h : n.value? = some x) : x.IsFinite := by
  have hfloat (h : (n.magnitude?.map fun x => Number.float (if n.negative then -x else x)) =
      some x) : x.IsFinite := by
    obtain ⟨y, hy, rfl⟩ := Option.map_eq_some_iff.mp h
    have hbelow := below_magnitude hy
    cases n.negative with
    | true => exact hbelow.neg
    | false => exact hbelow
  unfold Numeral.value? at h
  simp only at h
  split at h
  next =>
    split at h
    next hnegative =>
      split at h
      next =>
        cases h
        trivial
      next => exact hfloat (by simpa [hnegative] using h)
    next hnegative =>
      split at h
      next =>
        cases h
        trivial
      next => exact hfloat (by simpa [hnegative] using h)
  next => exact hfloat h

theorem isFinite_of_readNumber {s r : List Char} {x : Number} (h : readNumber s = some (x, r)) :
    x.IsFinite := by
  simp only [readNumber, Option.bind_eq_bind, Option.bind_eq_some_iff] at h
  obtain ⟨⟨n, r'⟩, -, y, hy, h⟩ := h
  cases h
  exact isFinite_of_value hy

end FleetBridge.Json
