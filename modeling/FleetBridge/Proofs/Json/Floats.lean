import FleetBridge.Proofs.Json.Magnitudes
import FleetBridge.Proofs.Json.Values

/-!
Finite doubles as they are written: as numerals, in positional notation or with an exponent.
-/
namespace FleetBridge

namespace Decimal

theorem onGrid?_pos {tie : Tie} {m : Nat} {q e : Int} {d : Nat} (hm : 0 < m)
    (h : onGrid? tie m q e = some d) : 0 < d := by
  unfold onGrid? at h
  simp only at h
  have hlow : 0 < (quarterBounds m q).1 := by
    unfold quarterBounds
    simp only
    split <;> omega
  have hunit : 0 < Nat.pow 2 q.toNat * Nat.pow 10 (-e).toNat :=
    Nat.mul_pos (Nat.pow_pos (by decide)) (Nat.pow_pos (by decide))
  have hend := Nat.mul_pos hlow hunit
  generalize Nat.pow 2 q.toNat * Nat.pow 10 (-e).toNat = unit at h hend
  generalize 4 * Nat.pow 2 (-q).toNat * Nat.pow 10 e.toNat = step at h
  generalize (quarterBounds m q).2.1 * unit / step = below at h
  -- The interval ends above zero, so zero is not on its grid.
  have hbelow (hhit : ((decide ((quarterBounds m q).1 * unit < below * step) ||
      decide ((quarterBounds m q).1 * unit = below * step) && decide (m % 2 = 0)) = true)) :
      0 < below := by
    by_contra hzero
    rw [Nat.eq_zero_of_not_pos hzero, Nat.zero_mul] at hhit
    have hnotlt : ¬ (quarterBounds m q).1 * unit < 0 := Nat.not_lt_zero _
    have hnoteq : ¬ (quarterBounds m q).1 * unit = 0 := Nat.ne_of_gt hend
    rw [decide_eq_false hnotlt, decide_eq_false hnoteq] at hhit
    exact Bool.false_ne_true hhit
  split at h
  next hhit _ =>
    have hpos := hbelow hhit
    grind
  next hhit _ =>
    have hpos := hbelow hhit
    grind
  next => grind
  next => cases h

theorem stripZeros_pos (fuel : Nat) {s : Scientific} (h : 0 < s.digits) :
    0 < (stripZeros fuel s).digits := by
  induction fuel generalizing s with
  | zero => exact h
  | succ fuel ih =>
    unfold stripZeros
    split
    next hzero => exact ih (show 0 < s.digits / 10 by omega)
    next => exact h

/-- The shortest decimal has a digit that counts, or it is a bare zero. -/
theorem shortest_digits {tie : Tie} {m : Nat} {q : Int} (hm : 0 < m) :
    0 < (shortest tie m q).digits ∨ shortest tie m q = ⟨0, 0⟩ := by
  unfold shortest
  simp only
  generalize hfound : (List.range 20).findSome? _ = found
  cases found with
  | none => exact .inr rfl
  | some s =>
    obtain ⟨k, -, hk⟩ := List.exists_of_findSome?_eq_some hfound
    obtain ⟨d, hd, rfl⟩ := Option.map_eq_some_iff.mp hk
    exact .inl (stripZeros_pos 20 (onGrid?_pos hm hd))

end Decimal

namespace Json

open Decimal

variable {digits fraction rest : List Char}

theorem numeralFraction_digits (hdigits : ∀ c ∈ fraction, isDigit c = true) (hne : fraction ≠ [])
    (hrest : ∀ c r, rest = c :: r → isDigit c = false) :
    numeralFraction ('.' :: (fraction ++ rest)) = some (some fraction, rest) := by
  obtain ⟨htake, hdrop⟩ := takeWhile_digits hdigits hrest
  have hempty : fraction.isEmpty = false := by simpa using hne
  simp only [numeralFraction, htake, hdrop, hempty, Bool.false_eq_true, if_false]

theorem numeralExponent_text (e : Int) (h : Ends rest) :
    ∃ x, numeralExponent ('e' :: ((if 0 ≤ e then ['+'] else []) ++ integerText e ++ rest)) =
      some (some x, rest) := by
  have hend : ∀ c r, rest = c :: r → isDigit c = false := fun c r hr => (h c r hr).1
  have hread (n : Nat) := takeWhile_digits (fun c => isDigit_of_mem_digitsOf (n := n)) hend
  have hempty (n : Nat) : (digitsOf n).isEmpty = false := by simpa using digitsOf_ne_nil n
  cases e with
  | ofNat k =>
    refine ⟨(false, digitsOf k), ?_⟩
    simp [numeralExponent, integerText, hread, hempty]
  | negSucc k =>
    refine ⟨(true, digitsOf (k + 1)), ?_⟩
    simp [numeralExponent, integerText, hread, hempty]

theorem stops {c : Char} (hc : isDigit c = false) (s : List Char) :
    ∀ c' r, c :: s = c' :: r → isDigit c' = false := by
  rintro c' r he
  cases he
  exact hc

/-- Digits around a point are a numeral. -/
theorem readNumeral_point (negative : Bool) (h : Leading digits)
    (hfraction : ∀ c ∈ fraction, isDigit c = true) (hne : fraction ≠ []) (hrest : Ends rest) :
    ∃ n, readNumeral (minus negative ++ (digits ++ '.' :: (fraction ++ rest))) =
      some (n, rest) := by
  exact ⟨_, readNumeral_parts negative (h.ne_minus _) (h.numeralWhole_eq (stops rfl _))
    (numeralFraction_digits hfraction hne fun c r hr => (hrest c r hr).1)
    (numeralExponent_of_ends hrest)⟩

theorem isDigit_of_mem_zero : ∀ c ∈ ['0'], isDigit c = true :=
  List.forall_mem_singleton.mpr rfl

theorem leading_singleton {d : Char} (h : isDigit d = true) : Leading [d] where
  digit c hc := by
    rw [List.mem_singleton.mp hc]
    exact h
  nonempty := List.cons_ne_nil d []
  zero r hr := (List.cons.inj hr).2.symm

/-- The whole part of a number whose leading digit is not behind the point: the digits up to the
point, and zeros in place of those that are missing. -/
theorem Leading.front (h : Leading digits) {n : Nat} (hzero : digits = ['0'] → n = 0) :
    Leading (digits.take (n + 1) ++ List.replicate (n + 1 - digits.length) '0') where
  digit c hc := by
    rcases List.mem_append.mp hc with hc | hc
    · exact h.digit c (List.mem_of_mem_take hc)
    · rw [List.eq_of_mem_replicate hc]
      rfl
  nonempty := by
    cases digits with
    | nil => exact absurd rfl h.nonempty
    | cons d ds => exact List.cons_ne_nil _ _
  zero r hr := by
    cases digits with
    | nil => exact absurd rfl h.nonempty
    | cons d ds =>
      obtain ⟨rfl, hr⟩ := List.cons.inj hr
      have hds := h.zero ds rfl
      subst hds
      rw [hzero rfl] at hr
      exact hr.symm

theorem readNumeral_positionalText (negative : Bool) (h : Leading digits) (e : Int)
    (hzero : digits = ['0'] → e = 0) (hrest : Ends rest) :
    ∃ n, readNumeral (minus negative ++ (positionalText true digits e ++ rest)) =
      some (n, rest) := by
  unfold positionalText
  split
  next =>
    -- All digits are behind the point, and zeros before them.
    have hdigits : ∀ c ∈ List.replicate (-e - 1).toNat '0' ++ digits, isDigit c = true := by
      intro c hc
      rcases List.mem_append.mp hc with hc | hc
      · rw [List.eq_of_mem_replicate hc]
        rfl
      · exact h.digit c hc
    exact readNumeral_point negative (leading_singleton (d := '0') rfl) hdigits
      (List.append_ne_nil_of_right_ne_nil _ h.nonempty) hrest
  next hnonneg =>
    have hfront := h.front (n := e.toNat) fun he => by rw [hzero he]; rfl
    simp only
    split
    next =>
      -- No digit is left for the place behind the point, where a zero is kept.
      have hpoint := readNumeral_point negative hfront isDigit_of_mem_zero
        (List.cons_ne_nil _ _) hrest
      rw [if_pos trivial, List.append_assoc]
      exact hpoint
    next hdrop =>
      have hdigits : ∀ c ∈ digits.drop (e.toNat + 1), isDigit c = true :=
        fun c hc => h.digit c (List.mem_of_mem_drop hc)
      have hpoint := readNumeral_point negative hfront hdigits hdrop hrest
      rw [List.append_assoc]
      exact hpoint

/-- A significand and its exponent are a numeral. -/
theorem readNumeral_exponentText (negative : Bool) (h : Leading digits) (e : Int)
    (hrest : Ends rest) :
    ∃ n, readNumeral (minus negative ++ (exponentText true digits e ++ rest)) =
      some (n, rest) := by
  obtain ⟨x, hexponent⟩ := numeralExponent_text e hrest
  generalize htail : (if 0 ≤ e then ['+'] else []) ++ integerText e ++ rest = tail at hexponent
  cases digits with
  | nil => exact absurd rfl h.nonempty
  | cons d more =>
    have hfirst := leading_singleton (h.digit d List.mem_cons_self)
    cases more with
    | nil =>
      have hfraction : numeralFraction ('e' :: tail) = some (none, 'e' :: tail) := rfl
      have hparts := readNumeral_parts negative (hfirst.ne_minus _)
        (hfirst.numeralWhole_eq (stops rfl _)) hfraction hexponent
      refine ⟨_, Eq.trans (congrArg (fun s => readNumeral (minus negative ++ s)) ?_) hparts⟩
      simp [exponentText, ← htail]
    | cons d' more =>
      have hfraction := numeralFraction_digits
        (fun c hc => h.digit c (List.mem_cons_of_mem d hc)) (List.cons_ne_nil d' more)
        (stops (c := 'e') rfl tail)
      have hparts := readNumeral_parts negative (hfirst.ne_minus _)
        (hfirst.numeralWhole_eq (stops rfl _)) hfraction hexponent
      refine ⟨_, Eq.trans (congrArg (fun s => readNumeral (minus negative ++ s)) ?_) hparts⟩
      simp [exponentText, ← htail]

theorem readNumeral_magnitude (negative : Bool) (m : Nat) (q : Int) (hrest : Ends rest) :
    ∃ n, readNumeral (minus negative ++ (Layout.json.magnitude m q ++ rest)) =
      some (n, rest) := by
  unfold Layout.magnitude
  split
  next =>
    exact readNumeral_point negative (leading_singleton (d := '0') rfl) isDigit_of_mem_zero
      (List.cons_ne_nil _ _) hrest
  next hm =>
    have hdigits := leading_digitsOf (shortest Layout.json.tie m q).digits
    simp only
    split
    next =>
      refine readNumeral_positionalText negative hdigits _ (fun hzero => ?_) hrest
      rcases shortest_digits (Nat.pos_of_ne_zero hm) with hpos | hs
      · exact absurd hzero (head_digitsOf hpos)
      · rw [hs]
        rfl
    next => exact readNumeral_exponentText negative hdigits _ hrest

/-- A finite double is written as a numeral. -/
theorem readNumeral_text {x : Float} (h : Below 1024 x) (hrest : Ends rest) :
    ∃ n, readNumeral ((Layout.json.text x).toList ++ rest) = some (n, rest) := by
  have hparts := readNumeral_magnitude (isNegative x) (binaryParts x).1 (binaryParts x).2 hrest
  have htext : (Layout.json.text x).toList =
      minus (isNegative x) ++ Layout.json.magnitude (binaryParts x).1 (binaryParts x).2 := by
    rw [Layout.text, if_neg (Bool.eq_false_iff.mp h.isNaN_eq_false)]
    simp only [h.isInf_eq_false, Bool.false_eq_true, if_false, String.toList_ofList]
    rfl
  rw [htext, List.append_assoc]
  exact hparts

theorem Number.IsFinite.isSpelled (n : Number) (h : n.IsFinite) : n.IsSpelled := by
  cases n with
  | int n => exact isSpelled_int n
  | float x => exact fun _ hrest => readNumeral_text h hrest

end Json
end FleetBridge
