import FleetBridge.Json.Printer
import FleetBridge.Json.Reader
import Mathlib.Data.List.Basic

/-!
Integers as they are written and read: every integer of 64 bits, signed or not, is read back.
-/
namespace FleetBridge

namespace Decimal

theorem isDigit_of_mem_digitsOf {n : Nat} {c : Char} (h : c ∈ digitsOf n) : isDigit c = true :=
  Nat.isDigit_of_mem_toDigits (by decide) (by decide) h

theorem digitsOf_ne_nil (n : Nat) : digitsOf n ≠ [] := Nat.toDigits_ne_nil

/-- No zero leads a number but zero itself. -/
theorem head_digitsOf {n : Nat} (h : 0 < n) {r : List Char} : digitsOf n ≠ '0' :: r := by
  induction n using Nat.strongRecOn generalizing r with
  | _ n ih =>
    intro he
    rw [digitsOf, Nat.toDigits_eq_if (by decide)] at he
    split at he
    · have hzero := (List.cons.inj he).1
      rw [Nat.digitChar_eq_zero] at hzero
      omega
    · cases hd : Nat.toDigits 10 (n / 10) with
      | nil => exact Nat.toDigits_ne_nil hd
      | cons c ds =>
        rw [hd, List.cons_append] at he
        rw [(List.cons.inj he).1] at hd
        exact ih (n / 10) (by omega) (by omega) hd

theorem valueOf_digitsOf (n : Nat) : valueOf (digitsOf n) = n :=
  Nat.ofDigitChars_toDigits (by decide) (by decide)

theorem le_foldl_digits (digits : List Char) (n : Nat) :
    n ≤ digits.foldl (fun n c => 10 * n + digitValue c) n := by
  induction digits generalizing n with
  | nil => exact Nat.le_refl n
  | cons c digits ih =>
    have hle := ih (10 * n + digitValue c)
    exact Nat.le_trans (by omega) hle

/-- Below the bound the value is exact. -/
theorem boundedValue_eq {bound : Nat} {digits : List Char} (h : valueOf digits ≤ bound) :
    boundedValue bound digits = valueOf digits := by
  have hfold (n : Nat)
      (hn : digits.foldl (fun n c => 10 * n + digitValue c) n ≤ bound) :
      digits.foldl (fun n c => min bound (10 * n + digitValue c)) n =
        digits.foldl (fun n c => 10 * n + digitValue c) n := by
    clear h
    induction digits generalizing n with
    | nil => rfl
    | cons c digits ih =>
      -- The value never falls, so it stays below the bound on the way.
      have hle := Nat.le_trans (le_foldl_digits digits (10 * n + digitValue c)) hn
      rw [List.foldl_cons, List.foldl_cons, Nat.min_eq_right hle]
      exact ih _ hn
  exact hfold 0 h

end Decimal

namespace Json

/-- Nothing that would go on with a number stands in front. -/
def Ends (rest : List Char) : Prop :=
  ∀ c r, rest = c :: r → Decimal.isDigit c = false ∧ c ≠ '.' ∧ c ≠ 'e' ∧ c ≠ 'E'

theorem ends_nil : Ends [] := nofun

theorem ends_cons {c : Char} (h : Decimal.isDigit c = false ∧ c ≠ '.' ∧ c ≠ 'e' ∧ c ≠ 'E')
    (r : List Char) : Ends (c :: r) := by
  intro c' r' he
  cases he
  exact h

variable {digits rest : List Char}

theorem takeWhile_digits (hdigits : ∀ c ∈ digits, Decimal.isDigit c = true)
    (hrest : ∀ c r, rest = c :: r → Decimal.isDigit c = false) :
    (digits ++ rest).takeWhile Decimal.isDigit = digits ∧
      (digits ++ rest).dropWhile Decimal.isDigit = rest := by
  have hnone : rest.takeWhile Decimal.isDigit = [] ∧ rest.dropWhile Decimal.isDigit = rest := by
    cases rest with
    | nil => exact ⟨rfl, rfl⟩
    | cons c r => simp [hrest c r rfl]
  rw [List.takeWhile_append_of_pos hdigits, List.dropWhile_append_of_pos hdigits, hnone.1, hnone.2]
  exact ⟨List.append_nil _, rfl⟩

/-- Digits that a number may begin with: at least one, and no zero before others. -/
structure Leading (digits : List Char) : Prop where
  digit : ∀ c ∈ digits, Decimal.isDigit c = true
  nonempty : digits ≠ []
  zero : ∀ r, digits = '0' :: r → r = []

theorem leading_digitsOf (n : Nat) : Leading (Decimal.digitsOf n) where
  digit _ := Decimal.isDigit_of_mem_digitsOf
  nonempty := Decimal.digitsOf_ne_nil n
  zero r hr := by
    rcases Nat.eq_zero_or_pos n with rfl | hn
    · exact (List.cons.inj hr).2.symm
    · exact absurd hr (Decimal.head_digitsOf hn)

theorem Leading.numeralWhole_eq (h : Leading digits)
    (hrest : ∀ c r, rest = c :: r → Decimal.isDigit c = false) :
    numeralWhole (digits ++ rest) = some (digits, rest) := by
  obtain ⟨htake, hdrop⟩ := takeWhile_digits h.digit hrest
  have hempty : digits.isEmpty = false := by simpa using h.nonempty
  unfold numeralWhole
  split
  next r he =>
    cases digits with
    | nil => exact absurd rfl h.nonempty
    | cons c ds =>
      obtain ⟨rfl, hr⟩ := List.cons.inj he
      have hds := h.zero ds rfl
      subst hds
      have hr : rest = r := hr
      rw [← hr]
      cases rest with
      | nil => rfl
      | cons c r => simp [hrest c r rfl]
  next => simp only [htake, hdrop, hempty, Bool.false_eq_true, if_false]

theorem ne_minus_of_isDigit {c : Char} (hc : Decimal.isDigit c = true) : c ≠ '-' := by
  rintro rfl
  exact absurd hc (by decide)

theorem Leading.ne_minus (h : Leading digits) (rest r : List Char) : digits ++ rest ≠ '-' :: r := by
  cases digits with
  | nil => exact absurd rfl h.nonempty
  | cons c ds =>
    intro he
    exact ne_minus_of_isDigit (h.digit c List.mem_cons_self) (List.cons.inj he).1

theorem numeralFraction_of_ends (h : Ends rest) : numeralFraction rest = some (none, rest) := by
  unfold numeralFraction
  split
  next r => exact absurd rfl (h '.' r rfl).2.1
  next => rfl

theorem numeralExponent_of_ends (h : Ends rest) : numeralExponent rest = some (none, rest) := by
  cases rest with
  | nil => rfl
  | cons c r =>
    obtain ⟨-, -, hlower, hupper⟩ := h c r rfl
    simp [numeralExponent, hlower, hupper]

theorem readNumeral_unsigned {s : List Char} (h : ∀ r, s ≠ '-' :: r) :
    readNumeral s =
      (numeralWhole s).bind fun (whole, s) =>
        (numeralFraction s).bind fun (fraction, s) =>
          (numeralExponent s).bind fun (exponent, s) =>
            some (⟨false, whole, fraction, exponent⟩, s) := by
  unfold readNumeral
  split
  next negative s' hs =>
    have hsame : (negative, s') = (false, s) := by
      rw [← hs]
      split
      next r => exact absurd rfl (h r)
      next => rfl
    cases hsame
    rfl

/-- What stands before the digits of a number. -/
def minus (negative : Bool) : List Char := if negative then ['-'] else []

/-- A numeral is read part by part; only a minus sign may stand before its first digit. -/
theorem readNumeral_parts {s whole r r' r'' : List Char} {fraction : Option (List Char)}
    {exponent : Option (Bool × List Char)} (negative : Bool) (hminus : ∀ r, s ≠ '-' :: r)
    (hwhole : numeralWhole s = some (whole, r))
    (hfraction : numeralFraction r = some (fraction, r'))
    (hexponent : numeralExponent r' = some (exponent, r'')) :
    readNumeral (minus negative ++ s) = some (⟨negative, whole, fraction, exponent⟩, r'') := by
  cases negative with
  | true => simp [minus, readNumeral, hwhole, hfraction, hexponent]
  | false =>
    simp [minus, readNumeral_unsigned hminus, hwhole, hfraction, hexponent]

theorem integerText_eq (n : Int) :
    Decimal.integerText n = minus (decide (n < 0)) ++ Decimal.digitsOf n.natAbs := by
  cases n with
  | ofNat k => simp [Decimal.integerText, minus]
  | negSucc k => simp [Decimal.integerText, minus]

/-- The text of an integer is a numeral without fraction and exponent. -/
theorem readNumeral_integerText (n : Int) (h : Ends rest) :
    readNumeral (Decimal.integerText n ++ rest) =
      some (⟨decide (n < 0), Decimal.digitsOf n.natAbs, none, none⟩, rest) := by
  rw [integerText_eq, List.append_assoc]
  have hdigits := leading_digitsOf n.natAbs
  exact readNumeral_parts _ (hdigits.ne_minus rest)
    (hdigits.numeralWhole_eq fun c r hr => (h c r hr).1)
    (numeralFraction_of_ends h) (numeralExponent_of_ends h)

/-- The integers that a number's text keeps: those of 64 bits, signed or not. -/
def InRange (n : Int) : Prop := -(Word.maxInt64 : Int) - 1 ≤ n ∧ n ≤ Word.maxUInt64

theorem maxUInt64_eq : Word.maxUInt64 = 18446744073709551615 := by decide

theorem maxInt64_eq : Word.maxInt64 = 9223372036854775807 := by decide

theorem value?_digitsOf {n : Int} (h : InRange n) :
    Numeral.value? ⟨decide (n < 0), Decimal.digitsOf n.natAbs, none, none⟩ = some (.int n) := by
  rw [InRange, maxInt64_eq, maxUInt64_eq] at h
  have hbound : Decimal.valueOf (Decimal.digitsOf n.natAbs) ≤ Word.maxUInt64 + 1 := by
    rw [Decimal.valueOf_digitsOf, maxUInt64_eq]
    omega
  have hvalue : Decimal.boundedValue (Word.maxUInt64 + 1) (Decimal.digitsOf n.natAbs) = n.natAbs :=
    (Decimal.boundedValue_eq hbound).trans (Decimal.valueOf_digitsOf _)
  simp only [Numeral.value?, hvalue, decide_eq_true_eq]
  by_cases hneg : n < 0
  · have hmagnitude : 0 < n.natAbs ∧ n.natAbs ≤ Word.maxInt64 + 1 := by
      rw [maxInt64_eq]
      omega
    rw [if_pos hneg, if_pos hmagnitude]
    exact congrArg (fun n => some (Number.int n)) (by omega)
  · have hmagnitude : n.natAbs ≤ Word.maxUInt64 := by
      rw [maxUInt64_eq]
      omega
    rw [if_neg hneg, if_pos hmagnitude]
    exact congrArg (fun n => some (Number.int n)) (by omega)

theorem readNumber_integerText {n : Int} (hn : InRange n) (h : Ends rest) :
    readNumber (Decimal.integerText n ++ rest) = some (.int n, rest) := by
  simp [readNumber, readNumeral_integerText n h, value?_digitsOf hn]

end Json
end FleetBridge
