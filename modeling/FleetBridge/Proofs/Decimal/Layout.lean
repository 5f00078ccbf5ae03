import FleetBridge.Proofs.Decimal.Doubles
import FleetBridge.Proofs.Decimal.Shortest
import FleetBridge.Proofs.Json.Numbers
import FleetBridge.Decimal.Layout
import FleetBridge.Text.Split

/-!
The text of a finite double. It is made of digits, points, signs and the letter of the exponent, and
it tells the double: the number it spells is the shortest decimal.
-/
namespace FleetBridge

namespace Text

variable {p : Char → Bool}

theorem cutAt_of_forall {s : List Char} (h : ∀ c ∈ s, p c = false) : cutAt p s = (s, none) := by
  induction s with
  | nil => rfl
  | cons c s ih =>
    rw [List.forall_mem_cons] at h
    simp [cutAt, h.1, ih h.2]

theorem cutAt_append_cons {s : List Char} (h : ∀ c ∈ s, p c = false) {d : Char} (hd : p d = true)
    (r : List Char) : cutAt p (s ++ d :: r) = (s, some r) := by
  induction s with
  | nil => simp [cutAt, hd]
  | cons c s ih =>
    rw [List.forall_mem_cons] at h
    simp [cutAt, h.1, ih h.2]

end Text

namespace Decimal

/-- The number that a text spells: digits around a point, and an exponent of ten behind a letter. -/
def spelled (s : List Char) : ℚ :=
  let (front, exponent) := Text.cutAt (· = 'e') s
  let (whole, fraction) := Text.cutAt (· = '.') front
  valueOf (whole ++ fraction.getD []) *
    10 ^ ((exponent.bind readExponent?).getD 0 - (fraction.getD []).length)

def AllDigits (s : List Char) : Prop := ∀ c ∈ s, isDigit c = true

theorem ne_letter {c : Char} (h : isDigit c = true) : decide (c = 'e') = false := by
  apply decide_eq_false
  rintro rfl
  exact absurd h (by decide)

theorem ne_point {c : Char} (h : isDigit c = true) : decide (c = '.') = false := by
  apply decide_eq_false
  rintro rfl
  exact absurd h (by decide)

variable {s t whole fraction digits : List Char} {e : Int}

theorem AllDigits.append (hs : AllDigits s) (ht : AllDigits t) : AllDigits (s ++ t) :=
  List.forall_mem_append.mpr ⟨hs, ht⟩

theorem AllDigits.take (h : AllDigits s) (n : Nat) : AllDigits (s.take n) :=
  fun c hc => h c (List.mem_of_mem_take hc)

theorem AllDigits.drop (h : AllDigits s) (n : Nat) : AllDigits (s.drop n) :=
  fun c hc => h c (List.mem_of_mem_drop hc)

theorem allDigits_zeros (n : Nat) : AllDigits (List.replicate n '0') := by
  intro c hc
  rw [List.eq_of_mem_replicate hc]
  decide

theorem allDigits_digitsOf (n : Nat) : AllDigits (digitsOf n) :=
  fun _ hc => isDigit_of_mem_digitsOf hc

theorem spelled_whole (h : AllDigits whole) : spelled whole = valueOf whole := by
  have hletter := Text.cutAt_of_forall (p := (decide <| · = 'e')) fun c hc => ne_letter (h c hc)
  have hpoint := Text.cutAt_of_forall (p := (decide <| · = '.')) fun c hc => ne_point (h c hc)
  simp [spelled, hletter, hpoint]

theorem spelled_point (hw : AllDigits whole) (hf : AllDigits fraction) :
    spelled (whole ++ '.' :: fraction) =
      valueOf (whole ++ fraction) * 10 ^ (-(fraction.length : Int)) := by
  have hletter : Text.cutAt (· = 'e') (whole ++ '.' :: fraction) =
      (whole ++ '.' :: fraction, none) := by
    apply Text.cutAt_of_forall
    rw [List.forall_mem_append, List.forall_mem_cons]
    exact ⟨fun c hc => ne_letter (hw c hc), by decide, fun c hc => ne_letter (hf c hc)⟩
  have hpoint := Text.cutAt_append_cons (p := fun c => decide (c = '.')) (d := '.')
    (fun c hc => ne_point (hw c hc)) (by decide) fraction
  simp [spelled, hletter, hpoint]

/-- An exponent scales what stands before it. -/
theorem spelled_scaled (hs : ∀ c ∈ s, decide (c = 'e') = false) (ht : readExponent? t = some e) :
    spelled (s ++ 'e' :: t) = spelled s * 10 ^ e := by
  have hscaled := Text.cutAt_append_cons (d := 'e') hs (by decide) t
  have hplain := Text.cutAt_of_forall hs
  simp only [spelled, hscaled, hplain, Option.bind_some, ht, Option.getD_some, Option.bind_none,
    Option.getD_none]
  rw [mul_assoc, ← zpow_add₀ (by norm_num)]
  ring_nf

/-! Values of digits. -/

theorem valueOf_append (s t : List Char) :
    valueOf (s ++ t) = valueOf s * 10 ^ t.length + valueOf t := by
  change Nat.ofDigitChars 10 (s ++ t) 0 = _
  rw [Nat.ofDigitChars_append, Nat.ofDigitChars_eq_ofDigitChars_zero, Nat.mul_comm]
  rfl

theorem valueOf_zeros (n : Nat) : valueOf (List.replicate n '0') = 0 := by
  change Nat.ofDigitChars 10 (List.replicate n '0') 0 = 0
  rw [Nat.ofDigitChars_replicate_zero, Nat.mul_zero]

theorem valueOf_zeros_append (n : Nat) (s : List Char) :
    valueOf (List.replicate n '0' ++ s) = valueOf s := by
  rw [valueOf_append, valueOf_zeros, Nat.zero_mul, Nat.zero_add]

theorem valueOf_append_zeros (s : List Char) (n : Nat) :
    valueOf (s ++ List.replicate n '0') = valueOf s * 10 ^ n := by
  rw [valueOf_append, valueOf_zeros, List.length_replicate, Nat.add_zero]

theorem spelled_point_zero (h : AllDigits s) : spelled (s ++ ['.', '0']) = spelled s := by
  have hfraction : AllDigits ['0'] := allDigits_zeros 1
  rw [spelled_point h hfraction, spelled_whole h]
  have hzero := valueOf_append_zeros s 1
  rw [List.replicate_one] at hzero
  rw [hzero, pow_one, List.length_singleton, Nat.cast_one, zpow_neg_one]
  push_cast
  ring

/-! The two notations spell the same number. -/

/-- The number with these digits whose leading one has exponent `e`. -/
def placed (digits : List Char) (e : Int) : ℚ := valueOf digits * 10 ^ (e + 1 - digits.length)

/-- All digits stand behind the point. -/
theorem spelled_small (h : AllDigits digits) (he : e < 0) :
    spelled ('0' :: '.' :: (List.replicate (-e - 1).toNat '0' ++ digits)) = placed digits e := by
  have hfraction := (allDigits_zeros (-e - 1).toNat).append h
  have hwhole : AllDigits ['0'] := allDigits_zeros 1
  have hpoint := spelled_point hwhole hfraction
  have hzero := valueOf_zeros_append 1 (List.replicate (-e - 1).toNat '0' ++ digits)
  rw [List.replicate_one, valueOf_zeros_append] at hzero
  rw [List.singleton_append] at hpoint
  rw [hpoint, hzero, placed, List.length_append, List.length_replicate]
  congr 2
  omega

/-- The digits end before the point, and zeros fill the places up to it. -/
theorem spelled_filled (h : AllDigits digits) (he : 0 ≤ e) (hlength : digits.length ≤ e.toNat + 1) :
    spelled (digits ++ List.replicate (e.toNat + 1 - digits.length) '0') = placed digits e := by
  have hexponent : e + 1 - (digits.length : Int) = ((e.toNat + 1 - digits.length : ℕ) : Int) := by
    omega
  rw [spelled_whole (h.append (allDigits_zeros _)), valueOf_append_zeros, placed, hexponent,
    zpow_natCast]
  push_cast
  rfl

theorem spelled_positionalText (keepsFraction : Bool) (h : AllDigits digits) (e : Int) :
    spelled (positionalText keepsFraction digits e) = placed digits e := by
  unfold positionalText
  split
  next hneg => exact spelled_small h hneg
  next hnonneg =>
    simp only
    split
    next hdrop =>
      have hlength : digits.length ≤ e.toNat + 1 := List.drop_eq_nil_iff.mp hdrop
      rw [List.take_of_length_le hlength]
      have hfilled := spelled_filled h (Int.not_lt.mp hnonneg) hlength
      split
      next => rw [spelled_point_zero (h.append (allDigits_zeros _)), hfilled]
      next => exact hfilled
    next hdrop =>
      have hlength : e.toNat + 1 ≤ digits.length := by
        by_contra hlong
        exact hdrop (List.drop_eq_nil_of_le (by omega))
      have hzeros : e.toNat + 1 - digits.length = 0 := by omega
      rw [hzeros, List.replicate_zero, List.append_nil, spelled_point (h.take _) (h.drop _),
        List.take_append_drop, List.length_drop, placed]
      congr 2
      omega

theorem readDigits?_digitsOf (n : Nat) : readDigits? (digitsOf n) = some n := by
  have hall : (digitsOf n).all isDigit = true := List.all_eq_true.mpr (allDigits_digitsOf n)
  have hempty : (digitsOf n).isEmpty = false := by simpa using digitsOf_ne_nil n
  simp [readDigits?, hall, hempty, valueOf_digitsOf]

theorem digitsOf_eq_cons (n : Nat) : ∃ c r, digitsOf n = c :: r ∧ isDigit c = true := by
  cases hd : digitsOf n with
  | nil => exact absurd hd (digitsOf_ne_nil n)
  | cons c r => exact ⟨c, r, rfl, allDigits_digitsOf n c (hd ▸ List.mem_cons_self)⟩

theorem readExponent?_integerText (signed : Bool) (e : Int) :
    readExponent? ((if signed && 0 ≤ e then ['+'] else []) ++ integerText e) = some e := by
  cases e with
  | ofNat k =>
    have hread := readDigits?_digitsOf k
    cases signed with
    | true => exact congrArg (Option.map Int.ofNat) hread
    | false =>
      obtain ⟨c, r, hcons, hc⟩ := digitsOf_eq_cons k
      change readExponent? (digitsOf k) = some (Int.ofNat k)
      rw [hcons] at hread ⊢
      unfold readExponent?
      split
      next hplus => exact absurd ((List.cons.inj hplus).1 ▸ hc) (by decide)
      next hminus => exact absurd ((List.cons.inj hminus).1 ▸ hc) (by decide)
      next => rw [hread]; rfl
  | negSucc k =>
    have hunsigned : (signed && decide (0 ≤ Int.negSucc k)) = false := by simp
    rw [hunsigned, if_neg Bool.false_ne_true, List.nil_append, integerText, readExponent?,
      readDigits?_digitsOf]
    rfl

theorem spelled_exponentText (signed : Bool) (h : AllDigits digits) (hne : digits ≠ []) (e : Int) :
    spelled (exponentText signed digits e) = placed digits e := by
  have hexponent := readExponent?_integerText signed e
  unfold exponentText placed
  match digits, hne with
  | [d], _ =>
    rw [spelled_scaled (fun c hc => ne_letter (h c hc)) hexponent, spelled_whole h,
      List.length_singleton]
    push_cast
    ring_nf
  | d :: d' :: more, _ =>
    have hfirst : AllDigits [d] := h.take 1
    have hmore : AllDigits (d' :: more) := h.drop 1
    have hletter : ∀ c ∈ [d] ++ '.' :: d' :: more, decide (c = 'e') = false :=
      List.forall_mem_append.mpr ⟨fun c hc => ne_letter (hfirst c hc),
        List.forall_mem_cons.mpr ⟨by decide, fun c hc => ne_letter (hmore c hc)⟩⟩
    have hpoint := spelled_point hfirst hmore
    have hscaled := spelled_scaled hletter hexponent
    rw [hpoint, mul_assoc, ← zpow_add₀ (by norm_num)] at hscaled
    have hlength : e + 1 - ((d :: d' :: more).length : Int) =
        -((d' :: more).length : Int) + e := by
      rw [List.length_cons]
      push_cast
      ring
    rw [hlength]
    exact hscaled

/-! Magnitudes. -/

variable {l : Layout} {m m' : Nat} {q q' : Int}

theorem spelled_magnitude (l : Layout) (m : Nat) (q : Int) :
    spelled (l.magnitude m q) = if m = 0 then 0 else (shortest l.tie m q).value := by
  unfold Layout.magnitude
  split
  next =>
    split
    next =>
      have hpoint := spelled_point_zero (allDigits_zeros 1)
      rw [List.replicate_one] at hpoint
      exact hpoint.trans (spelled_whole (allDigits_zeros 1))
    next => exact spelled_whole (allDigits_zeros 1)
  next =>
    generalize shortest l.tie m q = s
    have hdigits := allDigits_digitsOf s.digits
    have hplaced : placed (digitsOf s.digits) (s.exponent + (digitsOf s.digits).length - 1) =
        s.value := by
      rw [placed, valueOf_digitsOf, Scientific.value]
      ring_nf
    simp only
    split
    next => rw [spelled_positionalText _ hdigits, hplaced]
    next => rw [spelled_exponentText _ hdigits (digitsOf_ne_nil _), hplaced]

/-- The integer and the exponent of a finite double. -/
def Parts (m : Nat) (q : Int) : Prop := Canonical m q ∨ m = 0 ∧ q = -1074

/-- A magnitude's text tells the number. -/
theorem magnitude_injective (hp : Parts m q) (hp' : Parts m' q')
    (h : l.magnitude m q = l.magnitude m' q') : m = m' ∧ q = q' := by
  have hspelled := congrArg spelled h
  rw [spelled_magnitude, spelled_magnitude] at hspelled
  rcases hp with hc | ⟨rfl, rfl⟩
  · rw [if_neg hc.pos.ne'] at hspelled
    rcases hp' with hc' | ⟨rfl, rfl⟩
    · rw [if_neg hc'.pos.ne'] at hspelled
      exact eq_of_shortest_value l.tie hc hc' hspelled
    · rw [if_pos rfl] at hspelled
      exact absurd hspelled (shortest_value_pos l.tie hc).ne'
  · rw [if_pos rfl] at hspelled
    rcases hp' with hc' | ⟨rfl, rfl⟩
    · rw [if_neg hc'.pos.ne'] at hspelled
      exact absurd hspelled.symm (shortest_value_pos l.tie hc').ne'
    · exact ⟨rfl, rfl⟩

/-- The characters of a number without a plus sign. -/
def isNumeralChar (c : Char) : Bool := isDigit c || c = '.' || c = '-' || c = 'e'

def AllNumeral (s : List Char) : Prop := ∀ c ∈ s, isNumeralChar c = true

theorem AllDigits.numeral (h : AllDigits s) : AllNumeral s := by
  intro c hc
  rw [isNumeralChar, h c hc]
  rfl

theorem AllNumeral.append (hs : AllNumeral s) (ht : AllNumeral t) : AllNumeral (s ++ t) :=
  List.forall_mem_append.mpr ⟨hs, ht⟩

theorem AllNumeral.cons {c : Char} (hc : isNumeralChar c = true) (hs : AllNumeral s) :
    AllNumeral (c :: s) :=
  List.forall_mem_cons.mpr ⟨hc, hs⟩

theorem AllNumeral.nil : AllNumeral [] := List.forall_mem_nil _

/-- Begins with a digit and goes on with characters of numbers. -/
def BeginsDigit (s : List Char) : Prop := ∃ d r, s = d :: r ∧ isDigit d = true ∧ AllNumeral r

theorem AllDigits.begins (h : AllDigits s) (hne : s ≠ []) : BeginsDigit s := by
  cases s with
  | nil => exact absurd rfl hne
  | cons d r => exact ⟨d, r, rfl, h d List.mem_cons_self, (h.drop 1).numeral⟩

theorem BeginsDigit.append (hs : BeginsDigit s) (ht : AllNumeral t) : BeginsDigit (s ++ t) := by
  obtain ⟨d, r, rfl, hd, hr⟩ := hs
  exact ⟨d, r ++ t, rfl, hd, hr.append ht⟩

theorem BeginsDigit.numeral (h : BeginsDigit s) : AllNumeral s := by
  obtain ⟨d, r, rfl, hd, hr⟩ := h
  refine hr.cons ?_
  rw [isNumeralChar, hd]
  rfl

theorem BeginsDigit.ne_minus (h : BeginsDigit s) (r : List Char) : s ≠ '-' :: r := by
  obtain ⟨d, r', rfl, hd, -⟩ := h
  rintro he
  exact absurd ((List.cons.inj he).1 ▸ hd) (by decide)

theorem allNumeral_integerText (e : Int) : AllNumeral (integerText e) := by
  cases e with
  | ofNat k => exact (allDigits_digitsOf k).numeral
  | negSucc k => exact (allDigits_digitsOf (k + 1)).numeral.cons (by decide)

theorem begins_positionalText (keepsFraction : Bool) (h : AllDigits digits) (hne : digits ≠ [])
    (e : Int) : BeginsDigit (positionalText keepsFraction digits e) := by
  have hzero : BeginsDigit ['0'] := (allDigits_zeros 1).begins (List.cons_ne_nil _ _)
  unfold positionalText
  split
  next => exact hzero.append (((allDigits_zeros _).append h).numeral.cons (by decide))
  next =>
    have hfront : BeginsDigit (digits.take (e.toNat + 1) ++
        List.replicate (e.toNat + 1 - digits.length) '0') := by
      refine ((h.take _).begins ?_).append (allDigits_zeros _).numeral
      rw [ne_eq, List.take_eq_nil_iff]
      simp [hne]
    simp only
    split
    next =>
      split
      next => exact hfront.append ((allDigits_zeros 1).numeral.cons (by decide))
      next => exact hfront
    next => exact hfront.append ((h.drop _).numeral.cons (by decide))

theorem begins_exponentText (h : AllDigits digits) (hne : digits ≠ []) (e : Int) :
    BeginsDigit (exponentText false digits e) := by
  have hexponent : AllNumeral ('e' :: integerText e) :=
    (allNumeral_integerText e).cons (by decide)
  unfold exponentText
  rw [Bool.false_and, if_neg Bool.false_ne_true, List.nil_append]
  match digits, hne with
  | [d], _ => exact (h.begins (List.cons_ne_nil _ _)).append hexponent
  | d :: d' :: more, _ =>
    have hfirst : BeginsDigit [d] := AllDigits.begins (h.take 1) (List.cons_ne_nil _ _)
    have hmore : AllNumeral ('.' :: d' :: more) :=
      AllNumeral.cons (by decide) (AllDigits.numeral (h.drop 1))
    exact (hfirst.append hmore).append hexponent

theorem begins_magnitude (hl : l.signedExponent = false) (m : Nat) (q : Int) :
    BeginsDigit (l.magnitude m q) := by
  have hzero : BeginsDigit ['0'] := (allDigits_zeros 1).begins (List.cons_ne_nil _ _)
  unfold Layout.magnitude
  split
  next =>
    split
    next => exact hzero.append ((allDigits_zeros 1).numeral.cons (by decide))
    next => exact hzero
  next =>
    have hdigits := allDigits_digitsOf (shortest l.tie m q).digits
    have hne := digitsOf_ne_nil (shortest l.tie m q).digits
    simp only
    split
    next => exact begins_positionalText _ hdigits hne _
    next =>
      rw [hl]
      exact begins_exponentText hdigits hne _

/-! Texts. -/

theorem isNaN_of_isFinite {x : Float} (h : x.isFinite = true) : x.isNaN = false := by
  change x.toModel.unpack.isFinite = true at h
  change x.toModel.unpack.isNaN = false
  cases hx : x.toModel.unpack with
  | notANumber => rw [hx] at h; cases h
  | infinity s => rfl
  | zero s => rfl
  | finite s m e hm => rfl

theorem isInf_of_isFinite {x : Float} (h : x.isFinite = true) : x.isInf = false := by
  change x.toModel.unpack.isFinite = true at h
  change x.toModel.unpack.isInf = false
  cases hx : x.toModel.unpack with
  | notANumber => rfl
  | infinity s => rw [hx] at h; cases h
  | zero s => rfl
  | finite s m e hm => rfl

theorem toList_text {x : Float} (h : x.isFinite = true) (l : Layout) :
    (l.text x).toList = (if isNegative x then ['-'] else []) ++
      l.magnitude (binaryParts x).1 (binaryParts x).2 := by
  rw [Layout.text, if_neg (Bool.eq_false_iff.mp (isNaN_of_isFinite h))]
  simp only [isInf_of_isFinite h, Bool.false_eq_true, if_false, String.toList_ofList]

/-- A finite double is written with the characters of numbers. -/
theorem allNumeral_text (hl : l.signedExponent = false) {x : Float} (h : x.isFinite = true) :
    AllNumeral (l.text x).toList := by
  have hmagnitude := (begins_magnitude hl (binaryParts x).1 (binaryParts x).2).numeral
  rw [toList_text h]
  split
  next => exact hmagnitude.cons (by decide)
  next => exact hmagnitude

theorem text_ne_nil (hl : l.signedExponent = false) {x : Float} (h : x.isFinite = true) :
    (l.text x).toList ≠ [] := by
  obtain ⟨d, r, hcons, -⟩ := begins_magnitude hl (binaryParts x).1 (binaryParts x).2
  rw [toList_text h, hcons]
  exact List.append_ne_nil_of_right_ne_nil _ (List.cons_ne_nil d r)

/-- The exponent field of a double, and the bits below it. -/
def exponentField (x : Float) : Nat := x.toBits.toNat / Nat.pow 2 52 % Nat.pow 2 11

def fractionField (x : Float) : Nat := x.toBits.toNat % Nat.pow 2 52

theorem fractionField_lt (x : Float) : fractionField x < 2 ^ 52 := Nat.mod_lt _ (by decide)

theorem binaryParts_eq (x : Float) :
    binaryParts x = if exponentField x = 0 then (fractionField x, -1074)
      else (2 ^ 52 + fractionField x, (exponentField x : Int) - 1075) := by
  unfold binaryParts
  simp only
  split
  next h => exact (if_pos h).symm
  next h => exact (if_neg h).symm

theorem parts_binaryParts (x : Float) : Parts (binaryParts x).1 (binaryParts x).2 := by
  have hfraction := fractionField_lt x
  rw [binaryParts_eq]
  split
  next =>
    rcases Nat.eq_zero_or_pos (fractionField x) with hzero | hpos
    · exact .inr ⟨hzero, rfl⟩
    · exact .inl ⟨hpos, by omega, le_refl _, fun h => absurd h (lt_irrefl _)⟩
  next => exact .inl ⟨by omega, by omega, by omega, fun _ => by omega⟩

/-- Sign, integer and exponent make up a double. -/
theorem eq_of_binaryParts {x y : Float} (hsign : isNegative x = isNegative y)
    (h : binaryParts x = binaryParts y) : x = y := by
  have hx := fractionField_lt x
  have hy := fractionField_lt y
  have hfields : exponentField x = exponentField y ∧ fractionField x = fractionField y := by
    rw [binaryParts_eq, binaryParts_eq] at h
    split at h <;> split at h <;> rw [Prod.mk.injEq] at h <;> omega
  have hbits : x.toBits.toNat = y.toBits.toNat := by
    have hlx := x.toBits.toNat_lt
    have hly := y.toBits.toNat_lt
    obtain ⟨hexponent, hfraction⟩ := hfields
    have hsign := decide_eq_decide.mp hsign
    unfold exponentField at hexponent
    unfold fractionField at hfraction
    simp only [Nat.pow_eq] at hexponent hfraction hsign
    omega
  exact Float.toBits_inj.mp (UInt64.toNat_inj.mp hbits)

/-- A finite double is known by its text. -/
theorem text_injective (hl : l.signedExponent = false) {x y : Float} (hx : x.isFinite = true)
    (hy : y.isFinite = true) (h : l.text x = l.text y) : x = y := by
  have htext := congrArg String.toList h
  rw [toList_text hx, toList_text hy] at htext
  have hbx := begins_magnitude hl (binaryParts x).1 (binaryParts x).2
  have hby := begins_magnitude hl (binaryParts y).1 (binaryParts y).2
  have hparts : isNegative x = isNegative y ∧
      l.magnitude (binaryParts x).1 (binaryParts x).2 =
        l.magnitude (binaryParts y).1 (binaryParts y).2 := by
    cases hsx : isNegative x <;> cases hsy : isNegative y <;> rw [hsx, hsy] at htext
    · exact ⟨rfl, htext⟩
    · exact absurd htext (hbx.ne_minus _)
    · exact absurd htext.symm (hby.ne_minus _)
    · exact ⟨rfl, (List.cons.inj htext).2⟩
  obtain ⟨hm, hq⟩ := magnitude_injective (parts_binaryParts x) (parts_binaryParts y) hparts.2
  exact eq_of_binaryParts hparts.1 (Prod.ext hm hq)

end Decimal
end FleetBridge
