/-!
The shortest decimal that reads back as a given double. A double is the integer `m` times `2 ^ q`;
every real closer to it than half the gap to its neighbours reads back as it, and so do the ends of
that interval when `m` is even.
-/
namespace FleetBridge.Decimal

/-- The number `digits * 10 ^ exponent`. -/
structure Scientific where
  digits : Nat
  exponent : Int
  deriving DecidableEq, Repr

/-- Which of two equally near neighbours is taken. -/
inductive Tie where
  | up
  | even
  deriving DecidableEq, Repr

/-- The integer and the binary exponent of a finite double, its sign aside. -/
def binaryParts (x : Float) : Nat × Int :=
  let bits := x.toBits.toNat
  let fraction := bits % Nat.pow 2 52
  match bits / Nat.pow 2 52 % Nat.pow 2 11 with
  | 0 => (fraction, -1074)
  | e => (Nat.pow 2 52 + fraction, (e : Int) - 1075)

/-- The sign bit. -/
def isNegative (x : Float) : Bool := x.toBits.toNat / Nat.pow 2 63 = 1

/-- Four times the number, and four times the ends of the interval that reads back as it, in units
of `2 ^ q`. Below a power of two the gap is half as wide. -/
def quarterBounds (m : Nat) (q : Int) : Nat × Nat × Nat :=
  (if m = Nat.pow 2 52 ∧ -1074 < q then 4 * m - 1 else 4 * m - 2, 4 * m, 4 * m + 2)

/-- The multiple of `10 ^ e` that reads back as `m * 2 ^ q`, the nearer one if there are two. -/
def onGrid? (tie : Tie) (m : Nat) (q e : Int) : Option Nat :=
  let (low, mid, high) := quarterBounds m q
  let unit := Nat.pow 2 q.toNat * Nat.pow 10 (-e).toNat
  let step := 4 * Nat.pow 2 (-q).toNat * Nat.pow 10 e.toNat
  let inside (a b : Nat) : Bool := a < b || (a = b && m % 2 = 0)
  let below := mid * unit / step
  let above := below + 1
  let lowHit := inside (low * unit) (below * step)
  let highHit := inside (above * step) (high * unit)
  let down := mid * unit - below * step
  let up := above * step - mid * unit
  match lowHit, highHit with
  | true, true =>
    if down < up then some below
    else if up < down then some above
    else match tie with
      | .up => some above
      | .even => some (if below % 2 = 0 then below else above)
  | true, false => some below
  | false, true => some above
  | false, false => none

/-- Moves trailing zeros of the digits into the exponent. -/
def stripZeros : Nat → Scientific → Scientific
  | 0, s => s
  | fuel + 1, s =>
    if s.digits % 10 = 0 ∧ s.digits ≠ 0 then stripZeros fuel ⟨s.digits / 10, s.exponent + 1⟩
    else s

/-- A decimal exponent that is at most one too large for the leading digit. -/
def leadingExponent (m : Nat) (q : Int) : Int :=
  let numerator := m * Nat.pow 2 q.toNat
  let denominator := Nat.pow 2 (-q).toNat
  if denominator ≤ numerator then ((Nat.toDigits 10 (numerator / denominator)).length : Int)
  else 1 - ((Nat.toDigits 10 (denominator / numerator)).length : Int)

/-- Tries grids from coarse to fine and stops at the first that holds a number reading back as
`m * 2 ^ q`; seventeen digits always suffice. -/
def shortest (tie : Tie) (m : Nat) (q : Int) : Scientific :=
  let top := leadingExponent m q
  let found := (List.range 20).findSome? fun (k : Nat) =>
    (onGrid? tie m q (top - k)).map fun d => (⟨d, top - k⟩ : Scientific)
  stripZeros 20 (found.getD ⟨0, 0⟩)

end FleetBridge.Decimal
