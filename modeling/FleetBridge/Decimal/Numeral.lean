import FleetBridge.Text.Case
import FleetBridge.Word

/-!
Reading numerals: whole numbers with a sign, and decimals with a fraction and an exponent. Only
ASCII digits count, and a numeral takes up the whole text.
-/
namespace FleetBridge.Decimal

def isDigit (c : Char) : Bool := '0' ≤ c && c ≤ '9'

def digitValue (c : Char) : Nat := c.toNat - '0'.toNat

def valueOf (digits : List Char) : Nat := digits.foldl (fun n c => 10 * n + digitValue c) 0

/-- The value of digits up to a bound; everything above it counts as the bound. -/
def boundedValue (bound : Nat) (digits : List Char) : Nat :=
  digits.foldl (fun n c => min bound (10 * n + digitValue c)) 0

/-- A non-empty run of digits. -/
def readDigits? (s : List Char) : Option Nat :=
  if s.isEmpty || !s.all isDigit then none else some (valueOf s)

/-- A natural number up to a bound, with an optional plus sign. -/
def readNat? (bound : Nat) (s : String) : Option Nat := do
  let n ← match s.toList with
    | '+' :: r => readDigits? r
    | r => readDigits? r
  if n ≤ bound then some n else none

/-- An integer of 64 bits, with an optional sign. -/
def readInt64? (s : String) : Option Int := do
  let n : Int ← match s.toList with
    | '+' :: r => (readDigits? r).map Int.ofNat
    | '-' :: r => (readDigits? r).map fun k => -(k : Int)
    | r => (readDigits? r).map Int.ofNat
  if Word.fitsInt64 n then some n else none

/-- The double nearest to `digits * 10 ^ exponent`. Exponents far outside the range of doubles
give zero or infinity at once. -/
def nearest (digits : Nat) (exponent : Int) : Float :=
  let size := exponent + (Nat.toDigits 10 digits).length
  if digits = 0 ∨ size < -400 then 0.0
  else if 400 < size then 1.0 / 0.0
  else if exponent < 0 then Float.ofScientific digits true exponent.natAbs
  else Float.ofScientific digits false exponent.natAbs

def readExponent? : List Char → Option Int
  | '+' :: r => (readDigits? r).map Int.ofNat
  | '-' :: r => (readDigits? r).map fun k => -(k : Int)
  | r => (readDigits? r).map Int.ofNat

/-- Digits with an optional fraction and exponent; a digit must stand before or after the point. -/
def readDecimal? (s : List Char) : Option Float := do
  let whole := s.takeWhile isDigit
  let (fraction, r) := match s.dropWhile isDigit with
    | '.' :: r => (r.takeWhile isDigit, r.dropWhile isDigit)
    | r => ([], r)
  if whole.isEmpty && fraction.isEmpty then none
  let e ← match r with
    | [] => some 0
    | c :: r => if c = 'e' || c = 'E' then readExponent? r else none
  some (nearest (valueOf (whole ++ fraction)) (e - fraction.length))

/-- A double: a decimal, or `inf`, `infinity` or `nan` in any case, with an optional sign. -/
def readDouble? (s : String) : Option Float := do
  let (negative, r) := match s.toList with
    | '+' :: r => (false, r)
    | '-' :: r => (true, r)
    | r => (false, r)
  let word := Text.asciiLower (String.ofList r)
  let x ←
    if word = "inf" || word = "infinity" then some (1.0 / 0.0)
    else if word = "nan" then some (0.0 / 0.0)
    else readDecimal? r
  some (if negative then -x else x)

end FleetBridge.Decimal
