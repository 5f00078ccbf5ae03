import FleetBridge.Decimal.Shortest

/-!
How the digits of a double are laid out as text: where positional notation ends, how an exponent
is spelled, and what stands for the values that have no digits.
-/
namespace FleetBridge.Decimal

/-- The decisions of one number format. -/
structure Layout where
  tie : Tie
  /-- Whether a number with this exponent of its leading digit is written without an exponent. -/
  positional : Int → Bool
  /-- Whether a whole number keeps a fraction of one zero. -/
  keepsFraction : Bool
  /-- Whether a positive exponent has a plus sign. -/
  signedExponent : Bool

namespace Layout

/-- Line protocol and settings: positional from a ten-thousandth to below ten to the sixteenth. -/
def sample : Layout := ⟨.up, fun e => -4 ≤ e && e < 16, true, false⟩

/-- JSON text: positional from a hundred-thousandth to below ten to the sixteenth. -/
def json : Layout := ⟨.even, fun e => -5 ≤ e && e < 16, true, true⟩

/-- Meter readings: always positional, whole numbers bare. -/
def reading : Layout := ⟨.up, fun _ => true, false, false⟩

end Layout

def digitsOf (n : Nat) : List Char := Nat.toDigits 10 n

def integerText (n : Int) : List Char :=
  match n with
  | .ofNat k => digitsOf k
  | .negSucc k => '-' :: digitsOf (k + 1)

/-- The digits with the point set so that the number's leading digit has exponent `e`. -/
def positionalText (keepsFraction : Bool) (digits : List Char) (e : Int) : List Char :=
  if e < 0 then
    '0' :: '.' :: (List.replicate (-e - 1).toNat '0' ++ digits)
  else
    let whole := e.toNat + 1
    let front := digits.take whole ++ List.replicate (whole - digits.length) '0'
    match digits.drop whole with
    | [] => if keepsFraction then front ++ ['.', '0'] else front
    | fraction => front ++ '.' :: fraction

def exponentText (signed : Bool) (digits : List Char) (e : Int) : List Char :=
  let mantissa := match digits with
    | [] => []
    | [d] => [d]
    | d :: more => d :: '.' :: more
  mantissa ++ 'e' :: ((if signed && 0 ≤ e then ['+'] else []) ++ integerText e)

/-- The text of a number's magnitude. -/
def Layout.magnitude (l : Layout) (m : Nat) (q : Int) : List Char :=
  if m = 0 then (if l.keepsFraction then ['0', '.', '0'] else ['0'])
  else
    let s := shortest l.tie m q
    let digits := digitsOf s.digits
    let e := s.exponent + digits.length - 1
    if l.positional e then positionalText l.keepsFraction digits e
    else exponentText l.signedExponent digits e

def Layout.text (l : Layout) (x : Float) : String :=
  if x.isNaN then "NaN"
  else
    let sign := if isNegative x then ['-'] else []
    let body := if x.isInf then ['i', 'n', 'f'] else
      let (m, q) := binaryParts x
      l.magnitude m q
    String.ofList (sign ++ body)

end FleetBridge.Decimal
