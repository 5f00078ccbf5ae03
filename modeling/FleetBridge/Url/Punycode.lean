import FleetBridge.Word

/-!
Punycode writes a label of any characters in lower-case ASCII: the ASCII characters in order, a
hyphen, and then the places and code points of the others as numbers of variable length.
-/
namespace FleetBridge.Url.Punycode

def base : Nat := 36

def initialBias : Nat := 72

def initialPoint : Nat := 128

def digit (n : Nat) : Char :=
  if n < 26 then Char.ofNat ('a'.toNat + n) else Char.ofNat ('0'.toNat + (n - 26))

def digitValue? (c : Char) : Option Nat :=
  if 'a' ≤ c && c ≤ 'z' then some (c.toNat - 'a'.toNat)
  else if 'A' ≤ c && c ≤ 'Z' then some (c.toNat - 'A'.toNat)
  else if '0' ≤ c && c ≤ '9' then some (c.toNat - '0'.toNat + 26)
  else none

/-- The least digit that does not end a number, at the place of weight `k`. -/
def threshold (bias k : Nat) : Nat :=
  if k ≤ bias then 1 else min (k - bias) 26

def settle : Nat → Nat → Nat → Nat
  | 0, k, _ => k
  | fuel + 1, k, delta =>
    if 455 < delta then settle fuel (k + base) (delta / 35) else k + 36 * delta / (delta + 38)

/-- The bias after a number, which follows the size of the numbers so far. -/
def adapt (delta points : Nat) (first : Bool) : Nat :=
  let delta := if first then delta / 700 else delta / 2
  settle 64 0 (delta + delta / points)

/-- One number of variable length, from the place of weight `k` on. -/
def writeNumber (bias : Nat) : Nat → Nat → Nat → List Char
  | 0, _, _ => []
  | fuel + 1, k, n =>
    let t := threshold bias k
    if n < t then [digit n]
    else digit (t + (n - t) % (base - t)) :: writeNumber bias fuel (k + base) ((n - t) / (base - t))

/-- What an encoder or decoder carries along. -/
structure State where
  point : Nat
  delta : Nat
  bias : Nat
  handled : Nat

/-- Goes through the label once for the code point at hand: smaller characters count as places
passed, and each equal one is written as the number of places passed. -/
def writePoint (basic : Nat) : State → List Char → List Char × State
  | s, [] => ([], s)
  | s, c :: r =>
    if c.toNat < s.point then writePoint basic { s with delta := s.delta + 1 } r
    else if c.toNat = s.point then
      let here := writeNumber s.bias 64 base s.delta
      let bias := adapt s.delta (s.handled + 1) (s.handled = basic)
      let (more, s') := writePoint basic ⟨s.point, 0, bias, s.handled + 1⟩ r
      (here ++ more, s')
    else writePoint basic s r

/-- Handles the remaining code points in increasing order. -/
def writePoints (label : List Char) (basic : Nat) : Nat → State → List Char
  | 0, _ => []
  | fuel + 1, s =>
    match (label.filter fun c => s.point ≤ c.toNat).map Char.toNat with
    | [] => []
    | c :: r =>
      let next := r.foldl min c
      let s := { s with delta := s.delta + (next - s.point) * (s.handled + 1), point := next }
      let (here, s) := writePoint basic s label
      here ++ writePoints label basic fuel { s with delta := s.delta + 1, point := s.point + 1 }

def encode (label : List Char) : List Char :=
  let basic := label.filter fun c => c.toNat < initialPoint
  let front := if basic.isEmpty then [] else basic ++ ['-']
  front ++ writePoints label basic.length (label.length + 1)
    ⟨initialPoint, 0, initialBias, basic.length⟩

/-- Adds a number to a place, digit by digit. Neither the place nor the weight of a digit may pass
the numbers of 32 bits. -/
def readNumber? (bias : Nat) : Nat → Nat → Nat → List Char → Option (Nat × List Char)
  | _, _, _, [] => none
  | k, weight, sum, c :: r => do
    let d ← digitValue? c
    let t := threshold bias k
    let sum := sum + d * weight
    if Word.maxUInt32 < sum then none
    else if d < t then some (sum, r)
    else if Word.maxUInt32 < weight * (base - t) then none
    else readNumber? bias (k + base) (weight * (base - t)) sum r

def readPoints? : Nat → State → List Char → List Char → Option (List Char)
  | _, _, done, [] => some done
  | 0, _, _, _ :: _ => none
  | fuel + 1, s, done, text => do
    let (sum, r) ← readNumber? s.bias base 1 s.delta text
    let size := done.length + 1
    let point := s.point + sum / size
    let place := sum % size
    if point < 0xd800 ∨ (0xdfff < point ∧ point < 0x110000) then
      let bias := adapt (sum - s.delta) size (s.delta = 0 ∧ s.handled = 0)
      readPoints? fuel ⟨point, place + 1, bias, 1⟩
        (done.take place ++ Char.ofNat point :: done.drop place) r
    else none

/-- The label that a text stands for. -/
def decode? (s : List Char) : Option (List Char) :=
  let tail := (s.reverse.takeWhile (· ≠ '-')).reverse
  let front := s.take (s.length - tail.length)
  if front.length = 1 then none
  else if (front ++ tail).all fun c => c.toNat < initialPoint then
    readPoints? (s.length + 1) ⟨initialPoint, 0, initialBias, 0⟩ front.dropLast tail
  else none

end FleetBridge.Url.Punycode
