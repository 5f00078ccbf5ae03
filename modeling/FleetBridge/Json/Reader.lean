import FleetBridge.Json.Basic
import FleetBridge.Decimal.Numeral
import FleetBridge.Text.Hex

/-!
Reading JSON text. A reader takes a value off the front of the text and gives the rest, or refuses.
Containers nest at most 127 deep, and a number's digits beyond 64 bits are dropped.
-/
namespace FleetBridge.Json

abbrev Reader (α : Type) := List Char → Option (α × List Char)

/-- The characters that may stand between tokens. -/
def isGap (c : Char) : Bool := c = ' ' || c = '\t' || c = '\n' || c = '\r'

def skipGaps (s : List Char) : List Char := s.dropWhile isGap

/-- The code unit that four hexadecimal digits spell. -/
def unit? (a b c d : Char) : Option Nat := do
  let w ← Text.hexValue? a
  let x ← Text.hexValue? b
  let y ← Text.hexValue? c
  let z ← Text.hexValue? d
  some (((w * 16 + x) * 16 + y) * 16 + z)

def isHighSurrogate (u : Nat) : Bool := 0xd800 ≤ u && u < 0xdc00

def isLowSurrogate (u : Nat) : Bool := 0xdc00 ≤ u && u < 0xe000

/-- The character that a letter after a backslash stands for. -/
def escape? : Char → Option Char
  | '"' => some '"'
  | '\\' => some '\\'
  | '/' => some '/'
  | 'b' => some '\x08'
  | 'f' => some '\x0c'
  | 'n' => some '\n'
  | 'r' => some '\r'
  | 't' => some '\t'
  | _ => none

/-- The characters of a string up to its closing quote, after those already read. Half a surrogate
pair stands for no character. -/
def stringBody (done : List Char) : Reader (List Char)
  | [] => none
  | '"' :: r => some (done.reverse, r)
  | '\\' :: 'u' :: a :: b :: c :: d :: r =>
    match unit? a b c d with
    | none => none
    | some u =>
      if isHighSurrogate u then
        match r with
        | '\\' :: 'u' :: e :: f :: g :: h :: r' =>
          match unit? e f g h with
          | none => none
          | some v =>
            if isLowSurrogate v then
              stringBody (Char.ofNat (0x10000 + (u - 0xd800) * 0x400 + (v - 0xdc00)) :: done) r'
            else none
        | _ => none
      else if isLowSurrogate u then none
      else stringBody (Char.ofNat u :: done) r
  | '\\' :: c :: r =>
    match escape? c with
    | none => none
    | some x => stringBody (x :: done) r
  | c :: r => if c.toNat < 0x20 then none else stringBody (c :: done) r

def readString : Reader String
  | '"' :: r => (stringBody [] r).map fun (s, r) => (String.ofList s, r)
  | _ => none

/-- Adds digits to a significand as long as it fits 64 bits; also counts the digits left over. -/
def collect : Nat → List Char → Nat × Nat
  | s, [] => (s, 0)
  | s, c :: r =>
    let s' := 10 * s + Decimal.digitValue c
    if s' ≤ Word.maxUInt64 then collect s' r else (s, r.length + 1)

def powerOfTen (k : Nat) : Float := Float.ofScientific 1 false k

/-- A significand times a power of ten in steps of at most 308 decimal places. Each step rounds, so
the result need not be the nearest double. There is none above the range of doubles. -/
def scale : Nat → Float → Int → Option Float
  | 0, f, _ => some f
  | fuel + 1, f, e =>
    if e.natAbs ≤ 308 then
      if 0 ≤ e then
        let g := f * powerOfTen e.natAbs
        if g.isInf then none else some g
      else some (f / powerOfTen e.natAbs)
    else if f == 0.0 then some f
    else if 0 < e then none
    else scale fuel (f / powerOfTen 308) (e + 308)

/-- The shape of a number's text: sign, whole digits, fraction digits, and the exponent with its
sign. -/
structure Numeral where
  negative : Bool
  whole : List Char
  fraction : Option (List Char)
  exponent : Option (Bool × List Char)

def numeralWhole (s : List Char) : Option (List Char × List Char) :=
  match s with
  | '0' :: r => if (r.head?.map Decimal.isDigit).getD false then none else some (['0'], r)
  | r => if (r.takeWhile Decimal.isDigit).isEmpty then none
    else some (r.takeWhile Decimal.isDigit, r.dropWhile Decimal.isDigit)

def numeralFraction (s : List Char) : Option (Option (List Char) × List Char) :=
  match s with
  | '.' :: r => if (r.takeWhile Decimal.isDigit).isEmpty then none
    else some (some (r.takeWhile Decimal.isDigit), r.dropWhile Decimal.isDigit)
  | r => some (none, r)

def numeralExponent (s : List Char) : Option (Option (Bool × List Char) × List Char) :=
  match s with
  | c :: r =>
    if c = 'e' || c = 'E' then
      let (negative, r) := match r with
        | '+' :: r => (false, r)
        | '-' :: r => (true, r)
        | r => (false, r)
      if (r.takeWhile Decimal.isDigit).isEmpty then none
      else some (some (negative, r.takeWhile Decimal.isDigit), r.dropWhile Decimal.isDigit)
    else some (none, c :: r)
  | [] => some (none, [])

def readNumeral : Reader Numeral := fun s => do
  let (negative, s) := match s with
    | '-' :: r => (true, r)
    | r => (false, r)
  let (whole, s) ← numeralWhole s
  let (fraction, s) ← numeralFraction s
  let (exponent, s) ← numeralExponent s
  some (⟨negative, whole, fraction, exponent⟩, s)

/-- The magnitude of a numeral that is not a whole number of 64 bits. An exponent beyond 32 bits
leaves only zero, or nothing. -/
def Numeral.magnitude? (n : Numeral) : Option Float :=
  let (s, droppedWhole) := collect 0 n.whole
  let fraction := n.fraction.getD []
  let (s, droppedFraction) := collect s fraction
  let shift : Int := droppedWhole - (fraction.length - droppedFraction)
  let significand := Float.ofScientific s false 0
  match n.exponent with
  | none => scale 4 significand shift
  | some (negative, digits) =>
    let e := Decimal.boundedValue (Word.maxInt32 + 1) digits
    if e ≤ Word.maxInt32 then scale 4 significand (if negative then shift - e else shift + e)
    else if negative || s == 0 then some 0.0
    else none

/-- A numeral without fraction and exponent is an integer if it fits 64 bits; minus zero does not
count as one. -/
def Numeral.value? (n : Numeral) : Option Number :=
  let whole := Decimal.boundedValue (Word.maxUInt64 + 1) n.whole
  let asFloat := n.magnitude?.map fun x => Number.float (if n.negative then -x else x)
  match n.fraction, n.exponent with
  | none, none =>
    if n.negative then
      if 0 < whole ∧ whole ≤ Word.maxInt64 + 1 then some (.int (-(whole : Int))) else asFloat
    else if whole ≤ Word.maxUInt64 then some (.int whole) else asFloat
  | _, _ => asFloat

def readNumber : Reader Number := fun s => do
  let (n, r) ← readNumeral s
  let x ← n.value?
  some (x, r)

/-- Items up to the closing bracket; at least one stands here. -/
def readItems {α : Type} (p : Reader α) : Nat → Reader (List α)
  | 0, _ => none
  | fuel + 1, s => do
    let (x, r) ← p s
    match skipGaps r with
    | ',' :: r => do
      let (xs, r) ← readItems p fuel r
      some (x :: xs, r)
    | ']' :: r => some ([x], r)
    | _ => none

/-- What follows the opening bracket of an array. -/
def readArray {α : Type} (p : Reader α) (fuel : Nat) : Reader (List α) := fun s =>
  match skipGaps s with
  | ']' :: r => some ([], r)
  | r => readItems p fuel r

/-- Members up to the closing brace, in the order of the text; how a value is read may hang on its
name. -/
def readMembers {κ α : Type} (name : Reader κ) (p : κ → Reader α) : Nat → Reader (List (κ × α))
  | 0, _ => none
  | fuel + 1, s => do
    let (k, r) ← name (skipGaps s)
    match skipGaps r with
    | ':' :: r => do
      let (v, r) ← p k r
      match skipGaps r with
      | ',' :: r => do
        let (ms, r) ← readMembers name p fuel r
        some ((k, v) :: ms, r)
      | '}' :: r => some ([(k, v)], r)
      | _ => none
    | _ => none

/-- What follows the opening brace of an object. -/
def readObject {κ α : Type} (name : Reader κ) (p : κ → Reader α) (fuel : Nat) :
    Reader (List (κ × α)) := fun s =>
  match skipGaps s with
  | '}' :: r => some ([], r)
  | r => readMembers name p fuel r

def readScalar (s : List Char) : Option (Json × List Char) :=
  match s with
  | 'n' :: 'u' :: 'l' :: 'l' :: r => some (.null, r)
  | 't' :: 'r' :: 'u' :: 'e' :: r => some (.bool true, r)
  | 'f' :: 'a' :: 'l' :: 's' :: 'e' :: r => some (.bool false, r)
  | '"' :: r => (readString ('"' :: r)).map fun (x, r) => (.string x, r)
  | r => (readNumber r).map fun (x, r) => (.number x, r)

/-- A value whose containers nest at most `depth` deep. Of members with one name the last counts. -/
def readValue (fuel : Nat) : Nat → Reader Json
  | 0, s =>
    match skipGaps s with
    | '[' :: _ => none
    | '{' :: _ => none
    | r => readScalar r
  | depth + 1, s =>
    match skipGaps s with
    | '[' :: r => (readArray (readValue fuel depth) fuel r).map fun (xs, r) => (.array xs, r)
    | '{' :: r => (readObject readString (fun _ => readValue fuel depth) fuel r).map fun (ms, r) =>
        (.object (Table.ofList ms), r)
    | r => readScalar r

def maxDepth : Nat := 127

/-- Runs a reader on a whole text: nothing but gaps may follow. -/
def whole? {α : Type} (p : Reader α) (s : List Char) : Option α := do
  let (x, r) ← p s
  if (skipGaps r).isEmpty then some x else none

/-- The value that a text spells. -/
def read? (s : String) : Option Json :=
  whole? (readValue (s.length + 1) maxDepth) s.toList

/-- The members of the object that a text spells, repeated names included. -/
def readMembers? (s : String) : Option (List (String × Json)) :=
  let fuel := s.length + 1
  whole? (fun cs => match skipGaps cs with
    | '{' :: r => readObject readString (fun _ => readValue fuel (maxDepth - 1)) fuel r
    | _ => none) s.toList

end FleetBridge.Json
