import FleetBridge.Text.Hex

/-!
Percent encoding: a byte is written as a percent sign and two hexadecimal digits.
-/
namespace FleetBridge.Text

def percentByte (b : UInt8) : List Char :=
  ['%', upperHex (b.toNat / 16), upperHex (b.toNat % 16)]

/-- Encodes the bytes of the characters of a class. -/
def percentEncode (p : Char → Bool) (s : List Char) : List Char :=
  s.flatMap fun c =>
    if p c then (String.singleton c).toUTF8.toList.flatMap percentByte else [c]

def decodeBytes : List UInt8 → List UInt8
  | 0x25 :: a :: b :: r =>
    match hexValue? (Char.ofNat a.toNat), hexValue? (Char.ofNat b.toNat) with
    | some x, some y => UInt8.ofNat (16 * x + y) :: decodeBytes r
    | _, _ => 0x25 :: decodeBytes (a :: b :: r)
  | b :: r => b :: decodeBytes r
  | [] => []

/-- The bytes of a text with its encoded bytes restored; a percent sign without two hexadecimal
digits stands for itself. -/
def percentDecode (s : String) : ByteArray := ⟨(decodeBytes s.toUTF8.toList).toArray⟩

/-- Control characters, and everything beyond ASCII. -/
def isControl (c : Char) : Bool := c.toNat < 0x20 || 0x7f ≤ c.toNat

end FleetBridge.Text
