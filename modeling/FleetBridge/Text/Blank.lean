/-!
Blank characters are those of the Unicode property White_Space. Trimming drops them at both ends
and keeps them inside.
-/
namespace FleetBridge.Text

/-- The code points of White_Space, as inclusive ranges. -/
def blankRanges : List (Nat × Nat) :=
  [(0x09, 0x0d), (0x20, 0x20), (0x85, 0x85), (0xa0, 0xa0), (0x1680, 0x1680), (0x2000, 0x200a),
    (0x2028, 0x2029), (0x202f, 0x202f), (0x205f, 0x205f), (0x3000, 0x3000)]

def isBlankChar (c : Char) : Bool :=
  blankRanges.any fun r => r.1 ≤ c.toNat && c.toNat ≤ r.2

/-- Drops the characters of a class at both ends. -/
def stripChars (p : Char → Bool) (s : List Char) : List Char :=
  ((s.dropWhile p).reverse.dropWhile p).reverse

def strip (p : Char → Bool) (s : String) : String :=
  String.ofList (stripChars p s.toList)

def trim (s : String) : String := strip isBlankChar s

/-- Nothing is left of a blank text after trimming. -/
def isBlank (s : String) : Bool := s.toList.all isBlankChar

end FleetBridge.Text
