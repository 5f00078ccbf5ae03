import FleetBridge.Text.Percent
import FleetBridge.Url.Domain.Direction
import FleetBridge.Url.Domain.Joining
import FleetBridge.Url.Domain.Mapping
import FleetBridge.Url.Punycode

/-!
Domain names in ASCII. A name counts in its mapped and composed form; a label that keeps characters
beyond ASCII is written in Punycode, and a label that is written so already must say nothing else.
-/
namespace FleetBridge.Url.Domain

/-- ASCII characters that a domain name may not hold. -/
def isForbidden (c : Char) : Bool :=
  c.toNat ≤ 0x20 || c.toNat = 0x7f || c ∈ "%#/:<>?@[\\]^|".toList

def isAscii (s : List Char) : Bool := s.all fun c => c.toNat < 0x80

/-- The form in which a text counts, unless it has a character that no name may hold. -/
def normal? (s : List Char) : Option (List Char) := do
  let kept ← s.mapM mapped?
  let text := if isAscii s then kept.flatten else composed kept.flatten
  if text.any isForbidden then none else some text

/-- The longest label that is written in Punycode, in characters. -/
def longestLabel : Nat := 1000

/-- The longest text in Punycode that is read. -/
def longestCode : Nat := 2000

/-- The text that a Punycode label stands for. It must be in normal form, and not all ASCII. -/
def decodedLabel? (code : List Char) : Option (List Char) := do
  if longestCode < code.length || !isAscii code then none
  else if code.isEmpty || code.getLast? = some '-' then none
  else
    let label ← Punycode.decode? code
    if normal? label = some label && !label.contains '.' then some label else none

/-- What a label of a name in normal form says. -/
def meaning? (label : List Char) : Option (List Char) :=
  match label with
  | 'x' :: 'n' :: '-' :: '-' :: code => decodedLabel? code
  | _ => some label

/-- Whether a label can stand in a name. -/
def isSound (label : List Char) : Bool :=
  isAscii label ||
    (!(label.take 1).any isMark && joinersFit [] label && label.length ≤ longestLabel)

def labelText (label : List Char) : List Char :=
  if isAscii label then label else "xn--".toList ++ Punycode.encode label

/-- The ASCII form of a domain name, in which percent signs encode bytes. -/
def ofText? (s : String) : Option String := do
  let decoded ← String.fromUTF8? (Text.percentDecode s)
  let labels := (← normal? decoded.toList).splitOn '.'
  let meanings ← labels.mapM meaning?
  if meanings.all isSound && (!meanings.any isTwoWay || meanings.all keepsDirection) then
    some (String.ofList (['.'].intercalate (labels.map labelText)))
  else none

end FleetBridge.Url.Domain
