import FleetBridge.Json.Basic
import FleetBridge.Decimal.Layout
import FleetBridge.Text.Hex

/-!
Writing JSON text without any gap. Only quotes, backslashes and control characters are escaped.
-/
namespace FleetBridge.Json

/-- How one character of a string is written. -/
def writeChar (c : Char) : List Char :=
  if c = '"' then ['\\', '"']
  else if c = '\\' then ['\\', '\\']
  else if c.toNat < 0x20 then
    if c = '\x08' then ['\\', 'b']
    else if c = '\t' then ['\\', 't']
    else if c = '\n' then ['\\', 'n']
    else if c = '\x0c' then ['\\', 'f']
    else if c = '\r' then ['\\', 'r']
    else ['\\', 'u', '0', '0', Text.lowerHex (c.toNat / 16), Text.lowerHex (c.toNat % 16)]
  else [c]

def writeString (s : String) : List Char := '"' :: (s.toList.flatMap writeChar ++ ['"'])

def writeNumber : Number → List Char
  | .int n => Decimal.integerText n
  | .float x => (Decimal.Layout.json.text x).toList

/-- Pieces with commas between them. -/
def commas : List (List Char) → List Char
  | [] => []
  | [x] => x
  | x :: y :: r => x ++ ',' :: commas (y :: r)

mutual

def write : Json → List Char
  | .null => ['n', 'u', 'l', 'l']
  | .bool true => ['t', 'r', 'u', 'e']
  | .bool false => ['f', 'a', 'l', 's', 'e']
  | .number n => writeNumber n
  | .string s => writeString s
  | .array xs => '[' :: (commas (writeItems xs) ++ [']'])
  | .object ms => '{' :: (commas (writeMembers ms) ++ ['}'])

def writeItems : List Json → List (List Char)
  | [] => []
  | x :: r => write x :: writeItems r

def writeMembers : List (String × Json) → List (List Char)
  | [] => []
  | (k, v) :: r => (writeString k ++ ':' :: write v) :: writeMembers r

end

def text (j : Json) : String := String.ofList (write j)

end FleetBridge.Json
