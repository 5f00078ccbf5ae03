import FleetBridge.Table
import FleetBridge.Word

/-!
JSON values. Whole numbers stay integers as long as they fit 64 bits; the members of an object are
a table by name.
-/
namespace FleetBridge

inductive Json.Number where
  | int (n : Int)
  | float (x : Float)

inductive Json where
  | null
  | bool (b : Bool)
  | number (n : Json.Number)
  | string (s : String)
  | array (items : List Json)
  | object (members : List (String × Json))

namespace Json

abbrev Members := Table String Json

def Number.toFloat : Number → Float
  | .int (.ofNat n) => Float.ofScientific n false 0
  | .int (.negSucc n) => -Float.ofScientific (n + 1) false 0
  | .float x => x

/-- An integer of 64 signed bits. -/
def int64? : Json → Option Int
  | .number (.int n) => if Word.fitsInt64 n then some n else none
  | _ => none

def string? : Json → Option String
  | .string s => some s
  | _ => none

end Json
end FleetBridge
