import FleetBridge.Text.Percent

/-!
Names and values as the query of a form: a plus sign stands for a space, and whatever is not a
letter, a digit or one of four marks is percent encoded.
-/
namespace FleetBridge.Text

def isFormPlain (c : Char) : Bool := c.isAlphanum || c ∈ ['*', '-', '.', '_']

def formEncode (s : String) : List Char :=
  s.toList.flatMap fun c =>
    if c = ' ' then ['+'] else percentEncode (fun c => !isFormPlain c) [c]

def formPair (p : String × String) : List Char := formEncode p.1 ++ '=' :: formEncode p.2

def formText (pairs : List (String × String)) : String :=
  String.ofList (['&'].intercalate (pairs.map formPair))

end FleetBridge.Text
