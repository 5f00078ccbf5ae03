/-!
Case mapping of the twenty-six ASCII letters; every other character stays as it is.
-/
namespace FleetBridge.Text

def asciiUpper (s : String) : String := String.ofList (s.toList.map Char.toUpper)

def asciiLower (s : String) : String := String.ofList (s.toList.map Char.toLower)

end FleetBridge.Text
