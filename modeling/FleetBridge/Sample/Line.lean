import FleetBridge.Decimal.Layout
import FleetBridge.Sample.Basic

/-!
A sample as one line of text: measurement and tags, then the fields, then the time. A backslash
stands before each character that would end a name or a quoted text.
-/
namespace FleetBridge.Sample

def escape (special : List Char) (s : List Char) : List Char :=
  s.flatMap fun c => if c ∈ special then ['\\', c] else [c]

def measurementEnds : List Char := [',', ' ']

def nameEnds : List Char := [',', '=', ' ']

def textEnds : List Char := ['"', '\\']

def nameText (s : String) : List Char := escape nameEnds s.toList

def boolText (b : Bool) : List Char := (if b then "true" else "false").toList

def fieldText : Field → List Char
  | .float x => (Decimal.Layout.sample.text x).toList
  | .boolean b => boolText b
  | .text s => '"' :: (escape textEnds s.toList ++ ['"'])

/-- A tag without a value is left out. -/
def tagText (t : String × String) : List Char :=
  if t.2.isEmpty then [] else ',' :: (nameText t.1 ++ '=' :: nameText t.2)

def entryText (f : String × Field) : List Char := nameText f.1 ++ '=' :: fieldText f.2

def lineChars (s : Sample) : List Char :=
  escape measurementEnds s.measurement.toList ++ s.tags.flatMap tagText ++ ' ' ::
    ([','].intercalate (s.fields.map entryText) ++ ' ' :: Decimal.integerText s.time)

def line (s : Sample) : String := String.ofList s.lineChars

end FleetBridge.Sample
