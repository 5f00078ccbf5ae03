import FleetBridge.Backoff
import FleetBridge.Net.Address
import FleetBridge.Settings.Fault
import FleetBridge.Subject
import FleetBridge.Text.Blank
import FleetBridge.Text.Split
import FleetBridge.Url.Reader

/-!
Reading the value of one variable. Blanks around a value do not count, but a complaint shows the
value as it was given.
-/
namespace FleetBridge.Setting

abbrev Read (α : Type) := String → Except SettingFlaw α

def positive (s : String) : Except SettingFlaw Nat :=
  match Decimal.readNat? Word.maxUInt64 (Text.trim s) with
  | none => .error .notAnInteger
  | some 0 => .error .mustBePositive
  | some n => .ok n

def millis : Read Duration := fun s => (positive s).map Duration.ofMillis

def count : Read Nat := positive

/-- A limit on reconnects; a negative one is no limit. -/
def reconnects : Read (Option Nat) := fun s =>
  match Decimal.readInt64? (Text.trim s) with
  | none => .error .notAnInteger
  | some n => .ok (if n < 0 then none else some n.toNat)

/-- A finite factor that does not shrink. -/
def factor : Read Float := fun s =>
  match Decimal.readDouble? (Text.trim s) with
  | none => .error .notANumber
  | some x => if !x.isFinite || x < 1.0 then .error .mustBeAtLeastOne else .ok x

def listenAddress : Read Net.SocketAddress := fun s =>
  match Net.SocketAddress.ofText? (Text.trim s) with
  | none => .error .notASocketAddress
  | some a => .ok a

/-- An absolute URL with one of the given schemes that names a host. -/
def url (schemes : List String) : Read Url := fun s =>
  match Url.ofText? (Text.trim s) with
  | none => .error .malformedUrl
  | some u =>
    if u.scheme ∉ schemes then .error .unsupportedScheme
    else if u.hostText.isEmpty then .error .missingHost
    else .ok u

/-- The members of a list with commas, blanks and repetitions left out. -/
def unitIds (s : String) : List String :=
  Text.distinct (((Text.pieces ',' s).map Text.trim).filter fun x => !x.isEmpty)

def isWildcardOrSpace (c : Char) : Bool := c = '*' || c = '>' || c = ' '

/-- The tokens between a unit and its topics. Dots at the ends are dropped after the check. -/
def subject : Read String := fun s =>
  let t := Text.trim s
  if t.isEmpty || t.toList.any isWildcardOrSpace then .error .invalidSubject
  else .ok (Text.strip (· = '.') t)

end FleetBridge.Setting
