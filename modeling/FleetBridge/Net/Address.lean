import FleetBridge.Decimal.Layout
import FleetBridge.Decimal.Numeral
import FleetBridge.Text.Hex

/-!
Internet addresses, and the addresses that a server listens on: reading them and writing them.
-/
namespace FleetBridge.Net

/-- A reader takes something off the front of a text, or refuses. -/
abbrev Reader (α : Type) := List Char → Option (α × List Char)

inductive Ip where
  | v4 (a b c d : Nat)
  /-- Eight groups of sixteen bits. -/
  | v6 (groups : List Nat)
  deriving DecidableEq, Repr

structure SocketAddress where
  ip : Ip
  /-- Which interface a version six address belongs to; zero if that is left open. -/
  scope : Nat
  port : Nat
  deriving DecidableEq, Repr

def exactly (c : Char) : Reader Unit
  | d :: r => if c = d then some ((), r) else none
  | [] => none

def decimal (most : Nat) : Reader Nat := fun s =>
  let digits := s.takeWhile Decimal.isDigit
  let n := Decimal.valueOf digits
  if digits.isEmpty || most < n then none else some (n, s.dropWhile Decimal.isDigit)

/-- One to three digits without a leading zero, at most 255. -/
def octet : Reader Nat := fun s =>
  let digits := s.takeWhile Decimal.isDigit
  if 3 < digits.length || (1 < digits.length && digits.head? = some '0') then none
  else decimal 255 s

def ipv4 : Reader Ip := fun s => do
  let (a, s) ← octet s
  let (_, s) ← exactly '.' s
  let (b, s) ← octet s
  let (_, s) ← exactly '.' s
  let (c, s) ← octet s
  let (_, s) ← exactly '.' s
  let (d, s) ← octet s
  some (.v4 a b c d, s)

/-- One to four hexadecimal digits. -/
def group : Reader Nat := fun s =>
  let digits := s.takeWhile fun c => (Text.hexValue? c).isSome
  if digits.isEmpty || 4 < digits.length then none
  else some (digits.foldl (fun n c => 16 * n + (Text.hexValue? c).getD 0) 0, s.drop digits.length)

/-- Reads after a colon unless it is the first. -/
def separated {α : Type} (first : Bool) (p : Reader α) : Reader α := fun s =>
  if first then p s else do
    let (_, s) ← exactly ':' s
    p s

/-- At most `room` groups with colons between them. The last two may be written as a version four
address, which the flag in the result reports. -/
def groups : Nat → Bool → List Char → List Nat × Bool × List Char
  | 0, _, s => ([], false, s)
  | room + 1, first, s =>
    let mapped := if room = 0 then none else separated first ipv4 s
    match mapped with
    | some (.v4 a b c d, r) => ([a * 256 + b, c * 256 + d], true, r)
    | _ => match separated first group s with
      | some (g, r) =>
        let (gs, v4, r) := groups room false r
        (g :: gs, v4, r)
      | none => ([], false, s)

/-- Eight groups, or fewer with one double colon that stands for the missing ones. -/
def ipv6 : Reader Ip := fun s =>
  let (front, v4, r) := groups 8 true s
  if front.length = 8 then some (.v6 front, r)
  else if v4 then none
  else do
    let (_, r) ← exactly ':' r
    let (_, r) ← exactly ':' r
    let (back, _, r) := groups (7 - front.length) true r
    some (.v6 (front ++ List.replicate (8 - front.length - back.length) 0 ++ back), r)

def port : Reader Nat := decimal 65535

def socketV4 : Reader SocketAddress := fun s => do
  let (ip, s) ← ipv4 s
  let (_, s) ← exactly ':' s
  let (p, s) ← port s
  some (⟨ip, 0, p⟩, s)

def scope : Reader Nat
  | '%' :: r => decimal Word.maxUInt32 r
  | r => some (0, r)

def socketV6 : Reader SocketAddress := fun s => do
  let (_, s) ← exactly '[' s
  let (ip, s) ← ipv6 s
  let (zone, s) ← scope s
  let (_, s) ← exactly ']' s
  let (_, s) ← exactly ':' s
  let (p, s) ← port s
  some (⟨ip, zone, p⟩, s)

def whole? {α : Type} (p : Reader α) (s : String) : Option α :=
  match p s.toList with
  | some (x, []) => some x
  | _ => none

def SocketAddress.ofText? (s : String) : Option SocketAddress :=
  whole? socketV4 s <|> whole? socketV6 s

/-- Where the first longest run of zero groups starts and how long it is. -/
def zeroRun : Nat → List Nat → Nat × Nat
  | _, [] => (0, 0)
  | i, g :: r =>
    let here := ((g :: r).takeWhile (· = 0)).length
    let later := zeroRun (i + 1) r
    if later.2 ≤ here then (i, here) else later

def hexText (n : Nat) : String := String.ofList (Nat.toDigits 16 n)

def colons (gs : List Nat) : String := String.intercalate ":" (gs.map hexText)

/-- Groups in hexadecimal; a run of two or more zero groups is left out. -/
def groupsText (gs : List Nat) : String :=
  let (start, length) := zeroRun 0 gs
  if length < 2 then colons gs
  else colons (gs.take start) ++ "::" ++ colons (gs.drop (start + length))

def dotted (a b c d : Nat) : String := s!"{a}.{b}.{c}.{d}"

/-- A version six address that stands for a version four address shows it. -/
def Ip.text : Ip → String
  | .v4 a b c d => dotted a b c d
  | .v6 [0, 0, 0, 0, 0, 0xffff, x, y] =>
    "::ffff:" ++ dotted (x / 256) (x % 256) (y / 256) (y % 256)
  | .v6 gs => groupsText gs

def SocketAddress.text (a : SocketAddress) : String :=
  match a.ip with
  | .v4 .. => s!"{a.ip.text}:{a.port}"
  | .v6 _ =>
    let zone := if a.scope = 0 then "" else s!"%{a.scope}"
    s!"[{a.ip.text}{zone}]:{a.port}"

end FleetBridge.Net
