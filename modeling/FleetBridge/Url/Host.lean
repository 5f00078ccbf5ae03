import FleetBridge.Net.Address
import FleetBridge.Url.Domain

/-!
The host of a URL. For schemes with a default port it is a domain name or an internet address; for
other schemes it is an opaque text or a version six address.
-/
namespace FleetBridge.Url

inductive Host where
  | name (s : String)
  | v4 (address : Nat)
  | v6 (groups : List Nat)
  deriving DecidableEq, Repr

namespace Host

def text : Host → String
  | name s => s
  | v4 n => Net.dotted (n / 256 / 256 / 256) (n / 256 / 256 % 256) (n / 256 % 256) (n % 256)
  | v6 gs => "[" ++ Net.groupsText gs ++ "]"

def ofBrackets? (s : List Char) : Option Host :=
  if s.getLast? = some ']' then
    match Net.ipv6 (s.drop 1).dropLast with
    | some (.v6 gs, []) => some (v6 gs)
    | _ => none
  else none

/-- A part of a version four address: decimal, octal after a zero, or hexadecimal after `0x`. -/
def part? (s : List Char) : Option Nat :=
  let read (base : Nat) (digits : List Char) : Option Nat :=
    digits.foldl (fun n c => do
      let d ← Text.hexValue? c
      if d < base then some (base * (← n) + d) else none) (some 0)
  match s with
  | [] => none
  | '0' :: 'x' :: r => read 16 r
  | '0' :: 'X' :: r => read 16 r
  | ['0'] => some 0
  | '0' :: r => read 8 r
  | r => read 10 r

/-- Parts of an address, a last empty one left out. -/
def parts (s : List Char) : List (List Char) :=
  let ps := s.splitOn '.'
  if ps.getLast? = some [] then ps.dropLast else ps

/-- Whether a domain name is meant as a version four address. -/
def endsInNumber (s : List Char) : Bool :=
  match (parts s).getLast? with
  | some p => (!p.isEmpty && p.all Decimal.isDigit) || (part? p).isSome
  | none => false

/-- One to four numbers; the last fills the bytes that the others leave. -/
def ipv4? (s : List Char) : Option Nat := do
  let ps := parts s
  if 4 < ps.length then none
  else
    let ns ← ps.mapM part?
    let last ← ns.getLast?
    let front := ns.dropLast
    if Nat.pow 256 (4 - front.length) ≤ last ∨ front.any (255 < ·) then none
    else some (front.zipIdx.foldl (fun n (x, i) => n + x * Nat.pow 256 (3 - i)) last)

def ofDomain? (s : List Char) : Option Host := do
  let d ← Domain.ofText? (String.ofList s)
  if d.isEmpty then none
  else if endsInNumber d.toList then (ipv4? d.toList).map v4
  else some (name d)

/-- Characters that an opaque host may not hold. -/
def isForbidden (c : Char) : Bool :=
  c ∈ ['\x00', '\t', '\n', '\r', ' ', '#', '/', ':', '<', '>', '?', '@', '[', '\\', ']', '^', '|']

def ofOpaque? (s : List Char) : Option Host :=
  if s.any isForbidden then none
  else some (name (String.ofList (Text.percentEncode Text.isControl s)))

def ofText? (special : Bool) (s : List Char) : Option Host :=
  if s.head? = some '[' then ofBrackets? s
  else if special then ofDomain? s
  else ofOpaque? s

end Host
end FleetBridge.Url
