import FleetBridge.Text.Hex

/-!
Tables over code points. A table is written as text: its entries come in increasing order, and each
is a code point in hexadecimal, or the first and last of a range, and what is filed under it.
-/
namespace FleetBridge.Text

structure Range (α : Type) where
  first : Nat
  last : Nat
  value : α

/-- Ranges that do not overlap, in increasing order. -/
abbrev Ranges (α : Type) := Array (Range α)

/-- The number at the front of a text, and what follows. -/
def hexNumber (s : List Char) : Nat × List Char :=
  let digits := s.takeWhile fun c => (hexValue? c).isSome
  (digits.foldl (fun n c => 16 * n + (hexValue? c).getD 0) 0, s.drop digits.length)

/-- One entry of a table, whose value follows the code points. -/
def Range.ofText {α : Type} (read : List Char → α) (s : List Char) : Range α :=
  match hexNumber s with
  | (first, '-' :: r) =>
    let (last, more) := hexNumber r
    ⟨first, last, read more⟩
  | (first, r) => ⟨first, first, read r⟩

namespace Ranges

def ofText {α : Type} (read : List Char → α) (s : String) : Ranges α :=
  (((s.toList.splitOnP Char.isWhitespace).filter fun e => !e.isEmpty).map
    (Range.ofText read)).toArray

/-- A set of code points. -/
def set (s : String) : Ranges Unit := ofText (fun _ => ()) s

/-- The range of a code point among those from place `low` up to place `high`, whose number each
step halves. -/
def search {α : Type} (t : Ranges α) (n : Nat) : Nat → Nat → Nat → Option (Range α)
  | 0, _, _ => none
  | steps + 1, low, high =>
    let middle := low + (high - low) / 2
    if low < high then
      match t[middle]? with
      | none => none
      | some r =>
        if n < r.first then search t n steps low middle
        else if r.last < n then search t n steps (middle + 1) high
        else some r
    else none

/-- The range that a code point is in. -/
def find? {α : Type} (t : Ranges α) (n : Nat) : Option (Range α) :=
  search t n (Nat.log2 t.size + 1) 0 t.size

def value? {α : Type} (t : Ranges α) (c : Char) : Option α := (t.find? c.toNat).map Range.value

def holds {α : Type} (t : Ranges α) (c : Char) : Bool := (t.find? c.toNat).isSome

end Ranges
end FleetBridge.Text
