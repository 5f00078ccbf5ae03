import FleetBridge.Json.Reader
import FleetBridge.Payload

/-!
Passing over a value whose content does not matter. Its text must have the shape of JSON, but it may
nest to any depth, its numbers may be of any size, and its strings may hold half a surrogate pair
and bytes that encode no character.
-/
namespace FleetBridge.Json

/-- The rest after the closing quote of a string. -/
def skimString : List Char → Option (List Char)
  | [] => none
  | '"' :: r => some r
  | '\\' :: 'u' :: a :: b :: c :: d :: r => if (unit? a b c d).isSome then skimString r else none
  | '\\' :: c :: r => if (escape? c).isSome then skimString r else none
  | c :: r => if c.toNat < 0x20 && c ≠ Payload.stray then none else skimString r

def skimQuoted : Reader Unit
  | '"' :: r => (skimString r).map fun r => ((), r)
  | _ => none

def skim (fuel : Nat) : Nat → Reader Unit
  | 0, _ => none
  | depth + 1, s =>
    match skipGaps s with
    | 'n' :: 'u' :: 'l' :: 'l' :: r => some ((), r)
    | 't' :: 'r' :: 'u' :: 'e' :: r => some ((), r)
    | 'f' :: 'a' :: 'l' :: 's' :: 'e' :: r => some ((), r)
    | '"' :: r => skimQuoted ('"' :: r)
    | '[' :: r => (readArray (skim fuel depth) fuel r).map fun (_, r) => ((), r)
    | '{' :: r => do
      let (_, r) ← readObject skimQuoted (fun _ => skim fuel depth) fuel r
      some ((), r)
    | r => (readNumeral r).map fun (_, r) => ((), r)

end FleetBridge.Json
