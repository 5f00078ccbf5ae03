/-!
Cutting a text at a separator and joining pieces again.
-/
namespace FleetBridge.Text

/-- The pieces between the separators, empty ones included: there is always one more piece than
there are separators. -/
def pieces (sep : Char) (s : String) : List String :=
  (s.toList.splitOn sep).map String.ofList

/-- The text before the first occurrence of a character, and the text after it if there is one. -/
def cutAt (p : Char → Bool) : List Char → List Char × Option (List Char)
  | [] => ([], none)
  | c :: r => if p c then ([], some r) else let (a, b) := cutAt p r; (c :: a, b)

/-- Drops a leading text. -/
def dropLead? : List Char → List Char → Option (List Char)
  | [], s => some s
  | _ :: _, [] => none
  | c :: lead, d :: s => if c = d then dropLead? lead s else none

/-- Keeps the first occurrence of each member. -/
def distinct {α : Type} [DecidableEq α] (xs : List α) : List α :=
  xs.foldl (fun kept x => if x ∈ kept then kept else kept ++ [x]) []

end FleetBridge.Text
