/-!
Tables list each key once, in increasing order of keys. Text keys are ordered by code point, which
is also the order of their bytes.
-/
namespace FleetBridge

abbrev Table (κ α : Type) := List (κ × α)

namespace Table

variable {κ α β : Type} [DecidableEq κ] [LT κ] [DecidableLT κ]

/-- Files a value under its key; a value that was filed there before is replaced. -/
def put (k : κ) (v : α) : Table κ α → Table κ α
  | [] => [(k, v)]
  | (k', v') :: r =>
    if k = k' then (k, v) :: r
    else if k < k' then (k, v) :: (k', v') :: r
    else (k', v') :: put k v r

def get? (k : κ) : Table κ α → Option α
  | [] => none
  | (k', v') :: r => if k = k' then some v' else get? k r

def erase (k : κ) : Table κ α → Table κ α
  | [] => []
  | (k', v') :: r => if k = k' then r else (k', v') :: erase k r

/-- The table of a list of entries; of several entries with one key the last counts. -/
def ofList (entries : List (κ × α)) : Table κ α :=
  entries.foldl (fun t e => t.put e.1 e.2) []

def keys (t : Table κ α) : List κ := t.map Prod.fst

end Table
end FleetBridge
