import FleetBridge.Proofs.Json.Readings
import FleetBridge.Proofs.Sample.Record

/-!
The fields of a sample are the leaves of its document, each named by the way that leads to it.
-/
namespace FleetBridge

namespace Json

/-- The leaf one step farther from the top. -/
def under (name : String) (l : List String × Field) : List String × Field := (name :: l.1, l.2)

mutual

/-- The leaves of a document that are not null, in the order of its text, each with the names and
indices on the way to it. -/
def leaves : Json → List (List String × Field)
  | .null => []
  | .bool b => [([], .boolean b)]
  | .number n => [([], .float n.toFloat)]
  | .string s => [([], .text s)]
  | .array xs => leavesOfItems 0 xs
  | .object ms => leavesOfMembers ms

def leavesOfItems (index : Nat) : List Json → List (List String × Field)
  | [] => []
  | x :: r => x.leaves.map (under (toString index)) ++ leavesOfItems (index + 1) r

def leavesOfMembers : List (String × Json) → List (List String × Field)
  | [] => []
  | (k, x) :: r => x.leaves.map (under k) ++ leavesOfMembers r

end

end Json

namespace Sample

open Record Json

/-- The name that a way gets below a spot. -/
def nameFrom (spot : Option String) (way : List String) : String :=
  (way.foldl (fun s n => some (below s n)) spot).getD "value"

def named (spot : Option String) (l : List String × Field) : String × Field :=
  (nameFrom spot l.1, l.2)

def fill (fields : Table String Field) (entries : List (String × Field)) : Table String Field :=
  entries.foldl (fun t e => t.put e.1 e.2) fields

theorem fill_append (fields : Table String Field) (es es' : List (String × Field)) :
    fill fields (es ++ es') = fill (fill fields es) es' :=
  List.foldl_append

theorem map_named_under (spot : Option String) (name : String)
    (ls : List (List String × Field)) :
    (ls.map (under name)).map (named spot) = ls.map (named (some (below spot name))) :=
  List.map_map

mutual

/-- Flattening a document files its leaves one after another. -/
theorem flatten_eq (spot : Option String) (document : Json) (fields : Table String Field) :
    flatten spot document fields = fill fields (document.leaves.map (named spot)) := by
  cases document with
  | null => rfl
  | bool b => rfl
  | number n => rfl
  | string s => rfl
  | array xs => exact flattenItems_eq spot 0 xs fields
  | object ms => exact flattenMembers_eq spot ms fields

theorem flattenItems_eq (spot : Option String) (index : Nat) (items : List Json)
    (fields : Table String Field) :
    flattenItems spot index items fields =
      fill fields ((leavesOfItems index items).map (named spot)) := by
  cases items with
  | nil => rfl
  | cons x r =>
    rw [flattenItems, leavesOfItems, List.map_append, fill_append, map_named_under,
      flatten_eq (some (below spot (toString index))) x, flattenItems_eq spot (index + 1) r]

theorem flattenMembers_eq (spot : Option String) (members : List (String × Json))
    (fields : Table String Field) :
    flattenMembers spot members fields =
      fill fields ((leavesOfMembers members).map (named spot)) := by
  cases members with
  | nil => rfl
  | cons m r =>
    obtain ⟨k, x⟩ := m
    rw [flattenMembers, leavesOfMembers, List.map_append, fill_append, map_named_under,
      flatten_eq (some (below spot k)) x, flattenMembers_eq spot r]

end

theorem fieldsOf_eq (document : Json) :
    fieldsOf document = Table.ofList (document.leaves.map (named none)) :=
  flatten_eq none document []

/-! Names. -/

theorem nameFrom_none_cons (k : String) (r : List String) :
    nameFrom none (k :: r) = nameFrom (some k) r := rfl

theorem toList_nameFrom (s : String) (way : List String) :
    (nameFrom (some s) way).toList = s.toList ++ way.flatMap fun n => '.' :: n.toList := by
  induction way generalizing s with
  | nil => simp [nameFrom]
  | cons n way ih =>
    have hnext : nameFrom (some s) (n :: way) = nameFrom (some (s ++ "." ++ n)) way := rfl
    rw [hnext, ih]
    simp

/-- A way whose name can stand in a line. -/
structure Safe (way : List String) : Prop where
  named : way ≠ [""]
  unbroken : ∀ n ∈ way, '\n' ∉ n.toList
  closed : ∀ n ∈ way.getLast?, Closed n.toList

theorem nameFrom_eq_empty_iff (way : List String) : nameFrom none way = "" ↔ way = [""] := by
  cases way with
  | nil => simp [nameFrom]
  | cons k r =>
    rw [nameFrom_none_cons, ← String.toList_inj, toList_nameFrom]
    cases r <;> simp

theorem newline_mem_nameFrom_iff (way : List String) :
    '\n' ∈ (nameFrom none way).toList ↔ ∃ n ∈ way, '\n' ∈ n.toList := by
  cases way with
  | nil => simp [nameFrom]
  | cons k r =>
    rw [nameFrom_none_cons, toList_nameFrom]
    simp

theorem closed_append_dot (front s : List Char) : Closed (front ++ '.' :: s) ↔ Closed s := by
  cases s with
  | nil => simp [Closed]
  | cons c s => rw [Closed, Closed, List.getLast?_append_cons, List.getLast?_cons_cons]

theorem closed_nameFrom_iff (way : List String) :
    Closed (nameFrom none way).toList ↔ ∀ n ∈ way.getLast?, Closed n.toList := by
  cases way with
  | nil => simp [nameFrom, Closed]
  | cons k r =>
    rw [nameFrom_none_cons, toList_nameFrom]
    rcases List.eq_nil_or_concat r with rfl | ⟨r, n, rfl⟩
    · simp
    · have hsplit : k.toList ++ (r.concat n).flatMap (fun n => '.' :: n.toList) =
          (k.toList ++ r.flatMap fun n => '.' :: n.toList) ++ '.' :: n.toList := by
        simp
      rw [hsplit, closed_append_dot, List.concat_eq_append, ← List.cons_append,
        List.getLast?_concat]
      simp

theorem safe_iff (way : List String) :
    Safe way ↔ nameFrom none way ≠ "" ∧ Clean (nameFrom none way).toList := by
  rw [Clean, newline_mem_nameFrom_iff, closed_nameFrom_iff, Ne, nameFrom_eq_empty_iff]
  push Not
  exact ⟨fun h => ⟨h.named, h.unbroken, h.closed⟩, fun h => ⟨h.1, h.2.1, h.2.2⟩⟩

/-! What is read from a text. -/

mutual

theorem finite_leaves {d : Nat} {document : Json}
    (h : Within (fun n => n.toFloat.isFinite = true) d document) :
    ∀ l ∈ document.leaves, l.2.IsFinite := by
  cases document with
  | null => exact List.forall_mem_nil _
  | bool b => exact List.forall_mem_singleton.mpr trivial
  | number n =>
    cases h with
    | number h => exact List.forall_mem_singleton.mpr h
  | string s => exact List.forall_mem_singleton.mpr trivial
  | array xs =>
    cases h with
    | array h => exact finite_leavesOfItems 0 xs h
  | object ms =>
    cases h with
    | object _ h => exact finite_leavesOfMembers ms h

theorem finite_leavesOfItems {d : Nat} (index : Nat) (items : List Json)
    (h : ∀ x ∈ items, Within (fun n => n.toFloat.isFinite = true) d x) :
    ∀ l ∈ leavesOfItems index items, l.2.IsFinite := by
  cases items with
  | nil => exact List.forall_mem_nil _
  | cons x r =>
    obtain ⟨hx, hr⟩ := List.forall_mem_cons.mp h
    exact List.forall_mem_append.mpr
      ⟨List.forall_mem_map.mpr (finite_leaves hx), finite_leavesOfItems (index + 1) r hr⟩

theorem finite_leavesOfMembers {d : Nat} (members : List (String × Json))
    (h : ∀ m ∈ members, Within (fun n => n.toFloat.isFinite = true) d m.2) :
    ∀ l ∈ leavesOfMembers members, l.2.IsFinite := by
  cases members with
  | nil => exact List.forall_mem_nil _
  | cons m r =>
    obtain ⟨hm, hr⟩ := List.forall_mem_cons.mp h
    exact List.forall_mem_append.mpr
      ⟨List.forall_mem_map.mpr (finite_leaves hm), finite_leavesOfMembers r hr⟩

end

theorem finite_fieldsOf {text : String} {document : Json} (h : Json.read? text = some document) :
    ∀ f ∈ fieldsOf document, f.2.IsFinite := by
  rw [fieldsOf_eq]
  intro f hf
  obtain ⟨l, hl, rfl⟩ := List.mem_map.mp (Table.mem_of_mem_ofList hf)
  exact finite_leaves (within_of_read? h) l hl

/-- The names of the fields are those of the ways to the leaves. -/
theorem mem_keys_fieldsOf (document : Json) (k : String) :
    k ∈ (fieldsOf document).keys ↔ ∃ l ∈ document.leaves, nameFrom none l.1 = k := by
  rw [fieldsOf_eq, Table.mem_keys_ofList, List.map_map, List.mem_map]
  rfl

end Sample
end FleetBridge
