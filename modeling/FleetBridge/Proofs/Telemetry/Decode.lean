import FleetBridge.Proofs.Table
import FleetBridge.Telemetry.Decode

/-!
Which messages make samples, and for which unit.
-/
namespace FleetBridge

namespace Json

mutual

/-- Whether something in the document is worth storing: a leaf that is not null. -/
def hasLeaf : Json → Bool
  | .null => false
  | .bool _ => true
  | .number _ => true
  | .string _ => true
  | .array xs => hasLeafItem xs
  | .object ms => hasLeafMember ms

def hasLeafItem : List Json → Bool
  | [] => false
  | x :: r => hasLeaf x || hasLeafItem r

def hasLeafMember : List (String × Json) → Bool
  | [] => false
  | (_, x) :: r => hasLeaf x || hasLeafMember r

end

end Json

theorem Table.put_ne_nil {κ α : Type} [DecidableEq κ] [LT κ] [DecidableLT κ] (k : κ) (v : α)
    (t : Table κ α) : t.put k v ≠ [] := by
  cases t with
  | nil => exact List.cons_ne_nil _ _
  | cons x t =>
    rw [Table.put]
    split
    · exact List.cons_ne_nil _ _
    · split <;> exact List.cons_ne_nil _ _

namespace Sample

mutual

/-- Every leaf is filed, and nothing that was filed is lost. -/
theorem flatten_eq_nil_iff (spot : Option String) (document : Json) (fields : Table String Field) :
    flatten spot document fields = [] ↔ fields = [] ∧ document.hasLeaf = false := by
  cases document with
  | null => simp [flatten, Json.hasLeaf]
  | bool b => simp [flatten, Json.hasLeaf, Table.put_ne_nil]
  | number n => simp [flatten, Json.hasLeaf, Table.put_ne_nil]
  | string s => simp [flatten, Json.hasLeaf, Table.put_ne_nil]
  | array xs =>
    rw [flatten, Json.hasLeaf]
    exact flattenItems_eq_nil_iff spot 0 xs fields
  | object ms =>
    rw [flatten, Json.hasLeaf]
    exact flattenMembers_eq_nil_iff spot ms fields

theorem flattenItems_eq_nil_iff (spot : Option String) (index : Nat) (items : List Json)
    (fields : Table String Field) :
    flattenItems spot index items fields = [] ↔
      fields = [] ∧ Json.hasLeafItem items = false := by
  cases items with
  | nil => simp [flattenItems, Json.hasLeafItem]
  | cons x r =>
    rw [flattenItems, Json.hasLeafItem, flattenItems_eq_nil_iff, flatten_eq_nil_iff,
      Bool.or_eq_false_iff, and_assoc]

theorem flattenMembers_eq_nil_iff (spot : Option String) (members : List (String × Json))
    (fields : Table String Field) :
    flattenMembers spot members fields = [] ↔
      fields = [] ∧ Json.hasLeafMember members = false := by
  cases members with
  | nil => simp [flattenMembers, Json.hasLeafMember]
  | cons m r =>
    obtain ⟨k, x⟩ := m
    rw [flattenMembers, Json.hasLeafMember, flattenMembers_eq_nil_iff, flatten_eq_nil_iff,
      Bool.or_eq_false_iff, and_assoc]

end

theorem ofJson?_isSome_iff (measurement : String) (tags : Table String String) (document : Json)
    (time : Int) : (ofJson? measurement tags document time).isSome ↔ document.hasLeaf = true := by
  have hnil := flatten_eq_nil_iff none document []
  simp only [true_and] at hnil
  rw [ofJson?, fieldsOf]
  split
  next h => simp [hnil.mp h]
  next h => simpa using fun hleaf => h (hnil.mpr hleaf)

theorem tags_of_ofJson? {measurement : String} {tags : Table String String} {document : Json}
    {time : Int} {x : Sample} (h : ofJson? measurement tags document time = some x) :
    x.tags = tags := by
  rw [ofJson?] at h
  split at h
  next => cases h
  next => cases h; rfl

/-- The unit that the sample is from. -/
def unit? (x : Sample) : Option String := x.tags.get? "unit_id"

end Sample

namespace Telemetry

/-- The payload is a JSON document with a leaf that is not null. -/
def Readable (m : Message) : Prop :=
  ∃ j, m.payload.text?.bind Json.read? = some j ∧ j.hasLeaf = true

variable {p : Profile} {m : Message} {time : Int} {x : Sample}

theorem sample?_isSome_iff (p : Profile) (m : Message) (time : Int) :
    (sample? p m time).isSome ↔ Readable m := by
  unfold sample? Readable
  cases m.payload.text?.bind Json.read? with
  | none => simp
  | some j => simpa using Sample.ofJson?_isSome_iff p.bucket (tags p m) j time

/-- A sample bears the unit that its message is from. -/
theorem unit?_of_sample? {u : String} (hu : m.unit? = some u) (h : sample? p m time = some x) :
    x.unit? = some u := by
  unfold sample? at h
  obtain ⟨j, -, hj⟩ := Option.bind_eq_some_iff.mp h
  rw [Sample.unit?, Sample.tags_of_ofJson? hj]
  simp [tags, Table.ofList, hu]

end Telemetry
end FleetBridge
