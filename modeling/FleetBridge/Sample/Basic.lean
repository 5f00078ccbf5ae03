import FleetBridge.Json.Basic

/-!
A sample is what the store keeps of one telemetry message: the leaves of its JSON document, each
under the path that leads to it.
-/
namespace FleetBridge

inductive Field where
  | float (x : Float)
  | boolean (b : Bool)
  | text (s : String)

structure Sample where
  measurement : String
  tags : Table String String
  fields : Table String Field
  /-- Milliseconds since the epoch. -/
  time : Int

namespace Sample

/-- The name of a field below another name; at the top of a document names stand alone. -/
def below (spot : Option String) (name : String) : String :=
  match spot with
  | none => name
  | some s => s ++ "." ++ name

mutual

/-- Files the leaves of a document in the order of its text, nulls left out. A leaf's name is the
way that leads to it; a document that is a leaf itself is called `value`. -/
def flatten (spot : Option String) (document : Json) (fields : Table String Field) :
    Table String Field :=
  match document with
  | .null => fields
  | .bool b => fields.put (spot.getD "value") (.boolean b)
  | .number n => fields.put (spot.getD "value") (.float n.toFloat)
  | .string s => fields.put (spot.getD "value") (.text s)
  | .array xs => flattenItems spot 0 xs fields
  | .object ms => flattenMembers spot ms fields

def flattenItems (spot : Option String) (index : Nat) (items : List Json)
    (fields : Table String Field) : Table String Field :=
  match items with
  | [] => fields
  | x :: r =>
    flattenItems spot (index + 1) r (flatten (some (below spot (toString index))) x fields)

def flattenMembers (spot : Option String) (members : List (String × Json))
    (fields : Table String Field) : Table String Field :=
  match members with
  | [] => fields
  | (k, x) :: r => flattenMembers spot r (flatten (some (below spot k)) x fields)

end

/-- Of several leaves with one name the last counts. -/
def fieldsOf (document : Json) : Table String Field := flatten none document []

/-- The sample of a document; a document without leaves has none. -/
def ofJson? (measurement : String) (tags : Table String String) (document : Json) (time : Int) :
    Option Sample :=
  match fieldsOf document with
  | [] => none
  | fields => some ⟨measurement, tags, fields, time⟩

end Sample
end FleetBridge
