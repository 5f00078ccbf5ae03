import FleetBridge.Proofs.Sample.Leaves
import FleetBridge.Telemetry.Decode

/-!
The fields of a document by the paths of its leaves. Without dots in the names of members each leaf
has a path of its own, and the fields are the leaves.
-/
namespace FleetBridge

namespace Json

/-- A property of every object in a document. -/
inductive EachObject (p : List (String × Json) → Prop) : Json → Prop
  | null : EachObject p .null
  | bool (b : Bool) : EachObject p (.bool b)
  | number (n : Number) : EachObject p (.number n)
  | string (s : String) : EachObject p (.string s)
  | array {xs : List Json} (h : ∀ x ∈ xs, EachObject p x) : EachObject p (.array xs)
  | object {ms : List (String × Json)} (hself : p ms) (h : ∀ m ∈ ms, EachObject p m.2) :
      EachObject p (.object ms)

/-- Every object names its members in order, each once. -/
abbrev Sorted : Json → Prop := EachObject Table.Ordered

/-- No member of an object has a name with a dot. -/
abbrev Dotless : Json → Prop := EachObject fun ms => ∀ m ∈ ms, '.' ∉ m.1.toList

theorem Within.sorted {ok : Number → Prop} {d : Nat} {document : Json}
    (h : Within ok d document) : Sorted document := by
  induction h with
  | null => exact .null
  | bool b => exact .bool b
  | number h => exact .number _
  | string s => exact .string s
  | array h ih => exact .array ih
  | object hkeys h ih => exact .object hkeys ih

/-- What is read from a text is in order. -/
theorem sorted_of_read? {text : String} {document : Json} (h : read? text = some document) :
    Sorted document :=
  (within_of_read? h).sorted

/-- The ways to the leaves. -/
def ways (document : Json) : List (List String) := document.leaves.map Prod.fst

theorem map_fst_under (name : String) (ls : List (List String × Field)) :
    (ls.map (under name)).map Prod.fst = (ls.map Prod.fst).map (name :: ·) := by
  rw [List.map_map, List.map_map]
  rfl

/-- The ways through the branches below a place. -/
def through (branches : List (String × Json)) : List (List String) :=
  branches.flatMap fun b => b.2.ways.map (b.1 :: ·)

/-- The items of an array under their indices. -/
def indexed (index : Nat) (items : List Json) : List (String × Json) :=
  (items.zipIdx index).map fun x => (toString x.2, x.1)

theorem ways_object (ms : List (String × Json)) : (Json.object ms).ways = through ms := by
  change (leavesOfMembers ms).map Prod.fst = _
  induction ms with
  | nil => rfl
  | cons m r ih =>
    obtain ⟨k, x⟩ := m
    rw [leavesOfMembers, List.map_append, map_fst_under, ih]
    rfl

theorem ways_items (index : Nat) (xs : List Json) :
    (leavesOfItems index xs).map Prod.fst = through (indexed index xs) := by
  induction xs generalizing index with
  | nil => rfl
  | cons x r ih =>
    rw [leavesOfItems, List.map_append, map_fst_under, ih]
    rfl

theorem ways_array (xs : List Json) : (Json.array xs).ways = through (indexed 0 xs) :=
  ways_items 0 xs

theorem mem_through {branches : List (String × Json)} {way : List String} :
    way ∈ through branches ↔ ∃ b ∈ branches, ∃ r ∈ b.2.ways, b.1 :: r = way := by
  simp [through]

theorem ne_nil_of_mem_through {branches : List (String × Json)} {way : List String}
    (h : way ∈ through branches) : way ≠ [] := by
  obtain ⟨b, -, r, -, rfl⟩ := mem_through.mp h
  exact List.cons_ne_nil b.1 r

theorem snd_mem_of_mem_indexed {index : Nat} {xs : List Json} {b : String × Json}
    (h : b ∈ indexed index xs) : b.2 ∈ xs := by
  obtain ⟨x, hx, rfl⟩ := List.mem_map.mp h
  exact List.fst_mem_of_mem_zipIdx hx

theorem toList_toString (n : Nat) : (toString n).toList = Nat.toDigits 10 n := by
  simp [Nat.toString_eq_repr]

theorem toString_injective : Function.Injective (toString : Nat → String) := by
  intro m n h
  have hdigits := congrArg String.toList h
  rw [toList_toString, toList_toString] at hdigits
  have hvalue := congrArg (Nat.ofDigitChars 10 · 0) hdigits
  simpa [Nat.ofDigitChars_toDigits] using hvalue

theorem dot_notMem_toString (n : Nat) : '.' ∉ (toString n).toList := by
  rw [toList_toString]
  intro h
  exact absurd (Nat.isDigit_of_mem_toDigits (by decide) (by decide) h) (by decide)

theorem dotless_indexed (index : Nat) (xs : List Json) :
    ∀ b ∈ indexed index xs, '.' ∉ b.1.toList := by
  intro b hb
  obtain ⟨x, -, rfl⟩ := List.mem_map.mp hb
  exact dot_notMem_toString x.2

theorem nodup_indexed (index : Nat) (xs : List Json) :
    ((indexed index xs).map Prod.fst).Nodup := by
  have hnames : (indexed index xs).map Prod.fst =
      (List.range' index xs.length).map toString := by
    rw [indexed, List.map_map, ← List.zipIdx_map_snd index xs, List.map_map]
    rfl
  rw [hnames]
  exact List.Nodup.map toString_injective (List.nodup_range' 1)

/-- Branches with different names lead different ways. -/
theorem nodup_through {branches : List (String × Json)} (hnames : (branches.map Prod.fst).Nodup)
    (hbelow : ∀ b ∈ branches, b.2.ways.Nodup) : (through branches).Nodup := by
  refine List.nodup_flatMap.mpr ⟨fun b hb => (hbelow b hb).map (List.cons_injective), ?_⟩
  refine (List.pairwise_map.mp hnames).imp ?_
  intro b b' hne way hway hway'
  obtain ⟨r, -, rfl⟩ := List.mem_map.mp hway
  obtain ⟨r', -, hr⟩ := List.mem_map.mp hway'
  exact hne (List.cons.inj hr).1.symm

theorem nodup_ways {document : Json} (h : Sorted document) : document.ways.Nodup := by
  induction h with
  | null => exact .nil
  | bool b => exact List.nodup_singleton _
  | number n => exact List.nodup_singleton _
  | string s => exact List.nodup_singleton _
  | @array xs h ih =>
    rw [ways_array]
    exact nodup_through (nodup_indexed 0 xs) fun b hb => ih b.2 (snd_mem_of_mem_indexed hb)
  | object hself h ih =>
    rw [ways_object]
    exact nodup_through hself.nodup_keys ih

theorem dotless_through {branches : List (String × Json)}
    (hnames : ∀ b ∈ branches, '.' ∉ b.1.toList)
    (hbelow : ∀ b ∈ branches, ∀ way ∈ b.2.ways, ∀ n ∈ way, '.' ∉ n.toList) :
    ∀ way ∈ through branches, ∀ n ∈ way, '.' ∉ n.toList := by
  intro way hway
  obtain ⟨b, hb, r, hr, rfl⟩ := mem_through.mp hway
  exact List.forall_mem_cons.mpr ⟨hnames b hb, hbelow b hb r hr⟩

theorem dotless_ways {document : Json} (h : Dotless document) :
    ∀ way ∈ document.ways, ∀ n ∈ way, '.' ∉ n.toList := by
  induction h with
  | null => exact List.forall_mem_nil _
  | bool b => exact List.forall_mem_singleton.mpr (List.forall_mem_nil _)
  | number n => exact List.forall_mem_singleton.mpr (List.forall_mem_nil _)
  | string s => exact List.forall_mem_singleton.mpr (List.forall_mem_nil _)
  | @array xs h ih =>
    rw [ways_array]
    exact dotless_through (dotless_indexed 0 xs) fun b hb =>
      ih b.2 (snd_mem_of_mem_indexed hb)
  | object hself h ih =>
    rw [ways_object]
    exact dotless_through hself ih

/-- The names and indices on a way, joined by dots. The way of a document that is a leaf itself is
called `value`. -/
def path : List String → String
  | [] => "value"
  | way => ".".intercalate way

theorem toList_path {way : List String} (h : way ≠ []) :
    (path way).toList = ['.'].intercalate (way.map String.toList) := by
  cases way with
  | nil => exact absurd rfl h
  | cons n r => exact String.toList_intercalate

/-- Ways through names without dots are known by their paths. -/
theorem path_inj {way way' : List String} (hne : way ≠ []) (hne' : way' ≠ [])
    (hdot : ∀ n ∈ way, '.' ∉ n.toList) (hdot' : ∀ n ∈ way', '.' ∉ n.toList)
    (h : path way = path way') : way = way' := by
  have hsplit {w : List String} (hne : w ≠ []) (hdot : ∀ n ∈ w, '.' ∉ n.toList) :
      (path w).toList.splitOn '.' = w.map String.toList := by
    rw [toList_path hne]
    exact List.splitOn_intercalate '.' (List.forall_mem_map.mpr hdot)
      (fun hnil => hne (List.map_eq_nil_iff.mp hnil))
  have hnames := hsplit hne hdot
  rw [h, hsplit hne' hdot'] at hnames
  exact (List.map_injective_iff.mpr (fun _ _ => String.toList_injective) hnames).symm

theorem path_injOn_ways {document : Json} (h : Dotless document) :
    ∀ way ∈ document.ways, ∀ way' ∈ document.ways, path way = path way' → way = way' := by
  intro way hway way' hway' hpath
  have hdot := dotless_ways h way hway
  have hdot' := dotless_ways h way' hway'
  cases h with
  | null => cases hway
  | bool b => exact (List.mem_singleton.mp hway).trans (List.mem_singleton.mp hway').symm
  | number n => exact (List.mem_singleton.mp hway).trans (List.mem_singleton.mp hway').symm
  | string s => exact (List.mem_singleton.mp hway).trans (List.mem_singleton.mp hway').symm
  | array h =>
    rw [ways_array] at hway hway'
    exact path_inj (ne_nil_of_mem_through hway) (ne_nil_of_mem_through hway') hdot hdot' hpath
  | object hself h =>
    rw [ways_object] at hway hway'
    exact path_inj (ne_nil_of_mem_through hway) (ne_nil_of_mem_through hway') hdot hdot' hpath

/-- Without dots in names no two leaves have one path. -/
theorem nodup_paths {document : Json} (hsorted : Sorted document) (hdotless : Dotless document) :
    (document.ways.map path).Nodup :=
  (nodup_ways hsorted).map_on (path_injOn_ways hdotless)

/-- The leaves by their paths. -/
def entries (document : Json) : List (String × Field) :=
  document.leaves.map fun l => (path l.1, l.2)

theorem map_fst_entries (document : Json) :
    document.entries.map Prod.fst = document.ways.map path := by
  rw [entries, ways, List.map_map, List.map_map]
  rfl

end Json

namespace Sample

open Json

theorem nameFrom_some (k : String) (r : List String) :
    nameFrom (some k) r = ".".intercalate (k :: r) := by
  rw [← String.toList_inj, toList_nameFrom, String.toList_intercalate]
  induction r generalizing k with
  | nil => simp
  | cons n r ih =>
    have hjoin : ".".toList.intercalate ((k :: n :: r).map String.toList) =
        k.toList ++ '.' :: ".".toList.intercalate ((n :: r).map String.toList) := by
      simp [List.intercalate_cons_cons]
    rw [hjoin, ← ih n]
    rfl

theorem nameFrom_none (way : List String) : nameFrom none way = path way := by
  cases way with
  | nil => rfl
  | cons k r => exact nameFrom_some k r

theorem fieldsOf_eq_ofList (document : Json) :
    fieldsOf document = Table.ofList document.entries := by
  have hnamed : named none = fun l : List String × Field => (path l.1, l.2) :=
    funext fun l => congrArg (·, l.2) (nameFrom_none l.1)
  rw [fieldsOf_eq, hnamed]
  rfl

theorem fieldsOf_eq_nil_iff (document : Json) : fieldsOf document = [] ↔ document.leaves = [] := by
  rw [fieldsOf_eq_ofList, Table.ofList_eq_nil_iff, entries, List.map_eq_nil_iff]

theorem ofJson?_eq_none_iff (measurement : String) (tags : Table String String) (document : Json)
    (time : Int) : ofJson? measurement tags document time = none ↔ document.leaves = [] := by
  rw [← fieldsOf_eq_nil_iff, ofJson?]
  cases fieldsOf document with
  | nil => simp
  | cons f fs => simp

theorem of_ofJson? {measurement : String} {tags : Table String String} {document : Json}
    {time : Int} {x : Sample} (h : ofJson? measurement tags document time = some x) :
    x = ⟨measurement, tags, fieldsOf document, time⟩ := by
  unfold ofJson? at h
  split at h
  next => cases h
  next => exact (Option.some.inj h).symm

/-- The leaves of a document as a table. -/
structure Flat (document : Json) (fields : Table String Field) : Prop where
  ordered : fields.Ordered
  paths : ∀ k, k ∈ fields.keys ↔ k ∈ document.ways.map path
  /-- Of the leaves with one path the last is kept. -/
  last : ∀ k, fields.get? k = Table.last? k document.entries
  /-- Without dots in names nothing is overwritten. -/
  faithful : Dotless document → List.Perm fields document.entries

theorem flat_fieldsOf {document : Json} (h : Sorted document) :
    Flat document (fieldsOf document) := by
  rw [fieldsOf_eq_ofList]
  refine ⟨Table.ordered_ofList _, fun k => ?_, Table.get?_ofList _, fun hdotless => ?_⟩
  · rw [Table.mem_keys_ofList, map_fst_entries]
  · apply Table.perm_ofList
    rw [map_fst_entries]
    exact nodup_paths h hdotless

/-- The fields of a sample are the leaves of its document, each by its path. -/
theorem exact_of_json {document : Json} (hsorted : Sorted document) (measurement : String)
    (tags : Table String String) (time : Int) :
    (ofJson? measurement tags document time = none ↔ document.leaves = []) ∧
      (∀ x, ofJson? measurement tags document time = some x →
        x.measurement = measurement ∧ x.tags = tags ∧ x.time = time ∧ Flat document x.fields) ∧
      (Dotless document → (document.ways.map path).Nodup) := by
  refine ⟨ofJson?_eq_none_iff measurement tags document time, fun x hx => ?_, nodup_paths hsorted⟩
  rw [of_ofJson? hx]
  exact ⟨rfl, rfl, rfl, flat_fieldsOf hsorted⟩

theorem exact_of_json_nested :
    let document : Json := .object [
      ("", .object [("a", .null), ("b", .array [.bool true, .object [("", .string "x")]])]),
      ("n", .array [])]
    Sorted document ∧ Dotless document ∧ (document.ways.map path).Nodup ∧
      ∃ x, ofJson? "unit" [] document 5 = some x ∧ x.fields.get? ".b.1." = some (.text "x") ∧
        List.Perm x.fields [(".b.0", .boolean true), (".b.1.", .text "x")] := by
  intro document
  have heach {p : List (String × Json) → Prop} (hinner : p [("", .string "x")])
      (hmiddle : p [("a", .null), ("b", .array [.bool true, .object [("", .string "x")]])])
      (houter : p [
        ("", .object [("a", .null), ("b", .array [.bool true, .object [("", .string "x")]])]),
        ("n", .array [])]) : EachObject p document := by
    have hitem := EachObject.object hinner (List.forall_mem_singleton.mpr (.string "x"))
    have hitems : EachObject p (.array [.bool true, .object [("", .string "x")]]) :=
      .array (List.forall_mem_cons.mpr ⟨.bool true, List.forall_mem_singleton.mpr hitem⟩)
    have hmembers := EachObject.object hmiddle
      (List.forall_mem_cons.mpr ⟨.null, List.forall_mem_singleton.mpr hitems⟩)
    exact .object houter (List.forall_mem_cons.mpr
      ⟨hmembers, List.forall_mem_singleton.mpr (.array (List.forall_mem_nil _))⟩)
  have hsorted : Sorted document :=
    heach (List.pairwise_singleton _ _) (List.pairwise_pair.mpr (by decide))
      (List.pairwise_pair.mpr (by decide))
  have hdotless : Dotless document := heach (by decide) (by simp) (by simp)
  obtain ⟨hnone, hsome, hpaths⟩ := exact_of_json hsorted "unit" [] 5
  cases hx : ofJson? "unit" [] document 5 with
  | none => exact absurd (hnone.mp hx) (List.cons_ne_nil _ _)
  | some x =>
    obtain ⟨-, -, -, hflat⟩ := hsome x hx
    exact ⟨hsorted, hdotless, hpaths hdotless, x, rfl, hflat.last ".b.1.",
      hflat.faithful hdotless⟩

/-- A dot in a name can stand for a way. -/
example : fieldsOf (.object [("a", .object [("b", .bool true)]), ("a.b", .bool false)]) =
    [("a.b", .boolean false)] := rfl

end Sample

/-- A telemetry sample has the leaves of the document that its message carries. -/
theorem Telemetry.flat_of_sample? {p : Profile} {m : Message} {time : Int} {x : Sample}
    (h : sample? p m time = some x) : ∃ document,
      m.payload.text?.bind Json.read? = some document ∧ Sample.Flat document x.fields := by
  obtain ⟨document, hread, hsample⟩ := Option.bind_eq_some_iff.mp h
  obtain ⟨text, -, htext⟩ := Option.bind_eq_some_iff.mp hread
  refine ⟨document, hread, ?_⟩
  rw [Sample.of_ofJson? hsample]
  exact Sample.flat_fieldsOf (Json.sorted_of_read? htext)

end FleetBridge
