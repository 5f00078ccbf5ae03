import FleetBridge.Proofs.Json.Outline
import FleetBridge.Roster.Announcement

/-!
What a unit is told when it registers: its own announcement, with the bridge's five names filled
in. Such a reply is read back as the unit it tells of, and can be announced again.
-/
namespace FleetBridge

/-- The members of the object that a payload spells, in its order and with repeated names. -/
def Payload.members? (p : Payload) : Option (List (String × Json)) :=
  p.text?.bind Json.readMembers?

theorem Payload.text?_ofText (s : String) : (Payload.ofText s).text? = some s :=
  dif_pos s.isValidUTF8

namespace FieldUnit

variable {u : FieldUnit}

/-- The event that a unit is attached to. -/
def event (u : FieldUnit) : Event := ⟨u.eventId, u.eventName, u.location, u.testingType⟩

/-- The members that the bridge writes. -/
def ownMembers (u : FieldUnit) : List (String × Json) :=
  [("unit_id", .string u.unitId), ("event_id", .number (.int u.eventId)),
    ("event_name", .string u.eventName), ("location", .string u.location),
    ("testing_type", .string u.testingType)]

/-- The members of a unit's reply, in the order of its text. -/
def members (u : FieldUnit) : List (String × Json) := u.ownMembers ++ u.fields

theorem text_eq (u : FieldUnit) : u.text = (Json.object u.members).text := rfl

theorem map_fst_ownMembers (u : FieldUnit) : u.ownMembers.map Prod.fst = ownKeys := rfl

/-- None of the unit's own fields has a name that the bridge writes. -/
def Foreign (u : FieldUnit) : Prop := ∀ m ∈ u.fields, m.1 ∉ ownKeys

theorem Foreign.filter_own (h : u.Foreign) {k : String} (hk : k ∈ ownKeys) :
    (u.members.filter fun m => m.1 = k) = u.ownMembers.filter fun m => m.1 = k := by
  have hnone : (u.fields.filter fun m => m.1 = k) = [] := by
    refine List.filter_eq_nil_iff.mpr fun m hm => ?_
    have hne : m.1 ≠ k := fun he => h m hm (he ▸ hk)
    simpa using hne
  rw [members, List.filter_append, hnone, List.append_nil]

theorem Foreign.filter_members (h : u.Foreign) :
    (u.members.filter fun m => m.1 ∉ ownKeys) = u.fields := by
  have hown : (u.ownMembers.filter fun m => m.1 ∉ ownKeys) = [] := by
    refine List.filter_eq_nil_iff.mpr fun m hm => ?_
    have hmem : m.1 ∈ u.ownMembers.map Prod.fst := List.mem_map_of_mem hm
    simpa [map_fst_ownMembers] using hmem
  have hfields : (u.fields.filter fun m => m.1 ∉ ownKeys) = u.fields :=
    List.filter_eq_self.mpr fun m hm => by simpa using h m hm
  rw [members, List.filter_append, hown, hfields, List.nil_append]

/-- A unit whose reply is read back: its own fields are a table of values made of whole numbers,
which nest as deep as the reader goes. -/
structure Plain (u : FieldUnit) : Prop where
  event : Word.fitsInt64 u.eventId
  table : Table.Ordered u.fields
  foreign : u.Foreign
  values : ∀ m ∈ u.fields, Json.Within Json.Number.IsWhole (Json.maxDepth - 1) m.2

theorem within_of_mem_ownMembers {ok : Json.Number → Prop} (h : ok (.int u.eventId)) {d : Nat}
    {m : String × Json} (hm : m ∈ u.ownMembers) : Json.Within ok d m.2 := by
  simp only [ownMembers, List.mem_cons, List.not_mem_nil, or_false] at hm
  rcases hm with rfl | rfl | rfl | rfl | rfl
  · exact .string _
  · exact .number h
  · exact .string _
  · exact .string _
  · exact .string _

theorem isWhole_of_fitsInt64 {n : Int} (h : Word.fitsInt64 n) : (Json.Number.int n).IsWhole := by
  simp only [Word.fitsInt64, Bool.and_eq_true, decide_eq_true_eq] at h
  exact ⟨h.1, h.2.trans (by decide)⟩

theorem Plain.readMembers?_text (h : u.Plain) : Json.readMembers? u.text = some u.members := by
  refine Json.readMembers?_text fun m hm => ?_
  rcases List.mem_append.mp hm with hm | hm
  · exact within_of_mem_ownMembers (isWhole_of_fitsInt64 h.event) hm
  · exact h.values m hm

/-- A unit is read back from its text. -/
theorem Plain.ofText?_text (h : u.Plain) : ofText? u.text = some u := by
  have hsole (k : String) (hk : k ∈ ownKeys) :
      Event.sole? k u.members = Event.sole? k u.ownMembers := by
    rw [Event.sole?, Event.sole?, h.foreign.filter_own hk]
  have hid : Event.sole? "unit_id" u.members = some (.string u.unitId) :=
    hsole _ (by decide)
  have hevent : Event.sole? "event_id" u.members = some (.number (.int u.eventId)) :=
    hsole _ (by decide)
  have hname : Event.sole? "event_name" u.members = some (.string u.eventName) :=
    hsole _ (by decide)
  have hlocation : Event.sole? "location" u.members = some (.string u.location) :=
    hsole _ (by decide)
  have htype : Event.sole? "testing_type" u.members = some (.string u.testingType) :=
    hsole _ (by decide)
  simp only [ofText?, h.readMembers?_text, h.foreign.filter_members, h.table.ofList_eq, hid, hevent,
    hname, hlocation, htype, Option.bind_eq_bind, Option.bind_some, Json.string?, Json.int64?,
    h.event, if_true]

/-- A unit whose fields nest, and whose texts need escapes. -/
def laden : FieldUnit :=
  ⟨"U1", 7, "Spring \"run\"", "Lot A", "ADS",
    [("deep", .array [.object [("a", .number (.int 18446744073709551615))], .null]),
      ("note", .string "tab\tand é")]⟩

theorem laden_plain : laden.Plain where
  event := by decide
  table := by
    unfold Table.Ordered
    decide
  foreign := by
    unfold FieldUnit.Foreign
    decide
  values := by
    refine List.forall_mem_cons.mpr ⟨?_, List.forall_mem_singleton.mpr (.string _)⟩
    refine .array (List.forall_mem_cons.mpr ⟨?_, List.forall_mem_singleton.mpr .null⟩)
    refine .object (List.pairwise_singleton _ _) (List.forall_mem_singleton.mpr (.number ?_))
    exact ⟨by decide, by decide⟩

end FieldUnit

namespace Announcement

theorem unitId?_eq_some_iff {ms : Json.Members} {id : String} :
    unitId? ms = some id ↔
      Table.get? "unit_id" ms = some (.string id) ∧ ¬ Text.isBlank id := by
  unfold unitId?
  cases Table.get? "unit_id" ms with
  | none => simp
  | some j =>
    cases j with
    | string s =>
      simp only [Json.string?, Option.bind_eq_bind, Option.bind_some]
      split
      next hblank => simpa using fun he : s = id => he ▸ hblank
      next hblank =>
        simp only [Option.some.injEq, Json.string.injEq]
        exact ⟨fun he => ⟨he, he ▸ hblank⟩, And.left⟩
    | _ => simp [Json.string?]

/-- A payload that spells an object announces what the object's table tells. -/
theorem ofPayload_of_members {p : Payload} {raw : List (String × Json)}
    (h : p.members? = some raw) : ofPayload p = ofJson (.object (Table.ofList raw)) := by
  obtain ⟨s, hs, hraw⟩ := Option.bind_eq_some_iff.mp h
  have hread : p.text?.bind Json.read? = some (.object (Table.ofList raw)) :=
    Option.bind_eq_some_iff.mpr ⟨s, hs, Json.read?_eq_object_iff.mpr ⟨raw, hraw, rfl⟩⟩
  rw [ofPayload, hread]

theorem members?_of_ofPayload {p : Payload} {a : Announcement} (h : ofPayload p = .ok a) :
    ∃ raw, p.members? = some raw := by
  unfold ofPayload at h
  split at h
  next j hj =>
    obtain ⟨s, hs, hread⟩ := Option.bind_eq_some_iff.mp hj
    cases j with
    | object ms =>
      obtain ⟨raw, hraw, -⟩ := Json.read?_eq_object_iff.mp hread
      exact ⟨raw, Option.bind_eq_some_iff.mpr ⟨s, hs, hraw⟩⟩
    | _ => cases h
  next => cases h

theorem filter_members_ofList (raw : List (String × Json)) :
    ((Table.ofList raw).filter fun m => m.1 ∉ FieldUnit.ownKeys) =
      Table.ofList (raw.filter fun m => m.1 ∉ FieldUnit.ownKeys) :=
  Table.filter_ofList (fun k => decide (k ∉ FieldUnit.ownKeys)) raw

/-- An announcement is an object whose last `unit_id` is a text that is not blank; its fields are
the table of the other members. -/
theorem ofPayload_eq_ok_iff {p : Payload} {a : Announcement} :
    ofPayload p = .ok a ↔ ∃ raw, p.members? = some raw ∧
      Table.last? "unit_id" raw = some (.string a.unitId) ∧ ¬ Text.isBlank a.unitId ∧
      a.fields = Table.ofList (raw.filter fun m => m.1 ∉ FieldUnit.ownKeys) := by
  -- Both sides are about the table of the members: the last of each name, in order.
  have htable (raw : List (String × Json)) :
      ofJson (.object (Table.ofList raw)) = .ok a ↔
        Table.last? "unit_id" raw = some (.string a.unitId) ∧ ¬ Text.isBlank a.unitId ∧
        a.fields = Table.ofList (raw.filter fun m => m.1 ∉ FieldUnit.ownKeys) := by
    rw [← Table.get?_ofList, ← filter_members_ofList, ← and_assoc, ← unitId?_eq_some_iff]
    obtain ⟨id, fields⟩ := a
    cases hid : unitId? (Table.ofList raw) with
    | none => simp [ofJson, hid]
    | some id' => simp [ofJson, hid, eq_comm]
  constructor
  · intro h
    obtain ⟨raw, hraw⟩ := members?_of_ofPayload h
    exact ⟨raw, hraw, (htable raw).mp (ofPayload_of_members hraw ▸ h)⟩
  · rintro ⟨raw, hraw, h⟩
    exact (ofPayload_of_members hraw).trans ((htable raw).mpr h)

/-- Announced again, a reply names the same unit and carries the same fields, unless it names no
unit. -/
theorem ofPayload_text {u : FieldUnit} (h : u.Plain) :
    ofPayload (Payload.ofText u.text) =
      if Text.isBlank u.unitId then .error .missingUnitId else .ok ⟨u.unitId, u.fields⟩ := by
  have hmembers : (Payload.ofText u.text).members? = some u.members := by
    rw [Payload.members?, Payload.text?_ofText, Option.bind_some]
    exact h.readMembers?_text
  have hid : Table.get? "unit_id" (Table.ofList u.members) = some (.string u.unitId) := by
    rw [Table.get?_ofList, Table.last?, h.foreign.filter_own (by decide)]
    rfl
  rw [ofPayload_of_members hmembers]
  simp only [ofJson, filter_members_ofList, h.foreign.filter_members, h.table.ofList_eq, unitId?,
    hid, Option.bind_eq_bind, Option.bind_some, Json.string?]
  by_cases hblank : Text.isBlank u.unitId
  · rw [if_pos hblank, if_pos hblank]
  · rw [if_neg hblank, if_neg hblank]

end Announcement

/-- The values that a payload spells have texts of their own. -/
theorem Payload.within_of_members {p : Payload} {raw : List (String × Json)}
    (h : p.members? = some raw) :
    ∀ m ∈ raw, Json.Within Json.Number.IsSpelled (Json.maxDepth - 1) m.2 := by
  obtain ⟨s, -, hraw⟩ := Option.bind_eq_some_iff.mp h
  obtain ⟨s', r, -, hread, -⟩ := Json.readMembers?_eq_some_iff.mp hraw
  intro m hm
  have hfinite := Json.forall_of_readObject (fun _ _ _ _ => Json.within_of_readValue) hread m hm
  exact hfinite.mono Json.Number.IsFinite.isSpelled

/-- What a reply's members owe to the members of the announcement: every name stands once, the five
names of the bridge tell the unit and its event, and any other name has the value that was announced
last. -/
structure Echoes (raw : List (String × Json)) (id : String) (e : Event)
    (ms : List (String × Json)) : Prop where
  once : (ms.map Prod.fst).Nodup
  names : ∀ k, k ∈ ms.map Prod.fst ↔ k ∈ raw.map Prod.fst ∨ k ∈ FieldUnit.ownKeys
  announced : Table.last? "unit_id" raw = some (.string id)
  unitId : Table.get? "unit_id" ms = some (.string id)
  eventId : Table.get? "event_id" ms = some (.number (.int e.id))
  eventName : Table.get? "event_name" ms = some (.string e.name)
  location : Table.get? "location" ms = some (.string e.location)
  testingType : Table.get? "testing_type" ms = some (.string e.testingType)
  others : ∀ k, k ∉ FieldUnit.ownKeys → Table.get? k ms = Table.last? k raw

namespace Announcement

variable {raw : List (String × Json)} {a : Announcement}

theorem mem_keys_fields (h : a.fields = Table.ofList (raw.filter fun m => m.1 ∉ FieldUnit.ownKeys))
    (k : String) :
    k ∈ a.fields.map Prod.fst ↔ k ∈ raw.map Prod.fst ∧ k ∉ FieldUnit.ownKeys := by
  rw [h]
  refine Table.mem_keys_ofList.trans ?_
  simp only [List.mem_map, List.mem_filter, decide_eq_true_eq]
  constructor
  · rintro ⟨m, ⟨hm, hforeign⟩, rfl⟩
    exact ⟨⟨m, hm, rfl⟩, hforeign⟩
  · rintro ⟨⟨m, hm, rfl⟩, hforeign⟩
    exact ⟨m, ⟨hm, hforeign⟩, rfl⟩

theorem get?_members_attach (a : Announcement) (e : Event) {k : String}
    (hk : k ∉ FieldUnit.ownKeys) :
    Table.get? k (a.attach e).members = Table.get? k a.fields := by
  simp only [FieldUnit.ownKeys, List.mem_cons, List.not_mem_nil, or_false, not_or] at hk
  obtain ⟨hid, hevent, hname, hlocation, htype⟩ := hk
  simp only [FieldUnit.members, FieldUnit.ownMembers, List.cons_append, List.nil_append, Table.get?,
    hid, hevent, hname, hlocation, htype, if_false]
  rfl

/-- Whatever is announced, the reply echoes it. -/
theorem echoes_attach (e : Event) (hid : Table.last? "unit_id" raw = some (.string a.unitId))
    (h : a.fields = Table.ofList (raw.filter fun m => m.1 ∉ FieldUnit.ownKeys)) :
    Echoes raw a.unitId e (a.attach e).members := by
  have hnames : (a.attach e).members.map Prod.fst =
      FieldUnit.ownKeys ++ a.fields.map Prod.fst := List.map_append
  constructor
  case once =>
    rw [hnames]
    refine List.nodup_append.mpr ⟨by decide, h ▸ (Table.ordered_ofList _).nodup_keys, ?_⟩
    rintro k hk _ hk' rfl
    exact ((mem_keys_fields h k).mp hk').2 hk
  case names =>
    intro k
    rw [hnames, List.mem_append, mem_keys_fields h]
    by_cases hk : k ∈ FieldUnit.ownKeys
    · simp [hk]
    · simp [hk]
  case announced => exact hid
  case unitId => rfl
  case eventId => rfl
  case eventName => rfl
  case location => rfl
  case testingType => rfl
  case others =>
    intro k hk
    have hfields := Table.get?_filter (fun k => decide (k ∉ FieldUnit.ownKeys))
      (Table.ofList raw) k
    rw [get?_members_attach a e hk, h, ← filter_members_ofList, hfields,
      if_pos (decide_eq_true hk), Table.get?_ofList]

/-- The reply is the text of one object, whose names are those of its members. -/
theorem names?_text_attach {p : Payload} (hraw : p.members? = some raw) (e : Event)
    (h : a.fields = Table.ofList (raw.filter fun m => m.1 ∉ FieldUnit.ownKeys)) :
    Json.names? (a.attach e).text = some ((a.attach e).members.map Prod.fst) := by
  refine Json.names?_text fun m hm => ?_
  have hm : m ∈ (a.attach e).ownMembers ++ a.fields := hm
  rcases List.mem_append.mp hm with hm | hm
  · exact FieldUnit.within_of_mem_ownMembers (Json.Number.isSpelled_int _) hm
  · rw [h] at hm
    exact p.within_of_members hraw m (List.mem_of_mem_filter (Table.mem_of_mem_ofList hm))

/-- A registration's reply echoes its payload and decodes back. Whatever payload is accepted and
whatever event it is attached to, the reply is the text of one object that has each name once and
echoes what was announced. The text of every plain unit is read back as the unit, and if its id is
not blank the same text announces it again, so that attaching it to its event changes nothing. -/
theorem replies_echo_and_decode :
    (∀ (p : Payload) (a : Announcement) (e : Event), ofPayload p = .ok a →
      ∃ announced ms, p.members? = some announced ∧ (a.attach e).text = (Json.object ms).text ∧
        Json.names? (a.attach e).text = some (ms.map Prod.fst) ∧
        Echoes announced a.unitId e ms) ∧
    ∀ u : FieldUnit, u.Plain →
      FieldUnit.ofText? u.text = some u ∧
      (¬ Text.isBlank u.unitId →
        ofPayload (Payload.ofText u.text) = .ok ⟨u.unitId, u.fields⟩ ∧
        (ofPayload (Payload.ofText u.text)).map (fun a => a.attach u.event) = .ok u) := by
  constructor
  · intro p a e h
    obtain ⟨raw, hraw, hid, -, hfields⟩ := ofPayload_eq_ok_iff.mp h
    exact ⟨raw, (a.attach e).members, hraw, (a.attach e).text_eq,
      names?_text_attach hraw e hfields, echoes_attach e hid hfields⟩
  · intro u hu
    refine ⟨hu.ofText?_text, fun hid => ?_⟩
    have hread := ofPayload_text hu
    rw [if_neg hid] at hread
    refine ⟨hread, ?_⟩
    rw [hread]
    rfl

open FieldUnit (laden laden_plain)

/-- Its reply, announced again for another event. -/
theorem laden_echoes_and_decodes :
    ofPayload (Payload.ofText laden.text) = .ok ⟨laden.unitId, laden.fields⟩ ∧
      (∃ announced ms, (Payload.ofText laden.text).members? = some announced ∧
        (attach ⟨laden.unitId, laden.fields⟩ ⟨8, "Autumn", "Lot B", "V2X"⟩).text =
          (Json.object ms).text ∧
        Json.names? (attach ⟨laden.unitId, laden.fields⟩ ⟨8, "Autumn", "Lot B", "V2X"⟩).text =
          some (ms.map Prod.fst) ∧
        Echoes announced laden.unitId ⟨8, "Autumn", "Lot B", "V2X"⟩ ms) ∧
      laden.Plain ∧ FieldUnit.ofText? laden.text = some laden ∧
      ¬ Text.isBlank laden.unitId ∧
      (ofPayload (Payload.ofText laden.text)).map (fun a => a.attach laden.event) = .ok laden := by
  have hid : ¬ Text.isBlank laden.unitId := by decide
  obtain ⟨hdecoded, hagain⟩ := replies_echo_and_decode.2 laden laden_plain
  obtain ⟨hread, hfixed⟩ := hagain hid
  exact ⟨hread, replies_echo_and_decode.1 _ _ _ hread, laden_plain, hdecoded, hid, hfixed⟩

/-- Not every plain unit is announced by its own text: one whose id is blank is refused. -/
theorem blank_id_not_announced : ¬ ∀ u : FieldUnit, u.Plain →
    FieldUnit.ofText? u.text = some u ∧
      ofPayload (Payload.ofText u.text) = .ok ⟨u.unitId, u.fields⟩ := by
  intro h
  have hplain : FieldUnit.Plain ⟨" ", 7, "", "", "", []⟩ :=
    ⟨by decide, .nil, nofun, nofun⟩
  have hread := (h _ hplain).2
  rw [ofPayload_text hplain, if_pos (by decide)] at hread
  cases hread

end Announcement
end FleetBridge
