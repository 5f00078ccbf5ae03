import FleetBridge.Proofs.Json.Values

/-!
Whole texts of objects. An object is the table of the members that its text spells, and members
whose values are made of whole numbers are spelled by the text they are written as.
-/
namespace FleetBridge.Json

theorem whole?_eq_some_iff {α : Type} {p : Reader α} {s : List Char} {x : α} :
    whole? p s = some x ↔ ∃ r, p s = some (x, r) ∧ skipGaps r = [] := by
  unfold whole?
  cases p s with
  | none => simp
  | some y =>
    obtain ⟨x', r⟩ := y
    by_cases hr : skipGaps r = []
    · simp [hr]
    · simp [hr]

theorem readScalar_ne_object {s r : List Char} {ms : Members} :
    readScalar s ≠ some (.object ms, r) := by
  unfold readScalar
  split <;> simp

/-- A reader of values reads an object by its members. -/
theorem readValue_eq_object_iff {fuel d : Nat} {s r : List Char} {ms : Members} :
    readValue fuel (d + 1) s = some (.object ms, r) ↔
      ∃ s' raw, skipGaps s = '{' :: s' ∧
        readObject readString (fun _ => readValue fuel d) fuel s' = some (raw, r) ∧
        ms = Table.ofList raw := by
  rw [readValue]
  split
  next s' hs => simp [hs]
  next s' hs =>
    simp only [hs, List.cons.injEq, true_and, Option.map_eq_some_iff, Prod.mk.injEq, Prod.exists,
      Json.object.injEq]
    grind
  next hbracket hbrace =>
    refine ⟨fun h => absurd h readScalar_ne_object, ?_⟩
    rintro ⟨s', raw, hs, -⟩
    exact absurd hs (hbrace s')

theorem readMembers?_eq_some_iff {s : String} {raw : List (String × Json)} :
    readMembers? s = some raw ↔
      ∃ s' r, skipGaps s.toList = '{' :: s' ∧
        readObject readString (fun _ => readValue (s.length + 1) (maxDepth - 1)) (s.length + 1) s' =
          some (raw, r) ∧ skipGaps r = [] := by
  rw [readMembers?, whole?_eq_some_iff]
  split
  next s' hs => simp [hs]
  next hbrace =>
    simp only [reduceCtorEq, false_and, exists_false, false_iff, not_exists]
    rintro s' r ⟨hs, -⟩
    exact hbrace s' hs

/-- The object that a text spells is the table of its members. -/
theorem read?_eq_object_iff {s : String} {ms : Members} :
    read? s = some (.object ms) ↔ ∃ raw, readMembers? s = some raw ∧ ms = Table.ofList raw := by
  have hdepth : maxDepth = maxDepth - 1 + 1 := rfl
  rw [read?, whole?_eq_some_iff, hdepth]
  simp only [readValue_eq_object_iff, readMembers?_eq_some_iff]
  constructor
  · rintro ⟨r, ⟨s', raw, hs, hread, hms⟩, hr⟩
    exact ⟨raw, ⟨s', r, hs, hread, hr⟩, hms⟩
  · rintro ⟨raw, ⟨s', r, hs, hread, hr⟩, hms⟩
    exact ⟨r, ⟨s', raw, hs, hread, hms⟩, hr⟩

/-- The members of an object of whole numbers are read back from its text, repeated names too. -/
theorem readMembers?_text {ms : List (String × Json)}
    (h : ∀ m ∈ ms, Within Number.IsWhole (maxDepth - 1) m.2) :
    readMembers? (text (.object ms)) = some ms := by
  have hlist : (text (.object ms)).toList = write (.object ms) := String.toList_ofList
  have hlength : (text (.object ms)).length = (write (.object ms)).length := String.length_ofList
  have hvalues : ∀ m ∈ ms, ∀ r, Ends r →
      readValue ((text (.object ms)).length + 1) (maxDepth - 1) (write m.2 ++ r) =
        some (m.2, r) := by
    intro m hm r hr
    have hle := length_write_member hm
    exact readValue_write (h m hm) (by omega) hr
  have hmembers := readObject_writeMembers hvalues
    (Nat.le_succ_of_le (hlength ▸ length_write_object ms)) []
  refine readMembers?_eq_some_iff.mpr ⟨_, [], ?_, hmembers, rfl⟩
  rw [hlist, write]
  rfl

end FleetBridge.Json
