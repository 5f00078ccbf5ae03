import FleetBridge.Proofs.Json.Floats
import FleetBridge.Proofs.Json.Readings
import FleetBridge.Proofs.Json.Texts

/-!
The outline of an object's text: its names, whatever stands under them. An object that is written is
outlined by its names, also where its numbers are no integers.
-/
namespace FleetBridge.Json

/-! Strings and values that are passed over. -/

/-- A character, however it is written, is passed over. -/
theorem skimString_writeChar (c : Char) (rest : List Char) :
    skimString (writeChar c ++ rest) = skimString rest := by
  have hwritten := written_writeChar c
  generalize writeChar c = w at hwritten ⊢
  cases hwritten with
  | @escaped e hu he =>
    simp only [List.cons_append, List.nil_append]
    rw [skimString, he]
    · rfl
    · intro a b x y r he
      exact absurd he hu
  | coded _ hunit =>
    simp only [List.cons_append, List.nil_append, skimString, hunit, Option.isSome_some, if_true]
  | plain hquote hbackslash hcontrol =>
    rw [List.singleton_append, skimString]
    · simp [hcontrol]
    · exact hquote
    · intro a b d e r hc
      exact absurd hc hbackslash
    · intro a r hc
      exact absurd hc hbackslash

theorem skimQuoted_writeString (s : String) (rest : List Char) :
    skimQuoted (writeString s ++ rest) = some ((), rest) := by
  have hbody : skimString (s.toList.flatMap writeChar ++ '"' :: rest) = some rest := by
    induction s.toList with
    | nil => rfl
    | cons c cs ih => rw [List.flatMap_cons, List.append_assoc, skimString_writeChar, ih]
  rw [writeString, List.cons_append, List.append_assoc, List.singleton_append, skimQuoted, hbody]
  rfl

theorem skim_number {c : Char} (h : StartsNumber c) (fuel d : Nat) (s : List Char) :
    skim fuel (d + 1) (c :: s) = (readNumeral (c :: s)).map fun (_, r) => ((), r) := by
  rw [skim, skipGaps_cons h.not_gap]
  split
  next he => exact absurd (List.cons.inj he).1 (h.ne (by decide))
  next he => exact absurd (List.cons.inj he).1 (h.ne (by decide))
  next he => exact absurd (List.cons.inj he).1 (h.ne (by decide))
  next he => exact absurd (List.cons.inj he).1 (h.ne (by decide))
  next he => exact absurd (List.cons.inj he).1 (h.ne (by decide))
  next he => exact absurd (List.cons.inj he).1 (h.ne (by decide))
  next => rfl

theorem skim_array (fuel d : Nat) (s : List Char) :
    skim fuel (d + 1) ('[' :: s) =
      (readArray (skim fuel d) fuel s).map fun (_, r) => ((), r) := rfl

theorem skim_object (fuel d : Nat) (s : List Char) :
    skim fuel (d + 1) ('{' :: s) =
      (readObject skimQuoted (fun _ => skim fuel d) fuel s).bind fun (_, r) => some ((), r) := rfl

/-- A value that is written is passed over. -/
theorem skim_write {d fuel : Nat} {j : Json} (h : Within Number.IsSpelled d j)
    (hfuel : (write j).length ≤ fuel) {rest : List Char} (hrest : Ends rest) :
    skim fuel (d + 1) (write j ++ rest) = some ((), rest) := by
  induction h generalizing rest with
  | null => rfl
  | bool b => cases b <;> rfl
  | @number d n hn =>
    obtain ⟨c, r, hw, hc⟩ := hn.eq_cons
    obtain ⟨x, hread⟩ := hn rest hrest
    rw [write, hw, List.cons_append, skim_number hc, ← List.cons_append, ← hw, hread]
    rfl
  | string s => exact skimQuoted_writeString s rest
  | @array d xs hxs ih =>
    have hitems := readArray_commas (p := skim fuel (d + 1)) (g := fun _ => ())
      (fun x hx => opens_write (hxs x hx))
      (fun x hx r hr => ih x hx (Nat.le_trans (length_write_item hx) hfuel) hr)
      (Nat.le_trans (length_write_array xs) hfuel) rest
    rw [write, List.cons_append, List.append_assoc, List.singleton_append, writeItems_eq,
      skim_array, hitems]
    rfl
  | @object d ms _ _ ih =>
    have hmembers := readObject_commas (p := fun _ => skim fuel (d + 1)) (g := fun _ => ())
      skimQuoted_writeString
      (fun m hm r hr => ih m hm (Nat.le_trans (length_write_member hm) hfuel) hr)
      (Nat.le_trans (length_write_object ms) hfuel) rest
    rw [write, List.cons_append, List.append_assoc, List.singleton_append, writeMembers_eq,
      skim_object, hmembers]
    rfl

/-! Outlines. -/

/-- The names of the object that a text spells, in the order of the text and as often as they stand
there. The values under them are passed over. -/
def names? (s : String) : Option (List String) :=
  let fuel := s.length + 1
  (whole? (fun cs => match skipGaps cs with
    | '{' :: r => readObject readString (fun _ => skim fuel maxDepth) fuel r
    | _ => none) s.toList).map fun ms => ms.map Prod.fst

/-- The text of an object spells its names. -/
theorem names?_text {ms : List (String × Json)}
    (h : ∀ m ∈ ms, Within Number.IsSpelled (maxDepth - 1) m.2) :
    names? (text (.object ms)) = some (ms.map Prod.fst) := by
  have hlist : (text (.object ms)).toList = write (.object ms) := String.toList_ofList
  have hlength : (text (.object ms)).length = (write (.object ms)).length := String.length_ofList
  have hvalues : ∀ m ∈ ms, ∀ r, Ends r →
      skim ((text (.object ms)).length + 1) maxDepth (write m.2 ++ r) = some ((), r) := by
    intro m hm r hr
    have hle := length_write_member hm
    exact skim_write (h m hm) (by omega) hr
  have hmembers := readObject_commas (p := fun _ => skim ((text (.object ms)).length + 1) maxDepth)
    (f := id) (g := fun _ => ()) readString_writeString hvalues
    (Nat.le_succ_of_le (hlength ▸ length_write_object ms)) []
  have hread := whole?_eq_some_iff.mpr ⟨[], hmembers, rfl⟩
  rw [names?, hlist, write, writeMembers_eq]
  refine (congrArg (Option.map fun ms => ms.map Prod.fst) hread).trans ?_
  simp

end FleetBridge.Json
