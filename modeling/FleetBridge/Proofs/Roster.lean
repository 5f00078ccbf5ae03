import FleetBridge.Roster.Basic
import FleetBridge.Proofs.Table
import Mathlib.Data.String.Basic
import Mathlib.Logic.Relation

/-!
Rosters under registration and removal. Stamps are never given twice, so an entry with a stamp from
before a time is the very entry that was filed then.
-/
namespace FleetBridge

/-- A unit of which no more is told than its id and its event. -/
def FieldUnit.bare (id : String) (event : Int) : FieldUnit := ⟨id, event, "", "", "", []⟩

namespace Roster

/-- What a registration is known by. -/
def Entry.mark (e : Entry) : String × Nat := (e.unit.unitId, e.stamp)

/-- A unit registers or is removed. -/
inductive Change : Roster → Roster → Prop
  | registered (u : FieldUnit) (r : Roster) : Change r (r.register u)
  | removed (id : String) (r : Roster) : Change r (r.remove id)

abbrev Changes : Roster → Roster → Prop := Relation.ReflTransGen Change

/-- The rosters that come up. -/
def Reachable (r : Roster) : Prop := Changes empty r

structure Sound (r : Roster) : Prop where
  ordered : r.filed.Ordered
  filed_id : ∀ x ∈ r.filed, x.2.unit.unitId = x.1
  stamp_le : ∀ x ∈ r.filed, x.2.stamp ≤ r.latest
  nodup_stamps : (r.filed.map fun x => x.2.stamp).Nodup

theorem sound_empty : Sound empty where
  ordered := List.Pairwise.nil
  filed_id _ hx := nomatch hx
  stamp_le _ hx := nomatch hx
  nodup_stamps := List.nodup_nil

/-! One change. -/

theorem Sound.mem_register {r : Roster} (h : r.Sound) {u : FieldUnit} {x : String × Entry} :
    x ∈ (r.register u).filed ↔
      x = (u.unitId, ⟨u, r.latest + 1⟩) ∨ x ∈ r.filed ∧ x.1 ≠ u.unitId :=
  h.ordered.mem_put

theorem Sound.mem_remove {r : Roster} (h : r.Sound) {id : String} {x : String × Entry} :
    x ∈ (r.remove id).filed ↔ x ∈ r.filed ∧ x.1 ≠ id := by
  show x ∈ r.filed.erase id ↔ _
  rw [h.ordered.erase_eq_filter, List.mem_filter]
  simp

theorem Sound.stamp_inj {r : Roster} (h : r.Sound) {x y : String × Entry} (hx : x ∈ r.filed)
    (hy : y ∈ r.filed) (he : x.2.stamp = y.2.stamp) : x = y :=
  List.inj_on_of_nodup_map h.nodup_stamps hx hy he

theorem Sound.register {r : Roster} (h : r.Sound) (u : FieldUnit) : (r.register u).Sound where
  ordered := h.ordered.put _ _
  filed_id x hx := by
    rcases h.mem_register.mp hx with rfl | ⟨hx, -⟩
    · rfl
    · exact h.filed_id x hx
  stamp_le x hx := by
    show x.2.stamp ≤ r.latest + 1
    rcases h.mem_register.mp hx with rfl | ⟨hx, -⟩
    · exact Nat.le_refl _
    · have := h.stamp_le x hx
      omega
  nodup_stamps := by
    refine List.Nodup.map_on (fun x hx y hy he => ?_)
      (List.Nodup.of_map _ (h.ordered.put u.unitId ⟨u, r.latest + 1⟩).nodup_keys)
    rcases h.mem_register.mp hx with rfl | ⟨hx, -⟩ <;>
      rcases h.mem_register.mp hy with rfl | ⟨hy, -⟩
    · rfl
    · have := h.stamp_le y hy
      simp only at he
      omega
    · have := h.stamp_le x hx
      simp only at he
      omega
    · exact h.stamp_inj hx hy he

theorem Sound.remove {r : Roster} (h : r.Sound) (id : String) : (r.remove id).Sound where
  ordered := h.ordered.erase id
  filed_id x hx := h.filed_id x (h.mem_remove.mp hx).1
  stamp_le x hx := h.stamp_le x (h.mem_remove.mp hx).1
  nodup_stamps := h.nodup_stamps.sublist ((Table.erase_sublist id r.filed).map _)

theorem Sound.change {r r' : Roster} (h : r.Sound) (hc : Change r r') : r'.Sound := by
  cases hc with
  | registered u => exact h.register u
  | removed id => exact h.remove id

/-! Any number of changes. -/

theorem Sound.changes {r r' : Roster} (h : r.Sound) (hc : Changes r r') : r'.Sound := by
  induction hc with
  | refl => exact h
  | tail _ hc ih => exact ih.change hc

theorem Reachable.sound {r : Roster} (h : r.Reachable) : r.Sound := sound_empty.changes h

/-- A unit that was not there makes the roster longer by one. -/
theorem Sound.size_register {r : Roster} (h : r.Sound) (u : FieldUnit) :
    (r.register u).size = r.size + if r.contains u.unitId then 0 else 1 := by
  have hlength := (h.ordered.perm_put u.unitId ⟨u, r.latest + 1⟩).length_eq
  change (r.register u).size = (r.filed.erase u.unitId).length + 1 at hlength
  rw [hlength, contains, entry?]
  cases he : r.filed.get? u.unitId with
  | none =>
    rw [Table.erase_of_get?_none he]
    rfl
  | some e =>
    rw [size, (Table.perm_cons_erase he).length_eq]
    rfl

theorem size_remove {r : Roster} {id : String} (h : r.contains id = true) :
    (r.remove id).size + 1 = r.size := by
  obtain ⟨e, he⟩ := Option.isSome_iff_exists.mp h
  exact (Table.perm_cons_erase he).length_eq.symm

theorem Changes.latest_le {r r' : Roster} (h : Changes r r') : r.latest ≤ r'.latest := by
  induction h with
  | refl => exact Nat.le_refl _
  | tail _ hc ih =>
    cases hc with
    | registered u => exact Nat.le_succ_of_le ih
    | removed id => exact ih

/-- A stamp from before the changes belongs to an entry from before the changes. -/
theorem Changes.mem_of_stamp_le {r r' : Roster} (h : Changes r r') (hs : r.Sound)
    {x : String × Entry} (hx : x ∈ r'.filed) (hle : x.2.stamp ≤ r.latest) : x ∈ r.filed := by
  induction h with
  | refl => exact hx
  | tail hrs hc ih =>
    have hsound := hs.changes hrs
    cases hc with
    | registered u s =>
      -- The new entry has a stamp above all that were given before the changes.
      rcases hsound.mem_register.mp hx with rfl | ⟨hx, -⟩
      · have := Changes.latest_le hrs
        simp only at hle
        omega
      · exact ih hx
    | removed id s => exact ih (hsound.mem_remove.mp hx).1

theorem changes_evict (id : String) (stamp : Nat) (r : Roster) : Changes r (r.evict id stamp) := by
  unfold evict
  split
  · exact .single (.removed id r)
  · exact .refl

/-! The entries as they are listed. -/

theorem mem_entries {r : Roster} {e : Entry} : e ∈ r.entries ↔ ∃ x ∈ r.filed, x.2 = e := by
  simp only [entries, List.mem_mergeSort, List.mem_map]

theorem Sound.mem_entries_iff {r : Roster} (h : r.Sound) {e : Entry} :
    e ∈ r.entries ↔ (e.unit.unitId, e) ∈ r.filed := by
  rw [mem_entries]
  constructor
  · rintro ⟨x, hx, rfl⟩
    rw [h.filed_id x hx]
    exact hx
  · exact fun he => ⟨_, he, rfl⟩

theorem entries_perm (r : Roster) : r.entries.Perm (r.filed.map Prod.snd) :=
  List.mergeSort_perm _ _

theorem Sound.entries_ordered {r : Roster} (h : r.Sound) :
    r.entries.Pairwise fun a b => a.stamp < b.stamp := by
  have hle : r.entries.Pairwise fun a b => a.stamp ≤ b.stamp := by
    let le : Entry → Entry → Bool := fun a b => a.stamp ≤ b.stamp
    have htrans : ∀ a b c, le a b = true → le b c = true → le a c = true := by
      intro a b c hab hbc
      simp only [le, decide_eq_true_eq] at hab hbc ⊢
      omega
    have htotal : ∀ a b, (le a b || le b a) = true := by
      intro a b
      simp only [le, Bool.or_eq_true, decide_eq_true_eq]
      omega
    have hsort := List.pairwise_mergeSort htrans htotal (r.filed.map Prod.snd)
    exact hsort.imp fun hab => of_decide_eq_true hab
  have hne : r.entries.Pairwise fun a b => a.stamp ≠ b.stamp := by
    have hnodup : ((r.filed.map Prod.snd).map Entry.stamp).Nodup := by
      rw [List.map_map]
      exact h.nodup_stamps
    exact List.pairwise_map.mp ((r.entries_perm.map Entry.stamp).nodup_iff.mpr hnodup)
  exact hle.imp₂ (fun _ _ hab hn => Nat.lt_of_le_of_ne hab hn) hne

theorem Sound.nodup_ids {r : Roster} (h : r.Sound) :
    (r.entries.map fun e => e.unit.unitId).Nodup := by
  have hkeys : r.filed.map (fun x => x.2.unit.unitId) = r.filed.keys :=
    List.map_congr_left fun x hx => h.filed_id x hx
  have hp := r.entries_perm.map fun e => e.unit.unitId
  rw [List.map_map, show ((fun e : Entry => e.unit.unitId) ∘ Prod.snd) =
    fun x : String × Entry => x.2.unit.unitId from rfl, hkeys] at hp
  exact hp.nodup_iff.mpr h.ordered.nodup_keys

theorem entries_eq_of_pairwise {r : Roster}
    (h : (r.filed.map Prod.snd).Pairwise fun a b => a.stamp ≤ b.stamp) :
    r.entries = r.filed.map Prod.snd :=
  List.mergeSort_of_pairwise (h.imp fun hab => decide_eq_true hab)

/-- A roster that keeps some of another's entries lists them in the same order. -/
theorem Sound.entries_filter {r r' : Roster} (h : r.Sound) (h' : r'.Sound) (p : Entry → Bool)
    (hf : ∀ x, x ∈ r'.filed ↔ x ∈ r.filed ∧ p x.2 = true) :
    r'.entries = r.entries.filter p := by
  have hmem : ∀ e, e ∈ r'.entries ↔ e ∈ r.entries.filter p := by
    intro e
    rw [h'.mem_entries_iff, List.mem_filter, h.mem_entries_iff, hf]
  have hnodup {s : Roster} (hs : s.Sound) : s.entries.Nodup :=
    List.Nodup.of_map _ hs.nodup_ids
  have hp : r'.entries.Perm (r.entries.filter p) :=
    (List.perm_ext_iff_of_nodup (hnodup h') ((hnodup h).filter p)).mpr hmem
  exact hp.eq_of_pairwise (fun a b _ _ hab hba => absurd (hab.trans hba) (Nat.lt_irrefl _))
    h'.entries_ordered (h.entries_ordered.filter p)

/-! Eviction. -/

theorem Sound.entry?_eq_some_iff {r : Roster} (h : r.Sound) {id : String} {e : Entry} :
    r.entry? id = some e ↔ (id, e) ∈ r.filed :=
  h.ordered.get?_eq_some_iff

/-- A roster holds the registrations that it lists. -/
theorem Sound.holds_iff {r : Roster} (h : r.Sound) {id : String} {stamp : Nat} :
    r.holds id stamp = true ↔ ∃ e ∈ r.entries, e.mark = (id, stamp) := by
  simp only [holds, Option.any_eq_true, decide_eq_true_eq, h.entry?_eq_some_iff, Entry.mark,
    Prod.mk.injEq]
  constructor
  · rintro ⟨e, he, hs⟩
    have hid := h.filed_id _ he
    exact ⟨e, h.mem_entries_iff.mpr (hid.symm ▸ he), hid, hs⟩
  · rintro ⟨e, he, rfl, hs⟩
    exact ⟨e, h.mem_entries_iff.mp he, hs⟩

theorem Sound.mem_evict {r : Roster} (h : r.Sound) {id : String} {stamp : Nat}
    {x : String × Entry} :
    x ∈ (r.evict id stamp).filed ↔ x ∈ r.filed ∧ x.2.mark ≠ (id, stamp) := by
  unfold evict
  split
  next hh =>
    rw [h.mem_remove]
    refine and_congr_right fun hx => not_congr ?_
    have hid := h.filed_id x hx
    simp only [holds, Option.any_eq_true, decide_eq_true_eq, h.entry?_eq_some_iff] at hh
    obtain ⟨e, he, hs⟩ := hh
    constructor
    · intro hk
      have hxe : x = (id, e) := by
        have h1 := h.entry?_eq_some_iff.mpr (hk ▸ hx : (id, x.2) ∈ r.filed)
        have h2 := h.entry?_eq_some_iff.mpr he
        exact Prod.ext hk (Option.some.inj (h1.symm.trans h2))
      rw [hxe, Entry.mark, h.filed_id _ he, hs]
    · intro hm
      exact hid.symm.trans (congrArg Prod.fst hm)
  next hh =>
    refine (and_iff_left_of_imp fun hx hm => hh ?_).symm
    have hid := h.filed_id x hx
    refine h.holds_iff.mpr ⟨x.2, mem_entries.mpr ⟨x, hx, rfl⟩, hm⟩

theorem holds_evict_of_ne {id id' : String} (hne : id' ≠ id) (stamp stamp' : Nat) (r : Roster) :
    (r.evict id stamp).holds id' stamp' = r.holds id' stamp' := by
  unfold evict
  split
  · simp [holds, entry?, remove, hne]
  · rfl

theorem evict_comm {id id' : String} (hne : id ≠ id') (stamp stamp' : Nat) (r : Roster) :
    (r.evict id stamp).evict id' stamp' = (r.evict id' stamp').evict id stamp := by
  have h1 := holds_evict_of_ne hne.symm stamp stamp' r
  have h2 := holds_evict_of_ne hne stamp' stamp r
  rw [evict, h1, evict.eq_1 id stamp (evict id' stamp' r), h2]
  unfold evict
  split <;> split <;> simp [remove, Table.erase_comm hne.symm]

end Roster
end FleetBridge
