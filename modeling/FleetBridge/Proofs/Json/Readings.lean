import FleetBridge.Proofs.Json.Magnitudes
import FleetBridge.Proofs.Json.Values

/-!
What a text can be read as: values of integers and finite doubles, no deeper than the reader goes,
whose objects are tables.
-/
namespace FleetBridge.Json

open Decimal

section Containers
variable {α κ : Type} {P : α → Prop}

theorem forall_of_readItems {p : Reader α} (hp : ∀ s x r, p s = some (x, r) → P x) {fuel : Nat}
    {s r : List Char} {xs : List α} (h : readItems p fuel s = some (xs, r)) : ∀ x ∈ xs, P x := by
  induction fuel generalizing s xs r with
  | zero => cases h
  | succ fuel ih =>
    simp only [readItems, Option.bind_eq_bind, Option.bind_eq_some_iff] at h
    obtain ⟨⟨x, s'⟩, hx, h⟩ := h
    split at h
    next s'' =>
      simp only [Option.bind_eq_some_iff] at h
      obtain ⟨⟨ys, r'⟩, hys, h⟩ := h
      cases h
      exact List.forall_mem_cons.mpr ⟨hp _ _ _ hx, ih hys⟩
    next =>
      cases h
      exact List.forall_mem_singleton.mpr (hp _ _ _ hx)
    next => cases h

theorem forall_of_readArray {p : Reader α} (hp : ∀ s x r, p s = some (x, r) → P x) {fuel : Nat}
    {s r : List Char} {xs : List α} (h : readArray p fuel s = some (xs, r)) : ∀ x ∈ xs, P x := by
  unfold readArray at h
  split at h
  next =>
    cases h
    exact List.forall_mem_nil P
  next => exact forall_of_readItems hp h

theorem forall_of_readMembers {name : Reader κ} {p : κ → Reader α}
    (hp : ∀ k s x r, p k s = some (x, r) → P x) {fuel : Nat} {s r : List Char}
    {ms : List (κ × α)} (h : readMembers name p fuel s = some (ms, r)) : ∀ m ∈ ms, P m.2 := by
  induction fuel generalizing s ms r with
  | zero => cases h
  | succ fuel ih =>
    simp only [readMembers, Option.bind_eq_bind, Option.bind_eq_some_iff] at h
    obtain ⟨⟨k, s'⟩, -, h⟩ := h
    split at h
    next s'' =>
      simp only [Option.bind_eq_some_iff] at h
      obtain ⟨⟨v, r'⟩, hv, h⟩ := h
      split at h
      next =>
        simp only [Option.bind_eq_some_iff] at h
        obtain ⟨⟨ys, r''⟩, hys, h⟩ := h
        cases h
        exact List.forall_mem_cons.mpr ⟨hp _ _ _ _ hv, ih hys⟩
      next =>
        cases h
        exact List.forall_mem_singleton.mpr (hp _ _ _ _ hv)
      next => cases h
    next => cases h

theorem forall_of_readObject {name : Reader κ} {p : κ → Reader α}
    (hp : ∀ k s x r, p k s = some (x, r) → P x) {fuel : Nat} {s r : List Char}
    {ms : List (κ × α)} (h : readObject name p fuel s = some (ms, r)) : ∀ m ∈ ms, P m.2 := by
  unfold readObject at h
  split at h
  next =>
    cases h
    exact List.forall_mem_nil _
  next => exact forall_of_readMembers hp h

end Containers

section Numbers
variable {ok : Number → Prop}

theorem within_of_readScalar (hok : ∀ {s r n}, readNumber s = some (n, r) → ok n) {d : Nat}
    {s r : List Char} {j : Json} (h : readScalar s = some (j, r)) : Within ok d j := by
  unfold readScalar at h
  split at h
  next =>
    cases h
    exact .null
  next =>
    cases h
    exact .bool true
  next =>
    cases h
    exact .bool false
  next =>
    obtain ⟨x, -, hx⟩ := Option.map_eq_some_iff.mp h
    cases hx
    exact .string _
  next =>
    obtain ⟨x, hread, hx⟩ := Option.map_eq_some_iff.mp h
    cases hx
    exact .number (hok hread)

/-- What holds of every number that is read holds of all numbers in a value that is read. -/
theorem within_of_numbers (hok : ∀ {s r n}, readNumber s = some (n, r) → ok n) {fuel d : Nat}
    {s r : List Char} {j : Json} (h : readValue fuel d s = some (j, r)) : Within ok d j := by
  induction d generalizing s r j with
  | zero =>
    unfold readValue at h
    split at h
    next => cases h
    next => cases h
    next => exact within_of_readScalar hok h
  | succ d ih =>
    unfold readValue at h
    split at h
    next =>
      obtain ⟨x, hread, hx⟩ := Option.map_eq_some_iff.mp h
      cases hx
      exact .array (forall_of_readArray (fun _ _ _ => ih) hread)
    next =>
      obtain ⟨x, hread, hx⟩ := Option.map_eq_some_iff.mp h
      cases hx
      have hvalues := forall_of_readObject (fun _ _ _ _ => ih) hread
      exact .object (Table.ordered_ofList _) fun m hm => hvalues m (Table.mem_of_mem_ofList hm)
    next => exact within_of_readScalar hok h

end Numbers

theorem within_of_readValue {fuel d : Nat} {s r : List Char} {j : Json}
    (h : readValue fuel d s = some (j, r)) : Within Number.IsFinite d j :=
  within_of_numbers isFinite_of_readNumber h

/-- An integer that is read has 64 bits. -/
theorem inRange_of_readNumber {s r : List Char} {i : Int} (h : readNumber s = some (.int i, r)) :
    InRange i := by
  simp only [readNumber, Option.bind_eq_bind, Option.bind_eq_some_iff] at h
  obtain ⟨⟨n, r'⟩, -, x, hx, h⟩ := h
  cases h
  have hfloat (f : Float → Float) :
      (n.magnitude?.map fun x => Number.float (f x)) ≠ some (.int i) := by
    cases n.magnitude? <;> simp
  rw [InRange, maxInt64_eq, maxUInt64_eq]
  unfold Numeral.value? at hx
  simp only [maxInt64_eq, maxUInt64_eq] at hx
  split at hx
  next =>
    split at hx
    next =>
      split at hx
      next =>
        cases hx
        omega
      next => exact absurd hx (hfloat _)
    next =>
      split at hx
      next =>
        cases hx
        omega
      next => exact absurd hx (hfloat _)
  next => exact absurd hx (hfloat _)

/-- The double of every number that is read is finite. -/
theorem isFinite_toFloat_of_readNumber {s r : List Char} {n : Number}
    (h : readNumber s = some (n, r)) : n.toFloat.isFinite = true := by
  apply Below.isFinite_eq_true
  cases n with
  | float x => exact isFinite_of_readNumber h
  | int i =>
    have hrange := inRange_of_readNumber h
    rw [InRange, maxInt64_eq, maxUInt64_eq] at hrange
    cases i with
    | ofNat k =>
      rw [Int.ofNat_eq_natCast] at hrange
      exact below_significand (by rw [maxUInt64_eq]; omega)
    | negSucc k => exact (below_significand (by rw [maxUInt64_eq]; omega)).neg

/-- The doubles of all numbers in a document that is read are finite. -/
theorem within_of_read? {s : String} {j : Json} (h : read? s = some j) :
    Within (fun n => n.toFloat.isFinite = true) maxDepth j := by
  rw [read?, whole?] at h
  obtain ⟨⟨x, r⟩, hread, h⟩ := Option.bind_eq_some_iff.mp h
  dsimp only at h
  split at h
  next =>
    cases h
    exact within_of_numbers isFinite_toFloat_of_readNumber hread
  next => cases h

end FleetBridge.Json
