import FleetBridge.Proofs.Json.Numbers
import FleetBridge.Proofs.Json.Strings
import FleetBridge.Proofs.Table
import Mathlib.Data.String.Basic

/-!
Values as they are written and read: a value of whole numbers that nests no deeper than a reader
goes is read back, whatever ends its text.
-/
namespace FleetBridge.Json

@[simp] theorem skipGaps_cons {c : Char} (h : isGap c = false) (s : List Char) :
    skipGaps (c :: s) = c :: s := by
  simp [skipGaps, h]

/-! Lists of pieces. -/

theorem commas_cons {x : List Char} {xs : List (List Char)} (h : xs ≠ []) :
    commas (x :: xs) = x ++ ',' :: commas xs := by
  cases xs with
  | nil => exact absurd rfl h
  | cons y r => rfl

theorem length_le_commas (xs : List (List Char)) : xs.length ≤ (commas xs).length + 1 := by
  induction xs with
  | nil => exact Nat.zero_le _
  | cons x xs ih =>
    rcases eq_or_ne xs [] with rfl | hne
    · simp
    · rw [commas_cons hne, List.length_append, List.length_cons, List.length_cons]
      omega

theorem length_le_commas_of_mem {x : List Char} {xs : List (List Char)} (h : x ∈ xs) :
    x.length ≤ (commas xs).length := by
  induction xs with
  | nil => cases h
  | cons y xs ih =>
    rcases eq_or_ne xs [] with rfl | hne
    · rw [List.mem_singleton.mp h]
      exact Nat.le_refl _
    · rw [commas_cons hne, List.length_append, List.length_cons]
      rcases List.mem_cons.mp h with rfl | h
      · omega
      · have hle := ih h
        omega

/-- What stands between the values of a container and behind them ends a number. -/
theorem ends_comma (r : List Char) : Ends (',' :: r) := ends_cons (by decide) r

theorem ends_bracket (r : List Char) : Ends (']' :: r) := ends_cons (by decide) r

theorem ends_brace (r : List Char) : Ends ('}' :: r) := ends_cons (by decide) r

section Containers
variable {α β κ : Type} {fuel : Nat}

theorem readItems_commas {p : Reader α} {w : β → List Char} {g : β → α} {xs : List β}
    (hread : ∀ x ∈ xs, ∀ r, Ends r → p (w x ++ r) = some (g x, r)) (hne : xs ≠ [])
    (hfuel : xs.length ≤ fuel) (rest : List Char) :
    readItems p fuel (commas (xs.map w) ++ ']' :: rest) = some (xs.map g, rest) := by
  -- Each item takes one of the fuel, so the length of the text is always enough.
  induction xs generalizing fuel with
  | nil => exact absurd rfl hne
  | cons x xs ih =>
    obtain ⟨fuel, rfl⟩ : ∃ n, fuel = n + 1 := ⟨fuel - 1, by simp at hfuel; omega⟩
    rcases eq_or_ne xs [] with rfl | hxs
    · have hx := hread x List.mem_cons_self _ (ends_bracket rest)
      simp [readItems, commas, hx, skipGaps_cons (c := ']') (by decide)]
    · have hx := hread x List.mem_cons_self _
        (ends_comma (commas (xs.map w) ++ ']' :: rest))
      have hmore := ih (fun y hy => hread y (List.mem_cons_of_mem x hy)) hxs
        (Nat.le_of_succ_le_succ hfuel)
      rw [List.map_cons, commas_cons (by simpa using hxs), List.append_assoc, List.cons_append]
      simp [readItems, hx, hmore, skipGaps_cons (c := ',') (by decide)]

theorem readMembers_commas {name : Reader κ} {p : κ → Reader α} {f : String → κ}
    {w : β → List Char} {g : β → α} {ms : List (String × β)}
    (hname : ∀ k r, name (writeString k ++ r) = some (f k, r))
    (hread : ∀ m ∈ ms, ∀ r, Ends r → p (f m.1) (w m.2 ++ r) = some (g m.2, r)) (hne : ms ≠ [])
    (hfuel : ms.length ≤ fuel) (rest : List Char) :
    readMembers name p fuel
        (commas (ms.map fun m => writeString m.1 ++ ':' :: w m.2) ++ '}' :: rest) =
      some (ms.map fun m => (f m.1, g m.2), rest) := by
  -- A member is read up to what follows its value.
  have hgaps (k : String) (r : List Char) :
      skipGaps (writeString k ++ r) = writeString k ++ r := rfl
  have hcolon (r : List Char) : skipGaps (':' :: r) = ':' :: r := rfl
  induction ms generalizing fuel with
  | nil => exact absurd rfl hne
  | cons m ms ih =>
    obtain ⟨fuel, rfl⟩ : ∃ n, fuel = n + 1 := ⟨fuel - 1, by simp at hfuel; omega⟩
    rcases eq_or_ne ms [] with rfl | hms
    · have hm := hread m List.mem_cons_self _ (ends_brace rest)
      simp [readMembers, commas, hgaps, hname, hcolon, hm, skipGaps_cons (c := '}') (by decide)]
    · have hm := hread m List.mem_cons_self _
        (ends_comma (commas (ms.map fun m => writeString m.1 ++ ':' :: w m.2) ++ '}' :: rest))
      have hmore := ih (fun y hy => hread y (List.mem_cons_of_mem m hy)) hms
        (Nat.le_of_succ_le_succ hfuel)
      rw [List.map_cons, commas_cons (by simpa using hms)]
      simp [readMembers, hgaps, hname, hcolon, hm, hmore, skipGaps_cons (c := ',') (by decide)]

/-- Text that a value may begin with: neither a gap nor what closes a container. -/
def Opens (s : List Char) : Prop :=
  ∃ c r, s = c :: r ∧ isGap c = false ∧ c ≠ ']'

theorem Opens.append {s : List Char} (h : Opens s) (r : List Char) : Opens (s ++ r) := by
  obtain ⟨c, s, rfl, hc⟩ := h
  exact ⟨c, s ++ r, rfl, hc⟩

theorem readArray_commas {p : Reader α} {w : β → List Char} {g : β → α} {xs : List β}
    (hopens : ∀ x ∈ xs, Opens (w x))
    (hread : ∀ x ∈ xs, ∀ r, Ends r → p (w x ++ r) = some (g x, r))
    (hfuel : xs.length ≤ fuel) (rest : List Char) :
    readArray p fuel (commas (xs.map w) ++ ']' :: rest) = some (xs.map g, rest) := by
  cases xs with
  | nil => rfl
  | cons x xs =>
    have hitems := readItems_commas hread (List.cons_ne_nil x xs) hfuel rest
    have hfront : Opens (commas ((x :: xs).map w) ++ ']' :: rest) := by
      have hx := hopens x List.mem_cons_self
      cases xs with
      | nil => exact hx.append _
      | cons y r => exact (hx.append _).append _
    obtain ⟨c, r, hs, hgap, hclose⟩ := hfront
    rw [hs] at hitems ⊢
    rw [readArray, skipGaps_cons hgap]
    split
    next h => exact absurd (List.cons.inj h).1 hclose
    next => exact hitems

theorem readObject_commas {name : Reader κ} {p : κ → Reader α} {f : String → κ}
    {w : β → List Char} {g : β → α} {ms : List (String × β)}
    (hname : ∀ k r, name (writeString k ++ r) = some (f k, r))
    (hread : ∀ m ∈ ms, ∀ r, Ends r → p (f m.1) (w m.2 ++ r) = some (g m.2, r))
    (hfuel : ms.length ≤ fuel) (rest : List Char) :
    readObject name p fuel
        (commas (ms.map fun m => writeString m.1 ++ ':' :: w m.2) ++ '}' :: rest) =
      some (ms.map fun m => (f m.1, g m.2), rest) := by
  cases ms with
  | nil => rfl
  | cons m ms =>
    have hmembers := readMembers_commas hname hread (List.cons_ne_nil m ms) hfuel rest
    obtain ⟨r, hs⟩ : ∃ r, commas ((m :: ms).map fun m => writeString m.1 ++ ':' :: w m.2) ++
        '}' :: rest = '"' :: r := by
      cases ms with
      | nil => exact ⟨_, rfl⟩
      | cons y r => exact ⟨_, rfl⟩
    rw [hs] at hmembers ⊢
    exact hmembers

end Containers

theorem writeItems_eq (xs : List Json) : writeItems xs = xs.map write := by
  induction xs with
  | nil => rfl
  | cons x xs ih => rw [writeItems, ih, List.map_cons]

theorem writeMembers_eq (ms : List (String × Json)) :
    writeMembers ms = ms.map fun m => writeString m.1 ++ ':' :: write m.2 := by
  induction ms with
  | nil => rfl
  | cons m ms ih => rw [writeMembers, ih, List.map_cons]

/-! Whole values. -/

/-- Values whose numbers are as asked and whose containers nest at most so deep. The members of each
object are a table. -/
inductive Within (ok : Number → Prop) : Nat → Json → Prop
  | null {d : Nat} : Within ok d .null
  | bool {d : Nat} (b : Bool) : Within ok d (.bool b)
  | number {d : Nat} {n : Number} (h : ok n) : Within ok d (.number n)
  | string {d : Nat} (s : String) : Within ok d (.string s)
  | array {d : Nat} {xs : List Json} (h : ∀ x ∈ xs, Within ok d x) : Within ok (d + 1) (.array xs)
  | object {d : Nat} {ms : List (String × Json)} (hkeys : Table.Ordered ms)
      (h : ∀ m ∈ ms, Within ok d m.2) : Within ok (d + 1) (.object ms)

theorem Within.mono {ok ok' : Number → Prop} (hok : ∀ n, ok n → ok' n) {d : Nat} {j : Json}
    (h : Within ok d j) : Within ok' d j := by
  induction h with
  | null => exact .null
  | bool b => exact .bool b
  | number h => exact .number (hok _ h)
  | string s => exact .string s
  | array _ ih => exact .array ih
  | object hkeys _ ih => exact .object hkeys ih

/-- An integer that a number's text keeps. -/
def Number.IsWhole : Number → Prop
  | .int n => InRange n
  | .float _ => False

/-- A number whose text is a numeral. -/
def Number.IsSpelled (n : Number) : Prop :=
  ∀ rest, Ends rest → ∃ x, readNumeral (writeNumber n ++ rest) = some (x, rest)

theorem Number.isSpelled_int (n : Int) : (Number.int n).IsSpelled := fun _ h =>
  ⟨_, readNumeral_integerText n h⟩

theorem Number.IsWhole.isSpelled (n : Number) (h : n.IsWhole) : n.IsSpelled := by
  cases n with
  | int n => exact isSpelled_int n
  | float x => exact h.elim

/-- The characters that a number may begin with. -/
def StartsNumber (c : Char) : Prop := c = '-' ∨ Decimal.isDigit c = true

theorem StartsNumber.ne {c c' : Char} (h : StartsNumber c)
    (h' : Decimal.isDigit c' = false ∧ c' ≠ '-') : c ≠ c' := by
  rintro rfl
  rcases h with h | h
  · exact h'.2 h
  · exact Bool.false_ne_true (h'.1.symm.trans h)

theorem StartsNumber.not_gap {c : Char} (h : StartsNumber c) : isGap c = false := by
  have hspace : c ≠ ' ' := h.ne (by decide)
  have htab : c ≠ '\t' := h.ne (by decide)
  have hline : c ≠ '\n' := h.ne (by decide)
  have hreturn : c ≠ '\r' := h.ne (by decide)
  simp [isGap, hspace, htab, hline, hreturn]

theorem startsNumber_of_readNumeral {c : Char} {s : List Char} {x : Numeral × List Char}
    (h : readNumeral (c :: s) = some x) : StartsNumber c := by
  by_cases hminus : c = '-'
  · exact .inl hminus
  · refine .inr ?_
    by_contra hdigit
    have hwhole : numeralWhole (c :: s) = none := by
      unfold numeralWhole
      split
      next he =>
        cases he
        exact absurd rfl hdigit
      next => simp [hdigit]
    have hnone : readNumeral (c :: s) = none := by
      rw [readNumeral_unsigned fun r he => hminus (List.cons.inj he).1, hwhole]
      rfl
    exact Option.some_ne_none x (h.symm.trans hnone)

theorem Number.IsSpelled.eq_cons {n : Number} (h : n.IsSpelled) :
    ∃ c r, writeNumber n = c :: r ∧ StartsNumber c := by
  obtain ⟨x, hx⟩ := h [] ends_nil
  rw [List.append_nil] at hx
  cases hw : writeNumber n with
  | nil =>
    rw [hw] at hx
    cases hx
  | cons c r =>
    rw [hw] at hx
    exact ⟨c, r, rfl, startsNumber_of_readNumeral hx⟩

theorem readValue_number {c : Char} (h : StartsNumber c) (fuel d : Nat) (s : List Char) :
    readValue fuel d (c :: s) = (readNumber (c :: s)).map fun (x, r) => (.number x, r) := by
  have hscalar : readScalar (c :: s) = (readNumber (c :: s)).map fun (x, r) => (.number x, r) := by
    unfold readScalar
    split
    next he => exact absurd (List.cons.inj he).1 (h.ne (by decide))
    next he => exact absurd (List.cons.inj he).1 (h.ne (by decide))
    next he => exact absurd (List.cons.inj he).1 (h.ne (by decide))
    next he => exact absurd (List.cons.inj he).1 (h.ne (by decide))
    next => rfl
  -- Containers are told by their first character, at depth zero to refuse them.
  cases d with
  | zero =>
    rw [readValue, skipGaps_cons h.not_gap]
    split
    next he => exact absurd (List.cons.inj he).1 (h.ne (by decide))
    next he => exact absurd (List.cons.inj he).1 (h.ne (by decide))
    next => exact hscalar
  | succ d =>
    rw [readValue, skipGaps_cons h.not_gap]
    split
    next he => exact absurd (List.cons.inj he).1 (h.ne (by decide))
    next he => exact absurd (List.cons.inj he).1 (h.ne (by decide))
    next => exact hscalar

theorem readValue_string (fuel d : Nat) (s : String) (rest : List Char) :
    readValue fuel d (writeString s ++ rest) = some (.string s, rest) := by
  have hscalar : readScalar (writeString s ++ rest) = some (.string s, rest) := by
    change (readString (writeString s ++ rest)).map (fun x => (Json.string x.1, x.2)) = _
    rw [readString_writeString]
    rfl
  cases d with
  | zero => exact hscalar
  | succ d => exact hscalar

theorem opens_write {d : Nat} {j : Json} (h : Within Number.IsSpelled d j) : Opens (write j) := by
  cases h with
  | null => exact ⟨_, _, rfl, by decide⟩
  | bool b => cases b <;> exact ⟨_, _, rfl, by decide⟩
  | number hn =>
    obtain ⟨c, r, hw, hc⟩ := hn.eq_cons
    exact ⟨c, r, hw, hc.not_gap, hc.ne (by decide)⟩
  | string s => exact ⟨_, _, rfl, by decide⟩
  | array => exact ⟨_, _, rfl, by decide⟩
  | object => exact ⟨_, _, rfl, by decide⟩

theorem length_write_array (xs : List Json) : xs.length ≤ (write (.array xs)).length := by
  have hlong := length_le_commas (writeItems xs)
  rw [writeItems_eq, List.length_map] at hlong
  rw [write, List.length_cons, List.length_append, List.length_singleton, writeItems_eq]
  omega

theorem length_write_item {x : Json} {xs : List Json} (h : x ∈ xs) :
    (write x).length ≤ (write (.array xs)).length := by
  have hle := length_le_commas_of_mem (List.mem_map_of_mem (f := write) h)
  rw [write, List.length_cons, List.length_append, List.length_singleton, writeItems_eq]
  omega

theorem length_write_object (ms : List (String × Json)) :
    ms.length ≤ (write (.object ms)).length := by
  have hlong := length_le_commas (writeMembers ms)
  rw [writeMembers_eq, List.length_map] at hlong
  rw [write, List.length_cons, List.length_append, List.length_singleton, writeMembers_eq]
  omega

theorem length_write_member {m : String × Json} {ms : List (String × Json)} (h : m ∈ ms) :
    (write m.2).length ≤ (write (.object ms)).length := by
  have hle := length_le_commas_of_mem
    (List.mem_map_of_mem (f := fun m => writeString m.1 ++ ':' :: write m.2) h)
  rw [List.length_append, List.length_cons] at hle
  rw [write, List.length_cons, List.length_append, List.length_singleton, writeMembers_eq]
  omega

/-- Members are read back one by one if their values are. -/
theorem readObject_writeMembers {p : Reader Json} {ms : List (String × Json)} {fuel : Nat}
    (hread : ∀ m ∈ ms, ∀ r, Ends r → p (write m.2 ++ r) = some (m.2, r))
    (hfuel : ms.length ≤ fuel) (rest : List Char) :
    readObject readString (fun _ => p) fuel (commas (writeMembers ms) ++ '}' :: rest) =
      some (ms, rest) := by
  have hmembers := readObject_commas (p := fun _ => p) (f := id) (g := id) readString_writeString
    hread hfuel rest
  have hsame : ms.map (fun m => (id m.1, id m.2)) = ms := List.map_id ms
  rw [writeMembers_eq, hmembers, hsame]

/-- A value of whole numbers is read back from its text by every reader that goes deep enough. -/
theorem readValue_write {d fuel : Nat} {j : Json} (h : Within Number.IsWhole d j)
    (hfuel : (write j).length ≤ fuel) {rest : List Char} (hrest : Ends rest) :
    readValue fuel d (write j ++ rest) = some (j, rest) := by
  induction h generalizing rest with
  | @null d => cases d <;> rfl
  | @bool d b => cases b <;> cases d <;> rfl
  | @number d n hn =>
    cases n with
    | float x => exact hn.elim
    | int n =>
      obtain ⟨c, r, hw, hc⟩ := (Number.isSpelled_int n).eq_cons
      have hread : readNumber (writeNumber (.int n) ++ rest) = some (.int n, rest) :=
        readNumber_integerText hn hrest
      rw [write, hw, List.cons_append, readValue_number hc, ← List.cons_append, ← hw, hread]
      rfl
  | @string d s => exact readValue_string fuel d s rest
  | @array d xs hxs ih =>
    have hitems : readArray (readValue fuel d) fuel (commas (writeItems xs) ++ ']' :: rest) =
        some (xs, rest) := by
      rw [writeItems_eq, readArray_commas (g := id)
        (fun x hx => opens_write ((hxs x hx).mono Number.IsWhole.isSpelled))
        (fun x hx r hr => ih x hx (Nat.le_trans (length_write_item hx) hfuel) hr)
        (Nat.le_trans (length_write_array xs) hfuel) rest, List.map_id]
    simp only [write, List.cons_append, List.append_assoc, List.nil_append, readValue,
      skipGaps_cons (c := '[') (by decide), hitems, Option.map_some]
  | @object d ms hkeys _ ih =>
    have hmembers := readObject_writeMembers (p := readValue fuel d)
      (fun m hm r hr => ih m hm (Nat.le_trans (length_write_member hm) hfuel) hr)
      (Nat.le_trans (length_write_object ms) hfuel) rest
    simp only [write, List.cons_append, List.append_assoc, List.nil_append, readValue,
      skipGaps_cons (c := '\x7b') (by decide), hmembers, Option.map_some, hkeys.ofList_eq]

end FleetBridge.Json
