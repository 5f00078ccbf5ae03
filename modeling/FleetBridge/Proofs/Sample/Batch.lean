import FleetBridge.Proofs.Sample.Leaves

/-!
Records in a batch. A newline ends a record unless it stands in a quoted text, and only behind the
`=` of a field can a quote open one.
-/
namespace FleetBridge.Record

open Sample

/-- Where in a record a character stands. -/
inductive Place where
  | series
  | name
  | opening
  | value
  | quoted
  | time
  deriving DecidableEq

def afterValue (c : Char) : Place := if c = ',' then .name else if c = ' ' then .time else .value

/-- Where the next character stands, behind one that nothing escapes. -/
def Place.next : Place → Char → Place
  | .series, c => if c = ' ' then .name else .series
  | .name, c => if c = '=' then .opening else .name
  | .opening, c => if c = '"' then .quoted else afterValue c
  | .value, c => afterValue c
  | .quoted, c => if c = '"' then .value else .quoted
  | .time, _ => .time

/-- A place, and whether a backslash stands right before it that escapes what comes. -/
structure Stand where
  place : Place
  escaped : Bool
  deriving DecidableEq

def start : Stand := ⟨.series, false⟩

/-- The way past one character; there is none past the end of the record. Only in a quoted text
does a backslash escape another one. -/
def Stand.step? (a : Stand) (c : Char) : Option Stand :=
  if c = '\n' ∧ a.place ≠ .quoted then none
  else some ⟨if a.escaped then a.place else a.place.next c,
    c = '\\' && !(a.escaped && a.place = .quoted)⟩

/-- The record that a text begins with, and those behind it. -/
def cut (a : Stand) : List Char → List Char × List (List Char)
  | [] => ([], [])
  | c :: r =>
    match a.step? c with
    | none =>
      let (s, ss) := cut start r
      ([], s :: ss)
    | some a =>
      let (s, ss) := cut a r
      (c :: s, ss)

/-- The records of a batch. -/
def split (s : List Char) : List (List Char) := (cut start s).1 :: (cut start s).2

def walk (a : Stand) (s : List Char) : Option Stand := s.foldlM Stand.step? a

variable {a : Stand} {p : Place} {ends s r : List Char} {c : Char}

theorem walk_cons (a : Stand) (c : Char) (s : List Char) :
    walk a (c :: s) = (a.step? c).bind fun a => walk a s :=
  List.foldlM_cons

theorem walk_append (a : Stand) (s r : List Char) :
    walk a (s ++ r) = (walk a s).bind fun a => walk a r :=
  List.foldlM_append

/-- A text is one record just when there is a way to its end. -/
theorem cut_eq_iff : cut a s = (s, []) ↔ (walk a s).isSome := by
  induction s generalizing a with
  | nil => simp [cut, walk]
  | cons c s ih =>
    rw [cut, walk_cons]
    cases ha : a.step? c with
    | none => simp
    | some b =>
      rw [Option.bind_some, ← ih]
      simp [Prod.ext_iff]

theorem split_eq_iff : split s = [s] ↔ (walk start s).isSome := by
  rw [← cut_eq_iff, split, List.cons.injEq, Prod.ext_iff]

/-! Names. -/

/-- A place that only an unescaped `leave` leads on from. -/
structure Stays (p : Place) (leave : Char) : Prop where
  next : ∀ c, c ≠ leave → p.next c = p
  bare : p ≠ .quoted

theorem stays_series : Stays .series ' ' := ⟨fun _ h => if_neg h, nofun⟩

theorem stays_name : Stays .name '=' := ⟨fun _ h => if_neg h, nofun⟩

section Names
variable {leave : Char}

theorem Stays.step?_eq (hp : Stays p leave) {b : Bool} (hc : c ≠ '\n')
    (hescaped : c = leave → b = true) : Stand.step? ⟨p, b⟩ c = some ⟨p, decide (c = '\\')⟩ := by
  have hplace : (if b = true then p else p.next c) = p := by
    split
    next => rfl
    next hb => exact hp.next c fun he => hb (hescaped he)
  rw [Stand.step?, if_neg fun h => hc h.1]
  simp [hplace, hp.bare]

theorem Stays.newline (hp : Stays p leave) (b : Bool) : Stand.step? ⟨p, b⟩ '\n' = none :=
  if_pos ⟨rfl, hp.bare⟩

variable (hp : Stays p leave) (hleave : leave ∈ ends) (hslash : '\\' ∉ ends)
include hp hleave hslash

theorem walk_escape_cons (b : Bool) (hc : c ≠ '\n') (s : List Char) :
    walk ⟨p, b⟩ (escape ends (c :: s)) = walk ⟨p, decide (c = '\\')⟩ (escape ends s) := by
  by_cases hmem : c ∈ ends
  · have hbackslash : Stand.step? ⟨p, b⟩ '\\' = some ⟨p, true⟩ :=
      hp.step?_eq (by decide) fun he => absurd (he ▸ hleave) hslash
    rw [escape_cons_of_mem hmem, walk_cons, hbackslash, Option.bind_some, walk_cons,
      hp.step?_eq hc fun _ => rfl, Option.bind_some]
  · rw [escape_cons_of_not_mem hmem, walk_cons,
      hp.step?_eq hc fun he => absurd (he ▸ hleave) hmem, Option.bind_some]

/-- What stands before a name escapes nothing in it unless the name is empty. -/
theorem walk_escape (hs : '\n' ∉ s) (hclosed : Closed s) {b : Bool} (hb : s = [] → b = false) :
    walk ⟨p, b⟩ (escape ends s) = some ⟨p, false⟩ := by
  induction s generalizing b with
  | nil => rw [hb rfl]; rfl
  | cons c s ih =>
    have hc : c ≠ '\n' := fun he => hs (he ▸ List.mem_cons_self)
    rw [walk_escape_cons hp hleave hslash b hc]
    refine ih (fun h => hs (List.mem_cons_of_mem c h)) ?_ fun he => ?_
    · rcases eq_or_ne s [] with rfl | hne
      · exact nofun
      · exact hclosed.tail hne
    · subst he
      exact decide_eq_false fun hc => hclosed (congrArg some hc)

variable (hline : '\n' ∉ ends)
include hline

/-- No way leads past a newline in a name. -/
theorem walk_escape_newline (h : '\n' ∈ s) (b : Bool) : walk ⟨p, b⟩ (escape ends s) = none := by
  induction s generalizing b with
  | nil => cases h
  | cons c s ih =>
    rcases eq_or_ne c '\n' with rfl | hc
    · rw [escape_cons_of_not_mem hline, walk_cons, hp.newline, Option.bind_none]
    · rw [walk_escape_cons hp hleave hslash b hc]
      exact ih (List.mem_of_ne_of_mem (Ne.symm hc) h) _

/-- The way past a name is the way past all of it that is written, if no newline is. -/
theorem walk_escape_append (hclosed : Closed s) (r : List Char) :
    walk ⟨p, false⟩ (escape ends s ++ r) = if '\n' ∈ s then none else walk ⟨p, false⟩ r := by
  rw [walk_append]
  split
  next h => rw [walk_escape_newline hp hleave hslash hline h, Option.bind_none]
  next h => rw [walk_escape hp hleave hslash h hclosed fun _ => rfl, Option.bind_some]

end Names

theorem walk_name (hs : Closed s) (r : List Char) :
    walk ⟨.name, false⟩ (escape nameEnds s ++ r) =
      if '\n' ∈ s then none else walk ⟨.name, false⟩ r :=
  walk_escape_append stays_name (by decide) (by decide) (by decide) hs r

/-! Values. -/

/-- Characters that stay where they are. -/
theorem walk_word (hs : ∀ c ∈ s, p.next c = p ∧ c ≠ '\\' ∧ c ≠ '\n') :
    walk ⟨p, false⟩ s = some ⟨p, false⟩ := by
  induction s with
  | nil => rfl
  | cons c s ih =>
    obtain ⟨⟨hnext, hslash, hline⟩, hrest⟩ := List.forall_mem_cons.mp hs
    have hstep : Stand.step? ⟨p, false⟩ c = some ⟨p, false⟩ := by
      simp [Stand.step?, hline, hslash, hnext]
    rw [walk_cons, hstep, Option.bind_some, ih hrest]

/-- What can stand in a value without quotes. -/
def isWordChar (c : Char) : Bool := !endsWord c && c ≠ '"' && c ≠ '\\' && c ≠ '\n'

theorem isWordChar_iff :
    isWordChar c = true ↔ (c ≠ ',' ∧ c ≠ ' ') ∧ c ≠ '"' ∧ c ≠ '\\' ∧ c ≠ '\n' := by
  simp [isWordChar, endsWord, and_assoc]

theorem walk_opening (hs : ∀ c ∈ s, isWordChar c = true) (hne : s ≠ []) :
    walk ⟨.opening, false⟩ s = some ⟨.value, false⟩ := by
  have hvalue (c : Char) (hc : isWordChar c = true) :
      Place.next .value c = .value ∧ c ≠ '\\' ∧ c ≠ '\n' := by
    obtain ⟨⟨hcomma, hspace⟩, -, hslash, hline⟩ := isWordChar_iff.mp hc
    exact ⟨by simp [Place.next, afterValue, hcomma, hspace], hslash, hline⟩
  obtain ⟨c, s, rfl⟩ := List.exists_cons_of_ne_nil hne
  obtain ⟨hc, hrest⟩ := List.forall_mem_cons.mp hs
  obtain ⟨⟨hcomma, hspace⟩, hquote, hslash, hline⟩ := isWordChar_iff.mp hc
  have hstep : Stand.step? ⟨.opening, false⟩ c = some ⟨.value, false⟩ := by
    simp [Stand.step?, Place.next, afterValue, hcomma, hspace, hquote, hslash, hline]
  rw [walk_cons, hstep, Option.bind_some, walk_word fun d hd => hvalue d (hrest d hd)]

/-- Whatever stands in a quoted text, its end is found. -/
theorem walk_quoted (s : List Char) :
    walk ⟨.quoted, false⟩ (escape textEnds s) = some ⟨.quoted, false⟩ := by
  induction s with
  | nil => rfl
  | cons c s ih =>
    by_cases hc : c ∈ textEnds
    · have hstep : Stand.step? ⟨.quoted, true⟩ c = some ⟨.quoted, false⟩ := by
        simp [Stand.step?]
      rw [escape_cons_of_mem hc, walk_cons]
      change walk ⟨.quoted, true⟩ (c :: escape textEnds s) = _
      rw [walk_cons, hstep, Option.bind_some, ih]
    · have hquote : c ≠ '"' ∧ c ≠ '\\' := by simpa [textEnds] using hc
      have hstep : Stand.step? ⟨.quoted, false⟩ c = some ⟨.quoted, false⟩ := by
        simp [Stand.step?, Place.next, hquote]
      rw [escape_cons_of_not_mem hc, walk_cons, hstep, Option.bind_some, ih]

theorem isWordChar_of_numeral (h : Decimal.isNumeralChar c = true) : isWordChar c = true := by
  refine isWordChar_iff.mpr ⟨⟨?_, ?_⟩, ?_, ?_, ?_⟩ <;> (rintro rfl; exact absurd h (by decide))

theorem walk_fieldText {f : Field} (hf : f.IsFinite) :
    walk ⟨.opening, false⟩ (fieldText f) = some ⟨.value, false⟩ := by
  cases f with
  | float x =>
    exact walk_opening (fun c hc => isWordChar_of_numeral (Decimal.allNumeral_text rfl hf c hc))
      (Decimal.text_ne_nil rfl hf)
  | boolean b => cases b <;> rfl
  | text s =>
    rw [fieldText, walk_cons]
    change walk ⟨.quoted, false⟩ (escape textEnds s.toList ++ ['"']) = _
    rw [walk_append, walk_quoted]
    rfl

/-! Lines. -/

theorem walk_entryText {f : String × Field} (hkey : Closed f.1.toList) (hf : f.2.IsFinite)
    (r : List Char) :
    walk ⟨.name, false⟩ (entryText f ++ r) =
      if '\n' ∈ f.1.toList then none else walk ⟨.value, false⟩ r := by
  rw [entryText, nameText, List.append_assoc, walk_name hkey]
  split
  next => rfl
  next =>
    change walk ⟨.opening, false⟩ (fieldText f.2 ++ r) = _
    rw [walk_append, walk_fieldText hf, Option.bind_some]

theorem isSome_walk_commas {fs : Table String Field} (hne : fs ≠ [])
    (hclosed : ∀ f ∈ fs, Closed f.1.toList) (hfinite : ∀ f ∈ fs, f.2.IsFinite) (r : List Char) :
    (walk ⟨.name, false⟩ (Json.commas (fs.map entryText) ++ ' ' :: r)).isSome ↔
      (∀ f ∈ fs, '\n' ∉ f.1.toList) ∧ (walk ⟨.time, false⟩ r).isSome := by
  induction fs with
  | nil => exact absurd rfl hne
  | cons f fs ih =>
    obtain ⟨hkey, hkeys⟩ := List.forall_mem_cons.mp hclosed
    obtain ⟨hf, hfs⟩ := List.forall_mem_cons.mp hfinite
    rcases eq_or_ne fs [] with rfl | hrest
    · have hone : Json.commas ([f].map entryText) = entryText f := by simp [Json.commas]
      rw [hone, walk_entryText hkey hf, List.forall_mem_singleton]
      change (if _ then none else walk ⟨.time, false⟩ r).isSome = true ↔ _
      by_cases h : '\n' ∈ f.1.toList <;> simp [h]
    · rw [List.map_cons, Json.commas_cons (by simpa using hrest), List.append_assoc,
        List.cons_append, walk_entryText hkey hf, List.forall_mem_cons, and_assoc,
        ← ih hrest hkeys hfs]
      change (if _ then none else walk ⟨.name, false⟩ _).isSome = true ↔ _
      by_cases h : '\n' ∈ f.1.toList <;> simp [h]

theorem walk_series {m : List Char} (hm : Clean m) {special : List Char} (hspace : ' ' ∈ special)
    (hslash : '\\' ∉ special) (hline : '\n' ∉ special) (r : List Char) :
    walk ⟨.series, false⟩ (escape special m ++ r) = walk ⟨.series, false⟩ r := by
  rw [walk_escape_append stays_series hspace hslash hline hm.2, if_neg hm.1]

theorem walk_tags {ts : Table String String}
    (hts : ∀ t ∈ ts, Clean t.1.toList ∧ Clean t.2.toList) (r : List Char) :
    walk ⟨.series, false⟩ (ts.flatMap tagText ++ ' ' :: r) = walk ⟨.name, false⟩ r := by
  induction ts with
  | nil => rfl
  | cons t ts ih =>
    obtain ⟨⟨hkey, hvalue⟩, hrest⟩ := List.forall_mem_cons.mp hts
    rw [List.flatMap_cons]
    by_cases ht : t.2.isEmpty = true
    · rw [tagText_of_isEmpty ht]
      exact ih hrest
    · rw [tagText_of_not_isEmpty ht]
      simp only [List.cons_append, List.append_assoc]
      change walk ⟨.series, false⟩ (nameText t.1 ++ _) = _
      rw [nameText, walk_series hkey (by decide) (by decide) (by decide)]
      change walk ⟨.series, false⟩ (nameText t.2 ++ _) = _
      rw [nameText, walk_series hvalue (by decide) (by decide) (by decide), ih hrest]

theorem walk_time (e : Int) : (walk ⟨.time, false⟩ (Decimal.integerText e)).isSome := by
  have hword : walk ⟨.time, false⟩ (Decimal.integerText e) = some ⟨.time, false⟩ :=
    walk_word fun c hc => by
      obtain ⟨-, -, hslash, hline⟩ :=
        isWordChar_iff.mp (isWordChar_of_numeral (Decimal.allNumeral_integerText e c hc))
      exact ⟨rfl, hslash, hline⟩
  rw [hword]
  rfl

end FleetBridge.Record

namespace FleetBridge.Sample

open Record

/-- The line of the sample is one record and says what the sample holds: no newline stands outside
a quoted text, nothing lacks its name, and every name ends where it should. -/
structure OneRecord (x : Sample) : Prop where
  whole : split x.line.toList = [x.line.toList]
  measured : x.measurement ≠ ""
  named : ∀ f ∈ x.fields, f.1 ≠ ""
  legible : ofLine? x.line = some x.record

variable {x : Sample}

theorem isSome_walk_line (hm : Clean x.measurement.toList)
    (hts : ∀ t ∈ x.tags, Clean t.1.toList ∧ Clean t.2.toList) (hne : x.fields ≠ [])
    (hfinite : ∀ f ∈ x.fields, f.2.IsFinite) (hclosed : ∀ f ∈ x.fields, Closed f.1.toList) :
    (walk start x.line.toList).isSome ↔ ∀ f ∈ x.fields, '\n' ∉ f.1.toList := by
  rw [line, String.toList_ofList, lineChars, intercalate_comma, List.append_assoc, start,
    walk_series hm (by decide) (by decide) (by decide), walk_tags hts,
    isSome_walk_commas hne hclosed hfinite, and_iff_left (walk_time x.time)]

/-- Only the names of its fields can spoil the line of a sample that can be stored. -/
theorem oneRecord_iff (hmeasured : x.measurement ≠ "") (hm : Clean x.measurement.toList)
    (hts : ∀ t ∈ x.tags, Clean t.1.toList ∧ Clean t.2.toList) (hne : x.fields ≠ [])
    (hfinite : ∀ f ∈ x.fields, f.2.IsFinite) :
    x.OneRecord ↔ ∀ f ∈ x.fields, f.1 ≠ "" ∧ Clean f.1.toList := by
  have hclosed := ofLine?_line_iff hm.2 (fun t ht => ⟨(hts t ht).1.2, (hts t ht).2.2⟩) hfinite
  constructor
  · intro h f hf
    have hkeys := hclosed.mp h.legible
    have hwalk := split_eq_iff.mp h.whole
    exact ⟨h.named f hf, (isSome_walk_line hm hts hne hfinite hkeys).mp hwalk f hf, hkeys f hf⟩
  · intro h
    have hkeys : ∀ f ∈ x.fields, Closed f.1.toList := fun f hf => (h f hf).2.2
    refine ⟨split_eq_iff.mpr ?_, hmeasured, fun f hf => (h f hf).1, hclosed.mpr hkeys⟩
    exact (isSome_walk_line hm hts hne hfinite hkeys).mpr fun f hf => (h f hf).2.1

/-- The line of a document that is read is one record just when the way to each of its leaves has a
name that can stand there. -/
theorem oneRecord_ofJson?_iff {text measurement : String} {tags : Table String String}
    {document : Json} {time : Int} (hread : Json.read? text = some document)
    (hmeasured : measurement ≠ "") (hm : Clean measurement.toList)
    (hts : ∀ t ∈ tags, Clean t.1.toList ∧ Clean t.2.toList)
    (hx : ofJson? measurement tags document time = some x) :
    x.OneRecord ↔ ∀ l ∈ document.leaves, Safe l.1 := by
  have hfields : x = ⟨measurement, tags, fieldsOf document, time⟩ ∧ fieldsOf document ≠ [] := by
    rw [ofJson?] at hx
    split at hx
    next => cases hx
    next hne => exact ⟨(Option.some.inj hx).symm, hne⟩
  obtain ⟨rfl, hne⟩ := hfields
  rw [oneRecord_iff hmeasured hm hts hne (finite_fieldsOf hread)]
  calc
    (∀ f ∈ fieldsOf document, f.1 ≠ "" ∧ Clean f.1.toList) ↔
        ∀ k ∈ (fieldsOf document).keys, k ≠ "" ∧ Clean k.toList := by
      rw [Table.keys, List.forall_mem_map]
    _ ↔ ∀ l ∈ document.leaves, nameFrom none l.1 ≠ "" ∧ Clean (nameFrom none l.1).toList := by
      simp only [mem_keys_fieldsOf]
      constructor
      · intro h l hl
        exact h _ ⟨l, hl, rfl⟩
      · rintro h k ⟨l, hl, rfl⟩
        exact h l hl
    _ ↔ ∀ l ∈ document.leaves, Safe l.1 := by simp only [safe_iff]

end FleetBridge.Sample
