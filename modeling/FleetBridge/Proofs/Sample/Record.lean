import FleetBridge.Proofs.Decimal.Layout
import FleetBridge.Proofs.Json.Values
import FleetBridge.Sample.Line

/-!
Reading a line back. A name goes up to a separator that has no backslash before it, and a quoted
text up to a quote that has none; the backslashes that escape are left out. A sample is read back
from its line unless one of its names ends in a backslash.
-/
namespace FleetBridge

/-- What a line says of a field. A number is what its text says. -/
inductive Reading where
  | number (text : String)
  | boolean (b : Bool)
  | text (s : String)
  deriving DecidableEq

structure Record where
  measurement : String
  tags : List (String × String)
  fields : List (String × Reading)
  time : Int
  deriving DecidableEq

namespace Record

open Sample

abbrev Reader (α : Type) := List Char → Option (α × List Char)

/-- The characters up to the first of `ends` without a backslash before it. A backslash before any
other character stands for itself. -/
def readName (ends : List Char) : List Char → List Char × List Char
  | [] => ([], [])
  | '\\' :: c :: r =>
    if c ∈ ends then
      let (s, r) := readName ends r
      (c :: s, r)
    else
      let (s, r) := readName ends (c :: r)
      ('\\' :: s, r)
  | c :: r =>
    if c ∈ ends then ([], c :: r)
    else
      let (s, r) := readName ends r
      (c :: s, r)

/-- The characters up to the closing quote. -/
def readQuoted : Reader (List Char)
  | [] => none
  | '"' :: r => some ([], r)
  | '\\' :: c :: r =>
    if c ∈ textEnds then (readQuoted r).map fun (s, r) => (c :: s, r)
    else (readQuoted (c :: r)).map fun (s, r) => ('\\' :: s, r)
  | c :: r => (readQuoted r).map fun (s, r) => (c :: s, r)

def endsWord (c : Char) : Bool := c = ',' || c = ' '

/-- What a word without quotes says. -/
def ofWord? (word : List Char) : Option Reading :=
  if word = boolText true then some (.boolean true)
  else if word = boolText false then some (.boolean false)
  else if !word.isEmpty && word.all Decimal.isNumeralChar then some (.number (String.ofList word))
  else none

def readValue : Reader Reading
  | '"' :: r => (readQuoted r).map fun (s, r) => (.text (String.ofList s), r)
  | s => (ofWord? (s.takeWhile fun c => !endsWord c)).map fun v =>
      (v, s.dropWhile fun c => !endsWord c)

/-- Tags up to the space behind the last one. -/
def readTags : Nat → Reader (List (String × String))
  | 0, _ => none
  | _ + 1, ' ' :: r => some ([], r)
  | fuel + 1, ',' :: r =>
    match readName nameEnds r with
    | (k, '=' :: r) => do
      let (v, r) := readName nameEnds r
      let (ts, r) ← readTags fuel r
      some ((String.ofList k, String.ofList v) :: ts, r)
    | _ => none
  | _ + 1, _ => none

def readField : Reader (String × Reading) := fun s =>
  match readName nameEnds s with
  | (k, '=' :: r) => (readValue r).map fun (v, r) => ((String.ofList k, v), r)
  | _ => none

/-- Fields up to the space behind the last one; at least one stands here. -/
def readFields : Nat → Reader (List (String × Reading))
  | 0, _ => none
  | fuel + 1, s => do
    let (f, r) ← readField s
    match r with
    | ',' :: r => (readFields fuel r).map fun (fs, r) => (f :: fs, r)
    | ' ' :: r => some ([f], r)
    | _ => none

def readFieldSet (fuel : Nat) : Reader (List (String × Reading))
  | ' ' :: r => some ([], r)
  | s => readFields fuel s

def ofChars? (s : List Char) : Option Record := do
  let (m, r) := readName measurementEnds s
  let (ts, r) ← readTags (s.length + 1) r
  let (fs, r) ← readFieldSet (s.length + 1) r
  let time ← Decimal.readExponent? r
  some ⟨String.ofList m, ts, fs, time⟩

/-- What a line of the line protocol says. -/
def ofLine? (line : String) : Option Record := ofChars? line.toList

/-! Names. -/

/-- Nothing escapes what stands behind the text. -/
def Closed (s : List Char) : Prop := s.getLast? ≠ some '\\'

instance (s : List Char) : Decidable (Closed s) := inferInstanceAs (Decidable (_ ≠ _))

/-- A name without newline and without a backslash at its end. -/
def Clean (s : List Char) : Prop := '\n' ∉ s ∧ Closed s

variable {ends s rest : List Char} {c : Char}

theorem Closed.tail (h : Closed (c :: s)) (hs : s ≠ []) : Closed s := by
  cases s with
  | nil => exact absurd rfl hs
  | cons d s => rwa [Closed, List.getLast?_cons_cons] at h

theorem readName_of_mem (hbackslash : '\\' ∉ ends) (hc : c ∈ ends) (r : List Char) :
    readName ends (c :: r) = ([], c :: r) := by
  unfold readName
  split
  next he => cases he
  next he => exact absurd ((List.cons.inj he).1 ▸ hc) hbackslash
  next he =>
    cases he
    rw [if_pos hc]

theorem readName_escaped (hc : c ∈ ends) (r : List Char) :
    readName ends ('\\' :: c :: r) = (c :: (readName ends r).1, (readName ends r).2) := by
  rw [readName, if_pos hc]

/-- A character that neither ends a name nor escapes such a one belongs to the name. -/
theorem readName_cons (hc : c ∉ ends) (hrest : c = '\\' → ∀ d ∈ rest.head?, d ∉ ends) :
    readName ends (c :: rest) = (c :: (readName ends rest).1, (readName ends rest).2) := by
  conv_lhs => unfold readName
  split
  next he => cases he
  next d r he =>
    obtain ⟨rfl, rfl⟩ := List.cons.inj he
    rw [if_neg (hrest rfl d rfl)]
  next he =>
    cases he
    rw [if_neg hc]

theorem escape_cons_of_mem (hc : c ∈ ends) (s : List Char) :
    escape ends (c :: s) = '\\' :: c :: escape ends s := by
  simp [escape, hc]

theorem escape_cons_of_not_mem (hc : c ∉ ends) (s : List Char) :
    escape ends (c :: s) = c :: escape ends s := by
  simp [escape, hc]

theorem head?_escape_append (hbackslash : '\\' ∉ ends) (hs : s ≠ []) (rest : List Char) :
    ∀ d ∈ (escape ends s ++ rest).head?, d ∉ ends := by
  cases s with
  | nil => exact absurd rfl hs
  | cons c s =>
    intro d hd
    by_cases hc : c ∈ ends
    · rw [escape_cons_of_mem hc] at hd
      cases hd
      exact hbackslash
    · rw [escape_cons_of_not_mem hc] at hd
      cases hd
      exact hc

/-- An escaped text belongs to a name as it was, unless a backslash at its end escapes what stands
behind it. -/
theorem readName_escape_append (hbackslash : '\\' ∉ ends)
    (hrest : Closed s ∨ ∀ d ∈ rest.head?, d ∉ ends) :
    readName ends (escape ends s ++ rest) = (s ++ (readName ends rest).1, (readName ends rest).2) := by
  induction s with
  | nil => rfl
  | cons c s ih =>
    have hnext : readName ends (escape ends s ++ rest) =
        (s ++ (readName ends rest).1, (readName ends rest).2) := by
      rcases eq_or_ne s [] with rfl | hs
      · rfl
      · exact ih (hrest.imp_left fun h => h.tail hs)
    by_cases hc : c ∈ ends
    · rw [escape_cons_of_mem hc, List.cons_append, List.cons_append, readName_escaped hc, hnext]
      rfl
    · rw [escape_cons_of_not_mem hc, List.cons_append, readName_cons hc, hnext]
      · rfl
      intro hslash
      rcases eq_or_ne s [] with rfl | hs
      · -- The backslash is the last character, so the text is not closed.
        subst hslash
        exact hrest.resolve_left fun h => h rfl
      · exact head?_escape_append hbackslash hs rest

theorem readName_escape (hbackslash : '\\' ∉ ends) (hs : Closed s) (hc : c ∈ ends) (r : List Char) :
    readName ends (escape ends s ++ c :: r) = (s, c :: r) := by
  rw [readName_escape_append hbackslash (.inl hs), readName_of_mem hbackslash hc, List.append_nil]

/-- A name that ends in a backslash goes on behind its end. -/
theorem readName_escape_ne (hbackslash : '\\' ∉ ends) (hs : ¬ Closed s) (hc : c ∈ ends)
    (r : List Char) : (readName ends (escape ends s ++ c :: r)).1 ≠ s := by
  obtain ⟨front, rfl⟩ := List.getLast?_eq_some_iff.mp (not_not.mp hs)
  have hsplit : escape ends (front ++ ['\\']) ++ c :: r =
      escape ends front ++ '\\' :: c :: r := by
    simp [escape, hbackslash]
  rw [hsplit, readName_escape_append hbackslash (.inr fun d hd => by cases hd; exact hbackslash),
    readName_escaped hc]
  intro he
  have hlast := (List.cons.inj (List.append_cancel_left he)).1
  exact hbackslash (hlast ▸ hc)

/-! Values. -/

theorem readQuoted_cons (hc : c ∉ textEnds) (r : List Char) :
    readQuoted (c :: r) = (readQuoted r).map fun (s, r) => (c :: s, r) := by
  conv_lhs => unfold readQuoted
  split
  next he => cases he
  next he => exact absurd ((List.cons.inj he).1 ▸ hc) (by decide)
  next he => exact absurd ((List.cons.inj he).1 ▸ hc) (by decide)
  next he =>
    cases he
    rfl

/-- Every text is read back from between its quotes. -/
theorem readQuoted_escape (s rest : List Char) :
    readQuoted (escape textEnds s ++ '"' :: rest) = some (s, rest) := by
  induction s with
  | nil => rfl
  | cons c s ih =>
    by_cases hc : c ∈ textEnds
    · rw [escape_cons_of_mem hc, List.cons_append, List.cons_append, readQuoted, if_pos hc, ih]
      rfl
    · rw [escape_cons_of_not_mem hc, List.cons_append, readQuoted_cons hc, ih]
      rfl

end Record

def Field.reading : Field → Reading
  | .float x => .number (Decimal.Layout.sample.text x)
  | .boolean b => .boolean b
  | .text s => .text s

/-- A field that can be stored: a number is finite. -/
def Field.IsFinite : Field → Prop
  | .float x => x.isFinite = true
  | .boolean _ => True
  | .text _ => True

namespace Record

open Sample

theorem not_endsWord_of_numeral {c : Char} (h : Decimal.isNumeralChar c = true) :
    endsWord c = false := by
  rw [endsWord, Bool.or_eq_false_iff, decide_eq_false_iff_not, decide_eq_false_iff_not]
  constructor <;> (rintro rfl; exact absurd h (by decide))

theorem not_endsWord_of_mem_boolText (b : Bool) : ∀ c ∈ boolText b, endsWord c = false := by
  cases b <;> simp [boolText, endsWord]

theorem readValue_word {word : List Char} {v : Reading} {c : Char}
    (hword : ∀ d ∈ word, endsWord d = false) (hquote : ∀ r, word ≠ '"' :: r)
    (hv : ofWord? word = some v) (hc : endsWord c = true) (r : List Char) :
    readValue (word ++ c :: r) = some (v, c :: r) := by
  have htake : (word ++ c :: r).takeWhile (fun d => !endsWord d) = word := by
    rw [List.takeWhile_append_of_pos (by simpa using hword), List.takeWhile_cons_of_neg (by simp [hc]),
      List.append_nil]
  have hdrop : (word ++ c :: r).dropWhile (fun d => !endsWord d) = c :: r := by
    rw [List.dropWhile_append_of_pos (by simpa using hword), List.dropWhile_cons_of_neg (by simp [hc])]
  unfold readValue
  split
  next hq =>
    cases word with
    | nil =>
      have hce : c = '"' := (List.cons.inj hq).1
      rw [hce] at hc
      cases hc
    | cons d word => exact absurd (congrArg (· :: word) (List.cons.inj hq).1) (hquote word)
  next => rw [htake, hdrop, hv]; rfl

theorem ofWord?_numeral {word : List Char} (h : Decimal.AllNumeral word) (hne : word ≠ []) :
    ofWord? word = some (.number (String.ofList word)) := by
  have hboolean (b : Bool) : word ≠ boolText b := by
    rintro rfl
    cases b <;> exact absurd (List.all_eq_true.mpr h) (by decide)
  have hall : word.all Decimal.isNumeralChar = true := List.all_eq_true.mpr h
  have hempty : word.isEmpty = false := by simpa using hne
  rw [ofWord?, if_neg (hboolean true), if_neg (hboolean false), hempty, hall]
  rfl

theorem readValue_fieldText {f : Field} (hf : f.IsFinite) (hc : endsWord c = true)
    (r : List Char) : readValue (fieldText f ++ c :: r) = some (f.reading, c :: r) := by
  cases f with
  | float x =>
    have hnumeral := Decimal.allNumeral_text (l := Decimal.Layout.sample) rfl hf
    have hne := Decimal.text_ne_nil (l := Decimal.Layout.sample) rfl hf
    have hword := ofWord?_numeral hnumeral hne
    rw [String.ofList_toList] at hword
    refine readValue_word (fun d hd => not_endsWord_of_numeral (hnumeral d hd)) ?_ hword hc r
    intro r hquote
    exact absurd (hnumeral '"' (hquote ▸ List.mem_cons_self)) (by decide)
  | boolean b =>
    refine readValue_word (not_endsWord_of_mem_boolText b) ?_ (by cases b <;> rfl) hc r
    intro r hquote
    cases b <;> exact absurd (List.cons.inj hquote).1 (by decide)
  | text s =>
    rw [fieldText, List.cons_append, List.append_assoc, List.singleton_append, readValue,
      readQuoted_escape, Option.map_some]
    show some (Reading.text (String.ofList s.toList), c :: r) = _
    rw [String.ofList_toList]
    rfl

/-! Tags. -/

theorem tagText_of_isEmpty {t : String × String} (ht : t.2.isEmpty = true) : tagText t = [] :=
  if_pos ht

theorem tagText_of_not_isEmpty {t : String × String} (ht : ¬ t.2.isEmpty = true) :
    tagText t = ',' :: (nameText t.1 ++ '=' :: nameText t.2) :=
  if_neg ht

/-- What stands behind a tag or the measurement. -/
theorem exists_cons_tags (ts : Table String String) (r : List Char) :
    ∃ c r', ts.flatMap tagText ++ ' ' :: r = c :: r' ∧ c ∈ measurementEnds ∧ c ∈ nameEnds := by
  induction ts with
  | nil => exact ⟨' ', r, rfl, by decide, by decide⟩
  | cons t ts ih =>
    rw [List.flatMap_cons]
    by_cases ht : t.2.isEmpty = true
    · rwa [tagText_of_isEmpty ht]
    · rw [tagText_of_not_isEmpty ht]
      exact ⟨',', _, rfl, by decide, by decide⟩

def hasValue (t : String × String) : Bool := !t.2.isEmpty

theorem length_filter_le_tags (ts : Table String String) :
    (ts.filter hasValue).length ≤ (ts.flatMap tagText).length := by
  induction ts with
  | nil => exact Nat.le_refl 0
  | cons t ts ih =>
    rw [List.flatMap_cons]
    by_cases ht : t.2.isEmpty = true
    · rwa [tagText_of_isEmpty ht, List.filter_cons_of_neg (by simp [hasValue, ht])]
    · rw [tagText_of_not_isEmpty ht, List.filter_cons_of_pos (by simp [hasValue, ht])]
      simp only [List.cons_append, List.length_cons, List.length_append]
      omega

theorem readTags_tags {ts : Table String String} {fuel : Nat}
    (hts : ∀ t ∈ ts, Closed t.1.toList ∧ Closed t.2.toList)
    (hfuel : (ts.filter hasValue).length < fuel) (r : List Char) :
    readTags fuel (ts.flatMap tagText ++ ' ' :: r) = some (ts.filter hasValue, r) := by
  induction ts generalizing fuel with
  | nil =>
    obtain ⟨fuel, rfl⟩ := Nat.exists_eq_add_one.mpr hfuel
    rfl
  | cons t ts ih =>
    have hrest := fun u hu => hts u (List.mem_cons_of_mem t hu)
    rw [List.flatMap_cons]
    by_cases ht : t.2.isEmpty = true
    · rw [List.filter_cons_of_neg (by simp [hasValue, ht])] at hfuel ⊢
      rw [tagText_of_isEmpty ht]
      exact ih hrest hfuel
    · rw [List.filter_cons_of_pos (by simp [hasValue, ht])] at hfuel ⊢
      rw [List.length_cons] at hfuel
      obtain ⟨fuel, rfl⟩ := Nat.exists_eq_add_one.mpr (Nat.zero_lt_of_lt hfuel)
      obtain ⟨hkey, hvalue⟩ := hts t List.mem_cons_self
      have htail := ih hrest (Nat.succ_lt_succ_iff.mp hfuel)
      obtain ⟨c, r', hbehind, -, hc⟩ := exists_cons_tags ts r
      rw [hbehind] at htail
      rw [tagText_of_not_isEmpty ht]
      simp only [List.cons_append, List.append_assoc, hbehind, nameText, readTags,
        readName_escape (by decide : '\\' ∉ nameEnds) hkey (by decide : '=' ∈ nameEnds),
        readName_escape (by decide : '\\' ∉ nameEnds) hvalue hc, htail, Option.bind_eq_bind,
        Option.bind_some, String.ofList_toList]

/-! Fields. -/

def keyed (f : String × Field) : String × Reading := (f.1, f.2.reading)

theorem readField_entryText {f : String × Field} (hkey : Closed f.1.toList)
    (hf : f.2.IsFinite) {c : Char} (hc : endsWord c = true) (r : List Char) :
    readField (entryText f ++ c :: r) = some (keyed f, c :: r) := by
  simp only [readField, entryText, nameText, List.append_assoc, List.cons_append,
    readName_escape (by decide : '\\' ∉ nameEnds) hkey (by decide : '=' ∈ nameEnds),
    readValue_fieldText hf hc, Option.map_some, String.ofList_toList, keyed]

/-- A field whose name ends in a backslash is read under another name, if at all. -/
theorem closed_of_readField {f : String × Field} {g : String × Reading} {s r : List Char}
    (h : readField (entryText f ++ s) = some (g, r)) (hg : g.1 = f.1) : Closed f.1.toList := by
  by_contra hopen
  have hname := readName_escape_ne (by decide : '\\' ∉ nameEnds) hopen
    (by decide : '=' ∈ nameEnds) (fieldText f.2 ++ s)
  rw [readField, entryText, nameText, List.append_assoc, List.cons_append] at h
  split at h
  next k r' he =>
    obtain ⟨⟨v, r⟩, -, hk⟩ := Option.map_eq_some_iff.mp h
    cases hk
    apply hname
    rw [he, ← hg, String.toList_ofList]
  next => cases h

theorem readFields_comma {fuel : Nat} {s r : List Char} {g : String × Reading}
    (h : readField s = some (g, ',' :: r)) :
    readFields (fuel + 1) s = (readFields fuel r).map fun (gs, r) => (g :: gs, r) := by
  rw [readFields, h]
  rfl

theorem readFields_space {fuel : Nat} {s r : List Char} {g : String × Reading}
    (h : readField s = some (g, ' ' :: r)) : readFields (fuel + 1) s = some ([g], r) := by
  rw [readFields, h]
  rfl

theorem exists_of_readFields {fuel : Nat} {s r : List Char} {gs : List (String × Reading)}
    (h : readFields (fuel + 1) s = some (gs, r)) :
    ∃ g gs' r', readField s = some (g, r') ∧ gs = g :: gs' := by
  rw [readFields] at h
  obtain ⟨⟨g, r'⟩, hg, h⟩ := Option.bind_eq_some_iff.mp h
  dsimp only at h
  split at h
  · obtain ⟨⟨gs', r''⟩, -, hgs⟩ := Option.map_eq_some_iff.mp h
    cases hgs
    exact ⟨g, gs', _, hg, rfl⟩
  · cases h
    exact ⟨g, [], _, hg, rfl⟩
  · cases h

theorem readFields_commas {fs : Table String Field} {fuel : Nat} (hne : fs ≠ [])
    (hfuel : fs.length ≤ fuel) (hfinite : ∀ f ∈ fs, f.2.IsFinite)
    (hclosed : ∀ f ∈ fs, Closed f.1.toList) (r : List Char) :
    readFields fuel (Json.commas (fs.map entryText) ++ ' ' :: r) = some (fs.map keyed, r) := by
  induction fs generalizing fuel with
  | nil => exact absurd rfl hne
  | cons f fs ih =>
    obtain ⟨fuel, rfl⟩ := Nat.exists_eq_add_one.mpr (Nat.lt_of_lt_of_le (Nat.succ_pos _) hfuel)
    have hread {c : Char} := readField_entryText (c := c) (hclosed f List.mem_cons_self)
      (hfinite f List.mem_cons_self)
    rcases eq_or_ne fs [] with rfl | hfs
    · exact readFields_space (hread (by decide) r)
    · have htail := ih hfs (Nat.succ_le_succ_iff.mp hfuel)
        (fun g hg => hfinite g (List.mem_cons_of_mem f hg))
        (fun g hg => hclosed g (List.mem_cons_of_mem f hg))
      rw [List.map_cons, Json.commas_cons (by simpa using hfs), List.append_assoc, List.cons_append,
        readFields_comma (hread (by decide) _), htail]
      rfl

theorem closed_of_readFields {fs : Table String Field} {gs : List (String × Reading)} {fuel : Nat}
    (hfinite : ∀ f ∈ fs, f.2.IsFinite) {r r' : List Char}
    (h : readFields fuel (Json.commas (fs.map entryText) ++ ' ' :: r) = some (gs, r'))
    (hgs : gs.map Prod.fst = fs.map Prod.fst) : ∀ f ∈ fs, Closed f.1.toList := by
  induction fs generalizing fuel gs with
  | nil => exact List.forall_mem_nil _
  | cons f fs ih =>
    cases fuel with
    | zero => cases h
    | succ fuel =>
      obtain ⟨g, gs, r₁, hg, rfl⟩ := exists_of_readFields h
      obtain ⟨hkey, hkeys⟩ := List.cons.inj hgs
      rcases eq_or_ne fs [] with rfl | hfs
      · rw [List.forall_mem_singleton]
        exact closed_of_readField hg hkey
      · rw [List.map_cons, Json.commas_cons (by simpa using hfs), List.append_assoc,
          List.cons_append] at h hg
        have hclosed := closed_of_readField hg hkey
        have hread := readField_entryText hclosed (hfinite f List.mem_cons_self) (c := ',')
          (by decide) (Json.commas (fs.map entryText) ++ ' ' :: r)
        rw [readFields_comma hread] at h
        obtain ⟨⟨gs', r₂⟩, htail, hgs'⟩ := Option.map_eq_some_iff.mp h
        cases hgs'
        exact List.forall_mem_cons.mpr
          ⟨hclosed, ih (fun g hg => hfinite g (List.mem_cons_of_mem f hg)) htail hkeys⟩

/-- No field begins like an empty field set. -/
theorem head?_entryText (f : String × Field) (s : List Char) :
    ∀ c ∈ (entryText f ++ s).head?, c ≠ ' ' := by
  rw [entryText, nameText, List.append_assoc]
  rcases eq_or_ne f.1.toList [] with hname | hname
  · rw [hname]
    rintro c hc rfl
    cases hc
  · rintro c hc rfl
    exact head?_escape_append (by decide) hname _ ' ' hc (by decide)

theorem readFieldSet_commas {fs : Table String Field} (hne : fs ≠ []) (fuel : Nat) (r : List Char) :
    readFieldSet fuel (Json.commas (fs.map entryText) ++ r) =
      readFields fuel (Json.commas (fs.map entryText) ++ r) := by
  obtain ⟨f, fs, rfl⟩ := List.exists_cons_of_ne_nil hne
  obtain ⟨s, hs⟩ : ∃ s, Json.commas ((f :: fs).map entryText) ++ r = entryText f ++ s := by
    rcases eq_or_ne fs [] with rfl | hfs
    · exact ⟨r, rfl⟩
    · rw [List.map_cons, Json.commas_cons (by simpa using hfs), List.append_assoc]
      exact ⟨_, rfl⟩
  rw [hs, readFieldSet]
  intro r' he
  exact head?_entryText f s ' ' (by rw [he]; rfl) rfl

end Record

namespace Sample

open Record

/-- What the line of a sample says when it is read as it was meant. -/
def record (x : Sample) : Record :=
  ⟨x.measurement, x.tags.filter hasValue, x.fields.map keyed, x.time⟩

theorem intercalate_comma (xs : List (List Char)) : [','].intercalate xs = Json.commas xs := by
  induction xs with
  | nil => rfl
  | cons x xs ih =>
    cases xs with
    | nil => simp [List.intercalate, Json.commas]
    | cons y xs => rw [List.intercalate_cons_cons, ih, Json.commas, List.append_assoc,
        List.singleton_append]

variable {x : Sample}

theorem ofChars?_lineChars (hm : Closed x.measurement.toList)
    (hts : ∀ t ∈ x.tags, Closed t.1.toList ∧ Closed t.2.toList) :
    ofChars? x.lineChars =
      (readFieldSet (x.lineChars.length + 1)
        (Json.commas (x.fields.map entryText) ++ ' ' :: Decimal.integerText x.time)).bind
      fun (fs, r) => (Decimal.readExponent? r).bind fun time =>
        some ⟨x.measurement, x.tags.filter hasValue, fs, time⟩ := by
  have hfuel : (x.tags.filter hasValue).length < x.lineChars.length + 1 := by
    have := length_filter_le_tags x.tags
    simp only [lineChars, List.length_append]
    omega
  have htags := readTags_tags hts hfuel
    (Json.commas (x.fields.map entryText) ++ ' ' :: Decimal.integerText x.time)
  obtain ⟨c, r, hbehind, hc, -⟩ := exists_cons_tags x.tags
    (Json.commas (x.fields.map entryText) ++ ' ' :: Decimal.integerText x.time)
  have hname : readName measurementEnds x.lineChars = (x.measurement.toList, c :: r) := by
    rw [lineChars, intercalate_comma, List.append_assoc, hbehind]
    exact readName_escape (by decide) hm hc r
  rw [hbehind] at htags
  simp only [ofChars?, hname, htags, Option.bind_eq_bind, Option.bind_some, String.ofList_toList]

theorem ofLine?_line (hm : Closed x.measurement.toList)
    (hts : ∀ t ∈ x.tags, Closed t.1.toList ∧ Closed t.2.toList)
    (hfinite : ∀ f ∈ x.fields, f.2.IsFinite) (hclosed : ∀ f ∈ x.fields, Closed f.1.toList) :
    ofLine? x.line = some x.record := by
  have htime : Decimal.readExponent? (Decimal.integerText x.time) = some x.time :=
    Decimal.readExponent?_integerText false x.time
  rw [ofLine?, line, String.toList_ofList, ofChars?_lineChars hm hts]
  rcases eq_or_ne x.fields [] with hnone | hsome
  · simp only [hnone, List.map_nil, Json.commas, List.nil_append, readFieldSet, Option.bind_some,
      htime, record]
  · have hfuel : x.fields.length ≤ x.lineChars.length + 1 := by
      have := Json.length_le_commas (x.fields.map entryText)
      simp only [lineChars, intercalate_comma, List.length_append, List.length_cons,
        List.length_map] at this ⊢
      omega
    simp only [readFieldSet_commas hsome, readFields_commas hsome hfuel hfinite hclosed, htime,
      Option.bind_some, record]

/-- Of a sample that can be stored the line is read back just when no field's name ends in a
backslash. -/
theorem ofLine?_line_iff (hm : Closed x.measurement.toList)
    (hts : ∀ t ∈ x.tags, Closed t.1.toList ∧ Closed t.2.toList)
    (hfinite : ∀ f ∈ x.fields, f.2.IsFinite) :
    ofLine? x.line = some x.record ↔ ∀ f ∈ x.fields, Closed f.1.toList := by
  refine ⟨fun h => ?_, ofLine?_line hm hts hfinite⟩
  rcases eq_or_ne x.fields [] with hnone | hsome
  · rw [hnone]
    exact List.forall_mem_nil _
  rw [ofLine?, line, String.toList_ofList, ofChars?_lineChars hm hts,
    readFieldSet_commas hsome] at h
  obtain ⟨⟨fs, r⟩, hread, h⟩ := Option.bind_eq_some_iff.mp h
  obtain ⟨time, -, h⟩ := Option.bind_eq_some_iff.mp h
  have hfs : fs = x.fields.map keyed := congrArg Record.fields (Option.some.inj h)
  refine closed_of_readFields hfinite hread ?_
  rw [hfs, List.map_map]
  rfl

/-- No backslash in a name, and every number can be stored. -/
structure Plain (x : Sample) : Prop where
  measurement : '\\' ∉ x.measurement.toList
  tags : ∀ t ∈ x.tags, '\\' ∉ t.1.toList ∧ '\\' ∉ t.2.toList
  names : ∀ f ∈ x.fields, '\\' ∉ f.1.toList
  finite : ∀ f ∈ x.fields, f.2.IsFinite

theorem closed_of_not_mem {s : List Char} (h : '\\' ∉ s) : Closed s :=
  fun hlast => h (List.mem_of_getLast? hlast)

theorem Plain.ofLine?_line (hx : x.Plain) : ofLine? x.line = some x.record :=
  Sample.ofLine?_line (closed_of_not_mem hx.measurement)
    (fun t ht => (hx.tags t ht).imp closed_of_not_mem closed_of_not_mem) hx.finite
    (fun f hf => closed_of_not_mem (hx.names f hf))

/-- The text of a number is that of no other number. -/
theorem eq_of_reading {f g : Field} (hf : f.IsFinite) (hg : g.IsFinite)
    (h : f.reading = g.reading) : f = g := by
  cases f with
  | float x =>
    cases g with
    | float y =>
      exact congrArg Field.float (Decimal.text_injective rfl hf hg (Reading.number.inj h))
    | boolean b => cases h
    | text s => cases h
  | boolean b => cases g <;> cases h; rfl
  | text s => cases g <;> cases h; rfl

theorem eq_of_map_keyed {fs gs : Table String Field} (hfs : ∀ f ∈ fs, f.2.IsFinite)
    (hgs : ∀ g ∈ gs, g.2.IsFinite) (h : fs.map keyed = gs.map keyed) : fs = gs := by
  induction fs generalizing gs with
  | nil => exact (List.map_eq_nil_iff.mp h.symm).symm
  | cons f fs ih =>
    cases gs with
    | nil => cases h
    | cons g gs =>
      obtain ⟨hhead, htail⟩ := List.cons.inj h
      have hreading := eq_of_reading (hfs f List.mem_cons_self) (hgs g List.mem_cons_self)
        (congrArg Prod.snd hhead)
      have hfg : f = g := Prod.ext (congrArg (fun k : String × Reading => k.1) hhead) hreading
      rw [hfg, ih (fun f' hf => hfs f' (List.mem_cons_of_mem f hf))
        (fun g' hg => hgs g' (List.mem_cons_of_mem g hg)) htail]

/-- A line says all of its sample but the tags without a value. -/
theorem known_by_line (x : Sample) (hx : x.Plain) :
    ofLine? x.line = some x.record ∧
      ∀ y : Sample, y.Plain → y.line = x.line →
        y.measurement = x.measurement ∧ y.tags.filter hasValue = x.tags.filter hasValue ∧
          y.fields = x.fields ∧ y.time = x.time := by
  refine ⟨hx.ofLine?_line, fun y hy hline => ?_⟩
  have hrecord : y.record = x.record := by
    apply Option.some.inj
    rw [← hy.ofLine?_line, hline, hx.ofLine?_line]
  have hfields : y.fields = x.fields :=
    eq_of_map_keyed hy.finite hx.finite (congrArg Record.fields hrecord)
  exact ⟨congrArg Record.measurement hrecord, congrArg Record.tags hrecord, hfields,
    congrArg Record.time hrecord⟩

theorem known_by_line_quoting :
    let x : Sample := ⟨"vehicle speed", [("lane", "a=1, b"), ("zone", "")],
      [("at.0", .float 48.25), ("note", .text "\"now, a=1\" \\\n"), ("ok, so", .boolean true)],
      1700000000000⟩
    let y : Sample := { x with tags := [("lane", "a=1, b")] }
    x.Plain ∧ y.Plain ∧ y.line = x.line ∧ ofLine? x.line = some x.record ∧
      x.record.fields = [("at.0", .number "48.25"), ("note", .text "\"now, a=1\" \\\n"),
        ("ok, so", .boolean true)] ∧ y.fields = x.fields := by
  intro x y
  have hfinite : (48.25 : Float).isFinite = true := by decide +kernel
  have hx : x.Plain := by
    refine ⟨by decide, by decide, by decide, ?_⟩
    simp [x, Field.IsFinite, hfinite]
  have hy : y.Plain := ⟨hx.measurement, by decide, hx.names, hx.finite⟩
  have hline : y.line = x.line := rfl
  obtain ⟨hread, hknown⟩ := known_by_line x hx
  exact ⟨hx, hy, hline, hread, by decide +kernel, (hknown y hy hline).2.2.1⟩

end Sample
end FleetBridge
