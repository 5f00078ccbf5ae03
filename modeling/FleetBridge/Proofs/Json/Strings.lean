import FleetBridge.Json.Printer
import FleetBridge.Json.Skim
import Mathlib.Data.List.Basic

/-!
Strings as they are written and read: every string is read back, whatever its characters.
-/
namespace FleetBridge.Json

theorem unit?_lowerHex : ∀ n < 0x20,
    unit? '0' '0' (Text.lowerHex (n / 16)) (Text.lowerHex (n % 16)) = some n := by
  decide

/-- The ways to write a character: by a letter after a backslash, by its code, or as it is. -/
inductive Written (c : Char) : List Char → Prop
  | escaped {e : Char} (hu : e ≠ 'u') (he : escape? e = some c) : Written c ['\\', e]
  | coded {x y : Char} (hcontrol : c.toNat < 0x20) (hunit : unit? '0' '0' x y = some c.toNat) :
    Written c ['\\', 'u', '0', '0', x, y]
  | plain (hquote : c ≠ '"') (hbackslash : c ≠ '\\') (hcontrol : ¬ c.toNat < 0x20) :
    Written c [c]

theorem written_writeChar (c : Char) : Written c (writeChar c) := by
  unfold writeChar
  split
  next h =>
    rw [h]
    exact .escaped (by decide) rfl
  split
  next h =>
    rw [h]
    exact .escaped (by decide) rfl
  split
  next hcontrol =>
    split
    next h =>
      rw [h]
      exact .escaped (by decide) rfl
    split
    next h =>
      rw [h]
      exact .escaped (by decide) rfl
    split
    next h =>
      rw [h]
      exact .escaped (by decide) rfl
    split
    next h =>
      rw [h]
      exact .escaped (by decide) rfl
    split
    next h =>
      rw [h]
      exact .escaped (by decide) rfl
    exact .coded hcontrol (unit?_lowerHex c.toNat hcontrol)
  next hquote hbackslash hcontrol => exact .plain hquote hbackslash hcontrol

/-- A character, however it is written, is read as itself. -/
theorem stringBody_writeChar (done : List Char) (c : Char) (rest : List Char) :
    stringBody done (writeChar c ++ rest) = stringBody (c :: done) rest := by
  have hwritten := written_writeChar c
  generalize writeChar c = w at hwritten ⊢
  cases hwritten with
  | @escaped e hu he =>
    simp only [List.cons_append, List.nil_append]
    rw [stringBody, he]
    intro a b x y r he
    exact absurd he hu
  | coded hcontrol hunit =>
    -- Control characters are no halves of surrogate pairs.
    have hhigh : isHighSurrogate c.toNat = false := by
      simp only [isHighSurrogate, Bool.and_eq_false_iff, decide_eq_false_iff_not]
      omega
    have hlow : isLowSurrogate c.toNat = false := by
      simp only [isLowSurrogate, Bool.and_eq_false_iff, decide_eq_false_iff_not]
      omega
    simp only [List.cons_append, List.nil_append, stringBody, hunit, hhigh, hlow,
      Bool.false_eq_true, if_false, Char.ofNat_toNat]
  | plain hquote hbackslash hcontrol =>
    rw [List.singleton_append, stringBody]
    · rw [if_neg hcontrol]
    · exact hquote
    · intro a b d e r hc
      exact absurd hc hbackslash
    · intro a r hc
      exact absurd hc hbackslash

theorem stringBody_flatMap (done s rest : List Char) :
    stringBody done (s.flatMap writeChar ++ '"' :: rest) = some (done.reverse ++ s, rest) := by
  induction s generalizing done with
  | nil =>
    rw [List.append_nil]
    rfl
  | cons c s ih =>
    rw [List.flatMap_cons, List.append_assoc, stringBody_writeChar, ih, List.reverse_cons,
      List.append_assoc]
    rfl

theorem readString_writeString (s : String) (rest : List Char) :
    readString (writeString s ++ rest) = some (s, rest) := by
  have hbody := stringBody_flatMap [] s.toList rest
  rw [List.reverse_nil, List.nil_append] at hbody
  rw [writeString, List.cons_append, List.append_assoc, List.singleton_append, readString, hbody]
  exact congrArg (fun s => some (s, rest)) String.ofList_toList

end FleetBridge.Json
