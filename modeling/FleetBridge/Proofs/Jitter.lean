import FleetBridge.Backoff
import Mathlib.Algebra.Order.Ring.Nat

/-!
How far jitter moves a wait. Whatever is drawn, the wait is no longer than without jitter, and with
equal jitter it keeps half of the whole milliseconds. The same computation in words of a fixed width
never leaves them, also where a delay has more milliseconds than 64 bits count.
-/
namespace FleetBridge

namespace Duration

theorem ofMillis_le_of_le_wholeMillis {ms : Nat} {d : Duration} (h : ms ≤ d.wholeMillis) :
    ofMillis ms ≤ d := by
  have hcount : ms ≤ d / perMilli := h.trans (Nat.min_le_left _ _)
  calc ofMillis ms ≤ d / perMilli * perMilli := Nat.mul_le_mul_right perMilli hcount
    _ ≤ d := Nat.div_mul_le_self d perMilli

end Duration

namespace Jitter

variable {j : Jitter} {d : Duration} {draw : Nat}

theorem apply_of_wholeMillis_eq_zero (h : d.wholeMillis = 0) : j.apply d draw = 0 := if_pos h

theorem apply_none (h : d.wholeMillis ≠ 0) : none.apply d draw = d := if_neg h

theorem apply_full (h : d.wholeMillis ≠ 0) : full.apply d draw = Duration.ofMillis draw := if_neg h

theorem apply_equal (h : d.wholeMillis ≠ 0) :
    equal.apply d draw = Duration.ofMillis (d.wholeMillis / 2 + draw) := if_neg h

theorem apply_le_exact (h : draw ≤ j.span d) : j.apply d draw ≤ none.apply d 0 := by
  by_cases hzero : d.wholeMillis = 0
  · rw [apply_of_wholeMillis_eq_zero hzero]
    exact Nat.zero_le _
  rw [apply_none hzero]
  cases j with
  | none => exact Nat.le_of_eq (apply_none hzero)
  | full =>
    rw [apply_full hzero]
    exact Duration.ofMillis_le_of_le_wholeMillis h
  | equal =>
    have hhalf : draw ≤ d.wholeMillis / 2 := h
    rw [apply_equal hzero]
    exact Duration.ofMillis_le_of_le_wholeMillis (by omega)

/-- Half of the milliseconds of an exact wait are kept, rounded down, if 64 bits count them all. -/
theorem half_le_apply_equal
    (hcount : none.apply d 0 / Duration.perMilli ≤ Word.maxUInt64) (draw : Nat) :
    Duration.ofMillis (none.apply d 0 / Duration.perMilli / 2) ≤ equal.apply d draw := by
  by_cases hzero : d.wholeMillis = 0
  · rw [apply_of_wholeMillis_eq_zero hzero]
    exact Nat.zero_le _
  rw [apply_none hzero] at hcount ⊢
  have hwhole : d.wholeMillis = d / Duration.perMilli := Nat.min_eq_left hcount
  rw [apply_equal hzero, hwhole]
  exact Nat.mul_le_mul_right Duration.perMilli (Nat.le_add_right _ draw)

end Jitter

/-! Words. -/

namespace Word

variable {w : Nat}

/-- The sum of two words, unless it is too large for one. -/
def add? (a b : BitVec w) : Option (BitVec w) := if a.uaddOverflow b then none else some (a + b)

/-- The product of two words, unless it is too large for one. -/
def mul? (a b : BitVec w) : Option (BitVec w) := if a.umulOverflow b then none else some (a * b)

variable {a b : BitVec w} {n : Nat}

theorem exists_add? (hn : a.toNat + b.toNat = n) (hlt : n < 2 ^ w) :
    ∃ c, add? a b = some c ∧ c.toNat = n := by
  subst hn
  refine ⟨a + b, ?_, BitVec.toNat_add_of_lt hlt⟩
  rw [add?, if_neg]
  simpa [BitVec.uaddOverflow] using hlt

theorem exists_mul? (hn : a.toNat * b.toNat = n) (hlt : n < 2 ^ w) :
    ∃ c, mul? a b = some c ∧ c.toNat = n := by
  subst hn
  refine ⟨a * b, ?_, BitVec.toNat_mul_of_lt hlt⟩
  rw [mul?, if_neg]
  simpa [BitVec.umulOverflow] using hlt

end Word

/-- A span of time in words: whole seconds, and nanoseconds for the part of one. -/
structure Span where
  seconds : BitVec 64
  nanos : BitVec 32
  nanos_lt : nanos.toNat < Duration.perSecond

namespace Span

def length (t : Span) : Duration := t.seconds.toNat * Duration.perSecond + t.nanos.toNat

def zero : Span := ⟨0, 0, by decide⟩

def longest : Span := ⟨BitVec.allOnes 64, 999999999, by decide⟩

/-- The whole milliseconds of a span, counted in 128 bits. -/
def millis? (t : Span) : Option (BitVec 128) := do
  let whole ← Word.mul? (t.seconds.setWidth 128) 1000
  Word.add? whole ((t.nanos / 1000000).setWidth 128)

/-- A count in 64 bits, or the largest one if it needs more. -/
def narrow (ms : BitVec 128) : BitVec 64 :=
  if ms.toNat ≤ Word.maxUInt64 then ms.setWidth 64 else BitVec.allOnes 64

def ofMillis? (ms : BitVec 64) : Option Span := do
  let nanos ← Word.mul? ((ms % 1000).setWidth 32) 1000000
  if h : nanos.toNat < Duration.perSecond then some ⟨ms / 1000, nanos, h⟩ else none

theorem exists_millis? (t : Span) :
    ∃ ms, t.millis? = some ms ∧ ms.toNat = t.length / Duration.perMilli := by
  have hlt : t.nanos.toNat < 1000000000 := t.nanos_lt
  have hwhole : (t.seconds.setWidth 128).toNat * (1000 : BitVec 128).toNat =
      t.seconds.toNat * 1000 := by
    have hthousand : (1000 : BitVec 128).toNat = 1000 := rfl
    rw [BitVec.toNat_setWidth_of_le (by decide), hthousand]
  have hrest : ((t.nanos / 1000000).setWidth 128).toNat = t.nanos.toNat / 1000000 :=
    BitVec.toNat_setWidth_of_le (by decide)
  obtain ⟨whole, hmul, hseconds⟩ := Word.exists_mul? hwhole (by omega)
  have hsum : whole.toNat + ((t.nanos / 1000000).setWidth 128).toNat =
      t.seconds.toNat * 1000 + t.nanos.toNat / 1000000 := by rw [hseconds, hrest]
  obtain ⟨ms, hadd, hms⟩ := Word.exists_add? hsum (by omega)
  refine ⟨ms, Option.bind_eq_some_iff.mpr ⟨whole, hmul, hadd⟩, ?_⟩
  change ms.toNat = (t.seconds.toNat * 1000000000 + t.nanos.toNat) / 1000000
  omega

theorem toNat_narrow (ms : BitVec 128) : (narrow ms).toNat = min ms.toNat Word.maxUInt64 := by
  unfold narrow
  split
  next h =>
    have hfits : ms.toNat < 2 ^ 64 := Nat.lt_of_le_pred (by decide) h
    rw [BitVec.toNat_setWidth, Nat.mod_eq_of_lt hfits, Nat.min_eq_left h]
  next h =>
    rw [Nat.min_eq_right (by omega)]
    rfl

theorem exists_ofMillis? (ms : BitVec 64) :
    ∃ t, ofMillis? ms = some t ∧ t.length = Duration.ofMillis ms.toNat := by
  have hrest : ((ms % 1000).setWidth 32).toNat * (1000000 : BitVec 32).toNat =
      ms.toNat % 1000 * 1000000 := by
    have hthousand : (1000 : BitVec 64).toNat = 1000 := rfl
    have hmillion : (1000000 : BitVec 32).toNat = 1000000 := rfl
    rw [BitVec.toNat_setWidth, BitVec.toNat_umod, hthousand, hmillion, Nat.mod_eq_of_lt (by omega)]
  obtain ⟨nanos, hmul, hnanos⟩ := Word.exists_mul? hrest (by omega)
  have hlt : nanos.toNat < Duration.perSecond := by
    change nanos.toNat < 1000000000
    omega
  refine ⟨⟨ms / 1000, nanos, hlt⟩, Option.bind_eq_some_iff.mpr ⟨nanos, hmul, dif_pos hlt⟩, ?_⟩
  change ms.toNat / 1000 * 1000000000 + nanos.toNat = ms.toNat * 1000000
  omega

end Span

namespace Jitter

/-- A wait that is computed in words. Nothing results if a sum or a product is too large for its
word. -/
def wait? (j : Jitter) (delay : Span) (draw : BitVec 64) : Option Span := do
  let all ← delay.millis?
  let ms := Span.narrow all
  if ms = 0 then some Span.zero
  else match j with
    | none => some delay
    | full => Span.ofMillis? draw
    | equal => do
      let sum ← Word.add? (ms / 2) draw
      Span.ofMillis? sum

/-- In words the wait is the same one. -/
theorem exists_wait? {j : Jitter} {t : Span} {draw : BitVec 64} (h : draw.toNat ≤ j.span t.length) :
    ∃ r, j.wait? t draw = some r ∧ r.length = j.apply t.length draw.toNat := by
  obtain ⟨all, hall, hcount⟩ := t.exists_millis?
  have hms : (Span.narrow all).toNat = t.length.wholeMillis := by
    rw [Span.toNat_narrow, hcount]
    rfl
  have hzero : Span.narrow all = 0 ↔ t.length.wholeMillis = 0 := by
    rw [← hms, BitVec.toNat_eq]
    rfl
  unfold wait?
  rw [hall, Option.bind_eq_bind, Option.bind_some]
  by_cases hnone : t.length.wholeMillis = 0
  · rw [if_pos (hzero.mpr hnone), apply_of_wholeMillis_eq_zero hnone]
    exact ⟨Span.zero, rfl, rfl⟩
  rw [if_neg (mt hzero.mp hnone)]
  cases j with
  | none =>
    rw [apply_none hnone]
    exact ⟨t, rfl, rfl⟩
  | full =>
    rw [apply_full hnone]
    exact Span.exists_ofMillis? draw
  | equal =>
    have htwo : (2 : BitVec 64).toNat = 2 := rfl
    have htotal : (Span.narrow all / 2).toNat + draw.toNat =
        t.length.wholeMillis / 2 + draw.toNat := by rw [BitVec.toNat_udiv, hms, htwo]
    -- Two halves are no more than the milliseconds, and those are a word, cut off or not.
    have hdraw : draw.toNat ≤ t.length.wholeMillis / 2 := h
    have hlt := (Span.narrow all).isLt
    obtain ⟨sum, hadd, hsum⟩ := Word.exists_add? htotal (by omega)
    obtain ⟨r, hr, hlength⟩ := Span.exists_ofMillis? sum
    refine ⟨r, Option.bind_eq_some_iff.mpr ⟨sum, hadd, hr⟩, ?_⟩
    rw [apply_equal hnone, ← hsum]
    exact hlength

end Jitter

namespace Backoff

/-- The same waiting times with another jitter. -/
def jittered (b : Backoff) (j : Jitter) : Backoff := { b with jitter := j }

/-- The wait after an attempt when nothing is left to chance. -/
def exactDelay (b : Backoff) (n : Nat) : Duration := (b.jittered .none).delay n 0

/-- What may become of the delay `t` after attempt `n`, with some jitter and some draw. -/
structure Tempered (b : Backoff) (n : Nat) (t : Span) (j : Jitter) (draw : BitVec 64) : Prop where
  within : (b.jittered j).delay n draw.toNat ≤ b.exactDelay n
  halfway : j = .equal → b.exactDelay n / Duration.perMilli ≤ Word.maxUInt64 →
    Duration.ofMillis (b.exactDelay n / Duration.perMilli / 2) ≤ (b.jittered j).delay n draw.toNat
  inWords : ∃ r, j.wait? t draw = some r ∧ r.length = (b.jittered j).delay n draw.toNat

/-- Any delay that words can hold stays within its bounds and within the words, whatever is drawn
from the numbers that the jitter asks for. -/
theorem delay_tempered (b : Backoff) (n : Nat) (t : Span) (ht : t.length = b.base n) (j : Jitter)
    (draw : BitVec 64) (hdraw : draw.toNat ≤ j.span (b.base n)) : Tempered b n t j draw where
  within := Jitter.apply_le_exact hdraw
  halfway := by
    rintro rfl hcount
    exact Jitter.half_le_apply_equal hcount draw.toNat
  inWords := by
    rw [← ht] at hdraw
    obtain ⟨r, hr, hlength⟩ := Jitter.exists_wait? hdraw
    exact ⟨r, hr, hlength.trans (congrArg (fun d => j.apply d draw.toNat) ht)⟩

/-- Waits that double, up to the longest span there is. -/
def doubling : Backoff := ⟨Duration.ofMillis 100, Span.longest.length, 2.0, .equal⟩

/-- After attempt 3 the delay has 800 milliseconds. After attempt 2000 it is the longest span, whose
milliseconds 64 bits cannot count; the largest draw then is added to half of those that they can. -/
theorem doubling_tempered :
    (∃ t : Span, t.length = doubling.base 3 ∧ 400 ≤ Jitter.equal.span (doubling.base 3) ∧
        Tempered doubling 3 t .equal 400) ∧
      Span.longest.length = doubling.base 2000 ∧
      Nat.pow 2 63 - 1 ≤ Jitter.equal.span (doubling.base 2000) ∧
      Tempered doubling 2000 Span.longest .equal (BitVec.ofNat 64 (Nat.pow 2 63 - 1)) := by
  have hearly : (⟨0, 800000000, by decide⟩ : Span).length = doubling.base 3 := by decide +kernel
  have hsome : 400 ≤ Jitter.equal.span (doubling.base 3) := by
    rw [← hearly]
    decide
  have hlate : Span.longest.length = doubling.base 2000 := by decide +kernel
  have hmost : Nat.pow 2 63 - 1 ≤ Jitter.equal.span (doubling.base 2000) := by
    rw [← hlate]
    decide
  exact ⟨⟨_, hearly, hsome, delay_tempered doubling 3 _ hearly .equal 400 hsome⟩, hlate, hmost,
    delay_tempered doubling 2000 _ hlate .equal _ hmost⟩

end Backoff
end FleetBridge
