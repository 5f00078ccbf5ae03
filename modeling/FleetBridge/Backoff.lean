import FleetBridge.Decimal.Shortest
import FleetBridge.Word

/-!
Waiting times between attempts to connect. They grow by a factor up to a bound, and jitter may
shorten each; a wait is derived from the number of its attempt alone.
-/
namespace FleetBridge

/-- A span of time in nanoseconds. -/
abbrev Duration := Nat

namespace Duration

def perMilli : Nat := Nat.pow 10 6

def perSecond : Nat := Nat.pow 10 9

def ofMillis (ms : Nat) : Duration := ms * perMilli

/-- Whole milliseconds, at most the largest number of 64 bits. -/
def wholeMillis (d : Duration) : Nat := min (d / perMilli) Word.maxUInt64

/-- Seconds: the whole ones and the fraction are rounded on their own, then their sum is. -/
def toSeconds (d : Duration) : Float :=
  Float.ofScientific (d / perSecond) false 0 +
    Float.ofScientific (d % perSecond) false 0 / Float.ofScientific perSecond false 0

/-- The quotient of two numbers, rounded to the nearest one; a half goes to the even neighbour. -/
def roundQuotient (n d : Nat) : Nat :=
  let down := n / d
  let twice := 2 * (n % d)
  if twice < d then down else if d < twice then down + 1 else down + down % 2

/-- The nearest whole number of nanoseconds to a finite number of seconds. -/
def ofSeconds (x : Float) : Duration :=
  let (m, q) := Decimal.binaryParts x
  roundQuotient (m * perSecond * Nat.pow 2 q.toNat) (Nat.pow 2 (-q).toNat)

end Duration

inductive Jitter where
  /-- Waits are exact. -/
  | none
  /-- A wait is anything up to the exact one. -/
  | full
  /-- A wait is half the exact one and anything up to as much again. -/
  | equal
  deriving DecidableEq, Repr

namespace Jitter

/-- The largest number of milliseconds that chance may add; every smaller one is possible too. -/
def span (j : Jitter) (delay : Duration) : Nat :=
  match j with
  | none => 0
  | full => delay.wholeMillis
  | equal => delay.wholeMillis / 2

/-- The wait for an exact delay and a number drawn from `0` to `span`. A delay below a millisecond
is no wait at all. -/
def apply (j : Jitter) (delay : Duration) (draw : Nat) : Duration :=
  if delay.wholeMillis = 0 then 0
  else match j with
    | none => delay
    | full => Duration.ofMillis draw
    | equal => Duration.ofMillis (delay.wholeMillis / 2 + draw)

end Jitter

structure Backoff where
  first : Duration
  most : Duration
  factor : Float
  jitter : Jitter

namespace Backoff

/-- `r * a ^ n` by repeated squaring, lowest bit of `n` first; `bits` bounds the bits of `n`. -/
def powerFrom : Nat → Float → Float → Nat → Float
  | 0, r, _, _ => r
  | bits + 1, r, a, n =>
    let r := if n % 2 = 1 then r * a else r
    if n / 2 = 0 then r else powerFrom bits r (a * a) (n / 2)

def power (a : Float) (n : Nat) : Float := powerFrom (n.log2 + 1) 1.0 a n

/-- Attempts are numbered up to this one; all later ones bear its number. -/
def lastAttempt : Nat := Word.maxUInt32

def nextAttempt (n : Nat) : Nat := min (n + 1) lastAttempt

/-- The largest exponent of the factor. -/
def lastExponent : Nat := Word.maxInt32

/-- The delay after failed attempt `n`, counted from zero, before jitter. -/
def base (b : Backoff) (n : Nat) : Duration :=
  let x := b.first.toSeconds * power b.factor (min n lastExponent)
  if !x.isFinite || x < 0.0 || b.most.toSeconds < x then b.most else Duration.ofSeconds x

def delay (b : Backoff) (n draw : Nat) : Duration := b.jitter.apply (b.base n) draw

end Backoff
end FleetBridge
