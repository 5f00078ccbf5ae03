import FleetBridge.Backoff

/-!
Points in time are whole milliseconds since the start. What is due between two of them is due at
the later one.
-/
namespace FleetBridge

abbrev Instant := Nat

/-- The instant at which a span of time has passed. -/
def Instant.after (now : Instant) (d : Duration) : Instant :=
  now + (d + (Duration.perMilli - 1)) / Duration.perMilli

/-- Falls due again and again, a period apart. -/
structure Ticker where
  due : Instant
  period : Duration
  deriving DecidableEq, Repr

namespace Ticker

/-- How many milliseconds late a tick may be taken and still count as in time. -/
def tolerance : Nat := 5

/-- The ticker after a tick taken at `now`: in time, the next one is a period after the due time;
late, a period after `now`. -/
def next (now : Instant) (t : Ticker) : Ticker :=
  { t with due := Instant.after (if t.due + tolerance < now then now else t.due) t.period }

end Ticker
end FleetBridge
