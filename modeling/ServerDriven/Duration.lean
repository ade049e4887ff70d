/-
Module: ServerDriven.Duration
Purpose: Spans of time in whole nanoseconds.
Main exports:
  Duration, Duration.ofMillis, Duration.ofSeconds, Duration.ceilMillis
-/

namespace ServerDriven

/-- A span of time. -/
structure Duration where
  nanos : Nat
deriving Repr, DecidableEq, Inhabited

namespace Duration

/-- How many nanoseconds are a millisecond. -/
abbrev nanosPerMilli : Nat := 1_000_000

/-- How many nanoseconds are a second. -/
abbrev nanosPerSecond : Nat := 1_000_000_000

def ofMillis (millis : Nat) : Duration := ⟨millis * nanosPerMilli⟩

/-- So many seconds and nanoseconds. -/
def ofSeconds (seconds nanos : Nat) : Duration := ⟨seconds * nanosPerSecond + nanos⟩

/-- The whole seconds. -/
def seconds (d : Duration) : Nat := d.nanos / nanosPerSecond

/-- The nanoseconds that are left after the whole seconds. -/
def subsecNanos (d : Duration) : Nat := d.nanos % nanosPerSecond

/-- The least number of milliseconds that is not shorter. -/
def ceilMillis (d : Duration) : Nat := (d.nanos + (nanosPerMilli - 1)) / nanosPerMilli

end Duration

end ServerDriven
