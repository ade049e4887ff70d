/-
Module: ServerDriven.Rehearsal.Clock
Purpose: How far a clock moves while one thing is waited for.
Main exports:
  longestWait, waited
-/

namespace ServerDriven.Rehearsal

/-- The longest wait in milliseconds: thirty years of 365 days. -/
def longestWait : Nat := 30 * 365 * 24 * 60 * 60 * 1000

/-- The milliseconds that pass while one waits for so many: no wait is longer than the longest. -/
def waited (millis : Nat) : Nat := min millis longestWait

theorem waited_le (millis : Nat) : waited millis ≤ millis := Nat.min_le_left _ _

@[simp] theorem waited_zero : waited 0 = 0 := Nat.zero_min _

end ServerDriven.Rehearsal
