/-
Module: ServerDriven.Rehearsal.Attempts
Purpose: Trying an operation whose outcomes are fixed before the run.
Main exports:
  Attempts, Attempts.next, Attempts.pause
-/
import ServerDriven.Rehearsal.Clock
import ServerDriven.Retry.Run

namespace ServerDriven.Rehearsal

/-- A clock in milliseconds, the times of the attempts so far, the latest first, and the outcomes
that are left. -/
structure Attempts where
  now : Nat
  times : List Nat
  outcomes : List (Except String String)

namespace Attempts

/-- One attempt.  When no outcome is left, it succeeds. -/
def next : StateM Attempts (Except String String) := fun s =>
  (s.outcomes.head?.getD (.ok "exhausted"),
    { s with times := s.now :: s.times, outcomes := s.outcomes.tail })

def pause (d : Duration) : StateM Attempts Unit :=
  modify fun s => { s with now := s.now + waited d.ceilMillis }

end Attempts

end ServerDriven.Rehearsal
