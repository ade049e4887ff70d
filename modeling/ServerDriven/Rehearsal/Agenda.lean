/-
Module: ServerDriven.Rehearsal.Agenda
Purpose: What is to be done now, and what later, on a clock that moves only while all wait.
Main exports:
  Agenda, Agenda.add, Agenda.wait, Agenda.next?, Agenda.advance?
-/
import ServerDriven.Rehearsal.Clock

namespace ServerDriven.Rehearsal

/-- Things to do, on a clock in milliseconds. -/
structure Agenda (α : Type) where
  now : Nat := 0
  /-- What is to be done now, in its order. -/
  ready : List α := []
  /-- What is to be done later, by time; of the same time, in the order in which it was planned. -/
  planned : List (Nat × α) := []
deriving Repr, Inhabited

namespace Agenda

variable {α : Type}

/-- Do something after all that is to be done now. -/
def add (agenda : Agenda α) (item : α) : Agenda α := { agenda with ready := agenda.ready ++ [item] }

/-- Plan something behind what is planned for the same time or earlier. -/
def plan (time : Nat) (item : α) : List (Nat × α) → List (Nat × α)
  | [] => [(time, item)]
  | (t, other) :: rest =>
    if time < t then (time, item) :: (t, other) :: rest else (t, other) :: plan time item rest

/-- Do something after a wait of so many milliseconds. -/
def after (agenda : Agenda α) (millis : Nat) (item : α) : Agenda α :=
  { agenda with planned := plan (agenda.now + waited millis) item agenda.planned }

/-- Do something before all that is to be done now. -/
def soon (agenda : Agenda α) (item : α) : Agenda α := { agenda with ready := item :: agenda.ready }

/-- Go on with something after a wait: at once if there is nothing to wait for. -/
def wait (agenda : Agenda α) (millis : Nat) (item : α) : Agenda α :=
  if millis = 0 then agenda.soon item else agenda.after millis item

/-- Take the first thing that is to be done now. -/
def next? (agenda : Agenda α) : Option (α × Agenda α) :=
  match agenda.ready with
  | item :: ready => some (item, { agenda with ready })
  | [] => none

/-- Come to the next time at which something is planned, not later than a limit if there is one. -/
def advance? (limit : Option Nat) (agenda : Agenda α) : Option (Agenda α) :=
  match agenda.planned with
  | [] => none
  | (time, _) :: _ =>
    if limit.all (time ≤ ·) then
      some {
        now := max agenda.now time
        ready := agenda.ready ++ (agenda.planned.takeWhile (·.1 ≤ time)).map Prod.snd
        planned := agenda.planned.dropWhile (·.1 ≤ time) }
    else none

/-- Come to a later time up to which nothing is planned. -/
def reach (agenda : Agenda α) (time : Nat) : Agenda α := { agenda with now := max agenda.now time }

end Agenda

end ServerDriven.Rehearsal
