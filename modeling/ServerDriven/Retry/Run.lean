/-
Module: ServerDriven.Retry.Run
Purpose: Trying an operation under a policy.
Main exports:
  RetryPolicy.runFrom, RetryPolicy.run, RetryPolicy.runAlways
-/
import ServerDriven.Retry.Policy

namespace ServerDriven.RetryPolicy

variable {m : Type → Type} [Monad m] {ε α : Type}

/-- Try with so many attempts left after the first, the given pause coming before the second.  The
outcome of an attempt that no other follows is final, and so is that of the last attempt. -/
def runFrom (policy : RetryPolicy) (mayRetry : ε → Bool) (pause : Duration → m Unit)
    (operation : m (Except ε α)) : Nat → Duration → m (Except ε α)
  | 0, _ => operation
  | left + 1, delay => do
    let outcome ← operation
    match Backoff.next? policy mayRetry ⟨left + 1, delay⟩ outcome with
    | some (wait, backoff) => do
      pause wait
      runFrom policy mayRetry pause operation left backoff.delay
    | none => pure outcome

/-- Try the operation as often as the policy allows, with a pause between two attempts. -/
def run (policy : RetryPolicy) (mayRetry : ε → Bool) (pause : Duration → m Unit)
    (operation : m (Except ε α)) : m (Except ε α) :=
  runFrom policy mayRetry pause operation (Backoff.start policy).left (Backoff.start policy).delay

/-- The same for an operation that may be tried again whatever it fails with. -/
def runAlways (policy : RetryPolicy) (pause : Duration → m Unit) (operation : m (Except ε α)) :
    m (Except ε α) :=
  policy.run (fun _ => true) pause operation

end ServerDriven.RetryPolicy
