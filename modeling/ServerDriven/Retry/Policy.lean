/-
Module: ServerDriven.Retry.Policy
Purpose: How often something that fails is tried again, and how long each pause is.
Main exports:
  RetryPolicy, RetryPolicy.attempts, RetryPolicy.capped, RetryPolicy.nextDelay, RetryPolicy.pauses,
  Backoff, Backoff.next?, Backoff.next?_eq_some_iff, Backoff.next?_eq_none_iff
-/
import ServerDriven.Duration
import ServerDriven.Number.Binary64

namespace ServerDriven

/-- How often to try, and how the pauses between the attempts grow. -/
structure RetryPolicy where
  /-- The number of attempts; none counts as one. -/
  times : Nat := 3
  initialDelay : Duration := .ofMillis 1000
  factor : Binary64 := Binary64.ofNat 2
  maxDelay : Duration := .ofMillis 10000
deriving Repr, DecidableEq

namespace RetryPolicy

instance : Inhabited RetryPolicy := ⟨{}⟩

/-- One attempt. -/
def once : RetryPolicy := { times := 1 }

def attempts (policy : RetryPolicy) : Nat := max policy.times 1

/-- A pause of so many nanoseconds, where the greatest pause is given as a number too.  What would
be negative, is not a number, or is at least the greatest pause becomes the greatest pause; and no
pause is above `2 ^ 64 - 1` nanoseconds otherwise. -/
def capped (policy : RetryPolicy) : (grown most : Binary64) → Duration
  | .finite grown, .finite most =>
    if grown.roundAway < 0 ∨ most.roundAway ≤ grown.roundAway then policy.maxDelay
    else ⟨min grown.roundAway.toNat (UInt64.size - 1)⟩
  | _, _ => policy.maxDelay

/-- The pause after a pause: multiplied by the factor, rounded to whole nanoseconds, and capped. -/
def nextDelay (policy : RetryPolicy) (current : Duration) : Duration :=
  policy.capped ((Binary64.ofNat current.nanos).mul policy.factor)
    (Binary64.ofNat policy.maxDelay.nanos)

/-- The pauses that follow a pause, one after the other. -/
def pauses (policy : RetryPolicy) (current : Duration) : Nat → List Duration
  | 0 => []
  | n + 1 => policy.nextDelay current :: policy.pauses (policy.nextDelay current) n

end RetryPolicy

/-- What is left of a policy while something is being tried: the attempts after the present one, and
the pause before the next. -/
structure Backoff where
  left : Nat
  delay : Duration
deriving Repr, DecidableEq, Inhabited

namespace Backoff

/-- The first attempt. -/
def start (policy : RetryPolicy) : Backoff := ⟨policy.attempts - 1, policy.initialDelay⟩

theorem left_start (policy : RetryPolicy) : (start policy).left + 1 = policy.attempts :=
  Nat.sub_add_cancel (Nat.le_max_right policy.times 1)

variable {ε α : Type} (policy : RetryPolicy) (mayRetry : ε → Bool)

/-- The pause after an attempt that turned out so, and what is left then.  Only a failure that may
be tried again is followed by another attempt, as long as one is left. -/
def next? : Backoff → Except ε α → Option (Duration × Backoff)
  | ⟨left + 1, delay⟩, .error e =>
    if mayRetry e then some (delay, ⟨left, policy.nextDelay delay⟩) else none
  | _, _ => none

variable {policy mayRetry}

theorem next?_eq_some_iff {backoff after : Backoff} {outcome : Except ε α} {pause : Duration} :
    backoff.next? policy mayRetry outcome = some (pause, after) ↔
      (∃ e, outcome = .error e ∧ mayRetry e = true) ∧ backoff.left = after.left + 1 ∧
        pause = backoff.delay ∧ after.delay = policy.nextDelay backoff.delay := by
  obtain ⟨_ | left, delay⟩ := backoff
  · simp [next?]
  · obtain ⟨left', delay'⟩ := after
    cases outcome with
    | ok value =>
        simp [next?]
    | error e =>
        rw [next?, Option.ite_none_right_eq_some]
        constructor
        · rintro ⟨may, ⟨⟩⟩
          exact ⟨⟨e, rfl, may⟩, rfl, rfl, rfl⟩
        · rintro ⟨⟨_, ⟨⟩, may⟩, ⟨⟩, paused, grown⟩
          dsimp only at paused grown
          rw [paused, grown]
          exact ⟨may, rfl⟩

/-- Nothing follows an attempt that succeeds, that fails for good, or that is the last. -/
theorem next?_eq_none_iff {backoff : Backoff} {outcome : Except ε α} :
    backoff.next? policy mayRetry outcome = none ↔
      ∀ e, outcome = .error e → mayRetry e = true → backoff.left = 0 := by
  obtain ⟨_ | left, delay⟩ := backoff
  · simp [next?]
  · cases outcome <;> simp [next?]

end Backoff

end ServerDriven
