/-
Module: ServerDriven.Proofs.Retry.FirstFinal
Purpose: An operation is tried up to the first attempt that is final, with one pause between any
  two attempts, and 32 bits are enough to count the attempts.
Main exports:
  RetryPolicy.delay, Trial, RetryPolicy.before, RetryPolicy.IsFinal, RetryPolicy.countFrom,
  RetryPolicy.next?_eq_none_iff_isFinal, RetryPolicy.run_course, RetryPolicy.Tries,
  RetryPolicy.Tries.run_eq, RetryPolicy.tries_to_first_final
-/
import Mathlib.Order.Bounds.Basic
import ServerDriven.Retry.Run

namespace ServerDriven

namespace RetryPolicy

/-- The pause that comes after so many others. -/
def delay (policy : RetryPolicy) : Nat → Duration
  | 0 => policy.initialDelay
  | i + 1 => policy.nextDelay (policy.delay i)

@[simp] theorem delay_zero (policy : RetryPolicy) : policy.delay 0 = policy.initialDelay := rfl

@[simp] theorem delay_succ (policy : RetryPolicy) (i : Nat) :
    policy.delay (i + 1) = policy.nextDelay (policy.delay i) := rfl

theorem attempts_pos (policy : RetryPolicy) : 0 < policy.attempts :=
  Nat.lt_of_lt_of_le Nat.zero_lt_one (Nat.le_max_right policy.times 1)

end RetryPolicy

/-! ### What is done, in order -/

/-- What is done when something is tried again and again. -/
inductive Trial where
  /-- An attempt; the first has number one. -/
  | attempt (number : Nat)
  | pause (d : Duration)
deriving Repr, DecidableEq

namespace Trial

def isAttempt : Trial → Bool
  | .attempt _ => true
  | .pause _ => false

variable {ε α : Type}

/-- The number of the attempt that comes next. -/
def nextNumber (log : List Trial) : Nat := log.countP isAttempt + 1

/-- An operation of which it is fixed how each attempt turns out. -/
def scripted (outcomes : Nat → Except ε α) : StateM (List Trial) (Except ε α) := fun log =>
  (outcomes (nextNumber log), log ++ [.attempt (nextNumber log)])

/-- The same, where an attempt is written down with a number that it is given. -/
def numbered (outcomes : Nat → Except ε α) (count : UInt32) :
    StateM (List Trial) (Except ε α) := fun log =>
  (outcomes (nextNumber log), log ++ [.attempt count.toNat])

def rest (d : Duration) : StateM (List Trial) Unit := fun log => ((), log ++ [.pause d])

end Trial

namespace RetryPolicy

open Trial

/-- All that is done before the attempt that follows so many others: these, with a pause after
each. -/
def before (policy : RetryPolicy) : Nat → List Trial
  | 0 => []
  | n + 1 => policy.before n ++ [.attempt (n + 1)] ++ [.pause (policy.delay n)]

theorem countP_before (policy : RetryPolicy) (n : Nat) :
    (policy.before n).countP isAttempt = n := by
  induction n with
  | zero =>
      rfl
  | succ n ih =>
      rw [before, List.countP_append, List.countP_append, ih]
      rfl

theorem nextNumber_before (policy : RetryPolicy) (n : Nat) :
    nextNumber (policy.before n) = n + 1 :=
  congrArg (· + 1) (policy.countP_before n)

section Final

variable {ε α : Type} (policy : RetryPolicy) (mayRetry : ε → Bool)

/-- An attempt is final if it succeeds, if it fails in a way that may not be tried again, or if no
attempt is left after it. -/
def IsFinal (number : Nat) (outcome : Except ε α) : Prop :=
  (∃ value, outcome = .ok value) ∨ (∃ e, outcome = .error e ∧ mayRetry e = false) ∨
    number = policy.attempts

/-- Whether an attempt that turns out so may be followed by another. -/
def mayGoOn : Except ε α → Bool
  | .ok _ => false
  | .error e => mayRetry e

@[simp] theorem mayGoOn_ok (value : α) :
    mayGoOn mayRetry (.ok value : Except ε α) = false := rfl

@[simp] theorem mayGoOn_error (e : ε) :
    mayGoOn mayRetry (.error e : Except ε α) = mayRetry e := rfl

theorem isFinal_iff (number : Nat) (outcome : Except ε α) :
    policy.IsFinal mayRetry number outcome ↔
      mayGoOn mayRetry outcome = false ∨ number = policy.attempts := by
  unfold IsFinal
  cases outcome with
  | ok value => simp
  | error e => simp

/-- After an attempt that is not the last it depends on its outcome whether another follows. -/
theorem next?_succ (left : Nat) (delay : Duration) (outcome : Except ε α) :
    Backoff.next? policy mayRetry ⟨left + 1, delay⟩ outcome =
      if mayGoOn mayRetry outcome then some (delay, ⟨left, policy.nextDelay delay⟩) else none := by
  cases outcome <;> rfl

variable {policy} in
/-- Nothing follows an attempt exactly if it is final. -/
theorem next?_eq_none_iff_isFinal {number : Nat} {backoff : Backoff}
    (all : number + backoff.left = policy.attempts) (outcome : Except ε α) :
    backoff.next? policy mayRetry outcome = none ↔ policy.IsFinal mayRetry number outcome := by
  have last : backoff.left = 0 ↔ number = policy.attempts := by omega
  rw [Backoff.next?_eq_none_iff, isFinal_iff, ← last]
  cases outcome with
  | ok value =>
      simp
  | error e =>
      cases may : mayRetry e <;> simp [may]

variable (outcomes : Nat → Except ε α)

/-- From the attempt after so many others on, a run ends with the first that is final. -/
def EndsFrom (n : Nat) (ended : Except ε α × List Trial) : Prop :=
  ∃ k, n ≤ k ∧ policy.IsFinal mayRetry (k + 1) (outcomes (k + 1)) ∧
    (∀ i, n ≤ i → policy.IsFinal mayRetry (i + 1) (outcomes (i + 1)) → k ≤ i) ∧
    ended = (outcomes (k + 1), policy.before k ++ [.attempt (k + 1)])

variable {policy mayRetry outcomes}

theorem EndsFrom.now {n : Nat} (final : policy.IsFinal mayRetry (n + 1) (outcomes (n + 1))) :
    policy.EndsFrom mayRetry outcomes n
      (outcomes (n + 1), policy.before n ++ [.attempt (n + 1)]) :=
  ⟨n, Nat.le_refl n, final, fun _ later _ => later, rfl⟩

theorem EndsFrom.later {n : Nat} {ended : Except ε α × List Trial}
    (goesOn : ¬policy.IsFinal mayRetry (n + 1) (outcomes (n + 1)))
    (h : policy.EndsFrom mayRetry outcomes (n + 1) ended) :
    policy.EndsFrom mayRetry outcomes n ended := by
  obtain ⟨k, after, final, least, ends⟩ := h
  refine ⟨k, Nat.le_of_succ_le after, final, fun i later other => ?_, ends⟩
  rcases Nat.eq_or_lt_of_le later with rfl | later
  · exact absurd other goesOn
  · exact least i later other

end Final

/-! ### The course of a run -/

section Course

variable {ε α : Type} (policy : RetryPolicy) (mayRetry : ε → Bool) (outcomes : Nat → Except ε α)

theorem run_scripted (n : Nat) :
    (scripted outcomes).run (policy.before n) =
      (outcomes (n + 1), policy.before n ++ [.attempt (n + 1)]) := by
  change (outcomes (nextNumber (policy.before n)), _ ++ [Trial.attempt (nextNumber _)]) = _
  rw [nextNumber_before]

/-- After a failure that may be tried again there is a pause, and the run goes on. -/
theorem runFrom_succ (left n : Nat) :
    (policy.runFrom mayRetry rest (scripted outcomes) (left + 1) (policy.delay n)).run
        (policy.before n) =
      if mayGoOn mayRetry (outcomes (n + 1)) then
        (policy.runFrom mayRetry rest (scripted outcomes) left (policy.delay (n + 1))).run
          (policy.before (n + 1))
      else (outcomes (n + 1), policy.before n ++ [.attempt (n + 1)]) := by
  rw [runFrom, StateT.run_bind, run_scripted]
  dsimp only [Id.run, bind]
  rw [next?_succ]
  cases mayGoOn mayRetry (outcomes (n + 1)) with
  | true => rfl
  | false => rfl

theorem runFrom_ends (left n : Nat) (all : n + 1 + left = policy.attempts) :
    policy.EndsFrom mayRetry outcomes n
      ((policy.runFrom mayRetry rest (scripted outcomes) left (policy.delay n)).run
        (policy.before n)) := by
  induction left generalizing n with
  | zero =>
      rw [runFrom, run_scripted]
      apply EndsFrom.now
      exact .inr (.inr all)
  | succ left ih =>
      have final : Backoff.next? policy mayRetry ⟨left + 1, policy.delay n⟩ (outcomes (n + 1)) =
          none ↔ policy.IsFinal mayRetry (n + 1) (outcomes (n + 1)) :=
        next?_eq_none_iff_isFinal mayRetry all _
      rw [next?_succ] at final
      rw [runFrom_succ]
      by_cases goesOn : mayGoOn mayRetry (outcomes (n + 1)) = true
      · rw [if_pos goesOn] at final ⊢
        exact .later (by simpa using final) (ih (n + 1) (by omega))
      · rw [if_neg goesOn] at final ⊢
        exact .now (final.mp rfl)

end Course

/-! ### Counting in 32 bits -/

section Counted

variable {m : Type → Type} [Monad m] {ε α : Type} (policy : RetryPolicy) (mayRetry : ε → Bool)

/-- Try under a policy, and count the attempts, from the one with a number on up to a greatest. -/
def countFrom (pause : Duration → m Unit) (operation : UInt32 → m (Except ε α))
    (most count : UInt32) (delay : Duration) : m (Except ε α) := do
  match ← operation count with
  | .ok value => pure (.ok value)
  | .error e =>
    if _more : count < most ∧ mayRetry e then do
      pause delay
      countFrom pause operation most (count + 1) (policy.nextDelay delay)
    else pure (.error e)
termination_by most.toNat - count.toNat
decreasing_by
  have less := UInt32.lt_iff_toNat_lt.mp _more.1
  have bound := most.toNat_lt
  rw [UInt32.toNat_add, UInt32.toNat_one, Nat.mod_eq_of_lt (by omega)]
  omega

/-- Try the operation as often as the policy allows, which is told the number of each attempt. -/
def runCounted (pause : Duration → m Unit) (operation : UInt32 → m (Except ε α)) :
    m (Except ε α) :=
  policy.countFrom mayRetry pause operation (.ofNat policy.attempts) 1 policy.initialDelay

variable (outcomes : Nat → Except ε α)

theorem run_numbered {n : Nat} {count : UInt32} (here : count.toNat = n + 1) :
    (numbered outcomes count).run (policy.before n) =
      (outcomes (n + 1), policy.before n ++ [.attempt (n + 1)]) := by
  change (outcomes (nextNumber (policy.before n)), _ ++ [Trial.attempt count.toNat]) = _
  rw [nextNumber_before, here]

/-- The counted loop goes on as long as the count is below the greatest. -/
theorem countFrom_step {n : Nat} {most count : UInt32} (here : count.toNat = n + 1) :
    (policy.countFrom mayRetry rest (numbered outcomes) most count (policy.delay n)).run
        (policy.before n) =
      if count < most ∧ mayGoOn mayRetry (outcomes (n + 1)) then
        (policy.countFrom mayRetry rest (numbered outcomes) most (count + 1)
          (policy.delay (n + 1))).run (policy.before (n + 1))
      else (outcomes (n + 1), policy.before n ++ [.attempt (n + 1)]) := by
  rw [countFrom, StateT.run_bind, run_numbered policy outcomes here]
  cases outcomes (n + 1) with
  | ok value =>
      rw [if_neg (by simp)]
      rfl
  | error e =>
      dsimp only [Id.run, bind]
      rw [mayGoOn_error]
      by_cases more : count < most ∧ mayRetry e = true
      · rw [dif_pos more, if_pos more]
        rfl
      · rw [dif_neg more, if_neg more]
        rfl

/-- While the greatest count fits 32 bits, the count is right and the counted loop does the same. -/
theorem countFrom_eq_runFrom (left n : Nat) {most count : UInt32} (here : count.toNat = n + 1)
    (all : count.toNat + left = most.toNat) :
    (policy.countFrom mayRetry rest (numbered outcomes) most count (policy.delay n)).run
        (policy.before n) =
      (policy.runFrom mayRetry rest (scripted outcomes) left (policy.delay n)).run
        (policy.before n) := by
  induction left generalizing n count with
  | zero =>
      have last : ¬count < most := by
        rw [UInt32.lt_iff_toNat_lt]
        omega
      rw [countFrom_step policy mayRetry outcomes here, if_neg (fun more => last more.1), runFrom,
        run_scripted]
  | succ left ih =>
      have more : count < most := by
        rw [UInt32.lt_iff_toNat_lt]
        omega
      have next : (count + 1).toNat = count.toNat + 1 := by
        have bound := most.toNat_lt
        rw [UInt32.toNat_add, UInt32.toNat_one, Nat.mod_eq_of_lt (by omega)]
      rw [countFrom_step policy mayRetry outcomes here, runFrom_succ,
        ih (n + 1) (by omega) (by omega)]
      simp [more]

end Counted

/-! ### The whole run -/

section Whole

variable {ε α : Type} (policy : RetryPolicy) (mayRetry : ε → Bool) (outcomes : Nat → Except ε α)

/-- The numbers of the final attempts. -/
def finals : Set Nat := {number | 0 < number ∧ policy.IsFinal mayRetry number (outcomes number)}

variable {policy mayRetry outcomes}

theorem EndsFrom.isLeast {ended : Except ε α × List Trial}
    (h : policy.EndsFrom mayRetry outcomes 0 ended) :
    ∃ n, IsLeast (policy.finals mayRetry outcomes) (n + 1) ∧
      ended = (outcomes (n + 1), policy.before n ++ [.attempt (n + 1)]) := by
  obtain ⟨n, -, final, least, ends⟩ := h
  refine ⟨n, ⟨⟨Nat.succ_pos n, final⟩, ?_⟩, ends⟩
  rintro number ⟨positive, other⟩
  obtain ⟨i, rfl⟩ := Nat.exists_eq_add_one.mpr positive
  exact Nat.succ_le_succ (least i (Nat.zero_le i) other)

theorem le_attempts {n : Nat} (least : IsLeast (policy.finals mayRetry outcomes) n) :
    n ≤ policy.attempts :=
  least.2 ⟨policy.attempts_pos, .inr (.inr rfl)⟩

/-- If every failure may be tried again, an attempt is final if it succeeds or is the last. -/
theorem finals_always :
    policy.finals (fun _ => true) outcomes =
      {number |
        0 < number ∧ ((∃ value, outcomes number = .ok value) ∨ number = policy.attempts)} := by
  ext number
  simp [finals, IsFinal]

variable (policy mayRetry outcomes)

theorem run_course : ∃ n, IsLeast (policy.finals mayRetry outcomes) (n + 1) ∧
    (policy.run mayRetry rest (scripted outcomes)).run [] =
      (outcomes (n + 1), policy.before n ++ [.attempt (n + 1)]) := by
  have all : 0 + 1 + (policy.attempts - 1) = policy.attempts := by
    rw [Nat.zero_add, Nat.add_comm]
    exact Backoff.left_start policy
  exact (policy.runFrom_ends mayRetry outcomes (policy.attempts - 1) 0 all).isLeast

/-- Some attempts and a last one are all that is tried: the last is final, and none before it. -/
structure Tries (earlier : List (Except ε α)) (last : Except ε α) : Prop where
  final : policy.IsFinal mayRetry (earlier.length + 1) last
  goOn : ∀ i outcome, earlier[i]? = some outcome → ¬policy.IsFinal mayRetry (i + 1) outcome

variable {policy mayRetry outcomes} in
/-- An operation whose attempts turn out so is tried just so often, and comes to what the last
attempt does. -/
theorem Tries.run_eq {earlier : List (Except ε α)} {last : Except ε α}
    (tries : policy.Tries mayRetry earlier last)
    (same : ∀ i outcome, (earlier ++ [last])[i]? = some outcome → outcomes (i + 1) = outcome) :
    (policy.run mayRetry rest (scripted outcomes)).run [] =
      (last, policy.before earlier.length ++ [.attempt (earlier.length + 1)]) := by
  obtain ⟨n, least, ends⟩ := policy.run_course mayRetry outcomes
  have ended : outcomes (earlier.length + 1) = last := same _ last (by simp)
  have notLater : n + 1 ≤ earlier.length + 1 :=
    least.2 ⟨Nat.succ_pos _, by rw [ended]; exact tries.final⟩
  have notEarlier : ¬n < earlier.length := by
    intro before
    have there : earlier[n]? = some earlier[n] := List.getElem?_eq_getElem before
    have turned := same n earlier[n] (by rw [List.getElem?_append_left before, there])
    exact tries.goOn n _ there (turned ▸ least.1.2)
  obtain rfl : n = earlier.length := by omega
  rw [ends, ended]

theorem runCounted_eq_run (fits : policy.times < UInt32.size) :
    (policy.runCounted mayRetry rest (numbered outcomes)).run [] =
      (policy.run mayRetry rest (scripted outcomes)).run [] := by
  have bound : policy.attempts < UInt32.size := Nat.max_lt.mpr ⟨fits, by decide⟩
  have most : (UInt32.ofNat policy.attempts).toNat = policy.attempts :=
    UInt32.toNat_ofNat_of_lt' bound
  have positive := policy.attempts_pos
  apply policy.countFrom_eq_runFrom mayRetry outcomes (policy.attempts - 1) 0
  · rfl
  · rw [most, UInt32.toNat_one]
    omega

/-- An operation is tried up to the first attempt that is final, and its outcome is that of the run.
Between any two attempts there is one pause, there is none before the first or after the last, and
each pause is the next of the one before it.  So there are at most as many attempts as the policy
allows, and a count of 32 bits never overflows. -/
theorem tries_to_first_final :
    (∃ n, IsLeast (policy.finals mayRetry outcomes) (n + 1) ∧ n + 1 ≤ max policy.times 1 ∧
      (policy.run mayRetry rest (scripted outcomes)).run [] =
        (outcomes (n + 1), policy.before n ++ [.attempt (n + 1)]) ∧
      (policy.times < UInt32.size →
        (policy.runCounted mayRetry rest (numbered outcomes)).run [] =
          (outcomes (n + 1), policy.before n ++ [.attempt (n + 1)]))) ∧
    ∃ n, IsLeast {number | 0 < number ∧
        ((∃ value, outcomes number = .ok value) ∨ number = max policy.times 1)} (n + 1) ∧
      (policy.runAlways rest (scripted outcomes)).run [] =
        (outcomes (n + 1), policy.before n ++ [.attempt (n + 1)]) := by
  obtain ⟨n, least, ends⟩ := policy.run_course mayRetry outcomes
  constructor
  · refine ⟨n, least, le_attempts least, ends, fun fits => ?_⟩
    rw [runCounted_eq_run policy mayRetry outcomes fits, ends]
  · have always := policy.run_course (fun _ => true) outcomes
    rw [finals_always] at always
    exact always

end Whole

end RetryPolicy

end ServerDriven
