/-
Module: ServerDriven.Proofs.Retry.Doubling
Purpose: With the factor that every configuration has, each pause is twice the one before it, up to
  the greatest.
Main exports:
  Config.factor_load, RetryPolicy.Doubles, RetryPolicy.Doubles.nextDelay, RetryPolicy.Doubles.delay,
  RetryPolicy.pauses_double_to_cap
-/
import Mathlib.Data.List.Range
import ServerDriven.Config
import ServerDriven.Proofs.Number.Exact
import ServerDriven.Proofs.Retry.FirstFinal

namespace ServerDriven

/-- No setting changes the factor. -/
theorem Config.factor_load {lookup : String → Option String} {config : Config}
    (loads : Config.load lookup = .ok config) : config.retry.factor = Binary64.ofNat 2 := by
  unfold Config.load at loads
  cases base : serverUrl lookup baseUrlSetting defaultBaseUrl with
  | error e =>
      rw [base] at loads
      cases loads
  | ok baseUrl =>
      rw [base] at loads
      dsimp only [bind, Except.bind] at loads
      cases screens : serverUrl lookup screensUrlSetting baseUrl with
      | error e =>
          rw [screens] at loads
          cases loads
      | ok screensUrl =>
          rw [screens] at loads
          cases loads
          dsimp only

/-! ### How the pauses grow -/

namespace RetryPolicy

/-- The factor is two, and the first pause and the greatest, in nanoseconds, have 53 bits. -/
structure Doubles (policy : RetryPolicy) : Prop where
  factor : policy.factor = Binary64.ofNat 2
  initial : policy.initialDelay.nanos < 2 ^ 53
  most : policy.maxDelay.nanos < 2 ^ 53

variable {policy : RetryPolicy}

/-- A pause of 53 bits is doubled exactly. -/
theorem Doubles.nextDelay (h : policy.Doubles) {current : Duration}
    (bits : current.nanos < 2 ^ 53) :
    policy.nextDelay current = ⟨min (current.nanos * 2) policy.maxDelay.nanos⟩ := by
  obtain ⟨grown, product, is⟩ := Binary64.mul_two bits
  obtain ⟨most, rounded, is'⟩ := Binary64.ofNat_is_self h.most
  have most_lt := h.most
  unfold RetryPolicy.nextDelay
  rw [h.factor, product, rounded, capped, is.roundAway, is'.roundAway]
  split
  · rename_i reached
    have capped : min (current.nanos * 2) policy.maxDelay.nanos = policy.maxDelay.nanos := by
      omega
    rw [capped]
  · rename_i below
    have word : UInt64.size = 18446744073709551616 := rfl
    apply congrArg Duration.mk
    omega

/-- The pauses in closed form. -/
theorem Doubles.delay (h : policy.Doubles) (i : Nat) :
    (policy.delay (i + 1)).nanos =
      min (policy.initialDelay.nanos * 2 ^ (i + 1)) policy.maxDelay.nanos := by
  induction i with
  | zero =>
      rw [delay_succ, delay_zero, h.nextDelay h.initial, Nat.pow_one]
  | succ i ih =>
      have most := h.most
      have bits : (policy.delay (i + 1)).nanos < 2 ^ 53 := by omega
      rw [delay_succ, h.nextDelay bits, ih, Nat.pow_succ 2 (i + 1), ← Nat.mul_assoc]
      generalize policy.initialDelay.nanos * 2 ^ (i + 1) = grown
      dsimp only
      omega

/-- The cap takes hold for good: whatever reaches the greatest pause is followed by no other. -/
theorem Doubles.delay_of_reached (h : policy.Doubles) {i j : Nat} (earlier : i < j)
    (reached : policy.maxDelay.nanos ≤ (policy.delay i).nanos) :
    (policy.delay j).nanos = policy.maxDelay.nanos := by
  obtain ⟨j, rfl⟩ := Nat.exists_eq_add_one.mpr (Nat.zero_lt_of_lt earlier)
  have large : policy.maxDelay.nanos ≤ policy.initialDelay.nanos * 2 ^ i := by
    cases i with
    | zero =>
        rwa [Nat.pow_zero, Nat.mul_one]
    | succ i =>
        rw [h.delay] at reached
        exact Nat.le_trans reached (Nat.min_le_left _ _)
  have larger : policy.initialDelay.nanos * 2 ^ i ≤ policy.initialDelay.nanos * 2 ^ (j + 1) :=
    Nat.mul_le_mul_left _ (Nat.pow_le_pow_right (by decide) (Nat.le_of_lt earlier))
  rw [h.delay]
  exact Nat.min_eq_right (Nat.le_trans large larger)

/-- No pause is shorter than the one before it, if the first is no longer than the greatest. -/
theorem Doubles.delay_monotone (h : policy.Doubles)
    (small : policy.initialDelay.nanos ≤ policy.maxDelay.nanos) :
    Monotone fun i => (policy.delay i).nanos := by
  apply monotone_nat_of_le_succ
  intro i
  have grows : policy.initialDelay.nanos * 2 ^ i ≤ policy.initialDelay.nanos * 2 ^ (i + 1) :=
    Nat.mul_le_mul_left _ (Nat.pow_le_pow_right (by decide) (Nat.le_succ i))
  rw [h.delay]
  cases i with
  | zero =>
      rw [Nat.pow_zero, Nat.mul_one] at grows
      exact Nat.le_min.mpr ⟨grows, small⟩
  | succ i =>
      rw [h.delay]
      exact Nat.le_min.mpr
        ⟨Nat.le_trans (Nat.min_le_left _ _) grows, Nat.min_le_right _ _⟩

end RetryPolicy

/-! ### The pauses of a run -/

/-- The pause of a trial that is one. -/
def Trial.pause? : Trial → Option Duration
  | .pause d => some d
  | .attempt _ => none

namespace RetryPolicy

open Trial

variable (policy : RetryPolicy)

theorem pauses_before (n : Nat) :
    (policy.before n).filterMap pause? = (List.range n).map policy.delay := by
  induction n with
  | zero =>
      rfl
  | succ n ih =>
      rw [before, List.filterMap_append, List.filterMap_append, ih, List.range_succ,
        List.map_append]
      simp [pause?]

/-- One pause for each attempt but the last. -/
theorem run_pauses {ε α : Type} (mayRetry : ε → Bool) (outcomes : Nat → Except ε α) :
    ∃ n, ((policy.run mayRetry rest (scripted outcomes)).run []).2.countP isAttempt = n + 1 ∧
      (((policy.run mayRetry rest (scripted outcomes)).run []).2.filterMap pause?).map
        Duration.nanos = (List.range n).map fun i => (policy.delay i).nanos := by
  obtain ⟨n, -, ends⟩ := policy.run_course mayRetry outcomes
  refine ⟨n, ?_, ?_⟩
  · rw [ends, List.countP_append, countP_before]
    rfl
  · rw [ends, List.filterMap_append, pauses_before, List.map_append, List.map_map]
    exact List.append_nil _

theorem delay_of_getElem? {n k pause : Nat}
    (here : ((List.range n).map fun i => (policy.delay i).nanos)[k]? = some pause) :
    (policy.delay k).nanos = pause := by
  rw [List.getElem?_map, Option.map_eq_some_iff] at here
  obtain ⟨i, range, value⟩ := here
  obtain ⟨within, rfl⟩ := List.getElem?_eq_some_iff.mp range
  rwa [List.getElem_range] at value

/-- Every configuration has the factor two.  With it, as long as the first pause and the greatest
have 53 bits, the first pause of a run is as it is set, and any other is the first, doubled once
for each pause between, or the greatest if that is less.  So no pause but the first is above the
greatest, pauses do not shrink unless the first is above the greatest, and a pause that has reached
the greatest is followed by no other than the greatest. -/
theorem pauses_double_to_cap {ε α : Type} (h : policy.Doubles) (mayRetry : ε → Bool)
    (outcomes : Nat → Except ε α) :
    (∀ lookup config, Config.load lookup = .ok config →
      config.retry.factor = Binary64.ofNat 2) ∧
    let log := ((policy.run mayRetry rest (scripted outcomes)).run []).2
    let pauses := (log.filterMap pause?).map Duration.nanos
    let initial := policy.initialDelay.nanos
    let most := policy.maxDelay.nanos
    log.countP isAttempt = pauses.length + 1 ∧
    (∀ k pause, pauses[k]? = some pause →
      pause = if k = 0 then initial else min (initial * 2 ^ k) most) ∧
    (∀ k pause, pauses[k + 1]? = some pause → pause ≤ most) ∧
    (initial ≤ most → pauses.Pairwise (· ≤ ·)) ∧
    ∀ (i j reached later : Nat), i < j → pauses[i]? = some reached → pauses[j]? = some later →
      most ≤ reached → later = most := by
  refine ⟨fun _ _ => Config.factor_load, ?_⟩
  obtain ⟨n, attempts, inTurn⟩ := policy.run_pauses mayRetry outcomes
  dsimp only
  rw [inTurn, attempts]
  refine ⟨?_, ?_, ?_, ?_, ?_⟩
  · rw [List.length_map, List.length_range]
  · intro k pause here
    rw [← policy.delay_of_getElem? here]
    cases k with
    | zero => rfl
    | succ k => exact h.delay k
  · intro k pause here
    rw [← policy.delay_of_getElem? here, h.delay]
    exact Nat.min_le_right _ _
  · intro small
    rw [List.pairwise_map]
    exact List.pairwise_lt_range.imp fun earlier => h.delay_monotone small (Nat.le_of_lt earlier)
  · intro i j reached later earlier here there full
    rw [← policy.delay_of_getElem? here] at full
    rw [← policy.delay_of_getElem? there]
    exact h.delay_of_reached earlier full

/-- The third pause would be above the greatest, and from there on all are the same. -/
theorem failing_pauses_double_to_cap :
    let policy : RetryPolicy := { times := 5, initialDelay := ⟨300⟩, maxDelay := ⟨1000⟩ }
    let fails (number : Nat) : Except Nat Unit := .error number
    let log := ((policy.run (fun _ => true) rest (scripted fails)).run []).2
    let pauses := (log.filterMap pause?).map Duration.nanos
    policy.Doubles ∧ pauses = [300, 600, 1000, 1000] ∧
      (∀ k pause, pauses[k + 1]? = some pause → pause ≤ 1000) := by
  intro policy fails log pauses
  have doubles : policy.Doubles := ⟨by dsimp only [policy], by decide, by decide⟩
  refine ⟨doubles, by decide +kernel, ?_⟩
  exact (policy.pauses_double_to_cap doubles (fun _ => true) fails).2.2.2.1

end RetryPolicy

end ServerDriven
