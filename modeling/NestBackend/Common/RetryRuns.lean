import Mathlib.Algebra.Order.Group.Nat
import Mathlib.Algebra.Order.BigOperators.Group.List
import Mathlib.Data.Nat.Find
import NestBackend.Common.Retry

namespace NestBackend.Common

open NestBackend.Js
open NestBackend.Lib

inductive RetryCall where
  | task
  | onAttemptFailed (attempt : Nat) (attempts : ℤ) (err : Thrown)
  | sleep (ms : Nat)

namespace RetryCall

def Result (α : Type) : RetryCall → Type
  | .task => Except Thrown α
  | .onAttemptFailed .. => Unit
  | .sleep _ => Unit

def isTask : RetryCall → Bool
  | .task => true
  | _ => false

def hook? : RetryCall → Option (Nat × ℤ × Thrown)
  | .onAttemptFailed attempt attempts err => some (attempt, attempts, err)
  | _ => none

def sleep? : RetryCall → Option Nat
  | .sleep ms => some ms
  | _ => none

end RetryCall

variable {α : Type}

/-- How the calls of the task end, in order; `none` for a call that never settles. -/
abbrev Outcomes (α : Type) := Nat → Option (Except Thrown α)

def Outcomes.serve (outcomes : Outcomes α) :
    (call : RetryCall) → (calls : Nat) → Option (call.Result α × Nat)
  | .task, calls => (outcomes calls).map fun o => (o, calls + 1)
  | .onAttemptFailed .., calls => some ((), calls)
  | .sleep _, calls => some ((), calls)

abbrev RetryScript (α β : Type) := Script RetryCall (RetryCall.Result α) Thrown β

def callTask : RetryScript α α := .ask .task .ofExcept

def sleepCall (ms : Nat) : RetryScript α Unit := .ask (.sleep ms) .ret

def hookCall (attempt : Nat) (attempts : ℤ) (err : Thrown) : RetryScript α Unit :=
  .ask (.onAttemptFailed attempt attempts err) .ret

/-- The calls made and how the promise ends, `none` when it stays pending. -/
def Outcomes.retry (outcomes : Outcomes α) (options : BoundedRetryOptions) :
    List RetryCall × Option (Except Thrown α) :=
  (withBoundedRetry sleepCall (some hookCall) options callTask).run outcomes.serve 0

def Outcomes.FailWith (outcomes : Outcomes α) (errs : Nat → Thrown) (k : Nat) : Prop :=
  ∀ i < k, outcomes i = some (.error (errs i))

def rounds (options : BoundedRetryOptions) (errs : Nat → Thrown) (k : Nat) : List RetryCall :=
  let initialDelayMs := options.initialDelayMs.getD DEFAULT_INITIAL_DELAY_MS
  let maxDelayMs := options.maxDelayMs.getD DEFAULT_MAX_DELAY_MS
  (List.range k).flatMap fun i =>
    [.task, .onAttemptFailed (i + 1) options.budget (errs i),
      .sleep (min (initialDelayMs * 2 ^ i) maxDelayMs)]

def callsUpTo (options : BoundedRetryOptions) (errs : Nat → Thrown) : Nat → List RetryCall
  | 0 => []
  | k + 1 => rounds options errs k ++ [.task]

theorem tasks_callsUpTo (options : BoundedRetryOptions) (errs : Nat → Thrown) (k : Nat) :
    (callsUpTo options errs k).countP (·.isTask) = k := by
  cases k with
  | zero => rfl
  | succ k => simp [callsUpTo, rounds, List.countP_flatMap, RetryCall.isTask, Function.comp_def]

theorem hooks_callsUpTo (options : BoundedRetryOptions) (errs : Nat → Thrown) (k : Nat) :
    (callsUpTo options errs k).filterMap (·.hook?) =
      (List.range (k - 1)).map fun i => (i + 1, options.budget, errs i) := by
  cases k with
  | zero => rfl
  | succ k =>
    simp [callsUpTo, rounds, List.filterMap_flatMap, RetryCall.hook?, List.map_eq_flatMap]

theorem sleeps_callsUpTo (options : BoundedRetryOptions) (errs : Nat → Thrown) (k : Nat) :
    (callsUpTo options errs k).filterMap (·.sleep?) = (List.range (k - 1)).map fun i =>
      min (options.initialDelayMs.getD DEFAULT_INITIAL_DELAY_MS * 2 ^ i)
        (options.maxDelayMs.getD DEFAULT_MAX_DELAY_MS) := by
  cases k with
  | zero => rfl
  | succ k =>
    simp [callsUpTo, rounds, List.filterMap_flatMap, RetryCall.sleep?, List.map_eq_flatMap]

def lastErrorOf (errs : Nat → Thrown) : Nat → Thrown
  | 0 => .other .undefined
  | k + 1 => errs k

section Runs

variable {outcomes : Outcomes α} {options : BoundedRetryOptions} {errs : Nat → Thrown} {k : Nat}

def Outcomes.retryAfter (outcomes : Outcomes α) (options : BoundedRetryOptions)
    (errs : Nat → Thrown) (k : Nat) : List RetryCall × Option (Except Thrown α) :=
  (retryFrom sleepCall (some hookCall) options callTask (k + 1) (lastErrorOf errs k)).run
    outcomes.serve k

theorem serve_task {o : Except Thrown α} (h : outcomes k = some o) :
    outcomes.serve .task k = some (o, k + 1) := by
  rw [Outcomes.serve, h]
  rfl

theorem retryAfter_pending (hk : k < options.budget) (h : outcomes k = none) :
    outcomes.retryAfter options errs k = ([.task], none) := by
  have hserve : outcomes.serve .task k = none := by
    rw [Outcomes.serve, h]
    rfl
  rw [Outcomes.retryAfter, retryFrom_of_le (by omega)]
  exact Script.run_ask_none hserve

theorem retryAfter_success {a : α} (hk : k < options.budget) (h : outcomes k = some (.ok a)) :
    outcomes.retryAfter options errs k = ([.task], some (.ok a)) := by
  rw [Outcomes.retryAfter, retryFrom_of_le (by omega)]
  exact Script.run_ask_some (serve_task h)

theorem retryAfter_failed (hk : k + 1 < options.budget)
    (h : outcomes k = some (.error (errs k))) :
    outcomes.retryAfter options errs k =
      ([.task, .onAttemptFailed (k + 1) options.budget (errs k), .sleep (options.delay (k + 1))] ++
        (outcomes.retryAfter options errs (k + 1)).1,
        (outcomes.retryAfter options errs (k + 1)).2) := by
  have hleft : options.afterFailure (k + 1) = .sleep (options.delay (k + 1)) := by
    rw [BoundedRetryOptions.afterFailure, if_pos (by omega)]
  rw [Outcomes.retryAfter, retryFrom_of_le (by omega)]
  refine (Script.run_ask_some (serve_task h)).trans ?_
  simp only [Script.ofExcept, Script.settle, Script.ret_bind, caught, hleft]
  rfl

theorem retryAfter_exhausted (hk : k + 1 = options.budget)
    (h : outcomes k = some (.error (errs k))) :
    outcomes.retryAfter options errs k =
      ([.task], some (.error (options.finalError (errs k)))) := by
  have hspent : options.afterFailure (k + 1) = .giveUp := by
    rw [BoundedRetryOptions.afterFailure, if_neg (by omega)]
  rw [Outcomes.retryAfter, retryFrom_of_le (by omega)]
  refine (Script.run_ask_some (serve_task h)).trans ?_
  simp only [Script.ofExcept, Script.settle, Script.ret_bind, caught, hspent, Script.pure_eq]
  rw [retryFrom_of_lt (by omega)]
  rfl

theorem retry_eq (hfail : outcomes.FailWith errs k) (hk : k < options.budget) :
    outcomes.retry options =
      (rounds options errs k ++ (outcomes.retryAfter options errs k).1,
        (outcomes.retryAfter options errs k).2) := by
  induction k with
  | zero => rfl
  | succ k ih =>
    have hprev := ih (fun i hi => hfail i (by omega)) (by omega)
    rw [hprev, retryAfter_failed (by omega) (hfail k (by omega))]
    simp [rounds, List.range_succ, BoundedRetryOptions.delay]

theorem retry_of_success {a : α} (hfail : outcomes.FailWith errs k) (hk : k < options.budget)
    (h : outcomes k = some (.ok a)) :
    outcomes.retry options = (callsUpTo options errs (k + 1), some (.ok a)) := by
  rw [retry_eq hfail hk, retryAfter_success hk h]
  rfl

theorem retry_of_pending (hfail : outcomes.FailWith errs k) (hk : k < options.budget)
    (h : outcomes k = none) :
    outcomes.retry options = (callsUpTo options errs (k + 1), none) := by
  rw [retry_eq hfail hk, retryAfter_pending hk h]
  rfl

theorem retry_of_exhausted (hfail : outcomes.FailWith errs k) (hk : k = max options.budget 0) :
    outcomes.retry options =
      (callsUpTo options errs k, some (.error (options.finalError (lastErrorOf errs k)))) := by
  cases k with
  | zero =>
    rw [Outcomes.retry, withBoundedRetry, retryFrom_of_lt (by omega)]
    rfl
  | succ k =>
    rw [retry_eq (k := k) (fun i hi => hfail i (by omega)) (by omega),
      retryAfter_exhausted (by omega) (hfail k (by omega))]
    rfl

theorem exists_failWith (outcomes : Outcomes α) (options : BoundedRetryOptions) :
    ∃ errs, ∃ k : Nat, outcomes.FailWith errs k ∧ (k = max options.budget 0 ∨
      k < options.budget ∧ ∀ e, outcomes k ≠ some (.error e)) := by
  classical
  have hpick : ∀ i, ∃ err, (∃ e, outcomes i = some (.error e)) →
      outcomes i = some (.error err) := by
    intro i
    by_cases h : ∃ e, outcomes i = some (.error e)
    · obtain ⟨e, he⟩ := h
      exact ⟨e, fun _ => he⟩
    · exact ⟨.ofMessage "", fun h' => absurd h' h⟩
  choose errs herrs using hpick
  by_cases hall : ∀ i < options.budget.toNat, ∃ e, outcomes i = some (.error e)
  · exact ⟨errs, options.budget.toNat, fun i hi => herrs i (hall i hi), .inl (by omega)⟩
  · push Not at hall
    obtain ⟨hk, hne⟩ := Nat.find_spec hall
    refine ⟨errs, Nat.find hall, fun i hi => herrs i ?_, .inr ⟨by omega, hne⟩⟩
    by_contra hno
    push Not at hno
    exact Nat.find_min hall hi ⟨by omega, hno⟩

theorem retry_calls (outcomes : Outcomes α) (options : BoundedRetryOptions) :
    ∃ errs, ∃ k : Nat, k ≤ max options.budget 0 ∧
      (outcomes.retry options).1 = callsUpTo options errs k := by
  obtain ⟨errs, k, hfail, hk | ⟨hk, hne⟩⟩ := exists_failWith outcomes options
  · exact ⟨errs, k, by omega, congrArg Prod.fst (retry_of_exhausted hfail hk)⟩
  · refine ⟨errs, k + 1, by omega, ?_⟩
    cases hout : outcomes k with
    | none => exact congrArg Prod.fst (retry_of_pending hfail hk hout)
    | some o =>
      cases o with
      | ok a => exact congrArg Prod.fst (retry_of_success hfail hk hout)
      | error e => exact absurd hout (hne e)

end Runs

theorem sleeps_le (options : BoundedRetryOptions) (errs : Nat → Thrown) (k : Nat) :
    ((callsUpTo options errs k).filterMap (·.sleep?)).sum ≤
      (k - 1) * options.maxDelayMs.getD DEFAULT_MAX_DELAY_MS := by
  rw [sleeps_callsUpTo]
  have hdelay : ∀ ms ∈ (List.range (k - 1)).map fun i =>
        min (options.initialDelayMs.getD DEFAULT_INITIAL_DELAY_MS * 2 ^ i)
          (options.maxDelayMs.getD DEFAULT_MAX_DELAY_MS),
      ms ≤ options.maxDelayMs.getD DEFAULT_MAX_DELAY_MS := by
    intro ms hms
    obtain ⟨i, -, rfl⟩ := List.mem_map.mp hms
    exact min_le_right _ _
  simpa using List.sum_le_card_nsmul _ _ hdelay

/-- Call for call: what a run does up to the first success, up to the end of the budget, and up
to a call of the task that never settles. -/
theorem bounded_retry (outcomes : Outcomes α) (options : BoundedRetryOptions) :
    let calls := (outcomes.retry options).1
    let result := (outcomes.retry options).2
    let initialDelayMs := options.initialDelayMs.getD DEFAULT_INITIAL_DELAY_MS
    let maxDelayMs := options.maxDelayMs.getD DEFAULT_MAX_DELAY_MS
    (∀ errs, ∀ k : Nat, ∀ a, k < options.budget → outcomes.FailWith errs k →
        outcomes k = some (.ok a) →
        calls = callsUpTo options errs (k + 1) ∧ calls.countP (·.isTask) = k + 1 ∧
          result = some (.ok a)) ∧
      (∀ errs, outcomes.FailWith errs options.budget.toNat →
        let last := lastErrorOf errs options.budget.toNat
        calls = callsUpTo options errs options.budget.toNat ∧
          calls.countP (·.isTask) = options.budget.toNat ∧
          (last.isError = true → result = some (.error last)) ∧
          (last.isError = false → result = some (.error (.error "Error" none
            (options.failureMessage.getD s!"Failed after {options.budget} attempts"))))) ∧
      (∀ errs, ∀ k : Nat, k < options.budget → outcomes.FailWith errs k → outcomes k = none →
        calls = callsUpTo options errs (k + 1) ∧ result = none) ∧
      (∀ errs k, (callsUpTo options errs k).filterMap (·.hook?) =
          (List.range (k - 1)).map (fun i => (i + 1, options.budget, errs i)) ∧
        (callsUpTo options errs k).filterMap (·.sleep?) =
          (List.range (k - 1)).map fun i => min (initialDelayMs * 2 ^ i) maxDelayMs) ∧
      (calls.filterMap (·.sleep?)).sum ≤ (options.budget - 1).toNat * maxDelayMs := by
  intro calls result initialDelayMs maxDelayMs
  refine ⟨?_, ?_, ?_, ?_, ?_⟩
  · intro errs k a hk hfail h
    have hrun := retry_of_success hfail hk h
    have hcalls : calls = callsUpTo options errs (k + 1) := congrArg Prod.fst hrun
    exact ⟨hcalls, hcalls ▸ tasks_callsUpTo options errs (k + 1), congrArg Prod.snd hrun⟩
  · intro errs hfail last
    have hbudget : (options.budget.toNat : ℤ) = max options.budget 0 := Int.toNat_eq_max _
    have hrun := retry_of_exhausted hfail hbudget
    have hcalls : calls = callsUpTo options errs options.budget.toNat := congrArg Prod.fst hrun
    have hresult : result = some (.error (options.finalError last)) := congrArg Prod.snd hrun
    refine ⟨hcalls, hcalls ▸ tasks_callsUpTo options errs _, fun hlast => ?_, fun hlast => ?_⟩
    · rw [hresult, BoundedRetryOptions.finalError, if_pos hlast]
    · rw [hresult, BoundedRetryOptions.finalError, if_neg (by simp [hlast]), Thrown.ofMessage]
  · intro errs k hk hfail h
    have hrun := retry_of_pending hfail hk h
    exact ⟨congrArg Prod.fst hrun, congrArg Prod.snd hrun⟩
  · intro errs k
    exact ⟨hooks_callsUpTo options errs k, sleeps_callsUpTo options errs k⟩
  · obtain ⟨errs, k, hk, hcalls⟩ := retry_calls outcomes options
    calc (calls.filterMap (·.sleep?)).sum
      _ = ((callsUpTo options errs k).filterMap (·.sleep?)).sum := by rw [← hcalls]
      _ ≤ (k - 1) * maxDelayMs := sleeps_le options errs k
      _ ≤ (options.budget - 1).toNat * maxDelayMs := Nat.mul_le_mul_right _ (by omega)

example (e : Thrown) :
    Outcomes.retry (fun i => if i = 0 then some (.error e) else some (.ok 7)) {} =
      ([.task, .onAttemptFailed 1 10 e, .sleep 500, .task], some (.ok 7)) := rfl

end NestBackend.Common
