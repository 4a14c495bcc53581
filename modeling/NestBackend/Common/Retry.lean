import Mathlib.Order.Lattice.Nat
import Mathlib.Tactic.Ring
import NestBackend.Js.Value
import NestBackend.Lib.Script

namespace NestBackend.Common

open NestBackend.Js
open NestBackend.Lib

def DEFAULT_ATTEMPTS : ℤ := 10

def DEFAULT_INITIAL_DELAY_MS : Nat := 500

def DEFAULT_MAX_DELAY_MS : Nat := 5000

structure BoundedRetryOptions where
  attempts : Option ℤ := none
  initialDelayMs : Option Nat := none
  maxDelayMs : Option Nat := none
  failureMessage : Option String := none

inductive AfterFailure where
  | sleep (ms : Nat)
  | giveUp
  deriving DecidableEq

namespace BoundedRetryOptions

def budget (options : BoundedRetryOptions) : ℤ := options.attempts.getD DEFAULT_ATTEMPTS

def delay (options : BoundedRetryOptions) (attempt : Nat) : Nat :=
  let initialDelayMs := options.initialDelayMs.getD DEFAULT_INITIAL_DELAY_MS
  let maxDelayMs := options.maxDelayMs.getD DEFAULT_MAX_DELAY_MS
  min (initialDelayMs * 2 ^ (attempt - 1)) maxDelayMs

def afterFailure (options : BoundedRetryOptions) (attempt : Nat) : AfterFailure :=
  if attempt < options.budget then .sleep (options.delay attempt) else .giveUp

def finalError (options : BoundedRetryOptions) (lastError : Thrown) : Thrown :=
  if lastError.isError then lastError
  else .ofMessage (options.failureMessage.getD s!"Failed after {options.budget} attempts")

end BoundedRetryOptions

section

variable {ρ : Type} {ans : ρ → Type} {α : Type}

/-- The `catch` block of the loop; the hook may throw. -/
def caught (sleep : Nat → Script ρ ans Thrown Unit)
    (onAttemptFailed : Option (Nat → ℤ → Thrown → Script ρ ans Thrown Unit))
    (options : BoundedRetryOptions) (attempt : Nat) (err : Thrown) : Script ρ ans Thrown Unit :=
  match options.afterFailure attempt with
  | .sleep ms => do
    match onAttemptFailed with
    | some hook => hook attempt options.budget err
    | none => pure ()
    sleep ms
  | .giveUp => pure ()

/-- The loop, `left` being the number of attempts that its condition still lets through. -/
def retryLoop (sleep : Nat → Script ρ ans Thrown Unit)
    (onAttemptFailed : Option (Nat → ℤ → Thrown → Script ρ ans Thrown Unit))
    (options : BoundedRetryOptions) (task : Script ρ ans Thrown α) :
    (left attempt : Nat) → (lastError : Thrown) → Script ρ ans Thrown α
  | 0, _, lastError => .throw (options.finalError lastError)
  | left + 1, attempt, _ => do
    match ← task.settle with
    | .ok a => return a
    | .error err =>
      caught sleep onAttemptFailed options attempt err
      retryLoop sleep onAttemptFailed options task left (attempt + 1) err

def retryFrom (sleep : Nat → Script ρ ans Thrown Unit)
    (onAttemptFailed : Option (Nat → ℤ → Thrown → Script ρ ans Thrown Unit))
    (options : BoundedRetryOptions) (task : Script ρ ans Thrown α) (attempt : Nat)
    (lastError : Thrown) : Script ρ ans Thrown α :=
  retryLoop sleep onAttemptFailed options task (options.budget + 1 - attempt).toNat attempt
    lastError

def withBoundedRetry (sleep : Nat → Script ρ ans Thrown Unit)
    (onAttemptFailed : Option (Nat → ℤ → Thrown → Script ρ ans Thrown Unit))
    (options : BoundedRetryOptions) (task : Script ρ ans Thrown α) : Script ρ ans Thrown α :=
  retryFrom sleep onAttemptFailed options task 1 (.other .undefined)

variable {sleep : Nat → Script ρ ans Thrown Unit}
  {onAttemptFailed : Option (Nat → ℤ → Thrown → Script ρ ans Thrown Unit)}
  {options : BoundedRetryOptions} {task : Script ρ ans Thrown α} {attempt : Nat}
  {lastError : Thrown}

theorem retryFrom_of_le (h : attempt ≤ options.budget) :
    retryFrom sleep onAttemptFailed options task attempt lastError =
      task.settle.bind fun o =>
        match o with
        | .ok a => .ret a
        | .error err => (caught sleep onAttemptFailed options attempt err).bind fun _ =>
          retryFrom sleep onAttemptFailed options task (attempt + 1) err := by
  have hleft : (options.budget + 1 - attempt).toNat =
      (options.budget + 1 - (attempt + 1 : Nat)).toNat + 1 := by omega
  rw [retryFrom, hleft]
  rfl

theorem retryFrom_of_lt (h : options.budget < attempt) :
    retryFrom sleep onAttemptFailed options task attempt lastError =
      .throw (options.finalError lastError) := by
  have hleft : (options.budget + 1 - attempt).toNat = 0 := by omega
  rw [retryFrom, hleft]
  rfl

section

variable {G : List (Exchange ans) → ρ → Prop} {I : Nat → List (Exchange ans) → Prop}
  {F : Nat → Thrown → List (Exchange ans) → Prop} {Q : Except Thrown α → List (Exchange ans) → Prop}
  {h : List (Exchange ans)}

theorem meets_round
    (htask : task.Meets G (Script.Ends (fun a h => Q (.ok a) h) (F attempt)) h)
    (hcaught : ∀ e h, F attempt e h →
      (caught sleep onAttemptFailed options attempt e).Meets G (Script.Ends
        (fun _ h => (retryFrom sleep onAttemptFailed options task (attempt + 1) e).Meets G Q h)
        fun e h => Q (.error e) h) h)
    (hle : attempt ≤ options.budget) :
    (retryFrom sleep onAttemptFailed options task attempt lastError).Meets G Q h := by
  rw [retryFrom_of_le hle, Script.meets_bind, Script.meets_settle]
  refine htask.mono fun o h ho => ?_
  cases o with
  | ok a => exact ho
  | error e =>
    refine (Script.meets_bind _ _).mpr ((hcaught e h ho).mono fun o h ho => ?_)
    cases o with
    | ok _ => exact ho
    | error e => exact ho

theorem meets_retryFrom
    (htask : ∀ (i : Nat) h, i ≤ options.budget → I i h →
      task.Meets G (Script.Ends (fun a h => Q (.ok a) h) (F i)) h)
    (hcaught : ∀ (i : Nat) e h, i ≤ options.budget → F i e h →
      (caught sleep onAttemptFailed options i e).Meets G (Script.Ends
        (fun _ h => if i < options.budget then I (i + 1) h else Q (.error (options.finalError e)) h)
        fun e h => Q (.error e) h) h)
    (hle : attempt ≤ options.budget) (hI : I attempt h) :
    (retryFrom sleep onAttemptFailed options task attempt lastError).Meets G Q h := by
  obtain ⟨left, hleft⟩ : ∃ left : Nat, (options.budget - attempt).toNat = left := ⟨_, rfl⟩
  induction left generalizing attempt lastError h with
  | zero =>
    refine meets_round (htask attempt h hle hI) (fun e h he => ?_) hle
    refine (hcaught attempt e h hle he).mono fun o h ho => ?_
    cases o with
    | error e => exact ho
    | ok _ =>
      have hlast : ¬ (attempt : ℤ) < options.budget := by omega
      simp only [Script.Ends, hlast, if_false] at ho ⊢
      rw [retryFrom_of_lt (by omega)]
      exact ho
  | succ left ih =>
    refine meets_round (htask attempt h hle hI) (fun e h he => ?_) hle
    refine (hcaught attempt e h hle he).mono fun o h ho => ?_
    cases o with
    | error e => exact ho
    | ok _ =>
      have hnext : (attempt : ℤ) < options.budget := by omega
      simp only [Script.Ends, hnext, if_true] at ho ⊢
      exact ih (by omega) ho (by omega)

end

theorem within_retryFrom {m n : Nat} (htask : task.Within m)
    (hcaught : ∀ i e, (caught sleep onAttemptFailed options i e).Within n) :
    (retryFrom sleep onAttemptFailed options task attempt lastError).Within
      ((options.budget + 1 - attempt).toNat * (m + n)) := by
  obtain ⟨left, hleft⟩ : ∃ left : Nat, (options.budget + 1 - attempt).toNat = left := ⟨_, rfl⟩
  rw [hleft]
  induction left generalizing attempt lastError with
  | zero =>
    rw [retryFrom_of_lt (by omega)]
    trivial
  | succ left ih =>
    rw [retryFrom_of_le (by omega), show (left + 1) * (m + n) = m + (n + left * (m + n)) by ring]
    refine htask.settle.bind fun o => ?_
    cases o with
    | ok a => trivial
    | error e => exact (hcaught attempt e).bind fun _ => ih (by omega)

end

end NestBackend.Common
