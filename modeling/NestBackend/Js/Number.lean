import Mathlib.Algebra.Order.Ring.Rat
import NestBackend.Js.Text

namespace NestBackend.Js

/-- A JavaScript number.  Arithmetic on finite values is exact. -/
inductive Number where
  | nan
  | inf (negative : Bool)
  | fin (q : ℚ)
  deriving DecidableEq

namespace Number

def sub : Number → Number → Number
  | .fin a, .fin b => .fin (a - b)
  | .inf s, .inf t => if s = t then .nan else .inf s
  | .inf s, .fin _ => .inf s
  | .fin _, .inf t => .inf (!t)
  | .nan, _ | _, .nan => .nan

def mul : Number → Number → Number
  | .fin a, .fin b => .fin (a * b)
  | .inf s, .inf t => .inf (s ^^ t)
  | .inf s, .fin b => if b = 0 then .nan else .inf (s ^^ decide (b < 0))
  | .fin a, .inf t => if a = 0 then .nan else .inf (t ^^ decide (a < 0))
  | .nan, _ | _, .nan => .nan

def lt : Number → Number → Bool
  | .fin a, .fin b => decide (a < b)
  | .inf s, .inf t => s && !t
  | .inf s, .fin _ => s
  | .fin _, .inf t => !t
  | .nan, _ | _, .nan => false

def le : Number → Number → Bool
  | .fin a, .fin b => decide (a ≤ b)
  | .inf s, .inf t => s || !t
  | .inf s, .fin _ => s
  | .fin _, .inf t => !t
  | .nan, _ | _, .nan => false

def min (x y : Number) : Number :=
  if x = .nan ∨ y = .nan then .nan else if x.lt y then x else y

theorem min_fin (a b : ℚ) : min (.fin a) (.fin b) = .fin (Min.min a b) := by
  by_cases h : a < b
  · simp [min, lt, h, min_eq_left h.le]
  · simp [min, lt, h, min_eq_right (not_lt.mp h)]

end Number

def OVERFLOW : Nat := 2 ^ 1024 - 2 ^ 970

namespace Number

def isFinite : Number → Bool
  | .fin _ => true
  | _ => false

/-- The number for an integer; below `OVERFLOW` it is taken to be exact. -/
def ofInt (n : ℤ) : Number := if n.natAbs < OVERFLOW then .fin n else .inf (decide (n < 0))

def dividedBy (x : Number) (d : ℚ) : Number :=
  match x with
  | .fin q => .fin (q / d)
  | x => x

def IsAmount (x : Number) : Prop := ∃ q : ℚ, 0 ≤ q ∧ x = .fin q

theorem isAmount_iff {x : Number} :
    x.IsAmount ↔ x.isFinite = true ∧ x.lt (.fin 0) = false := by
  cases x with
  | nan => simp [IsAmount, isFinite]
  | inf negative => simp [IsAmount, isFinite]
  | fin q => simp [IsAmount, isFinite, lt]

theorem isAmount_zero : IsAmount (.fin 0) := ⟨0, le_refl 0, rfl⟩

theorem isAmount_guard (x : Number) :
    IsAmount (if x.isFinite && Number.lt (.fin 0) x then x else .fin 0) := by
  cases x with
  | nan => exact isAmount_zero
  | inf negative => exact isAmount_zero
  | fin q =>
    by_cases hq : 0 < q
    · exact ⟨q, hq.le, by simp [isFinite, lt, hq]⟩
    · simpa [isFinite, lt, hq] using isAmount_zero

end Number

/-- `Number.parseInt(s, 10)`. -/
def parseInt (s : String) : Number :=
  let text := s.toList.dropWhile isWhiteSpace
  let negative := text.head? == some '-'
  let unsigned := if negative || text.head? == some '+' then text.tail else text
  match unsigned.takeWhile Char.isDigit with
  | [] => .nan
  | digits =>
    let magnitude : Nat := digits.foldl (fun n d => 10 * n + (d.toNat - '0'.toNat)) 0
    .ofInt (if negative then -magnitude else magnitude)

example : parseInt " -42px" = .fin (-42) := by decide +kernel

end NestBackend.Js
