import Mathlib.Data.Rat.Defs
import NestBackend.Js.Text
import NestBackend.Js.Value

/-! The decorators of class-validator, on values that have been parsed from JSON. -/

namespace NestBackend.Js

namespace Value

def isNil : Value → Bool
  | .undefined | .null => true
  | _ => false

/-- `value?.[key]` of a parsed value. -/
def chain (key : String) : Value → Value
  | .object props => (props.lookup key).getD .undefined
  | _ => .undefined

def props : Value → List (String × Value)
  | .object props => props
  | _ => []

@[simp] theorem chain_props (v : Value) (key : String) :
    (Value.object v.props).chain key = v.chain key := by
  cases v <;> rfl

theorem lookup_ofProps (props : List (String × Json)) (key : String) :
    (ofProps props).lookup key = (props.lookup key).map ofJson := by
  induction props with
  | nil => rfl
  | cons prop props ih =>
    obtain ⟨k, j⟩ := prop
    cases hkey : key == k <;> simp [ofProps, List.lookup_cons, hkey, ih]

theorem chain_ofJson (j : Json) (key : String) : (ofJson j).chain key = j.read key := by
  cases j with
  | obj props =>
    simp only [ofJson, chain, Json.read, Json.get?, lookup_ofProps]
    cases props.lookup key <;> rfl
  | _ => rfl

theorem chain_object (props : List (String × Json)) (key : String) :
    (Value.object (ofProps props)).chain key = (Json.obj props).read key :=
  chain_ofJson (.obj props) key

theorem ofJson_eq_string {j : Json} {s : String} (h : ofJson j = .string s) : j = .str s := by
  cases j <;> simp_all [ofJson]

theorem read_of_not_nil {v : Value} (h : v.isNil = false) (key : String) :
    v.read key = .ok (v.chain key) := by
  cases v <;> first | rfl | cases h

theorem chain_of_nil {v : Value} (h : v.isNil = true) (key : String) :
    v.chain key = .undefined := by
  cases v <;> first | rfl | cases h

end Value

theorem Json.get?_of_read_string {j : Json} {key s : String} (h : j.read key = .string s) :
    j.get? key = some (.str s) := by
  unfold read at h
  split at h
  · next v hv => rw [hv, Value.ofJson_eq_string h]
  · cases h

theorem Json.get?_of_read_number {j : Json} {key : String} {q : ℚ}
    (h : j.read key = .number (.fin q)) : j.get? key = some (.num q) := by
  unfold read at h
  split at h
  · next v hv =>
    cases v <;> simp_all [Value.ofJson]
  · cases h

namespace Value

def isString : Value → Bool
  | .string _ => true
  | _ => false

def isNotEmpty : Value → Bool
  | .string s => s ≠ ""
  | v => !v.isNil

def matchesNonSpace : Value → Bool
  | .string s => NonBlank s
  | _ => false

/-- `@IsIn(values)`, for strings. -/
def isIn (values : List String) (v : Value) : Bool := values.any v.strictEq

def isInt : Value → Bool
  | .number (.fin q) => q.isInt
  | _ => false

def isPositive : Value → Bool
  | .number n => Number.lt (.fin 0) n
  | _ => false

theorem isString_iff {v : Value} : v.isString = true ↔ ∃ s, v = .string s := by
  cases v <;> simp [isString]

theorem isIn_iff {values : List String} {v : Value} :
    v.isIn values = true ↔ ∃ s ∈ values, v = .string s := by
  cases v with
  | string t => simp [isIn, strictEq]
  | _ => simp [isIn, strictEq]

theorem isInt_isPositive_iff {v : Value} :
    v.isInt = true ∧ v.isPositive = true ↔ ∃ n : ℕ, 0 < n ∧ v = .number (.fin n) := by
  constructor
  · rintro ⟨hint, hpos⟩
    match v with
    | .number (.fin q) =>
      have hden : q.den = 1 := by simpa [isInt, Rat.isInt] using hint
      have hnum : 0 < q.num := by simpa [isPositive, Number.lt] using hpos
      obtain ⟨n, hn⟩ := Int.eq_ofNat_of_zero_le hnum.le
      refine ⟨n, by omega, ?_⟩
      rw [← (Rat.den_eq_one_iff q).mp hden, hn]
      rfl
  · rintro ⟨n, hn, rfl⟩
    have hpos : (0 : ℚ) < n := Rat.natCast_pos.mpr hn
    simp [isInt, isPositive, Number.lt, Rat.isInt, hpos]

end Value

/-- A declared property with its decorators; `optional` is `@IsOptional()`. -/
structure Property where
  name : String
  optional : Bool
  checks : List (Value → Bool)

def Property.accepts (p : Property) (v : Value) : Bool :=
  (p.optional && v.isNil) || p.checks.all fun check => check v

/-- Declared properties meet their decorators, and there are no others, apart from keys that
are left out when the instance is made. -/
def acceptsObject (ignored : String → Bool) (dto : List Property)
    (props : List (String × Value)) : Bool :=
  (props.all fun prop => ignored prop.1 || dto.any fun p => p.name == prop.1) &&
    dto.all fun p => p.accepts ((Value.object props).chain p.name)

mutual

/-- `@ValidateNested()`, with `@Type` naming the class. -/
def validateNested (ignored : String → Bool) (dto : List Property) : Value → Bool
  | .undefined | .null => true
  | .object props => acceptsObject ignored dto props
  | .array items => validateItems ignored dto items
  | _ => false

def validateItems (ignored : String → Bool) (dto : List Property) : List Value → Bool
  | [] => true
  | v :: vs => !v.isNil && validateNested ignored dto v && validateItems ignored dto vs

end

variable {ignored : String → Bool} {dto : List Property} {props : List (String × Value)}

theorem accepts_of_mem (h : acceptsObject ignored dto props = true) {p : Property} (hp : p ∈ dto) :
    p.accepts ((Value.object props).chain p.name) = true :=
  List.all_eq_true.mp (Bool.and_eq_true_iff.mp h).2 p hp

theorem Property.accepts_required {name : String} {checks : List (Value → Bool)} {v : Value}
    (h : Property.accepts ⟨name, false, checks⟩ v = true) : ∀ check ∈ checks, check v = true := by
  simpa [Property.accepts] using h

theorem Property.accepts_optional {name : String} {check : Value → Bool} {v : Value}
    (h : Property.accepts ⟨name, true, [check]⟩ v = true) : v.isNil = true ∨ check v = true := by
  simpa [Property.accepts] using h

/-- What an optional nested property may be.  Nothing is said of the items of a list. -/
theorem Property.accepts_nested {name key : String} {j : Json}
    (h : Property.accepts ⟨name, true, [validateNested ignored dto]⟩ (j.read key) = true) :
    j.get? key = none ∨ j.get? key = some .null ∨ (∃ items, j.get? key = some (.arr items)) ∨
      ∃ given, j.get? key = some (.obj given) ∧ acceptsObject ignored dto (ofProps given) = true := by
  rw [Json.read] at h
  cases hget : j.get? key with
  | none => exact .inl rfl
  | some v =>
    rw [hget] at h
    rcases Property.accepts_optional h with hnil | hnested
    · cases v with
      | null => exact .inr (.inl rfl)
      | _ => cases hnil
    · cases v with
      | null => exact .inr (.inl rfl)
      | arr items => exact .inr (.inr (.inl ⟨items, rfl⟩))
      | obj given =>
        simp only [Value.ofJson, validateNested] at hnested
        exact .inr (.inr (.inr ⟨given, rfl, hnested⟩))
      | _ => simp [Value.ofJson, validateNested] at hnested

end NestBackend.Js
