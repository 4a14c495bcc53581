import NestBackend.Redis.Dto
import NestBackend.Redis.Service

namespace NestBackend.Redis

open NestBackend.Js

def DEFAULT_SET_TTL_SECONDS : Nat := 3600

namespace RedisController

def toSetOptions (dto : Value) : Except String SetOptions := do
  let expiration ←
    if (dto.chain "expiration").isUndefined then
      pure ⟨.string "EX", .number (.fin DEFAULT_SET_TTL_SECONDS)⟩
    else
      let type ← (dto.chain "expiration").read "type"
      let value ← (dto.chain "expiration").read "value"
      pure ⟨type, value⟩
  let condition := dto.chain "condition"
  return ⟨some expiration, if condition.isUndefined then none else some condition⟩

def setValue (body : Value) : Except String SetCall := do
  RedisService.set (← body.read "key") (← body.read "value")
    (← toSetOptions (← body.read "options"))

end RedisController

abbrev Props := List (String × Json)

mutual

/-- The objects that a value consists of: itself, or those of its items. -/
def objects : Json → List Props
  | .obj props => [props]
  | .arr items => objectsOf items
  | _ => []

def objectsOf : List Json → List Props
  | [] => []
  | item :: items => objects item ++ objectsOf items

end

def given (property : Option Json) : List Props := property.elim [] objects

def string? : Json → Option String
  | .str s => some s
  | _ => none

def expirationsOf (options : Option Json) : List Props :=
  (given options).flatMap fun props => given (props.lookup "expiration")

def conditionsOf (options : Option Json) : List String :=
  (given options).filterMap fun props => (props.lookup "condition").bind string?

def expirationOf (props : Props) : Expiration :=
  ⟨(Json.obj props).read "type", (Json.obj props).read "value"⟩

def defaultExpiration : Expiration := ⟨.string "EX", .number (.fin DEFAULT_SET_TTL_SECONDS)⟩

/-- An expiry that Redis takes: every one that is given, the default if none is. -/
structure OwnExpiry (given : List Props) (e : Expiration) : Prop where
  type : e.type = .string "EX" ∨ e.type = .string "PX"
  value : ∃ n : ℕ, 0 < n ∧ e.value = .number (.fin n)
  own : ∀ props ∈ given, e = expirationOf props
  default : given = [] → e = defaultExpiration

structure OwnCondition (given : List String) (condition : Option Value) : Prop where
  values : ∀ c ∈ condition, c = .string "NX" ∨ c = .string "XX"
  own : ∀ c ∈ given, condition = some (.string c)
  absent : given = [] → condition = none

structure OwnOptions (options : Option Json) (mapped : SetOptions) : Prop where
  expiration : ∃ e, mapped.expiration = some e ∧ OwnExpiry (expirationsOf options) e
  condition : OwnCondition (conditionsOf options) mapped.condition

structure ExpiringSet (body : Json) (call : SetCall) : Prop where
  key : ∃ k, NonBlank k ∧ body.get? "key" = some (.str k) ∧ call.key = .string k
  value : ∃ v, body.get? "value" = some (.str v) ∧ call.value = .string v
  options : OwnOptions (body.get? "options") call.options

/-- No options, or a list that gives nothing but the default, or an object with at most a single
expiration and without a condition that is `null`. -/
inductive Mappable : Option Json → Prop
  | absent : Mappable none
  | null : Mappable (some .null)
  | list {items} :
      (∀ props ∈ expirationsOf (some (.arr items)), expirationOf props = defaultExpiration) →
      conditionsOf (some (.arr items)) = [] → Mappable (some (.arr items))
  | object {props} :
      (∀ expiration ∈ props.lookup "expiration", ∃ single, expiration = .obj single) →
      props.lookup "condition" ≠ some .null → Mappable (some (.obj props))

namespace RedisController

variable {ignored : String → Bool}

theorem read_eq (j : Json) (key : String) : j.read key = (j.get? key).elim .undefined .ofJson := by
  rw [Json.read]
  cases j.get? key <;> rfl

theorem toSetOptions_of_chain {dto : Value} (h : ∀ key, dto.chain key = .undefined) :
    toSetOptions dto = .ok ⟨some defaultExpiration, none⟩ := by
  simp only [toSetOptions, h]
  rfl

def mappedCondition (props : Props) : Option Value := (props.lookup "condition").map .ofJson

theorem condition_object (props : Props) :
    (if ((Json.obj props).read "condition").isUndefined then none
      else some ((Json.obj props).read "condition")) = mappedCondition props := by
  rw [read_eq, mappedCondition, Json.get?]
  rcases props.lookup "condition" with _ | c
  · rfl
  · cases c <;> rfl

theorem toSetOptions_absent {props : Props} (h : props.lookup "expiration" = none) :
    toSetOptions (.ofJson (.obj props)) =
      .ok ⟨some defaultExpiration, mappedCondition props⟩ := by
  have hread : (Json.obj props).read "expiration" = .undefined := by rw [read_eq, Json.get?, h]; rfl
  simp only [toSetOptions, Value.chain_ofJson, condition_object, hread]
  rfl

theorem toSetOptions_null {props : Props} (h : props.lookup "expiration" = some .null) :
    ∃ message, toSetOptions (.ofJson (.obj props)) = .error message := by
  have hread : (Json.obj props).read "expiration" = .null :=
    Json.read_of_get? (j := .obj props) h
  simp only [toSetOptions, Value.chain_ofJson, hread]
  exact ⟨_, rfl⟩

theorem toSetOptions_given {props : Props} {expiration : Json}
    (h : props.lookup "expiration" = some expiration) (hnil : expiration ≠ .null) :
    toSetOptions (.ofJson (.obj props)) =
      .ok ⟨some ⟨expiration.read "type", expiration.read "value"⟩, mappedCondition props⟩ := by
  have hread : (Json.obj props).read "expiration" = .ofJson expiration :=
    Json.read_of_get? (j := .obj props) h
  have hgiven : (Value.ofJson expiration).isNil = false := by
    cases expiration <;> first | rfl | exact absurd rfl hnil
  have hdefined : (Value.ofJson expiration).isUndefined = false := by cases expiration <;> rfl
  simp only [toSetOptions, Value.chain_ofJson, condition_object, hread, hdefined,
    Value.read_of_not_nil hgiven]
  rfl

theorem ownExpiry_default_iff {given : List Props} : OwnExpiry given defaultExpiration ↔
    ∀ props ∈ given, expirationOf props = defaultExpiration := by
  constructor
  · exact fun h props hprops => (h.own props hprops).symm
  · intro h
    exact ⟨.inl rfl, ⟨DEFAULT_SET_TTL_SECONDS, by decide, rfl⟩,
      fun props hprops => (h props hprops).symm, fun _ => rfl⟩

theorem ownCondition_none_iff {given : List String} : OwnCondition given none ↔ given = [] := by
  constructor
  · intro h
    refine List.eq_nil_iff_forall_not_mem.mpr fun c hc => ?_
    cases h.own c hc
  · rintro rfl
    exact ⟨nofun, nofun, fun _ => rfl⟩

theorem ownOptions_default_iff {options : Option Json} :
    OwnOptions options ⟨some defaultExpiration, none⟩ ↔
      (∀ props ∈ expirationsOf options, expirationOf props = defaultExpiration) ∧
        conditionsOf options = [] := by
  rw [← ownExpiry_default_iff, ← ownCondition_none_iff]
  constructor
  · rintro ⟨⟨e, he, hexpiry⟩, hcondition⟩
    obtain rfl := Option.some.inj he
    exact ⟨hexpiry, hcondition⟩
  · exact fun h => ⟨⟨_, rfl, h.1⟩, h.2⟩

theorem expirationsOf_object (props : Props) :
    expirationsOf (some (.obj props)) = given (props.lookup "expiration") := by
  simp [expirationsOf, given, objects]

theorem conditionsOf_object (props : Props) :
    conditionsOf (some (.obj props)) = ((props.lookup "condition").bind string?).toList := by
  simp only [conditionsOf, given, Option.elim, objects, List.filterMap_cons, List.filterMap_nil]
  cases (props.lookup "condition").bind string? <;> rfl

theorem ownCondition_object_iff {props : Props} (h : ConditionAccepted (props.lookup "condition")) :
    OwnCondition (conditionsOf (some (.obj props))) (mappedCondition props) ↔
      props.lookup "condition" ≠ some .null := by
  rw [conditionsOf_object, mappedCondition]
  generalize props.lookup "condition" = condition at h ⊢
  cases h with
  | absent => exact iff_of_true (ownCondition_none_iff.mpr rfl) nofun
  | null => exact iff_of_false (fun h => nomatch h.absent rfl) (fun h => h rfl)
  | @given c hc =>
    refine iff_of_true ⟨?_, ?_, nofun⟩ nofun
    · rintro v ⟨⟩
      exact hc.imp (congrArg Value.string) (congrArg Value.string)
    · intro c' hc'
      obtain rfl := List.mem_singleton.mp hc'
      rfl

theorem ownOptions_object_iff {props : Props} (h : ConditionAccepted (props.lookup "condition"))
    {e : Expiration} : OwnOptions (some (.obj props)) ⟨some e, mappedCondition props⟩ ↔
      OwnExpiry (given (props.lookup "expiration")) e ∧ props.lookup "condition" ≠ some .null := by
  rw [← ownCondition_object_iff h, ← expirationsOf_object]
  constructor
  · rintro ⟨⟨e', he, hexpiry⟩, hcondition⟩
    obtain rfl := Option.some.inj he
    exact ⟨hexpiry, hcondition⟩
  · exact fun h => ⟨⟨_, rfl, h.1⟩, h.2⟩

theorem mappable_object_iff {props : Props} : Mappable (some (.obj props)) ↔
    (∀ expiration ∈ props.lookup "expiration", ∃ single, expiration = .obj single) ∧
      props.lookup "condition" ≠ some .null := by
  constructor
  · intro h
    cases h with
    | object hexpiration hcondition => exact ⟨hexpiration, hcondition⟩
  · exact fun h => .object h.1 h.2

theorem toSetOptions_object_iff {props : Props}
    (hexpiration : ExpirationAccepted (props.lookup "expiration"))
    (hcondition : ConditionAccepted (props.lookup "condition")) :
    (∃ mapped, toSetOptions (.ofJson (.obj props)) = .ok mapped ∧
      OwnOptions (some (.obj props)) mapped) ↔ Mappable (some (.obj props)) := by
  rw [mappable_object_iff]
  cases hlookup : props.lookup "expiration" with
  | none =>
    simp only [toSetOptions_absent hlookup, Except.ok.injEq, exists_eq_left',
      ownOptions_object_iff hcondition, hlookup]
    exact and_congr_left fun _ => iff_of_true (ownExpiry_default_iff.mpr nofun) nofun
  | some expiration =>
    rw [hlookup] at hexpiration
    cases hexpiration with
    | null =>
      obtain ⟨message, hmap⟩ := toSetOptions_null hlookup
      refine iff_of_false ?_ fun h => ?_
      · rintro ⟨mapped, hmapped, -⟩
        cases hmap.symm.trans hmapped
      · obtain ⟨single, hsingle⟩ := h.1 _ rfl
        cases hsingle
    | list =>
      -- neither a type nor a value can be read from a list
      simp only [toSetOptions_given hlookup nofun, Except.ok.injEq, exists_eq_left',
        ownOptions_object_iff hcondition]
      refine iff_of_false (fun h => ?_) fun h => ?_
      · rcases h.1.type with htype | htype <;> cases htype
      · obtain ⟨single, hsingle⟩ := h.1 _ rfl
        cases hsingle
    | @single single type n htype hin hvalue hn =>
      simp only [toSetOptions_given hlookup nofun, Except.ok.injEq, exists_eq_left',
        ownOptions_object_iff hcondition, hlookup]
      refine and_congr_left fun _ => iff_of_true ⟨?_, ⟨n, hn, ?_⟩, ?_, nofun⟩ ?_
      · dsimp only
        rw [Json.read_of_get? (j := .obj single) htype]
        exact hin.imp (congrArg Value.string) (congrArg Value.string)
      · exact Json.read_of_get? (j := .obj single) hvalue
      · intro props' hprops'
        obtain rfl := List.mem_singleton.mp hprops'
        rfl
      · rintro _ ⟨⟩
        exact ⟨single, rfl⟩

theorem toSetOptions_unread_iff {options : Option Json}
    (h : ∀ key, (options.elim .undefined .ofJson : Value).chain key = .undefined) :
    (∃ mapped, toSetOptions (options.elim .undefined .ofJson) = .ok mapped ∧
      OwnOptions options mapped) ↔
      (∀ props ∈ expirationsOf options, expirationOf props = defaultExpiration) ∧
        conditionsOf options = [] := by
  rw [toSetOptions_of_chain h, ← ownOptions_default_iff]
  simp only [Except.ok.injEq, exists_eq_left']

theorem toSetOptions_iff {options : Option Json} (h : OptionsAccepted options) :
    (∃ mapped, toSetOptions (options.elim .undefined .ofJson) = .ok mapped ∧
      OwnOptions options mapped) ↔ Mappable options := by
  cases h with
  | absent => exact (toSetOptions_unread_iff fun _ => rfl).trans (iff_of_true ⟨nofun, rfl⟩ .absent)
  | null => exact (toSetOptions_unread_iff fun _ => rfl).trans (iff_of_true ⟨nofun, rfl⟩ .null)
  | list =>
    refine (toSetOptions_unread_iff fun _ => rfl).trans ⟨fun h => .list h.1 h.2, fun h => ?_⟩
    cases h with
    | list hexpirations hconditions => exact ⟨hexpirations, hconditions⟩
  | object hexpiration hcondition => exact toSetOptions_object_iff hexpiration hcondition

theorem setValue_eq {body : Json} (h : BodyAccepted body) :
    setValue (.ofJson body) = (toSetOptions (body.read "options")).map
      fun options => ⟨body.read "key", body.read "value", options⟩ := by
  obtain ⟨k, hblank, hk⟩ := h.key
  have hkey : body.read "key" = .string k := Json.read_of_get? hk
  have hobject : (Value.ofJson body).isNil = false := by cases body <;> first | rfl | cases hk
  have hset : ∀ options, RedisService.set (.string k) (body.read "value") options =
      .ok ⟨.string k, body.read "value", options⟩ := by
    intro options
    rw [RedisService.set, RedisService.assertValidKey_of_nonBlank hblank]
    rfl
  simp only [setValue, Value.read_of_not_nil hobject, Value.chain_ofJson, hkey, bind, Except.bind]
  cases toSetOptions (body.read "options") with
  | error message => rfl
  | ok options => simp only [hset, Except.map]

theorem setValue_iff {body : Json} (h : BodyAccepted body) :
    (∃ call, setValue (.ofJson body) = .ok call ∧ ExpiringSet body call) ↔
      Mappable (body.get? "options") := by
  rw [← toSetOptions_iff h.options, ← read_eq, setValue_eq h]
  constructor
  · rintro ⟨call, hcall, hset⟩
    cases hmap : toSetOptions (body.read "options") with
    | error message =>
      rw [hmap] at hcall
      cases hcall
    | ok mapped =>
      rw [hmap] at hcall
      obtain rfl := Except.ok.inj hcall
      exact ⟨mapped, rfl, hset.options⟩
  · rintro ⟨mapped, hmap, hown⟩
    obtain ⟨k, hblank, hk⟩ := h.key
    obtain ⟨v, hv⟩ := h.value
    rw [hmap]
    exact ⟨_, rfl, ⟨k, hblank, hk, Json.read_of_get? hk⟩, ⟨v, hv, Json.read_of_get? hv⟩, hown⟩

/-- An accepted body leads to an expiring SET of its own exactly when its options can be mapped. -/
theorem setValue_expiring_iff (ignored : String → Bool) (body : Json)
    (h : accepts ignored (.ofJson body) = true) :
    (∃ call, setValue (.ofJson body) = .ok call ∧ ExpiringSet body call) ↔
      Mappable (body.get? "options") :=
  setValue_iff (bodyAccepted h)

def bodyWith (options : Json) : Json :=
  .obj [("key", .str "k"), ("value", .str "v"), ("options", options)]

def fiveSeconds : Props :=
  [("expiration", .obj [("type", .str "PX"), ("value", .num 5000)]), ("condition", .str "NX")]

theorem setValue_expiring_fiveSeconds :
    ∃ call, setValue (.ofJson (bodyWith (.obj fiveSeconds))) = .ok call ∧
      ExpiringSet (bodyWith (.obj fiveSeconds)) call :=
  (setValue_expiring_iff (fun _ => false) _ (by decide +kernel)).mpr
    (.object (by rintro _ ⟨⟩; exact ⟨_, rfl⟩) nofun)

theorem setValue_null_expiration :
    ¬ ∀ ignored body, accepts ignored (.ofJson body) = true →
      ∃ call, setValue (.ofJson body) = .ok call ∧ ExpiringSet body call := by
  intro h
  obtain ⟨call, hcall, -⟩ :=
    h (fun _ => false) (bodyWith (.obj [("expiration", .null)])) (by decide +kernel)
  exact nomatch hcall

/-- A list of options is accepted and ignored. -/
example : accepts (fun _ => false) (.ofJson (bodyWith (.arr [.obj fiveSeconds]))) = true ∧
    expirationsOf (some (.arr [.obj fiveSeconds])) ≠ [] ∧
    setValue (.ofJson (bodyWith (.arr [.obj fiveSeconds]))) =
      setValue (.ofJson (bodyWith (.arr []))) :=
  ⟨by decide +kernel, nofun, rfl⟩

end RedisController

end NestBackend.Redis
