import NestBackend.Js.ClassValidator

namespace NestBackend.Redis

open NestBackend.Js

def ExpirationDto : List Property :=
  [⟨"type", false, [Value.isIn ["EX", "PX"]]⟩,
    ⟨"value", false, [Value.isInt, Value.isPositive]⟩]

def SetOptionsDto (ignored : String → Bool) : List Property :=
  [⟨"expiration", true, [validateNested ignored ExpirationDto]⟩,
    ⟨"condition", true, [Value.isIn ["NX", "XX"]]⟩]

def SetRedisDto (ignored : String → Bool) : List Property :=
  [⟨"key", false, [Value.isString, Value.isNotEmpty, Value.matchesNonSpace]⟩,
    ⟨"value", false, [Value.isString]⟩,
    ⟨"options", true, [validateNested ignored (SetOptionsDto ignored)]⟩]

def GetRedisDto : List Property :=
  [⟨"key", false, [Value.isString, Value.isNotEmpty, Value.matchesNonSpace]⟩]

/-- The global pipe lets the body through. -/
def accepts (ignored : String → Bool) (body : Value) : Bool :=
  acceptsObject ignored (SetRedisDto ignored) body.props

def acceptsQuery (ignored : String → Bool) (query : Value) : Bool :=
  acceptsObject ignored GetRedisDto query.props

inductive ExpirationAccepted : Option Json → Prop
  | absent : ExpirationAccepted none
  | null : ExpirationAccepted (some .null)
  | list {items} : ExpirationAccepted (some (.arr items))
  | single {props type} {n : ℕ} : props.lookup "type" = some (.str type) →
      type = "EX" ∨ type = "PX" → props.lookup "value" = some (.num n) → 0 < n →
      ExpirationAccepted (some (.obj props))

inductive ConditionAccepted : Option Json → Prop
  | absent : ConditionAccepted none
  | null : ConditionAccepted (some .null)
  | given {c} : c = "NX" ∨ c = "XX" → ConditionAccepted (some (.str c))

inductive OptionsAccepted : Option Json → Prop
  | absent : OptionsAccepted none
  | null : OptionsAccepted (some .null)
  | list {items} : OptionsAccepted (some (.arr items))
  | object {props} : ExpirationAccepted (props.lookup "expiration") →
      ConditionAccepted (props.lookup "condition") → OptionsAccepted (some (.obj props))

structure BodyAccepted (body : Json) : Prop where
  key : ∃ k, NonBlank k ∧ body.get? "key" = some (.str k)
  value : ∃ v, body.get? "value" = some (.str v)
  options : OptionsAccepted (body.get? "options")

variable {ignored : String → Bool}

theorem expirationAccepted {props : List (String × Json)}
    (h : Property.accepts ⟨"expiration", true, [validateNested ignored ExpirationDto]⟩
      ((Json.obj props).read "expiration") = true) :
    ExpirationAccepted (props.lookup "expiration") := by
  change ExpirationAccepted ((Json.obj props).get? "expiration")
  rcases Property.accepts_nested h with hget | hget | ⟨items, hget⟩ | ⟨given, hget, hnested⟩
  · exact hget ▸ .absent
  · exact hget ▸ .null
  · exact hget ▸ .list
  · have htype := Property.accepts_required
      (accepts_of_mem hnested List.mem_cons_self) _ List.mem_cons_self
    have hvalue := Property.accepts_required
      (accepts_of_mem hnested (List.mem_cons_of_mem _ List.mem_cons_self))
    obtain ⟨n, hn, hnumber⟩ := Value.isInt_isPositive_iff.mp
      ⟨hvalue _ List.mem_cons_self, hvalue _ (List.mem_cons_of_mem _ List.mem_cons_self)⟩
    obtain ⟨s, hs, hstring⟩ := Value.isIn_iff.mp htype
    rw [Value.chain_object] at hnumber hstring
    exact hget ▸ .single (Json.get?_of_read_string hstring) (by simpa using hs)
      (Json.get?_of_read_number hnumber) hn

theorem conditionAccepted {props : List (String × Json)}
    (h : Property.accepts ⟨"condition", true, [Value.isIn ["NX", "XX"]]⟩
      ((Json.obj props).read "condition") = true) :
    ConditionAccepted (props.lookup "condition") := by
  rw [Json.read, Json.get?] at h
  cases hcondition : props.lookup "condition" with
  | none => exact .absent
  | some condition =>
    rw [hcondition] at h
    rcases Property.accepts_optional h with hnil | hin
    · cases condition with
      | null => exact .null
      | _ => cases hnil
    · obtain ⟨s, hs, hstring⟩ := Value.isIn_iff.mp hin
      obtain rfl := Value.ofJson_eq_string hstring
      exact .given (by simpa using hs)

theorem optionsAccepted {body : Json}
    (h : Property.accepts ⟨"options", true, [validateNested ignored (SetOptionsDto ignored)]⟩
      (body.read "options") = true) : OptionsAccepted (body.get? "options") := by
  rcases Property.accepts_nested h with hget | hget | ⟨items, hget⟩ | ⟨given, hget, hnested⟩
  · exact hget ▸ .absent
  · exact hget ▸ .null
  · exact hget ▸ .list
  · have hexpiration := accepts_of_mem hnested List.mem_cons_self
    have hcondition := accepts_of_mem hnested (List.mem_cons_of_mem _ List.mem_cons_self)
    rw [Value.chain_object] at hexpiration hcondition
    exact hget ▸ .object (expirationAccepted hexpiration) (conditionAccepted hcondition)

theorem bodyAccepted {body : Json} (h : accepts ignored (.ofJson body) = true) :
    BodyAccepted body := by
  have hkey := accepts_of_mem h List.mem_cons_self
  have hvalue := accepts_of_mem h (List.mem_cons_of_mem _ List.mem_cons_self)
  have hoptions := accepts_of_mem h
    (List.mem_cons_of_mem _ (List.mem_cons_of_mem _ List.mem_cons_self))
  rw [Value.chain_props, Value.chain_ofJson] at hkey hvalue hoptions
  obtain ⟨k, hk⟩ := Value.isString_iff.mp
    (Property.accepts_required hkey Value.isString List.mem_cons_self)
  have hspace := Property.accepts_required hkey Value.matchesNonSpace (by simp)
  obtain ⟨v, hv⟩ := Value.isString_iff.mp
    (Property.accepts_required hvalue Value.isString List.mem_cons_self)
  rw [hk] at hspace
  exact ⟨⟨k, by simpa [Value.matchesNonSpace] using hspace, Json.get?_of_read_string hk⟩,
    ⟨v, Json.get?_of_read_string hv⟩, optionsAccepted hoptions⟩

end NestBackend.Redis
