import Mathlib.Data.List.Infix
import NestBackend.Auth.Bearer
import NestBackend.Js.Value

/-! `JwtVerifierService`, over whatever `verify` of the JWT library and the process do. -/

namespace NestBackend.Auth

open Js

structure JwtConfig where
  publicKey : String
  issuer : String
  audience : String
  deriving DecidableEq

structure SystemError where
  message : String

def SystemError.toRaised (e : SystemError) : Raised := .error "Error" e.message

structure Process where
  env : String → Option String
  readFileSync : String → Except SystemError String
  resolve : String → Except SystemError String
  cwd : Except SystemError String

def readPublicKey (process : Process) : Except Raised String := do
  match process.env "JWT_PUBLIC_KEY_PATH" with
  | none | some "" => throw (.error "Error" "Missing JWT_PUBLIC_KEY_PATH environment variable")
  | some keyPath =>
    match process.readFileSync keyPath with
    | .ok publicKey => return publicKey
    | .error _ =>
      let path ← (process.resolve keyPath).mapError SystemError.toRaised
      let directory ← process.cwd.mapError SystemError.toRaised
      throw (.error "Error" ("Cannot read JWT public key at \"" ++ path ++ "\" " ++
        "(working directory \"" ++ directory ++ "\")"))

def readRequired (process : Process) (name : String) : Except Raised String :=
  match process.env name with
  | none => .error (.error "Error" ("Missing " ++ name ++ " environment variable"))
  | some raw =>
    if trim raw = "" then .error (.error "Error" ("Missing " ++ name ++ " environment variable"))
    else .ok (trim raw)

def getJwtConfig (process : Process) : Except Raised JwtConfig := do
  let publicKey ← readPublicKey process
  if ¬ "BEGIN PUBLIC KEY".toList <:+: publicKey.toList then
    throw (.error "Error" "Invalid JWT public key: expected PEM public key")
  let issuer ← readRequired process "JWT_ISSUER"
  let audience ← readRequired process "JWT_AUDIENCE"
  return { publicKey, issuer, audience }

/-- Only an object made of properties has the keys that are asked for. -/
def isJwtPayload : Value → Bool
  | .object props =>
    match props.lookup "iss", props.lookup "aud", props.lookup "exp" with
    | some (.string _), some aud, some (.number _) =>
      match aud with
      | .string _ => true
      | .array items => items.all fun | .string _ => true | _ => false
      | _ => false
    | _, _, _ => false
  | _ => false

structure JwtPayload where
  value : Value
  valid : isJwtPayload value = true

/-- A value that throws when its claims are read stands as thrown by the library: either leaves
from the same place, after the same call. -/
def checkPayload (decoded : Value) : Except Raised JwtPayload :=
  if valid : isJwtPayload decoded = true then .ok ⟨decoded, valid⟩
  else .error (.error "Error" "Invalid token payload")

structure VerifyCall where
  token : String
  publicKey : String
  algorithms : List String
  issuer : String
  audience : String
  deriving DecidableEq

structure JwtVerifierService where
  config : Option JwtConfig := none
  calls : List VerifyCall := []

namespace JwtVerifierService

def call (config : JwtConfig) (token : String) : VerifyCall where
  token := token
  publicKey := config.publicKey
  algorithms := ["RS256"]
  issuer := config.issuer
  audience := config.audience

def getConfig (process : Process) (s : JwtVerifierService) :
    Except Raised JwtConfig × JwtVerifierService :=
  match s.config with
  | some config => (.ok config, s)
  | none =>
    match getJwtConfig process with
    | .ok config => (.ok config, { s with config := some config })
    | .error e => (.error e, s)

def verify (library : VerifyCall → Except Raised Value) (process : Process) (token : String)
    (s : JwtVerifierService) : Except Raised JwtPayload × JwtVerifierService :=
  match s.getConfig process with
  | (.error e, s) => (.error e, s)
  | (.ok config, s) =>
    (library (call config token) >>= checkPayload,
      { s with calls := s.calls ++ [call config token] })

def verifyHeader (library : VerifyCall → Except Raised Value) (process : Process)
    (header : Option String) (s : JwtVerifierService) :
    Except Raised JwtPayload × JwtVerifierService :=
  match extractBearerToken header with
  | none => (.error (.error "Error" "Missing Bearer token"), s)
  | some token => s.verify library process token

end JwtVerifierService

def HasClaims (value : Value) : Prop :=
  ∃ props, value = .object props ∧ (∃ iss, props.lookup "iss" = some (.string iss)) ∧
    (∃ exp, props.lookup "exp" = some (.number exp)) ∧
    ((∃ aud, props.lookup "aud" = some (.string aud)) ∨
      ∃ auds : List String, props.lookup "aud" = some (.array (auds.map .string)))

theorem all_strings_iff (items : List Value) :
    (items.all fun | .string _ => true | _ => false) = true ↔
      ∃ auds : List String, items = auds.map .string := by
  induction items with
  | nil => simp
  | cons item items ih =>
    rw [List.all_cons, Bool.and_eq_true, ih]
    constructor
    · rintro ⟨hitem, auds, rfl⟩
      cases item with
      | string aud => exact ⟨aud :: auds, rfl⟩
      | _ => cases hitem
    · rintro ⟨auds, hauds⟩
      cases auds with
      | nil => cases hauds
      | cons aud auds =>
        obtain ⟨rfl, rfl⟩ := List.cons.inj hauds
        exact ⟨rfl, auds, rfl⟩

theorem isJwtPayload_iff (value : Value) : isJwtPayload value = true ↔ HasClaims value := by
  constructor
  · intro h
    unfold isJwtPayload at h
    split at h
    · next props =>
      split at h
      · next iss aud exp hiss haud hexp =>
        refine ⟨props, rfl, ⟨iss, hiss⟩, ⟨exp, hexp⟩, ?_⟩
        split at h
        · next aud => exact .inl ⟨aud, haud⟩
        · next items =>
          obtain ⟨auds, rfl⟩ := (all_strings_iff items).mp h
          exact .inr ⟨auds, haud⟩
        · cases h
      · cases h
    · cases h
  · rintro ⟨props, rfl, ⟨iss, hiss⟩, ⟨exp, hexp⟩, ⟨aud, haud⟩ | ⟨auds, haud⟩⟩
    · simp only [isJwtPayload, hiss, hexp, haud]
    · simp only [isJwtPayload, hiss, hexp, haud]
      exact (all_strings_iff _).mpr ⟨auds, rfl⟩

theorem checkPayload_of_hasClaims {decoded : Value} (h : HasClaims decoded) :
    checkPayload decoded = .ok ⟨decoded, (isJwtPayload_iff decoded).mpr h⟩ :=
  dif_pos ((isJwtPayload_iff decoded).mpr h)

theorem checkPayload_of_not_hasClaims {decoded : Value} (h : ¬ HasClaims decoded) :
    checkPayload decoded = .error (.error "Error" "Invalid token payload") :=
  dif_neg fun hvalid => h ((isJwtPayload_iff decoded).mp hvalid)

def ThrowsErrors {α : Type} (x : Except Raised α) : Prop :=
  ∀ e, x = .error e → ∃ name message, e = .error name message

section

variable {α β : Type}

theorem throwsErrors_ok (a : α) : ThrowsErrors (.ok a : Except Raised α) := fun _ h => by cases h

theorem throwsErrors_error (name message : String) :
    ThrowsErrors (.error (.error name message) : Except Raised α) := by
  intro e h
  cases h
  exact ⟨name, message, rfl⟩

theorem throwsErrors_mapError (x : Except SystemError α) :
    ThrowsErrors (x.mapError SystemError.toRaised) := by
  intro e h
  cases x with
  | ok a => cases h
  | error e =>
    cases h
    exact ⟨_, _, rfl⟩

theorem ThrowsErrors.bind {x : Except Raised α} {f : α → Except Raised β} (hx : ThrowsErrors x)
    (hf : ∀ a, ThrowsErrors (f a)) : ThrowsErrors (x >>= f) := by
  intro e h
  cases x with
  | ok a => exact hf a e h
  | error e' =>
    cases h
    exact hx _ rfl

end

theorem throwsErrors_readPublicKey (process : Process) : ThrowsErrors (readPublicKey process) := by
  unfold readPublicKey
  split
  · exact throwsErrors_error _ _
  · exact throwsErrors_error _ _
  · split
    · exact throwsErrors_ok _
    · exact (throwsErrors_mapError _).bind fun _ => (throwsErrors_mapError _).bind fun _ =>
        throwsErrors_error _ _

theorem throwsErrors_readRequired (process : Process) (name : String) :
    ThrowsErrors (readRequired process name) := by
  unfold readRequired
  split
  · exact throwsErrors_error _ _
  · split
    · exact throwsErrors_error _ _
    · exact throwsErrors_ok _

theorem throwsErrors_getJwtConfig (process : Process) : ThrowsErrors (getJwtConfig process) := by
  refine (throwsErrors_readPublicKey process).bind fun publicKey => ?_
  have hrest : ThrowsErrors (do
      let issuer ← readRequired process "JWT_ISSUER"
      let audience ← readRequired process "JWT_AUDIENCE"
      return ({ publicKey, issuer, audience } : JwtConfig)) :=
    (throwsErrors_readRequired _ _).bind fun _ => (throwsErrors_readRequired _ _).bind fun _ =>
      throwsErrors_ok _
  dsimp only
  split
  · exact throwsErrors_error _ _
  · exact hrest

namespace JwtVerifierService

def Configured (process : Process) (s : JwtVerifierService) (config : JwtConfig) : Prop :=
  s.config = some config ∨ s.config = none ∧ getJwtConfig process = .ok config

structure Asks (process : Process) (header : Option String) (s : JwtVerifierService)
    (t : String) (config : JwtConfig) : Prop where
  form : ∃ h, header = some h ∧ BearerForm h t
  configured : s.Configured process config

variable {library : VerifyCall → Except Raised Value} {process : Process}
  {header : Option String} {s : JwtVerifierService} {t : String} {config : JwtConfig}

theorem getConfig_of_configured (h : s.Configured process config) :
    s.getConfig process = (.ok config, { s with config := some config }) := by
  rcases h with hcached | ⟨hnone, hread⟩
  · simp only [getConfig, hcached]
    rw [← hcached]
  · simp only [getConfig, hnone, hread]

theorem verifyHeader_of_asks (h : Asks process header s t config) :
    s.verifyHeader library process header = (library (call config t) >>= checkPayload,
      ⟨some config, s.calls ++ [call config t]⟩) := by
  obtain ⟨⟨text, rfl, hform⟩, hconfigured⟩ := h
  rw [verifyHeader, extractBearerToken_eq_some_iff.mpr hform]
  simp only [verify, getConfig_of_configured hconfigured]

theorem verifyHeader_of_not_asks (h : ∀ t config, ¬ Asks process header s t config) :
    ∃ name message,
      s.verifyHeader library process header = (.error (.error name message), s) := by
  cases htoken : extractBearerToken header with
  | none => exact ⟨_, _, by rw [verifyHeader, htoken]⟩
  | some t =>
    have hform : ∃ text, header = some text ∧ BearerForm text t := by
      cases header with
      | none => cases htoken
      | some text => exact ⟨text, rfl, extractBearerToken_eq_some_iff.mp htoken⟩
    have hconfig : ∀ config, ¬ s.Configured process config :=
      fun config hc => h t config ⟨hform, hc⟩
    have hnone : s.config = none := by
      cases hc : s.config with
      | none => rfl
      | some config => exact absurd (.inl hc) (hconfig config)
    cases hread : getJwtConfig process with
    | ok config => exact absurd (.inr ⟨hnone, hread⟩) (hconfig config)
    | error e =>
      obtain ⟨name, message, rfl⟩ := throwsErrors_getJwtConfig process e hread
      refine ⟨name, message, ?_⟩
      simp only [verifyHeader, htoken, verify, getConfig, hnone, hread]

theorem Asks.unique {t' : String} {config' : JwtConfig} (h : Asks process header s t config)
    (h' : Asks process header s t' config') : t = t' ∧ config = config' := by
  obtain ⟨⟨text, rfl, hform⟩, hconfigured⟩ := h
  obtain ⟨⟨text', htext, hform'⟩, hconfigured'⟩ := h'
  obtain rfl := Option.some.inj htext
  have hconfig := getConfig_of_configured hconfigured
  rw [getConfig_of_configured hconfigured'] at hconfig
  exact ⟨hform.unique hform', by simpa using (congrArg Prod.fst hconfig).symm⟩

end JwtVerifierService

end NestBackend.Auth
