import NestBackend.Dynamo.Service

namespace NestBackend.Common

open NestBackend.Js

def ENABLED_VALUES : List String := ["true", "1", "yes"]

def DISABLED_VALUES : List String := ["false", "0", "no"]

structure EnvFlagOptions where
  defaultValue : Bool := false
  warnOnUnknown : Bool := false
  label : Option String := none

def parseEnvFlag (value : Option String) (options : EnvFlagOptions) : Bool × Option String :=
  let normalized := toLowerCase (trim (value.getD ""))
  if normalized = "" then (options.defaultValue, none)
  else if normalized ∈ ENABLED_VALUES then (true, none)
  else if normalized ∈ DISABLED_VALUES then (false, none)
  else if options.warnOnUnknown then
    let detail := options.label.getD "flag"
    let outcome := if options.defaultValue then "enabled" else "disabled"
    (options.defaultValue, some ("[env] unknown " ++ detail ++ " \"" ++ value.getD "" ++
      "\", defaulting to " ++ outcome))
  else (options.defaultValue, none)

def Enables (value : String) : Prop := toLowerCase (trim value) ∈ ENABLED_VALUES

instance (value : String) : Decidable (Enables value) :=
  inferInstanceAs (Decidable (_ ∈ ENABLED_VALUES))

theorem parseEnvFlag_iff {value : Option String} :
    (parseEnvFlag value {}).1 = true ↔ ∃ raw, value = some raw ∧ Enables raw := by
  cases value with
  | none =>
    have hoff : (parseEnvFlag none {}).1 = false := by decide
    simp [hoff]
  | some raw =>
    simp only [parseEnvFlag, Option.getD_some, Option.some.injEq, exists_eq_left', Enables]
    split
    · next hblank => simp [hblank, ENABLED_VALUES]
    · split
      · next henabled => simp [henabled]
      · next hdisabled => split <;> simp [hdisabled]

end NestBackend.Common

namespace NestBackend.Dynamo

open NestBackend.Common
open NestBackend.Js
open NestBackend.Lib

abbrev Env := String → Option String

structure ParsedUrl where
  protocol : String
  hostname : String

structure DynamoConfig where
  endpoint : String
  hostname : String
  region : String
  accessKeyId : String
  secretAccessKey : String
  deriving DecidableEq

def DEFAULT_DYNAMODB_ENDPOINT : String := "http://localhost:8000"

def DEFAULT_AWS_REGION : String := "us-east-1"

def DEFAULT_DUMMY_CREDENTIAL : String := "local"

def orLocalCredential : Option String → String
  | none | some "" => DEFAULT_DUMMY_CREDENTIAL
  | some value => value

def rawEndpoint (env : Env) : String := (env "DYNAMODB_ENDPOINT").getD DEFAULT_DYNAMODB_ENDPOINT

def region (env : Env) : String := (env "AWS_REGION").getD DEFAULT_AWS_REGION

/-- `parseUrl` is `new URL`, `none` where it throws. -/
def getDynamoConfig (parseUrl : String → Option ParsedUrl) (env : Env) :
    Except Thrown DynamoConfig :=
  let invalid := Thrown.ofMessage ("Invalid DYNAMODB_ENDPOINT: " ++ rawEndpoint env)
  match parseUrl (rawEndpoint env) with
  | none => .error invalid
  | some parsed =>
    if parsed.protocol ≠ "http:" ∧ parsed.protocol ≠ "https:" then .error invalid
    else if (trim (region env)).length = 0 then
      .error (.ofMessage "Invalid AWS_REGION: must be a non-empty string")
    else .ok {
      endpoint := rawEndpoint env
      hostname := parsed.hostname
      region := region env
      accessKeyId := orLocalCredential (env "AWS_ACCESS_KEY_ID")
      secretAccessKey := orLocalCredential (env "AWS_SECRET_ACCESS_KEY") }

def LOCAL_DYNAMO_HOSTNAMES : List String :=
  ["localhost", "127.0.0.1", "::1", "dynamodb", "host.docker.internal"]

def sliceInner (s : String) : String := String.ofList (s.toList.drop 1).dropLast

def isLocalDynamoHostname (hostname : String) : Bool :=
  let normalized := toLowerCase (trim hostname)
  let normalized :=
    if startsWith normalized "[" && endsWith normalized "]" then sliceInner normalized
    else normalized
  LOCAL_DYNAMO_HOSTNAMES.contains normalized

def getDynamoBootstrapConfig (parseUrl : String → Option ParsedUrl) (env : Env) :
    Except Thrown DynamoBootstrapConfig := do
  let config ← getDynamoConfig parseUrl env
  return {
    hostname := config.hostname
    shouldBootstrap := isLocalDynamoHostname config.hostname ||
      (parseEnvFlag (env "DYNAMODB_BOOTSTRAP") {}).1 }

def DynamoModule.start (parseUrl : String → Option ParsedUrl) (env : Env) : Boot Unit := do
  let _ ← Script.ofExcept (getDynamoConfig parseUrl env)
  DynamoService.onModuleInit (getDynamoBootstrapConfig parseUrl env)

/-- One of the local names, in whatever case, padded or not, and maybe in brackets. -/
def LocalHostname (hostname : String) : Prop :=
  ∃ name ∈ LOCAL_DYNAMO_HOSTNAMES, toLowerCase (trim hostname) = name ∨
    toLowerCase (trim hostname) = "[" ++ name ++ "]"

structure Configures (parseUrl : String → Option ParsedUrl) (env : Env) (parsed : ParsedUrl) :
    Prop where
  parses : parseUrl (rawEndpoint env) = some parsed
  protocol : parsed.protocol = "http:" ∨ parsed.protocol = "https:"
  region : NonBlank (region env)

def MayBootstrap (parseUrl : String → Option ParsedUrl) (env : Env) : Prop :=
  ∃ parsed, Configures parseUrl env parsed ∧ (LocalHostname parsed.hostname ∨
    ∃ raw, env "DYNAMODB_BOOTSTRAP" = some raw ∧ Enables raw)

variable {parseUrl : String → Option ParsedUrl} {env : Env}

theorem getDynamoConfig_eq_ok_iff {config : DynamoConfig} :
    getDynamoConfig parseUrl env = .ok config ↔ ∃ parsed, Configures parseUrl env parsed ∧
      config = ⟨rawEndpoint env, parsed.hostname, region env,
        orLocalCredential (env "AWS_ACCESS_KEY_ID"),
        orLocalCredential (env "AWS_SECRET_ACCESS_KEY")⟩ := by
  have hregion : (trim (region env)).length = 0 ↔ ¬ NonBlank (region env) :=
    trim_length_eq_zero_iff _
  constructor
  · intro h
    unfold getDynamoConfig at h
    cases hparse : parseUrl (rawEndpoint env) with
    | none => simp [hparse] at h
    | some parsed =>
      simp only [hparse] at h
      split at h
      · cases h
      · next hprotocol =>
        split at h
        · cases h
        · next hblank =>
          refine ⟨parsed, ⟨hparse, ?_, not_not.mp (mt hregion.mpr hblank)⟩,
            (Except.ok.inj h).symm⟩
          exact or_iff_not_and_not.mpr hprotocol
  · rintro ⟨parsed, ⟨hparse, hprotocol, hnonBlank⟩, rfl⟩
    simp only [getDynamoConfig, hparse]
    rw [if_neg (fun h => hprotocol.elim h.1 h.2), if_neg (fun h => hregion.mp h hnonBlank)]

@[simp] theorem sliceInner_brackets (name : String) : sliceInner ("[" ++ name ++ "]") = name := by
  apply String.toList_inj.mp
  simp [sliceInner]

theorem eq_brackets {s : String} (hstart : startsWith s "[" = true)
    (hend : endsWith s "]" = true) : s = "[" ++ sliceInner s ++ "]" := by
  obtain ⟨rest, hrest⟩ : ['['] <+: s.toList := by simpa [startsWith] using hstart
  obtain ⟨front, hfront⟩ : [']'] <:+ s.toList := by simpa [endsWith] using hend
  apply String.toList_inj.mp
  cases front with
  | nil =>
    rw [← hfront] at hrest
    cases hrest
  | cons c middle =>
    rw [← hfront] at hrest
    obtain ⟨rfl, -⟩ := List.cons.inj hrest
    simp [sliceInner, ← hfront]

theorem startsWith_local {name : String} (hname : name ∈ LOCAL_DYNAMO_HOSTNAMES) :
    startsWith name "[" = false := by
  revert name
  decide

theorem isLocalDynamoHostname_iff {hostname : String} :
    isLocalDynamoHostname hostname = true ↔ LocalHostname hostname := by
  unfold isLocalDynamoHostname LocalHostname
  generalize toLowerCase (trim hostname) = normalized
  simp only [List.contains_iff_mem]
  constructor
  · split
    · next hbrackets =>
      obtain ⟨hstart, hend⟩ := Bool.and_eq_true_iff.mp hbrackets
      exact fun hmem => ⟨_, hmem, .inr (eq_brackets hstart hend)⟩
    · exact fun hmem => ⟨_, hmem, .inl rfl⟩
  · rintro ⟨name, hname, rfl | rfl⟩
    · rw [startsWith_local hname]
      exact hname
    · have hstart : startsWith ("[" ++ name ++ "]") "[" = true := by simp [startsWith]
      have hend : endsWith ("[" ++ name ++ "]") "]" = true := by simp [endsWith]
      rw [hstart, hend, sliceInner_brackets]
      exact hname

example : isLocalDynamoHostname "[::1]" = true := by decide +kernel

theorem getDynamoBootstrapConfig_cases (parseUrl : String → Option ParsedUrl) (env : Env) :
    (∃ err, getDynamoConfig parseUrl env = .error err ∧
      getDynamoBootstrapConfig parseUrl env = .error err ∧ ¬ MayBootstrap parseUrl env) ∨
    ∃ config, getDynamoConfig parseUrl env = .ok config ∧ ∃ shouldBootstrap,
      getDynamoBootstrapConfig parseUrl env = .ok ⟨config.hostname, shouldBootstrap⟩ ∧
      (shouldBootstrap = true ↔ MayBootstrap parseUrl env) := by
  cases hconfig : getDynamoConfig parseUrl env with
  | error err =>
    refine .inl ⟨err, rfl, by rw [getDynamoBootstrapConfig, hconfig]; rfl, ?_⟩
    rintro ⟨parsed, hconfigures, -⟩
    have hok := getDynamoConfig_eq_ok_iff.mpr ⟨parsed, hconfigures, rfl⟩
    rw [hconfig] at hok
    cases hok
  | ok config =>
    refine .inr ⟨config, rfl, _, by rw [getDynamoBootstrapConfig, hconfig]; rfl, ?_⟩
    obtain ⟨parsed, hconfigures, rfl⟩ := getDynamoConfig_eq_ok_iff.mp hconfig
    rw [Bool.or_eq_true, isLocalDynamoHostname_iff, parseEnvFlag_iff]
    constructor
    · exact fun h => ⟨parsed, hconfigures, h⟩
    · rintro ⟨parsed', hconfigures', h⟩
      obtain rfl := Option.some.inj (hconfigures.parses.symm.trans hconfigures'.parses)
      exact h

end NestBackend.Dynamo
