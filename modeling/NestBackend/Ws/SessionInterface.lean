import NestBackend.Js.Text
import NestBackend.Js.Value

namespace NestBackend.Ws

open NestBackend.Js

abbrev UserId := String

abbrev ClientId := String

abbrev Socket := Nat

def OPEN : Nat := 1

/-- What the sockets do during one callback: their `readyState`, and whether `send` throws. -/
structure Sockets where
  readyState : Socket → Nat
  sendThrows : Socket → Bool

structure ConnectionParams where
  socket : Socket
  userId : Option UserId
  clientId : Option ClientId
  expiresAt : Number

/-- A session object.  `ref` is its identity; the mutable `expiryTimer` field is kept
in the registry, under `ref`. -/
structure Session where
  ref : Nat
  userId : UserId
  clientId : ClientId
  socket : Socket
  presenceToken : String
  expiresAt : Number
  deriving DecidableEq

def SEND_MESSAGE_OP : String := "sendMessage"

def SEND_MESSAGE_ERROR_OP : String := "error"

/-- A raw socket payload: a string, or a value together with what `String(data)` gives. -/
inductive RawData where
  | string (s : String)
  | other (asString : String)

def RawData.text : RawData → String
  | .string s => s
  | .other s => s

inductive InboundFrame where
  | send (target : UserId) (message : Json)
  | ignore (reason : String)
  | invalid (reason : String)

def parseNonBlank : Value → Option String
  | .string value => if (trim value).length = 0 then none else some value
  | _ => none

def parseUserId (value : Value) : Option UserId := parseNonBlank value

def parseClientId (value : Value) : Option ClientId := parseNonBlank value

def parseToken (value : Value) : Option String := parseNonBlank value

theorem parseNonBlank_eq_some_iff {value : Value} {s : String} :
    parseNonBlank value = some s ↔ value = .string s ∧ NonBlank s := by
  cases value with
  | string t =>
    simp only [parseNonBlank, trim_length_eq_zero_iff, Value.string.injEq]
    by_cases ht : NonBlank t
    · simp only [ht, not_true_eq_false, if_false, Option.some.injEq]
      exact ⟨fun h => ⟨h, h ▸ ht⟩, And.left⟩
    · simp only [ht, not_false_eq_true, if_true, reduceCtorEq, false_iff, not_and]
      rintro rfl
      exact ht
  | _ => simp [parseNonBlank]

theorem parseNonBlank_of_nonBlank {s : String} (h : NonBlank s) :
    parseNonBlank (.string s) = some s := parseNonBlank_eq_some_iff.mpr ⟨rfl, h⟩

def parseInboundFrame (J : JsonText) (raw : RawData) : InboundFrame :=
  match J.parse raw.text with
  | none => .ignore "non-JSON"
  | some parsed =>
    if !parsed.isObject then .ignore "non-object"
    else if !(parsed.read "op").strictEq SEND_MESSAGE_OP then .ignore "unknown op"
    else match parseUserId (parsed.read "target") with
      | none => .invalid "invalid target"
      | some target =>
        match parsed.get? "message" with
        | none => .ignore "missing message"
        | some message => .send target message

theorem nonBlank_of_send {J : JsonText} {raw : RawData} {target : UserId} {message : Json}
    (h : parseInboundFrame J raw = .send target message) : NonBlank target := by
  unfold parseInboundFrame at h
  split at h
  · cases h
  · split at h
    · cases h
    · split at h
      · cases h
      · split at h
        · cases h
        · next parsed _ _ _ hparse =>
          split at h
          · cases h
          · obtain ⟨rfl, -⟩ := InboundFrame.send.inj h
            exact (parseNonBlank_eq_some_iff.mp hparse).2

/-- Open direct messages: any authenticated client may message any user. -/
def canSendTo (_sender _target : UserId) : Bool := true

structure SessionLifecycleEvent where
  userId : UserId
  clientId : ClientId
  token : String
  userSessionCount : Nat
  deriving DecidableEq

inductive Phase where
  | connect
  | disconnect
  deriving DecidableEq

inductive Settlement where
  | fulfilled
  | rejected (detail : String)
  | never
  deriving DecidableEq

/-- A session tracker acting on the outside world `τ`.  A call may throw before it
returns a promise.  Trackers may read the clock when they observe a connect. -/
structure SessionTracker (τ : Type) where
  handleConnect : SessionLifecycleEvent → ℚ → τ → τ × Except String Settlement
  handleDisconnect : SessionLifecycleEvent → τ → τ × Except String Settlement

structure GatewayIdentity where
  userId : Option UserId
  clientId : Option ClientId
  token : Option String

inductive ResolveIdentityResult where
  | authorized (userId : UserId) (clientId : ClientId) (expiresAt : Number)
  | rejected (reason : String)

/-- The claims the gateway reads from a verified payload.  Nothing checks that `sub`
is a string. -/
structure VerifiedClaims where
  sub : Value
  exp : Number

/-- An argument of the connection callback: data, or an object that answers for its `url`
by running code, which may throw and may give another value at each read. -/
inductive UpgradeArg where
  | data (value : Value)
  | live (hasUrl : Except String Bool) (url : Nat → Except String Value)

namespace UpgradeArg

def isObject : UpgradeArg → Bool
  | .data value => value.isObject
  | .live _ _ => true

def hasUrl : UpgradeArg → Except String Bool
  | .data value => value.hasKey "url"
  | .live hasUrl _ => hasUrl

def readUrl (n : Nat) : UpgradeArg → Except String Value
  | .data value => value.read "url"
  | .live _ url => url n

end UpgradeArg

def hasUpgradeUrl (value : UpgradeArg) : Except String Bool := do
  if !value.isObject then return false
  if !(← value.hasUrl) then return false
  match ← value.readUrl 0 with
  | .undefined | .string _ => return true
  | _ => return false

/-- `params.get(name)`: the first value under the name, or `null`. -/
def searchParam (params : List (String × String)) (name : String) : Value :=
  match params.lookup name with
  | some value => .string value
  | none => .null

/-- `parseUrl` is `new URL(url, 'http://localhost').searchParams`, `none` where it throws. -/
def extractGatewayIdentity (parseUrl : Value → Option (List (String × String)))
    (args : List UpgradeArg) : Except String GatewayIdentity := do
  let request := args.headD (.data .undefined)
  if !(← hasUpgradeUrl request) then return ⟨none, none, none⟩
  if (← request.readUrl 1).isUndefined then return ⟨none, none, none⟩
  -- the third read stands inside the `try`
  match request.readUrl 2 with
  | .error _ => return ⟨none, none, none⟩
  | .ok url =>
    match parseUrl url with
    | none => return ⟨none, none, none⟩
    | some params =>
      return {
        userId := parseUserId (searchParam params "userId")
        clientId := parseClientId (searchParam params "clientId")
        token := parseToken (searchParam params "token") }

/-- The result, and the tokens the verifier was asked about. -/
def resolveGatewayIdentity (identity : GatewayIdentity)
    (verify : String → Except String VerifiedClaims) : ResolveIdentityResult × List String :=
  match identity.token with
  | none => (.rejected "missing token", [])
  | some token =>
    match verify token with
    | .error _ => (.rejected "invalid token", [token])
    | .ok payload =>
      if payload.sub.isUndefined then (.rejected "missing token subject", [token])
      else match identity.userId, identity.clientId with
        | some userId, some clientId =>
          if !payload.sub.strictEq userId then (.rejected "token subject mismatch", [token])
          else (.authorized userId clientId (payload.exp.mul (.fin 1000)), [token])
        | _, _ => (.rejected "missing userId/clientId", [token])

end NestBackend.Ws
