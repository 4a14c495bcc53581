import NestBackend.Lib.Service
import NestBackend.Redis.Controller
import NestBackend.Redis.Entry

/-! The handlers of `/redis` as the commands they send one after the other, and the Redis that
any number of them share. -/

namespace NestBackend.Redis

open NestBackend.Js
open NestBackend.Lib

inductive Command where
  | set (call : SetCall)
  | get (key : Value)
  | ttl (key : Value)

@[reducible] def Command.Output : Command → Type
  | .set _ => Option String
  | .get _ => Option String
  | .ttl _ => Int

@[reducible] def Command.Result (command : Command) : Type := Except String command.Output

inductive HttpError where
  | badRequest
  | notFound (message : String)
  | internal (message : String)

structure GetRedisResponse where
  key : Value
  value : String
  expiresIn : Option Int

structure SetRedisResponse where
  key : Value
  value : Value
  result : Option String

inductive Response where
  | entry (response : GetRedisResponse)
  | written (response : SetRedisResponse)

abbrev Handler (α : Type) := Script Command Command.Result HttpError α

/-- What is thrown is no `HttpException`. -/
def orInternal {α : Type} (result : Except String α) : Handler α :=
  .ofExcept (result.mapError .internal)

@[simp] theorem orInternal_ok {α : Type} (a : α) : orInternal (.ok a) = .ret a := rfl

@[simp] theorem orInternal_error {α : Type} (message : String) :
    orInternal (.error message : Except String α) = .throw (.internal message) := rfl

def send (command : Command) : Handler command.Output := .ask command orInternal

namespace RedisService

def sendGetEntry (key : Value) : Handler (Option RedisEntry) := do
  orInternal (assertValidKey key)
  match ← send (.get key) with
  | none => return none
  | some value =>
    let ttl ← send (.ttl key)
    if ttl = -2 then return none
    else if ttl = -1 then return some ⟨value, none⟩
    else return some ⟨value, some ttl⟩

def replying (get : Except String (Option String)) (ttl : Except String Int) :
    (command : Command) → Unit → Option (command.Result × Unit)
  | .get _, _ => some (get, ())
  | .ttl _, _ => some (ttl, ())
  | .set _, _ => none

theorem run_sendGetEntry (key : Value) (get : Except String (Option String))
    (ttl : Except String Int) :
    ((sendGetEntry key).run (replying get ttl) ()).2 =
      some ((getEntry key get ttl).mapError .internal) := by
  cases hkey : assertValidKey key with
  | error message =>
    simp [sendGetEntry, getEntry, hkey, bind, Except.bind, Except.mapError, Script.bind, Script.run]
  | ok _ =>
    simp only [sendGetEntry, getEntry, hkey, orInternal_ok, send, Script.bind_eq, Script.bind,
      Script.run, replying]
    rcases get with message | _ | value
    · rfl
    · rfl
    · simp only [orInternal_ok, Script.ret_bind, Script.run, replying]
      rcases ttl with message | ttl
      · rfl
      · simp only [orInternal_ok, Script.ret_bind, bind, Except.bind]
        split
        · rfl
        · split <;> rfl

end RedisService

namespace RedisController

def notFound : Value → String
  | .string key => "Key \"" ++ key ++ "\" not found"
  | _ => ""

def getValue (query : Value) : Handler GetRedisResponse := do
  let key ← orInternal (query.read "key")
  match ← RedisService.sendGetEntry key with
  | none => .throw (.notFound (notFound key))
  | some entry => return ⟨key, entry.value, entry.expiresIn⟩

def sendSetValue (body : Value) : Handler SetRedisResponse := do
  let call ← orInternal (setValue body)
  let result ← send (.set call)
  return ⟨body.chain "key", body.chain "value", result⟩

end RedisController

inductive Request where
  | get (query : Json)
  | post (body : Json)

def handle (ignored : String → Bool) : Request → Handler Response
  | .get query =>
    if acceptsQuery ignored (.ofJson query) then do
      return .entry (← RedisController.getValue (.ofJson query))
    else .throw .badRequest
  | .post body =>
    if accepts ignored (.ofJson body) then do
      return .written (← RedisController.sendSetValue (.ofJson body))
    else .throw .badRequest

inductive Condition where
  | NX
  | XX
  deriving DecidableEq

structure Write where
  key : String
  value : String
  px : ℕ+
  condition : Option Condition
  deriving DecidableEq

def wholeTimes (unit : ℕ+) (q : ℚ) : Option ℕ+ :=
  if h : q.den = 1 ∧ 0 < q.num then
    some ⟨unit * q.num.toNat, Nat.mul_pos unit.pos (Int.lt_toNat.mpr h.2)⟩
  else none

def Expiration.px? : Expiration → Option ℕ+
  | ⟨.string "EX", .number (.fin q)⟩ => wholeTimes 1000 q
  | ⟨.string "PX", .number (.fin q)⟩ => wholeTimes 1 q
  | _ => none

def condition? : Option Value → Option (Option Condition)
  | none => some none
  | some (.string "NX") => some (some .NX)
  | some (.string "XX") => some (some .XX)
  | some _ => none

def SetCall.write? (call : SetCall) : Option Write :=
  match call.key, call.value, call.options.expiration with
  | .string key, .string value, some expiration => do
    return ⟨key, value, ← expiration.px?, ← condition? call.options.condition⟩
  | _, _, _ => none

structure Store where
  held : String → Option (String × Option Nat)
  clock : Nat

namespace Store

def empty : Store := ⟨fun _ => none, 0⟩

def key (s : Store) (key : String) : KeyState := ⟨s.held key, s.clock⟩

def put (s : Store) (w : Write) : Store :=
  { s with held := Function.update s.held w.key (some (w.value, some (s.clock + w.px))) }

@[simp] theorem held_put (s : Store) (w : Write) :
    (s.put w).held w.key = some (w.value, some (s.clock + w.px)) := Function.update_self ..

theorem held_put_of_ne {s : Store} {w : Write} {key : String} (h : key ≠ w.key) :
    (s.put w).held key = s.held key := Function.update_of_ne h ..

@[simp] theorem clock_put (s : Store) (w : Write) : (s.put w).clock = s.clock := rfl

end Store

def Write.allowed (w : Write) (s : KeyState) : Bool :=
  match w.condition with
  | none => true
  | some .NX => s.live.isNone
  | some .XX => s.live.isSome

structure Fault where
  message : String
  applied : Bool

/-- What Redis makes of calls that are none of its commands. -/
abbrev Oddities := (command : Command) → Store → command.Result × Store

def Store.execute (odd : Oddities) (s : Store) : (command : Command) → command.Result × Store
  | .get (.string key) => (.ok (s.key key).get, s)
  | .ttl (.string key) => (.ok (s.key key).ttl, s)
  | .set call =>
    match call.write? with
    | some w => if w.allowed (s.key w.key) then (.ok (some "OK"), s.put w) else (.ok none, s)
    | none => odd (.set call) s
  | .get key => odd (.get key) s
  | .ttl key => odd (.ttl key) s

def Store.serve (odd : Oddities) (s : Store) (fault : Option Fault) (command : Command) :
    command.Result × Store :=
  let executed := s.execute odd command
  match fault with
  | none => executed
  | some fault => (.error fault.message, if fault.applied then executed.2 else s)

/-- Redis, on which a millisecond passes at each move. -/
def redis (odd : Oddities) : Service Command Command.Result Store (Option Fault) Unit where
  serve s fault command := s.serve odd fault command
  move s _ := { s with clock := s.clock + 1 }

end NestBackend.Redis
