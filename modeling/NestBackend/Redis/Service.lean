import NestBackend.Js.Text
import NestBackend.Js.Value

namespace NestBackend.Redis

open NestBackend.Js

structure Expiration where
  type : Value
  value : Value

structure SetOptions where
  expiration : Option Expiration
  condition : Option Value

structure SetCall where
  key : Value
  value : Value
  options : SetOptions

structure RedisEntry where
  value : String
  expiresIn : Option Int
  deriving DecidableEq

namespace RedisService

def INVALID_KEY : String := "Redis key must be a non-empty string"

def assertValidKey : Value → Except String Unit
  | .string key => if (trim key).length = 0 then .error INVALID_KEY else .ok ()
  | _ => .error INVALID_KEY

def set (key value : Value) (options : SetOptions) : Except String SetCall := do
  assertValidKey key
  return ⟨key, value, options⟩

/-- `get` and `ttl` are what the two commands settle with; TTL is not sent after a miss. -/
def getEntry (key : Value) (get : Except String (Option String)) (ttl : Except String Int) :
    Except String (Option RedisEntry) := do
  assertValidKey key
  match ← get with
  | none => return none
  | some value =>
    let ttl ← ttl
    if ttl = -2 then return none
    else if ttl = -1 then return some ⟨value, none⟩
    else return some ⟨value, some ttl⟩

theorem assertValidKey_of_nonBlank {k : String} (h : NonBlank k) :
    assertValidKey (.string k) = .ok () := by
  have hlen : (trim k).length ≠ 0 := fun hlen => (trim_length_eq_zero_iff k).mp hlen h
  rw [assertValidKey, if_neg hlen]

end RedisService

end NestBackend.Redis
