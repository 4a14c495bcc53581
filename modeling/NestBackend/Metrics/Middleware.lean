import NestBackend.Health.Constants
import NestBackend.Lib.History
import NestBackend.Metrics.Service

namespace NestBackend.Metrics

open NestBackend.Health
open NestBackend.Js
open NestBackend.Lib

def UNKNOWN_ROUTE : String := "unknown"

/-- What `new URL(url, 'http://localhost').pathname` and `String(n)` give. -/
structure HttpRuntime where
  parsePathname : String → Option String
  asString : Number → String

structure Request where
  originalUrl : Option String
  url : Option String
  path : Option String
  method : String
  contentLength : Value

/-- What is read when a response finishes: `req.route`, which the router has set by then, and
the status and header of the response. -/
structure Finish where
  route : Value
  statusCode : Number
  contentLength : Value

def resolveRouteLabel (route : Value) : String :=
  match route with
  | .object props =>
    match props.lookup "path" with
    | some (.string path) => path
    | _ => UNKNOWN_ROUTE
  | _ => UNKNOWN_ROUTE

def resolveRequestUrl (req : Request) : Option String :=
  req.originalUrl <|> req.url <|> req.path

def positiveOrZero (x : Number) : Number :=
  if x.isFinite && Number.lt (.fin 0) x then x else .fin 0

def parseByteLength (value : Value) : Number :=
  let raw :=
    match value with
    | .array items => items.head?.getD .undefined
    | value => value
  match raw with
  | .number n => positiveOrZero n
  | .string s => positiveOrZero (parseInt s)
  | _ => .fin 0

theorem isAmount_parseByteLength (value : Value) : (parseByteLength value).IsAmount := by
  unfold parseByteLength
  dsimp only
  split
  · exact Number.isAmount_guard _
  · exact Number.isAmount_guard _
  · exact Number.isAmount_zero

/-- The closure of `use` for one request: `released` belongs to the callback of `trackInFlight`,
`onFinish` and `onClose` tell whether the listeners are still attached. -/
structure Tracked where
  start : UInt64
  method : String
  requestBytes : Number
  released : Bool
  onFinish : Bool
  onClose : Bool

/-- `now` is the process clock in nanoseconds, `seen` has an entry for each request that came
through, `none` for a probe. -/
structure Middleware where
  now : UInt64
  metrics : MetricsService
  seen : List (Option Tracked)

inductive HttpEvent where
  | request (req : Request)
  | finish (i : Nat) (res : Finish)
  | close (i : Nat)
  | clock (now : UInt64)

namespace Middleware

def start (now : UInt64) : Middleware := ⟨now, .start, []⟩

def use (rt : HttpRuntime) (req : Request) (s : Middleware) : Middleware :=
  if isHealthRequest rt.parsePathname (resolveRequestUrl req) then
    { s with seen := s.seen ++ [none] }
  else
    { s with
      metrics := s.metrics.trackInFlight
      seen := s.seen ++ [some ⟨s.now, req.method, parseByteLength req.contentLength, false, true,
        true⟩] }

def release (i : Nat) (x : Tracked) (s : Middleware) : Middleware :=
  if x.released then { s with seen := s.seen.set i (some x) }
  else
    { s with
      metrics := s.metrics.untrackInFlight
      seen := s.seen.set i (some { x with released := true }) }

/-- `Number(process.hrtime.bigint() - start) / 1e9`. -/
def durationSeconds (now start : UInt64) : Number :=
  (Number.ofInt (now.toNat - start.toNat)).dividedBy 1000000000

def observation (x : Tracked) (res : Finish) (s : Middleware) : HttpObservation where
  method := x.method
  route := resolveRouteLabel res.route
  statusCode := res.statusCode
  durationSeconds := durationSeconds s.now x.start
  requestBytes := x.requestBytes
  responseBytes := parseByteLength res.contentLength

def finishListener (i : Nat) (s : Middleware) : Option Tracked :=
  (s.seen[i]?.join).filter (·.onFinish)

def closeListener (i : Nat) (s : Middleware) : Option Tracked :=
  (s.seen[i]?.join).filter (·.onClose)

/-- `once` detaches the listener; what `observeHttp` throws leaves `finally` to run. -/
def finish (rt : HttpRuntime) (i : Nat) (res : Finish) (s : Middleware) : Middleware :=
  match s.finishListener i with
  | none => s
  | some x =>
    let s :=
      match s.metrics.observeHttp rt.asString (s.observation x res) with
      | .ok metrics => { s with metrics := metrics }
      | .error _ => s
    s.release i { x with onFinish := false }

def close (i : Nat) (s : Middleware) : Middleware :=
  match s.closeListener i with
  | none => s
  | some x => s.release i { x with onClose := false }

def step (rt : HttpRuntime) (s : Middleware) : HttpEvent → Middleware
  | .request req => s.use rt req
  | .finish i res => s.finish rt i res
  | .close i => s.close i
  | .clock now => { s with now := max s.now now }

def system (rt : HttpRuntime) (now : UInt64) : System Middleware HttpEvent where
  init := start now
  step := step rt

end Middleware

end NestBackend.Metrics
