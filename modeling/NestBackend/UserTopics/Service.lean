import NestBackend.Common.Retry
import NestBackend.Lib.OrderedSet
import NestBackend.UserTopics.Message

/-! `UserTopicService` with its subscriber connection.  Calls take effect in the order in
which they were issued; a rejected call changes nothing, whenever it is rejected. -/

namespace NestBackend.UserTopics

open NestBackend.Common
open NestBackend.Js
open NestBackend.Lib
open NestBackend.Ws

def TOPIC_RETRY : BoundedRetryOptions where
  attempts := some 5
  initialDelayMs := some 50
  maxDelayMs := some 500

inductive TopicOpKind where
  | subscribe
  | unsubscribe
  deriving DecidableEq

/-- A run of `withTopicOp`.  `attempt` is the loop counter of `withBoundedRetry`, `started`
the number of lifecycle events heard before the one that started it. -/
structure TopicOp where
  channel : String
  op : TopicOpKind
  attempt : Nat
  started : Nat
  deriving DecidableEq

/-- A call on the subscriber connection that has not settled; a SUBSCRIBE passes the closure
`listener`, made for this call. -/
structure SubscriberCall where
  task : TopicOp
  listener : Nat
  deriving DecidableEq

structure Listener where
  channel : String
  closure : Nat
  deriving DecidableEq

/-- `calls` are in issue order, `sleeping` are the operations between two attempts,
`exhausted` those that have used up their attempts. -/
structure UserTopicService where
  subscribed : OrderedSet String
  calls : List SubscriberCall
  sleeping : List TopicOp
  listeners : List Listener
  exhausted : List TopicOp
  closures : Nat
  heard : Nat
  deriving DecidableEq

namespace UserTopicService

def start : UserTopicService := ⟨.empty, [], [], [], [], 0, 0⟩

def attempt (task : TopicOp) (w : UserTopicService) : UserTopicService :=
  { w with calls := w.calls ++ [⟨task, w.closures⟩], closures := w.closures + 1 }

/-- Up to the first `await` of `withBoundedRetry`. -/
def withTopicOp (channel : String) (op : TopicOpKind) (started : Nat) (w : UserTopicService) :
    UserTopicService :=
  w.attempt ⟨channel, op, 1, started⟩

def handleConnect (event : SessionLifecycleEvent) (w : UserTopicService) : UserTopicService :=
  let started := w.heard
  let w := { w with heard := w.heard + 1 }
  let channel := channelFor event.userId
  if channel ∈ w.subscribed then w
  else
    let w := { w with subscribed := w.subscribed.add channel }
    w.withTopicOp channel .subscribe started

def handleDisconnect (event : SessionLifecycleEvent) (w : UserTopicService) :
    UserTopicService :=
  let started := w.heard
  let w := { w with heard := w.heard + 1 }
  if event.userSessionCount > 0 then w
  else
    let channel := channelFor event.userId
    if channel ∉ w.subscribed then w
    else
      let w := { w with subscribed := w.subscribed.delete channel }
      w.withTopicOp channel .unsubscribe started

def tracker : SessionTracker UserTopicService where
  handleConnect event _ w := (w.handleConnect event, .ok .fulfilled)
  handleDisconnect event w := (w.handleDisconnect event, .ok .fulfilled)

def applyCall (listeners : List Listener) (call : SubscriberCall) : List Listener :=
  match call.task.op with
  | .subscribe => listeners ++ [⟨call.task.channel, call.listener⟩]
  | .unsubscribe => listeners.filter (·.channel ≠ call.task.channel)

def accept (w : UserTopicService) : UserTopicService :=
  match w.calls with
  | [] => w
  | call :: calls => { w with calls := calls, listeners := applyCall w.listeners call }

/-- The `catch` block of `withTopicOp`. -/
def absorb (task : TopicOp) (w : UserTopicService) : UserTopicService :=
  { w with
    subscribed := if task.op = .subscribe then w.subscribed.delete task.channel else w.subscribed
    exhausted := w.exhausted ++ [task] }

def reject (i : Nat) (w : UserTopicService) : UserTopicService :=
  match w.calls[i]? with
  | none => w
  | some call =>
    let w := { w with calls := w.calls.eraseIdx i }
    match TOPIC_RETRY.afterFailure call.task.attempt with
    | .sleep _ => { w with sleeping := w.sleeping ++ [call.task] }
    | .giveUp => w.absorb call.task

def wake (i : Nat) (w : UserTopicService) : UserTopicService :=
  match w.sleeping[i]? with
  | none => w
  | some task =>
    let w := { w with sleeping := w.sleeping.eraseIdx i }
    w.attempt { task with attempt := task.attempt + 1 }

end UserTopicService

inductive TopicEvent where
  | accept
  | reject (i : Nat)
  | wake (i : Nat)
  deriving DecidableEq

namespace UserTopicService

def step (w : UserTopicService) : TopicEvent → UserTopicService
  | .accept => w.accept
  | .reject i => w.reject i
  | .wake i => w.wake i

/-- `localDeliverer` acts on its owner `σ`; an error is thrown at the connection. -/
def handleTopicMessage {σ : Type} (J : JsonText)
    (localDeliverer : Option (UserId → Value → Option ClientId → σ → σ × Nat))
    (message : String) (channel : String) (owner : σ) : Except String σ :=
  match userIdFromChannel channel with
  | none => .ok owner
  | some userId =>
    match parseUserTopicEnvelope J message with
    | .invalid _ => .ok owner
    | .ok payload excludeClientId =>
      match localDeliverer with
      | none => .error (s!"Dropping topic message on {channel}: local deliverer not registered" ++
          " (WsModule wiring missing)")
      | some deliver => .ok (deliver userId (.ofJson payload) excludeClientId owner).1

end UserTopicService

end NestBackend.UserTopics
