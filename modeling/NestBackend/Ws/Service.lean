import NestBackend.Lib.System
import NestBackend.UserTopics.Message
import NestBackend.Ws.Registry

/-! `WsService`.  Its trackers act on an outside world `τ`; what it does to sockets,
trackers and the publisher is recorded in `trace`.  Log lines are left out, except the
warning about a failed tracker. -/

namespace NestBackend.Ws

open NestBackend.Js
open NestBackend.UserTopics

def WS_CLOSE_POLICY_VIOLATION : Nat := 1008

inductive SocketEvent where
  | message
  | error
  | close
  deriving DecidableEq

/-- `fanOut` marks a call of `fanOut`, before any tracker hears of it; `socketSend` names
the session object whose socket it is. -/
inductive Effect where
  | socketOn (socket : Socket) (event : SocketEvent)
  | socketClose (socket : Socket) (code : Nat) (reason : String)
  | socketTerminate (socket : Socket)
  | socketSend (ref : Nat) (socket : Socket) (payload : String)
  | fanOut (phase : Phase) (event : SessionLifecycleEvent)
  | notify (tracker : Nat) (phase : Phase) (event : SessionLifecycleEvent)
  | trackerFailed (tracker : Nat) (phase : Phase) (detail : String)
  | publish (channel : String) (envelope : String)
  deriving DecidableEq

inductive RegisterSessionResult where
  | registered
  | duplicate
  | rejected
  deriving DecidableEq

/-- A publish whose promise has not settled; `author` is the session whose inbound
frame asked for it, if one did. -/
structure Publish where
  channel : String
  envelope : String
  author : Option Session

structure FanOut where
  phase : Phase
  pending : List Settlement

structure WsService (τ : Type) where
  registry : Registry
  timers : Timers
  publishes : List Publish
  fanOuts : List FanOut
  world : τ
  trace : List Effect

/-- What the constructor receives and what the runtime provides; `randomUUID n` is the
value of the `n`-th call. -/
structure Deps (τ : Type) where
  json : JsonText
  trackers : List (SessionTracker τ)
  randomUUID : Nat → String

inductive Notice where
  | connect (now : ℚ)
  | disconnect

def Notice.phase : Notice → Phase
  | .connect _ => .connect
  | .disconnect => .disconnect

namespace WsService

variable {τ : Type}

def start (world : τ) : WsService τ := ⟨.empty, .empty, [], [], world, []⟩

def emit (s : WsService τ) (effect : Effect) : WsService τ :=
  { s with trace := s.trace ++ [effect] }

/-- An `async` function: what is thrown on the way to the first `await` rejects the promise. -/
def notifyTracker (tracker : SessionTracker τ) (event : SessionLifecycleEvent)
    (notice : Notice) (world : τ) : τ × Settlement :=
  let (world, result) := match notice with
    | .connect now => tracker.handleConnect event now world
    | .disconnect => tracker.handleDisconnect event world
  match result with
  | .ok promise => (world, promise)
  | .error thrown => (world, .rejected thrown)

def notifyTrackers (event : SessionLifecycleEvent) (notice : Notice) :
    Nat → List (SessionTracker τ) → WsService τ → WsService τ × List Settlement
  | _, [], s => (s, [])
  | index, tracker :: trackers, s =>
    let (world, promise) := notifyTracker tracker event notice s.world
    let s := { s with world := world, trace := s.trace ++ [.notify index notice.phase event] }
    let (s, promises) := notifyTrackers event notice (index + 1) trackers s
    (s, promise :: promises)

def lifecycleEvent (r : Registry) (session : Session) : SessionLifecycleEvent where
  userId := session.userId
  clientId := session.clientId
  token := session.presenceToken
  userSessionCount := r.countUserSessions session.userId

def fanOut (deps : Deps τ) (session : Session) (notice : Notice) (s : WsService τ) :
    WsService τ :=
  let event := lifecycleEvent s.registry session
  let s := s.emit (.fanOut notice.phase event)
  let (s, pending) := notifyTrackers event notice 0 deps.trackers s
  { s with fanOuts := s.fanOuts ++ [⟨notice.phase, pending⟩] }

def warnings (phase : Phase) : Nat → List Settlement → List Effect
  | _, [] => []
  | index, .rejected detail :: rest =>
    .trackerFailed index phase detail :: warnings phase (index + 1) rest
  | index, _ :: rest => warnings phase (index + 1) rest

def settleFanOut (i : Nat) (s : WsService τ) : WsService τ :=
  match s.fanOuts[i]? with
  | none => s
  | some f =>
    if .never ∈ f.pending then s
    else { s with
      fanOuts := s.fanOuts.eraseIdx i
      trace := s.trace ++ warnings f.phase 0 f.pending }

def release (deps : Deps τ) (session : Session) (s : WsService τ) : WsService τ × Bool :=
  if !s.registry.holds session then (s, false)
  else
    let timers := s.timers.clearExpiryTimer session
    let r := s.registry.deleteSession session.clientId
    let r := r.untrackMembership session.userId session.clientId
    (fanOut deps session .disconnect { s with registry := r, timers := timers }, true)

def handleExpiry (deps : Deps τ) (session : Session) (s : WsService τ) : WsService τ :=
  match release deps session s with
  | (s, false) => s
  | (s, true) => s.emit (.socketTerminate session.socket)

def scheduleExpiry (deps : Deps τ) (session : Session) (now : ℚ) (s : WsService τ) :
    WsService τ :=
  let remaining := session.expiresAt.sub (.fin now)
  if remaining.le (.fin 0) then handleExpiry deps session s
  else { s with timers := s.timers.setExpiryTimer session remaining }

/-- Two clock readings: the callback's own and, when it re-arms, `scheduleExpiry`'s. -/
def handleExpiryTimer (deps : Deps τ) (session : Session) (now now' : ℚ) (s : WsService τ) :
    WsService τ :=
  if Number.lt (.fin 0) (session.expiresAt.sub (.fin now)) then
    scheduleExpiry deps session now' s
  else handleExpiry deps session s

/-- `now` is the clock during the connect fan-out, `now'` the reading of `scheduleExpiry`. -/
def handleConnection (deps : Deps τ) (params : ConnectionParams) (now now' : ℚ)
    (s : WsService τ) : WsService τ × RegisterSessionResult :=
  match params.userId, params.clientId with
  | some userId, some clientId =>
    if (s.registry.getSession clientId).isSome then
      (s.emit (.socketClose params.socket WS_CLOSE_POLICY_VIOLATION "duplicate clientId"),
        .duplicate)
    else
      let ref := s.registry.built.length
      let session : Session := {
        ref, userId, clientId
        socket := params.socket
        presenceToken := deps.randomUUID ref
        expiresAt := params.expiresAt }
      let r := s.registry.addSession session
      let r := r.trackMembership userId clientId
      let s := fanOut deps session (.connect now) { s with registry := r }
      let s := s.emit (.socketOn params.socket .message)
      let s := s.emit (.socketOn params.socket .error)
      let s := s.emit (.socketOn params.socket .close)
      (scheduleExpiry deps session now' s, .registered)
  | _, _ =>
    (s.emit (.socketClose params.socket WS_CLOSE_POLICY_VIOLATION "missing userId/clientId"),
      .rejected)

def onModuleDestroy (s : WsService τ) : WsService τ :=
  { s with
    timers := s.registry.sessions.entries.foldl
      (fun t entry => t.clearExpiryTimer entry.2) s.timers }

def sendToClient (J : JsonText) (io : Sockets) (clientId : ClientId) (message : Value)
    (s : WsService τ) : WsService τ × Bool :=
  match s.registry.getSession clientId with
  | none => (s, false)
  | some session =>
    if io.readyState session.socket ≠ OPEN then (s, false)
    else match J.stringify message with
      | .throws | .undefined => (s, false)
      | .text payload =>
        (s.emit (.socketSend session.ref session.socket payload), !io.sendThrows session.socket)

def sendToMembers (J : JsonText) (io : Sockets) (message : Value)
    (excludeClientId : Option ClientId) : List ClientId → WsService τ → WsService τ × Nat
  | [], s => (s, 0)
  | clientId :: rest, s =>
    if excludeClientId = some clientId then sendToMembers J io message excludeClientId rest s
    else
      let (s, sent) := sendToClient J io clientId message s
      let (s, delivered) := sendToMembers J io message excludeClientId rest s
      (s, if sent then delivered + 1 else delivered)

def sendToLocalUser (J : JsonText) (io : Sockets) (userId : UserId) (message : Value)
    (excludeClientId : Option ClientId) (s : WsService τ) : WsService τ × Nat :=
  match s.registry.userClients.lookup userId with
  | none => (s, 0)
  | some members => sendToMembers J io message excludeClientId members.toList s

/-- An error is a promise rejected before anything is published. -/
def sendToUser (J : JsonText) (userId : UserId) (message : Value)
    (excludeClientId : Option ClientId) (author : Option Session) (s : WsService τ) :
    WsService τ × Except String Unit :=
  let channel := channelFor userId
  match buildUserTopicEnvelope J message excludeClientId with
  | .text envelope =>
    ({ s with
      publishes := s.publishes ++ [⟨channel, envelope, author⟩]
      trace := s.trace ++ [.publish channel envelope] }, .ok ())
  | _ => (s, .error s!"Broadcast payload for {channel} is not serializable")

def nack (reason : String) : Value :=
  .object [("op", .string SEND_MESSAGE_ERROR_OP), ("reason", .string reason)]

def sendNack (J : JsonText) (io : Sockets) (clientId : ClientId) (reason : String)
    (s : WsService τ) : WsService τ :=
  (sendToClient J io clientId (nack reason) s).1

/-- The message listener of `session`, which keeps that session's ids. -/
def handleMessage (J : JsonText) (io : Sockets) (session : Session) (data : RawData)
    (s : WsService τ) : WsService τ :=
  match parseInboundFrame J data with
  | .ignore _ => s
  | .invalid reason => sendNack J io session.clientId reason s
  | .send target message =>
    if !canSendTo session.userId target then sendNack J io session.clientId "not allowed" s
    else match sendToUser J target (.ofJson message) (some session.clientId) (some session) s with
      | (s, .ok ()) => s
      | (s, .error _) => sendNack J io session.clientId "delivery failed" s

def settlePublish (J : JsonText) (io : Sockets) (i : Nat) (resolved : Bool) (s : WsService τ) :
    WsService τ :=
  match s.publishes[i]? with
  | none => s
  | some p =>
    let s := { s with publishes := s.publishes.eraseIdx i }
    match p.author with
    | some session =>
      if resolved then s else sendNack J io session.clientId "delivery failed" s
    | none => s

end WsService

inductive WsEvent where
  | connect (params : ConnectionParams) (now now' : ℚ)
  | close (ref : Nat)
  | error (ref : Nat)
  | message (ref : Nat) (data : RawData) (io : Sockets)
  | timer (id : Nat) (now now' : ℚ)
  | publishSettled (i : Nat) (resolved : Bool) (io : Sockets)
  | trackersSettled (i : Nat)
  | sendToClient (clientId : ClientId) (message : Value) (io : Sockets)
  | sendToLocalUser (userId : UserId) (message : Value) (excludeClientId : Option ClientId)
      (io : Sockets)
  | sendToUser (userId : UserId) (message : Value) (excludeClientId : Option ClientId)
  | destroy

namespace WsService

variable {τ : Type}

/-- One callback of the event loop or one call from outside.  An event that names a
listener or timer that does not exist changes nothing; a socket error is only logged. -/
def step (deps : Deps τ) (s : WsService τ) : WsEvent → WsService τ
  | .connect params now now' => (handleConnection deps params now now' s).1
  | .close ref =>
    match s.registry.built[ref]? with
    | some session => (release deps session s).1
    | none => s
  | .error _ => s
  | .message ref data io =>
    match s.registry.built[ref]? with
    | some session => handleMessage deps.json io session data s
    | none => s
  | .timer id now now' =>
    match s.timers.pending.find? (·.id == id) with
    | some timer =>
      match s.registry.built[timer.ref]? with
      | some session =>
        handleExpiryTimer deps session now now' { s with timers := s.timers.take id }
      | none => s
    | none => s
  | .publishSettled i resolved io => settlePublish deps.json io i resolved s
  | .trackersSettled i => settleFanOut i s
  | .sendToClient clientId message io => (sendToClient deps.json io clientId message s).1
  | .sendToLocalUser userId message excludeClientId io =>
    (sendToLocalUser deps.json io userId message excludeClientId s).1
  | .sendToUser userId message excludeClientId =>
    (sendToUser deps.json userId message excludeClientId none s).1
  | .destroy => onModuleDestroy s

def system (deps : Deps τ) (world : τ) : Lib.System (WsService τ) WsEvent where
  init := start world
  step := step deps

end WsService

end NestBackend.Ws
