import NestBackend.Presence.Service
import NestBackend.UserTopics.ServiceLaws
import NestBackend.Ws.LedgerLaws

/-! One process: `WsService` with the trackers and the delivery hook that `WsModule` gives
it, the subscriber connection and the DynamoDB requests in flight. -/

namespace NestBackend

open NestBackend.Js
open NestBackend.Lib
open NestBackend.Presence
open NestBackend.UserTopics
open NestBackend.Ws

structure World where
  presence : PresenceService
  topics : UserTopicService

namespace World

def start : World := ⟨.start, .start⟩

def presenceTracker : SessionTracker World where
  handleConnect event now w :=
    let (presence, result) := PresenceService.tracker.handleConnect event now w.presence
    ({ w with presence }, result)
  handleDisconnect event w :=
    let (presence, result) := PresenceService.tracker.handleDisconnect event w.presence
    ({ w with presence }, result)

def topicTracker : SessionTracker World where
  handleConnect event now w :=
    let (topics, result) := UserTopicService.tracker.handleConnect event now w.topics
    ({ w with topics }, result)
  handleDisconnect event w :=
    let (topics, result) := UserTopicService.tracker.handleDisconnect event w.topics
    ({ w with topics }, result)

end World

structure Runtime where
  json : JsonText
  randomUUID : Nat → String

def Runtime.deps (rt : Runtime) : Deps World where
  json := rt.json
  trackers := [World.presenceTracker, World.topicTracker]
  randomUUID := rt.randomUUID

def Runtime.presenceDeps (rt : Runtime) : Deps PresenceService where
  json := rt.json
  trackers := [PresenceService.tracker]
  randomUUID := rt.randomUUID

def Runtime.topicDeps (rt : Runtime) : Deps UserTopicService where
  json := rt.json
  trackers := [UserTopicService.tracker]
  randomUUID := rt.randomUUID

abbrev Replica := WsService World

inductive ReplicaEvent where
  | ws (e : WsEvent)
  | topic (e : TopicEvent)
  | perform (i : Nat)
  | deliver (channel message : String) (io : Sockets)

namespace Replica

def start : Replica := WsService.start World.start

/-- The hook that `WsModule` registers. -/
def localDeliverer (J : JsonText) (io : Sockets) (userId : UserId) (payload : Value)
    (excludeClientId : Option ClientId) (s : Replica) : Replica × Nat :=
  WsService.sendToLocalUser J io userId payload excludeClientId s

def callListener (J : JsonText) (io : Sockets) (channel message : String) (s : Replica) :
    Replica :=
  match UserTopicService.handleTopicMessage J (some (localDeliverer J io)) message channel s with
  | .ok s => s
  | .error _ => s

/-- A message on a channel is handed to every listener the connection then has on it. -/
def deliver (J : JsonText) (io : Sockets) (channel message : String) (s : Replica) : Replica :=
  (s.world.topics.listeners.filter (·.channel = channel)).foldl
    (fun s _ => callListener J io channel message s) s

def step (rt : Runtime) (s : Replica) : ReplicaEvent → Replica
  | .ws e => WsService.step rt.deps s e
  | .topic e => { s with world := { s.world with topics := s.world.topics.step e } }
  | .perform i => { s with world := { s.world with presence := s.world.presence.perform i } }
  | .deliver channel message io => deliver rt.json io channel message s

def system (rt : Runtime) : System Replica ReplicaEvent where
  init := start
  step := step rt

def presenceView (s : Replica) : Observed PresenceService := s.observed.map World.presence

def topicView (s : Replica) : Observed UserTopicService := s.observed.map World.topics

def presenceActs (s : Replica) : ReplicaEvent → List (Move ⊕ Nat)
  | .ws e => (WsService.moves s e).map .inl
  | .perform i => [.inr i]
  | _ => []

def topicActs (s : Replica) : ReplicaEvent → List (Move ⊕ TopicEvent)
  | .ws e => (WsService.moves s e).map .inl
  | .topic e => [.inr e]
  | _ => []

theorem announce_presence (rt : Runtime) (event : SessionLifecycleEvent) (notice : Notice)
    (w : World) : (announce rt.deps event notice w).presence =
      announce rt.presenceDeps event notice w.presence := by
  cases notice <;> rfl

theorem announce_topics (rt : Runtime) (event : SessionLifecycleEvent) (notice : Notice)
    (w : World) : (announce rt.deps event notice w).topics =
      announce rt.topicDeps event notice w.topics := by
  cases notice <;> rfl

theorem quiet_callListener (J : JsonText) (io : Sockets) (channel message : String)
    (s : Replica) : WsService.Quiet s (callListener J io channel message s) := by
  unfold callListener UserTopicService.handleTopicMessage
  cases userIdFromChannel channel with
  | none => exact .refl s
  | some u =>
    cases parseUserTopicEnvelope J message with
    | invalid reason => exact .refl s
    | ok payload exclude => exact WsService.quiet_sendToLocalUser J io u _ exclude s

theorem quiet_deliver (J : JsonText) (io : Sockets) (channel message : String) (s : Replica) :
    WsService.Quiet s (deliver J io channel message s) := by
  unfold deliver
  generalize s.world.topics.listeners.filter _ = ls
  induction ls generalizing s with
  | nil => exact .refl s
  | cons l ls ih => exact (quiet_callListener J io channel message s).trans (ih _)

theorem presenceView_step (rt : Runtime) (s : Replica) (e : ReplicaEvent) :
    presenceView (step rt s e) =
      (Observed.inWorld rt.presenceDeps PresenceService.perform .start).runFrom
        (presenceView s) (presenceActs s e) := by
  cases e with
  | ws e =>
    rw [presenceActs, Observed.runFrom_inl, presenceView, step, WsService.observed_step]
    exact Observed.map_foldl_move rt.deps rt.presenceDeps rfl (announce_presence rt) _ _
  | topic e => rfl
  | perform i => rfl
  | deliver channel message io =>
    rw [presenceView, step, (quiet_deliver rt.json io channel message s).observed]
    rfl

theorem topicView_step (rt : Runtime) (s : Replica) (e : ReplicaEvent) :
    topicView (step rt s e) =
      (Observed.inWorld rt.topicDeps UserTopicService.step .start).runFrom
        (topicView s) (topicActs s e) := by
  cases e with
  | ws e =>
    rw [topicActs, Observed.runFrom_inl, topicView, step, WsService.observed_step]
    exact Observed.map_foldl_move rt.deps rt.topicDeps rfl (announce_topics rt) _ _
  | topic e => rfl
  | perform i => rfl
  | deliver channel message io =>
    rw [topicView, step, (quiet_deliver rt.json io channel message s).observed]
    rfl

theorem built_prefix_step (rt : Runtime) (s : Replica) (e : ReplicaEvent) :
    s.registry.built <+: (step rt s e).registry.built := by
  cases e with
  | ws e =>
    exact WsService.built_prefix_step rt.deps s e
  | topic e => exact List.prefix_refl _
  | perform i => exact List.prefix_refl _
  | deliver channel message io =>
    rw [step, (quiet_deliver rt.json io channel message s).registry]

theorem built_prefix_runFrom (rt : Runtime) (s : Replica) (es : List ReplicaEvent) :
    s.registry.built <+: ((system rt).runFrom s es).registry.built := by
  induction es generalizing s with
  | nil => exact List.prefix_refl _
  | cons e es ih => exact (built_prefix_step rt s e).trans (ih _)

def presenceRefinement (rt : Runtime) : System.Refinement (system rt)
    (Observed.inWorld rt.presenceDeps PresenceService.perform .start) where
  abs := presenceView
  events := presenceActs
  abs_init := rfl
  abs_step := presenceView_step rt

def topicRefinement (rt : Runtime) : System.Refinement (system rt)
    (Observed.inWorld rt.topicDeps UserTopicService.step .start) where
  abs := topicView
  events := topicActs
  abs_init := rfl
  abs_step := topicView_step rt

/-- Every act of sessions, connection and backoff timers that the event stands for meets `G`. -/
def TopicGuard (rt : Runtime)
    (G : Observed UserTopicService → Move ⊕ TopicEvent → Prop) (s : Replica)
    (e : ReplicaEvent) : Prop :=
  (Observed.inWorld rt.topicDeps UserTopicService.step .start).AlongFrom G (topicView s)
    (topicActs s e)

def PresenceGuard (rt : Runtime)
    (G : Observed PresenceService → Move ⊕ Nat → Prop) (s : Replica) (e : ReplicaEvent) : Prop :=
  (Observed.inWorld rt.presenceDeps PresenceService.perform .start).AlongFrom G
    (presenceView s) (presenceActs s e)

instance (rt : Runtime) (G : Observed UserTopicService → Move ⊕ TopicEvent → Prop)
    [∀ o a, Decidable (G o a)] (s : Replica) (e : ReplicaEvent) :
    Decidable (TopicGuard rt G s e) := inferInstanceAs (Decidable (System.AlongFrom _ _ _ _))

instance (rt : Runtime) (G : Observed PresenceService → Move ⊕ Nat → Prop)
    [∀ o a, Decidable (G o a)] (s : Replica) (e : ReplicaEvent) :
    Decidable (PresenceGuard rt G s e) := inferInstanceAs (Decidable (System.AlongFrom _ _ _ _))

theorem topicView_valid (rt : Runtime) (es : List ReplicaEvent) :
    ((system rt).run es).registry.Valid :=
  (topicRefinement rt).invariant (P := fun o => o.registry.Valid)
    (fun as => Observed.valid_run_inWorld as) es

theorem topic_invariant_along {rt : Runtime}
    {G : Observed UserTopicService → Move ⊕ TopicEvent → Prop}
    {P : Observed UserTopicService → Prop} (hinit : P ⟨.empty, [], .start⟩)
    (hchange : ∀ o m o', o.registry.Valid → P o → G o (.inl m) →
      Observed.Change rt.topicDeps o m o' → P o')
    (hact : ∀ o e w, o.registry.Valid → P o → G o (.inr e) →
      UserTopicService.Progress o.world e w → P { o with world := w })
    {es : List ReplicaEvent} (h : (system rt).Along (TopicGuard rt G) es) :
    P (topicView ((system rt).run es)) := by
  have habs := (topicRefinement rt).along (H := G) (fun _ _ => id) h
  rw [show topicView ((system rt).run es) = _ from (topicRefinement rt).abs_run es]
  exact Observed.invariant_inWorld_along hinit hchange
    (fun o e hv hP hok => hact o e _ hv hP hok (UserTopicService.progress_step o.world e)) habs

end Replica

end NestBackend
