import NestBackend.Replica.Delivery

/-! Several processes that share one Redis.  Redis takes the publishes of each process in
the order in which they were issued, and hands each one to every listener then registered
on its channel. -/

namespace NestBackend

open NestBackend.Js
open NestBackend.Lib
open NestBackend.UserTopics
open NestBackend.Ws

/-- A publish that Redis has handed out, and what each process sent on account of it. -/
structure Handover (ι : Type) where
  channel : String
  message : String
  sent : ι → List SentFrame

/-- `wire` holds the publishes of each process that Redis has not taken yet. -/
structure Cluster (ι : Type) where
  replicas : ι → Replica
  wire : ι → List (String × String)
  history : List (Handover ι)

inductive ClusterEvent (ι : Type) where
  | ws (i : ι) (e : WsEvent)
  | topic (i : ι) (e : TopicEvent)
  | perform (i : ι) (k : Nat)
  | publish (i : ι) (io : ι → Sockets)

def ClusterEvent.rejects {ι : Type} : ClusterEvent ι → Bool
  | .topic _ (.reject _) => true
  | _ => false

/-- A publish may also fail, and never reach Redis. -/
inductive Traffic (ι : Type) where
  | cluster (e : ClusterEvent ι)
  | lose (i : ι) (k : Nat)

namespace Cluster

variable {ι : Type} [DecidableEq ι]

def start : Cluster ι := ⟨fun _ => .start, fun _ => [], []⟩

def advance (rt : ι → Runtime) (i : ι) (e : ReplicaEvent) (c : Cluster ι) : Cluster ι :=
  let t := Replica.step (rt i) (c.replicas i) e
  { c with
    replicas := Function.update c.replicas i t
    wire := Function.update c.wire i (c.wire i ++ WsService.publishedBetween (c.replicas i) t) }

def publish (rt : ι → Runtime) (i : ι) (io : ι → Sockets) (c : Cluster ι) : Cluster ι :=
  match c.wire i with
  | [] => c
  | (channel, message) :: rest =>
    let replicas j := Replica.step (rt j) (c.replicas j) (.deliver channel message (io j))
    { replicas
      wire := Function.update c.wire i rest
      history := c.history ++
        [⟨channel, message, fun j => WsService.sentBetween (c.replicas j) (replicas j)⟩] }

def step (rt : ι → Runtime) (c : Cluster ι) : ClusterEvent ι → Cluster ι
  | .ws i e => c.advance rt i (.ws e)
  | .topic i e => c.advance rt i (.topic e)
  | .perform i k => c.advance rt i (.perform k)
  | .publish i io => c.publish rt i io

def system (rt : ι → Runtime) : System (Cluster ι) (ClusterEvent ι) where
  init := start
  step := step rt

def losing (rt : ι → Runtime) : System (Cluster ι) (Traffic ι) where
  init := start
  step c
    | .cluster e => c.step rt e
    | .lose i k => { c with wire := Function.update c.wire i ((c.wire i).eraseIdx k) }

def replicaEvents (j : ι) (c : Cluster ι) : ClusterEvent ι → List ReplicaEvent
  | .ws i e => if i = j then [.ws e] else []
  | .topic i e => if i = j then [.topic e] else []
  | .perform i k => if i = j then [.perform k] else []
  | .publish i io =>
    match c.wire i with
    | [] => []
    | (channel, message) :: _ => [.deliver channel message (io j)]

theorem replicas_advance (rt : ι → Runtime) (i j : ι) (e : ReplicaEvent) (c : Cluster ι) :
    (c.advance rt i e).replicas j =
      (Replica.system (rt j)).runFrom (c.replicas j) (if i = j then [e] else []) := by
  by_cases h : i = j
  · subst h
    simp [advance, Replica.system]
  · simp [advance, h, Function.update_of_ne (Ne.symm h)]

@[simp] theorem wire_advance (rt : ι → Runtime) (i : ι) (e : ReplicaEvent) (c : Cluster ι) :
    (c.advance rt i e).wire i =
      c.wire i ++
        WsService.publishedBetween (c.replicas i) (Replica.step (rt i) (c.replicas i) e) := by
  simp [advance]

theorem replicas_step (rt : ι → Runtime) (j : ι) (c : Cluster ι) (e : ClusterEvent ι) :
    (c.step rt e).replicas j =
      (Replica.system (rt j)).runFrom (c.replicas j) (replicaEvents j c e) := by
  cases e with
  | ws i e => exact replicas_advance rt i j _ c
  | topic i e => exact replicas_advance rt i j _ c
  | perform i k => exact replicas_advance rt i j _ c
  | publish i io =>
    simp only [step, publish, replicaEvents]
    split <;> rfl

def refinement (rt : ι → Runtime) (j : ι) :
    System.Refinement (system rt) (Replica.system (rt j)) where
  abs c := c.replicas j
  events := replicaEvents j
  abs_init := rfl
  abs_step := replicas_step rt j

def losingRefinement (rt : ι → Runtime) (j : ι) :
    System.Refinement (losing rt) (Replica.system (rt j)) where
  abs c := c.replicas j
  events c
    | .cluster e => replicaEvents j c e
    | .lose _ _ => []
  abs_init := rfl
  abs_step c e := by
    cases e with
    | cluster e => exact replicas_step rt j c e
    | lose i k => rfl

end Cluster

end NestBackend
