import NestBackend.Replica.Load

/-! `UserTopicService` with its operations kept as the programs they are, each suspended where
it awaits, and why counting attempts says as much. -/

namespace NestBackend.UserTopics

open NestBackend.Common
open NestBackend.Js
open NestBackend.Lib
open NestBackend.Ws

inductive TopicRequest where
  | call
  | sleep (ms : Nat)

def TopicRequest.Answer : TopicRequest → Type
  | .call => Except Thrown Unit
  | .sleep _ => Unit

abbrev TopicScript (α : Type) := Script TopicRequest TopicRequest.Answer Thrown α

def TopicOpKind.name : TopicOpKind → String
  | .subscribe => "subscribe"
  | .unsubscribe => "unsubscribe"

namespace TopicScript

def task : TopicScript Unit := .ask .call .ofExcept

def sleep (ms : Nat) : TopicScript Unit := .ask (.sleep ms) .ret

def options (channel : String) (op : TopicOpKind) : BoundedRetryOptions :=
  { TOPIC_RETRY with
    failureMessage := some
      s!"Failed to {op.name} {channel} after {TOPIC_RETRY.attempts.getD 0} attempts" }

def detail : Thrown → String
  | .error _ _ message => message
  | .other _ => "unknown error"

def warning (channel : String) (op : TopicOpKind) (err : Thrown) : String :=
  match op with
  | .subscribe => s!"Failed to subscribe {channel}: {detail err}; will retry on the next connect"
  | .unsubscribe => s!"Failed to unsubscribe {channel}: {detail err}; the next subscribe heals it"

/-- The `try` and `catch` of `withTopicOp`; returns what the `catch` block logs. -/
def absorbing (channel : String) (op : TopicOpKind) (attempts : TopicScript Unit) :
    TopicScript (Option String) := do
  match ← attempts.settle with
  | .ok _ => return none
  | .error err => return some (warning channel op err)

def withTopicOp (channel : String) (op : TopicOpKind) : TopicScript (Option String) :=
  absorbing channel op (withBoundedRetry sleep none (options channel op) task)

def fromAttempt (channel : String) (op : TopicOpKind) (attempt : Nat) (lastError : Thrown) :
    TopicScript (Option String) :=
  absorbing channel op (retryFrom sleep none (options channel op) task attempt lastError)

def afterCall (channel : String) (op : TopicOpKind) (attempt : Nat) :
    Except Thrown Unit → TopicScript (Option String)
  | .ok _ => .ret none
  | .error err =>
    match TOPIC_RETRY.afterFailure attempt with
    | .sleep ms => .ask (.sleep ms) fun _ => fromAttempt channel op (attempt + 1) err
    | .giveUp => .ret (some (warning channel op ((options channel op).finalError err)))

theorem fromAttempt_eq {channel : String} {op : TopicOpKind} {attempt : Nat} {lastError : Thrown}
    (h : attempt ≤ 5) : fromAttempt channel op attempt lastError =
      .ask .call (afterCall channel op attempt) := by
  have hle : (attempt : ℤ) ≤ (options channel op).budget := by
    rw [show (options channel op).budget = 5 from rfl]
    omega
  rw [fromAttempt, retryFrom_of_le hle]
  change Script.ask TopicRequest.call _ = _
  congr 1
  funext o
  cases o with
  | ok a => rfl
  | error err =>
    have hafter : (options channel op).afterFailure attempt = TOPIC_RETRY.afterFailure attempt :=
      rfl
    change Script.bind (Script.settle (Script.bind (caught sleep none _ attempt err) _)) _ = _
    rw [afterCall, caught, hafter]
    cases hcase : TOPIC_RETRY.afterFailure attempt with
    | sleep ms => rfl
    | giveUp =>
      have hlast : (options channel op).budget < ((attempt + 1 : Nat) : ℤ) := by
        rw [afterFailure_giveUp_iff] at hcase
        rw [show (options channel op).budget = 5 from rfl]
        omega
      simp only [Script.pure_eq, Script.ret_bind, retryFrom_of_lt hlast]
      rfl

end TopicScript

structure Suspended where
  channel : String
  op : TopicOpKind
  started : Nat
  rest : TopicScript (Option String)

namespace Suspended

def settled (p : Suspended) (o : Except Thrown Unit) : Suspended :=
  match p.rest with
  | .ask .call k => { p with rest := k o }
  | _ => p

def woken (p : Suspended) : Suspended :=
  match p.rest with
  | .ask (.sleep _) k => { p with rest := k () }
  | _ => p

end Suspended

structure SuspendedCall where
  task : Suspended
  listener : Nat

/-- `UserTopicService` with `warnings` for what it has logged. -/
structure ScriptedService where
  subscribed : OrderedSet String
  calls : List SuspendedCall
  sleeping : List Suspended
  listeners : List Listener
  warnings : List String
  closures : Nat
  heard : Nat

inductive TopicAnswer where
  | accept
  | reject (i : Nat) (err : Thrown)
  | wake (i : Nat)

def TopicAnswer.event : TopicAnswer → TopicEvent
  | .accept => .accept
  | .reject i _ => .reject i
  | .wake i => .wake i

def TopicEvent.answer (err : Thrown) : TopicEvent → TopicAnswer
  | .accept => .accept
  | .reject i => .reject i err
  | .wake i => .wake i

@[simp] theorem TopicAnswer.event_answer (err : Thrown) (e : TopicEvent) :
    (e.answer err).event = e := by
  cases e <;> rfl

namespace ScriptedService

def start : ScriptedService := ⟨.empty, [], [], [], [], 0, 0⟩

def proceed (p : Suspended) (v : ScriptedService) : ScriptedService :=
  match p.rest with
  | .ask .call _ => { v with calls := v.calls ++ [⟨p, v.closures⟩], closures := v.closures + 1 }
  | .ask (.sleep _) _ => { v with sleeping := v.sleeping ++ [p] }
  | .ret none | .throw _ => v
  | .ret (some text) =>
    { v with
      subscribed := if p.op = .subscribe then v.subscribed.delete p.channel else v.subscribed
      warnings := v.warnings ++ [text] }

def handleConnect (event : SessionLifecycleEvent) (v : ScriptedService) : ScriptedService :=
  let started := v.heard
  let v := { v with heard := v.heard + 1 }
  let channel := channelFor event.userId
  if channel ∈ v.subscribed then v
  else
    let v := { v with subscribed := v.subscribed.add channel }
    v.proceed ⟨channel, .subscribe, started, TopicScript.withTopicOp channel .subscribe⟩

def handleDisconnect (event : SessionLifecycleEvent) (v : ScriptedService) : ScriptedService :=
  let started := v.heard
  let v := { v with heard := v.heard + 1 }
  if event.userSessionCount > 0 then v
  else
    let channel := channelFor event.userId
    if channel ∉ v.subscribed then v
    else
      let v := { v with subscribed := v.subscribed.delete channel }
      v.proceed ⟨channel, .unsubscribe, started, TopicScript.withTopicOp channel .unsubscribe⟩

def tracker : SessionTracker ScriptedService where
  handleConnect event _ v := (v.handleConnect event, .ok .fulfilled)
  handleDisconnect event v := (v.handleDisconnect event, .ok .fulfilled)

def applyCall (listeners : List Listener) (call : SuspendedCall) : List Listener :=
  match call.task.op with
  | .subscribe => listeners ++ [⟨call.task.channel, call.listener⟩]
  | .unsubscribe => listeners.filter (·.channel ≠ call.task.channel)

def step (v : ScriptedService) : TopicAnswer → ScriptedService
  | .accept =>
    match v.calls with
    | [] => v
    | call :: calls =>
      let v := { v with calls := calls, listeners := applyCall v.listeners call }
      v.proceed (call.task.settled (.ok ()))
  | .reject i err =>
    match v.calls[i]? with
    | none => v
    | some call =>
      let v := { v with calls := v.calls.eraseIdx i }
      v.proceed (call.task.settled (.error err))
  | .wake i =>
    match v.sleeping[i]? with
    | none => v
    | some p =>
      let v := { v with sleeping := v.sleeping.eraseIdx i }
      v.proceed p.woken

end ScriptedService

structure Suspended.Counts (p : Suspended) (task : TopicOp) : Prop where
  channel : p.channel = task.channel
  op : p.op = task.op
  started : p.started = task.started

structure Suspended.AtCall (p : Suspended) (task : TopicOp) : Prop extends p.Counts task where
  rest : ∃ lastError, p.rest = TopicScript.fromAttempt task.channel task.op task.attempt lastError
  attempt : task.attempt ≤ 5

structure Suspended.AtSleep (p : Suspended) (task : TopicOp) : Prop extends p.Counts task where
  rest : ∃ err, p.rest = .ask (.sleep (TOPIC_RETRY.delay task.attempt)) fun _ =>
    TopicScript.fromAttempt task.channel task.op (task.attempt + 1) err
  attempt : task.attempt < 5

def Warns (text : String) (task : TopicOp) : Prop :=
  ∃ err, text = TopicScript.warning task.channel task.op
    ((TopicScript.options task.channel task.op).finalError err)

structure Simulates (v : ScriptedService) (w : UserTopicService) : Prop where
  subscribed : v.subscribed = w.subscribed
  calls : List.Forall₂ (fun c d => c.task.AtCall d.task ∧ c.listener = d.listener) v.calls w.calls
  sleeping : List.Forall₂ Suspended.AtSleep v.sleeping w.sleeping
  listeners : v.listeners = w.listeners
  warnings : List.Forall₂ Warns v.warnings w.exhausted
  closures : v.closures = w.closures
  heard : v.heard = w.heard

theorem afterFailure_sleep {attempt ms : Nat} (h : TOPIC_RETRY.afterFailure attempt = .sleep ms) :
    attempt < 5 ∧ ms = TOPIC_RETRY.delay attempt := by
  have hlt : attempt < 5 := by
    by_contra hle
    rw [(afterFailure_giveUp_iff attempt).mpr (Nat.le_of_not_lt hle)] at h
    cases h
  rw [BoundedRetryOptions.afterFailure, show TOPIC_RETRY.budget = 5 from rfl,
    if_pos (by omega)] at h
  exact ⟨hlt, (AfterFailure.sleep.inj h).symm⟩

theorem forall₂_eraseIdx {α β : Type} {R : α → β → Prop} {l : List α} {m : List β}
    (h : List.Forall₂ R l m) (i : Nat) : List.Forall₂ R (l.eraseIdx i) (m.eraseIdx i) := by
  induction h generalizing i with
  | nil => exact .nil
  | cons hab h ih =>
    cases i with
    | zero => exact h
    | succ i => exact .cons hab (ih i)

theorem forall₂_getElem? {α β : Type} {R : α → β → Prop} {l : List α} {m : List β}
    (h : List.Forall₂ R l m) (i : Nat) : Option.Rel R l[i]? m[i]? := by
  induction h generalizing i with
  | nil => exact .none
  | cons hab h ih =>
    cases i with
    | zero => exact .some hab
    | succ i => exact ih i

section Simulation

variable {v : ScriptedService} {w : UserTopicService} {p : Suspended} {task : TopicOp}

theorem Simulates.start : Simulates .start .start :=
  ⟨rfl, .nil, .nil, rfl, .nil, rfl, rfl⟩

theorem Simulates.attempt (h : Simulates v w) (hp : p.AtCall task) :
    Simulates (v.proceed p) (w.attempt task) := by
  obtain ⟨lastError, hrest⟩ := hp.rest
  rw [TopicScript.fromAttempt_eq hp.attempt] at hrest
  have hproceed : v.proceed p =
      { v with calls := v.calls ++ [⟨p, v.closures⟩], closures := v.closures + 1 } := by
    rw [ScriptedService.proceed, hrest]
  rw [hproceed]
  exact ⟨h.subscribed, List.rel_append h.calls (.cons ⟨hp, h.closures⟩ .nil), h.sleeping,
    h.listeners, h.warnings, congrArg (· + 1) h.closures, h.heard⟩

theorem Suspended.AtCall.settled (hp : p.AtCall task) (o : Except Thrown Unit) :
    p.settled o =
      { p with rest := TopicScript.afterCall task.channel task.op task.attempt o } := by
  obtain ⟨lastError, hrest⟩ := hp.rest
  rw [TopicScript.fromAttempt_eq hp.attempt] at hrest
  rw [Suspended.settled, hrest]

theorem Simulates.handleConnect (h : Simulates v w) (event : SessionLifecycleEvent) :
    Simulates (v.handleConnect event) (w.handleConnect event) := by
  unfold ScriptedService.handleConnect UserTopicService.handleConnect
  simp only [h.subscribed]
  split
  · exact ⟨rfl, h.calls, h.sleeping, h.listeners, h.warnings, h.closures,
      congrArg (· + 1) h.heard⟩
  · refine Simulates.attempt ⟨rfl, h.calls, h.sleeping, h.listeners, h.warnings,
      h.closures, congrArg (· + 1) h.heard⟩ ⟨⟨rfl, rfl, h.heard⟩, ⟨_, rfl⟩, ?_⟩
    exact Nat.le_add_left 1 4

theorem Simulates.handleDisconnect (h : Simulates v w) (event : SessionLifecycleEvent) :
    Simulates (v.handleDisconnect event) (w.handleDisconnect event) := by
  unfold ScriptedService.handleDisconnect UserTopicService.handleDisconnect
  have hcounted : Simulates { v with heard := v.heard + 1 } { w with heard := w.heard + 1 } :=
    ⟨h.subscribed, h.calls, h.sleeping, h.listeners, h.warnings, h.closures,
      congrArg (· + 1) h.heard⟩
  simp only [h.subscribed]
  split
  · exact h.subscribed ▸ hcounted
  · split
    · exact h.subscribed ▸ hcounted
    · refine Simulates.attempt ⟨rfl, h.calls, h.sleeping, h.listeners, h.warnings,
        h.closures, congrArg (· + 1) h.heard⟩ ⟨⟨rfl, rfl, h.heard⟩, ⟨_, rfl⟩, ?_⟩
      exact Nat.le_add_left 1 4

theorem applyCall_eq {c : SuspendedCall} {d : SubscriberCall} (hc : c.task.AtCall d.task)
    (hlistener : c.listener = d.listener) (ls : List Listener) :
    ScriptedService.applyCall ls c = UserTopicService.applyCall ls d := by
  unfold ScriptedService.applyCall UserTopicService.applyCall
  cases hop : d.task.op with
  | subscribe => simp only [hc.op, hop, hc.channel, hlistener]
  | unsubscribe => simp only [hc.op, hop, hc.channel]

theorem Simulates.accept (h : Simulates v w) :
    Simulates (v.step .accept) (w.step .accept) := by
  rw [ScriptedService.step, UserTopicService.step, UserTopicService.accept]
  have hcalls := h.calls
  cases hv : v.calls with
  | nil =>
    rw [hv] at hcalls
    rw [List.forall₂_nil_left_iff.mp hcalls]
    exact h
  | cons c cs =>
    rw [hv] at hcalls
    obtain ⟨d, ds, ⟨hc, hlistener⟩, hrest, hw⟩ := List.forall₂_cons_left_iff.mp hcalls
    rw [hw]
    dsimp only
    rw [hc.settled, h.listeners, applyCall_eq hc hlistener]
    exact ⟨h.subscribed, hrest, h.sleeping, rfl, h.warnings, h.closures, h.heard⟩

theorem Simulates.reject (h : Simulates v w) (i : Nat) (err : Thrown) :
    Simulates (v.step (.reject i err)) (w.step (.reject i)) := by
  rw [ScriptedService.step, UserTopicService.step, UserTopicService.reject]
  have hcall := forall₂_getElem? h.calls i
  generalize v.calls[i]? = c at hcall
  generalize w.calls[i]? = d at hcall
  cases hcall with
  | none => exact h
  | @some c d hcd =>
    obtain ⟨hc, -⟩ := hcd
    dsimp only
    rw [hc.settled, TopicScript.afterCall]
    have herased : Simulates { v with calls := v.calls.eraseIdx i }
        { w with calls := w.calls.eraseIdx i } :=
      ⟨h.subscribed, forall₂_eraseIdx h.calls i, h.sleeping, h.listeners, h.warnings,
        h.closures, h.heard⟩
    cases hafter : TOPIC_RETRY.afterFailure d.task.attempt with
    | sleep ms =>
      obtain ⟨hlt, rfl⟩ := afterFailure_sleep hafter
      refine ⟨h.subscribed, herased.calls, List.rel_append h.sleeping (.cons ?_ .nil),
        h.listeners, h.warnings, h.closures, h.heard⟩
      exact ⟨⟨hc.channel, hc.op, hc.started⟩, ⟨err, rfl⟩, hlt⟩
    | giveUp =>
      refine ⟨?_, herased.calls, h.sleeping, h.listeners,
        List.rel_append h.warnings (.cons ⟨err, rfl⟩ .nil), h.closures, h.heard⟩
      change (if c.task.op = .subscribe then v.subscribed.delete c.task.channel else _) = _
      rw [hc.op, hc.channel, h.subscribed]
      rfl

theorem Simulates.wake (h : Simulates v w) (i : Nat) :
    Simulates (v.step (.wake i)) (w.step (.wake i)) := by
  rw [ScriptedService.step, UserTopicService.step, UserTopicService.wake]
  have hcall := forall₂_getElem? h.sleeping i
  generalize v.sleeping[i]? = p at hcall
  generalize w.sleeping[i]? = task at hcall
  cases hcall with
  | none => exact h
  | @some p task hp =>
    obtain ⟨err, hrest⟩ := hp.rest
    have hwoken : p.woken = { p with
        rest := TopicScript.fromAttempt task.channel task.op (task.attempt + 1) err } := by
      rw [Suspended.woken, hrest]
    dsimp only
    rw [hwoken]
    refine Simulates.attempt ⟨h.subscribed, h.calls, forall₂_eraseIdx h.sleeping i,
      h.listeners, h.warnings, h.closures, h.heard⟩ ?_
    exact ⟨⟨hp.channel, hp.op, hp.started⟩, ⟨err, rfl⟩, hp.attempt⟩

theorem Simulates.step (h : Simulates v w) (a : TopicAnswer) :
    Simulates (v.step a) (w.step a.event) := by
  cases a with
  | accept => exact h.accept
  | reject i err => exact h.reject i err
  | wake i => exact h.wake i

end Simulation

end NestBackend.UserTopics

namespace NestBackend

open NestBackend.Js
open NestBackend.Lib
open NestBackend.UserTopics
open NestBackend.Ws

namespace Ws

structure Observed.Related {τ υ : Type} (R : τ → υ → Prop) (o : Observed τ) (o' : Observed υ) :
    Prop where
  registry : o.registry = o'.registry
  log : o.log = o'.log
  world : R o.world o'.world

theorem Observed.Related.move {τ υ : Type} {R : τ → υ → Prop} (deps : Deps τ) (deps' : Deps υ)
    (htokens : deps.randomUUID = deps'.randomUUID)
    (hannounce : ∀ event notice w w', R w w' →
      R (announce deps event notice w) (announce deps' event notice w'))
    {o : Observed τ} {o' : Observed υ} (h : Related R o o') (m : Move) :
    Related R (o.move deps m) (o'.move deps' m) := by
  obtain ⟨registry, log, world⟩ := o
  obtain ⟨registry', log', world'⟩ := o'
  obtain ⟨rfl, rfl, hworld⟩ := h
  have htell : ∀ x notice r, Related R (tell deps x notice r ⟨registry, log, world⟩)
      (tell deps' x notice r ⟨registry, log, world'⟩) := fun x notice r =>
    ⟨rfl, rfl, hannounce _ _ _ _ hworld⟩
  cases m with
  | register u c socket expiresAt now =>
    simp only [Observed.move, newSession, htokens]
    split
    · exact ⟨rfl, rfl, hworld⟩
    · exact htell _ _ _
  | release ref =>
    simp only [Observed.move]
    split
    · split
      · exact htell _ _ _
      · exact ⟨rfl, rfl, hworld⟩
    · exact ⟨rfl, rfl, hworld⟩

end Ws

def Runtime.scriptedDeps (rt : Runtime) : Deps ScriptedService where
  json := rt.json
  trackers := [ScriptedService.tracker]
  randomUUID := rt.randomUUID

namespace Replica

def scripted (rt : Runtime) : System (Observed ScriptedService) (Move ⊕ TopicAnswer) :=
  Observed.inWorld rt.scriptedDeps ScriptedService.step .start

def answers (reasons : Nat → Thrown) (as : List (Move ⊕ TopicEvent)) :
    List (Move ⊕ TopicAnswer) :=
  as.mapIdx fun i => Sum.map id (TopicEvent.answer (reasons i))

theorem event_answers (reasons : Nat → Thrown) (as : List (Move ⊕ TopicEvent)) :
    (answers reasons as).map (Sum.map id TopicAnswer.event) = as := by
  have hsame : ∀ i, (Sum.map id TopicAnswer.event ∘ Sum.map id (TopicEvent.answer (reasons i)) :
      Move ⊕ TopicEvent → Move ⊕ TopicEvent) = id := by
    intro i
    funext a
    cases a <;> simp
  apply List.ext_getElem?
  intro i
  rw [answers, List.getElem?_map, List.getElem?_mapIdx, Option.map_map, hsame, Option.map_id]
  rfl

theorem announce_related (rt : Runtime) (event : SessionLifecycleEvent) (notice : Notice)
    (v : ScriptedService) (w : UserTopicService) (h : Simulates v w) :
    Simulates (announce rt.scriptedDeps event notice v)
      (announce rt.topicDeps event notice w) := by
  cases notice with
  | connect now => exact h.handleConnect event
  | disconnect => exact h.handleDisconnect event

theorem scripted_run (rt : Runtime) (as : List (Move ⊕ TopicAnswer)) :
    Observed.Related Simulates ((scripted rt).run as)
      ((Observed.inWorld rt.topicDeps UserTopicService.step .start).run
        (as.map (Sum.map id TopicAnswer.event))) := by
  induction as using List.reverseRecOn with
  | nil => exact ⟨rfl, rfl, .start⟩
  | append_singleton as a ih =>
    rw [List.map_append, List.map_singleton, System.run_concat, System.run_concat]
    cases a with
    | inl m => exact ih.move rt.scriptedDeps rt.topicDeps rfl (announce_related rt) m
    | inr e => exact ⟨ih.registry, ih.log, ih.world.step e⟩

def programs (rt : Runtime) (reasons : Nat → Thrown) (es : List ReplicaEvent) :
    Observed ScriptedService :=
  (scripted rt).run (answers reasons ((topicRefinement rt).trace es))

theorem related_run (rt : Runtime) (reasons : Nat → Thrown) (es : List ReplicaEvent) :
    Observed.Related Simulates (programs rt reasons es) (topicView ((system rt).run es)) := by
  have hrun := scripted_run rt (answers reasons ((topicRefinement rt).trace es))
  rw [event_answers, ← (topicRefinement rt).abs_run] at hrun
  exact hrun

/-- Counting the attempts of an operation says where its program is: whatever the process does,
and for whatever reasons calls are rejected, the programs and the counters agree. -/
theorem operations_run_withTopicOp (rt : Runtime) (reasons : Nat → Thrown)
    (es : List ReplicaEvent) :
    Observed.Related Simulates ((scripted rt).run (answers reasons ((topicRefinement rt).trace es)))
      (topicView ((system rt).run es)) :=
  related_run rt reasons es

example : ((scripted sample).run (answers (fun i => .ofMessage s!"reason {i}")
    (.inl (.register "u" "a" 0 (.fin 3600000) 0) :: [.reject 0, .wake 0, .reject 0, .wake 0,
      .reject 0, .wake 0, .reject 0, .wake 0, .reject 0].map .inr))).world.warnings =
    ["Failed to subscribe user:u: reason 9; will retry on the next connect"] := by
  decide +kernel

def SleepsFor (ms : Nat) (p : Suspended) : Prop := ∃ k, p.rest = .ask (.sleep ms) k

/-- Every lifecycle event costs at most five calls on the subscriber connection, and its
operation is over after at most nine settlements and wake-ups, in whatever order they come; it
sleeps 50, 100, 200 and 400 milliseconds. -/
theorem topic_operations_bounded (rt : Runtime) (reasons : Nat → Thrown)
    (es : List ReplicaEvent) :
    let s := (system rt).run es
    let events := (lifecycleLog s.trace).length
    (∀ k, (system rt).sumFrom (calls rt k) start es ≤ if k < events then 5 else 0) ∧
      (∀ k, (system rt).sumFrom (settles k) start es ≤ if k < events then 9 else 0) ∧
      (∀ task ∈ s.world.topics.pending, ∃ e, settles task.started s (.topic e) = 1) ∧
      (s.world.topics.unsettled.map (·.started)).Nodup ∧
      (∀ task ∈ s.world.topics.unsettled, task.started < events) ∧
      s.world.topics.Paced ∧
      List.Forall₂ (fun p task => p.started = task.started ∧
          SleepsFor (min (50 * 2 ^ (task.attempt - 1)) 500) p)
        (programs rt reasons es).world.sleeping s.world.topics.sleeping := by
  intro s events
  have hb : s.world.topics.Bounded := bounded_run rt es
  have hheard : s.world.topics.heard = events := (dated_run rt es).heard
  refine ⟨fun k => sumFrom_le rfl (fun s hv h e => paid_calls hv h e) es,
    fun k => sumFrom_le rfl (fun s hv h e => paid_settles hv h e) es, fun task htask => ?_,
    hb.distinct, fun task htask => hheard ▸ hb.started task htask, hb.paced, ?_⟩
  · obtain ⟨e, he⟩ := UserTopicService.exists_target htask
    refine ⟨e, ?_⟩
    rw [settles, UserTopicService.settled_of_target he, UserTopicService.share, if_pos rfl]
  · refine (related_run rt reasons es).world.sleeping.imp fun p task hp => ?_
    obtain ⟨err, hrest⟩ := hp.rest
    exact ⟨hp.started, _, hrest⟩

end Replica

end NestBackend
