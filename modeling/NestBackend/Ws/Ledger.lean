import NestBackend.Ws.RegistryLaws
import NestBackend.Ws.Service

/-! `WsService` as its trackers see it: sessions are registered and released, one at a
time, and each change is told to every tracker.  `WsService` refines this machine. -/

namespace NestBackend.Ws

open NestBackend.Js
open NestBackend.Lib

variable {τ : Type}

structure LifecycleCall where
  phase : Phase
  event : SessionLifecycleEvent
  deriving DecidableEq

def Effect.lifecycleCall : Effect → Option LifecycleCall
  | .fanOut phase event => some ⟨phase, event⟩
  | _ => none

def lifecycleLog (trace : List Effect) : List LifecycleCall :=
  trace.filterMap Effect.lifecycleCall

def Effect.callTo (tracker : Nat) : Effect → Option LifecycleCall
  | .notify i phase event => if i = tracker then some ⟨phase, event⟩ else none
  | _ => none

/-- The log as the tracker with this index was called. -/
def callsTo (tracker : Nat) (trace : List Effect) : List LifecycleCall :=
  trace.filterMap (Effect.callTo tracker)

inductive Move where
  | register (userId : UserId) (clientId : ClientId) (socket : Socket) (expiresAt : Number)
      (now : ℚ)
  | release (ref : Nat)

structure Observed (τ : Type) where
  registry : Registry
  log : List LifecycleCall
  world : τ

def announce (deps : Deps τ) (event : SessionLifecycleEvent) (notice : Notice) (world : τ) : τ :=
  deps.trackers.foldl (fun w tracker => (WsService.notifyTracker tracker event notice w).1) world

namespace Observed

def tell (deps : Deps τ) (session : Session) (notice : Notice) (r : Registry)
    (o : Observed τ) : Observed τ :=
  let event := WsService.lifecycleEvent r session
  ⟨r, o.log ++ [⟨notice.phase, event⟩], announce deps event notice o.world⟩

theorem length_log_tell (deps : Deps τ) (session : Session) (notice : Notice) (r : Registry)
    (o : Observed τ) : (o.tell deps session notice r).log.length = o.log.length + 1 := by
  simp [tell]

def newSession (deps : Deps τ) (r : Registry) (userId : UserId) (clientId : ClientId)
    (socket : Socket) (expiresAt : Number) : Session where
  ref := r.built.length
  userId := userId
  clientId := clientId
  socket := socket
  presenceToken := deps.randomUUID r.built.length
  expiresAt := expiresAt

def move (deps : Deps τ) (o : Observed τ) : Move → Observed τ
  | .register userId clientId socket expiresAt now =>
    if (o.registry.getSession clientId).isSome then o
    else
      let session := newSession deps o.registry userId clientId socket expiresAt
      o.tell deps session (.connect now) (o.registry.enroll session)
  | .release ref =>
    match o.registry.built[ref]? with
    | some session =>
      if o.registry.holds session then
        o.tell deps session .disconnect (o.registry.drop session)
      else o
    | none => o

def system (deps : Deps τ) (world : τ) : System (Observed τ) Move where
  init := ⟨.empty, [], world⟩
  step := move deps

def inWorld {ε : Type} (deps : Deps τ) (act : τ → ε → τ) (world : τ) :
    System (Observed τ) (Move ⊕ ε) where
  init := ⟨.empty, [], world⟩
  step o
    | .inl m => o.move deps m
    | .inr e => { o with world := act o.world e }

def map {υ : Type} (part : τ → υ) (o : Observed τ) : Observed υ :=
  ⟨o.registry, o.log, part o.world⟩

theorem map_move {υ : Type} (deps : Deps τ) (deps' : Deps υ) {part : τ → υ}
    (htokens : deps'.randomUUID = deps.randomUUID)
    (hpart : ∀ event notice w,
      part (announce deps event notice w) = announce deps' event notice (part w))
    (o : Observed τ) (m : Move) : (o.move deps m).map part = (o.map part).move deps' m := by
  cases m with
  | register u c socket expiresAt now =>
    have hsession : newSession deps' (o.map part).registry u c socket expiresAt =
        newSession deps o.registry u c socket expiresAt := by
      simp only [newSession, htokens, map]
    rw [move, move, hsession]
    change map part (if _ then _ else _) = if (o.registry.getSession c).isSome then _ else _
    split
    · rfl
    · simp only [tell, map, hpart]
  | release ref =>
    rw [move, move]
    change map part (match o.registry.built[ref]? with | some _ => _ | none => _) =
      match o.registry.built[ref]? with | some _ => _ | none => _
    cases o.registry.built[ref]? with
    | none => rfl
    | some x =>
      change map part (if _ then _ else _) = if o.registry.holds x then _ else _
      split
      · simp only [tell, map, hpart]
      · rfl

theorem map_foldl_move {υ : Type} (deps : Deps τ) (deps' : Deps υ) {part : τ → υ}
    (htokens : deps'.randomUUID = deps.randomUUID)
    (hpart : ∀ event notice w,
      part (announce deps event notice w) = announce deps' event notice (part w))
    (ms : List Move) (o : Observed τ) :
    (ms.foldl (move deps) o).map part = ms.foldl (move deps') (o.map part) := by
  induction ms generalizing o with
  | nil => rfl
  | cons m ms ih => rw [List.foldl_cons, List.foldl_cons, ih, map_move deps deps' htokens hpart]

theorem runFrom_inl {ε : Type} (deps : Deps τ) (act : τ → ε → τ) (world : τ) (o : Observed τ)
    (ms : List Move) :
    (inWorld deps act world).runFrom o (ms.map .inl) = ms.foldl (move deps) o := by
  induction ms generalizing o with
  | nil => rfl
  | cons m ms ih => exact ih _

end Observed

def WsEvent.quiet : WsEvent → Bool
  | .connect .. | .close .. | .timer .. | .destroy => false
  | _ => true

namespace WsService

def observed (s : WsService τ) : Observed τ := ⟨s.registry, lifecycleLog s.trace, s.world⟩

def expired (expiresAt : Number) (now : ℚ) : Bool := (expiresAt.sub (.fin now)).le (.fin 0)

def connectMoves (s : WsService τ) (params : ConnectionParams) (now now' : ℚ) : List Move :=
  match params.userId, params.clientId with
  | some userId, some clientId =>
    if (s.registry.getSession clientId).isSome then []
    else
      .register userId clientId params.socket params.expiresAt now ::
        if expired params.expiresAt now' then [.release s.registry.built.length] else []
  | _, _ => []

def moves (s : WsService τ) : WsEvent → List Move
  | .connect params now now' => connectMoves s params now now'
  | .close ref => [.release ref]
  | .timer id now now' =>
    match s.timers.pending.find? (·.id == id) with
    | some timer =>
      match s.registry.built[timer.ref]? with
      | some session =>
        if Number.lt (.fin 0) (session.expiresAt.sub (.fin now)) && !expired session.expiresAt now'
        then [] else [.release timer.ref]
      | none => []
    | none => []
  | _ => []

theorem lifecycleLog_append (t u : List Effect) :
    lifecycleLog (t ++ u) = lifecycleLog t ++ lifecycleLog u := List.filterMap_append

theorem notifyTrackers_fst (event : SessionLifecycleEvent) (notice : Notice) (i : Nat)
    (trackers : List (SessionTracker τ)) (s : WsService τ) :
    (notifyTrackers event notice i trackers s).1 = { s with
      world := trackers.foldl (fun w t => (notifyTracker t event notice w).1) s.world
      trace := s.trace ++
        (List.range' i trackers.length).map fun j => .notify j notice.phase event } := by
  induction trackers generalizing i s with
  | nil => simp [notifyTrackers]
  | cons tracker trackers ih => simp [notifyTrackers, ih, List.range'_succ]

theorem fanOut_eq (deps : Deps τ) (session : Session) (notice : Notice) (s : WsService τ) :
    ∃ fanOuts, fanOut deps session notice s = { s with
      fanOuts := fanOuts
      world := announce deps (lifecycleEvent s.registry session) notice s.world
      trace := s.trace ++ .fanOut notice.phase (lifecycleEvent s.registry session) ::
        (List.range' 0 deps.trackers.length).map fun j =>
          .notify j notice.phase (lifecycleEvent s.registry session) } := by
  refine ⟨(fanOut deps session notice s).fanOuts, ?_⟩
  simp [fanOut, notifyTrackers_fst, emit, announce]

@[simp] theorem fanOut_registry (deps : Deps τ) (session : Session) (notice : Notice)
    (s : WsService τ) : (fanOut deps session notice s).registry = s.registry := by
  obtain ⟨fanOuts, h⟩ := fanOut_eq deps session notice s
  rw [h]

theorem lifecycleLog_notify (phase : Phase) (event : SessionLifecycleEvent) (js : List Nat) :
    lifecycleLog (js.map fun j => .notify j phase event) = [] := by
  induction js with
  | nil => rfl
  | cons j js ih => exact ih

structure Quiet (s t : WsService τ) : Prop where
  registry : t.registry = s.registry
  timers : t.timers = s.timers
  world : t.world = s.world
  log : lifecycleLog t.trace = lifecycleLog s.trace
  calls : ∀ i, callsTo i t.trace = callsTo i s.trace

theorem Quiet.refl (s : WsService τ) : Quiet s s := ⟨rfl, rfl, rfl, rfl, fun _ => rfl⟩

theorem Quiet.trans {s t u : WsService τ} (h : Quiet s t) (h' : Quiet t u) : Quiet s u :=
  ⟨h'.registry.trans h.registry, h'.timers.trans h.timers, h'.world.trans h.world,
    h'.log.trans h.log, fun i => (h'.calls i).trans (h.calls i)⟩

theorem Quiet.observed {s t : WsService τ} (h : Quiet s t) : t.observed = s.observed := by
  simp only [WsService.observed, h.registry, h.log, h.world]

theorem quiet_emit {s : WsService τ} {effect : Effect} (h : effect.lifecycleCall = none)
    (h' : ∀ i, effect.callTo i = none) : Quiet s (s.emit effect) :=
  ⟨rfl, rfl, rfl, by simp [emit, lifecycleLog, h], by simp [emit, callsTo, h']⟩

theorem quiet_socketOn (socket : Socket) (s : WsService τ) :
    Quiet s (((s.emit (.socketOn socket .message)).emit (.socketOn socket .error)).emit
      (.socketOn socket .close)) :=
  ((quiet_emit rfl fun _ => rfl).trans (quiet_emit rfl fun _ => rfl)).trans
    (quiet_emit rfl fun _ => rfl)

theorem observed_fanOut (deps : Deps τ) (session : Session) (notice : Notice)
    (s : WsService τ) :
    (fanOut deps session notice s).observed = s.observed.tell deps session notice s.registry := by
  obtain ⟨fanOuts, h⟩ := fanOut_eq deps session notice s
  rw [h]
  simp [observed, Observed.tell, lifecycleLog, Effect.lifecycleCall]

theorem observed_release {deps : Deps τ} {session : Session} {ref : Nat} {s : WsService τ}
    (h : s.registry.built[ref]? = some session) :
    (release deps session s).1.observed = s.observed.move deps (.release ref) := by
  have hb : s.observed.registry.built[ref]? = some session := h
  cases hh : s.registry.holds session with
  | false =>
    have hh' : s.observed.registry.holds session = false := hh
    simp [release, hh, Observed.move, hb, hh']
  | true =>
    have hh' : s.observed.registry.holds session = true := hh
    simp only [release, hh, Bool.not_true, Bool.false_eq_true, if_false, observed_fanOut,
      Observed.move, hb, hh', if_true]
    rfl

theorem observed_handleExpiry {deps : Deps τ} {session : Session} {ref : Nat} {s : WsService τ}
    (h : s.registry.built[ref]? = some session) :
    (handleExpiry deps session s).observed = s.observed.move deps (.release ref) := by
  rw [← observed_release h, handleExpiry]
  split
  · next s' hr => rw [hr]
  · next s' hr => rw [hr]; exact (quiet_emit rfl fun _ => rfl).observed

theorem observed_scheduleExpiry {deps : Deps τ} {session : Session} {ref : Nat}
    {s : WsService τ} {now : ℚ} (h : s.registry.built[ref]? = some session) :
    (scheduleExpiry deps session now s).observed =
      if expired session.expiresAt now then s.observed.move deps (.release ref)
      else s.observed := by
  unfold scheduleExpiry expired
  dsimp only
  split
  · exact observed_handleExpiry h
  · rfl

theorem quiet_sendToClient (J : JsonText) (io : Sockets) (c : ClientId) (m : Value)
    (s : WsService τ) : Quiet s (sendToClient J io c m s).1 := by
  unfold sendToClient
  split
  · exact .refl s
  · split
    · exact .refl s
    · split
      · exact .refl s
      · exact .refl s
      · exact quiet_emit rfl fun _ => rfl

theorem quiet_sendToMembers (J : JsonText) (io : Sockets) (m : Value)
    (exclude : Option ClientId) (members : List ClientId) (s : WsService τ) :
    Quiet s (sendToMembers J io m exclude members s).1 := by
  induction members generalizing s with
  | nil => exact .refl s
  | cons c members ih =>
    rw [sendToMembers]
    split
    · exact ih s
    · exact (quiet_sendToClient J io c m s).trans (ih _)

theorem quiet_sendToLocalUser (J : JsonText) (io : Sockets) (u : UserId) (m : Value)
    (exclude : Option ClientId) (s : WsService τ) :
    Quiet s (sendToLocalUser J io u m exclude s).1 := by
  unfold sendToLocalUser
  split
  · exact .refl s
  · exact quiet_sendToMembers J io m exclude _ s

theorem quiet_sendToUser (J : JsonText) (u : UserId) (m : Value)
    (exclude : Option ClientId) (author : Option Session) (s : WsService τ) :
    Quiet s (sendToUser J u m exclude author s).1 := by
  unfold sendToUser
  dsimp only
  split
  · exact ⟨rfl, rfl, rfl, by simp [lifecycleLog, Effect.lifecycleCall],
      by simp [callsTo, Effect.callTo]⟩
  · exact .refl s

theorem quiet_handleMessage (J : JsonText) (io : Sockets) (session : Session)
    (data : RawData) (s : WsService τ) : Quiet s (handleMessage J io session data s) := by
  unfold handleMessage
  split
  · exact .refl s
  · exact quiet_sendToClient J io _ _ s
  · next target message _ =>
    have hsend := quiet_sendToUser J target (.ofJson message) (some session.clientId)
      (some session) s
    split
    · exact quiet_sendToClient J io _ _ s
    · split
      · next s' h => rwa [h] at hsend
      · next s' _ h =>
        rw [h] at hsend
        exact hsend.trans (quiet_sendToClient J io _ _ s')

theorem quiet_settlePublish (J : JsonText) (io : Sockets) (i : Nat) (resolved : Bool)
    (s : WsService τ) : Quiet s (settlePublish J io i resolved s) := by
  unfold settlePublish
  split
  · exact .refl s
  · have htaken : Quiet s { s with publishes := s.publishes.eraseIdx i } :=
      ⟨rfl, rfl, rfl, rfl, fun _ => rfl⟩
    dsimp only
    split
    · split
      · exact htaken
      · exact htaken.trans (quiet_sendToClient J io _ _ _)
    · exact htaken

theorem eq_of_mem_warnings {phase : Phase} {index : Nat} {settled : List Settlement}
    {effect : Effect} (h : effect ∈ warnings phase index settled) :
    ∃ tracker detail, effect = .trackerFailed tracker phase detail := by
  induction settled generalizing index with
  | nil => cases h
  | cons settlement rest ih =>
    cases settlement with
    | fulfilled => exact ih h
    | never => exact ih h
    | rejected detail =>
      rcases List.mem_cons.mp h with rfl | h
      · exact ⟨index, detail, rfl⟩
      · exact ih h

theorem lifecycleLog_warnings (phase : Phase) (index : Nat) (settled : List Settlement) :
    lifecycleLog (warnings phase index settled) = [] := by
  refine List.filterMap_eq_nil_iff.mpr fun effect h => ?_
  obtain ⟨tracker, detail, rfl⟩ := eq_of_mem_warnings h
  rfl

theorem callsTo_append (i : Nat) (t u : List Effect) :
    callsTo i (t ++ u) = callsTo i t ++ callsTo i u := List.filterMap_append

theorem callsTo_warnings (i : Nat) (phase : Phase) (index : Nat) (settled : List Settlement) :
    callsTo i (warnings phase index settled) = [] := by
  refine List.filterMap_eq_nil_iff.mpr fun effect h => ?_
  obtain ⟨tracker, detail, rfl⟩ := eq_of_mem_warnings h
  rfl

theorem quiet_settleFanOut (i : Nat) (s : WsService τ) : Quiet s (settleFanOut i s) := by
  unfold settleFanOut
  split
  · exact .refl s
  · split
    · exact .refl s
    · exact ⟨rfl, rfl, rfl, by simp [lifecycleLog_append, lifecycleLog_warnings],
        by simp [callsTo_append, callsTo_warnings]⟩

theorem observed_handleExpiryTimer {deps : Deps τ} {session : Session} {ref : Nat}
    {s : WsService τ} {now now' : ℚ} (h : s.registry.built[ref]? = some session) :
    (handleExpiryTimer deps session now now' s).observed =
      if Number.lt (.fin 0) (session.expiresAt.sub (.fin now)) && !expired session.expiresAt now'
      then s.observed else s.observed.move deps (.release ref) := by
  unfold handleExpiryTimer
  split
  · next hlt =>
    rw [observed_scheduleExpiry h]
    cases expired session.expiresAt now' <;> simp [hlt]
  · next hlt =>
    rw [observed_handleExpiry h]
    simp [hlt]

theorem observed_handleConnection {deps : Deps τ} {params : ConnectionParams} {now now' : ℚ}
    {s : WsService τ} :
    (handleConnection deps params now now' s).1.observed =
      (connectMoves s params now now').foldl (Observed.move deps) s.observed := by
  unfold handleConnection connectMoves
  cases params.userId with
  | none => exact (quiet_emit rfl fun _ => rfl).observed
  | some u =>
    cases params.clientId with
    | none => exact (quiet_emit rfl fun _ => rfl).observed
    | some c =>
      dsimp only
      split
      · exact (quiet_emit rfl fun _ => rfl).observed
      · next hno =>
        set session := Observed.newSession deps s.registry u c params.socket params.expiresAt
        set t := fanOut deps session (.connect now) { s with registry := s.registry.enroll session }
          with ht
        have hregistry : t.registry = s.registry.enroll session := fanOut_registry _ _ _ _
        have hbuilt : t.registry.built[s.registry.built.length]? = some session := by
          simp [hregistry]
        have hmove : t.observed =
            s.observed.move deps (.register u c params.socket params.expiresAt now) := by
          have hno' : ¬ (s.observed.registry.getSession c).isSome = true := hno
          rw [ht, observed_fanOut, Observed.move, if_neg hno']
          rfl
        have hlisten := quiet_socketOn params.socket t
        rw [← hlisten.registry] at hbuilt
        rw [← hlisten.observed] at hmove
        have hexpiry : (scheduleExpiry deps session now' _).observed = _ :=
          observed_scheduleExpiry hbuilt
        rw [hmove] at hexpiry
        refine hexpiry.trans ?_
        change (if expired params.expiresAt now' then _ else _) = _
        split <;> rfl

theorem quiet_step (deps : Deps τ) (s : WsService τ) {e : WsEvent} (h : e.quiet = true) :
    Quiet s (step deps s e) := by
  cases e with
  | connect | close | timer | destroy => cases h
  | error ref => exact .refl s
  | message ref data io =>
    rw [step]
    split
    · exact quiet_handleMessage _ _ _ _ _
    · exact .refl s
  | publishSettled i resolved io => exact quiet_settlePublish _ _ _ _ _
  | trackersSettled i => exact quiet_settleFanOut _ _
  | sendToClient c m io => exact quiet_sendToClient _ _ _ _ _
  | sendToLocalUser u m exclude io => exact quiet_sendToLocalUser _ _ _ _ _ _
  | sendToUser u m exclude => exact quiet_sendToUser _ _ _ _ _ _

theorem observed_step (deps : Deps τ) (s : WsService τ) (e : WsEvent) :
    (step deps s e).observed = (moves s e).foldl (Observed.move deps) s.observed := by
  cases e with
  | connect params now now' => exact observed_handleConnection
  | close ref =>
    cases hb : s.registry.built[ref]? with
    | some session => simpa [step, moves, hb] using observed_release hb
    | none =>
      have hb' : s.observed.registry.built[ref]? = none := hb
      simp [step, moves, hb, Observed.move, hb']
  | timer id now now' =>
    cases hf : s.timers.pending.find? (·.id == id) with
    | none => simp [step, moves, hf]
    | some timer =>
      cases hb : s.registry.built[timer.ref]? with
      | none => simp [step, moves, hf, hb]
      | some session =>
        simp only [step, moves, hf, hb]
        rw [observed_handleExpiryTimer (s := { s with timers := s.timers.take id }) hb]
        split <;> rfl
  | destroy => rfl
  | error | message | publishSettled | trackersSettled | sendToClient | sendToLocalUser
  | sendToUser => exact (quiet_step deps s rfl).observed

/-- What the trackers are told, and what they make of it, is decided by the moves. -/
def refinement (deps : Deps τ) (world : τ) :
    System.Refinement (system deps world) (Observed.system deps world) where
  abs := observed
  events := moves
  abs_init := rfl
  abs_step := observed_step deps

end WsService

end NestBackend.Ws
