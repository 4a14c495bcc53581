import NestBackend.Ws.Frames
import NestBackend.Ws.Lifecycle

namespace NestBackend.Ws

open NestBackend.Js
open NestBackend.Lib

variable {τ : Type}

def Effect.onSocket : Effect → Bool
  | .socketOn .. | .socketClose .. | .socketTerminate .. | .socketSend .. => true
  | _ => false

def socketLog (trace : List Effect) : List Effect := trace.filter (·.onSocket)

theorem socketLog_append (t u : List Effect) : socketLog (t ++ u) = socketLog t ++ socketLog u :=
  List.filter_append ..

def listeners (socket : Socket) : List Effect :=
  [.socketOn socket .message, .socketOn socket .error, .socketOn socket .close]

structure Outline where
  registry : Registry
  timers : Timers
  sockets : List Effect

namespace Outline

def act (o : Outline) (effects : List Effect) : Outline :=
  { o with sockets := o.sockets ++ effects }

@[simp] theorem act_sockets (o : Outline) (effects : List Effect) :
    (o.act effects).sockets = o.sockets ++ effects := rfl

theorem act_act (o : Outline) (effects effects' : List Effect) :
    (o.act effects).act effects' = o.act (effects ++ effects') := by simp [act]

def release (o : Outline) (x : Session) : Outline :=
  { o with registry := o.registry.drop x, timers := o.timers.clearExpiryTimer x }

def enter (o : Outline) (x : Session) : Outline :=
  { o with
    registry := o.registry.enroll x
    sockets := o.sockets ++ listeners x.socket }

def arm (o : Outline) (x : Session) (now : ℚ) : Outline :=
  { o with timers := o.timers.setExpiryTimer x (x.expiresAt.sub (.fin now)) }

def take (o : Outline) (id : Nat) : Outline := { o with timers := o.timers.take id }

end Outline

namespace Registry

def refusal (r : Registry) (params : ConnectionParams) : Option String :=
  match params.userId, params.clientId with
  | some _, some clientId =>
    if (r.getSession clientId).isSome then some "duplicate clientId" else none
  | _, _ => some "missing userId/clientId"

end Registry

def Session.params (x : Session) : ConnectionParams :=
  ⟨x.socket, some x.userId, some x.clientId, x.expiresAt⟩

structure Fresh (deps : Deps τ) (r : Registry) (x : Session) : Prop where
  unused : r.sessions.lookup x.clientId = none
  ref : x.ref = r.built.length
  token : x.presenceToken = deps.randomUUID x.ref

theorem Fresh.eq {deps : Deps τ} {r : Registry} {x y : Session} (hx : Fresh deps r x)
    (hy : Fresh deps r y) (h : x.params = y.params) : x = y := by
  have href := hx.ref.trans hy.ref.symm
  have htoken := hx.token.trans ((congrArg deps.randomUUID href).trans hy.token.symm)
  cases x
  cases y
  simp_all [Session.params]

theorem Fresh.refusal {deps : Deps τ} {r : Registry} {x : Session} (hx : Fresh deps r x) :
    r.refusal x.params = none := by
  simp [Registry.refusal, Session.params, Registry.getSession, hx.unused]

theorem exists_fresh (deps : Deps τ) {r : Registry} {params : ConnectionParams}
    (h : r.refusal params = none) : ∃ x, Fresh deps r x ∧ x.params = params := by
  obtain ⟨socket, userId, clientId, expiresAt⟩ := params
  cases userId with
  | none => cases h
  | some u =>
    cases clientId with
    | none => cases h
    | some c =>
      have hunused : r.sessions.lookup c = none := by
        rw [← Option.not_isSome_iff_eq_none]
        intro hused
        simp only [Registry.refusal] at h
        rw [Registry.getSession, if_pos hused] at h
        cases h
      exact ⟨⟨r.built.length, u, c, socket, deps.randomUUID r.built.length, expiresAt⟩,
        ⟨hunused, rfl, rfl⟩, rfl⟩

def ranOut (x : Session) (now now' : ℚ) : Bool :=
  !Number.lt (.fin 0) (x.expiresAt.sub (.fin now)) || WsService.expired x.expiresAt now'

inductive Turn (deps : Deps τ) (o : Outline) : WsEvent → Outline → Prop
  | quiet {e : WsEvent} (he : e.quiet = true) (frames : List SentFrame) :
      Turn deps o e (o.act (frames.map SentFrame.effect))
  | refused {params : ConnectionParams} (now now' : ℚ) {reason : String}
      (h : o.registry.refusal params = some reason) :
      Turn deps o (.connect params now now')
        (o.act [.socketClose params.socket WS_CLOSE_POLICY_VIOLATION reason])
  | admitted (x : Session) (now : ℚ) {now' : ℚ} (hx : Fresh deps o.registry x)
      (hlive : WsService.expired x.expiresAt now' = false) :
      Turn deps o (.connect x.params now now') ((o.enter x).arm x now')
  | lapsed (x : Session) (now : ℚ) {now' : ℚ} (hx : Fresh deps o.registry x)
      (hdue : WsService.expired x.expiresAt now' = true) :
      Turn deps o (.connect x.params now now')
        (((o.enter x).release x).act [.socketTerminate x.socket])
  | closed (x : Session) (hheld : o.registry.sessions.lookup x.clientId = some x) :
      Turn deps o (.close x.ref) (o.release x)
  | closedLate {ref : Nat}
      (hstale : ∀ x ∈ o.registry.built[ref]?, o.registry.sessions.lookup x.clientId ≠ some x) :
      Turn deps o (.close ref) o
  | unarmed {id : Nat} (now now' : ℚ)
      (h : ∀ timer ∈ o.timers.pending.find? (·.id == id), o.registry.built[timer.ref]? = none) :
      Turn deps o (.timer id now now') o
  | rearmed {timer : Timer} {x : Session} {now now' : ℚ} {id : Nat}
      (hfind : o.timers.pending.find? (·.id == id) = some timer)
      (hbuilt : o.registry.built[timer.ref]? = some x) (hlive : ranOut x now now' = false) :
      Turn deps o (.timer id now now') ((o.take id).arm x now')
  | ended {timer : Timer} {x : Session} {now now' : ℚ} {id : Nat}
      (hfind : o.timers.pending.find? (·.id == id) = some timer)
      (hbuilt : o.registry.built[timer.ref]? = some x) (hdue : ranOut x now now' = true)
      (hheld : o.registry.sessions.lookup x.clientId = some x) :
      Turn deps o (.timer id now now')
        (((o.take id).release x).act [.socketTerminate x.socket])
  | endedLate {timer : Timer} {x : Session} {now now' : ℚ} {id : Nat}
      (hfind : o.timers.pending.find? (·.id == id) = some timer)
      (hbuilt : o.registry.built[timer.ref]? = some x) (hdue : ranOut x now now' = true)
      (hstale : o.registry.sessions.lookup x.clientId ≠ some x) :
      Turn deps o (.timer id now now') (o.take id)
  | destroyed :
      Turn deps o .destroy { o with
        timers := o.registry.registered.foldl Timers.clearExpiryTimer o.timers }

theorem Turn.connected {deps : Deps τ} {o o' : Outline} {x : Session} {now now' : ℚ}
    (hx : Fresh deps o.registry x) (ht : Turn deps o (.connect x.params now now') o') :
    o' = if WsService.expired x.expiresAt now' then
        ((o.enter x).release x).act [.socketTerminate x.socket]
      else (o.enter x).arm x now' := by
  generalize hparams : x.params = params at ht
  cases ht with
  | quiet he => cases he
  | refused now now' h =>
    rw [← hparams, hx.refusal] at h
    cases h
  | admitted y now hy hlive =>
    obtain rfl := hx.eq hy hparams
    rw [if_neg (by simp [hlive])]
  | lapsed y now hy hdue =>
    obtain rfl := hx.eq hy hparams
    rw [if_pos hdue]

namespace WsService

def outline (s : WsService τ) : Outline := ⟨s.registry, s.timers, socketLog s.trace⟩

theorem outline_emit {s : WsService τ} {effect : Effect} (h : effect.onSocket = true) :
    (s.emit effect).outline = s.outline.act [effect] := by
  simp [outline, emit, Outline.act, socketLog, h]

theorem outline_listen (socket : Socket) (s : WsService τ) :
    (((s.emit (.socketOn socket .message)).emit (.socketOn socket .error)).emit
      (.socketOn socket .close)).outline = s.outline.act (listeners socket) := by
  rw [outline_emit rfl, outline_emit rfl, outline_emit rfl, Outline.act_act, Outline.act_act]
  rfl

theorem socketLog_notify (phase : Phase) (event : SessionLifecycleEvent) (js : List Nat) :
    socketLog (js.map fun j => .notify j phase event) = [] := by
  induction js with
  | nil => rfl
  | cons j js ih => exact ih

theorem outline_fanOut (deps : Deps τ) (session : Session) (notice : Notice) (s : WsService τ) :
    (fanOut deps session notice s).outline = s.outline := by
  obtain ⟨fanOuts, h⟩ := fanOut_eq deps session notice s
  rw [h, outline]
  dsimp only
  rw [← List.singleton_append, socketLog_append, socketLog_append, socketLog_notify]
  simp [outline, socketLog, Effect.onSocket]

theorem outline_release {deps : Deps τ} {x : Session} {s : WsService τ}
    (h : s.registry.holds x = true) :
    (release deps x s).1.outline = s.outline.release x ∧ (release deps x s).2 = true := by
  simp only [release, h, Bool.not_true, Bool.false_eq_true, if_false, outline_fanOut, and_true]
  rfl

theorem release_of_not_holds {deps : Deps τ} {x : Session} {s : WsService τ}
    (h : s.registry.holds x = false) : release deps x s = (s, false) := by
  simp [release, h]

theorem outline_handleExpiry {deps : Deps τ} {x : Session} {s : WsService τ}
    (h : s.registry.holds x = true) : (handleExpiry deps x s).outline =
      (s.outline.release x).act [.socketTerminate x.socket] := by
  obtain ⟨houtline, hsent⟩ : (release deps x s).1.outline = s.outline.release x ∧
      (release deps x s).2 = true := outline_release h
  rw [handleExpiry]
  split
  · next t hr => simp [hr] at hsent
  · next t hr =>
    rw [hr] at houtline
    rw [outline_emit rfl, houtline]

theorem handleExpiry_of_not_holds {deps : Deps τ} {x : Session} {s : WsService τ}
    (h : s.registry.holds x = false) : handleExpiry deps x s = s := by
  rw [handleExpiry, release_of_not_holds h]

def OnlySends (s t : WsService τ) : Prop :=
  ∃ frames : List SentFrame, socketLog t.trace = socketLog s.trace ++ frames.map SentFrame.effect

namespace OnlySends

theorem refl (s : WsService τ) : OnlySends s s := ⟨[], by simp⟩

theorem trans {s t u : WsService τ} (h : OnlySends s t) (h' : OnlySends t u) : OnlySends s u := by
  obtain ⟨frames, ht⟩ := h
  obtain ⟨frames', hu⟩ := h'
  exact ⟨frames ++ frames', by rw [hu, ht, List.map_append, List.append_assoc]⟩

theorem of_silent {s t : WsService τ} {effects : List Effect}
    (ht : t.trace = s.trace ++ effects) (h : socketLog effects = []) : OnlySends s t :=
  ⟨[], by rw [ht, socketLog_append, h]; rfl⟩

theorem sendToClient (J : JsonText) (io : Sockets) (c : ClientId) (m : Value) (s : WsService τ) :
    OnlySends s (sendToClient J io c m s).1 := by
  unfold WsService.sendToClient
  split
  · exact refl s
  · next session _ =>
    split
    · exact refl s
    · split
      · exact refl s
      · exact refl s
      · next payload _ =>
        exact ⟨[session.frame payload], by simp [emit, socketLog, Effect.onSocket,
          Session.frame, SentFrame.effect]⟩

theorem sendToMembers (J : JsonText) (io : Sockets) (m : Value) (exclude : Option ClientId)
    (members : List ClientId) (s : WsService τ) :
    OnlySends s (sendToMembers J io m exclude members s).1 := by
  induction members generalizing s with
  | nil => exact refl s
  | cons c members ih =>
    rw [WsService.sendToMembers]
    split
    · exact ih s
    · exact (sendToClient J io c m s).trans (ih _)

theorem sendToLocalUser (J : JsonText) (io : Sockets) (u : UserId) (m : Value)
    (exclude : Option ClientId) (s : WsService τ) :
    OnlySends s (sendToLocalUser J io u m exclude s).1 := by
  unfold WsService.sendToLocalUser
  split
  · exact refl s
  · exact sendToMembers J io m exclude _ s

theorem sendToUser (J : JsonText) (u : UserId) (m : Value) (exclude : Option ClientId)
    (author : Option Session) (s : WsService τ) :
    OnlySends s (sendToUser J u m exclude author s).1 := by
  unfold WsService.sendToUser
  dsimp only
  split
  · exact of_silent rfl rfl
  · exact refl s

theorem handleMessage (J : JsonText) (io : Sockets) (session : Session) (data : RawData)
    (s : WsService τ) : OnlySends s (handleMessage J io session data s) := by
  unfold WsService.handleMessage
  split
  · exact refl s
  · exact sendToClient J io _ _ s
  · next target message _ =>
    have hsend := sendToUser J target (.ofJson message) (some session.clientId) (some session) s
    split
    · exact sendToClient J io _ _ s
    · split
      · next t h => rwa [h] at hsend
      · next t _ h =>
        rw [h] at hsend
        exact hsend.trans (sendToClient J io _ _ t)

theorem settlePublish (J : JsonText) (io : Sockets) (i : Nat) (resolved : Bool)
    (s : WsService τ) : OnlySends s (settlePublish J io i resolved s) := by
  unfold WsService.settlePublish
  split
  · exact refl s
  · have htaken : OnlySends s { s with publishes := s.publishes.eraseIdx i } := refl s
    dsimp only
    split
    · split
      · exact htaken
      · exact htaken.trans (sendToClient J io _ _ _)
    · exact htaken

theorem settleFanOut (i : Nat) (s : WsService τ) : OnlySends s (settleFanOut i s) := by
  have hwarnings : ∀ phase index (settled : List Settlement),
      socketLog (warnings phase index settled) = [] := by
    intro phase index settled
    refine List.filter_eq_nil_iff.mpr fun effect h => ?_
    obtain ⟨tracker, detail, rfl⟩ := eq_of_mem_warnings h
    exact Bool.false_ne_true
  unfold WsService.settleFanOut
  split
  · exact refl s
  · split
    · exact refl s
    · exact of_silent rfl (hwarnings _ _ _)

theorem step (deps : Deps τ) (s : WsService τ) {e : WsEvent} (h : e.quiet = true) :
    OnlySends s (step deps s e) := by
  cases e with
  | connect | close | timer | destroy => cases h
  | error ref => exact refl s
  | message ref data io =>
    rw [WsService.step]
    split
    · exact handleMessage _ _ _ _ _
    · exact refl s
  | publishSettled i resolved io => exact settlePublish _ _ _ _ _
  | trackersSettled i => exact settleFanOut _ _
  | sendToClient c m io => exact sendToClient _ _ _ _ _
  | sendToLocalUser u m exclude io => exact sendToLocalUser _ _ _ _ _ _
  | sendToUser u m exclude => exact sendToUser _ _ _ _ _ _

end OnlySends

theorem turn_quiet {deps : Deps τ} {s : WsService τ} {e : WsEvent} (h : e.quiet = true) :
    Turn deps s.outline e (step deps s e).outline := by
  have hq := quiet_step deps s h
  obtain ⟨frames, hframes⟩ := OnlySends.step deps s h
  have heq : (step deps s e).outline = s.outline.act (frames.map SentFrame.effect) := by
    simp only [outline, Outline.act, hq.registry, hq.timers, hframes]
  rw [heq]
  exact .quiet h frames

theorem turn_connect (deps : Deps τ) (s : WsService τ) (params : ConnectionParams)
    (now now' : ℚ) : Turn deps s.outline (.connect params now now')
      (handleConnection deps params now now' s).1.outline := by
  obtain ⟨socket, userId, clientId, expiresAt⟩ := params
  cases userId with
  | none =>
    simp only [handleConnection]
    rw [outline_emit rfl]
    exact .refused now now' rfl
  | some u =>
    cases clientId with
    | none =>
      simp only [handleConnection]
      rw [outline_emit rfl]
      exact .refused now now' rfl
    | some c =>
      by_cases hused : (s.registry.getSession c).isSome = true
      · simp only [handleConnection, hused, if_true]
        rw [outline_emit rfl]
        exact .refused now now' (by
          simp only [Registry.refusal]
          exact if_pos hused)
      · simp only [handleConnection, hused]
        set x : Session := ⟨s.registry.built.length, u, c, socket,
          deps.randomUUID s.registry.built.length, expiresAt⟩
        have hunused : s.registry.sessions.lookup x.clientId = none :=
          Option.not_isSome_iff_eq_none.mp hused
        have hfresh : Fresh deps s.outline.registry x := ⟨hunused, rfl, rfl⟩
        set t := (((fanOut deps x (.connect now) { s with registry := s.registry.enroll x }).emit
          (.socketOn socket .message)).emit (.socketOn socket .error)).emit
            (.socketOn socket .close) with ht
        have houtline : t.outline = s.outline.enter x := by
          rw [ht, outline_listen, outline_fanOut]
          rfl
        change Turn deps s.outline (.connect x.params now now')
          (scheduleExpiry deps x now' t).outline
        unfold scheduleExpiry
        dsimp only
        split
        · next hdue =>
          have hregistry : t.registry = s.registry.enroll x :=
            congrArg Outline.registry houtline
          have hholds : t.registry.holds x = true := by
            simp [hregistry, Registry.holds, Registry.lookup_enroll]
          rw [outline_handleExpiry hholds, houtline]
          exact .lapsed x now hfresh hdue
        · next hlive =>
          change Turn deps s.outline _ (t.outline.arm x now')
          rw [houtline]
          exact .admitted x now hfresh (by simpa [expired] using hlive)

theorem turn_close {deps : Deps τ} {s : WsService τ} (hv : s.registry.Valid) (ref : Nat) :
    Turn deps s.outline (.close ref) (step deps s (.close ref)).outline := by
  rw [step]
  cases hb : s.registry.built[ref]? with
  | none =>
    exact .closedLate (o := s.outline) (by simp [outline, hb])
  | some x =>
    obtain rfl := hv.ref hb
    cases hh : s.registry.holds x with
    | true =>
      dsimp only
      rw [(outline_release hh).1]
      exact .closed x ((hv.holds_iff hb).mp hh)
    | false =>
      dsimp only
      rw [release_of_not_holds hh]
      refine .closedLate fun y hy => ?_
      obtain rfl := Option.some.inj (hb.symm.trans hy)
      rw [← Bool.not_eq_true, hv.holds_iff hb] at hh
      exact hh

theorem turn_timer {deps : Deps τ} {s : WsService τ} (hv : s.registry.Valid) (id : Nat)
    (now now' : ℚ) : Turn deps s.outline (.timer id now now')
      (step deps s (.timer id now now')).outline := by
  cases hf : s.timers.pending.find? (·.id == id) with
  | none =>
    simp only [step, hf]
    refine .unarmed (o := s.outline) now now' fun timer htimer => ?_
    cases hf.symm.trans htimer
  | some timer =>
    cases hb : s.registry.built[timer.ref]? with
    | none =>
      simp only [step, hf, hb]
      refine .unarmed (o := s.outline) now now' fun timer' htimer => ?_
      obtain rfl := Option.some.inj (hf.symm.trans htimer)
      exact hb
    | some x =>
      simp only [step, hf, hb]
      set t : WsService τ := { s with timers := s.timers.take id }
      have houtline : t.outline = s.outline.take id := rfl
      have hdue : ranOut x now now' = true →
          Turn deps s.outline (.timer id now now') (handleExpiry deps x t).outline := by
        intro hran
        have hbx : s.registry.built[x.ref]? = some x := by rw [hv.ref hb]; exact hb
        cases hh : t.registry.holds x with
        | true =>
          rw [outline_handleExpiry hh, houtline]
          exact .ended (o := s.outline) hf hb hran ((hv.holds_iff hbx).mp hh)
        | false =>
          rw [handleExpiry_of_not_holds hh, houtline]
          refine .endedLate (o := s.outline) hf hb hran fun hl => ?_
          exact absurd ((hv.holds_iff hbx).mpr hl) (by simpa using hh)
      unfold handleExpiryTimer
      split
      · next hlt =>
        unfold scheduleExpiry
        dsimp only
        split
        · next hle => exact hdue (by simp [ranOut, expired, hle])
        · next hlive =>
          exact .rearmed (o := s.outline) hf hb (by simp [ranOut, expired, hlt, hlive])
      · next hlt => exact hdue (by simp [ranOut, hlt])

theorem turn_step (deps : Deps τ) {s : WsService τ} (hv : s.registry.Valid) (e : WsEvent) :
    Turn deps s.outline e (step deps s e).outline := by
  cases e with
  | connect params now now' => exact turn_connect deps s params now now'
  | close ref => exact turn_close hv ref
  | timer id now now' => exact turn_timer hv id now now'
  | destroy =>
    have heq : (step deps s .destroy).outline = { s.outline with
        timers := s.registry.registered.foldl Timers.clearExpiryTimer s.timers } := by
      simp [step, onModuleDestroy, outline, Registry.registered, List.foldl_map]
    rw [heq]
    exact .destroyed (o := s.outline)
  | error | message | publishSettled | trackersSettled | sendToClient | sendToLocalUser
  | sendToUser => exact turn_quiet rfl

end WsService

end NestBackend.Ws
