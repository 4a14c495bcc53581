import NestBackend.Ws.Inbound

namespace NestBackend.Ws

open NestBackend.Js
open NestBackend.Lib
open NestBackend.UserTopics

variable {τ : Type}

def SentFrame.ToOpen (r : Registry) (io : Sockets) (frame : SentFrame) : Prop :=
  ∃ x, r.sessions.lookup x.clientId = some x ∧ io.readyState x.socket = OPEN ∧
    frame = x.frame frame.payload

def Publish.entry (p : Publish) : String × String := (p.channel, p.envelope)

namespace WsService

def Delivers (io : Sockets) (s t : WsService τ) : Prop :=
  ∃ frames : List SentFrame, t = s.send frames ∧ ∀ frame ∈ frames, frame.ToOpen s.registry io

namespace Delivers

variable {io : Sockets} {s t u : WsService τ}

theorem refl (io : Sockets) (s : WsService τ) : Delivers io s s :=
  ⟨[], (send_nil s).symm, fun _ h => absurd h List.not_mem_nil⟩

theorem trans (h : Delivers io s t) (h' : Delivers io t u) : Delivers io s u := by
  obtain ⟨frames, rfl, hframes⟩ := h
  obtain ⟨frames', rfl, hframes'⟩ := h'
  refine ⟨frames ++ frames', (send_append s frames frames').symm, fun frame hmem => ?_⟩
  rcases List.mem_append.mp hmem with hmem | hmem
  · exact hframes frame hmem
  · exact hframes' frame hmem

theorem registry (h : Delivers io s t) : t.registry = s.registry := by
  obtain ⟨frames, rfl, -⟩ := h
  rfl

theorem sendToClient (J : JsonText) (io : Sockets) (c : ClientId) (m : Value) {s : WsService τ}
    (hv : s.registry.Valid) : Delivers io s (sendToClient J io c m s).1 := by
  unfold WsService.sendToClient
  split
  · exact refl io s
  · next x hx =>
    split
    · exact refl io s
    · next hopen =>
      split
      · exact refl io s
      · exact refl io s
      · next payload _ =>
        refine ⟨[x.frame payload], rfl, fun frame hmem => ?_⟩
        obtain rfl := List.mem_singleton.mp hmem
        obtain rfl := hv.key hx
        exact ⟨x, hx, not_not.mp hopen, rfl⟩

theorem sendToMembers (J : JsonText) (io : Sockets) (m : Value) (exclude : Option ClientId)
    (members : List ClientId) {s : WsService τ} (hv : s.registry.Valid) :
    Delivers io s (sendToMembers J io m exclude members s).1 := by
  induction members generalizing s with
  | nil => exact refl io s
  | cons c members ih =>
    rw [WsService.sendToMembers]
    split
    · exact ih hv
    · have hfirst := sendToClient J io c m hv
      exact hfirst.trans (ih (hfirst.registry ▸ hv))

theorem sendToLocalUser (J : JsonText) (io : Sockets) (u : UserId) (m : Value)
    (exclude : Option ClientId) {s : WsService τ} (hv : s.registry.Valid) :
    Delivers io s (sendToLocalUser J io u m exclude s).1 := by
  unfold WsService.sendToLocalUser
  split
  · exact refl io s
  · exact sendToMembers J io m exclude _ hv

end Delivers

structure Traced (J : JsonText) (s : WsService τ) (e : WsEvent) (effects : List Effect) :
    Prop where
  published : effects.filterMap Effect.published = (issued J s e).map Publish.entry
  sent : ∀ frame ∈ effects.filterMap Effect.sentFrame,
    ∃ io ∈ e.sockets, frame.ToOpen s.registry io

namespace Traced

variable {J : JsonText} {s : WsService τ} {e : WsEvent}

theorem of_frames (hissued : issued J s e = []) {frames : List SentFrame} {io : Sockets}
    (hio : e.sockets = some io) (h : ∀ frame ∈ frames, frame.ToOpen s.registry io) :
    Traced J s e (frames.map SentFrame.effect) where
  published := by
    rw [hissued, List.map_nil, List.filterMap_map]
    exact List.filterMap_eq_nil_iff.mpr fun _ _ => rfl
  sent frame hmem := by
    rw [List.filterMap_map, show Effect.sentFrame ∘ SentFrame.effect = some from rfl,
      List.filterMap_some] at hmem
    exact ⟨io, hio, h frame hmem⟩

theorem of_silent (hissued : issued J s e = []) {effects : List Effect}
    (h : ∀ effect ∈ effects, effect.published = none ∧ effect.sentFrame = none) :
    Traced J s e effects where
  published := by
    rw [hissued, List.map_nil]
    exact List.filterMap_eq_nil_iff.mpr fun effect hmem => (h effect hmem).1
  sent frame hmem := by
    obtain ⟨effect, hmem, hframe⟩ := List.mem_filterMap.mp hmem
    rw [(h effect hmem).2] at hframe
    cases hframe

end Traced

def AddsSilently (s t : WsService τ) : Prop :=
  ∃ effects, t.trace = s.trace ++ effects ∧
    ∀ effect ∈ effects, effect.published = none ∧ effect.sentFrame = none

namespace AddsSilently

variable {s t u : WsService τ}

theorem of_trace (h : t.trace = s.trace) : AddsSilently s t :=
  ⟨[], by rw [h, List.append_nil], fun _ h => absurd h List.not_mem_nil⟩

theorem refl (s : WsService τ) : AddsSilently s s := of_trace rfl

theorem trans (h : AddsSilently s t) (h' : AddsSilently t u) : AddsSilently s u := by
  obtain ⟨effects, ht, heffects⟩ := h
  obtain ⟨effects', hu, heffects'⟩ := h'
  refine ⟨effects ++ effects', by rw [hu, ht, List.append_assoc], fun effect hmem => ?_⟩
  rcases List.mem_append.mp hmem with hmem | hmem
  · exact heffects effect hmem
  · exact heffects' effect hmem

theorem emit (s : WsService τ) {effect : Effect} (hp : effect.published = none)
    (hs : effect.sentFrame = none) : AddsSilently s (s.emit effect) :=
  ⟨[effect], rfl, fun e he => by
    obtain rfl := List.mem_singleton.mp he
    exact ⟨hp, hs⟩⟩

theorem fanOut (deps : Deps τ) (x : Session) (notice : Notice) (s : WsService τ) :
    AddsSilently s (fanOut deps x notice s) := by
  obtain ⟨fanOuts, h⟩ := fanOut_eq deps x notice s
  refine ⟨_, congrArg WsService.trace h, fun effect hmem => ?_⟩
  rcases List.mem_cons.mp hmem with rfl | hmem
  · exact ⟨rfl, rfl⟩
  · obtain ⟨j, -, rfl⟩ := List.mem_map.mp hmem
    exact ⟨rfl, rfl⟩

theorem release (deps : Deps τ) (x : Session) (s : WsService τ) :
    AddsSilently s (release deps x s).1 := by
  unfold WsService.release
  split
  · exact refl s
  · exact (of_trace (t := { s with registry := _, timers := _ }) rfl).trans (fanOut ..)

theorem handleExpiry (deps : Deps τ) (x : Session) (s : WsService τ) :
    AddsSilently s (handleExpiry deps x s) := by
  have hrelease := release deps x s
  unfold WsService.handleExpiry
  split
  · next t h => rwa [h] at hrelease
  · next t h =>
    rw [h] at hrelease
    exact hrelease.trans (emit t rfl rfl)

theorem scheduleExpiry (deps : Deps τ) (x : Session) (now : ℚ) (s : WsService τ) :
    AddsSilently s (scheduleExpiry deps x now s) := by
  unfold WsService.scheduleExpiry
  dsimp only
  split
  · exact handleExpiry deps x s
  · exact of_trace rfl

theorem handleExpiryTimer (deps : Deps τ) (x : Session) (now now' : ℚ) (s : WsService τ) :
    AddsSilently s (handleExpiryTimer deps x now now' s) := by
  unfold WsService.handleExpiryTimer
  split
  · exact scheduleExpiry deps x now' s
  · exact handleExpiry deps x s

theorem handleConnection (deps : Deps τ) (params : ConnectionParams) (now now' : ℚ)
    (s : WsService τ) : AddsSilently s (handleConnection deps params now now' s).1 := by
  unfold WsService.handleConnection
  split
  · split
    · exact emit s rfl rfl
    · dsimp only
      refine .trans ?_ (scheduleExpiry ..)
      refine .trans ?_ (emit _ rfl rfl)
      refine .trans ?_ (emit _ rfl rfl)
      refine .trans ?_ (emit _ rfl rfl)
      exact (of_trace (t := { s with registry := _ }) rfl).trans (fanOut ..)
  · exact emit s rfl rfl

theorem settleFanOut (i : Nat) (s : WsService τ) : AddsSilently s (settleFanOut i s) := by
  unfold WsService.settleFanOut
  split
  · exact refl s
  · split
    · exact refl s
    · refine ⟨_, rfl, fun effect hmem => ?_⟩
      obtain ⟨tracker, detail, rfl⟩ := eq_of_mem_warnings hmem
      exact ⟨rfl, rfl⟩

end AddsSilently

theorem traced_of_delivers {J : JsonText} {s t : WsService τ} {e : WsEvent} {io : Sockets}
    (hissued : issued J s e = []) (hio : e.sockets = some io) (h : Delivers io s t) :
    ∃ effects, t.trace = s.trace ++ effects ∧ Traced J s e effects := by
  obtain ⟨frames, rfl, hframes⟩ := h
  exact ⟨_, rfl, .of_frames hissued hio hframes⟩

theorem traced_of_addsSilently {J : JsonText} {s t : WsService τ} {e : WsEvent}
    (hissued : issued J s e = []) (h : AddsSilently s t) :
    ∃ effects, t.trace = s.trace ++ effects ∧ Traced J s e effects := by
  obtain ⟨effects, ht, heffects⟩ := h
  exact ⟨effects, ht, .of_silent hissued heffects⟩

theorem traced_message (deps : Deps τ) {s : WsService τ} (hv : s.registry.Valid) (ref : Nat)
    (data : RawData) (io : Sockets) : ∃ effects,
      (step deps s (.message ref data io)).trace = s.trace ++ effects ∧
        Traced deps.json s (.message ref data io) effects := by
  rw [step]
  cases hb : s.registry.built[ref]? with
  | none =>
    exact traced_of_addsSilently (by simp [issued, hb]) (.refl s)
  | some x =>
    dsimp only
    unfold handleMessage
    cases hframe : parseInboundFrame deps.json data with
    | ignore reason =>
      exact traced_of_addsSilently (by simp [issued, hb, publishOf, hframe]) (.refl s)
    | invalid reason =>
      exact traced_of_delivers (by simp [issued, hb, publishOf, hframe]) rfl
        (Delivers.sendToClient deps.json io x.clientId (nack reason) hv)
    | send target message =>
      have hissued : (issued deps.json s (.message ref data io)).map Publish.entry =
          [(channelFor target, deps.json.print (envelopeJson message (some x.clientId)))] := by
        simp [issued, hb, publishOf, hframe, Publish.entry]
      simp only [canSendTo, Bool.not_true, Bool.false_eq_true, if_false, sendToUser,
        buildUserTopicEnvelope_ofJson]
      exact ⟨_, rfl, hissued.symm ▸ rfl, fun frame hmem => by simp [Effect.sentFrame] at hmem⟩

theorem traced_step (deps : Deps τ) {s : WsService τ} (hv : s.registry.Valid) (e : WsEvent) :
    ∃ effects, (step deps s e).trace = s.trace ++ effects ∧ Traced deps.json s e effects := by
  cases e with
  | connect params now now' =>
    exact traced_of_addsSilently rfl (.handleConnection deps params now now' s)
  | close ref =>
    refine traced_of_addsSilently rfl ?_
    rw [step]
    split
    · exact .release deps _ s
    · exact .refl s
  | error ref => exact traced_of_addsSilently rfl (.refl s)
  | message ref data io => exact traced_message deps hv ref data io
  | timer id now now' =>
    refine traced_of_addsSilently rfl ?_
    rw [step]
    split
    · split
      · exact (AddsSilently.of_trace (t := { s with timers := _ }) rfl).trans
          (.handleExpiryTimer ..)
      · exact .refl s
    · exact .refl s
  | publishSettled i resolved io =>
    have hsettled : ∃ t, t.registry = s.registry ∧ t.trace = s.trace ∧
        Delivers io t (step deps s (.publishSettled i resolved io)) := by
      rw [step, settlePublish]
      split
      · exact ⟨s, rfl, rfl, .refl io s⟩
      · refine ⟨{ s with publishes := s.publishes.eraseIdx i }, rfl, rfl, ?_⟩
        dsimp only
        split
        · split
          · exact .refl io _
          · exact .sendToClient deps.json io _ _ hv
        · exact .refl io _
    obtain ⟨t, hregistry, htrace, frames, hstep, hframes⟩ := hsettled
    refine ⟨frames.map SentFrame.effect, ?_, .of_frames rfl rfl (hregistry ▸ hframes)⟩
    rw [hstep, send, htrace]
  | trackersSettled i => exact traced_of_addsSilently rfl (.settleFanOut i s)
  | sendToClient c m io =>
    exact traced_of_delivers rfl rfl (Delivers.sendToClient deps.json io c m hv)
  | sendToLocalUser u m exclude io =>
    exact traced_of_delivers rfl rfl (Delivers.sendToLocalUser deps.json io u m exclude hv)
  | sendToUser u m exclude =>
    simp only [step, sendToUser]
    cases henvelope : buildUserTopicEnvelope deps.json m exclude with
    | text envelope =>
      refine ⟨_, rfl, ?_, fun frame hmem => by simp [Effect.sentFrame] at hmem⟩
      simp [issued, henvelope, Publish.entry, Effect.published]
    | _ =>
      exact traced_of_addsSilently (by simp [issued, henvelope]) (.refl s)
  | destroy => exact traced_of_addsSilently rfl (.of_trace rfl)

end WsService

end NestBackend.Ws
