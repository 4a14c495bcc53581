import NestBackend.Ws.RegistryLaws
import NestBackend.Ws.Service

namespace NestBackend.Ws

open NestBackend.Js
open NestBackend.Lib

structure SentFrame where
  ref : Nat
  socket : Socket
  payload : String
  deriving DecidableEq

def Session.frame (x : Session) (payload : String) : SentFrame := ⟨x.ref, x.socket, payload⟩

def SentFrame.effect (frame : SentFrame) : Effect :=
  .socketSend frame.ref frame.socket frame.payload

def Effect.sentFrame : Effect → Option SentFrame
  | .socketSend ref socket payload => some ⟨ref, socket, payload⟩
  | _ => none

def Effect.published : Effect → Option (String × String)
  | .publish channel envelope => some (channel, envelope)
  | _ => none

@[simp] theorem sentFrame_effect (frame : SentFrame) : frame.effect.sentFrame = some frame := rfl

namespace Registry

def openSession (r : Registry) (io : Sockets) (c : ClientId) : Option Session :=
  (r.getSession c).filter fun x => io.readyState x.socket = OPEN

theorem openSession_eq_some_iff {r : Registry} {io : Sockets} {c : ClientId} {x : Session} :
    r.openSession io c = some x ↔ r.sessions.lookup c = some x ∧ io.readyState x.socket = OPEN := by
  simp [openSession, getSession, Option.filter_eq_some_iff]

def recipients (r : Registry) (io : Sockets) (u : UserId) (exclude : Option ClientId) :
    List Session :=
  match r.userClients.lookup u with
  | none => []
  | some members =>
    (members.toList.filter fun c => exclude ≠ some c).filterMap (r.openSession io)

theorem mem_recipients {r : Registry} (hr : r.Valid) {io : Sockets} {u : UserId}
    {exclude : Option ClientId} {x : Session} :
    x ∈ r.recipients io u exclude ↔ r.sessions.lookup x.clientId = some x ∧ x.userId = u ∧
      io.readyState x.socket = OPEN ∧ exclude ≠ some x.clientId := by
  have hmember := hr.member (u := u) (c := x.clientId)
  unfold recipients
  cases hm : r.userClients.lookup u with
  | none =>
    simp only [List.not_mem_nil, false_iff]
    rintro ⟨hx, hu, -⟩
    obtain ⟨members, hl, -⟩ := hmember.mpr ⟨x, hx, hu⟩
    simp [hm] at hl
  | some members =>
    simp only [List.mem_filterMap, List.mem_filter, openSession_eq_some_iff, decide_eq_true_eq]
    constructor
    · rintro ⟨c, ⟨hc, hne⟩, hx, hopen⟩
      obtain rfl := hr.key hx
      obtain ⟨y, hy, hu⟩ := hmember.mp ⟨members, hm, hc⟩
      obtain rfl := Option.some.inj (hx.symm.trans hy)
      exact ⟨hx, hu, hopen, hne⟩
    · rintro ⟨hx, hu, hopen, hne⟩
      obtain ⟨members', hl, hc⟩ := hmember.mpr ⟨x, hx, hu⟩
      obtain rfl := Option.some.inj (hm.symm.trans hl)
      exact ⟨x.clientId, ⟨hc, hne⟩, hx, hopen⟩

theorem nodup_recipients {r : Registry} (hr : r.Valid) (io : Sockets) (u : UserId)
    (exclude : Option ClientId) : (r.recipients io u exclude).Nodup := by
  unfold recipients
  split
  · exact List.nodup_nil
  · next members _ =>
    refine (members.nodup.filter _).filterMap fun c d x hc hd => ?_
    have hxc := hr.key (openSession_eq_some_iff.mp hc).1
    have hxd := hr.key (openSession_eq_some_iff.mp hd).1
    exact hxc.symm.trans hxd

end Registry

namespace WsService

variable {τ : Type}

def sentBetween (s t : WsService τ) : List SentFrame :=
  (t.trace.drop s.trace.length).filterMap Effect.sentFrame

def publishedBetween (s t : WsService τ) : List (String × String) :=
  (t.trace.drop s.trace.length).filterMap Effect.published

@[simp] theorem publishedBetween_refl (s : WsService τ) : publishedBetween s s = [] := by
  simp [publishedBetween]

@[simp] theorem sentBetween_refl (s : WsService τ) : sentBetween s s = [] := by
  simp [sentBetween]

def send (s : WsService τ) (frames : List SentFrame) : WsService τ :=
  { s with trace := s.trace ++ frames.map SentFrame.effect }

@[simp] theorem send_nil (s : WsService τ) : s.send [] = s := by simp [send]

theorem send_append (s : WsService τ) (fs gs : List SentFrame) :
    s.send (fs ++ gs) = (s.send fs).send gs := by simp [send]

theorem sentBetween_send {s t : WsService τ} (h : t.trace = s.trace) (frames : List SentFrame) :
    sentBetween s (t.send frames) = frames := by
  have hframes : Effect.sentFrame ∘ SentFrame.effect = some := rfl
  simp [sentBetween, send, h, List.filterMap_map, hframes]

theorem publishedBetween_send (s : WsService τ) (frames : List SentFrame) :
    publishedBetween s (s.send frames) = [] := by
  simp [publishedBetween, send, SentFrame.effect, Effect.published]

theorem sendToClient_text {J : JsonText} {m : Value} {payload : String}
    (h : J.stringify m = .text payload) (io : Sockets) (c : ClientId) (s : WsService τ) :
    (sendToClient J io c m s).1 =
      s.send ((s.registry.openSession io c).toList.map (·.frame payload)) := by
  unfold sendToClient Registry.openSession
  cases s.registry.getSession c with
  | none => simp
  | some x =>
    by_cases hopen : io.readyState x.socket = OPEN
    · simp [hopen, h, Option.filter, send, emit, Session.frame, SentFrame.effect]
    · simp [hopen, Option.filter]

theorem sendToMembers_text {J : JsonText} {m : Value} {payload : String}
    (h : J.stringify m = .text payload) (io : Sockets) (exclude : Option ClientId)
    (members : List ClientId) (s : WsService τ) :
    (sendToMembers J io m exclude members s).1 =
      s.send (((members.filter fun c => exclude ≠ some c).filterMap
        (s.registry.openSession io)).map (·.frame payload)) := by
  induction members generalizing s with
  | nil => simp [sendToMembers]
  | cons c members ih =>
    rw [sendToMembers]
    by_cases hc : exclude = some c
    · rw [if_pos hc, ih]
      simp [hc]
    · simp only [hc, if_false]
      rw [ih, sendToClient_text h, ← send_append, ← List.map_append]
      cases hx : s.registry.openSession io c <;> simp [hc, hx, send]

theorem sendToLocalUser_text {J : JsonText} {m : Value} {payload : String}
    (h : J.stringify m = .text payload) (io : Sockets) (u : UserId)
    (exclude : Option ClientId) (s : WsService τ) :
    (sendToLocalUser J io u m exclude s).1 =
      s.send ((s.registry.recipients io u exclude).map (·.frame payload)) := by
  unfold sendToLocalUser Registry.recipients
  cases s.registry.userClients.lookup u with
  | none => simp
  | some members => exact sendToMembers_text h io exclude members.toList s

end WsService

end NestBackend.Ws
