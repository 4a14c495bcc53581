import NestBackend.Ws.Turns

namespace NestBackend.Ws.WsService

open NestBackend.Js
open NestBackend.Lib

variable {τ : Type} {J : JsonText} {m : Value}

theorem sendToClient_snd {payload : String} (h : J.stringify m = .text payload) (io : Sockets)
    (c : ClientId) (s : WsService τ) : (sendToClient J io c m s).2 =
      (s.registry.openSession io c).any fun x => !io.sendThrows x.socket := by
  unfold sendToClient Registry.openSession
  cases s.registry.getSession c with
  | none => rfl
  | some x =>
    by_cases hopen : io.readyState x.socket = OPEN
    · simp [hopen, h, Option.filter]
    · simp [hopen, Option.filter]

theorem sendToMembers_snd {payload : String} (h : J.stringify m = .text payload) (io : Sockets)
    (exclude : Option ClientId) (members : List ClientId) (s : WsService τ) :
    (sendToMembers J io m exclude members s).2 =
      ((members.filter fun c => exclude ≠ some c).filterMap (s.registry.openSession io)).countP
        fun x => !io.sendThrows x.socket := by
  induction members generalizing s with
  | nil => rfl
  | cons c members ih =>
    rw [sendToMembers]
    by_cases hc : exclude = some c
    · rw [if_pos hc, ih]
      simp [hc]
    · have hkept : (sendToClient J io c m s).1.registry = s.registry :=
        (quiet_sendToClient J io c m s).registry
      simp only [hc, if_false]
      rw [ih, sendToClient_snd h, hkept]
      cases hx : s.registry.openSession io c with
      | none => simp [hc, hx]
      | some x =>
        cases hthrows : io.sendThrows x.socket <;> simp [hc, hx, hthrows]

theorem sendToClient_unserializable (h : ∀ payload, J.stringify m ≠ .text payload) (io : Sockets)
    (c : ClientId) (s : WsService τ) : sendToClient J io c m s = (s, false) := by
  unfold sendToClient
  split
  · rfl
  · split
    · rfl
    · split
      · rfl
      · rfl
      · next payload hp => exact absurd hp (h payload)

theorem sendToMembers_unserializable (h : ∀ payload, J.stringify m ≠ .text payload)
    (io : Sockets) (exclude : Option ClientId) (members : List ClientId) (s : WsService τ) :
    sendToMembers J io m exclude members s = (s, 0) := by
  induction members with
  | nil => rfl
  | cons c members ih =>
    rw [sendToMembers, sendToClient_unserializable h]
    simp [ih]

theorem sendToLocalUser_snd {payload : String} (h : J.stringify m = .text payload) (io : Sockets)
    (u : UserId) (exclude : Option ClientId) (s : WsService τ) :
    (sendToLocalUser J io u m exclude s).2 =
      (s.registry.recipients io u exclude).countP fun x => !io.sendThrows x.socket := by
  unfold sendToLocalUser Registry.recipients
  cases s.registry.userClients.lookup u with
  | none => rfl
  | some members => exact sendToMembers_snd h io exclude members.toList s

theorem sendToLocalUser_unserializable (h : ∀ payload, J.stringify m ≠ .text payload)
    (io : Sockets) (u : UserId) (exclude : Option ClientId) (s : WsService τ) :
    sendToLocalUser J io u m exclude s = (s, 0) := by
  unfold sendToLocalUser
  split
  · rfl
  · exact sendToMembers_unserializable h io exclude _ s

/-- The sessions that are called on to send, once each, whatever the sockets do. -/
theorem local_delivery (deps : Deps τ) (world : τ) (es : List WsEvent) (u : UserId) (m : Value)
    (exclude : Option ClientId) (io : Sockets) :
    let s := (system deps world).run es
    let recipients := s.registry.recipients io u exclude
    let t := (sendToLocalUser deps.json io u m exclude s).1
    let delivered := (sendToLocalUser deps.json io u m exclude s).2
    (∀ x, x ∈ recipients ↔ s.registry.sessions.lookup x.clientId = some x ∧ x.userId = u ∧
        io.readyState x.socket = OPEN ∧ exclude ≠ some x.clientId) ∧
      (recipients.map (·.ref)).Nodup ∧
      (match deps.json.stringify m with
        | .text payload => sentBetween s t = recipients.map (·.frame payload) ∧
            delivered = recipients.countP fun x => !io.sendThrows x.socket
        | _ => sentBetween s t = [] ∧ delivered = 0) ∧
      t.registry = s.registry ∧ t.timers = s.timers ∧ OnlySends s t := by
  intro s recipients t delivered
  have hv : s.registry.Valid := valid_run deps world es
  have hquiet := quiet_sendToLocalUser deps.json io u m exclude s
  refine ⟨fun x => Registry.mem_recipients hv, ?_, ?_, hquiet.registry, hquiet.timers,
    OnlySends.sendToLocalUser deps.json io u m exclude s⟩
  · refine (Registry.nodup_recipients hv io u exclude).map_on fun x hx y hy href => ?_
    have hx := (Registry.mem_recipients hv).mp hx
    have hy := (Registry.mem_recipients hv).mp hy
    exact hv.eq_of_ref hx.1 hy.1 href
  · split
    · next payload htext =>
      refine ⟨?_, sendToLocalUser_snd htext io u exclude s⟩
      rw [show t = _ from sendToLocalUser_text htext io u exclude s, sentBetween_send rfl]
    · next hno =>
      have hnothing := sendToLocalUser_unserializable hno io u exclude s
      refine ⟨?_, congrArg Prod.snd hnothing⟩
      rw [show t = s from congrArg Prod.fst hnothing, sentBetween_refl]

end NestBackend.Ws.WsService
