import NestBackend.Ws.Expiry
import NestBackend.Ws.Nack

namespace NestBackend.Ws

open NestBackend.Js
open NestBackend.Lib
open NestBackend.UserTopics

variable {τ : Type}

namespace WsService

theorem publishedBetween_sendNack (J : JsonText) (io : Sockets) (c : ClientId) (reason : String)
    (s : WsService τ) : publishedBetween s (sendNack J io c reason s) = [] := by
  rw [sendNack, sendToClient_text (stringify_nack J reason), publishedBetween_send]

theorem publishedBetween_handleMessage (J : JsonText) (io : Sockets) (x : Session)
    (data : RawData) (s : WsService τ) : publishedBetween s (handleMessage J io x data s) =
      match parseInboundFrame J data with
      | .send target message =>
        [(channelFor target, J.print (envelopeJson message (some x.clientId)))]
      | _ => [] := by
  unfold handleMessage
  cases parseInboundFrame J data with
  | ignore reason => exact publishedBetween_refl s
  | invalid reason => exact publishedBetween_sendNack J io x.clientId reason s
  | send target message =>
    simp [canSendTo, sendToUser, buildUserTopicEnvelope_ofJson, publishedBetween,
      Effect.published]

def RoutesForRegistered (deps : Deps τ) (s : WsService τ) : WsEvent → Prop
  | .message ref data io => ∀ x ∈ s.registry.built[ref]?,
      publishedBetween s (step deps s (.message ref data io)) ≠ [] →
        s.registry.sessions.lookup x.clientId = some x
  | _ => True

def NoLateSend (J : JsonText) (s : WsService τ) : WsEvent → Prop
  | .message ref data _ => ∀ x ∈ s.registry.built[ref]?,
      (∃ target message, parseInboundFrame J data = .send target message) → ¬ s.registry.Gone x
  | _ => True

theorem routesForRegistered_iff (deps : Deps τ) (s : WsService τ) (e : WsEvent) :
    RoutesForRegistered deps s e ↔ NoLateSend deps.json s e := by
  cases e with
  | message ref data io =>
    refine forall₂_congr fun x hx => ?_
    have hx : s.registry.built[ref]? = some x := hx
    have hbuilt : x ∈ s.registry.built := List.mem_of_getElem? hx
    have hgone : ¬ s.registry.Gone x ↔ s.registry.sessions.lookup x.clientId = some x := by
      rw [Registry.Gone, not_and, not_not]
      exact ⟨fun h => h hbuilt, fun h _ => h⟩
    simp only [step, hx]
    rw [publishedBetween_handleMessage, hgone]
    cases parseInboundFrame deps.json data with
    | ignore | invalid => simp
    | send target message => simp
  | _ => exact Iff.rfl

def SilentOnceReleased (deps : Deps τ) (world : τ) (es : List WsEvent) : Prop :=
  ∀ pre mid x data io, pre ++ mid ++ [.message x.ref data io] <+: es →
    ((system deps world).run pre).registry.Gone x →
      publishedBetween ((system deps world).run (pre ++ mid))
        ((system deps world).run (pre ++ mid ++ [.message x.ref data io])) = []

theorem silentOnceReleased_of_routes {deps : Deps τ} {world : τ} {es : List WsEvent}
    (h : ∀ pre e, pre ++ [e] <+: es → RoutesForRegistered deps ((system deps world).run pre) e) :
    SilentOnceReleased deps world es := by
  intro pre mid x data io hpre hgone
  have hv := valid_run deps world (pre ++ mid)
  have hgone := gone_of_initial deps world (List.prefix_append pre mid) hgone
  rw [System.run_concat]
  by_contra hpublished
  exact hgone.2 (h _ _ hpre x (hv.getElem_ref hgone.1) hpublished)

/-- Frames are routed for registered sessions only, in the runs in which no session's frame
asks for a send after its release, and in no others. -/
theorem routing_iff (deps : Deps τ) (world : τ) (es : List WsEvent) :
    (∀ pre e, pre ++ [e] <+: es → RoutesForRegistered deps ((system deps world).run pre) e) ∧
        SilentOnceReleased deps world es ↔
      (system deps world).Along (NoLateSend deps.json) es := by
  rw [System.along_iff_forall_prefix]
  simp only [← routesForRegistered_iff]
  exact and_iff_left_of_imp silentOnceReleased_of_routes

/-- Alice's token expires and her socket is terminated, but a frame was already under way. -/
def frameUnderWay : List WsEvent :=
  [.connect ⟨0, some "alice", some "tab", .fin 1000⟩ 0 0, .timer 0 1000 1000,
    .message 0 (.string "\x7b\"op\":\"sendMessage\",\"target\":\"carol\",\"message\":1\x7d")
      ⟨fun _ => OPEN, fun _ => false⟩]

theorem frameUnderWay_is_routed :
    ¬ ((∀ pre e, pre ++ [e] <+: frameUnderWay →
          RoutesForRegistered bareDeps ((system bareDeps ()).run pre) e) ∧
        SilentOnceReleased bareDeps () frameUnderWay) := by
  rintro ⟨h, -⟩
  have hbuilt : ((system bareDeps ()).run (frameUnderWay.take 2)).registry.built[0]? =
      some ⟨0, "alice", "tab", 0, "0", .fin 1000⟩ := by decide +kernel
  have hpublished : publishedBetween ((system bareDeps ()).run (frameUnderWay.take 2))
      ((system bareDeps ()).run frameUnderWay) ≠ [] := by decide +kernel
  have hheld := h (frameUnderWay.take 2) _ (List.prefix_refl frameUnderWay) _ hbuilt hpublished
  exact absurd hheld (by decide +kernel)

end WsService

end NestBackend.Ws
