import NestBackend.Ws.Frames

namespace NestBackend.Ws.WsService

open NestBackend.Js
open NestBackend.Lib
open NestBackend.UserTopics

variable {τ : Type}

def frameAuthor (s : WsService τ) : WsEvent → Option Session
  | .message ref _ _ => s.registry.built[ref]?
  | .publishSettled i _ _ => s.publishes[i]?.bind (·.author)
  | _ => none

def rejection (J : JsonText) : WsEvent → Option (Sockets × String)
  | .message _ data io =>
    match parseInboundFrame J data with
    | .invalid reason => some (io, reason)
    | _ => none
  | .publishSettled _ false io => some (io, "delivery failed")
  | _ => none

def nackText (J : JsonText) (reason : String) : String :=
  J.print (.obj [("op", .str SEND_MESSAGE_ERROR_OP), ("reason", .str reason)])

theorem stringify_nack (J : JsonText) (reason : String) :
    J.stringify (nack reason) = .text (nackText J reason) := by
  simp [nack, nackText, JsonText.stringify, Value.serialize, serializeProps]

theorem sentBetween_sendNack (J : JsonText) (io : Sockets) (c : ClientId) (reason : String)
    {s t : WsService τ} (h : t.trace = s.trace) :
    sentBetween s (sendNack J io c reason t) =
      (t.registry.openSession io c).toList.map (·.frame (nackText J reason)) := by
  rw [sendNack, sendToClient_text (stringify_nack J reason), sentBetween_send h]

theorem sentBetween_step (deps : Deps τ) (s : WsService τ) {e : WsEvent} {author : Session}
    (h : frameAuthor s e = some author) : sentBetween s (step deps s e) =
      match rejection deps.json e with
      | some (io, reason) => (s.registry.openSession io author.clientId).toList.map
          (·.frame (nackText deps.json reason))
      | none => [] := by
  cases e with
  | message ref data io =>
    have hb : s.registry.built[ref]? = some author := h
    simp only [step, hb, handleMessage, rejection]
    cases parseInboundFrame deps.json data with
    | ignore reason => simp
    | invalid reason => exact sentBetween_sendNack _ _ _ _ rfl
    | send target message =>
      simp [canSendTo, sendToUser, buildUserTopicEnvelope_ofJson, sentBetween, Effect.sentFrame]
  | publishSettled i resolved io =>
    obtain ⟨p, hp, ha⟩ := Option.bind_eq_some_iff.mp h
    simp only [step, settlePublish, hp, ha]
    cases resolved with
    | true => simp [rejection, sentBetween]
    | false => exact sentBetween_sendNack _ _ _ _ rfl
  | _ => cases h

/-- Every frame the event causes to be sent on account of its author's frame goes out on
the author's socket. -/
def NackReachesAuthor (deps : Deps τ) (s : WsService τ) (e : WsEvent) : Prop :=
  ∀ author, frameAuthor s e = some author →
    ∀ frame ∈ sentBetween s (step deps s e), frame.socket = author.socket

/-- While the event rejects a frame, no session on another open socket is registered under
the author's client id. -/
def ClientIdKept (J : JsonText) (s : WsService τ) (e : WsEvent) : Prop :=
  ∀ author, frameAuthor s e = some author → ∀ io reason, rejection J e = some (io, reason) →
    ∀ held, s.registry.getSession author.clientId = some held →
      io.readyState held.socket = OPEN → held.socket = author.socket

theorem nackReachesAuthor_iff (deps : Deps τ) (s : WsService τ) (e : WsEvent) :
    NackReachesAuthor deps s e ↔ ClientIdKept deps.json s e := by
  unfold NackReachesAuthor ClientIdKept
  refine forall₂_congr fun author hauthor => ?_
  rw [sentBetween_step deps s hauthor]
  cases rejection deps.json e with
  | none => simp
  | some r =>
    obtain ⟨io, reason⟩ := r
    simp only [List.mem_map, Option.mem_toList, Registry.openSession_eq_some_iff,
      Option.some.injEq, Prod.mk.injEq]
    constructor
    · rintro h _ _ ⟨rfl, rfl⟩ held hheld hopen
      exact h _ ⟨held, ⟨hheld, hopen⟩, rfl⟩
    · rintro h _ ⟨held, ⟨hheld, hopen⟩, rfl⟩
      exact h io reason ⟨rfl, rfl⟩ held hheld hopen

theorem nacks_reach_their_authors_iff (deps : Deps τ) (world : τ) (es : List WsEvent) :
    (∀ pre e, pre ++ [e] <+: es → NackReachesAuthor deps ((system deps world).run pre) e) ↔
      (system deps world).Along (ClientIdKept deps.json) es := by
  rw [System.along_iff_forall_prefix]
  simp only [nackReachesAuthor_iff]

/-- Alice's frame is published; she closes and Bob takes her client id before the publish
is refused. -/
def takenOver : List WsEvent :=
  let io : Sockets := ⟨fun _ => OPEN, fun _ => false⟩
  let params (socket : Socket) (userId : UserId) : ConnectionParams :=
    ⟨socket, some userId, some "tab", .fin 3600000⟩
  [.connect (params 0 "alice") 0 0,
    .message 0 (.string "\x7b\"op\":\"sendMessage\",\"target\":\"carol\",\"message\":1\x7d") io,
    .close 0, .connect (params 1 "bob") 0 0, .publishSettled 0 false io]

def bareDeps : Deps Unit where
  json := .reading [.obj [("op", .str "sendMessage"), ("target", .str "carol"),
    ("message", .num 1)]]
  trackers := []
  randomUUID n := toString n

theorem nack_reaches_another_session :
    ¬ ∀ pre e, pre ++ [e] <+: takenOver →
      NackReachesAuthor bareDeps ((system bareDeps ()).run pre) e := by
  intro h
  have hauthor : frameAuthor ((system bareDeps ()).run (takenOver.take 4))
      (.publishSettled 0 false ⟨fun _ => OPEN, fun _ => false⟩) =
        some ⟨0, "alice", "tab", 0, "0", .fin 3600000⟩ := by decide +kernel
  have hsent : ⟨1, 1, "\x7b\"op\":\"error\",\"reason\":\"delivery failed\"\x7d"⟩ ∈
      sentBetween ((system bareDeps ()).run (takenOver.take 4))
        ((system bareDeps ()).run takenOver) := by
    decide +kernel
  have hsocket := h (takenOver.take 4) _ (List.prefix_refl takenOver) _ hauthor _ hsent
  exact absurd hsocket (by decide)

end NestBackend.Ws.WsService
