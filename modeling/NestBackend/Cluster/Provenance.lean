import NestBackend.Cluster.FanOut
import NestBackend.Ws.Effects

namespace NestBackend

open NestBackend.Js
open NestBackend.Lib
open NestBackend.Replica
open NestBackend.UserTopics
open NestBackend.UserTopics.UserTopicService
open NestBackend.Ws

inductive Requests (J : JsonText) (built : List Session) (u : UserId) (m : Value)
    (exclude : Option ClientId) : WsEvent → Prop
  | told : Requests J built u m exclude (.sendToUser u m exclude)
  | framed {ref : Nat} {author : Session} {data : RawData} {message : Json} (io : Sockets)
      (hbuilt : built[ref]? = some author) (hframe : parseInboundFrame J data = .send u message)
      (hm : m = .ofJson message) (hexclude : exclude = some author.clientId) :
      Requests J built u m exclude (.message ref data io)

theorem requests_of_issued {τ : Type} {J : JsonText} {s : WsService τ} {e : WsEvent} {p : Publish}
    (h : p ∈ WsService.issued J s e) : ∃ u m exclude, Requests J s.registry.built u m exclude e ∧
      p.channel = channelFor u ∧ buildUserTopicEnvelope J m exclude = .text p.envelope := by
  cases e with
  | message ref data io =>
    simp only [WsService.issued] at h
    split at h
    · next author hbuilt =>
      unfold publishOf at h
      split at h
      · next target message hframe =>
        obtain rfl : p = ⟨_, _, some author⟩ := by simpa using h
        exact ⟨target, .ofJson message, some author.clientId, .framed io hbuilt hframe rfl rfl,
          rfl, buildUserTopicEnvelope_ofJson ..⟩
      · cases h
    · cases h
  | sendToUser u m exclude =>
    simp only [WsService.issued] at h
    split at h
    · next envelope henvelope =>
      obtain rfl := List.mem_singleton.mp h
      exact ⟨u, m, exclude, .told, rfl, henvelope⟩
    · cases h
  | _ => cases h

def Handover.entry {ι : Type} (h : Handover ι) : String × String := (h.channel, h.message)

namespace Cluster

variable {ι : Type} [DecidableEq ι]

theorem mem_wire_advance {rt : ι → Runtime} {i j : ι} {e : ReplicaEvent} {c : Cluster ι}
    {entry : String × String} (h : entry ∈ (c.advance rt j e).wire i) : entry ∈ c.wire i ∨
      j = i ∧ entry ∈ WsService.publishedBetween (c.replicas j)
        (Replica.step (rt j) (c.replicas j) e) := by
  by_cases hij : i = j
  · subst hij
    rw [wire_advance] at h
    exact (List.mem_append.mp h).imp_right fun h => ⟨rfl, h⟩
  · exact .inl (by simpa [advance, hij] using h)

theorem mem_wire_step {rt : ι → Runtime} {i : ι} {c : Cluster ι}
    (hv : (c.replicas i).registry.Valid) {e : Traffic ι} {entry : String × String}
    (h : entry ∈ ((losing rt).step c e).wire i) : entry ∈ c.wire i ∨
      ∃ e', e = .cluster (.ws i e') ∧
        ∃ p ∈ WsService.issued (rt i).json (c.replicas i) e', p.entry = entry := by
  cases e with
  | lose j k =>
    by_cases hij : i = j
    · subst hij
      exact .inl (List.eraseIdx_subset (by simpa [losing] using h))
    · exact .inl (by simpa [losing, hij] using h)
  | cluster e =>
    cases e with
    | ws j e =>
      rcases mem_wire_advance h with hold | ⟨rfl, hnew⟩
      · exact .inl hold
      · obtain ⟨effects, htrace, heffects⟩ := WsService.traced_step (rt j).deps hv e
        rw [WsService.publishedBetween, Replica.step, htrace, List.drop_left,
          heffects.published] at hnew
        exact .inr ⟨e, rfl, List.mem_map.mp hnew⟩
    | topic j e =>
      rcases mem_wire_advance h with hold | ⟨rfl, hnew⟩
      · exact .inl hold
      · simp [WsService.publishedBetween, Replica.step] at hnew
    | perform j k =>
      rcases mem_wire_advance h with hold | ⟨rfl, hnew⟩
      · exact .inl hold
      · simp [WsService.publishedBetween, Replica.step] at hnew
    | publish j io =>
      simp only [losing, step, publish] at h
      split at h
      · exact .inl h
      · next rest hwire =>
        dsimp only at h
        by_cases hij : i = j
        · subst hij
          rw [Function.update_self] at h
          exact .inl (hwire ▸ List.mem_cons_of_mem _ h)
        · exact .inl (by simpa [hij] using h)

theorem mem_history_step {rt : ι → Runtime} {c : Cluster ι} {e : Traffic ι} {h : Handover ι}
    (hmem : h ∈ ((losing rt).step c e).history) : h ∈ c.history ∨ ∃ i io,
      e = .cluster (.publish i io) ∧ h.entry ∈ c.wire i ∧
        ∀ j, h.sent j = WsService.sentBetween (c.replicas j)
          (Replica.step (rt j) (c.replicas j) (.deliver h.channel h.message (io j))) := by
  cases e with
  | lose j k => exact .inl hmem
  | cluster e =>
    cases e with
    | publish i io =>
      simp only [losing, step, publish] at hmem
      split at hmem
      · exact .inl hmem
      · next channel message rest hwire =>
        rcases List.mem_append.mp hmem with hold | hnew
        · exact .inl hold
        · obtain rfl := List.mem_singleton.mp hnew
          exact .inr ⟨i, io, rfl, hwire ▸ List.mem_cons_self, fun j => rfl⟩
    | _ => exact .inl hmem

/-- A machine with a cluster in it that takes the steps of the cluster, and others that neither
publish nor hand anything out. -/
structure Hosts (rt : ι → Runtime) {σ ε : Type} (M : System σ ε) (inner : σ → Cluster ι)
    (view : ε → Option (Traffic ι)) : Prop where
  init : inner M.init = start
  steps : ∀ {e e'}, view e = some e' → ∀ s, inner (M.step s e) = (losing rt).step (inner s) e'
  aside : ∀ {e}, view e = none → ∀ s,
    (inner (M.step s e)).wire = (inner s).wire ∧ (inner (M.step s e)).history = (inner s).history
  valid : ∀ es i, ((inner (M.run es)).replicas i).registry.Valid

namespace Hosts

variable {rt : ι → Runtime} {σ ε : Type} {M : System σ ε} {inner : σ → Cluster ι}
  {view : ε → Option (Traffic ι)}

theorem itself (rt : ι → Runtime) : Hosts rt (losing rt) id some where
  init := rfl
  steps h c := by
    cases h
    rfl
  aside h := by cases h
  valid := valid_losing rt

theorem handover_cases (H : Hosts rt M inner view) {es : List ε} {h : Handover ι}
    (hmem : h ∈ (inner (M.run es)).history) : ∃ pre d i io post, es = pre ++ d :: post ∧
      view d = some (.cluster (.publish i io)) ∧ h.entry ∈ (inner (M.run pre)).wire i ∧
        ∀ j, h.sent j = WsService.sentBetween ((inner (M.run pre)).replicas j)
          (Replica.step (rt j) ((inner (M.run pre)).replicas j)
            (.deliver h.channel h.message (io j))) := by
  have hinit : h ∉ (inner M.init).history := by
    rw [H.init]
    exact List.not_mem_nil
  obtain ⟨pre, d, post, rfl, hbefore, hafter⟩ :=
    System.exists_step_of_run (P := fun s => h ∈ (inner s).history) hinit hmem
  cases hview : view d with
  | none =>
    rw [(H.aside hview _).2] at hafter
    exact absurd hafter hbefore
  | some e =>
    rw [H.steps hview] at hafter
    rcases mem_history_step hafter with hold | ⟨i, io, rfl, hrest⟩
    · exact absurd hold hbefore
    · exact ⟨pre, d, i, io, post, rfl, hview, hrest⟩

theorem requests_of_wire (H : Hosts rt M inner view) {es : List ε} {i : ι}
    {channel message : String} (h : (channel, message) ∈ (inner (M.run es)).wire i) :
    ∃ pre d e post u m exclude, es = pre ++ d :: post ∧ view d = some (.cluster (.ws i e)) ∧
      Requests (rt i).json ((inner (M.run pre)).replicas i).registry.built u m exclude e ∧
      channel = channelFor u ∧ buildUserTopicEnvelope (rt i).json m exclude = .text message := by
  have hinit : (channel, message) ∉ (inner M.init).wire i := by
    rw [H.init]
    exact List.not_mem_nil
  obtain ⟨pre, d, post, rfl, hbefore, hafter⟩ :=
    System.exists_step_of_run (P := fun s => (channel, message) ∈ (inner s).wire i) hinit h
  cases hview : view d with
  | none =>
    rw [(H.aside hview _).1] at hafter
    exact absurd hafter hbefore
  | some e =>
    rw [H.steps hview] at hafter
    rcases mem_wire_step (H.valid pre i) hafter with hold | ⟨e', rfl, p, hp, hentry⟩
    · exact absurd hold hbefore
    · obtain ⟨u, m, exclude, hrequests, hchannel, henvelope⟩ := requests_of_issued hp
      cases hentry
      exact ⟨pre, d, e', post, u, m, exclude, rfl, hview, hrequests, hchannel, henvelope⟩

end Hosts

/-- The frame is what an open session of the addressee, not the excluded one, is to be sent for
the message. -/
def Due (J : JsonText) (io : Sockets) (r : Registry) (u : UserId) (message : String)
    (frame : SentFrame) : Prop :=
  ∃ x payload excluded, r.sessions.lookup x.clientId = some x ∧ x.userId = u ∧
    io.readyState x.socket = OPEN ∧ parseUserTopicEnvelope J message = .ok payload excluded ∧
    excluded ≠ some x.clientId ∧ frame = x.frame (J.print payload)

theorem due_of_delivered {rt : Runtime} {s : Replica} (hv : s.registry.Valid) {u : UserId}
    {message : String} {io : Sockets} {frame : SentFrame}
    (h : frame ∈ WsService.sentBetween s
      (Replica.step rt s (.deliver (channelFor u) message io))) :
    Due rt.json io s.registry u message frame := by
  rw [Replica.step, deliver_eq, WsService.sentBetween_send rfl, List.mem_flatten] at h
  obtain ⟨frames, hframes, h⟩ := h
  rw [List.eq_of_mem_replicate hframes] at h
  unfold framesFor at h
  split at h
  · next v payload excluded hchannel hparse =>
    obtain ⟨x, hx, rfl⟩ := List.mem_map.mp h
    obtain ⟨hlookup, hxv, hopen, hne⟩ := (Registry.mem_recipients hv).mp hx
    have huv : u = v := channelFor_injective (eq_channelFor_of_userIdFromChannel hchannel)
    exact ⟨x, payload, excluded, hlookup, hxv.trans huv.symm, hopen, hparse, hne, rfl⟩
  · cases h

theorem Hosts.delivered {rt : ι → Runtime} {σ ε : Type} {M : System σ ε} {inner : σ → Cluster ι}
    {view : ε → Option (Traffic ι)} (H : Hosts rt M inner view) {es : List ε} {h : Handover ι}
    (hmem : h ∈ (inner (M.run es)).history) : ∃ pre d i e mid g io post u m exclude,
      es = pre ++ d :: mid ++ g :: post ∧ view d = some (.cluster (.ws i e)) ∧
      view g = some (.cluster (.publish i io)) ∧
      Requests (rt i).json ((inner (M.run pre)).replicas i).registry.built u m exclude e ∧
      h.channel = channelFor u ∧ buildUserTopicEnvelope (rt i).json m exclude = .text h.message ∧
      ∀ j, ∀ frame ∈ h.sent j, Due (rt j).json (io j)
        ((inner (M.run (pre ++ d :: mid))).replicas j).registry u h.message frame := by
  obtain ⟨before, g, i, io, post, rfl, hg, hwire, hsent⟩ := H.handover_cases hmem
  obtain ⟨pre, d, e, mid, u, m, exclude, rfl, hd, hrequests, hchannel, henvelope⟩ :=
    H.requests_of_wire hwire
  refine ⟨pre, d, i, e, mid, g, io, post, u, m, exclude, rfl, hd, hg, hrequests, hchannel,
    henvelope, fun j frame hframe => ?_⟩
  rw [hsent, hchannel] at hframe
  exact due_of_delivered (H.valid _ j) hframe

/-- Whatever is sent to a session as a broadcast was asked for earlier, for its user, and is
sent on the session's own open socket, whichever publishes are lost on the way. -/
theorem delivered_as_requested (rt : ι → Runtime) (es : List (Traffic ι)) :
    ∀ h ∈ ((losing rt).run es).history, ∃ pre i e mid io post u m exclude,
      es = pre ++ .cluster (.ws i e) :: mid ++ .cluster (.publish i io) :: post ∧
      Requests (rt i).json (((losing rt).run pre).replicas i).registry.built u m exclude e ∧
      h.channel = channelFor u ∧ buildUserTopicEnvelope (rt i).json m exclude = .text h.message ∧
      ∀ j, ∀ frame ∈ h.sent j, Due (rt j).json (io j)
        (((losing rt).run (pre ++ .cluster (.ws i e) :: mid)).replicas j).registry u h.message
          frame := by
  intro h hmem
  obtain ⟨pre, d, i, e, mid, g, io, post, u, m, exclude, rfl, hd, hg, hrest⟩ :=
    (Hosts.itself rt).delivered hmem
  obtain rfl : d = .cluster (.ws i e) := Option.some.inj hd
  obtain rfl : g = .cluster (.publish i io) := Option.some.inj hg
  exact ⟨pre, i, e, mid, io, post, u, m, exclude, rfl, hrest⟩

def greeted : List (Traffic Bool) :=
  twoProcesses.map .cluster ++
    [.cluster (.ws false (.sendToUser "u" (.ofJson (.str "hi")) (some "a"))), .lose false 0,
      .cluster (.publish false fun _ => ⟨fun _ => OPEN, fun _ => false⟩)]

def greeters : Bool → Runtime := runtimes greeting fun _ => sample.randomUUID

theorem delivered_as_requested_greeted :
    ∃ h ∈ ((losing greeters).run greeted).history, h.sent true ≠ [] ∧
      ∃ pre i e mid io post u m exclude,
        greeted = pre ++ .cluster (.ws i e) :: mid ++ .cluster (.publish i io) :: post ∧
        Requests greeting (((losing greeters).run pre).replicas i).registry.built u m exclude e ∧
        h.channel = channelFor u ∧ buildUserTopicEnvelope greeting m exclude = .text h.message ∧
        ∀ j, ∀ frame ∈ h.sent j, Due greeting (io j)
          (((losing greeters).run (pre ++ .cluster (.ws i e) :: mid)).replicas j).registry u
            h.message frame :=
  ⟨((losing greeters).run greeted).history.head (by decide +kernel), List.head_mem _,
    by decide +kernel, delivered_as_requested greeters greeted _ (List.head_mem _)⟩

end Cluster

end NestBackend
