import NestBackend.Cluster
import NestBackend.Replica.Steady

namespace NestBackend.Cluster

open NestBackend.Js
open NestBackend.Lib
open NestBackend.Replica
open NestBackend.UserTopics
open NestBackend.UserTopics.UserTopicService
open NestBackend.Ws
open WsService (publishedBetween)

variable {ι : Type} [DecidableEq ι] {rt : ι → Runtime} {es : List (ClusterEvent ι)}

theorem topicGuard_of_noRejection {rt : Runtime} {s : Replica} {e : ReplicaEvent}
    (h : ∀ k, e ≠ .topic (.reject k)) : TopicGuard rt NoRejection s e := by
  refine System.alongFrom_of_forall (fun a ha o => ?_) _
  cases e with
  | ws e =>
    obtain ⟨m, -, rfl⟩ := List.mem_map.mp ha
    trivial
  | topic e =>
    obtain rfl := List.mem_singleton.mp ha
    cases e with
    | reject k => exact h k rfl
    | _ => trivial
  | perform | deliver => cases ha

theorem replicaEvents_of_not_rejects {e : ClusterEvent ι} (h : e.rejects = false) (j : ι)
    (c : Cluster ι) {e' : ReplicaEvent} (he : e' ∈ replicaEvents j c e) (k : Nat) :
    e' ≠ .topic (.reject k) := by
  rintro rfl
  cases e with
  | ws i e => simp [replicaEvents] at he
  | topic i e =>
    obtain ⟨-, rfl⟩ : i = j ∧ TopicEvent.reject k = e := by simpa [replicaEvents] using he
    cases h
  | perform i n => simp [replicaEvents] at he
  | publish i io =>
    simp only [replicaEvents] at he
    split at he <;> simp at he

theorem steady_replica (rt : ι → Runtime) (hcalls : ∀ e ∈ es, e.rejects = false) (j : ι) :
    Steady (topicView (((system rt).run es).replicas j)) := by
  have hcluster : (system rt).Along (fun _ e => e.rejects = false) es :=
    System.alongFrom_of_forall (fun e he _ => hcalls e he) _
  have hreplica := (refinement rt j).along
    (H := TopicGuard (rt j) NoRejection) (fun c e he => System.alongFrom_of_forall
      (fun e' he' s => topicGuard_of_noRejection (replicaEvents_of_not_rejects he j c he')) _)
    hcluster
  rw [show ((system rt).run es).replicas j = _ from (refinement rt j).abs_run es]
  exact steady_run hreplica

theorem valid_replica (rt : ι → Runtime) (es : List (ClusterEvent ι)) (j : ι) :
    (((system rt).run es).replicas j).registry.Valid := by
  rw [show ((system rt).run es).replicas j = _ from (refinement rt j).abs_run es]
  exact topicView_valid (rt j) _

theorem valid_losing (rt : ι → Runtime) (es : List (Traffic ι)) (j : ι) :
    (((losing rt).run es).replicas j).registry.Valid := by
  rw [show ((losing rt).run es).replicas j = _ from (losingRefinement rt j).abs_run es]
  exact topicView_valid (rt j) _

theorem publishedBetween_sendToUser (J : JsonText) (u : UserId) (m : Json)
    (exclude : Option ClientId) (author : Option Session) (s : Replica) :
    publishedBetween s (WsService.sendToUser J u (.ofJson m) exclude author s).1 =
      [(channelFor u, J.print (envelopeJson m exclude))] := by
  simp [WsService.sendToUser, buildUserTopicEnvelope_ofJson, publishedBetween, Effect.published]

theorem framesFor_broadcast {J : JsonText} {u : UserId} {m : Json} {exclude : Option ClientId}
    (hu : NonBlank u) (hid : ∀ id, exclude = some id → NonBlank id)
    (hread : J.Reads (envelopeJson m exclude)) (io : Sockets) (r : Registry) :
    framesFor J io r (channelFor u) (J.print (envelopeJson m exclude)) =
      (r.recipients io u exclude).map (·.frame (J.print m)) := by
  rw [framesFor, userIdFromChannel_channelFor hu, parseUserTopicEnvelope_print hread hid]

theorem recipients_of_no_sessions {r : Registry} {u : UserId} (h : ¬ 0 < r.countUserSessions u)
    (hr : r.Valid) (io : Sockets) (exclude : Option ClientId) : r.recipients io u exclude = [] := by
  rw [List.eq_nil_iff_forall_not_mem]
  intro x hx
  obtain ⟨hlookup, hu, -⟩ := (Registry.mem_recipients hr).mp hx
  have hmem : x ∈ r.ownedSessions u := by
    simp [Registry.ownedSessions, Registry.mem_registered hr, hlookup, hu]
  rw [(Registry.ownedSessions_eq_nil_iff hr).mpr (by omega)] at hmem
  cases hmem

theorem sent_broadcast (hcalls : ∀ e ∈ es, e.rejects = false) {u : UserId} {m : Json}
    {exclude : Option ClientId} (hu : NonBlank u) (hid : ∀ id, exclude = some id → NonBlank id)
    (j : ι) (hread : (rt j).json.Reads (envelopeJson m exclude))
    (hidle : (((system rt).run es).replicas j).world.topics.Idle (channelFor u)) (io : Sockets) :
    WsService.sentBetween (((system rt).run es).replicas j)
        (Replica.step (rt j) (((system rt).run es).replicas j) (.deliver (channelFor u)
          ((rt j).json.print (envelopeJson m exclude)) io)) =
      ((((system rt).run es).replicas j).registry.recipients io u exclude).map
        (·.frame ((rt j).json.print m)) := by
  have hsteady := steady_replica rt hcalls j
  have hv := valid_replica rt es j
  rw [Replica.step, deliver_eq, WsService.sentBetween_send rfl, framesFor_broadcast hu hid hread,
    listenersOn_of_idle hidle]
  have hexpected := hsteady.expected (channelFor u)
  rw [show (topicView _).world = (((system rt).run es).replicas j).world.topics from rfl]
    at hexpected
  rw [hexpected]
  split
  · simp
  · next hout =>
    have hnone : (((system rt).run es).replicas j).registry.recipients io u exclude = [] :=
      recipients_of_no_sessions (fun h => hout ((hsteady.claimed u).mpr h)) hv io exclude
    simp [hnone]

inductive Sends (J : JsonText) (s : Replica) (u : UserId) (m : Json) (exclude : Option ClientId) :
    WsEvent → Prop
  | called : Sends J s u m exclude (.sendToUser u (.ofJson m) exclude)
  | framed {ref : Nat} {session : Session} {data : RawData} (io : Sockets)
      (hbuilt : s.registry.built[ref]? = some session)
      (hframe : parseInboundFrame J data = .send u m)
      (hmay : canSendTo session.userId u = true)
      (hexclude : exclude = some session.clientId) : Sends J s u m exclude (.message ref data io)

theorem handleMessage_send {J : JsonText} {data : RawData} {u : UserId} {m : Json}
    (hframe : parseInboundFrame J data = .send u m) {session : Session}
    (hmay : canSendTo session.userId u = true) (io : Sockets) (s : Replica) :
    WsService.handleMessage J io session data s =
      (WsService.sendToUser J u (.ofJson m) (some session.clientId) (some session) s).1 := by
  simp [WsService.handleMessage, hframe, hmay, WsService.sendToUser, buildUserTopicEnvelope_ofJson]

theorem wire_of_sends {c : Cluster ι} {i : ι} {u : UserId} {m : Json}
    {exclude : Option ClientId} {e : WsEvent}
    (h : Sends (rt i).json (c.replicas i) u m exclude e) :
    (c.step rt (.ws i e)).wire i =
      c.wire i ++ [(channelFor u, (rt i).json.print (envelopeJson m exclude))] := by
  rw [step, wire_advance]
  cases h with
  | called =>
    exact congrArg (c.wire i ++ ·) (publishedBetween_sendToUser (rt i).json u m exclude none _)
  | @framed ref session data io hbuilt hframe hmay hexclude =>
    have hstep : Replica.step (rt i) (c.replicas i) (.ws (.message ref data io)) =
        WsService.handleMessage (rt i).json io session data (c.replicas i) := by
      simp [Replica.step, WsService.step, hbuilt, Runtime.deps]
    rw [hstep, handleMessage_send hframe hmay, publishedBetween_sendToUser, hexclude]

theorem wire_publish {c : Cluster ι} {i : ι} {channel message : String}
    {rest : List (String × String)} (h : c.wire i = (channel, message) :: rest)
    (io : ι → Sockets) : (c.step rt (.publish i io)).wire i = rest := by
  simp [step, publish, h]

theorem replicas_publish {c : Cluster ι} {i : ι} {channel message : String}
    {rest : List (String × String)} (h : c.wire i = (channel, message) :: rest)
    (io : ι → Sockets) (j : ι) : (c.step rt (.publish i io)).replicas j =
      Replica.step (rt j) (c.replicas j) (.deliver channel message (io j)) := by
  simp [step, publish, h]

def payloadText (J : JsonText) (message : String) : Option String :=
  match parseUserTopicEnvelope J message with
  | .ok payload _ => some (J.print payload)
  | .invalid _ => none

def publishedTo (J : JsonText) (c : Cluster ι) (u : UserId) : List String :=
  c.history.filterMap fun h => if h.channel = channelFor u then payloadText J h.message else none

def received (c : Cluster ι) (j : ι) (ref : Nat) : List String :=
  c.history.flatMap fun h => ((h.sent j).filter (·.ref = ref)).map (·.payload)

structure Addressed (J : JsonText) (c : Cluster ι) (h : Handover ι) (j : ι) : Prop where
  once : ((h.sent j).map (·.ref)).Nodup
  owner : ∀ frame ∈ h.sent j, ∃ x ∈ (c.replicas j).registry.built, x.ref = frame.ref ∧
    h.channel = channelFor x.userId ∧ payloadText J h.message = some frame.payload

theorem mem_framesFor {J : JsonText} {io : Sockets} {r : Registry} (hr : r.Valid)
    {channel message : String} {frame : SentFrame}
    (h : frame ∈ framesFor J io r channel message) :
    ∃ x ∈ r.built, x.ref = frame.ref ∧ channel = channelFor x.userId ∧
      payloadText J message = some frame.payload := by
  unfold framesFor at h
  split at h
  · next u payload exclude hchannel hmessage =>
    obtain ⟨x, hx, rfl⟩ := List.mem_map.mp h
    obtain ⟨hlookup, rfl, -⟩ := (Registry.mem_recipients hr).mp hx
    exact ⟨x, List.mem_of_getElem? (hr.built hlookup), rfl,
      eq_channelFor_of_userIdFromChannel hchannel, by rw [payloadText, hmessage]; rfl⟩
  · cases h

theorem Addressed.step (rt : ι → Runtime) {J : JsonText} {c : Cluster ι} {h : Handover ι} {j : ι}
    (ha : Addressed J c h j) (e : ClusterEvent ι) : Addressed J (c.step rt e) h j where
  once := ha.once
  owner frame hmem := by
    obtain ⟨x, hx, hrest⟩ := ha.owner frame hmem
    refine ⟨x, ?_, hrest⟩
    rw [replicas_step]
    exact (built_prefix_runFrom (rt j) _ _).subset hx

theorem addressed_deliver (rt : Runtime) {s : Replica} (hv : s.registry.Valid)
    {channel : String} (message : String) (hone : s.world.topics.listenersOn channel ≤ 1)
    (io : Sockets) :
    let sent := WsService.sentBetween s (Replica.step rt s (.deliver channel message io))
    (sent.map (·.ref)).Nodup ∧ ∀ frame ∈ sent, ∃ x ∈ s.registry.built, x.ref = frame.ref ∧
      channel = channelFor x.userId ∧ payloadText rt.json message = some frame.payload := by
  intro sent
  have hsent : sent = [] ∨ sent = framesFor rt.json io s.registry channel message := by
    have hframes : sent = (List.replicate (s.world.topics.listenersOn channel)
        (framesFor rt.json io s.registry channel message)).flatten := by
      simp only [sent, Replica.step, deliver_eq]
      exact WsService.sentBetween_send rfl _
    rcases Nat.le_one_iff_eq_zero_or_eq_one.mp hone with h | h
    · exact .inl (by simp [hframes, h])
    · exact .inr (by simp [hframes, h])
  rcases hsent with h | h
  · rw [h]
    simp
  · rw [h]
    exact ⟨nodup_framesFor rt.json io hv channel message, fun frame => mem_framesFor hv⟩

theorem addressed_run (hcalls : ∀ e ∈ es, e.rejects = false) :
    ∀ h ∈ ((system rt).run es).history, ∀ j, Addressed (rt j).json ((system rt).run es) h j := by
  induction es using List.reverseRecOn with
  | nil => exact fun h hmem => absurd hmem List.not_mem_nil
  | append_singleton es e ih =>
    have hbefore : ∀ e ∈ es, e.rejects = false := fun e he =>
      hcalls e (List.mem_append_left _ he)
    rw [System.run_concat]
    intro h hmem j
    cases e with
    | ws i e => exact (ih hbefore h hmem j).step rt (.ws i e)
    | topic i e => exact (ih hbefore h hmem j).step rt (.topic i e)
    | perform i k => exact (ih hbefore h hmem j).step rt (.perform i k)
    | publish i io =>
      have hkept : h ∈ ((system rt).run es).history → Addressed (rt j).json
          (((system rt).run es).step rt (.publish i io)) h j := fun hold =>
        (ih hbefore h hold j).step rt (.publish i io)
      change h ∈ (((system rt).run es).publish rt i io).history at hmem
      rw [publish] at hmem
      split at hmem
      · exact hkept hmem
      · next channel message rest hwire =>
        rcases List.mem_append.mp hmem with hold | hnew
        · exact hkept hold
        · obtain rfl := List.mem_singleton.mp hnew
          have hone := ((steady_replica rt hbefore j).single channel).now
          obtain ⟨honce, howner⟩ :=
            addressed_deliver (rt j) (valid_replica rt es j) message hone (io j)
          have hnow : Addressed (rt j).json ((system rt).run es) ⟨channel, message, fun j =>
              WsService.sentBetween (((system rt).run es).replicas j) (Replica.step (rt j)
                (((system rt).run es).replicas j) (.deliver channel message (io j)))⟩ j :=
            ⟨honce, howner⟩
          exact hnow.step rt (.publish i io)

theorem length_filter_le_one {α β : Type} [DecidableEq β] {f : α → β} {l : List α}
    (h : (l.map f).Nodup) (b : β) : (l.filter fun a => f a = b).length ≤ 1 := by
  have hcount := List.nodup_iff_count_le_one.mp h b
  rwa [List.count, List.countP_map, List.countP_eq_length_filter] at hcount

theorem flatMap_sublist_filterMap {α β : Type} {f : α → List β} {g : α → Option β} {l : List α}
    (h : ∀ a ∈ l, (f a).Sublist (g a).toList) : (l.flatMap f).Sublist (l.filterMap g) := by
  induction l with
  | nil => exact List.Sublist.slnil
  | cons a l ih =>
    have hrest := ih fun b hb => h b (List.mem_cons_of_mem _ hb)
    have hhead := (h a List.mem_cons_self).append hrest
    cases hg : g a with
    | none => simpa [hg] using hhead
    | some b => simpa [hg] using hhead

omit [DecidableEq ι] in
theorem received_sublist_published {J : JsonText} {c : Cluster ι} {j : ι}
    (hv : (c.replicas j).registry.Valid) (h : ∀ h ∈ c.history, Addressed J c h j) {x : Session}
    (hx : x ∈ (c.replicas j).registry.built) :
    (received c j x.ref).Sublist (publishedTo J c x.userId) := by
  refine flatMap_sublist_filterMap fun handover hmem => ?_
  have ha := h handover hmem
  have hlength := length_filter_le_one ha.once x.ref
  cases hframes : (handover.sent j).filter (·.ref = x.ref) with
  | nil => exact List.nil_sublist _
  | cons frame rest =>
    obtain rfl : rest = [] := by
      rw [hframes] at hlength
      simpa using hlength
    obtain ⟨hframe, href⟩ : frame ∈ handover.sent j ∧ frame.ref = x.ref := by
      have : frame ∈ (handover.sent j).filter (·.ref = x.ref) := by simp [hframes]
      simpa using this
    obtain ⟨y, hy, hyref, hchannel, htext⟩ := ha.owner frame hframe
    obtain rfl := hv.ref_inj hy hx (hyref.trans href)
    simp [hchannel, htext]

def runtimes (J : JsonText) (randomUUID : ι → Nat → String) (j : ι) : Runtime :=
  ⟨J, randomUUID j⟩

/-- Each broadcast goes on the wire once.  Redis handing it out while nothing is pending on the
user's channel makes every process send the message once to each open session of the user but
the excluded one, and nothing else; and sessions receive broadcasts in publish order. -/
theorem broadcast_fan_out (J : JsonText) (randomUUID : ι → Nat → String)
    (es : List (ClusterEvent ι)) (hcalls : ∀ e ∈ es, e.rejects = false) (u : UserId) (m : Json)
    (exclude : Option ClientId) (hu : NonBlank u) (hid : ∀ id, exclude = some id → NonBlank id)
    (hread : J.Reads (envelopeJson m exclude)) :
    let rt := runtimes J randomUUID
    let c := (system rt).run es
    (∀ i e, Sends J (c.replicas i) u m exclude e → (c.step rt (.ws i e)).wire i =
        c.wire i ++ [(channelFor u, J.print (envelopeJson m exclude))]) ∧
      (∀ i io rest, c.wire i = (channelFor u, J.print (envelopeJson m exclude)) :: rest →
        (∀ j, (c.replicas j).world.topics.Idle (channelFor u)) →
          (c.step rt (.publish i io)).wire i = rest ∧
          ∀ j, ∃ recipients : List Session, recipients.Nodup ∧
            (∀ x, x ∈ recipients ↔ (c.replicas j).registry.sessions.lookup x.clientId = some x ∧
              x.userId = u ∧ (io j).readyState x.socket = OPEN ∧ exclude ≠ some x.clientId) ∧
            WsService.sentBetween (c.replicas j) ((c.step rt (.publish i io)).replicas j) =
              recipients.map (·.frame (J.print m))) ∧
      ∀ j, ∀ x ∈ (c.replicas j).registry.built,
        (received c j x.ref).Sublist (publishedTo J c x.userId) := by
  intro rt c
  refine ⟨fun i e hsends => ?_, fun i io rest hwire hidle => ⟨?_, fun j => ?_⟩, fun j x hx => ?_⟩
  · exact wire_of_sends hsends
  · exact wire_publish hwire io
  · have hv := valid_replica rt es j
    refine ⟨_, Registry.nodup_recipients hv (io j) u exclude,
      fun x => Registry.mem_recipients hv, ?_⟩
    rw [replicas_publish hwire]
    exact sent_broadcast hcalls hu hid j hread (hidle j) (io j)
  · exact received_sublist_published (valid_replica rt es j)
      (fun h hmem => addressed_run hcalls h hmem j) hx

def twoProcesses : List (ClusterEvent Bool) :=
  [.ws false (.connect ⟨0, some "u", some "a", .fin 3600000⟩ 0 0),
    .ws true (.connect ⟨0, some "u", some "b", .fin 3600000⟩ 0 0),
    .topic true .accept, .topic false .accept,
    .ws false (.sendToUser "u" (.ofJson (.str "hi")) (some "a"))]

def greeting : JsonText := .reading [envelopeJson (.str "hi") (some "a")]

theorem broadcast_fan_out_two_processes :
    let rt := runtimes greeting fun _ => sample.randomUUID
    let c := (system rt).run twoProcesses
    let io : Bool → Sockets := fun _ => ⟨fun _ => OPEN, fun _ => false⟩
    ∃ recipients : List Session, recipients.Nodup ∧
      (∀ x, x ∈ recipients ↔ (c.replicas true).registry.sessions.lookup x.clientId = some x ∧
        x.userId = "u" ∧ ((io true).readyState x.socket = OPEN) ∧ some "a" ≠ some x.clientId) ∧
      WsService.sentBetween (c.replicas true) ((c.step rt (.publish false io)).replicas true) =
        recipients.map (·.frame (greeting.print (.str "hi"))) :=
  ((broadcast_fan_out greeting (fun _ => sample.randomUUID) twoProcesses (by decide +kernel) "u"
    (.str "hi") (some "a") (by decide +kernel) (by decide +kernel)
    (by simp [JsonText.Reads, greeting, JsonText.reading])).2.1 false
    (fun _ => ⟨fun _ => OPEN, fun _ => false⟩) [] (by decide +kernel) (by decide +kernel)).2 true

end NestBackend.Cluster
