import Mathlib.Data.List.Forall2
import NestBackend.Cluster.FanOut
import NestBackend.Lib.History

namespace NestBackend

open NestBackend.Js
open NestBackend.Lib
open NestBackend.Replica
open NestBackend.UserTopics
open NestBackend.UserTopics.UserTopicService
open NestBackend.Ws
open WsService (publishedBetween)

structure Asked where
  author : Session
  target : UserId
  message : Json

def Replica.askedBy (J : JsonText) (s : Replica) : WsEvent → Option Asked
  | .message ref data _ =>
    match s.registry.built[ref]?, parseInboundFrame J data with
    | some author, .send target message => some ⟨author, target, message⟩
    | _, _ => none
  | _ => none

namespace Cluster

variable {ι : Type} [DecidableEq ι]

def noteAsked (rt : ι → Runtime) (c : Cluster ι) (e : Traffic ι)
    (asked : ι → List (Option Asked)) : ι → List (Option Asked) :=
  match e with
  | .cluster (.ws i e) =>
    let t := Replica.step (rt i) (c.replicas i) (.ws e)
    Function.update asked i (asked i ++
      (publishedBetween (c.replicas i) t).map fun _ => askedBy (rt i).json (c.replicas i) e)
  | .cluster (.publish i _) => Function.update asked i (asked i).tail
  | .lose i k => Function.update asked i ((asked i).eraseIdx k)
  | _ => asked

def recorded (rt : ι → Runtime) : System (Cluster ι × (ι → List (Option Asked))) (Traffic ι) :=
  (losing rt).recording (noteAsked rt) fun _ => []

def Carries (J : JsonText) (r : Registry) (asked : Option Asked) (entry : String × String) : Prop :=
  ∀ a ∈ asked, a.author ∈ r.built ∧ NonBlank a.target ∧
    entry = (channelFor a.target, J.print (envelopeJson a.message (some a.author.clientId)))

def Accounted (rt : ι → Runtime) (p : Cluster ι × (ι → List (Option Asked))) : Prop :=
  ∀ i, List.Forall₂ (Carries (rt i).json (p.1.replicas i).registry) (p.2 i) (p.1.wire i)

theorem publishedBetween_frame {rt : Runtime} {s : Replica} {ref : Nat} {author : Session}
    {data : RawData} {target : UserId} {message : Json}
    (hbuilt : s.registry.built[ref]? = some author)
    (hframe : parseInboundFrame rt.json data = .send target message) (io : Sockets) :
    publishedBetween s (Replica.step rt s (.ws (.message ref data io))) =
      [(channelFor target, rt.json.print (envelopeJson message (some author.clientId)))] := by
  have hstep : Replica.step rt s (.ws (.message ref data io)) =
      WsService.handleMessage rt.json io author data s := by
    simp [Replica.step, WsService.step, hbuilt, Runtime.deps]
  rw [hstep, handleMessage_send hframe rfl, publishedBetween_sendToUser]

omit [DecidableEq ι] in
theorem carries_published (rt : Runtime) (s : Replica) (e : WsEvent) :
    List.Forall₂ (Carries rt.json s.registry)
      ((publishedBetween s (Replica.step rt s (.ws e))).map fun _ => askedBy rt.json s e)
      (publishedBetween s (Replica.step rt s (.ws e))) := by
  rw [List.forall₂_map_left_iff, List.forall₂_same]
  intro entry hentry a ha
  cases e with
  | message ref data io =>
    cases hbuilt : s.registry.built[ref]? with
    | none => simp [askedBy, hbuilt] at ha
    | some author =>
      cases hframe : parseInboundFrame rt.json data with
      | ignore | invalid => simp [askedBy, hbuilt, hframe] at ha
      | send target message =>
        obtain rfl : ⟨author, target, message⟩ = a := by
          simpa [askedBy, hbuilt, hframe] using ha
        rw [publishedBetween_frame hbuilt hframe] at hentry
        exact ⟨List.mem_of_getElem? hbuilt, nonBlank_of_send hframe, List.mem_singleton.mp hentry⟩
  | _ => cases ha

theorem recorded_frame {rt : ι → Runtime} {p : Cluster ι × (ι → List (Option Asked))} {i : ι}
    {a : Asked} {ref : Nat} {data : RawData}
    (hbuilt : (p.1.replicas i).registry.built[ref]? = some a.author)
    (hframe : parseInboundFrame (rt i).json data = .send a.target a.message) (io : Sockets) :
    ((recorded rt).step p (.cluster (.ws i (.message ref data io)))).2 i = p.2 i ++ [some a] := by
  change noteAsked rt p.1 (.cluster (.ws i (.message ref data io))) p.2 i = _
  rw [noteAsked, Function.update_self, publishedBetween_frame hbuilt hframe]
  simp [askedBy, hbuilt, hframe]

theorem built_prefix_losing (rt : ι → Runtime) (c : Cluster ι) (e : Traffic ι) (j : ι) :
    (c.replicas j).registry.built <+: (((losing rt).step c e).replicas j).registry.built := by
  rw [show ((losing rt).step c e).replicas j = _ from (losingRefinement rt j).abs_step c e]
  exact built_prefix_runFrom (rt j) _ _

theorem wire_advance_of_trace {rt : ι → Runtime} {c : Cluster ι} {i : ι} {e : ReplicaEvent}
    (h : (Replica.step (rt i) (c.replicas i) e).trace = (c.replicas i).trace) (j : ι) :
    (c.advance rt i e).wire j = c.wire j := by
  by_cases hij : j = i
  · subst hij
    simp [publishedBetween, h]
  · simp [advance, hij]

theorem accounted_step {rt : ι → Runtime} {p : Cluster ι × (ι → List (Option Asked))}
    (h : Accounted rt p) (e : Traffic ι) : Accounted rt ((recorded rt).step p e) := by
  intro j
  have hmono : ∀ {asked wire}, List.Forall₂ (Carries (rt j).json (p.1.replicas j).registry)
      asked wire → List.Forall₂ (Carries (rt j).json
        (((losing rt).step p.1 e).replicas j).registry) asked wire := fun hcarries =>
    hcarries.imp fun _ _ hentry a ha =>
      ⟨(built_prefix_losing rt p.1 e j).subset (hentry a ha).1, (hentry a ha).2⟩
  refine hmono ?_
  change List.Forall₂ _ (noteAsked rt p.1 e p.2 j) (((losing rt).step p.1 e).wire j)
  have hold := h j
  generalize hR : Carries (rt j).json (p.1.replicas j).registry = R at hold
  cases e with
  | lose i k =>
    by_cases hij : j = i
    · subst hij
      simp only [noteAsked, losing, Function.update_self, List.eraseIdx_eq_take_drop_succ]
      exact List.rel_append (List.forall₂_take _ hold) (List.forall₂_drop _ hold)
    · simpa [noteAsked, losing, hij] using hold
  | cluster e =>
    cases e with
    | ws i e =>
      by_cases hij : j = i
      · subst hij
        change List.Forall₂ R _ ((p.1.advance rt j (.ws e)).wire j)
        rw [wire_advance, noteAsked, Function.update_self]
        exact List.rel_append hold (hR ▸ carries_published (rt j) (p.1.replicas j) e)
      · simpa [noteAsked, losing, step, advance, hij] using hold
    | topic i e =>
      change List.Forall₂ R (p.2 j) ((p.1.advance rt i (.topic e)).wire j)
      rwa [wire_advance_of_trace rfl]
    | perform i k =>
      change List.Forall₂ R (p.2 j) ((p.1.advance rt i (.perform k)).wire j)
      rwa [wire_advance_of_trace rfl]
    | publish i io =>
      change List.Forall₂ R (Function.update p.2 i (p.2 i).tail j) ((p.1.publish rt i io).wire j)
      have hwire : (p.1.publish rt i io).wire = Function.update p.1.wire i (p.1.wire i).tail := by
        rw [publish]
        split
        · next hempty => rw [hempty, List.tail_nil, ← hempty, Function.update_eq_self]
        · next hhead => rw [hhead, List.tail_cons]
      rw [hwire]
      by_cases hij : j = i
      · subst hij
        simp only [Function.update_self, ← List.drop_one]
        exact List.forall₂_drop 1 hold
      · simpa [hij] using hold

theorem accounted_run (rt : ι → Runtime) (es : List (Traffic ι)) :
    Accounted rt ((recorded rt).run es) :=
  System.invariant (I := Accounted rt) (fun _ => .nil) (fun _ e h => accounted_step h e) es

theorem mem_sent_iff {J : JsonText} {randomUUID : Nat → String} {s : Replica}
    (hv : s.registry.Valid) {u : UserId} {m : Json} {exclude : Option ClientId} (hu : NonBlank u)
    (hid : ∀ id, exclude = some id → NonBlank id) (hread : J.Reads (envelopeJson m exclude))
    (hlistens : s.world.topics.Listens (channelFor u)) {io : Sockets} {x : Session}
    (hx : s.registry.sessions.lookup x.clientId = some x) (hxu : x.userId = u)
    (hopen : io.readyState x.socket = OPEN) :
    x.frame (J.print m) ∈ WsService.sentBetween s (Replica.step ⟨J, randomUUID⟩ s
        (.deliver (channelFor u) (J.print (envelopeJson m exclude)) io)) ↔
      exclude ≠ some x.clientId := by
  have hcount : s.world.topics.listenersOn (channelFor u) ≠ 0 := by
    obtain ⟨l, hl, hchannel⟩ := hlistens
    have hpos : 0 < s.world.topics.listenersOn (channelFor u) :=
      List.countP_pos_iff.mpr ⟨l, hl, by simpa using hchannel⟩
    omega
  rw [Replica.step, deliver_eq, WsService.sentBetween_send rfl, framesFor_broadcast hu hid hread,
    List.mem_flatten]
  have hmem : x.frame (J.print m) ∈ (s.registry.recipients io u exclude).map
      (·.frame (J.print m)) ↔ exclude ≠ some x.clientId := by
    constructor
    · intro hframe
      obtain ⟨y, hy, hyx⟩ := List.mem_map.mp hframe
      obtain ⟨hlookup, -, -, hne⟩ := (Registry.mem_recipients hv).mp hy
      obtain rfl := hv.eq_of_ref hlookup hx (congrArg SentFrame.ref hyx)
      exact hne
    · intro hne
      exact List.mem_map_of_mem ((Registry.mem_recipients hv).mpr ⟨hx, hxu, hopen, hne⟩)
  rw [← hmem]
  constructor
  · rintro ⟨frames, hframes, hframe⟩
    exact List.eq_of_mem_replicate hframes ▸ hframe
  · exact fun hframe => ⟨_, List.mem_replicate.mpr ⟨hcount, rfl⟩, hframe⟩

structure Reachable (c : Cluster ι) (io : ι → Sockets) (u : UserId) (j : ι) (x : Session) :
    Prop where
  registered : (c.replicas j).registry.sessions.lookup x.clientId = some x
  owner : x.userId = u
  isOpen : (io j).readyState x.socket = OPEN
  listens : (c.replicas j).world.topics.Listens (channelFor u)

def SkipsOnlyAuthor (J : JsonText) (rt : ι → Runtime) (c : Cluster ι) (i : ι) (io : ι → Sockets)
    (a : Asked) : Prop :=
  ∀ j x, Reachable c io a.target j x →
    (x.frame (J.print a.message) ∈ WsService.sentBetween (c.replicas j)
      ((c.step rt (.publish i io)).replicas j) ↔ ¬ (j = i ∧ x = a.author))

theorem skipsOnlyAuthor_next {J : JsonText} {randomUUID : ι → Nat → String}
    {es : List (Traffic ι)} {i : ι} {a : Asked} (hid : NonBlank a.author.clientId)
    (hread : J.Reads (envelopeJson a.message (some a.author.clientId)))
    (hnext : (((recorded (runtimes J randomUUID)).run es).2 i).head? = some (some a))
    (io : ι → Sockets) :
    SkipsOnlyAuthor J (runtimes J randomUUID) ((recorded (runtimes J randomUUID)).run es).1 i io a ↔
      ∀ j x, Reachable ((recorded (runtimes J randomUUID)).run es).1 io a.target j x →
        x.clientId = a.author.clientId → j = i ∧ x = a.author := by
  set rt := runtimes J randomUUID
  set c := ((recorded rt).run es).1 with hc
  have haccounted := accounted_run rt es i
  obtain ⟨later, hasked⟩ := List.head?_eq_some_iff.mp hnext
  rw [hasked, List.forall₂_cons_left_iff] at haccounted
  obtain ⟨entry, rest, hcarries, -, hwire⟩ := haccounted
  obtain ⟨-, htarget, rfl⟩ := hcarries a rfl
  have hv : ∀ j, (c.replicas j).registry.Valid := by
    intro j
    rw [hc, show ((recorded rt).run es).1 = (losing rt).run es from System.fst_run_recording es]
    exact valid_losing rt es j
  have hsent : ∀ j x, Reachable c io a.target j x →
      (x.frame (J.print a.message) ∈ WsService.sentBetween (c.replicas j)
        ((c.step rt (.publish i io)).replicas j) ↔ some a.author.clientId ≠ some x.clientId) := by
    intro j x hx
    rw [replicas_publish hwire io j]
    exact mem_sent_iff (hv j) htarget (fun id h => Option.some.inj h ▸ hid) hread hx.listens
      hx.registered hx.owner hx.isOpen
  constructor
  · intro h j x hx hclient
    by_contra hother
    exact (hsent j x hx).mp ((h j x hx).mpr hother) (by rw [hclient])
  · intro h j x hx
    rw [hsent j x hx]
    constructor
    · rintro hne ⟨-, rfl⟩
      exact hne rfl
    · exact fun hother heq => hother (h j x hx (Option.some.inj heq).symm)

/-- A frame that asks for a send puts itself on record behind what its process has on the wire.
Once Redis takes its publish, only the author is left out exactly when no other session that it
could reach is registered under the author's client id. -/
theorem skipsOnlyAuthor_iff (J : JsonText) (randomUUID : ι → Nat → String) (es : List (Traffic ι))
    (i : ι) (a : Asked) (hid : NonBlank a.author.clientId)
    (hread : J.Reads (envelopeJson a.message (some a.author.clientId))) :
    let rt := runtimes J randomUUID
    let p := (recorded rt).run es
    (∀ ref data io, (p.1.replicas i).registry.built[ref]? = some a.author →
      parseInboundFrame J data = .send a.target a.message →
        ((recorded rt).step p (.cluster (.ws i (.message ref data io)))).2 i =
          p.2 i ++ [some a]) ∧
      ∀ io, (p.2 i).head? = some (some a) →
        (SkipsOnlyAuthor J rt p.1 i io a ↔ ∀ j x, Reachable p.1 io a.target j x →
          x.clientId = a.author.clientId → j = i ∧ x = a.author) := by
  intro rt p
  refine ⟨fun ref data io hbuilt hframe => ?_, fun io hnext => ?_⟩
  · exact recorded_frame hbuilt hframe io
  · exact skipsOnlyAuthor_next hid hread hnext io

def frameToBob : Json :=
  .obj [("op", .str "sendMessage"), ("target", .str "bob"), ("message", .num 1)]

def note : JsonText := .reading [frameToBob, envelopeJson (.num 1) (some "tab")]

def writesToBob (clientId : ClientId) : List (Traffic Bool) :=
  [.cluster (.ws false (.connect ⟨0, some "alice", some "tab", .fin 3600000⟩ 0 0)),
    .cluster (.ws true (.connect ⟨0, some "bob", some clientId, .fin 3600000⟩ 0 0)),
    .cluster (.topic false .accept), .cluster (.topic true .accept),
    .cluster (.ws false (.message 0 (.string frameToBob.compact) ⟨fun _ => OPEN, fun _ => false⟩))]

def alice : Session := ⟨0, "alice", "tab", 0, "", .fin 3600000⟩

def bob (clientId : ClientId) : Session := ⟨0, "bob", clientId, 0, "", .fin 3600000⟩

theorem reads_note : note.Reads (envelopeJson (.num 1) (some "tab")) := rfl

theorem skipsOnlyAuthor_phone :
    let rt := runtimes note fun _ => sample.randomUUID
    SkipsOnlyAuthor note rt ((recorded rt).run (writesToBob "phone")).1 false
      (fun _ => ⟨fun _ => OPEN, fun _ => false⟩) ⟨alice, "bob", .num 1⟩ := by
  refine ((skipsOnlyAuthor_iff note (fun _ => sample.randomUUID) (writesToBob "phone") false
    ⟨alice, "bob", .num 1⟩ (by decide) reads_note).2 (fun _ => ⟨fun _ => OPEN, fun _ => false⟩)
    (by with_unfolding_all rfl)).mpr ?_
  intro j x hx hclient
  have hheld := hx.registered
  rw [hclient] at hheld
  cases j with
  | true => exact absurd hheld (by
      rw [show AList.lookup _ _ = none by decide +kernel]
      nofun)
  | false =>
    have halice : (((recorded (runtimes note fun _ => sample.randomUUID)).run
        (writesToBob "phone")).1.replicas false).registry.sessions.lookup "tab" = some alice := by
      decide +kernel
    obtain rfl := Option.some.inj (halice.symm.trans hheld)
    exact ⟨rfl, rfl⟩

theorem another_session_is_skipped :
    ¬ ∀ (es : List (Traffic Bool)) (i : Bool) (io : Bool → Sockets) (a : Asked),
      NonBlank a.author.clientId →
      note.Reads (envelopeJson a.message (some a.author.clientId)) →
      (((recorded (runtimes note fun _ => sample.randomUUID)).run es).2 i).head? = some (some a) →
      SkipsOnlyAuthor note (runtimes note fun _ => sample.randomUUID)
        ((recorded (runtimes note fun _ => sample.randomUUID)).run es).1 i io a := by
  intro h
  have hskips := h (writesToBob "tab") false (fun _ => ⟨fun _ => OPEN, fun _ => false⟩)
    ⟨alice, "bob", .num 1⟩ (by decide) reads_note (by with_unfolding_all rfl)
  have hsent := (hskips true (bob "tab")
    ⟨by decide +kernel, rfl, rfl, by decide +kernel⟩).mpr (by simp)
  exact absurd hsent (by decide +kernel)

end Cluster

end NestBackend
