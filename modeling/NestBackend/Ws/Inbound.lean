import Mathlib.Data.List.Perm.Basic
import NestBackend.Lib.History
import NestBackend.Ws.Routing
import NestBackend.Ws.Turns

namespace NestBackend.Ws

open NestBackend.Js
open NestBackend.Lib
open NestBackend.UserTopics

variable {τ : Type}

def AsksToSend (J : JsonText) (raw : RawData) (target : UserId) (message : Json) : Prop :=
  ∃ props, J.parse raw.text = some (.obj props) ∧
    props.lookup "op" = some (.str SEND_MESSAGE_OP) ∧
    props.lookup "target" = some (.str target) ∧ NonBlank target ∧
    props.lookup "message" = some message

def LacksTarget (J : JsonText) (raw : RawData) : Prop :=
  ∃ props, J.parse raw.text = some (.obj props) ∧
    props.lookup "op" = some (.str SEND_MESSAGE_OP) ∧
    ∀ target, props.lookup "target" = some (.str target) → ¬ NonBlank target

theorem read_obj_strictEq {props : List (String × Json)} {key s : String} :
    ((Json.obj props).read key).strictEq s = true ↔ props.lookup key = some (.str s) := by
  cases h : props.lookup key with
  | none => simp [Json.read, Json.get?, h, Value.strictEq]
  | some v => cases v <;> simp [Json.read, Json.get?, h, Value.ofJson, Value.strictEq]

theorem parseUserId_read_obj {props : List (String × Json)} {key : String} {u : UserId} :
    parseUserId ((Json.obj props).read key) = some u ↔
      props.lookup key = some (.str u) ∧ NonBlank u := by
  rw [parseUserId, parseNonBlank_eq_some_iff]
  cases h : props.lookup key with
  | none => simp [Json.read, Json.get?, h]
  | some v => cases v <;> simp [Json.read, Json.get?, h, Value.ofJson]

theorem AsksToSend.unique {J : JsonText} {raw : RawData} {t t' : UserId} {m m' : Json}
    (h : AsksToSend J raw t m) (h' : AsksToSend J raw t' m') : t = t' ∧ m = m' := by
  obtain ⟨props, hparse, -, ht, -, hm⟩ := h
  obtain ⟨props', hparse', -, ht', -, hm'⟩ := h'
  obtain rfl := Json.obj.inj (Option.some.inj (hparse.symm.trans hparse'))
  exact ⟨Json.str.inj (Option.some.inj (ht.symm.trans ht')), Option.some.inj (hm.symm.trans hm')⟩

theorem AsksToSend.not_lacksTarget {J : JsonText} {raw : RawData} {t : UserId} {m : Json}
    (h : AsksToSend J raw t m) : ¬ LacksTarget J raw := by
  rintro ⟨props', hparse', -, hlacks⟩
  obtain ⟨props, hparse, -, ht, hblank, -⟩ := h
  obtain rfl := Json.obj.inj (Option.some.inj (hparse.symm.trans hparse'))
  exact hlacks t ht hblank

inductive FrameCase (J : JsonText) (raw : RawData) : InboundFrame → Prop
  | send {target : UserId} {message : Json} (h : AsksToSend J raw target message) :
      FrameCase J raw (.send target message)
  | invalid (h : LacksTarget J raw) : FrameCase J raw (.invalid "invalid target")
  | ignore (hsend : ∀ target message, ¬ AsksToSend J raw target message)
      (htarget : ¬ LacksTarget J raw) (reason : String) : FrameCase J raw (.ignore reason)

theorem frameCase_of_op {J : JsonText} {raw : RawData}
    (h : ∀ props, J.parse raw.text = some (.obj props) →
      props.lookup "op" ≠ some (.str SEND_MESSAGE_OP)) (reason : String) :
    FrameCase J raw (.ignore reason) := by
  refine .ignore ?_ ?_ reason
  · rintro target message ⟨props, hparse, hop, -⟩
    exact h props hparse hop
  · rintro ⟨props, hparse, hop, -⟩
    exact h props hparse hop

theorem frameCase_parseInboundFrame (J : JsonText) (raw : RawData) :
    FrameCase J raw (parseInboundFrame J raw) := by
  unfold parseInboundFrame
  cases hparse : J.parse raw.text with
  | none => exact frameCase_of_op (fun props h => by simp [hparse] at h) _
  | some parsed =>
    cases parsed with
    | obj props =>
      have hprops : ∀ props', J.parse raw.text = some (.obj props') → props' = props :=
        fun props' h => Json.obj.inj (Option.some.inj (h.symm.trans hparse))
      simp only [Json.isObject, Bool.not_true, Bool.false_eq_true, if_false]
      by_cases hop : props.lookup "op" = some (.str SEND_MESSAGE_OP)
      · rw [read_obj_strictEq.mpr hop, Bool.not_true, if_neg Bool.false_ne_true]
        cases htarget : parseUserId ((Json.obj props).read "target") with
        | none =>
          refine .invalid ⟨props, hparse, hop, fun target ht hblank => ?_⟩
          have hsome := parseUserId_read_obj.mpr ⟨ht, hblank⟩
          rw [htarget] at hsome
          cases hsome
        | some target =>
          obtain ⟨ht, hblank⟩ := parseUserId_read_obj.mp htarget
          dsimp only [Json.get?]
          cases hmessage : props.lookup "message" with
          | some message => exact .send ⟨props, hparse, hop, ht, hblank, hmessage⟩
          | none =>
            refine .ignore ?_ ?_ _
            · rintro target' message ⟨props', hparse', -, -, -, hm⟩
              obtain rfl := hprops props' hparse'
              simp [hmessage] at hm
            · rintro ⟨props', hparse', -, hlacks⟩
              obtain rfl := hprops props' hparse'
              exact hlacks target ht hblank
      · have hne : ((Json.obj props).read "op").strictEq SEND_MESSAGE_OP = false :=
          Bool.eq_false_iff.mpr fun h => hop (read_obj_strictEq.mp h)
        rw [hne, Bool.not_false, if_pos rfl]
        exact frameCase_of_op (fun props' h => hprops props' h ▸ hop) _
    | arr items =>
      have hread : (Json.arr items).read "op" = .undefined := rfl
      simp only [Json.isObject, hread, Value.strictEq, Bool.not_true, Bool.not_false,
        Bool.false_eq_true, if_false, if_true]
      exact frameCase_of_op (fun props h => by simp [hparse] at h) _
    | _ =>
      simp only [Json.isObject, Bool.not_false, if_true]
      exact frameCase_of_op (fun props h => by simp [hparse] at h) _

theorem parseInboundFrame_eq_send_iff {J : JsonText} {raw : RawData} {t : UserId} {m : Json} :
    parseInboundFrame J raw = .send t m ↔ AsksToSend J raw t m := by
  have hcase := frameCase_parseInboundFrame J raw
  constructor
  · intro h
    rw [h] at hcase
    cases hcase with
    | send h => exact h
  · intro h
    generalize parseInboundFrame J raw = frame at hcase
    cases hcase with
    | send h' => rw [(h.unique h').1, (h.unique h').2]
    | invalid hlacks => exact absurd hlacks h.not_lacksTarget
    | ignore hsend => exact absurd h (hsend t m)

theorem parseInboundFrame_invalid_iff {J : JsonText} {raw : RawData} :
    (∃ reason, parseInboundFrame J raw = .invalid reason) ↔ LacksTarget J raw := by
  have hcase := frameCase_parseInboundFrame J raw
  generalize parseInboundFrame J raw = frame at hcase
  cases hcase with
  | send h => exact iff_of_false (by simp) h.not_lacksTarget
  | invalid h => exact iff_of_true ⟨_, rfl⟩ h
  | ignore _ h => exact iff_of_false (by simp) h

def payloadOn (ref : Nat) : WsEvent → Option RawData
  | .message r data _ => if r = ref then some data else none
  | _ => none

def publishOf (J : JsonText) (x : Session) (data : RawData) : Option (String × String) :=
  match parseInboundFrame J data with
  | .send target message =>
    some (channelFor target, J.print (envelopeJson message (some x.clientId)))
  | _ => none

def Publish.keyFor (x : Session) (p : Publish) : Option (String × String) :=
  if p.author = some x then some (p.channel, p.envelope) else none

def WsEvent.sockets : WsEvent → Option Sockets
  | .message _ _ io | .publishSettled _ _ io | .sendToClient _ _ io | .sendToLocalUser _ _ _ io =>
    some io
  | _ => none

namespace WsService

def publishedFor (deps : Deps τ) (x : Session) (s : WsService τ) (e : WsEvent) :
    List (String × String) :=
  if (payloadOn x.ref e).isSome then publishedBetween s (step deps s e) else []

def repliesTo (deps : Deps τ) (x : Session) (s : WsService τ) (e : WsEvent) : List SentFrame :=
  if frameAuthor s e = some x then sentBetween s (step deps s e) else []

def pendingOf (x : Session) (s : WsService τ) : List (String × String) :=
  s.publishes.filterMap (Publish.keyFor x)

/-- The publish for a frame of the session that the event settles, and whether it resolves. -/
def settledOf (x : Session) (s : WsService τ) : WsEvent → List ((String × String) × Bool)
  | .publishSettled i resolved _ =>
    match s.publishes[i]? with
    | some p => if p.author = some x then [((p.channel, p.envelope), resolved)] else []
    | none => []
  | _ => []

/-- The errors that the event gives the session a reason to be sent. -/
def nacksDue (J : JsonText) (x : Session) (s : WsService τ) (e : WsEvent) : List String :=
  match payloadOn x.ref e with
  | some data =>
    match parseInboundFrame J data with
    | .invalid reason => [reason]
    | _ => []
  | none => (settledOf x s e).filterMap fun p => if p.2 then none else some "delivery failed"

def Staying (x : Session) (s : WsService τ) (e : WsEvent) : Prop :=
  s.registry.sessions.lookup x.clientId = some x ∧
    ∀ io ∈ e.sockets, io.readyState x.socket = OPEN

instance (x : Session) (s : WsService τ) (e : WsEvent) : Decidable (Staying x s e) :=
  inferInstanceAs (Decidable (_ ∧ ∀ io ∈ e.sockets, _))

def issued (J : JsonText) (s : WsService τ) : WsEvent → List Publish
  | .message ref data _ =>
    match s.registry.built[ref]? with
    | some y => ((publishOf J y data).map fun p => ⟨p.1, p.2, some y⟩).toList
    | none => []
  | .sendToUser u m exclude =>
    match buildUserTopicEnvelope J m exclude with
    | .text envelope => [⟨channelFor u, envelope, none⟩]
    | _ => []
  | _ => []

def unsettled (s : WsService τ) : WsEvent → List Publish
  | .publishSettled i _ _ => s.publishes.eraseIdx i
  | _ => s.publishes

theorem fanOut_publishes (deps : Deps τ) (x : Session) (notice : Notice) (s : WsService τ) :
    (fanOut deps x notice s).publishes = s.publishes := by
  obtain ⟨fanOuts, h⟩ := fanOut_eq deps x notice s
  rw [h]

theorem release_publishes (deps : Deps τ) (x : Session) (s : WsService τ) :
    (release deps x s).1.publishes = s.publishes := by
  unfold release
  split
  · rfl
  · exact fanOut_publishes ..

theorem handleExpiry_publishes (deps : Deps τ) (x : Session) (s : WsService τ) :
    (handleExpiry deps x s).publishes = s.publishes := by
  have hrelease := release_publishes deps x s
  unfold handleExpiry
  split
  · next t h => rwa [h] at hrelease
  · next t h => rwa [h] at hrelease

theorem scheduleExpiry_publishes (deps : Deps τ) (x : Session) (now : ℚ) (s : WsService τ) :
    (scheduleExpiry deps x now s).publishes = s.publishes := by
  unfold scheduleExpiry
  dsimp only
  split
  · exact handleExpiry_publishes deps x s
  · rfl

theorem handleExpiryTimer_publishes (deps : Deps τ) (x : Session) (now now' : ℚ)
    (s : WsService τ) : (handleExpiryTimer deps x now now' s).publishes = s.publishes := by
  unfold handleExpiryTimer
  split
  · exact scheduleExpiry_publishes deps x now' s
  · exact handleExpiry_publishes deps x s

theorem handleConnection_publishes (deps : Deps τ) (params : ConnectionParams) (now now' : ℚ)
    (s : WsService τ) : (handleConnection deps params now now' s).1.publishes = s.publishes := by
  unfold handleConnection
  split
  · split
    · rfl
    · exact (scheduleExpiry_publishes ..).trans (fanOut_publishes ..)
  · rfl

theorem sendToClient_publishes (J : JsonText) (io : Sockets) (c : ClientId) (m : Value)
    (s : WsService τ) : (sendToClient J io c m s).1.publishes = s.publishes := by
  unfold sendToClient
  split
  · rfl
  · split
    · rfl
    · split <;> rfl

theorem sendToMembers_publishes (J : JsonText) (io : Sockets) (m : Value)
    (exclude : Option ClientId) (members : List ClientId) (s : WsService τ) :
    (sendToMembers J io m exclude members s).1.publishes = s.publishes := by
  induction members generalizing s with
  | nil => rfl
  | cons c members ih =>
    rw [sendToMembers]
    split
    · exact ih s
    · exact (ih _).trans (sendToClient_publishes J io c m s)

theorem sendToLocalUser_publishes (J : JsonText) (io : Sockets) (u : UserId) (m : Value)
    (exclude : Option ClientId) (s : WsService τ) :
    (sendToLocalUser J io u m exclude s).1.publishes = s.publishes := by
  unfold sendToLocalUser
  split
  · rfl
  · exact sendToMembers_publishes J io m exclude _ s

theorem handleMessage_publishes (J : JsonText) (io : Sockets) (x : Session) (data : RawData)
    (s : WsService τ) : (handleMessage J io x data s).publishes =
      s.publishes ++ ((publishOf J x data).map fun p => ⟨p.1, p.2, some x⟩).toList := by
  unfold handleMessage publishOf
  cases parseInboundFrame J data with
  | ignore reason => simp
  | invalid reason => simp [sendNack, sendToClient_publishes]
  | send target message => simp [canSendTo, sendToUser, buildUserTopicEnvelope_ofJson]

theorem settlePublish_publishes (J : JsonText) (io : Sockets) (i : Nat) (resolved : Bool)
    (s : WsService τ) : (settlePublish J io i resolved s).publishes = s.publishes.eraseIdx i := by
  unfold settlePublish
  cases h : s.publishes[i]? with
  | none => exact (List.eraseIdx_of_length_le (List.getElem?_eq_none_iff.mp h)).symm
  | some p =>
    dsimp only
    split
    · split
      · rfl
      · exact sendToClient_publishes ..
    · rfl

theorem step_publishes (deps : Deps τ) (s : WsService τ) (e : WsEvent) :
    (step deps s e).publishes = unsettled s e ++ issued deps.json s e := by
  cases e with
  | connect params now now' =>
    simpa [step, unsettled, issued] using handleConnection_publishes deps params now now' s
  | close ref =>
    simp only [step, unsettled, issued, List.append_nil]
    split
    · exact release_publishes ..
    · rfl
  | message ref data io =>
    simp only [step, unsettled, issued]
    cases s.registry.built[ref]? with
    | some y => exact handleMessage_publishes deps.json io y data s
    | none => exact (List.append_nil _).symm
  | timer id now now' =>
    simp only [step, unsettled, issued, List.append_nil]
    split
    · split
      · exact handleExpiryTimer_publishes ..
      · rfl
    · rfl
  | publishSettled i resolved io =>
    simpa [step, unsettled, issued] using settlePublish_publishes deps.json io i resolved s
  | trackersSettled i =>
    simp only [step, unsettled, issued, List.append_nil, settleFanOut]
    split
    · rfl
    · split <;> rfl
  | sendToClient c m io =>
    simpa [step, unsettled, issued] using sendToClient_publishes deps.json io c m s
  | sendToLocalUser u m exclude io =>
    simpa [step, unsettled, issued] using sendToLocalUser_publishes deps.json io u m exclude s
  | sendToUser u m exclude =>
    simp only [step, unsettled, issued, sendToUser]
    cases buildUserTopicEnvelope deps.json m exclude <;> simp
  | error | destroy => simp [step, unsettled, issued, onModuleDestroy]

theorem publishedFor_eq {deps : Deps τ} {x : Session} {s : WsService τ} {e : WsEvent}
    (hbuilt : s.registry.built[x.ref]? = some x) : publishedFor deps x s e =
      ((payloadOn x.ref e).bind (publishOf deps.json x)).toList := by
  cases e with
  | message ref data io =>
    by_cases href : ref = x.ref
    · subst href
      simp only [publishedFor, payloadOn, if_true, Option.isSome_some, Option.bind_some, step,
        hbuilt, publishOf]
      rw [publishedBetween_handleMessage]
      cases parseInboundFrame deps.json data <;> rfl
    · simp [publishedFor, payloadOn, href]
  | _ => rfl

theorem frameAuthor_message_iff {x : Session} {s : WsService τ} (hv : s.registry.Valid)
    (hbuilt : s.registry.built[x.ref]? = some x) {ref : Nat} {data : RawData} {io : Sockets} :
    frameAuthor s (.message ref data io) = some x ↔ ref = x.ref := by
  constructor
  · intro h
    exact (hv.ref h).symm
  · rintro rfl
    exact hbuilt

theorem repliesTo_eq {deps : Deps τ} {x : Session} {s : WsService τ} {e : WsEvent}
    (hv : s.registry.Valid) (h : Staying x s e) : repliesTo deps x s e =
      (nacksDue deps.json x s e).map fun reason => x.frame (nackText deps.json reason) := by
  obtain ⟨hheld, hopen⟩ := h
  have hbuilt : s.registry.built[x.ref]? = some x := hv.built hheld
  have hsession : ∀ io ∈ e.sockets, s.registry.openSession io x.clientId = some x :=
    fun io hio => Registry.openSession_eq_some_iff.mpr ⟨hheld, hopen io hio⟩
  cases e with
  | message ref data io =>
    by_cases href : ref = x.ref
    · subst href
      have hauthor : frameAuthor s (.message x.ref data io) = some x := hbuilt
      rw [repliesTo, if_pos hauthor, sentBetween_step deps s hauthor]
      simp only [rejection, nacksDue, payloadOn, if_true]
      cases parseInboundFrame deps.json data with
      | invalid reason => simp [hsession io rfl]
      | ignore | send => rfl
    · have hauthor : ¬ frameAuthor s (.message ref data io) = some x :=
        fun h => href ((frameAuthor_message_iff hv hbuilt).mp h)
      rw [repliesTo, if_neg hauthor]
      simp [nacksDue, payloadOn, href, settledOf]
  | publishSettled i resolved io =>
    simp only [nacksDue, payloadOn, settledOf]
    by_cases hauthor : frameAuthor s (.publishSettled i resolved io) = some x
    · obtain ⟨p, hp, ha⟩ := Option.bind_eq_some_iff.mp hauthor
      rw [repliesTo, if_pos hauthor, sentBetween_step deps s hauthor]
      simp only [hp, if_pos ha]
      cases resolved with
      | true => rfl
      | false => simp [rejection, hsession io rfl]
    · rw [repliesTo, if_neg hauthor]
      cases hp : s.publishes[i]? with
      | none => rfl
      | some p =>
        have ha : ¬ p.author = some x := fun ha => hauthor (by simp [frameAuthor, hp, ha])
        simp [ha]
  | _ => rfl

theorem pendingOf_unsettled (x : Session) (s : WsService τ) (e : WsEvent) :
    (pendingOf x s).Perm
      ((unsettled s e).filterMap (Publish.keyFor x) ++ (settledOf x s e).map Prod.fst) := by
  cases e with
  | publishSettled i resolved io =>
    simp only [unsettled, settledOf]
    cases hp : s.publishes[i]? with
    | none =>
      rw [List.eraseIdx_of_length_le (List.getElem?_eq_none_iff.mp hp), List.map_nil,
        List.append_nil]
      exact List.Perm.refl _
    | some p =>
      obtain ⟨hlt, rfl⟩ := List.getElem?_eq_some_iff.mp hp
      have hperm := ((List.getElem_cons_eraseIdx_perm hlt).filterMap (Publish.keyFor x)).symm
      refine hperm.trans ?_
      dsimp only
      by_cases ha : s.publishes[i].author = some x
      · have hkey : Publish.keyFor x s.publishes[i] =
            some (s.publishes[i].channel, s.publishes[i].envelope) := if_pos ha
        rw [List.filterMap_cons_some hkey, if_pos ha]
        exact (List.perm_append_singleton _ _).symm
      · have hkey : Publish.keyFor x s.publishes[i] = none := if_neg ha
        rw [List.filterMap_cons_none hkey, if_neg ha, List.map_nil, List.append_nil]
  | _ =>
    simp only [unsettled, settledOf, List.map_nil, List.append_nil]
    exact List.Perm.refl _

theorem filterMap_issued {deps : Deps τ} {x : Session} {s : WsService τ} {e : WsEvent}
    (hv : s.registry.Valid) (hbuilt : s.registry.built[x.ref]? = some x) :
    (issued deps.json s e).filterMap (Publish.keyFor x) = publishedFor deps x s e := by
  rw [publishedFor_eq hbuilt]
  cases e with
  | message ref data io =>
    simp only [issued, payloadOn]
    by_cases href : ref = x.ref
    · subst href
      rw [hbuilt, if_pos rfl, Option.bind_some]
      dsimp only
      cases publishOf deps.json x data <;> simp [Publish.keyFor]
    · rw [if_neg href]
      cases hy : s.registry.built[ref]? with
      | none => rfl
      | some y =>
        have hne : y ≠ x := fun heq => href (by rw [← heq, hv.ref hy])
        dsimp only
        cases publishOf deps.json y data <;> simp [Publish.keyFor, hne]
  | sendToUser u m exclude =>
    simp only [issued, payloadOn]
    split <;> simp [Publish.keyFor]
  | _ => rfl

theorem pendingOf_step {deps : Deps τ} {x : Session} {s : WsService τ} {e : WsEvent}
    (hv : s.registry.Valid) (hbuilt : s.registry.built[x.ref]? = some x) :
    (pendingOf x s ++ publishedFor deps x s e).Perm
      (pendingOf x (step deps s e) ++ (settledOf x s e).map Prod.fst) := by
  have hpending : pendingOf x (step deps s e) =
      (unsettled s e).filterMap (Publish.keyFor x) ++ publishedFor deps x s e := by
    rw [← filterMap_issued hv hbuilt, ← List.filterMap_append, ← step_publishes]
    rfl
  rw [hpending, List.append_assoc]
  refine ((pendingOf_unsettled x s e).append_right _).trans ?_
  rw [List.append_assoc]
  exact List.perm_append_comm.append_left _

/-- Over any stretch of a run in which a session stays, with any publishes pending and settling
in any order: what is published for its frames, which of these publishes settle, and the error
frames that the session is sent. -/
theorem inbound_frames (deps : Deps τ) (world : τ) (pre es : List WsEvent) (x : Session)
    (hstays : (system deps world).AlongFrom (Staying x) ((system deps world).run pre) es) :
    let M := system deps world
    let s := M.run pre
    let published := M.collectFrom (publishedFor deps x) s es
    let settled := M.collectFrom (settledOf x) s es
    published = (es.filterMap (payloadOn x.ref)).filterMap (publishOf deps.json x) ∧
      (pendingOf x s ++ published).Perm (pendingOf x (M.runFrom s es) ++ settled.map Prod.fst) ∧
      M.collectFrom (repliesTo deps x) s es =
        (M.collectFrom (nacksDue deps.json x) s es).map
          (fun reason => x.frame (nackText deps.json reason)) ∧
      (∀ raw target message, parseInboundFrame deps.json raw = .send target message ↔
        AsksToSend deps.json raw target message) ∧
      (∀ raw, (∃ reason, parseInboundFrame deps.json raw = .invalid reason) ↔
        LacksTarget deps.json raw) ∧
      ∀ (s : WsService τ) ref data io, let t := step deps s (.message ref data io)
        t.registry = s.registry ∧ t.timers = s.timers ∧ OnlySends s t := by
  intro M s published settled
  have hvalid : M.AlongFrom (fun s e => s.registry.Valid ∧ Staying x s e) s es :=
    hstays.of_reachable (I := fun s => s.registry.Valid) (valid_run deps world)
      fun _ _ => And.intro
  refine ⟨?_, ?_, ?_, fun raw target message => parseInboundFrame_eq_send_iff,
    fun raw => parseInboundFrame_invalid_iff, fun s ref data io => ?_⟩
  · have hpublished : published = es.flatMap fun e =>
        ((payloadOn x.ref e).bind (publishOf deps.json x)).toList := by
      rw [← System.collectFrom_stateless (M := M) _ s es]
      exact System.collectFrom_congr
        (hvalid.mono fun s e h => publishedFor_eq (h.1.built h.2.1))
    rw [hpublished, List.filterMap_filterMap]
    exact (List.filterMap_eq_flatMap_toList _ _).symm
  · rw [show settled.map Prod.fst = _ from (System.collectFrom_map ..).symm]
    exact System.collectFrom_balance
      (hvalid.mono fun s e h => pendingOf_step h.1 (h.1.built h.2.1))
  · rw [← System.collectFrom_map]
    exact System.collectFrom_congr (hvalid.mono fun s e h => repliesTo_eq h.1 h.2)
  · have hquiet := quiet_step deps s (e := .message ref data io) rfl
    exact ⟨hquiet.registry, hquiet.timers, OnlySends.step deps s rfl⟩

def onTab : Session := ⟨0, "alice", "tab", 0, "0", .fin 3600000⟩

def connectsOnTab : List WsEvent := [.connect onTab.params 0 0]

def sendsTwice : List WsEvent :=
  let io : Sockets := ⟨fun _ => OPEN, fun _ => false⟩
  let frame : WsEvent := .message 0
    (.string "\x7b\"op\":\"sendMessage\",\"target\":\"carol\",\"message\":1\x7d") io
  [frame, frame, .publishSettled 0 false io]

theorem inbound_frames_twice :
    (system bareDeps ()).collectFrom (publishedFor bareDeps onTab)
        ((system bareDeps ()).run connectsOnTab) sendsTwice =
      List.replicate 2 ("user:carol",
        "\x7b\"payload\":1,\"excludeClientId\":\"tab\"\x7d") := by
  have hpublished :=
    (inbound_frames bareDeps () connectsOnTab sendsTwice onTab (by decide +kernel)).1
  rw [hpublished]
  decide +kernel

end WsService

end NestBackend.Ws
