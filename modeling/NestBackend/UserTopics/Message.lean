import NestBackend.Ws.SessionInterface

namespace NestBackend.UserTopics

open NestBackend.Js
open NestBackend.Ws

def USER_CHANNEL_PREFIX : String := "user:"

inductive ParseEnvelopeResult where
  | ok (payload : Json) (excludeClientId : Option ClientId)
  | invalid (reason : String)

def channelFor (userId : UserId) : String := USER_CHANNEL_PREFIX ++ userId

def userTopicEnvelope (payload : Value) (excludeClientId : Option ClientId) : Value :=
  match excludeClientId with
  | none => .object [("payload", payload)]
  | some id => .object [("payload", payload), ("excludeClientId", .string id)]

def buildUserTopicEnvelope (J : JsonText) (payload : Value)
    (excludeClientId : Option ClientId) : Stringified :=
  J.stringify (userTopicEnvelope payload excludeClientId)

def parseUserTopicEnvelope (J : JsonText) (raw : String) : ParseEnvelopeResult :=
  match J.parse raw with
  | none => .invalid "malformed JSON"
  | some parsed =>
    if !parsed.isObject then .invalid "envelope is not an object"
    else match parsed.get? "payload" with
      | none => .invalid "missing payload"
      | some payload =>
        let excludeClientId := match parsed.read "excludeClientId" with
          | .string id => parseClientId (.string id)
          | _ => none
        if !(parsed.read "excludeClientId").isUndefined && excludeClientId.isNone then
          .invalid "invalid excludeClientId"
        else .ok payload excludeClientId

def userIdFromChannel (channel : String) : Option UserId :=
  if !startsWith channel USER_CHANNEL_PREFIX then none
  else parseUserId (.string (slice channel USER_CHANNEL_PREFIX.length))

theorem channelFor_injective : Function.Injective channelFor := by
  intro u v h
  apply String.toList_inj.mp
  simpa [channelFor] using congrArg String.toList h

@[simp] theorem channelFor_inj {u v : UserId} : channelFor u = channelFor v ↔ u = v :=
  channelFor_injective.eq_iff

theorem userIdFromChannel_channelFor {u : UserId} (h : NonBlank u) :
    userIdFromChannel (channelFor u) = some u := by
  have hlen : USER_CHANNEL_PREFIX.length = USER_CHANNEL_PREFIX.toList.length :=
    String.length_toList.symm
  simp only [userIdFromChannel, channelFor, startsWith_append, hlen, slice_append, Bool.not_true,
    Bool.false_eq_true, if_false]
  exact parseNonBlank_of_nonBlank h

theorem eq_channelFor_of_userIdFromChannel {channel : String} {u : UserId}
    (h : userIdFromChannel channel = some u) : channel = channelFor u := by
  have hlen : USER_CHANNEL_PREFIX.length = USER_CHANNEL_PREFIX.toList.length :=
    String.length_toList.symm
  unfold userIdFromChannel at h
  split at h
  · cases h
  · next hstart =>
    have hvalue := (parseNonBlank_eq_some_iff.mp h).1
    rw [hlen, Value.string.injEq] at hvalue
    have hsplit : channel =
        USER_CHANNEL_PREFIX ++ slice channel USER_CHANNEL_PREFIX.toList.length :=
      eq_append_of_startsWith (by simpa using hstart)
    rwa [hvalue] at hsplit

def envelopeJson (payload : Json) (excludeClientId : Option ClientId) : Json :=
  match excludeClientId with
  | none => .obj [("payload", payload)]
  | some id => .obj [("payload", payload), ("excludeClientId", .str id)]

theorem buildUserTopicEnvelope_ofJson (J : JsonText) (payload : Json)
    (excludeClientId : Option ClientId) :
    buildUserTopicEnvelope J (.ofJson payload) excludeClientId =
      .text (J.print (envelopeJson payload excludeClientId)) := by
  cases excludeClientId <;>
    simp [buildUserTopicEnvelope, userTopicEnvelope, envelopeJson, JsonText.stringify,
      Value.serialize, serializeProps]

theorem parseUserTopicEnvelope_print {J : JsonText} {payload : Json}
    {excludeClientId : Option ClientId} (hread : J.Reads (envelopeJson payload excludeClientId))
    (hid : ∀ id, excludeClientId = some id → NonBlank id) :
    parseUserTopicEnvelope J (J.print (envelopeJson payload excludeClientId)) =
      .ok payload excludeClientId := by
  rw [JsonText.Reads] at hread
  rw [parseUserTopicEnvelope, hread]
  cases excludeClientId with
  | none =>
    simp [envelopeJson, Json.isObject, Json.get?, Json.read, Value.isUndefined, List.lookup_cons]
  | some id =>
    have hparse : parseClientId (.string id) = some id := parseNonBlank_of_nonBlank (hid id rfl)
    simp [envelopeJson, Json.isObject, Json.get?, Json.read, Value.ofJson, List.lookup_cons, hparse]

end NestBackend.UserTopics
