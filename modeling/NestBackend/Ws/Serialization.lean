import NestBackend.Ws.Frames

namespace NestBackend.Ws

open NestBackend.Js
open NestBackend.Lib
open NestBackend.UserTopics

variable {τ : Type}

def wrap (exclude : Option ClientId) : Serialized → Serialized
  | .throws => .throws
  | .omitted => .value (.obj (exclude.toList.map fun id => ("excludeClientId", .str id)))
  | .value j => .value (envelopeJson j exclude)

theorem serialize_userTopicEnvelope (m : Value) (exclude : Option ClientId) :
    (userTopicEnvelope m exclude).serialize false "" =
      wrap exclude (m.serialize false "payload") := by
  cases exclude with
  | none =>
    cases h : m.serialize false "payload" <;>
      simp [userTopicEnvelope, Value.serialize, serializeProps, h, wrap, envelopeJson]
  | some id =>
    cases h : m.serialize false "payload" <;>
      simp [userTopicEnvelope, Value.serialize, serializeProps, h, wrap, envelopeJson]

theorem parse_payloadless {J : JsonText} {exclude : Option ClientId} {j : Json}
    (hj : wrap exclude .omitted = .value j) (hread : J.Reads j) :
    parseUserTopicEnvelope J (J.print j) = .invalid "missing payload" := by
  rw [JsonText.Reads] at hread
  rw [parseUserTopicEnvelope, hread]
  cases hj
  cases exclude with
  | none => rfl
  | some id =>
    have hkey : Json.get? (.obj [("excludeClientId", .str id)]) "payload" = none := rfl
    simp [Json.isObject, hkey]

namespace WsService

def SendsDirectly (J : JsonText) (m : Value) : Prop := ∃ text, J.stringify m = .text text

/-- The call rejects and nothing is published, as `sendToClient` would send nothing; or one
envelope is published, which receivers accept with the JSON form of the message and the same
exclusion. -/
def NoSilentLoss (J : JsonText) (u : UserId) (m : Value) (exclude : Option ClientId)
    (author : Option Session) (s : WsService τ) : Prop :=
  let (t, result) := sendToUser J u m exclude author s
  ((∃ reason, result = .error reason) ∧ publishedBetween s t = [] ∧ ¬ SendsDirectly J m) ∨
    ∃ envelope j, result = .ok () ∧ publishedBetween s t = [(channelFor u, envelope)] ∧
      parseUserTopicEnvelope J envelope = .ok j exclude ∧
      J.stringify m = .text (J.print j) ∧ m.serialize false "" = .value j

/-- `JSON.stringify` prints the message alike whether or not it is wrapped; or it throws on the
wrapped one, and does not print it alone either. -/
inductive Wrappable (m : Value) : Prop
  | throws (hinner : m.serialize false "payload" = .throws)
      (houter : ∀ j, m.serialize false "" ≠ .value j)
  | prints (j : Json) (hinner : m.serialize false "payload" = .value j)
      (houter : m.serialize false "" = .value j)

theorem sendsDirectly_iff {J : JsonText} {m : Value} :
    SendsDirectly J m ↔ ∃ j, m.serialize false "" = .value j := by
  unfold SendsDirectly JsonText.stringify
  cases m.serialize false "" <;> simp

theorem noSilentLoss_published {J : JsonText} {u : UserId} {m : Value} {exclude : Option ClientId}
    {author : Option Session} {s : WsService τ} {j : Json}
    (h : wrap exclude (m.serialize false "payload") = .value j) :
    NoSilentLoss J u m exclude author s ↔
      ∃ k, parseUserTopicEnvelope J (J.print j) = .ok k exclude ∧
        m.serialize false "" = .value k := by
  unfold NoSilentLoss sendToUser buildUserTopicEnvelope JsonText.stringify
  rw [serialize_userTopicEnvelope, h]
  dsimp only
  constructor
  · rintro (⟨⟨reason, hresult⟩, -⟩ | ⟨envelope, k, -, hpublished, hok, -, houter⟩)
    · cases hresult
    · obtain rfl : J.print j = envelope := by
        simpa [publishedBetween, Effect.published] using hpublished
      exact ⟨k, hok, houter⟩
  · rintro ⟨k, hok, houter⟩
    exact .inr ⟨_, k, rfl, by simp [publishedBetween, Effect.published], hok, by rw [houter],
      houter⟩

/-- A broadcast is not lost silently exactly when its value is `Wrappable`. -/
theorem noSilentLoss_iff (J : JsonText) (u : UserId) (m : Value) (exclude : Option ClientId)
    (author : Option Session) (s : WsService τ) (hid : ∀ id, exclude = some id → NonBlank id)
    (hread : ∀ j, (userTopicEnvelope m exclude).serialize false "" = .value j → J.Reads j) :
    NoSilentLoss J u m exclude author s ↔ Wrappable m := by
  rw [serialize_userTopicEnvelope] at hread
  cases hinner : m.serialize false "payload" with
  | throws =>
    unfold NoSilentLoss sendToUser buildUserTopicEnvelope JsonText.stringify
    rw [serialize_userTopicEnvelope, sendsDirectly_iff, hinner]
    simp only [wrap, publishedBetween_refl]
    constructor
    · rintro (⟨-, -, hdirect⟩ | ⟨_, _, hresult, -⟩)
      · exact .throws hinner fun j hj => hdirect ⟨j, hj⟩
      · cases hresult
    · rintro (⟨-, houter⟩ | ⟨j, hj, -⟩)
      · refine .inl ⟨⟨_, rfl⟩, trivial, ?_⟩
        rintro ⟨j, hj⟩
        exact houter j hj
      · rw [hinner] at hj
        cases hj
  | omitted =>
    rw [hinner] at hread
    obtain ⟨j, hj⟩ : ∃ j, wrap exclude .omitted = .value j := ⟨_, rfl⟩
    rw [noSilentLoss_published (by rw [hinner, hj]), parse_payloadless hj (hread j hj)]
    constructor
    · rintro ⟨k, hok, -⟩
      cases hok
    · rintro (⟨hthrows, -⟩ | ⟨k, hk, -⟩)
      · rw [hinner] at hthrows
        cases hthrows
      · rw [hinner] at hk
        cases hk
  | value j =>
    rw [hinner] at hread
    rw [noSilentLoss_published (by rw [hinner]; rfl),
      parseUserTopicEnvelope_print (hread _ rfl) hid]
    constructor
    · rintro ⟨k, hok, houter⟩
      cases hok
      exact .prints j hinner houter
    · rintro (⟨hthrows, -⟩ | ⟨k, hk, houter⟩)
      · rw [hinner] at hthrows
        cases hthrows
      · rw [hinner] at hk
        obtain rfl := Serialized.value.inj hk
        exact ⟨j, rfl, houter⟩

theorem undefined_is_lost :
    ¬ NoSilentLoss (.reading [.obj []]) "bob" .undefined none none (start ()) := by
  rintro (⟨⟨reason, hresult⟩, -⟩ | ⟨envelope, j, -, hpublished, hok, -⟩)
  · cases hresult
  · have hempty : [("user:bob", "\x7b\x7d")] = [(channelFor "bob", envelope)] := hpublished
    obtain ⟨-, rfl⟩ := Prod.mk.inj (List.head_eq_of_cons_eq hempty)
    cases hok

theorem noSilentLoss_of_one :
    NoSilentLoss (.reading [envelopeJson (.num 1) (some "tab")]) "bob" (.ofJson (.num 1))
      (some "tab") none (start ()) :=
  (noSilentLoss_iff _ "bob" _ _ none (start ()) (by decide +kernel) (by
    intro j hj
    cases hj
    rfl)).mpr (.prints (.num 1) rfl rfl)

end WsService

end NestBackend.Ws
