import NestBackend.UserTopics.Message

namespace NestBackend.UserTopics

open NestBackend.Js
open NestBackend.Ws

structure IsEnvelope (props : List (String × Json)) (payload : Json)
    (excludeClientId : Option ClientId) : Prop where
  payload : props.lookup "payload" = some payload
  exclude : props.lookup "excludeClientId" = excludeClientId.map .str
  nonBlank : ∀ id, excludeClientId = some id → NonBlank id

theorem isEnvelope_absent {props : List (String × Json)}
    (h : props.lookup "excludeClientId" = none) {p p' : Json} {c : Option ClientId}
    (hpayload : props.lookup "payload" = some p) :
    IsEnvelope props p' c ↔ p = p' ∧ none = c := by
  constructor
  · rintro ⟨hp, hc, -⟩
    rw [h] at hc
    exact ⟨Option.some.inj (hpayload.symm.trans hp), (Option.map_eq_none_iff.mp hc.symm).symm⟩
  · rintro ⟨rfl, rfl⟩
    exact ⟨hpayload, h, fun id hid => by cases hid⟩

theorem isEnvelope_given {props : List (String × Json)} {v : Json}
    (h : props.lookup "excludeClientId" = some v) {p p' : Json} {c : Option ClientId}
    (hpayload : props.lookup "payload" = some p) :
    IsEnvelope props p' c ↔ p = p' ∧ ∃ id, v = .str id ∧ NonBlank id ∧ some id = c := by
  constructor
  · rintro ⟨hp, hc, hblank⟩
    rw [h] at hc
    obtain ⟨id, rfl, rfl⟩ := Option.map_eq_some_iff.mp hc.symm
    exact ⟨Option.some.inj (hpayload.symm.trans hp), id, rfl, hblank id rfl, rfl⟩
  · rintro ⟨rfl, id, rfl, hblank, rfl⟩
    exact ⟨hpayload, h, fun _ hid => Option.some.inj hid ▸ hblank⟩

theorem parseUserTopicEnvelope_eq_ok_iff {J : JsonText} {raw : String} {p : Json}
    {c : Option ClientId} : parseUserTopicEnvelope J raw = .ok p c ↔
      ∃ props, J.parse raw = some (.obj props) ∧ IsEnvelope props p c := by
  unfold parseUserTopicEnvelope
  cases J.parse raw with
  | none => simp
  | some parsed =>
    cases parsed with
    | obj props =>
      simp only [Json.isObject, Json.get?, Option.some.injEq, Json.obj.injEq, exists_eq_left',
        Bool.not_true, Bool.false_eq_true, if_false]
      cases hpayload : props.lookup "payload" with
      | none =>
        refine iff_of_false (by simp) fun h => ?_
        exact absurd (hpayload.symm.trans h.payload) (by simp)
      | some payload =>
        cases hexclude : props.lookup "excludeClientId" with
        | none =>
          have hread : (Json.obj props).read "excludeClientId" = .undefined := by
            simp [Json.read, Json.get?, hexclude]
          rw [isEnvelope_absent hexclude hpayload]
          simp [hread, Value.isUndefined]
        | some v =>
          have hread : (Json.obj props).read "excludeClientId" = .ofJson v := by
            simp [Json.read, Json.get?, hexclude]
          rw [isEnvelope_given hexclude hpayload]
          cases v with
          | str id =>
            by_cases hblank : NonBlank id
            · have hparse : parseClientId (.string id) = some id := parseNonBlank_of_nonBlank hblank
              simp [hread, Value.ofJson, hparse, hblank]
            · have hparse : parseClientId (.string id) = none := by
                rw [Option.eq_none_iff_forall_ne_some]
                intro s hs
                obtain ⟨heq, hs⟩ := parseNonBlank_eq_some_iff.mp hs
                exact hblank (Value.string.inj heq ▸ hs)
              simp [hread, Value.ofJson, Value.isUndefined, hparse, hblank]
          | _ => simp [hread, Value.ofJson, Value.isUndefined]
    | _ => simp [Json.isObject, Json.get?]

theorem accepted_iff {J : JsonText} {raw : String} :
    (∃ p c, parseUserTopicEnvelope J raw = .ok p c) ↔
      ∃ props, J.parse raw = some (.obj props) ∧ (props.lookup "payload").isSome ∧
        ∀ v, props.lookup "excludeClientId" = some v → ∃ id, v = .str id ∧ NonBlank id := by
  simp only [parseUserTopicEnvelope_eq_ok_iff]
  constructor
  · rintro ⟨p, c, props, hprops, hp, hc, hblank⟩
    refine ⟨props, hprops, by simp [hp], fun v hv => ?_⟩
    rw [hv] at hc
    obtain ⟨id, hid, rfl⟩ := Option.map_eq_some_iff.mp hc.symm
    exact ⟨id, rfl, hblank id hid⟩
  · rintro ⟨props, hprops, hpayload, hexclude⟩
    obtain ⟨p, hp⟩ := Option.isSome_iff_exists.mp hpayload
    cases hv : props.lookup "excludeClientId" with
    | none => exact ⟨p, none, props, hprops, (isEnvelope_absent hv hp).mpr ⟨rfl, rfl⟩⟩
    | some v =>
      obtain ⟨id, rfl, hblank⟩ := hexclude v hv
      exact ⟨p, some id, props, hprops, (isEnvelope_given hv hp).mpr ⟨rfl, id, rfl, hblank, rfl⟩⟩

theorem userIdFromChannel_eq_some_iff {channel : String} {u : UserId} :
    userIdFromChannel channel = some u ↔ channel = channelFor u ∧ NonBlank u := by
  constructor
  · intro h
    refine ⟨eq_channelFor_of_userIdFromChannel h, ?_⟩
    unfold userIdFromChannel at h
    split at h
    · cases h
    · exact (parseNonBlank_eq_some_iff.mp h).2
  · rintro ⟨rfl, hu⟩
    exact userIdFromChannel_channelFor hu

theorem parse_build {J : JsonText} {p : Json} {c : Option ClientId}
    (hblank : ∀ id, c = some id → NonBlank id) (hread : J.Reads (envelopeJson p c)) :
    ∃ raw, buildUserTopicEnvelope J (.ofJson p) c = .text raw ∧
      parseUserTopicEnvelope J raw = .ok p c :=
  ⟨_, buildUserTopicEnvelope_ofJson J p c, parseUserTopicEnvelope_print hread hblank⟩

/-- Envelopes are read back as they were built, texts are accepted exactly when they are those
of envelopes, and channel names determine their users. -/
theorem wire_format (J : JsonText) :
    (∀ p c, (∀ id, c = some id → NonBlank id) → J.Reads (envelopeJson p c) →
        ∃ raw, buildUserTopicEnvelope J (.ofJson p) c = .text raw ∧
          parseUserTopicEnvelope J raw = .ok p c) ∧
      (∀ raw, (∃ p c, parseUserTopicEnvelope J raw = .ok p c) ↔
        ∃ props, J.parse raw = some (.obj props) ∧ (props.lookup "payload").isSome ∧
          ∀ v, props.lookup "excludeClientId" = some v → ∃ id, v = .str id ∧ NonBlank id) ∧
      (∀ raw p c, parseUserTopicEnvelope J raw = .ok p c → J.Reads (envelopeJson p c) →
        ∃ again, buildUserTopicEnvelope J (.ofJson p) c = .text again ∧
          parseUserTopicEnvelope J again = .ok p c) ∧
      (∀ channel u, userIdFromChannel channel = some u ↔ channel = channelFor u ∧ NonBlank u) ∧
      (∀ u v, channelFor u = channelFor v → u = v) ∧
      ∀ channel, (∀ u, NonBlank u → channel ≠ channelFor u) →
        userIdFromChannel channel = none := by
  refine ⟨fun p c => parse_build, fun raw => accepted_iff, fun raw p c hok hread => ?_,
    fun channel u => userIdFromChannel_eq_some_iff, fun u v => channelFor_inj.mp,
    fun channel hforeign => ?_⟩
  · obtain ⟨props, -, henvelope⟩ := parseUserTopicEnvelope_eq_ok_iff.mp hok
    exact parse_build henvelope.nonBlank hread
  · rw [Option.eq_none_iff_forall_ne_some]
    intro u hu
    obtain ⟨hchannel, hblank⟩ := userIdFromChannel_eq_some_iff.mp hu
    exact hforeign u hblank hchannel

theorem wire_format_excluding :
    let J := JsonText.reading [envelopeJson (.num 1) (some "tab")]
    ∃ raw, buildUserTopicEnvelope J (.ofJson (.num 1)) (some "tab") = .text raw ∧
      parseUserTopicEnvelope J raw = .ok (.num 1) (some "tab") :=
  (wire_format (.reading [envelopeJson (.num 1) (some "tab")])).1 (.num 1) (some "tab")
    (fun _ h => Option.some.inj h ▸ by decide) rfl

end NestBackend.UserTopics
