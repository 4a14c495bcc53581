import NestBackend.Ws.Gateway
import NestBackend.Ws.Turns

namespace NestBackend.Ws

open NestBackend.Js
open NestBackend.Lib

variable {τ : Type}

structure Joined (deps : Deps τ) (s t : WsService τ) (params : ConnectionParams) (now' : ℚ)
    (x : Session) : Prop where
  fresh : Fresh deps s.registry x
  made : x.params = params
  sockets : socketLog t.trace = socketLog s.trace ++ listeners params.socket ++
    if WsService.expired params.expiresAt now' then [.socketTerminate params.socket] else []
  built : t.registry.built = s.registry.built ++ [x]
  entry : t.registry.sessions.lookup x.clientId =
    if WsService.expired params.expiresAt now' then none else some x
  others : ∀ c, c ≠ x.clientId → t.registry.sessions.lookup c = s.registry.sessions.lookup c

namespace WsService

theorem handleConnection_refused {deps : Deps τ} {s : WsService τ} {params : ConnectionParams}
    {reason : String} (h : s.registry.refusal params = some reason) (now now' : ℚ) :
    ∃ result, result ≠ .registered ∧ handleConnection deps params now now' s =
      (s.emit (.socketClose params.socket WS_CLOSE_POLICY_VIOLATION reason), result) := by
  cases hu : params.userId with
  | none =>
    simp only [Registry.refusal, hu, Option.some.injEq] at h
    exact ⟨.rejected, by simp, by simp only [handleConnection, hu, h]⟩
  | some u =>
    cases hc : params.clientId with
    | none =>
      simp only [Registry.refusal, hu, hc, Option.some.injEq] at h
      exact ⟨.rejected, by simp, by simp only [handleConnection, hu, hc, h]⟩
    | some c =>
      by_cases hused : (s.registry.getSession c).isSome
      · simp only [Registry.refusal, hu, hc, if_pos hused, Option.some.injEq] at h
        exact ⟨.duplicate, by simp, by simp only [handleConnection, hu, hc, if_pos hused, h]⟩
      · simp only [Registry.refusal, hu, hc, if_neg hused] at h
        cases h

theorem handleConnection_joined {deps : Deps τ} {s : WsService τ} {params : ConnectionParams}
    (h : s.registry.refusal params = none) (now now' : ℚ) :
    (handleConnection deps params now now' s).2 = .registered ∧
      ∃ x, Joined deps s (handleConnection deps params now now' s).1 params now' x := by
  obtain ⟨x, hx, rfl⟩ := exists_fresh deps h
  refine ⟨?_, x, ?_⟩
  · have hunused : (s.registry.getSession x.clientId).isSome = false := by
      simp [Registry.getSession, hx.unused]
    simp [handleConnection, Session.params, hunused]
  · have houtline := (turn_connect deps s x.params now now').connected hx
    have hself : (s.registry.enroll x).sessions.lookup x.clientId = some x := by
      simp [Registry.lookup_enroll]
    set t := (handleConnection deps x.params now now' s).1
    have hparams : x.params.expiresAt = x.expiresAt := rfl
    cases hexpired : expired x.expiresAt now' with
    | false =>
      rw [hexpired, if_neg Bool.false_ne_true] at houtline
      have hregistry : t.registry = s.registry.enroll x := congrArg Outline.registry houtline
      refine ⟨hx, rfl, ?_, ?_, ?_, fun c hc => ?_⟩
      · rw [hparams, hexpired, if_neg Bool.false_ne_true, List.append_nil]
        exact congrArg Outline.sockets houtline
      · rw [hregistry, Registry.enroll_built]
      · rw [hparams, hexpired, if_neg Bool.false_ne_true, hregistry, hself]
      · rw [hregistry, Registry.lookup_enroll, if_neg hc]
    | true =>
      rw [hexpired, if_pos rfl] at houtline
      have hregistry : t.registry = (s.registry.enroll x).drop x :=
        congrArg Outline.registry houtline
      refine ⟨hx, rfl, ?_, ?_, ?_, fun c hc => ?_⟩
      · rw [hparams, hexpired, if_pos rfl]
        exact congrArg Outline.sockets houtline
      · rw [hregistry, Registry.drop_built, Registry.enroll_built]
      · rw [hparams, hexpired, if_pos rfl, hregistry, Registry.lookup_drop, if_pos rfl]
      · rw [hregistry, Registry.lookup_drop, if_neg hc, Registry.lookup_enroll, if_neg hc]

end WsService

namespace WsGateway

def refusal (deps : GatewayDeps τ) (a : Attempt) (r : Registry) : Option String :=
  match extractGatewayIdentity deps.parseUrl a.args with
  | .error _ => none
  | .ok identity =>
    match (resolveGatewayIdentity identity a.verify).1 with
    | .rejected reason => some reason
    | .authorized userId clientId expiresAt =>
      r.refusal ⟨a.socket, some userId, some clientId, expiresAt⟩

theorem handleConnection_cases {deps : GatewayDeps τ} {a : Attempt} {s t : WsService τ}
    {consulted : List String} (h : handleConnection deps a s = .ok (t, consulted)) :
    (∃ reason, refusal deps a s.registry = some reason ∧
        t = s.emit (.socketClose a.socket WS_CLOSE_POLICY_VIOLATION reason)) ∨
      refusal deps a s.registry = none ∧ ∃ params x, admittedParams deps a = some params ∧
        params.socket = a.socket ∧ Joined deps.toDeps s t params a.now' x := by
  unfold refusal admittedParams
  obtain ⟨identity, hextract, -, hdecided⟩ := handleConnection_ok h
  rcases hdecided with ⟨reason, hrejected, rfl⟩ | ⟨u, c, expiresAt, hauthorized, rfl⟩
  · simp only [hextract, hrejected]
    exact .inl ⟨reason, rfl, rfl⟩
  · simp only [hextract, hauthorized]
    cases hrefusal : s.registry.refusal ⟨a.socket, some u, some c, expiresAt⟩ with
    | some reason =>
      obtain ⟨result, -, heq⟩ := WsService.handleConnection_refused hrefusal a.now a.now'
      exact .inl ⟨reason, rfl, congrArg Prod.fst heq⟩
    | none =>
      obtain ⟨-, x, hx⟩ := WsService.handleConnection_joined hrefusal a.now a.now'
      exact .inr ⟨rfl, _, x, rfl, rfl, hx⟩

/-- A refused attempt has its own socket closed, once, and nothing else happens.  Any other
attempt joins, unless the gateway throws: then the request itself has thrown, and the service
has not been touched. -/
theorem refused_leave_no_trace (deps : GatewayDeps τ) (world : τ) (es : List WsEvent) :
    let s := (WsService.system deps.toDeps world).run es
    (∀ params now now', let (t, result) :=
          WsService.handleConnection deps.toDeps params now now' s
        (result ≠ .registered → ∃ reason,
          t = s.emit (.socketClose params.socket WS_CLOSE_POLICY_VIOLATION reason)) ∧
        (result = .registered → ∃ x, Joined deps.toDeps s t params now' x)) ∧
      ∀ a, ((∃ thrown, handleConnection deps a s = .error thrown) ↔
            urlLookupThrows (a.args.headD (.data .undefined))) ∧
        match handleConnection deps a s with
        | .ok (t, _) =>
          (∃ reason, refusal deps a s.registry = some reason ∧
              t = s.emit (.socketClose a.socket WS_CLOSE_POLICY_VIOLATION reason)) ∨
            refusal deps a s.registry = none ∧ ∃ params x, admittedParams deps a = some params ∧
              params.socket = a.socket ∧ Joined deps.toDeps s t params a.now' x
        | .error _ => refusal deps a s.registry = none ∧ step deps s (.upgrade a) = s := by
  intro s
  refine ⟨fun params now now' => ?_, fun a => ?_⟩
  · dsimp only
    cases hrefusal : s.registry.refusal params with
    | some reason =>
      obtain ⟨result, hresult, heq⟩ :=
        WsService.handleConnection_refused hrefusal now now'
      rw [heq]
      exact ⟨fun _ => ⟨reason, rfl⟩, fun h => absurd h hresult⟩
    | none =>
      obtain ⟨hresult, hjoined⟩ :=
        WsService.handleConnection_joined hrefusal now now'
      exact ⟨fun h => absurd hresult h, fun _ => hjoined⟩
  · refine ⟨handleConnection_throws_iff.trans extract_throws_iff, ?_⟩
    split
    · next t consulted h => exact handleConnection_cases h
    · next thrown h =>
      obtain ⟨thrown', hextract⟩ := handleConnection_throws_iff.mp ⟨thrown, h⟩
      exact ⟨by rw [refusal, hextract], by rw [step, h]⟩

theorem throwingAttempt_joins_nothing :
    ¬ ∀ a, refusal bareGateway a .empty = none → ∃ done,
      socketLog (step bareGateway (.start ()) (.upgrade a)).trace = listeners a.socket ++ done := by
  intro h
  obtain ⟨done, hdone⟩ := h throwingAttempt rfl
  cases hdone

end WsGateway

end NestBackend.Ws
