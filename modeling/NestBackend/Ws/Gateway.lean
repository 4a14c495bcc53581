import NestBackend.Ws.LedgerLaws

namespace NestBackend.Ws

open NestBackend.Js
open NestBackend.Lib

variable {τ : Type}

structure GatewayDeps (τ : Type) extends Deps τ where
  parseUrl : Value → Option (List (String × String))

structure Attempt where
  socket : Socket
  args : List UpgradeArg
  verify : String → Except String VerifiedClaims
  now : ℚ
  now' : ℚ

namespace WsGateway

/-- The service afterwards and the tokens the verifier was asked about, or what is thrown. -/
def handleConnection (deps : GatewayDeps τ) (a : Attempt) (s : WsService τ) :
    Except String (WsService τ × List String) := do
  let identity ← extractGatewayIdentity deps.parseUrl a.args
  let (decision, consulted) := resolveGatewayIdentity identity a.verify
  match decision with
  | .rejected reason =>
    return (s.emit (.socketClose a.socket WS_CLOSE_POLICY_VIOLATION reason), consulted)
  | .authorized userId clientId expiresAt =>
    let params : ConnectionParams := {
      socket := a.socket
      userId := some userId
      clientId := some clientId
      expiresAt := expiresAt }
    return ((WsService.handleConnection deps.toDeps params a.now a.now' s).1, consulted)

end WsGateway

inductive GatewayEvent where
  | upgrade (a : Attempt)
  | ws (e : WsEvent)

namespace WsGateway

/-- Sessions come from upgrade requests only.  What `handleConnection` throws it throws
before it has touched the service. -/
def step (deps : GatewayDeps τ) (s : WsService τ) : GatewayEvent → WsService τ
  | .upgrade a =>
    match handleConnection deps a s with
    | .ok (s, _) => s
    | .error _ => s
  | .ws (.connect ..) => s
  | .ws e => WsService.step deps.toDeps s e

def system (deps : GatewayDeps τ) (world : τ) : System (WsService τ) GatewayEvent where
  init := .start world
  step := step deps

def admittedParams (deps : GatewayDeps τ) (a : Attempt) : Option ConnectionParams :=
  match extractGatewayIdentity deps.parseUrl a.args with
  | .ok identity =>
    match (resolveGatewayIdentity identity a.verify).1 with
    | .authorized userId clientId expiresAt =>
      some ⟨a.socket, some userId, some clientId, expiresAt⟩
    | .rejected _ => none
  | .error _ => none

def moves (deps : GatewayDeps τ) (s : WsService τ) : GatewayEvent → List Move
  | .upgrade a =>
    match admittedParams deps a with
    | some params => WsService.connectMoves s params a.now a.now'
    | none => []
  | .ws (.connect ..) => []
  | .ws e => WsService.moves s e

theorem observed_step (deps : GatewayDeps τ) (s : WsService τ) (e : GatewayEvent) :
    (step deps s e).observed = (moves deps s e).foldl (Observed.move deps.toDeps) s.observed := by
  cases e with
  | upgrade a =>
    simp only [step, moves, handleConnection, admittedParams]
    cases extractGatewayIdentity deps.parseUrl a.args with
    | error thrown => rfl
    | ok identity =>
      simp only [bind, Except.bind]
      rcases resolveGatewayIdentity identity a.verify with ⟨decision, consulted⟩
      cases decision with
      | rejected reason => exact (WsService.quiet_emit rfl fun _ => rfl).observed
      | authorized u c expiresAt => exact WsService.observed_handleConnection
  | ws e =>
    cases e with
    | connect params now now' => rfl
    | _ => exact WsService.observed_step deps.toDeps s _

def refinement (deps : GatewayDeps τ) (world : τ) :
    System.Refinement (system deps world) (Observed.system deps.toDeps world) where
  abs := WsService.observed
  events := moves deps
  abs_init := rfl
  abs_step := observed_step deps

theorem consulted_eq (identity : GatewayIdentity)
    (verify : String → Except String VerifiedClaims) :
    (resolveGatewayIdentity identity verify).2 = identity.token.toList := by
  unfold resolveGatewayIdentity
  cases identity.token with
  | none => rfl
  | some token =>
    dsimp only
    split
    · rfl
    · split
      · rfl
      · split
        · split <;> rfl
        · rfl

theorem resolve_authorized {identity : GatewayIdentity}
    {verify : String → Except String VerifiedClaims} {u : UserId} {c : ClientId}
    {expiresAt : Number}
    (h : (resolveGatewayIdentity identity verify).1 = .authorized u c expiresAt) :
    identity.userId = some u ∧ identity.clientId = some c ∧
      ∃ token claims, identity.token = some token ∧ verify token = .ok claims ∧
        claims.sub = .string u ∧ expiresAt = claims.exp.mul (.fin 1000) := by
  unfold resolveGatewayIdentity at h
  cases htoken : identity.token with
  | none => simp [htoken] at h
  | some token =>
    simp only [htoken] at h
    split at h
    · cases h
    · next claims hverify =>
      split at h
      · cases h
      · split at h
        · next u' c' hu hc =>
          split at h
          · cases h
          · next hsub =>
            cases h
            refine ⟨hu, hc, token, claims, rfl, hverify, ?_, rfl⟩
            cases hs : claims.sub <;> simp [hs, Value.strictEq] at hsub
            rw [hsub]
        · cases h

theorem extract_cases {parseUrl : Value → Option (List (String × String))}
    {args : List UpgradeArg} {identity : GatewayIdentity}
    (h : extractGatewayIdentity parseUrl args = .ok identity) :
    identity = ⟨none, none, none⟩ ∨ ∃ request url params, args.head? = some request ∧
      request.readUrl 2 = .ok url ∧ parseUrl url = some params ∧
      identity = {
        userId := parseUserId (searchParam params "userId")
        clientId := parseClientId (searchParam params "clientId")
        token := parseToken (searchParam params "token") } := by
  unfold extractGatewayIdentity at h
  cases args with
  | nil => exact .inl (Except.ok.inj h).symm
  | cons request rest =>
    simp only [List.headD_cons, bind, Except.bind, pure, Except.pure] at h
    cases hurl : hasUpgradeUrl request with
    | error thrown => simp [hurl] at h
    | ok found =>
      cases hread : request.readUrl 1 with
      | error thrown =>
        cases found with
        | false => exact .inl (by simpa [hurl] using h.symm)
        | true => simp [hurl, hread] at h
      | ok value =>
        simp only [hurl, hread] at h
        split at h
        · exact .inl (Except.ok.inj h).symm
        · split at h
          · exact .inl (Except.ok.inj h).symm
          · split at h
            · exact .inl (Except.ok.inj h).symm
            · next url hthird =>
              split at h
              · exact .inl (Except.ok.inj h).symm
              · next params hparse =>
                exact .inr ⟨request, url, params, rfl, hthird, hparse, (Except.ok.inj h).symm⟩

theorem parseNonBlank_searchParam {params : List (String × String)} {name s : String}
    (h : parseNonBlank (searchParam params name) = some s) :
    params.lookup name = some s ∧ NonBlank s := by
  obtain ⟨hvalue, hs⟩ := parseNonBlank_eq_some_iff.mp h
  refine ⟨?_, hs⟩
  unfold searchParam at hvalue
  cases hl : params.lookup name with
  | none => simp [hl] at hvalue
  | some t => simpa [hl] using hvalue

def Shows (parseUrl : Value → Option (List (String × String))) (args : List UpgradeArg)
    (token : String) (x : Session) : Prop :=
  ∃ request url params, args.head? = some request ∧ request.readUrl 2 = .ok url ∧
    parseUrl url = some params ∧ params.lookup "token" = some token ∧ NonBlank token ∧
    params.lookup "userId" = some x.userId ∧ NonBlank x.userId ∧
    params.lookup "clientId" = some x.clientId ∧ NonBlank x.clientId

theorem shows_of_extract {parseUrl : Value → Option (List (String × String))}
    {args : List UpgradeArg} {identity : GatewayIdentity} {token : String} {x : Session}
    (h : extractGatewayIdentity parseUrl args = .ok identity) (ht : identity.token = some token)
    (hu : identity.userId = some x.userId) (hc : identity.clientId = some x.clientId) :
    Shows parseUrl args token x := by
  rcases extract_cases h with rfl | ⟨request, url, params, hargs, hurl, hparse, rfl⟩
  · cases hu
  · obtain ⟨hut, hunb⟩ := parseNonBlank_searchParam hu
    obtain ⟨hct, hcnb⟩ := parseNonBlank_searchParam hc
    obtain ⟨htt, htnb⟩ := parseNonBlank_searchParam ht
    exact ⟨request, url, params, hargs, hurl, hparse, htt, htnb, hut, hunb, hct, hcnb⟩

structure Admitted (parseUrl : Value → Option (List (String × String))) (a : Attempt)
    (x : Session) : Prop where
  socket : x.socket = a.socket
  entitled : ∃ request url params token claims,
    a.args.head? = some request ∧ request.readUrl 2 = .ok url ∧ parseUrl url = some params ∧
      params.lookup "token" = some token ∧ NonBlank token ∧
      params.lookup "userId" = some x.userId ∧ NonBlank x.userId ∧
      params.lookup "clientId" = some x.clientId ∧ NonBlank x.clientId ∧
      a.verify token = .ok claims ∧ claims.sub = .string x.userId ∧
      x.expiresAt = claims.exp.mul (.fin 1000)

theorem admitted_of_params {deps : GatewayDeps τ} {a : Attempt} {params : ConnectionParams}
    {x : Session} (h : admittedParams deps a = some params) (hu : params.userId = some x.userId)
    (hc : params.clientId = some x.clientId) (hsocket : params.socket = x.socket)
    (hexpires : params.expiresAt = x.expiresAt) : Admitted deps.parseUrl a x := by
  unfold admittedParams at h
  split at h
  · next identity hextract =>
    split at h
    · next u c expiresAt hresolve =>
      obtain rfl := Option.some.inj h
      cases hu
      cases hc
      obtain ⟨hid, hcid, token, claims, htoken, hverify, hsub, hexp⟩ := resolve_authorized hresolve
      obtain ⟨request, url, params, hargs, hurl, hparse, htt, htnb, hut, hunb, hct, hcnb⟩ :=
        shows_of_extract hextract htoken hid hcid
      exact ⟨hsocket.symm, request, url, params, token, claims, hargs, hurl, hparse, htt, htnb,
        hut, hunb, hct, hcnb, hverify, hsub, hexpires.symm.trans hexp⟩
    · cases h
  · cases h

theorem register_mem_connectMoves {s : WsService τ} {params : ConnectionParams} {n n' now : ℚ}
    {u : UserId} {c : ClientId} {socket : Socket} {expiresAt : Number}
    (h : .register u c socket expiresAt now ∈ WsService.connectMoves s params n n') :
    params = ⟨socket, some u, some c, expiresAt⟩ := by
  obtain ⟨socket', userId, clientId, expiresAt'⟩ := params
  unfold WsService.connectMoves at h
  split at h
  · split at h
    · cases h
    · next u' c' hu hc _ =>
      dsimp only at hu hc
      subst hu hc
      rcases List.mem_cons.mp h with h | h
      · cases h
        rfl
      · split at h <;> simp at h
  · cases h

theorem built_step {deps : GatewayDeps τ} {s : WsService τ} {e : GatewayEvent} {x : Session}
    (h : x ∈ (step deps s e).registry.built) :
    x ∈ s.registry.built ∨ ∃ a, e = .upgrade a ∧ Admitted deps.parseUrl a x := by
  have hmoves : x ∈ (step deps s e).observed.registry.built := h
  rw [observed_step] at hmoves
  rcases Observed.built_foldl_move hmoves with h | ⟨now, hmem⟩
  · exact .inl h
  · cases e with
    | upgrade a =>
      simp only [moves] at hmem
      split at hmem
      · next params hparams =>
        obtain rfl := register_mem_connectMoves hmem
        exact .inr ⟨a, rfl, admitted_of_params hparams rfl rfl rfl rfl⟩
      · cases hmem
    | ws e =>
      cases e with
      | timer id now' now'' =>
        simp only [moves, WsService.moves] at hmem
        split at hmem
        · split at hmem
          · split at hmem <;> simp at hmem
          · cases hmem
        · cases hmem
      | close ref => simp [moves, WsService.moves] at hmem
      | _ => cases hmem

theorem built_run (deps : GatewayDeps τ) (world : τ) (es : List GatewayEvent) {x : Session}
    (h : x ∈ ((system deps world).run es).registry.built) :
    ∃ a, .upgrade a ∈ es ∧ Admitted deps.parseUrl a x := by
  induction es using List.reverseRecOn with
  | nil => cases h
  | append_singleton es e ih =>
    rw [System.run_concat] at h
    rcases built_step h with h | ⟨a, rfl, ha⟩
    · obtain ⟨a, hmem, ha⟩ := ih h
      exact ⟨a, List.mem_append_left _ hmem, ha⟩
    · exact ⟨a, List.mem_append_right _ List.mem_cons_self, ha⟩

/-- Looking for `url` on the upgrade request throws: in the `in` test, or in one of the two
reads that stand outside the `try`. -/
def urlLookupThrows (request : UpgradeArg) : Prop :=
  request.isObject = true ∧
    ((∃ thrown, request.hasUrl = .error thrown) ∨
      request.hasUrl = .ok true ∧
        ((∃ thrown, request.readUrl 0 = .error thrown) ∨
          hasUpgradeUrl request = .ok true ∧ ∃ thrown, request.readUrl 1 = .error thrown))

theorem hasUpgradeUrl_throws_iff (request : UpgradeArg) :
    (∃ thrown, hasUpgradeUrl request = .error thrown) ↔ request.isObject = true ∧
      ((∃ thrown, request.hasUrl = .error thrown) ∨
        request.hasUrl = .ok true ∧ ∃ thrown, request.readUrl 0 = .error thrown) := by
  unfold hasUpgradeUrl
  simp only [bind, Except.bind, pure, Except.pure]
  cases request.isObject with
  | false => simp
  | true =>
    cases request.hasUrl with
    | error thrown => simp
    | ok found =>
      cases found with
      | false => simp
      | true =>
        cases request.readUrl 0 with
        | error thrown => simp
        | ok value => cases value <;> simp

theorem hasUpgradeUrl_true {request : UpgradeArg} (h : hasUpgradeUrl request = .ok true) :
    request.isObject = true ∧ request.hasUrl = .ok true := by
  unfold hasUpgradeUrl at h
  simp only [bind, Except.bind, pure, Except.pure] at h
  cases hobject : request.isObject with
  | false => simp [hobject] at h
  | true =>
    cases hurl : request.hasUrl with
    | error thrown => simp [hobject, hurl] at h
    | ok found => cases found <;> simp_all

theorem extract_throws_iff {parseUrl : Value → Option (List (String × String))}
    {args : List UpgradeArg} :
    (∃ thrown, extractGatewayIdentity parseUrl args = .error thrown) ↔
      urlLookupThrows (args.headD (.data .undefined)) := by
  generalize hrequest : args.headD (.data .undefined) = request
  have hfirst := hasUpgradeUrl_throws_iff request
  have hsecond : hasUpgradeUrl request = .ok true → _ := hasUpgradeUrl_true
  unfold extractGatewayIdentity urlLookupThrows
  simp only [hrequest, bind, Except.bind, pure, Except.pure]
  cases hurl : hasUpgradeUrl request with
  | error thrown =>
    rw [hurl] at hfirst
    obtain ⟨hobject, hthrows⟩ := hfirst.mp ⟨thrown, rfl⟩
    refine ⟨fun _ => ⟨hobject, ?_⟩, fun _ => ⟨thrown, rfl⟩⟩
    rcases hthrows with h | ⟨hfound, h⟩
    · exact .inl h
    · exact .inr ⟨hfound, .inl h⟩
  | ok found =>
    have hno : ¬ (request.isObject = true ∧ ((∃ thrown, request.hasUrl = .error thrown) ∨
        request.hasUrl = .ok true ∧ ∃ thrown, request.readUrl 0 = .error thrown)) := by
      rw [← hfirst, hurl]
      simp
    cases found with
    | false =>
      simp only [Bool.not_false, if_true, reduceCtorEq, exists_false, false_iff]
      rintro ⟨hobject, h | ⟨hfound, h | ⟨htrue, -⟩⟩⟩
      · exact hno ⟨hobject, .inl h⟩
      · exact hno ⟨hobject, .inr ⟨hfound, h⟩⟩
      · cases htrue
    | true =>
      obtain ⟨hobject, hfound⟩ := hsecond hurl
      cases hread : request.readUrl 1 with
      | error thrown => simp [hobject, hfound]
      | ok value =>
        simp only [Bool.not_true, Bool.false_eq_true, if_false]
        refine iff_of_false ?_ ?_
        · rintro ⟨thrown, hthrown⟩
          split at hthrown
          · cases hthrown
          · split at hthrown
            · cases hthrown
            · split at hthrown <;> cases hthrown
        · rintro ⟨-, h | ⟨-, h | ⟨-, thrown, hthrown⟩⟩⟩
          · exact hno ⟨hobject, .inl h⟩
          · exact hno ⟨hobject, .inr ⟨hfound, h⟩⟩
          · cases hthrown

theorem handleConnection_throws_iff {deps : GatewayDeps τ} {a : Attempt} {s : WsService τ} :
    (∃ thrown, handleConnection deps a s = .error thrown) ↔
      ∃ thrown, extractGatewayIdentity deps.parseUrl a.args = .error thrown := by
  unfold handleConnection
  simp only [bind, Except.bind]
  cases extractGatewayIdentity deps.parseUrl a.args with
  | error thrown => simp
  | ok identity =>
    dsimp only
    cases (resolveGatewayIdentity identity a.verify).1 <;> simp [pure, Except.pure]

/-- What becomes of an upgrade request that does not throw. -/
theorem handleConnection_ok {deps : GatewayDeps τ} {a : Attempt} {s s' : WsService τ}
    {consulted : List String} (h : handleConnection deps a s = .ok (s', consulted)) :
    ∃ identity, extractGatewayIdentity deps.parseUrl a.args = .ok identity ∧
      consulted = identity.token.toList ∧
      ((∃ reason, (resolveGatewayIdentity identity a.verify).1 = .rejected reason ∧
          s' = s.emit (.socketClose a.socket WS_CLOSE_POLICY_VIOLATION reason)) ∨
        ∃ u c expiresAt,
          (resolveGatewayIdentity identity a.verify).1 = .authorized u c expiresAt ∧
          s' = (WsService.handleConnection deps.toDeps ⟨a.socket, some u, some c, expiresAt⟩
            a.now a.now' s).1) := by
  unfold handleConnection at h
  simp only [bind, Except.bind] at h
  cases hextract : extractGatewayIdentity deps.parseUrl a.args with
  | error thrown => simp [hextract] at h
  | ok identity =>
    refine ⟨identity, rfl, ?_⟩
    rw [← consulted_eq identity a.verify]
    simp only [hextract] at h
    generalize resolveGatewayIdentity identity a.verify = resolved at h ⊢
    obtain ⟨decision, asked⟩ := resolved
    cases decision with
    | rejected reason =>
      obtain ⟨rfl, rfl⟩ := Prod.mk.inj (Except.ok.inj h)
      exact ⟨rfl, .inl ⟨reason, rfl, rfl⟩⟩
    | authorized u c expiresAt =>
      obtain ⟨rfl, rfl⟩ := Prod.mk.inj (Except.ok.inj h)
      exact ⟨rfl, .inr ⟨u, c, expiresAt, rfl, rfl⟩⟩

/-- Every registered session was admitted on an upgrade request.  An attempt asks the
verifier at most once, about the non-blank token of that request's URL, and throws only
where the request itself throws. -/
theorem admission_safety (deps : GatewayDeps τ) (world : τ) (es : List GatewayEvent) :
    (∀ c x, ((system deps world).run es).registry.sessions.lookup c = some x →
        ∃ a, .upgrade a ∈ es ∧ Admitted deps.parseUrl a x) ∧
      (∀ a s s' consulted, handleConnection deps a s = .ok (s', consulted) →
        consulted.length ≤ 1 ∧ ∀ token ∈ consulted, NonBlank token ∧
          ∃ request url params, a.args.head? = some request ∧ request.readUrl 2 = .ok url ∧
            deps.parseUrl url = some params ∧ params.lookup "token" = some token) ∧
      (∀ a s, (∃ thrown, handleConnection deps a s = .error thrown) ↔
        urlLookupThrows (a.args.headD (.data .undefined))) := by
  refine ⟨fun c x h => ?_, fun a s s' consulted h => ?_, fun a s => ?_⟩
  · have hv : ((system deps world).run es).registry.Valid :=
      (refinement deps world).invariant (P := fun o => o.registry.Valid)
        (Observed.valid_run deps.toDeps world) es
    exact built_run deps world es (List.mem_of_getElem? (hv.built h))
  · obtain ⟨identity, hextract, rfl, -⟩ := handleConnection_ok h
    rcases extract_cases hextract with rfl | ⟨request, url, params, hargs, hurl, hparse, rfl⟩
    · simp
    · refine ⟨by cases parseToken (searchParam params "token") <;> simp, fun token ht => ?_⟩
      obtain ⟨hlookup, hnb⟩ := parseNonBlank_searchParam (Option.mem_toList.mp ht)
      exact ⟨hnb, request, url, params, hargs, hurl, hparse, hlookup⟩
  · rw [handleConnection_throws_iff, extract_throws_iff]

def throwingAttempt : Attempt where
  socket := 0
  args := [.live (.ok true) fun _ => .error "no url"]
  verify _ := .error "not consulted"
  now := 0
  now' := 0

def bareGateway : GatewayDeps Unit where
  json := ⟨fun _ => "", fun _ => none⟩
  trackers := []
  randomUUID n := toString n
  parseUrl _ := none

theorem handleConnection_may_throw :
    ¬ ∃ result, handleConnection bareGateway throwingAttempt (.start ()) = .ok result := by
  rintro ⟨result, hresult⟩
  cases hresult

end WsGateway

end NestBackend.Ws
