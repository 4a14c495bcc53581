import NestBackend.Auth.Guard
import NestBackend.Ws.Gateway

namespace NestBackend.Auth

open Js
open JwtVerifierService
open NestBackend.Lib
open NestBackend.Ws

variable {τ : Type}

/-- The claims that the gateway reads; the payload has been checked to carry `exp`. -/
def JwtPayload.claims (payload : JwtPayload) : VerifiedClaims where
  sub := match payload.value with
    | .object props => (props.lookup "sub").getD .undefined
    | _ => .undefined
  exp := match payload.value with
    | .object props =>
      match props.lookup "exp" with
      | some (.number exp) => exp
      | _ => .nan
    | _ => .nan

structure Surroundings where
  process : Process
  library : VerifyCall → Except Raised Value

structure Upgrade where
  socket : Socket
  args : List UpgradeArg
  now : ℚ
  now' : ℚ

inductive DoorEvent where
  | request (around : Surroundings) (context : ExecutionContext)
  | upgrade (around : Surroundings) (u : Upgrade)
  | ws (e : WsEvent)

def DoorEvent.around : DoorEvent → Option Surroundings
  | .request around _ | .upgrade around _ => some around
  | .ws _ => none

structure Door (τ : Type) where
  verifier : JwtVerifierService
  sessions : WsService τ

namespace Door

def attempt (around : Surroundings) (u : Upgrade) (verifier : JwtVerifierService) : Attempt where
  socket := u.socket
  args := u.args
  verify token :=
    match (verifier.verify around.library around.process token).1 with
    | .ok payload => .ok payload.claims
    | .error _ => .error "thrown"
  now := u.now
  now' := u.now'

def asked (around : Surroundings) (tokens : List String) (verifier : JwtVerifierService) :
    JwtVerifierService :=
  tokens.foldl (fun v token => (v.verify around.library around.process token).2) verifier

def step (deps : GatewayDeps τ) (d : Door τ) : DoorEvent → Door τ
  | .request around context =>
    { d with verifier :=
        (canActivate around.library around.process context d.verifier).verifier }
  | .upgrade around u =>
    match WsGateway.handleConnection deps (attempt around u d.verifier) d.sessions with
    | .ok (sessions, consulted) => ⟨asked around consulted d.verifier, sessions⟩
    | .error _ => d
  | .ws e => { d with sessions := WsGateway.step deps d.sessions (.ws e) }

def system (deps : GatewayDeps τ) (world : τ) : System (Door τ) DoorEvent where
  init := ⟨{}, .start world⟩
  step := step deps

inductive Advance (process : Process) (v : JwtVerifierService) : JwtVerifierService → Prop
  | kept : Advance process v v
  | asked {config : JwtConfig} (token : String) (h : v.Configured process config) :
      Advance process v ⟨some config, v.calls ++ [call config token]⟩

section

variable {around : Surroundings} {v v' : JwtVerifierService}

theorem verify_cases (around : Surroundings) (token : String) (v : JwtVerifierService) :
    (∃ config, v.Configured around.process config ∧
      v.verify around.library around.process token =
        (around.library (call config token) >>= checkPayload,
          ⟨some config, v.calls ++ [call config token]⟩)) ∨
      ∃ e, v.verify around.library around.process token = (.error e, v) := by
  cases hcached : v.config with
  | some config =>
    have hconfigured : v.Configured around.process config := .inl hcached
    exact .inl ⟨config, hconfigured, by simp only [verify, getConfig_of_configured hconfigured]⟩
  | none =>
    cases hread : getJwtConfig around.process with
    | ok config =>
      have hconfigured : v.Configured around.process config := .inr ⟨hcached, hread⟩
      exact .inl ⟨config, hconfigured, by simp only [verify, getConfig_of_configured hconfigured]⟩
    | error e => exact .inr ⟨e, by simp only [verify, getConfig, hcached, hread]⟩

theorem advance_verify (around : Surroundings) (token : String) (v : JwtVerifierService) :
    Advance around.process v (v.verify around.library around.process token).2 := by
  rcases verify_cases around token v with ⟨config, hconfigured, hverify⟩ | ⟨e, hverify⟩
  · rw [hverify]
    exact .asked token hconfigured
  · rw [hverify]
    exact .kept

theorem conclude_verifier (request : HttpRequest) (v : JwtVerifierService)
    (verified : Except Raised JwtPayload) : (conclude request v verified).verifier = v := by
  unfold conclude
  split
  · rfl
  · split
    · rfl
    · rfl

theorem advance_canActivate (around : Surroundings) (context : ExecutionContext)
    (v : JwtVerifierService) : Advance around.process v
      (canActivate around.library around.process context v).verifier := by
  by_cases hpublic : context.isPublic = some true
  · rw [canActivate, if_pos hpublic]
    exact .kept
  by_cases htype : context.type = "http"
  · by_cases hasks : ∃ t config, Asks around.process context.header v t config
    · obtain ⟨t, config, hasks⟩ := hasks
      obtain ⟨request, -, hrun⟩ := canActivate_of_asks around.library hpublic htype hasks
      rw [hrun, conclude_verifier]
      exact .asked t hasks.configured
    · obtain ⟨message, debug, hrun⟩ := canActivate_of_not_asks around.library hpublic htype
        fun t config h => hasks ⟨t, config, h⟩
      rw [hrun]
      exact .kept
  · rw [canActivate, if_neg hpublic, if_pos htype]
    exact .kept

theorem advance_asked {tokens : List String} (h : tokens.length ≤ 1) :
    Advance around.process v (asked around tokens v) := by
  match tokens, h with
  | [], _ => exact .kept
  | [token], _ => exact advance_verify around token v

theorem Advance.config (h : Advance around.process v v') {config : JwtConfig}
    (hconfig : v.config = some config) : v'.config = some config := by
  cases h with
  | kept => exact hconfig
  | asked token hconfigured =>
    rcases hconfigured with hcached | ⟨hnone, -⟩
    · exact (hcached.symm.trans hconfig)
    · rw [hconfig] at hnone
      cases hnone

theorem Advance.read (h : Advance around.process v v') {config : JwtConfig}
    (hnew : v'.config = some config) : v.config = some config ∨
      v.config = none ∧ getJwtConfig around.process = .ok config := by
  cases h with
  | kept => exact .inl hnew
  | asked token hconfigured =>
    obtain rfl := Option.some.inj hnew
    exact hconfigured

def Rooted (v : JwtVerifierService) : Prop :=
  ∀ c ∈ v.calls, ∃ config token, v.config = some config ∧ c = call config token

theorem Advance.rooted (h : Advance around.process v v') (hv : Rooted v) : Rooted v' := by
  cases h with
  | kept => exact hv
  | @asked config token hconfigured =>
    intro c hc
    rcases List.mem_append.mp hc with hold | hnew
    · obtain ⟨config', token', hconfig', rfl⟩ := hv c hold
      rcases hconfigured with hcached | ⟨hnone, -⟩
      · exact ⟨config, token', rfl, by rw [Option.some.inj (hcached.symm.trans hconfig')]⟩
      · rw [hconfig'] at hnone
        cases hnone
    · exact ⟨config, token, rfl, List.mem_singleton.mp hnew⟩

theorem Advance.calls (h : Advance around.process v v') {c : VerifyCall} (hc : c ∈ v.calls) :
    c ∈ v'.calls := by
  cases h with
  | kept => exact hc
  | asked token hconfigured => exact List.mem_append_left _ hc

end

def Vouches (around : Surroundings) (config : JwtConfig) (token : String) (u : UserId)
    (expiresAt : Number) : Prop :=
  ∃ props exp, around.library (call config token) = .ok (.object props) ∧
    HasClaims (.object props) ∧ props.lookup "sub" = some (.string u) ∧
    props.lookup "exp" = some (.number exp) ∧ expiresAt = exp.mul (.fin 1000)

/-- The upgrade request showed the token for this very session, and the library vouches for it. -/
structure Entitled (parseUrl : Value → Option (List (String × String))) (around : Surroundings)
    (config : JwtConfig) (u : Upgrade) (token : String) (x : Session) : Prop where
  socket : x.socket = u.socket
  shown : WsGateway.Shows parseUrl u.args token x
  vouched : Vouches around config token x.userId x.expiresAt

theorem vouches_of_verify {around : Surroundings} {u : Upgrade} {v : JwtVerifierService}
    {token : String} {claims : VerifiedClaims} {userId : UserId}
    (h : (attempt around u v).verify token = .ok claims) (hsub : claims.sub = .string userId) :
    ∃ config, (asked around [token] v).config = some config ∧
      call config token ∈ (asked around [token] v).calls ∧
      Vouches around config token userId (claims.exp.mul (.fin 1000)) := by
  have hasked : asked around [token] v = (v.verify around.library around.process token).2 := rfl
  simp only [attempt] at h
  rcases verify_cases around token v with ⟨config, hconfigured, hverify⟩ | ⟨e, hverify⟩
  · rw [hasked, hverify]
    refine ⟨config, rfl, List.mem_append_right _ (List.mem_singleton_self _), ?_⟩
    rw [hverify] at h
    cases hlibrary : around.library (call config token) with
    | error e =>
      rw [hlibrary] at h
      cases h
    | ok value =>
      rw [hlibrary] at h
      by_cases hclaims : HasClaims value
      · have hchecked : (Except.ok value >>= checkPayload : Except Raised JwtPayload) =
            .ok ⟨value, (isJwtPayload_iff value).mpr hclaims⟩ := checkPayload_of_hasClaims hclaims
        rw [hchecked] at h
        obtain rfl := Except.ok.inj h
        obtain ⟨props, rfl, hiss, ⟨exp, hexp⟩, haud⟩ := hclaims
        refine ⟨props, exp, hlibrary, ⟨props, rfl, hiss, ⟨exp, hexp⟩, haud⟩, ?_, hexp, ?_⟩
        · change (props.lookup "sub").getD .undefined = .string userId at hsub
          cases hlookup : props.lookup "sub" with
          | none =>
            rw [hlookup] at hsub
            cases hsub
          | some sub =>
            rw [hlookup] at hsub
            exact congrArg some hsub
        · simp only [JwtPayload.claims, hexp]
      · have hchecked : (Except.ok value >>= checkPayload : Except Raised JwtPayload) =
            .error (.error "Error" "Invalid token payload") := checkPayload_of_not_hasClaims hclaims
        rw [hchecked] at h
        cases h
  · rw [hverify] at h
    cases h

theorem consulted_of_built {deps : GatewayDeps τ} {a : Attempt} {s s' : WsService τ}
    {consulted : List String} (h : WsGateway.handleConnection deps a s = .ok (s', consulted))
    {x : Session} (hx : x ∈ s'.registry.built) : x ∈ s.registry.built ∨ ∃ token claims,
      consulted = [token] ∧ x.socket = a.socket ∧ WsGateway.Shows deps.parseUrl a.args token x ∧
        a.verify token = .ok claims ∧ claims.sub = .string x.userId ∧
        x.expiresAt = claims.exp.mul (.fin 1000) := by
  obtain ⟨identity, hextract, rfl, hdecided⟩ := WsGateway.handleConnection_ok h
  rcases hdecided with ⟨reason, -, rfl⟩ | ⟨u, c, expiresAt, hauthorized, rfl⟩
  · exact .inl hx
  · obtain ⟨hu, hc, token, claims, htoken, hverify, hsub, hexp⟩ :=
      WsGateway.resolve_authorized hauthorized
    have hmoves : x ∈ (WsService.observed _).registry.built := hx
    rw [WsService.observed_handleConnection] at hmoves
    rcases Observed.built_foldl_move hmoves with hold | ⟨now, hmem⟩
    · exact .inl hold
    · have hparams := WsGateway.register_mem_connectMoves hmem
      obtain ⟨hsocket, hxu, hxc, hexpires⟩ := ConnectionParams.mk.inj hparams
      refine .inr ⟨token, claims, by rw [htoken]; rfl, hsocket.symm,
        WsGateway.shows_of_extract hextract htoken (hu.trans hxu) (hc.trans hxc), hverify, ?_,
        hexpires.symm.trans hexp⟩
      rw [hsub, Option.some.inj hxu]

theorem sessions_upgrade (deps : GatewayDeps τ) (d : Door τ) (around : Surroundings)
    (u : Upgrade) : (step deps d (.upgrade around u)).sessions =
      WsGateway.step deps d.sessions (.upgrade (attempt around u d.verifier)) := by
  simp only [step, WsGateway.step]
  cases WsGateway.handleConnection deps (attempt around u d.verifier) d.sessions with
  | ok done => rfl
  | error thrown => rfl

theorem verifier_step (deps : GatewayDeps τ) (d : Door τ) (e : DoorEvent) :
    (step deps d e).verifier = d.verifier ∨ ∃ around, e.around = some around ∧
      Advance around.process d.verifier (step deps d e).verifier := by
  cases e with
  | request around context => exact .inr ⟨around, rfl, advance_canActivate around context _⟩
  | upgrade around u =>
    rw [step]
    split
    · next sessions consulted h =>
      obtain ⟨identity, -, rfl, -⟩ := WsGateway.handleConnection_ok h
      refine .inr ⟨around, rfl, advance_asked ?_⟩
      cases identity.token <;> simp
    · exact .inl rfl
  | ws e => exact .inl rfl

theorem built_step {deps : GatewayDeps τ} {d : Door τ} {e : DoorEvent} {x : Session}
    (h : x ∈ (step deps d e).sessions.registry.built) : x ∈ d.sessions.registry.built ∨
      ∃ around u config token, e = .upgrade around u ∧
        (step deps d e).verifier.config = some config ∧
        call config token ∈ (step deps d e).verifier.calls ∧
        Entitled deps.parseUrl around config u token x := by
  cases e with
  | request around context => exact .inl h
  | upgrade around u =>
    rw [step] at h ⊢
    split at h
    · next sessions consulted hconnect =>
      rcases consulted_of_built hconnect h with hold | ⟨token, claims, rfl, hsocket, hshown,
        hverify, hsub, hexp⟩
      · exact .inl hold
      · obtain ⟨config, hconfig, hcall, hvouches⟩ := vouches_of_verify hverify hsub
        exact .inr ⟨around, u, config, token, rfl, hconfig, hcall, hsocket, hshown,
          hexp ▸ hvouches⟩
    · exact .inl h
  | ws e =>
    rcases WsGateway.built_step (e := .ws e) h with hold | ⟨a, ha, -⟩
    · exact .inl hold
    · cases ha

theorem config_step (deps : GatewayDeps τ) {d : Door τ} {config : JwtConfig}
    (h : d.verifier.config = some config) (e : DoorEvent) :
    (step deps d e).verifier.config = some config := by
  rcases verifier_step deps d e with heq | ⟨around, -, hadvance⟩
  · rw [heq]
    exact h
  · exact hadvance.config h

theorem calls_step (deps : GatewayDeps τ) (d : Door τ) (e : DoorEvent) :
    d.verifier.calls ⊆ (step deps d e).verifier.calls := by
  rcases verifier_step deps d e with heq | ⟨around, -, hadvance⟩
  · rw [heq]
    exact List.Subset.refl _
  · exact fun c hc => hadvance.calls hc

theorem vouched_of_result (deps : GatewayDeps τ) {d : Door τ} {around : Surroundings}
    {context : ExecutionContext} (hpublic : context.isPublic ≠ some true)
    (htype : context.type = "http")
    (htrue : (canActivate around.library around.process context d.verifier).result = .ok true) :
    ∃ header token config payload, context.header = some header ∧ BearerForm header token ∧
      (step deps d (.request around context)).verifier.config = some config ∧
      call config token ∈ (step deps d (.request around context)).verifier.calls ∧
      around.library (call config token) = .ok payload ∧ HasClaims payload := by
  obtain ⟨payload, token, config, hasks, hlibrary, hclaims⟩ := accepts_of_result hpublic htype htrue
  obtain ⟨header, hheader, hform⟩ := hasks.form
  obtain ⟨request, -, hrun⟩ := canActivate_of_asks around.library hpublic htype hasks
  refine ⟨header, token, config, payload, hheader, hform, ?_, ?_, hlibrary, hclaims⟩
  · rw [step, hrun, conclude_verifier]
  · rw [step, hrun, conclude_verifier]
    exact List.mem_append_right _ List.mem_cons_self

variable (deps : GatewayDeps τ) (world : τ)

theorem config_runFrom {d : Door τ} {config : JwtConfig} (h : d.verifier.config = some config)
    (es : List DoorEvent) :
    ((system deps world).runFrom d es).verifier.config = some config := by
  induction es generalizing d with
  | nil => exact h
  | cons e es ih => exact ih (config_step deps h e)

structure Trusted (es : List DoorEvent) (d : Door τ) : Prop where
  rooted : Rooted d.verifier
  read : ∀ config, d.verifier.config = some config → ∃ pre e post around,
    es = pre ++ e :: post ∧ e.around = some around ∧
      ((system deps world).run pre).verifier.config = none ∧
      getJwtConfig around.process = .ok config
  vouched : ∀ x ∈ d.sessions.registry.built, ∃ around u config token, .upgrade around u ∈ es ∧
    d.verifier.config = some config ∧ call config token ∈ d.verifier.calls ∧
    Entitled deps.parseUrl around config u token x

theorem trusted_run (es : List DoorEvent) :
    Trusted deps world es ((system deps world).run es) := by
  induction es using List.reverseRecOn with
  | nil =>
    exact ⟨fun c hc => absurd hc List.not_mem_nil, fun config h => (by cases h),
      fun x hx => absurd hx List.not_mem_nil⟩
  | append_singleton es e ih =>
    rw [System.run_concat]
    change Trusted deps world (es ++ [e]) (step deps _ e)
    set d := (system deps world).run es with hd
    have hkept : ∀ {config}, d.verifier.config = some config →
        (step deps d e).verifier.config = some config := fun h => config_step deps h e
    have hcalls : d.verifier.calls ⊆ (step deps d e).verifier.calls := calls_step deps d e
    refine ⟨?_, fun config hconfig => ?_, fun x hx => ?_⟩
    · rcases verifier_step deps d e with heq | ⟨around, -, hadvance⟩
      · rw [heq]
        exact ih.rooted
      · exact hadvance.rooted ih.rooted
    · have hread : d.verifier.config = some config ∨ d.verifier.config = none ∧
          ∃ around, e.around = some around ∧ getJwtConfig around.process = .ok config := by
        rcases verifier_step deps d e with heq | ⟨around, haround, hadvance⟩
        · exact .inl (heq ▸ hconfig)
        · exact (hadvance.read hconfig).imp_right fun h => ⟨h.1, around, haround, h.2⟩
      rcases hread with hold | ⟨hnone, around, haround, hjwt⟩
      · obtain ⟨pre, e', post, around, rfl, hrest⟩ := ih.read config hold
        exact ⟨pre, e', post ++ [e], around, by simp, hrest⟩
      · exact ⟨es, e, [], around, rfl, haround, hnone, hjwt⟩
    · rcases built_step hx with hold | ⟨around, u, config, token, rfl, hrest⟩
      · obtain ⟨around, u, config, token, hmem, hconfig, hcall, hvouches⟩ := ih.vouched x hold
        exact ⟨around, u, config, token, List.mem_append_left _ hmem, hkept hconfig,
          hcalls hcall, hvouches⟩
      · exact ⟨around, u, config, token, List.mem_append_right _ List.mem_cons_self, hrest⟩

theorem calls_runFrom (d : Door τ) (es : List DoorEvent) :
    d.verifier.calls ⊆ ((system deps world).runFrom d es).verifier.calls := by
  induction es generalizing d with
  | nil => exact List.Subset.refl _
  | cons e es ih => exact List.Subset.trans (calls_step deps d e) (ih _)

/-- Whatever becomes of environment and key file, the first configuration that could be read is
the only one the library is ever asked under, by guard and gateway alike; and every session was
vouched for under it on the token of its upgrade, every protected request that gets through on
the token of its header. -/
theorem one_configuration (es : List DoorEvent) :
    let d := (system deps world).run es
    Trusted deps world es d ∧
      (∀ config, d.verifier.config = some config → ∀ fs,
        ((system deps world).run (es ++ fs)).verifier.config = some config) ∧
      ∀ around context, context.isPublic ≠ some true → context.type = "http" →
        (canActivate around.library around.process context d.verifier).result = .ok true →
        ∃ header token config payload, context.header = some header ∧ BearerForm header token ∧
          around.library (call config token) = .ok payload ∧ HasClaims payload ∧ ∀ fs,
            let later := (system deps world).run (es ++ .request around context :: fs)
            later.verifier.config = some config ∧
              call config token ∈ later.verifier.calls := by
  intro d
  refine ⟨trusted_run deps world es, fun config hconfig fs => ?_,
    fun around context hpublic htype htrue => ?_⟩
  · rw [System.run_append]
    exact config_runFrom deps world hconfig fs
  · obtain ⟨header, token, config, payload, hheader, hform, hconfig, hcall, hlibrary, hclaims⟩ :=
      vouched_of_result deps hpublic htype htrue
    refine ⟨header, token, config, payload, hheader, hform, hlibrary, hclaims, fun fs => ?_⟩
    simp only [System.run_append]
    exact ⟨config_runFrom deps world hconfig fs, calls_runFrom deps world _ fs hcall⟩

end Door

def trusting : Surroundings where
  process := {
    env := fun name => if name = "JWT_PUBLIC_KEY_PATH" then some "key.pem" else some "me"
    readFileSync := fun _ => .ok "BEGIN PUBLIC KEY"
    resolve := .ok
    cwd := .ok "/" }
  library _ := .ok (.object [("iss", .string "me"), ("aud", .string "me"),
    ("sub", .string "u"), ("exp", .number (.fin 3600))])

end NestBackend.Auth
