import NestBackend.Auth.Verifier

namespace NestBackend.Auth

open Js
open JwtVerifierService

inductive HeaderValue where
  | string (s : String)
  | array (items : List String)

inductive Headers where
  | absent
  | notObject
  | null
  | record (entries : List (String × HeaderValue))

structure HttpRequest where
  headers : Headers
  user : Option Value

/-- What the guard reads of its context.  `request` is `none` where it is not an object. -/
structure ExecutionContext where
  isPublic : Option Bool
  type : String
  request : Option HttpRequest

/-- `isHttpRequest`; `typeof null` is `'object'`. -/
def isHttpRequest (request : HttpRequest) : Bool :=
  match request.headers with
  | .absent | .notObject => false
  | .null | .record _ => true

def readAuthHeader : Headers → Except Raised (Option String)
  | .record entries =>
    match entries.lookup "authorization" with
    | none => .ok none
    | some (.array items) => .ok (some (String.intercalate ", " items))
    | some (.string raw) => .ok (some raw)
  | .notObject => .ok none
  | .absent => .error (.error "TypeError"
      "Cannot read properties of undefined (reading 'authorization')")
  | .null => .error (.error "TypeError"
      "Cannot read properties of null (reading 'authorization')")

def UnauthorizedException (message : String) : Raised := .error "UnauthorizedException" message

/-- `${error instanceof Error ? error.message : String(error)}` -/
def describe (error : Raised) : Except Raised String := do
  if ← error.isError then error.message else error.asString

structure Verdict where
  result : Except Raised Bool
  request : Option HttpRequest
  verifier : JwtVerifierService
  debug : List String := []

def Verdict.user (out : Verdict) : Option Value := out.request.bind (·.user)

def ExecutionContext.user (context : ExecutionContext) : Option Value :=
  context.request.bind (·.user)

def verifyRequest (library : VerifyCall → Except Raised Value) (process : Process)
    (request : HttpRequest) (s : JwtVerifierService) :
    Except Raised JwtPayload × JwtVerifierService :=
  match readAuthHeader request.headers with
  | .error e => (.error e, s)
  | .ok header => s.verifyHeader library process header

/-- The assignment and what follows it, or the `catch` block. -/
def conclude (request : HttpRequest) (s : JwtVerifierService) : Except Raised JwtPayload → Verdict
  | .ok payload => {
      result := .ok true
      request := some { request with user := some payload.value }
      verifier := s }
  | .error error =>
    match describe error with
    | .error e => { result := .error e, request, verifier := s }
    | .ok text => {
        result := .error (UnauthorizedException "Invalid or expired token")
        request
        verifier := s
        debug := ["JWT verification failed: " ++ text] }

def canActivate (library : VerifyCall → Except Raised Value) (process : Process)
    (context : ExecutionContext) (s : JwtVerifierService) : Verdict :=
  if context.isPublic = some true then
    { result := .ok true, request := context.request, verifier := s }
  else if context.type ≠ "http" then
    { result := .ok true, request := context.request, verifier := s }
  else
    match context.request with
    | none =>
      { result := .error (UnauthorizedException "Missing request"), request := none, verifier := s }
    | some request =>
      if isHttpRequest request then
        match verifyRequest library process request s with
        | (verified, s) => conclude request s verified
      else
        { result := .error (UnauthorizedException "Missing request"), request, verifier := s }

def ExecutionContext.header (context : ExecutionContext) : Option String :=
  match context.request with
  | none => none
  | some request =>
    match readAuthHeader request.headers with
    | .ok header => header
    | .error _ => none

def Accepts (library : VerifyCall → Except Raised Value) (process : Process)
    (header : Option String) (s : JwtVerifierService) (payload : Value) : Prop :=
  ∃ t config, Asks process header s t config ∧ library (call config t) = .ok payload ∧
    HasClaims payload

/-- What is thrown cannot be printed: looking at it throws in turn. -/
inductive Escapes : Raised → Raised → Prop
  | type {raised e} : raised.isError = .error e → Escapes raised e
  | message {raised e} : raised.isError = .ok true → raised.message = .error e → Escapes raised e
  | asString {raised e} : raised.isError = .ok false → raised.asString = .error e →
      Escapes raised e

/-- Whatever the library throws on the token of the header can be printed, or what comes of trying
is an `UnauthorizedException` itself. -/
def Printable (library : VerifyCall → Except Raised Value) (process : Process)
    (header : Option String) (s : JwtVerifierService) : Prop :=
  ∀ t config raised e, Asks process header s t config → library (call config t) = .error raised →
    Escapes raised e → e.className = "UnauthorizedException"

structure LetsInOnly (library : VerifyCall → Except Raised Value) (process : Process)
    (context : ExecutionContext) (s : JwtVerifierService) : Prop where
  admits : (canActivate library process context s).result = .ok true ↔
    ∃ payload, Accepts library process context.header s payload
  attaches : ∀ payload, Accepts library process context.header s payload →
    (canActivate library process context s).user = some payload
  refuses : (∀ payload, ¬ Accepts library process context.header s payload) →
    (∃ e, (canActivate library process context s).result = .error e) ∧
      (canActivate library process context s).user = context.user
  asks : ∀ t config, Asks process context.header s t config →
    (canActivate library process context s).verifier.calls = s.calls ++ [call config t]
  silent : (∀ t config, ¬ Asks process context.header s t config) →
    (canActivate library process context s).verifier.calls = s.calls
  token : ∀ header t t', BearerForm header t → BearerForm header t' → t = t'

/-- A request that does not get through is answered with 401, whatever has been thrown. -/
structure FailsClosed (library : VerifyCall → Except Raised Value) (process : Process)
    (context : ExecutionContext) (s : JwtVerifierService) : Prop
    extends LetsInOnly library process context s where
  unauthorized : ∀ e, (canActivate library process context s).result = .error e →
    e.className = "UnauthorizedException"

section

variable {library : VerifyCall → Except Raised Value} {process : Process}
  {context : ExecutionContext} {s : JwtVerifierService} {t : String} {config : JwtConfig}

theorem throwsErrors_readAuthHeader (headers : Headers) :
    ThrowsErrors (readAuthHeader headers) := by
  unfold readAuthHeader
  split
  · split
    · exact throwsErrors_ok _
    · exact throwsErrors_ok _
    · exact throwsErrors_ok _
  · exact throwsErrors_ok _
  · exact throwsErrors_error _ _
  · exact throwsErrors_error _ _

theorem exists_request_of_header {text : String} (h : context.header = some text) :
    ∃ request, context.request = some request ∧ isHttpRequest request = true ∧
      readAuthHeader request.headers = .ok (some text) := by
  unfold ExecutionContext.header at h
  split at h
  · cases h
  · next request hrequest =>
    split at h
    · next header hread =>
      subst h
      refine ⟨request, hrequest, ?_, hread⟩
      unfold isHttpRequest
      unfold readAuthHeader at hread
      split
      · next habsent =>
        rw [habsent] at hread
        cases hread
      · next hother =>
        rw [hother] at hread
        cases hread
      · rfl
      · rfl
    · cases h

theorem canActivate_of_asks (library : VerifyCall → Except Raised Value)
    (hpublic : context.isPublic ≠ some true) (htype : context.type = "http")
    (h : Asks process context.header s t config) : ∃ request, context.request = some request ∧
      canActivate library process context s =
        conclude request ⟨some config, s.calls ++ [call config t]⟩
          (library (call config t) >>= checkPayload) := by
  obtain ⟨text, htext, -⟩ := h.form
  obtain ⟨request, hrequest, hhttp, hread⟩ := exists_request_of_header htext
  refine ⟨request, hrequest, ?_⟩
  have hverify : verifyRequest library process request s =
      s.verifyHeader library process context.header := by
    rw [verifyRequest, hread, htext]
  rw [canActivate, if_neg hpublic, if_neg (not_not.mpr htype), hrequest]
  simp only [hhttp, if_true, hverify, verifyHeader_of_asks h]

theorem describe_eq_error_iff {raised e : Raised} :
    describe raised = .error e ↔ Escapes raised e := by
  simp only [describe, bind, Except.bind]
  constructor
  · intro h
    split at h
    · next e' htype =>
      obtain rfl := Except.error.inj h
      exact .type htype
    · next isError htype =>
      cases isError with
      | true => exact .message htype h
      | false => exact .asString htype h
  · rintro (htype | ⟨htype, h⟩ | ⟨htype, h⟩)
    · rw [htype]
    · rw [htype]
      exact h
    · rw [htype]
      exact h

theorem conclude_of_escapes {raised e : Raised} (h : Escapes raised e) (request : HttpRequest)
    (s : JwtVerifierService) : conclude request s (.error raised) =
      { result := .error e, request := some request, verifier := s } := by
  simp only [conclude, describe_eq_error_iff.mpr h]

theorem conclude_of_describe {e : Raised} {text : String} (h : describe e = .ok text)
    (request : HttpRequest) (s : JwtVerifierService) : conclude request s (.error e) = {
      result := .error (UnauthorizedException "Invalid or expired token")
      request := some request
      verifier := s
      debug := ["JWT verification failed: " ++ text] } := by
  simp only [conclude, h]

theorem canActivate_of_not_asks (library : VerifyCall → Except Raised Value)
    (hpublic : context.isPublic ≠ some true) (htype : context.type = "http")
    (h : ∀ t config, ¬ Asks process context.header s t config) :
    ∃ message debug, canActivate library process context s =
      ⟨.error (UnauthorizedException message), context.request, s, debug⟩ := by
  rw [canActivate, if_neg hpublic, if_neg (not_not.mpr htype)]
  cases hrequest : context.request with
  | none => exact ⟨_, _, rfl⟩
  | some request =>
    dsimp only
    split
    · next hhttp =>
      have hfailed : ∃ name message,
          verifyRequest library process request s = (.error (.error name message), s) := by
        cases hread : readAuthHeader request.headers with
        | error e =>
          obtain ⟨name, message, rfl⟩ := throwsErrors_readAuthHeader _ e hread
          exact ⟨name, message, by rw [verifyRequest, hread]⟩
        | ok header =>
          have hheader : context.header = header := by
            simp only [ExecutionContext.header, hrequest, hread]
          rw [verifyRequest, hread]
          exact verifyHeader_of_not_asks (hheader ▸ h)
      obtain ⟨name, message, hverify⟩ := hfailed
      rw [hverify]
      exact ⟨_, _, conclude_of_describe rfl request s⟩
    · exact ⟨_, _, rfl⟩

theorem canActivate_of_accepts (hpublic : context.isPublic ≠ some true)
    (htype : context.type = "http") {payload : Value}
    (h : Accepts library process context.header s payload) :
    (canActivate library process context s).result = .ok true ∧
      (canActivate library process context s).user = some payload := by
  obtain ⟨t, config, hasks, hlibrary, hclaims⟩ := h
  obtain ⟨request, -, hrun⟩ := canActivate_of_asks library hpublic htype hasks
  have hchecked : (library (call config t) >>= checkPayload) =
      .ok ⟨payload, (isJwtPayload_iff payload).mpr hclaims⟩ := by
    rw [hlibrary]
    exact checkPayload_of_hasClaims hclaims
  rw [hrun, hchecked]
  exact ⟨rfl, rfl⟩

theorem canActivate_of_escapes (hpublic : context.isPublic ≠ some true)
    (htype : context.type = "http") (hasks : Asks process context.header s t config)
    {raised e : Raised} (hlibrary : library (call config t) = .error raised)
    (h : Escapes raised e) : (canActivate library process context s).result = .error e ∧
      (canActivate library process context s).user = context.user := by
  obtain ⟨request, hrequest, hrun⟩ := canActivate_of_asks library hpublic htype hasks
  have hthrown : (library (call config t) >>= checkPayload) = .error raised := by
    rw [hlibrary]
    rfl
  rw [hrun, hthrown, conclude_of_escapes h, ExecutionContext.user, hrequest]
  exact ⟨rfl, rfl⟩

theorem canActivate_of_not_accepts (hpublic : context.isPublic ≠ some true)
    (htype : context.type = "http")
    (haccepts : ∀ payload, ¬ Accepts library process context.header s payload) :
    (canActivate library process context s).user = context.user ∧
      ((∃ message, (canActivate library process context s).result =
        .error (UnauthorizedException message)) ∨
      ∃ t config raised e, Asks process context.header s t config ∧
        library (call config t) = .error raised ∧ Escapes raised e ∧
        (canActivate library process context s).result = .error e) := by
  by_cases hasks : ∃ t config, Asks process context.header s t config
  · obtain ⟨t, config, hasks⟩ := hasks
    obtain ⟨request, hrequest, hrun⟩ := canActivate_of_asks library hpublic htype hasks
    have hrefused : ∀ {e : Raised} {text : String},
        (library (call config t) >>= checkPayload) = .error e → describe e = .ok text →
        (canActivate library process context s).user = context.user ∧
          (canActivate library process context s).result =
            .error (UnauthorizedException "Invalid or expired token") := by
      intro e text hthrown htext
      rw [hrun, hthrown, conclude_of_describe htext, ExecutionContext.user, hrequest]
      exact ⟨rfl, rfl⟩
    cases hlibrary : library (call config t) with
    | error raised =>
      cases htext : describe raised with
      | ok text =>
        have h := hrefused (by rw [hlibrary]; rfl) htext
        exact ⟨h.1, .inl ⟨_, h.2⟩⟩
      | error e =>
        have hescapes := describe_eq_error_iff.mp htext
        have h := canActivate_of_escapes hpublic htype hasks hlibrary hescapes
        exact ⟨h.2, .inr ⟨t, config, raised, e, hasks, hlibrary, hescapes, h.1⟩⟩
    | ok decoded =>
      have hclaims : ¬ HasClaims decoded :=
        fun hclaims => haccepts decoded ⟨t, config, hasks, hlibrary, hclaims⟩
      have h := hrefused (by rw [hlibrary]; exact checkPayload_of_not_hasClaims hclaims) rfl
      exact ⟨h.1, .inl ⟨_, h.2⟩⟩
  · obtain ⟨message, debug, hrun⟩ := canActivate_of_not_asks library hpublic htype
      fun t config h => hasks ⟨t, config, h⟩
    rw [hrun]
    exact ⟨rfl, .inl ⟨message, rfl⟩⟩

theorem accepts_of_result (hpublic : context.isPublic ≠ some true) (htype : context.type = "http")
    (htrue : (canActivate library process context s).result = .ok true) :
    ∃ payload, Accepts library process context.header s payload := by
  by_contra hnone
  rcases (canActivate_of_not_accepts hpublic htype fun payload h => hnone ⟨payload, h⟩).2 with
    ⟨message, hthrown⟩ | ⟨t, config, raised, e, -, -, -, hthrown⟩
  · cases htrue.symm.trans hthrown
  · cases htrue.symm.trans hthrown

theorem calls_of_asks (hpublic : context.isPublic ≠ some true) (htype : context.type = "http")
    (h : Asks process context.header s t config) :
    (canActivate library process context s).verifier.calls = s.calls ++ [call config t] := by
  obtain ⟨request, -, hrun⟩ := canActivate_of_asks library hpublic htype h
  rw [hrun]
  unfold conclude
  split
  · rfl
  · split
    · rfl
    · rfl

theorem calls_of_not_asks (hpublic : context.isPublic ≠ some true) (htype : context.type = "http")
    (h : ∀ t config, ¬ Asks process context.header s t config) :
    (canActivate library process context s).verifier.calls = s.calls := by
  obtain ⟨message, debug, hrun⟩ := canActivate_of_not_asks library hpublic htype h
  rw [hrun]

theorem letsInOnly (hpublic : context.isPublic ≠ some true) (htype : context.type = "http") :
    LetsInOnly library process context s where
  admits :=
    ⟨accepts_of_result hpublic htype, fun ⟨_, h⟩ => (canActivate_of_accepts hpublic htype h).1⟩
  attaches _ h := (canActivate_of_accepts hpublic htype h).2
  refuses h := by
    obtain ⟨huser, ⟨message, hthrown⟩ | ⟨t, config, raised, e, -, -, -, hthrown⟩⟩ :=
      canActivate_of_not_accepts hpublic htype h
    · exact ⟨⟨_, hthrown⟩, huser⟩
    · exact ⟨⟨_, hthrown⟩, huser⟩
  asks _ _ h := calls_of_asks hpublic htype h
  silent h := calls_of_not_asks hpublic htype h
  token _ _ _ := BearerForm.unique

theorem unauthorized_of_printable (hpublic : context.isPublic ≠ some true)
    (htype : context.type = "http") (h : Printable library process context.header s) {e : Raised}
    (hthrown : (canActivate library process context s).result = .error e) :
    e.className = "UnauthorizedException" := by
  have hnone : ∀ payload, ¬ Accepts library process context.header s payload := by
    intro payload haccepts
    cases (canActivate_of_accepts hpublic htype haccepts).1.symm.trans hthrown
  rcases (canActivate_of_not_accepts hpublic htype hnone).2 with
    ⟨message, hrefused⟩ | ⟨t, config, raised, e', hasks, hlibrary, hescapes, hescaped⟩
  · obtain rfl := Except.error.inj (hthrown.symm.trans hrefused)
    rfl
  · obtain rfl := Except.error.inj (hthrown.symm.trans hescaped)
    exact h t config raised e hasks hlibrary hescapes

end

/-- A protected request gets through exactly when the library accepts the token of its header
with the claims that are asked for; every other one is answered with 401 exactly when what the
library throws on the token can be printed. -/
theorem authentication_fails_closed (library : VerifyCall → Except Raised Value)
    (process : Process) (context : ExecutionContext) (s : JwtVerifierService)
    (hpublic : context.isPublic ≠ some true) (htype : context.type = "http") :
    LetsInOnly library process context s ∧
      (FailsClosed library process context s ↔ Printable library process context.header s) := by
  refine ⟨letsInOnly hpublic htype, fun h t config raised e hasks hlibrary hescapes => ?_,
    fun h => ?_⟩
  · exact h.unauthorized e (canActivate_of_escapes hpublic htype hasks hlibrary hescapes).1
  · exact ⟨letsInOnly hpublic htype, fun e => unauthorized_of_printable hpublic htype h⟩

def protectedRequest (authorization : String) : ExecutionContext where
  isPublic := none
  type := "http"
  request := some ⟨.record [("authorization", .string authorization)], none⟩

def unconfigured : Process where
  env _ := none
  readFileSync _ := .error ⟨"no such file"⟩
  resolve path := .ok path
  cwd := .ok "/"

theorem asks_protectedRequest (config : JwtConfig) : Asks unconfigured
    (protectedRequest "Bearer abc").header { config := some config } "abc" config where
  form := ⟨"Bearer abc", rfl, extractBearerToken_eq_some_iff.mp (by decide +kernel)⟩
  configured := .inl rfl

theorem admits_signed_claims :
    let library := fun _ => .ok
      (.object [("iss", .string "me"), ("aud", .array []), ("exp", .number (.fin 9))])
    let s : JwtVerifierService := { config := some ⟨"BEGIN PUBLIC KEY", "me", "you"⟩ }
    FailsClosed library unconfigured (protectedRequest "Bearer abc") s ∧
      (canActivate library unconfigured (protectedRequest "Bearer abc") s).result = .ok true := by
  intro library s
  obtain ⟨hletsIn, hcloses⟩ := authentication_fails_closed library unconfigured
    (protectedRequest "Bearer abc") s (by decide) rfl
  have hclaims : HasClaims
      (.object [("iss", .string "me"), ("aud", .array []), ("exp", .number (.fin 9))]) :=
    ⟨_, rfl, ⟨"me", rfl⟩, ⟨.fin 9, rfl⟩, .inr ⟨[], rfl⟩⟩
  exact ⟨hcloses.mpr nofun, hletsIn.admits.mpr ⟨_, "abc", _, asks_protectedRequest _, rfl, hclaims⟩⟩

def symbolMessage : Raised :=
  .mk "Error" (.ok true)
    (.error (.error "TypeError" "Cannot convert a Symbol value to a string")) (.ok "Error")

theorem unprintable_escapes :
    ¬ ∀ library process context s, context.isPublic ≠ some true → context.type = "http" →
      FailsClosed library process context s := by
  intro h
  let library : VerifyCall → Except Raised Value := fun _ => .error symbolMessage
  let s : JwtVerifierService := { config := some ⟨"BEGIN PUBLIC KEY", "me", "you"⟩ }
  have hlibrary : ∀ c, library c = .error symbolMessage := fun _ => rfl
  have hmessage : Escapes symbolMessage
      (.error "TypeError" "Cannot convert a Symbol value to a string") := .message rfl rfl
  have hescapes := (canActivate_of_escapes (s := s) (by decide) rfl (asks_protectedRequest _)
    (hlibrary _) hmessage).1
  have hcloses := h library unconfigured (protectedRequest "Bearer abc") s (by decide) rfl
  exact absurd (hcloses.unauthorized _ hescapes) (by decide)

end NestBackend.Auth
