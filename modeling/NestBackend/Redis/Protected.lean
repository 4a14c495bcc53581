import NestBackend.Auth.Admission
import NestBackend.Redis.Cache

namespace NestBackend.Redis

open NestBackend.Lib
open NestBackend.Ws
open NestBackend.Auth
open JwtVerifierService

variable {ι τ : Type}

/-- No handler of `/redis` is marked public. -/
def routeContext (http : HttpRequest) : ExecutionContext := ⟨none, "http", some http⟩

/-- What happens to the processes and to Redis.  A process that starts anew is another one. -/
inductive FrontEvent (ι : Type) where
  | door (i : ι) (e : DoorEvent)
  | arrive (i : ι) (around : Surroundings) (http : HttpRequest) (request : Request)
  | redis (e : Service.Event (Option Fault) Unit)

def FrontEvent.doorEvent : FrontEvent ι → Option (ι × DoorEvent)
  | .door i e => some (i, e)
  | .arrive i around http _ => some (i, .request around (routeContext http))
  | .redis _ => none

structure Front (ι τ : Type) where
  doors : ι → Door τ
  admitted : List Request
  handling : Sessions Command Command.Result HttpError Response Store

namespace Front

variable [DecidableEq ι]

def moveDoors (deps : GatewayDeps τ) (doors : ι → Door τ) (e : FrontEvent ι) : ι → Door τ :=
  match e.doorEvent with
  | none => doors
  | some (i, e) => Function.update doors i ((doors i).step deps e)

def verdict (s : Front ι τ) (i : ι) (around : Surroundings) (http : HttpRequest) : Verdict :=
  canActivate around.library around.process (routeContext http) (s.doors i).verifier

def enter (ignored : String → Bool) (request : Request) (s : Front ι τ) : Front ι τ :=
  { s with
    admitted := s.admitted ++ [request]
    handling := s.handling.join (handle ignored request) }

def step (deps : GatewayDeps τ) (odd : Oddities) (ignored : String → Bool) (s : Front ι τ)
    (e : FrontEvent ι) : Front ι τ :=
  let moved := { s with doors := moveDoors deps s.doors e }
  match e with
  | .door _ _ => moved
  | .arrive i around http request =>
    match (s.verdict i around http).result with
    | .ok true => moved.enter ignored request
    | _ => moved
  | .redis e => { moved with handling := (redis odd).step s.handling e }

def system (deps : GatewayDeps τ) (world : τ) (odd : Oddities) (ignored : String → Bool) :
    System (Front ι τ) (FrontEvent ι) where
  init := ⟨fun _ => ⟨{}, .start world⟩, [], ⟨.empty, []⟩⟩
  step := step deps odd ignored

variable {deps : GatewayDeps τ} {odd : Oddities} {ignored : String → Bool} {s : Front ι τ}

theorem step_cases (deps : GatewayDeps τ) (odd : Oddities) (ignored : String → Bool)
    (s : Front ι τ) (e : FrontEvent ι) :
    (s.step deps odd ignored e).doors = moveDoors deps s.doors e ∧
      (((s.step deps odd ignored e).admitted = s.admitted ∧
        ((s.step deps odd ignored e).handling = s.handling ∨ ∃ e',
          (s.step deps odd ignored e).handling = (redis odd).step s.handling e')) ∨
      ∃ i around http request, e = .arrive i around http request ∧
        (s.verdict i around http).result = .ok true ∧
        (s.step deps odd ignored e).admitted = s.admitted ++ [request] ∧
        (s.step deps odd ignored e).handling = s.handling.join (handle ignored request)) := by
  cases e with
  | door i e => exact ⟨rfl, .inl ⟨rfl, .inl rfl⟩⟩
  | redis e => exact ⟨rfl, .inl ⟨rfl, .inr ⟨e, rfl⟩⟩⟩
  | arrive i around http request =>
    simp only [step]
    split
    · next hresult => exact ⟨rfl, .inr ⟨i, around, http, request, rfl, hresult, rfl, rfl⟩⟩
    · exact ⟨rfl, .inl ⟨rfl, .inl rfl⟩⟩

theorem reached_run (deps : GatewayDeps τ) (world : τ) (odd : Oddities) (ignored : String → Bool)
    (es : List (FrontEvent ι)) :
    let s := (system deps world odd ignored).run es
    (redis odd).Reached .empty (s.admitted.map (handle ignored)) s.handling := by
  refine (system deps world odd ignored).invariant
    (I := fun s => (redis odd).Reached .empty (s.admitted.map (handle ignored)) s.handling)
    Service.reached_nil (fun s e h => ?_) es
  change (redis odd).Reached .empty ((s.step deps odd ignored e).admitted.map (handle ignored))
    (s.step deps odd ignored e).handling
  obtain ⟨-, ⟨hadmitted, hhandling | ⟨e', hhandling⟩⟩ | ⟨i, around, http, request, -, -, hadmitted,
    hhandling⟩⟩ := step_cases deps odd ignored s e
  · rwa [hadmitted, hhandling]
  · rw [hadmitted, hhandling]
    exact h.step e'
  · rw [hadmitted, hhandling, List.map_append]
    exact h.join _

theorem config_moveDoors {doors : ι → Door τ} {i : ι} {config : JwtConfig}
    (h : (doors i).verifier.config = some config) (e : FrontEvent ι) :
    (moveDoors deps doors e i).verifier.config = some config := by
  unfold moveDoors
  cases e.doorEvent with
  | none => exact h
  | some moved =>
    obtain ⟨j, e'⟩ := moved
    dsimp only
    by_cases hj : i = j
    · subst hj
      rw [Function.update_self]
      exact Door.config_step deps h e'
    · rwa [Function.update_of_ne hj]

end Front

/-- As the `n`-th of all, the request gets past the guard of its process: the library vouches for
the token of its header. -/
def AdmittedAt [DecidableEq ι] (deps : GatewayDeps τ) (world : τ) (odd : Oddities)
    (ignored : String → Bool) (es : List (FrontEvent ι)) (n : ℕ) (request : Request) : Prop :=
  ∃ pre i around http post payload, es = pre ++ .arrive i around http request :: post ∧
    ((Front.system deps world odd ignored).run pre).admitted.length = n ∧
    Accepts around.library around.process (routeContext http).header
      (((Front.system deps world odd ignored).run pre).doors i).verifier payload

/-- A guard let the request in: the library vouched for the token of its header under the one
configuration that the process keeps. -/
inductive LetIn (es : List (FrontEvent ι)) (doors : ι → Door τ) (request : Request) : Prop
  | vouched {i around http header config token payload} :
      .arrive i around http request ∈ es →
      (routeContext http).header = some header → BearerForm header token →
      (doors i).verifier.config = some config →
      around.library (call config token) = .ok payload → HasClaims payload →
      LetIn es doors request

section

variable [DecidableEq ι] {deps : GatewayDeps τ} {odd : Oddities} {ignored : String → Bool}

theorem admitted_runFrom (deps : GatewayDeps τ) (world : τ) (odd : Oddities)
    (ignored : String → Bool) (s : Front ι τ) (es : List (FrontEvent ι)) :
    s.admitted <+: ((Front.system deps world odd ignored).runFrom s es).admitted := by
  induction es generalizing s with
  | nil => exact List.prefix_refl _
  | cons e es ih =>
    refine List.IsPrefix.trans ?_ (ih _)
    change s.admitted <+: (s.step deps odd ignored e).admitted
    obtain ⟨-, ⟨hadmitted, -⟩ | ⟨i, around, http, request, -, -, hadmitted, -⟩⟩ :=
      s.step_cases deps odd ignored e
    · rw [hadmitted]
    · rw [hadmitted]
      exact List.prefix_append ..

theorem admitted_run (deps : GatewayDeps τ) (world : τ) (odd : Oddities) (ignored : String → Bool)
    (es : List (FrontEvent ι)) (n : ℕ) (request : Request) :
    ((Front.system deps world odd ignored).run es).admitted[n]? = some request ↔
      AdmittedAt deps world odd ignored es n request := by
  have hprotected : ∀ http, (routeContext http).isPublic ≠ some true := fun http => nofun
  constructor
  · intro h
    obtain ⟨pre, e, post, rfl, hbefore, hafter⟩ := System.exists_step_of_run
      (P := fun s : Front ι τ => s.admitted[n]? = some request) (by simp [Front.system]) h
    change (Front.step deps odd ignored _ e).admitted[n]? = some request at hafter
    obtain ⟨-, ⟨hadmitted, -⟩ | ⟨i, around, http, request', rfl, htrue, hadmitted, -⟩⟩ :=
      Front.step_cases deps odd ignored ((Front.system deps world odd ignored).run pre) e
    · rw [hadmitted] at hafter
      exact absurd hafter hbefore
    · rw [hadmitted] at hafter
      obtain ⟨payload, haccepts⟩ := accepts_of_result (hprotected http) rfl htrue
      rw [List.getElem?_append] at hafter
      split at hafter
      · exact absurd hafter hbefore
      · next hn =>
        rw [List.getElem?_singleton] at hafter
        split at hafter
        · obtain rfl := Option.some.inj hafter
          exact ⟨pre, i, around, http, post, payload, rfl, by omega, haccepts⟩
        · cases hafter
  · rintro ⟨pre, i, around, http, post, payload, rfl, rfl, haccepts⟩
    have htrue := (canActivate_of_accepts (hprotected http) rfl haccepts).1
    rw [System.run_append, System.runFrom_cons]
    generalize (Front.system deps world odd ignored).run pre = s at htrue ⊢
    have hentered : (s.step deps odd ignored (.arrive i around http request)).admitted =
        s.admitted ++ [request] := by
      simp only [Front.step, Front.verdict, htrue, Front.enter]
    obtain ⟨later, hlater⟩ := admitted_runFrom deps world odd ignored
      (s.step deps odd ignored (.arrive i around http request)) post
    rw [hentered] at hlater
    change ((Front.system deps world odd ignored).runFrom
      (s.step deps odd ignored (.arrive i around http request)) post).admitted[_]? = some request
    rw [← hlater, List.append_assoc, List.getElem?_append_right le_rfl, Nat.sub_self]
    rfl

theorem LetIn.step {es : List (FrontEvent ι)} {doors : ι → Door τ} {request : Request}
    (h : LetIn es doors request) (e : FrontEvent ι) :
    LetIn (es ++ [e]) (Front.moveDoors deps doors e) request := by
  obtain ⟨hmem, hheader, hform, hconfig, hlibrary, hclaims⟩ := h
  exact .vouched (List.mem_append_left _ hmem) hheader hform (Front.config_moveDoors hconfig e)
    hlibrary hclaims

theorem letIn_of_verdict {s : Front ι τ} {i : ι} {around : Surroundings} {http : HttpRequest}
    (h : (s.verdict i around http).result = .ok true) (es : List (FrontEvent ι))
    (request : Request) :
    LetIn (es ++ [.arrive i around http request])
      (Front.moveDoors deps s.doors (.arrive i around http request)) request := by
  have hpublic : (routeContext http).isPublic ≠ some true := nofun
  obtain ⟨header, token, config, payload, hheader, hform, hconfig, -, hlibrary, hclaims⟩ :=
    Door.vouched_of_result deps hpublic rfl h
  refine .vouched (List.mem_append_right _ List.mem_cons_self) hheader hform ?_ hlibrary hclaims
  rw [Front.moveDoors, FrontEvent.doorEvent]
  simpa using hconfig

theorem letIn_run (deps : GatewayDeps τ) (world : τ) (odd : Oddities) (ignored : String → Bool)
    (es : List (FrontEvent ι)) :
    ∀ request ∈ ((Front.system deps world odd ignored).run es).admitted,
      LetIn es ((Front.system deps world odd ignored).run es).doors request := by
  induction es using List.reverseRecOn with
  | nil => exact fun request h => absurd h List.not_mem_nil
  | append_singleton es e ih =>
    rw [System.run_concat]
    generalize (Front.system deps world odd ignored).run es = s at ih ⊢
    change ∀ request ∈ (s.step deps odd ignored e).admitted,
      LetIn (es ++ [e]) (s.step deps odd ignored e).doors request
    obtain ⟨hdoors, ⟨hadmitted, -⟩ | ⟨i, around, http, request, rfl, htrue, hadmitted, -⟩⟩ :=
      s.step_cases deps odd ignored e
    · rw [hdoors, hadmitted]
      exact fun request h => (ih request h).step e
    · rw [hdoors, hadmitted]
      intro request' h
      rcases List.mem_append.mp h with hold | hnew
      · exact (ih request' hold).step _
      · obtain rfl := List.mem_singleton.mp hnew
        exact letIn_of_verdict htrue es _

end

/-- Whoever talks to the processes that share a Redis, and in whatever order: what it holds was
posted by a request that a guard let in, on a token that was vouched for under the one
configuration of its process; the requests let in that way are handled, each of them once, and
nothing else is; and whatever is answered is what such requests posted. -/
theorem guarded_entries [DecidableEq ι] (deps : GatewayDeps τ) (world : τ) (odd : Oddities)
    (ignored : String → Bool) (es : List (FrontEvent ι))
    (hmappable : AllMappable ignored ((Front.system deps world odd ignored).run es).admitted) :
    let s := (Front.system deps world odd ignored).run es
    (∀ key value expiry, s.handling.store.held key = some (value, expiry) → ∃ request w,
      LetIn es s.doors request ∧ writeOf ignored request = some w ∧ w.key = key ∧
        w.value = value ∧ ∃ deadline, expiry = some deadline ∧
          deadline ≤ s.handling.store.clock + w.px) ∧
    (∀ n request, s.admitted[n]? = some request ↔
      AdmittedAt deps world odd ignored es n request) ∧
    s.handling.clients.length = s.admitted.length ∧
    ∀ (i : ℕ) request, s.admitted[i]? = some request → LetIn es s.doors request ∧
      ∃ c : Handling, s.handling.clients[i]? = some c ∧ ∀ o, c.rest.outcome? = some o →
        Answered ignored (writes ignored s.admitted) c.talk request o := by
  intro s
  have hletIn := letIn_run deps world odd ignored es
  obtain ⟨fs, -, hhandling⟩ := Front.reached_run deps world odd ignored es
  change s.handling = (cache odd ignored s.admitted).run fs at hhandling
  refine ⟨fun key value expiry hheld => ?_, admitted_run deps world odd ignored es, ?_,
    fun i request hrequest => ?_⟩
  · rw [hhandling] at hheld ⊢
    obtain ⟨w, hw, hkey, hvalue, hdeadline⟩ :=
      (kept_run odd hmappable fs).1 key value expiry hheld
    obtain ⟨request, hmem, hwrite⟩ := List.mem_filterMap.mp hw
    exact ⟨request, w, hletIn request hmem, hwrite, hkey, hvalue, hdeadline⟩
  · rw [hhandling, cache, Service.length_run, List.length_map]
  · rw [hhandling]
    exact ⟨hletIn request (List.mem_of_getElem? hrequest), answered_run odd hmappable fs hrequest⟩

def bearing : HttpRequest := ⟨.record [("authorization", .string "Bearer abc")], none⟩

def visitors : List (FrontEvent Unit) :=
  [.arrive () trusting ⟨.record [], none⟩ (.post greeting),
    .arrive () trusting bearing (.post greeting), .redis (.turn 0 none)]

def visited : Front Unit Unit :=
  (Front.system WsGateway.bareGateway () rejecting fun _ => false).run visitors

theorem allMappable_visited : AllMappable (fun _ => false) visited.admitted := by
  intro body hmem _
  obtain ⟨harrived, -⟩ := letIn_run _ _ _ _ visitors _ hmem
  have hbody : body = greeting := by
    simp only [visitors, List.mem_cons, FrontEvent.arrive.injEq, Request.post.injEq] at harrived
    rcases harrived with ⟨-, -, -, h⟩ | ⟨-, -, -, h⟩ | h
    · exact h
    · exact h
    · simp at h
  subst hbody
  exact .absent

theorem held_visited : visited.handling.store.held "k" = some ("v", some 3600000) := by
  decide +kernel

theorem guarded_entries_greeting : ∃ request w, LetIn visitors visited.doors request ∧
    writeOf (fun _ => false) request = some w ∧ w.key = "k" ∧ w.value = "v" := by
  obtain ⟨request, w, hletIn, hwrite, hkey, hvalue, -⟩ :=
    (guarded_entries _ _ _ _ visitors allMappable_visited).1 "k" "v" (some 3600000) held_visited
  exact ⟨request, w, hletIn, hwrite, hkey, hvalue⟩

end NestBackend.Redis
