import NestBackend.Redis.Handlers

namespace NestBackend.Redis

open NestBackend.Js
open NestBackend.Lib

abbrev Talk := List (Exchange Command.Result)

abbrev Handling := Client Command Command.Result HttpError Response

def askedExpiration (given : List Props) : Expiration :=
  (given.head?.map expirationOf).getD defaultExpiration

def askedCondition (given : List String) : Option Value := given.head?.map .string

/-- What a body asks to be written, by what it gives. -/
def asked (body : Json) : Option Write :=
  match body.get? "key", body.get? "value" with
  | some (.str key), some (.str value) => do
    let px ← (askedExpiration (expirationsOf (body.get? "options"))).px?
    let condition ← condition? (askedCondition (conditionsOf (body.get? "options")))
    return ⟨key, value, px, condition⟩
  | _, _ => none

def writeOf (ignored : String → Bool) : Request → Option Write
  | .get _ => none
  | .post body => if accepts ignored (.ofJson body) then asked body else none

def writes (ignored : String → Bool) (requests : List Request) : List Write :=
  requests.filterMap (writeOf ignored)

structure AsksFor (ignored : String → Bool) (query : Json) (key : String) : Prop where
  accepted : acceptsQuery ignored (.ofJson query) = true
  names : (Value.ofJson query).chain "key" = .string key
  nonBlank : NonBlank key

inductive Sends (ignored : String → Bool) : Request → Command → Prop
  | get {query key} : AsksFor ignored query key → Sends ignored (.get query) (.get (.string key))
  | ttl {query key} : AsksFor ignored query key → Sends ignored (.get query) (.ttl (.string key))
  | set {body call} : accepts ignored (.ofJson body) = true →
      RedisController.setValue (.ofJson body) = .ok call → Sends ignored (.post body) (.set call)

inductive Ending (ignored : String → Bool) : Request → Except HttpError Response → Talk → Prop
  | badQuery {query} : acceptsQuery ignored (.ofJson query) = false →
      Ending ignored (.get query) (.error .badRequest) []
  | badBody {body} : accepts ignored (.ofJson body) = false →
      Ending ignored (.post body) (.error .badRequest) []
  | unmapped {body message} : accepts ignored (.ofJson body) = true →
      RedisController.setValue (.ofJson body) = .error message →
      Ending ignored (.post body) (.error (.internal message)) []
  | failed {request command talk message} :
      Ending ignored request (.error (.internal message)) (talk ++ [⟨command, .error message⟩])
  | written {body call result} : accepts ignored (.ofJson body) = true →
      RedisController.setValue (.ofJson body) = .ok call →
      Ending ignored (.post body)
        (.ok (.written
          ⟨(Value.ofJson body).chain "key", (Value.ofJson body).chain "value", result⟩))
        [⟨.set call, .ok result⟩]
  | missed {query key} : AsksFor ignored query key →
      Ending ignored (.get query) (.error (.notFound ("Key \"" ++ key ++ "\" not found")))
        [⟨.get (.string key), .ok none⟩]
  | expired {query key value} : AsksFor ignored query key →
      Ending ignored (.get query) (.error (.notFound ("Key \"" ++ key ++ "\" not found")))
        [⟨.get (.string key), .ok (some value)⟩, ⟨.ttl (.string key), .ok (-2)⟩]
  | persistent {query key value} : AsksFor ignored query key →
      Ending ignored (.get query) (.ok (.entry ⟨.string key, value, none⟩))
        [⟨.get (.string key), .ok (some value)⟩, ⟨.ttl (.string key), .ok (-1)⟩]
  | found {query key value ttl} : AsksFor ignored query key → ttl ≠ -2 → ttl ≠ -1 →
      Ending ignored (.get query) (.ok (.entry ⟨.string key, value, some ttl⟩))
        [⟨.get (.string key), .ok (some value)⟩, ⟨.ttl (.string key), .ok ttl⟩]

variable {ignored : String → Bool}

theorem exists_asksFor {query : Json} (h : acceptsQuery ignored (.ofJson query) = true) :
    ∃ key, AsksFor ignored query key := by
  have hkey := accepts_of_mem h List.mem_cons_self
  rw [Value.chain_props] at hkey
  obtain ⟨k, hk⟩ := Value.isString_iff.mp (Property.accepts_required hkey Value.isString (by simp))
  have hspace := Property.accepts_required hkey Value.matchesNonSpace (by simp)
  rw [hk] at hspace
  exact ⟨k, h, hk, by simpa [Value.matchesNonSpace] using hspace⟩

theorem AsksFor.read {query : Json} {key : String} (h : AsksFor ignored query key) :
    (Value.ofJson query).read "key" = .ok (.string key) := by
  rw [← h.names]
  refine Value.read_of_not_nil (Bool.eq_false_iff.mpr fun hnil => ?_) "key"
  have hnames := h.names
  rw [Value.chain_of_nil hnil] at hnames
  cases hnames

def concluded (key value : String) (ttl : Int) : Handler Response :=
  if ttl = -2 then .throw (.notFound ("Key \"" ++ key ++ "\" not found"))
  else if ttl = -1 then .ret (.entry ⟨.string key, value, none⟩)
  else .ret (.entry ⟨.string key, value, some ttl⟩)

def afterTtl (key value : String) : Except String Int → Handler Response
  | .error message => .throw (.internal message)
  | .ok ttl => concluded key value ttl

def afterGet (key : String) : Except String (Option String) → Handler Response
  | .error message => .throw (.internal message)
  | .ok none => .throw (.notFound ("Key \"" ++ key ++ "\" not found"))
  | .ok (some value) => .ask (.ttl (.string key)) (afterTtl key value)

theorem handle_get {query : Json} {key : String} (h : AsksFor ignored query key) :
    handle ignored (.get query) = .ask (.get (.string key)) (afterGet key) := by
  have hvalid := RedisService.assertValidKey_of_nonBlank h.nonBlank
  simp only [handle, h.accepted, if_true, RedisController.getValue, h.read, orInternal_ok,
    RedisService.sendGetEntry, hvalid, send, Script.bind_eq, Script.ret_bind, Script.bind]
  refine congrArg _ (funext fun reply => ?_)
  rcases reply with message | _ | value
  · rfl
  · rfl
  · simp only [afterGet, orInternal_ok, Script.ret_bind, Script.bind]
    refine congrArg _ (funext fun reply => ?_)
    rcases reply with message | ttl
    · rfl
    · simp only [afterTtl, concluded, orInternal_ok, Script.ret_bind]
      split
      · rfl
      · split <;> rfl

def afterSet (body : Json) : Except String (Option String) → Handler Response
  | .error message => .throw (.internal message)
  | .ok result =>
    .ret (.written ⟨(Value.ofJson body).chain "key", (Value.ofJson body).chain "value", result⟩)

theorem handle_post {body : Json} {call : SetCall} (h : accepts ignored (.ofJson body) = true)
    (hcall : RedisController.setValue (.ofJson body) = .ok call) :
    handle ignored (.post body) = .ask (.set call) (afterSet body) := by
  simp only [handle, h, if_true, RedisController.sendSetValue, hcall, orInternal_ok, send,
    Script.bind_eq, Script.bind]
  refine congrArg _ (funext fun reply => ?_)
  rcases reply with message | result <;> rfl

theorem meets_handle (request : Request) :
    (handle ignored request).Meets (fun _ => Sends ignored request)
      (Ending ignored request) [] := by
  cases request with
  | get query =>
    cases haccepts : acceptsQuery ignored (.ofJson query) with
    | false =>
      rw [handle, haccepts]
      exact .badQuery haccepts
    | true =>
      obtain ⟨key, hasks⟩ := exists_asksFor haccepts
      rw [handle_get hasks]
      refine ⟨.get hasks, fun reply => ?_⟩
      rcases reply with message | _ | value
      · exact .failed
      · exact .missed hasks
      · refine ⟨.ttl hasks, fun reply => ?_⟩
        rcases reply with message | ttl
        · exact .failed
        · simp only [afterTtl, concluded]
          split
          · next httl => exact httl ▸ .expired hasks
          · next hthere =>
            split
            · next httl => exact httl ▸ .persistent hasks
            · next hexpires => exact .found hasks hthere hexpires
  | post body =>
    cases haccepts : accepts ignored (.ofJson body) with
    | false =>
      rw [handle, haccepts]
      exact .badBody haccepts
    | true =>
      cases hcall : RedisController.setValue (.ofJson body) with
      | error message =>
        simp only [handle, haccepts, if_true, RedisController.sendSetValue, hcall]
        exact .unmapped haccepts hcall
      | ok call =>
        rw [handle_post haccepts hcall]
        refine ⟨.set haccepts hcall, fun reply => ?_⟩
        rcases reply with message | result
        · exact .failed
        · exact .written haccepts hcall

theorem exists_wholeTimes (unit : ℕ+) {n : ℕ} (hn : 0 < n) :
    ∃ px, wholeTimes unit n = some px := by
  have hnum : ((n : ℚ).den = 1 ∧ 0 < (n : ℚ).num) := ⟨Rat.den_natCast n, by simpa using hn⟩
  exact ⟨_, dif_pos hnum⟩

theorem OwnExpiry.exists_px {given : List Props} {e : Expiration} (h : OwnExpiry given e) :
    ∃ px, e.px? = some px := by
  obtain ⟨type, value⟩ := e
  obtain ⟨n, hn, hvalue⟩ := h.value
  have htype := h.type
  dsimp only at hvalue htype
  subst hvalue
  rcases htype with rfl | rfl
  · exact exists_wholeTimes 1000 hn
  · exact exists_wholeTimes 1 hn

theorem OwnExpiry.asked {given : List Props} {e : Expiration} (h : OwnExpiry given e) :
    askedExpiration given = e := by
  cases given with
  | nil => exact (h.default rfl).symm
  | cons props given => exact (h.own props List.mem_cons_self).symm

theorem OwnCondition.exists_condition {given : List String} {condition : Option Value}
    (h : OwnCondition given condition) : ∃ c, condition? condition = some c := by
  cases condition with
  | none => exact ⟨none, rfl⟩
  | some c =>
    rcases h.values c rfl with rfl | rfl
    · exact ⟨some .NX, rfl⟩
    · exact ⟨some .XX, rfl⟩

theorem OwnCondition.asked {given : List String} {condition : Option Value}
    (h : OwnCondition given condition) : askedCondition given = condition := by
  cases given with
  | nil => exact (h.absent rfl).symm
  | cons c given => exact (h.own c List.mem_cons_self).symm

theorem ExpiringSet.exists_write {body : Json} {call : SetCall} (h : ExpiringSet body call) :
    ∃ w, asked body = some w ∧ call.write? = some w := by
  obtain ⟨k, -, hk, hkey⟩ := h.key
  obtain ⟨v, hv, hvalue⟩ := h.value
  obtain ⟨e, he, hexpiry⟩ := h.options.expiration
  obtain ⟨px, hpx⟩ := hexpiry.exists_px
  obtain ⟨c, hc⟩ := h.options.condition.exists_condition
  refine ⟨⟨k, v, px, c⟩, ?_, ?_⟩
  · simp only [Redis.asked, hk, hv, hexpiry.asked, h.options.condition.asked, hpx, hc]
    rfl
  · simp only [SetCall.write?, hkey, hvalue, he, hpx, hc]
    rfl

theorem exists_write {body : Json} (h : accepts ignored (.ofJson body) = true)
    (hmappable : Mappable (body.get? "options")) :
    ∃ call w, RedisController.setValue (.ofJson body) = .ok call ∧ asked body = some w ∧
      call.write? = some w := by
  obtain ⟨call, hcall, hset⟩ := (RedisController.setValue_iff (bodyAccepted h)).mpr hmappable
  obtain ⟨w, hasked, hwrite⟩ := hset.exists_write
  exact ⟨call, w, hcall, hasked, hwrite⟩

def AllMappable (ignored : String → Bool) (requests : List Request) : Prop :=
  ∀ body, .post body ∈ requests → accepts ignored (.ofJson body) = true →
    Mappable (body.get? "options")

def Expiring (ws : List Write) (s : Store) : Prop :=
  ∀ key value expiry, s.held key = some (value, expiry) →
    ∃ w ∈ ws, w.key = key ∧ w.value = value ∧
      ∃ deadline, expiry = some deadline ∧ deadline ≤ s.clock + w.px

def Truthful (ws : List Write) : Exchange Command.Result → Prop
  | ⟨.get (.string key), .ok (some value)⟩ => ∃ w ∈ ws, w.key = key ∧ w.value = value
  | ⟨.ttl (.string key), .ok ttl⟩ =>
    ttl = -2 ∨ ∃ n : ℕ, ttl = n ∧ ∃ w ∈ ws, w.key = key ∧ n ≤ KeyState.seconds w.px
  | ⟨.set call, .ok result⟩ =>
    result = some "OK" ∨ result = none ∧ ∃ w, call.write? = some w ∧ w.condition ≠ none
  | _ => True

variable {requests : List Request} {odd : Oddities}

theorem Sends.write {body : Json} {call : SetCall}
    (h : Sends ignored (.post body) (.set call)) (hmem : .post body ∈ requests)
    (hmappable : AllMappable ignored requests) :
    ∃ w ∈ writes ignored requests, writeOf ignored (.post body) = some w ∧
      call.write? = some w := by
  cases h with
  | set haccepts hcall =>
    obtain ⟨call', w, hcall', hasked, hw⟩ := exists_write haccepts (hmappable body hmem haccepts)
    obtain rfl := Except.ok.inj (hcall.symm.trans hcall')
    have hwrite : writeOf ignored (.post body) = some w := by
      rw [writeOf, if_pos haccepts, hasked]
    exact ⟨w, List.mem_filterMap.mpr ⟨_, hmem, hwrite⟩, hwrite, hw⟩

theorem seconds_mono {m n : ℕ} (h : m ≤ n) : KeyState.seconds m ≤ KeyState.seconds n :=
  Nat.div_le_div_right (Nat.add_le_add_right h 500)

theorem Expiring.live {ws : List Write} {s : Store} (h : Expiring ws s) {key value : String}
    {expiry : Option ℕ} (hlive : (s.key key).live = some (value, expiry)) :
    ∃ w ∈ ws, w.key = key ∧ w.value = value ∧
      ∃ deadline, expiry = some deadline ∧ deadline ≤ s.clock + w.px :=
  h key value expiry (KeyState.held_of_live hlive)

theorem Expiring.put {ws : List Write} {s : Store} (h : Expiring ws s) {w : Write} (hw : w ∈ ws) :
    Expiring ws (s.put w) := by
  intro key value expiry hheld
  by_cases hkey : key = w.key
  · subst hkey
    rw [Store.held_put] at hheld
    obtain ⟨rfl, rfl⟩ := Prod.mk.inj (Option.some.inj hheld)
    exact ⟨w, hw, rfl, rfl, _, rfl, le_rfl⟩
  · exact h key value expiry (Store.held_put_of_ne hkey ▸ hheld)

theorem Expiring.execute {request : Request} {command : Command} {s : Store}
    (h : Expiring (writes ignored requests) s) (hsends : Sends ignored request command)
    (hmem : request ∈ requests) (hmappable : AllMappable ignored requests) :
    Expiring (writes ignored requests) (s.execute odd command).2 := by
  cases hsends with
  | get _ | ttl _ => exact h
  | set haccepts hcall =>
    obtain ⟨w, hw, -, hcall'⟩ := (Sends.set haccepts hcall).write hmem hmappable
    simp only [Store.execute, hcall']
    split
    · exact h.put hw
    · exact h

theorem Expiring.serve {request : Request} {command : Command} {s : Store}
    (h : Expiring (writes ignored requests) s) (hsends : Sends ignored request command)
    (hmem : request ∈ requests) (hmappable : AllMappable ignored requests) (fault : Option Fault) :
    Expiring (writes ignored requests) (s.serve odd fault command).2 := by
  cases fault with
  | none => exact h.execute hsends hmem hmappable
  | some fault =>
    simp only [Store.serve]
    split
    · exact h.execute hsends hmem hmappable
    · exact h

theorem Expiring.truthful {request : Request} {command : Command} {s : Store}
    (h : Expiring (writes ignored requests) s) (hsends : Sends ignored request command)
    (hmem : request ∈ requests) (hmappable : AllMappable ignored requests) (fault : Option Fault) :
    Truthful (writes ignored requests) ⟨command, (s.serve odd fault command).1⟩ := by
  cases fault with
  | some fault => cases hsends <;> trivial
  | none =>
    cases hsends with
    | @get query key hasks =>
      cases hlive : (s.key key).live with
      | none => simp [Store.serve, Store.execute, KeyState.get, hlive, Truthful]
      | some x =>
        obtain ⟨w, hw, hkey, hvalue, -⟩ := h.live hlive
        simp only [Store.serve, Store.execute, KeyState.get, hlive]
        exact ⟨w, hw, hkey, hvalue⟩
    | @ttl query key hasks =>
      cases hlive : (s.key key).live with
      | none => simp [Store.serve, Store.execute, KeyState.ttl, hlive, Truthful]
      | some x =>
        obtain ⟨w, hw, hkey, -, deadline, hdeadline, hle⟩ := h.live hlive
        obtain ⟨value, expiry⟩ := x
        obtain rfl : expiry = some deadline := hdeadline
        simp only [Store.serve, Store.execute, KeyState.ttl, hlive]
        refine .inr ⟨_, rfl, w, hw, hkey, seconds_mono ?_⟩
        exact Nat.sub_le_of_le_add (Nat.add_comm .. ▸ hle)
    | set haccepts hcall =>
      obtain ⟨w, -, -, hcall'⟩ := (Sends.set haccepts hcall).write hmem hmappable
      simp only [Store.serve, Store.execute, hcall']
      split
      · exact .inl rfl
      · next hrefused =>
        refine .inr ⟨rfl, w, hcall', fun hplain => ?_⟩
        simp [Write.allowed, hplain] at hrefused

structure Serving (ignored : String → Bool) (requests : List Request) (c : Handling) : Prop where
  handles : ∃ request ∈ requests,
    c.Follows (fun _ => Sends ignored request) (Ending ignored request)
  truthful : ∀ x ∈ c.talk, Truthful (writes ignored requests) x

theorem keeps_expiring (odd : Oddities) (hmappable : AllMappable ignored requests) :
    (redis odd).Keeps (Expiring (writes ignored requests)) fun _ => Serving ignored requests where
  serve s fault c command k hs hc hrest := by
    obtain ⟨request, hmem, hfollows⟩ := hc.handles
    obtain ⟨hsends, hnext⟩ := hfollows.answered hrest (s.serve odd fault command).1
    refine ⟨hs.serve hsends hmem hmappable fault, ⟨request, hmem, hnext⟩, fun x hx => ?_⟩
    rcases List.mem_append.mp hx with hx | hx
    · exact hc.truthful x hx
    · rw [List.mem_singleton.mp hx]
      exact hs.truthful hsends hmem hmappable fault
  others _ _ _ _ _ _ _ _ _ hd := hd
  move s _ hs key value expiry hheld := by
    obtain ⟨w, hw, hkey, hvalue, deadline, hdeadline, hle⟩ := hs key value expiry hheld
    exact ⟨w, hw, hkey, hvalue, deadline, hdeadline, hle.trans (by
      change s.clock + w.px ≤ s.clock + 1 + w.px
      omega)⟩
  through _ _ _ _ hc := hc

/-- What requests are answered with: what has been posted under their key, never without an
expiry. -/
inductive Answered (ignored : String → Bool) (ws : List Write) (talk : Talk) :
    Request → Except HttpError Response → Prop
  | entry {query key value} {n : ℕ} : AsksFor ignored query key →
      (∃ w ∈ ws, w.key = key ∧ w.value = value) →
      (∃ w ∈ ws, w.key = key ∧ n ≤ KeyState.seconds w.px) →
      Answered ignored ws talk (.get query) (.ok (.entry ⟨.string key, value, some n⟩))
  | missing {query key} : AsksFor ignored query key →
      Answered ignored ws talk (.get query)
        (.error (.notFound ("Key \"" ++ key ++ "\" not found")))
  | written {body w result} : writeOf ignored (.post body) = some w →
      result = some "OK" ∨ result = none ∧ w.condition ≠ none →
      Answered ignored ws talk (.post body)
        (.ok (.written ⟨.string w.key, .string w.value, result⟩))
  | badQuery {query} : acceptsQuery ignored (.ofJson query) = false → talk = [] →
      Answered ignored ws talk (.get query) (.error .badRequest)
  | badBody {body} : accepts ignored (.ofJson body) = false → talk = [] →
      Answered ignored ws talk (.post body) (.error .badRequest)
  | failed {request command message} : ⟨command, .error message⟩ ∈ talk →
      Answered ignored ws talk request (.error (.internal message))

theorem get?_of_asked {body : Json} {w : Write} (h : asked body = some w) :
    body.get? "key" = some (.str w.key) ∧ body.get? "value" = some (.str w.value) := by
  unfold asked at h
  split at h
  · next key value hkey hvalue =>
    obtain ⟨px, -, h⟩ := Option.bind_eq_some_iff.mp h
    obtain ⟨c, -, h⟩ := Option.bind_eq_some_iff.mp h
    obtain rfl := Option.some.inj h
    exact ⟨hkey, hvalue⟩
  · cases h

theorem asked_of_writeOf {body : Json} {w : Write} (h : writeOf ignored (.post body) = some w) :
    accepts ignored (.ofJson body) = true ∧ asked body = some w := by
  rw [writeOf] at h
  split at h
  · next haccepts => exact ⟨haccepts, h⟩
  · cases h

theorem not_truthful_persistent {ws : List Write} {key : String} :
    ¬ Truthful ws ⟨.ttl (.string key), .ok (-1)⟩ := by
  rintro (h | ⟨n, hn, -⟩)
  · cases h
  · have : (-1 : ℤ) = n := hn
    omega

theorem Ending.answered {request : Request} {o : Except HttpError Response} {talk : Talk}
    (h : Ending ignored request o talk) (hmem : request ∈ requests)
    (hmappable : AllMappable ignored requests)
    (htrue : ∀ x ∈ talk, Truthful (writes ignored requests) x) :
    Answered ignored (writes ignored requests) talk request o := by
  cases h with
  | badQuery h => exact .badQuery h rfl
  | badBody h => exact .badBody h rfl
  | unmapped haccepts hcall =>
    obtain ⟨call, w, hcall', -⟩ := exists_write haccepts (hmappable _ hmem haccepts)
    rw [hcall] at hcall'
    cases hcall'
  | failed => exact .failed (List.mem_append_right _ List.mem_cons_self)
  | written haccepts hcall =>
    obtain ⟨w, -, hwrite, hw⟩ := (Sends.set haccepts hcall).write hmem hmappable
    obtain ⟨hkey, hvalue⟩ := get?_of_asked (asked_of_writeOf hwrite).2
    rw [Value.chain_ofJson, Value.chain_ofJson, Json.read_of_get? hkey, Json.read_of_get? hvalue]
    refine .written hwrite ?_
    rcases htrue _ List.mem_cons_self with hok | ⟨hnone, w', hw', hcondition⟩
    · exact .inl hok
    · obtain rfl := Option.some.inj (hw.symm.trans hw')
      exact .inr ⟨hnone, hcondition⟩
  | missed hasks => exact .missing hasks
  | expired hasks => exact .missing hasks
  | @persistent query key value hasks =>
    have hexpires : Truthful (writes ignored requests) ⟨.ttl (.string key), .ok (-1)⟩ :=
      htrue _ (List.mem_cons_of_mem _ List.mem_cons_self)
    exact absurd hexpires not_truthful_persistent
  | found hasks hthere =>
    rcases htrue _ (List.mem_cons_of_mem _ List.mem_cons_self) with h | ⟨n, rfl, hbound⟩
    · exact absurd h hthere
    · exact .entry hasks (htrue _ List.mem_cons_self) hbound

def cache (odd : Oddities) (ignored : String → Bool) (requests : List Request) :
    System (Sessions Command Command.Result HttpError Response Store)
      (Service.Event (Option Fault) Unit) :=
  (redis odd).system .empty (requests.map (handle ignored))

theorem getElem?_scripts {i : ℕ} {request : Request} (h : requests[i]? = some request) :
    (requests.map (handle ignored))[i]? = some (handle ignored request) := by
  rw [List.getElem?_map, h]
  rfl

theorem serving_handle {request : Request} (hmem : request ∈ requests) :
    Serving ignored requests ⟨[], handle ignored request⟩ where
  handles := ⟨request, hmem, fun pre x hpre => by simp at hpre, meets_handle request⟩
  truthful _ hx := nomatch hx

theorem kept_run (odd : Oddities) (hmappable : AllMappable ignored requests)
    (es : List (Service.Event (Option Fault) Unit)) :
    Expiring (writes ignored requests) ((cache odd ignored requests).run es).store ∧
      ∀ c ∈ ((cache odd ignored requests).run es).clients, Serving ignored requests c := by
  have hempty : Expiring (writes ignored requests) .empty :=
    fun key value expiry hheld => nomatch hheld
  refine (keeps_expiring odd hmappable).run hempty _ (fun p hp => ?_) es
  obtain ⟨request, hmem, rfl⟩ := List.mem_map.mp hp
  exact serving_handle hmem

theorem answered_run (odd : Oddities) (hmappable : AllMappable ignored requests)
    (es : List (Service.Event (Option Fault) Unit)) {i : ℕ} {request : Request}
    (hrequest : requests[i]? = some request) :
    ∃ c : Handling, ((cache odd ignored requests).run es).clients[i]? = some c ∧
      ∀ o, c.rest.outcome? = some o →
        Answered ignored (writes ignored requests) c.talk request o := by
  obtain ⟨c, hc, hfollows⟩ :=
    (redis odd).follows_run .empty (getElem?_scripts hrequest) (meets_handle request) es
  refine ⟨c, hc, fun o ho => (hfollows.rest.of_outcome ho).answered
    (List.mem_of_getElem? hrequest) hmappable ?_⟩
  exact ((kept_run odd hmappable es).2 c (List.mem_of_getElem? hc)).truthful

/-- However requests and their commands come to lie, whatever is rejected: Redis keeps nothing
that was not posted, and nothing for longer than was asked for; GET answers with what was posted
under its key and some of the time that was asked for there, or with 404; POST is refused by its
own condition only; and nothing else fails than what a rejected command makes fail. -/
theorem cache_entries (odd : Oddities) (ignored : String → Bool) (requests : List Request)
    (hmappable : AllMappable ignored requests)
    (es : List (Service.Event (Option Fault) Unit)) :
    let s := (cache odd ignored requests).run es
    Expiring (writes ignored requests) s.store ∧
      ∀ (i : ℕ) request, requests[i]? = some request → ∃ c : Handling, s.clients[i]? = some c ∧
        ∀ o, c.rest.outcome? = some o →
          Answered ignored (writes ignored requests) c.talk request o :=
  ⟨(kept_run odd hmappable es).1, fun _ _ => answered_run odd hmappable es⟩

def greeting : Json := .obj [("key", .str "k"), ("value", .str "v")]

def question : Json := .obj [("key", .str "k")]

def rejecting : Oddities := fun _ s => (.error "ERR", s)

theorem allMappable_greeting (ignored : String → Bool) :
    AllMappable ignored [.post greeting, .get question] := by
  intro body hmem _
  obtain rfl : body = greeting := by simpa using hmem
  exact .absent

theorem cache_entries_hit :
    let s := (cache rejecting (fun _ => false) [.post greeting, .get question]).run
      [.turn 0 none, .turn 1 none, .move (), .turn 1 none]
    ∃ c : Handling, s.clients[1]? = some c ∧
      Answered (fun _ => false) (writes (fun _ => false) [.post greeting, .get question]) c.talk
        (.get question) (.ok (.entry ⟨.string "k", "v", some 3600⟩)) := by
  obtain ⟨c, hc, hends⟩ := (cache_entries rejecting (fun _ => false) [.post greeting, .get question]
    (allMappable_greeting _) [.turn 0 none, .turn 1 none, .move (), .turn 1 none]).2 1 _ rfl
  refine ⟨c, hc, hends _ ?_⟩
  obtain rfl := Option.some.inj hc
  with_unfolding_all rfl

end NestBackend.Redis
