import NestBackend.Redis.Cache

namespace NestBackend.Redis

open NestBackend.Js
open NestBackend.Lib

def Spares (ignored : String → Bool) (key : String) (request : Request) : Prop :=
  ∀ w, writeOf ignored request = some w → w.key ≠ key

variable {ignored : String → Bool} {requests : List Request} {odd : Oddities}

theorem serve_clock {request : Request} {command : Command} {s : Store}
    (hsends : Sends ignored request command) (hmem : request ∈ requests)
    (hmappable : AllMappable ignored requests) (fault : Option Fault) :
    (s.serve odd fault command).2.clock = s.clock := by
  have hexecute : (s.execute odd command).2.clock = s.clock := by
    cases hsends with
    | get _ | ttl _ => rfl
    | set haccepts hcall =>
      obtain ⟨w, -, -, hw⟩ := (Sends.set haccepts hcall).write hmem hmappable
      simp only [Store.execute, hw]
      split <;> rfl
  cases fault with
  | none => exact hexecute
  | some fault =>
    simp only [Store.serve]
    split
    · exact hexecute
    · rfl

theorem serve_held {request : Request} {command : Command} {s : Store} {key : String}
    (hsends : Sends ignored request command) (hmem : request ∈ requests)
    (hmappable : AllMappable ignored requests) (hspares : Spares ignored key request)
    (fault : Option Fault) : (s.serve odd fault command).2.held key = s.held key := by
  have hexecute : (s.execute odd command).2.held key = s.held key := by
    cases hsends with
    | get _ | ttl _ => rfl
    | set haccepts hcall =>
      obtain ⟨w, -, hwrite, hw⟩ := (Sends.set haccepts hcall).write hmem hmappable
      simp only [Store.execute, hw]
      split
      · exact Store.held_put_of_ne (hspares w hwrite).symm
      · rfl
  cases fault with
  | none => exact hexecute
  | some fault =>
    simp only [Store.serve]
    split
    · exact hexecute
    · rfl

abbrev Happening := Service.Event (Option Fault) Unit

theorem turn_cases (odd : Oddities) (ignored : String → Bool) (requests : List Request)
    (es : List Happening) (i : ℕ) (fault : Option Fault) :
    let s := (cache odd ignored requests).run es
    ((cache odd ignored requests).step s (.turn i fault)).store = s.store ∨
      ∃ request ∈ requests[i]?, ∃ command, Sends ignored request command ∧
        ((cache odd ignored requests).step s (.turn i fault)).store =
          (s.store.serve odd fault command).2 := by
  intro s
  cases hrequest : requests[i]? with
  | none =>
    have hlength := (redis odd).length_run Store.empty (requests.map (handle ignored)) es
    have hnone : s.clients[i]? = none := List.getElem?_eq_none
      ((hlength.trans (List.length_map ..)).trans_le (List.getElem?_eq_none_iff.mp hrequest))
    left
    change ((redis odd).step s (.turn i fault)).store = s.store
    simp only [Service.step, hnone]
  | some request =>
    obtain ⟨c, hc, hfollows⟩ :=
      (redis odd).follows_run .empty (getElem?_scripts hrequest) (meets_handle request) es
    have hstep : ((cache odd ignored requests).step s (.turn i fault)).store =
        ((redis odd).answer fault s.store c).1 := by
      rcases (redis odd).client_step hc (.turn i fault) with ⟨hother, -⟩ | ⟨choice, heq, -, hstore⟩
      · simp [Service.Event.isTurn] at hother
      · cases heq
        exact hstore
    rw [hstep]
    unfold Service.answer
    split
    · next command k hrest =>
      exact .inr ⟨request, rfl, command, (hfollows.answered hrest (.error "")).1, rfl⟩
    · exact .inl rfl

def SparesKey (ignored : String → Bool) (requests : List Request) (key : String) :
    Happening → Prop
  | .turn i _ => ∀ request ∈ requests[i]?, Spares ignored key request
  | .move _ => True

theorem clock_step (hmappable : AllMappable ignored requests) (es : List Happening)
    (e : Happening) : ((cache odd ignored requests).run es).store.clock ≤
      ((cache odd ignored requests).run (es ++ [e])).store.clock := by
  rw [System.run_concat]
  cases e with
  | move m => exact Nat.le_succ _
  | turn i fault =>
    rcases turn_cases odd ignored requests es i fault with
      hsame | ⟨request, hrequest, command, hsends, hserved⟩
    · rw [hsame]
    · rw [hserved, serve_clock hsends (List.mem_of_getElem? hrequest) hmappable]

theorem clock_run (hmappable : AllMappable ignored requests) (es fs : List Happening) :
    ((cache odd ignored requests).run es).store.clock ≤
      ((cache odd ignored requests).run (es ++ fs)).store.clock := by
  induction fs using List.reverseRecOn with
  | nil => rw [List.append_nil]
  | append_singleton fs e ih =>
    rw [← List.append_assoc]
    exact ih.trans (clock_step hmappable _ e)

theorem held_run {key : String} (hmappable : AllMappable ignored requests) (es : List Happening)
    {fs : List Happening} (hspares : ∀ e ∈ fs, SparesKey ignored requests key e) :
    ((cache odd ignored requests).run (es ++ fs)).store.held key =
      ((cache odd ignored requests).run es).store.held key := by
  induction fs using List.reverseRecOn with
  | nil => rw [List.append_nil]
  | append_singleton fs e ih =>
    rw [← ih fun e he => hspares e (List.mem_append_left _ he), ← List.append_assoc,
      System.run_concat]
    have hlast := hspares e (List.mem_append_right _ List.mem_cons_self)
    cases e with
    | move m => rfl
    | turn i fault =>
      rcases turn_cases odd ignored requests (es ++ fs) i fault with
        hsame | ⟨request, hrequest, command, hsends, hserved⟩
      · rw [hsame]
      · rw [hserved, serve_held hsends (List.mem_of_getElem? hrequest) hmappable
          (hlast request hrequest)]

theorem put_run {es : List Happening} {i : ℕ} {body : Json} {w : Write}
    (hmappable : AllMappable ignored requests) (hpost : requests[i]? = some (.post body))
    (hwrite : writeOf ignored (.post body) = some w)
    (hes : es.countP (·.isTurn i) = 0)
    (hallowed : w.allowed (((cache odd ignored requests).run es).store.key w.key) = true) :
    ((cache odd ignored requests).run (es ++ [.turn i none])).store =
      ((cache odd ignored requests).run es).store.put w := by
  obtain ⟨haccepts, hasked⟩ := asked_of_writeOf hwrite
  obtain ⟨call, w', hcall, hasked', hw⟩ :=
    exists_write haccepts (hmappable body (List.mem_of_getElem? hpost) haccepts)
  obtain rfl := Option.some.inj (hasked.symm.trans hasked')
  have hc : ((cache odd ignored requests).run es).clients[i]? = _ :=
    (redis odd).untouched_run .empty (getElem?_scripts hpost) hes
  rw [System.run_concat]
  rcases (redis odd).client_step hc (.turn i none) with ⟨hother, -⟩ | ⟨choice, heq, -, hstore⟩
  · simp [Service.Event.isTurn] at hother
  · cases heq
    refine hstore.trans ?_
    rw [Service.answer_ask _ _ _ (handle_post haccepts hcall)]
    simp only [redis, Store.serve, Store.execute, hw, hallowed, if_true]

def Reading (key value : String) (start : Handler Response) (least most : ℕ) :
    ℕ → Handling → Prop
  | 0, c => c = ⟨[], start⟩
  | 1, c => c.rest = .ask (.ttl (.string key)) (afterTtl key value)
  | _ + 2, c => ∃ t : ℕ, c.rest.outcome? = some (.ok (.entry ⟨.string key, value, some t⟩)) ∧
      least ≤ t ∧ t ≤ most

theorem Reading.weaken {key value : String} {start : Handler Response} {least least' most n : ℕ}
    {c : Handling} (h : Reading key value start least most n c) (hle : least' ≤ least) :
    Reading key value start least' most n c := by
  match n with
  | 0 => exact h
  | 1 => exact h
  | n + 2 =>
    obtain ⟨t, ho, hleast, hmost⟩ := h
    exact ⟨t, ho, hle.trans hleast, hmost⟩

theorem live_of_held {s : Store} {key value : String} {deadline : ℕ}
    (h : s.held key = some (value, some deadline)) (hclock : s.clock ≤ deadline) :
    (s.key key).live = some (value, some deadline) := by
  simp [KeyState.live, Store.key, h, Option.filter, hclock]

theorem not_live_of_held {s : Store} {key value : String} {deadline : ℕ}
    (h : s.held key = some (value, some deadline)) (hclock : deadline < s.clock) :
    (s.key key).live = none := by
  simp [KeyState.live, Store.key, h, Option.filter, Nat.not_le.mpr hclock]

theorem Reading.answer {query : Json} {key value : String} {s : Store} {deadline most n : ℕ}
    {c : Handling} (hasks : AsksFor ignored query key)
    (hheld : s.held key = some (value, some deadline)) (hclock : s.clock ≤ deadline)
    (hmost : KeyState.seconds (deadline - s.clock) ≤ most)
    (h : Reading key value (handle ignored (.get query)) (KeyState.seconds (deadline - s.clock))
      most n c) :
    Reading key value (handle ignored (.get query)) (KeyState.seconds (deadline - s.clock)) most
      (n + 1) ((redis odd).answer none s c).2 := by
  have hlive := live_of_held hheld hclock
  match n with
  | 0 =>
    obtain rfl : c = ⟨[], _⟩ := h
    rw [Service.answer_ask _ _ _ (handle_get hasks)]
    simp [Reading, redis, Store.serve, Store.execute, KeyState.get, hlive, afterGet]
  | 1 =>
    rw [Service.answer_ask _ _ _ h]
    refine ⟨KeyState.seconds (deadline - s.clock), ?_, le_rfl, hmost⟩
    have httl : (s.key key).ttl = (KeyState.seconds (deadline - s.clock) : ℤ) := by
      rw [KeyState.ttl, hlive]
      rfl
    simp only [redis, Store.serve, Store.execute, httl, afterTtl, concluded]
    rw [if_neg (by omega), if_neg (by omega)]
    rfl
  | n + 2 =>
    obtain ⟨t, ho, hbounds⟩ := h
    rw [Service.answer_ended _ _ _ ho]
    exact ⟨t, ho, hbounds⟩

section

variable {es fs : List Happening} {j : ℕ} {query : Json} {key value : String} {deadline : ℕ}

theorem reading_run (hmappable : AllMappable ignored requests)
    (hget : requests[j]? = some (.get query)) (hasks : AsksFor ignored query key)
    (hheld : ((cache odd ignored requests).run es).store.held key = some (value, some deadline))
    (hes : es.countP (·.isTurn j) = 0) (hspares : ∀ e ∈ fs, SparesKey ignored requests key e)
    (hclean : ∀ fault, .turn j fault ∈ fs → fault = none)
    (hfresh : ((cache odd ignored requests).run (es ++ fs)).store.clock ≤ deadline) :
    ∃ c : Handling, ((cache odd ignored requests).run (es ++ fs)).clients[j]? = some c ∧
      Reading key value (handle ignored (.get query))
        (KeyState.seconds (deadline - ((cache odd ignored requests).run (es ++ fs)).store.clock))
        (KeyState.seconds (deadline - ((cache odd ignored requests).run es).store.clock))
        (fs.countP (·.isTurn j)) c := by
  induction fs using List.reverseRecOn with
  | nil =>
    rw [List.append_nil]
    exact ⟨_, (redis odd).untouched_run .empty (getElem?_scripts hget) hes, rfl⟩
  | append_singleton fs e ih =>
    have hbefore : ∀ e ∈ fs, SparesKey ignored requests key e :=
      fun e he => hspares e (List.mem_append_left _ he)
    have hclock : ((cache odd ignored requests).run (es ++ fs)).store.clock ≤
        ((cache odd ignored requests).run (es ++ fs ++ [e])).store.clock :=
      clock_step hmappable (es ++ fs) e
    rw [← List.append_assoc] at hfresh ⊢
    obtain ⟨c, hc, hreading⟩ := ih hbefore
      (fun fault hmem => hclean fault (List.mem_append_left _ hmem)) (hclock.trans hfresh)
    have hleast : KeyState.seconds
          (deadline - ((cache odd ignored requests).run (es ++ fs ++ [e])).store.clock) ≤
        KeyState.seconds (deadline - ((cache odd ignored requests).run (es ++ fs)).store.clock) :=
      seconds_mono (Nat.sub_le_sub_left hclock deadline)
    rw [System.run_concat] at hleast ⊢
    rw [List.countP_append, List.countP_singleton]
    rcases (redis odd).client_step hc e with ⟨hturn, hnext⟩ | ⟨choice, rfl, hnext, -⟩
    · refine ⟨c, hnext, ?_⟩
      simpa [hturn] using hreading.weaken hleast
    · obtain rfl := hclean choice (List.mem_append_right _ List.mem_cons_self)
      refine ⟨_, hnext, ?_⟩
      have hstill := (held_run hmappable es hbefore).trans hheld
      have hmost : KeyState.seconds
            (deadline - ((cache odd ignored requests).run (es ++ fs)).store.clock) ≤
          KeyState.seconds (deadline - ((cache odd ignored requests).run es).store.clock) :=
        seconds_mono (Nat.sub_le_sub_left (clock_run hmappable es fs) deadline)
      simpa [Service.Event.isTurn] using
        (hreading.answer hasks hstill (hclock.trans hfresh) hmost).weaken hleast

theorem missing_run (hmappable : AllMappable ignored requests)
    (hget : requests[j]? = some (.get query)) (hasks : AsksFor ignored query key)
    (hheld : ((cache odd ignored requests).run es).store.held key = some (value, some deadline))
    (hes : es.countP (·.isTurn j) = 0) (hspares : ∀ e ∈ fs, SparesKey ignored requests key e)
    (hclean : ∀ fault, .turn j fault ∈ fs → fault = none)
    (hexpired : deadline < ((cache odd ignored requests).run es).store.clock) :
    ∃ c : Handling, ((cache odd ignored requests).run (es ++ fs)).clients[j]? = some c ∧
      if fs.countP (·.isTurn j) = 0 then c = ⟨[], handle ignored (.get query)⟩
      else c.rest.outcome? =
        some (.error (.notFound ("Key \"" ++ key ++ "\" not found"))) := by
  induction fs using List.reverseRecOn with
  | nil =>
    rw [List.append_nil]
    refine ⟨_, (redis odd).untouched_run .empty (getElem?_scripts hget) hes, ?_⟩
    rw [if_pos List.countP_nil]
  | append_singleton fs e ih =>
    have hbefore : ∀ e ∈ fs, SparesKey ignored requests key e :=
      fun e he => hspares e (List.mem_append_left _ he)
    rw [← List.append_assoc, System.run_concat, List.countP_append, List.countP_singleton]
    obtain ⟨c, hc, hsofar⟩ := ih hbefore
      fun fault hmem => hclean fault (List.mem_append_left _ hmem)
    rcases (redis odd).client_step hc e with ⟨hturn, hnext⟩ | ⟨choice, rfl, hnext, -⟩
    · exact ⟨c, hnext, by simpa [hturn] using hsofar⟩
    · obtain rfl := hclean choice (List.mem_append_right _ List.mem_cons_self)
      refine ⟨_, hnext, ?_⟩
      rw [if_neg (by simp [Service.Event.isTurn])]
      split at hsofar
      · subst hsofar
        have hdead := not_live_of_held ((held_run hmappable es hbefore).trans hheld)
          (hexpired.trans_le (clock_run hmappable es fs))
        rw [Service.answer_ask _ _ _ (handle_get hasks)]
        simp only [redis, Store.serve, Store.execute, KeyState.get, hdead]
        rfl
      · rw [Service.answer_ended _ _ _ hsofar]
        exact hsofar

end

/-- Once a POST has taken effect, and as long as nobody posts anything else under the key: who
asks for the key in time is answered with the value and with what is left of its time, and who
asks after that is answered with 404, whatever else is being handled. -/
theorem read_back (odd : Oddities) (ignored : String → Bool) (requests : List Request)
    (hmappable : AllMappable ignored requests) {i j : ℕ} {body query : Json} {w : Write}
    (hpost : requests[i]? = some (.post body))
    (hwrite : writeOf ignored (.post body) = some w)
    (hget : requests[j]? = some (.get query)) (hasks : AsksFor ignored query w.key)
    (before after : List Happening) (hi : before.countP (·.isTurn i) = 0)
    (hj : before.countP (·.isTurn j) = 0)
    (hallowed : w.allowed (((cache odd ignored requests).run before).store.key w.key) = true)
    (hspares : ∀ e ∈ after, SparesKey ignored requests w.key e)
    (hclean : ∀ fault, .turn j fault ∈ after → fault = none) :
    let run := (cache odd ignored requests).run
    let deadline := (run before).store.clock + w.px
    let posted := before ++ [.turn i none]
    ∃ c : Handling, (run (posted ++ after)).clients[j]? = some c ∧
      ((run (posted ++ after)).store.clock ≤ deadline → 2 ≤ after.countP (·.isTurn j) →
        ∃ left : ℕ, c.rest.outcome? = some (.ok (.entry ⟨.string w.key, w.value, some left⟩)) ∧
          KeyState.seconds (deadline - (run (posted ++ after)).store.clock) ≤ left ∧
          left ≤ KeyState.seconds w.px) ∧
      ∀ late rest, after = late ++ rest → late.countP (·.isTurn j) = 0 →
        deadline < (run (posted ++ late)).store.clock → 0 < rest.countP (·.isTurn j) →
          c.rest.outcome? =
            some (.error (.notFound ("Key \"" ++ w.key ++ "\" not found"))) := by
  intro run deadline posted
  have hput : (run posted).store = (run before).store.put w :=
    put_run hmappable hpost hwrite hi hallowed
  have hheld : (run posted).store.held w.key = some (w.value, some deadline) := by
    rw [hput]
    exact Store.held_put ..
  have hclock : (run posted).store.clock = (run before).store.clock := by rw [hput]; rfl
  have hother : i ≠ j := by
    rintro rfl
    cases hpost.symm.trans hget
  have hstart : posted.countP (·.isTurn j) = 0 := by
    rw [List.countP_append, hj, List.countP_singleton]
    simp [Service.Event.isTurn, hother]
  obtain ⟨c, hc, -⟩ := (redis odd).follows_run .empty (getElem?_scripts hget)
    (meets_handle (.get query)) (posted ++ after)
  refine ⟨c, hc, fun hfresh hturns => ?_, ?_⟩
  · obtain ⟨c', hc', hreading⟩ :=
      reading_run hmappable hget hasks hheld hstart hspares hclean hfresh
    obtain rfl := Option.some.inj (hc.symm.trans hc')
    obtain ⟨n, hn⟩ : ∃ n, after.countP (·.isTurn j) = n + 2 :=
      ⟨_, (Nat.sub_add_cancel hturns).symm⟩
    rw [hn] at hreading
    have hleft : deadline - (run posted).store.clock = w.px := by
      rw [hclock]
      exact Nat.add_sub_cancel_left ..
    exact hleft ▸ hreading
  · rintro late rest rfl hlate hexpired hrest
    have hkept : (run (posted ++ late)).store.held w.key = (run posted).store.held w.key :=
      held_run hmappable posted fun e he => hspares e (List.mem_append_left rest he)
    obtain ⟨c', hc', hmissing⟩ := missing_run hmappable hget hasks (hkept.trans hheld)
      (by rw [List.countP_append, hstart, hlate])
      (fun e he => hspares e (List.mem_append_right late he))
      (fun fault hmem => hclean fault (List.mem_append_right late hmem)) hexpired
    rw [List.append_assoc] at hc'
    obtain rfl := Option.some.inj (hc.symm.trans hc')
    rwa [if_neg hrest.ne'] at hmissing

def elsewhere : Json := .obj [("key", .str "other"), ("value", .str "w")]

def crowd : List Request := [.post greeting, .get question, .post elsewhere]

def bustle : List Happening := [.move (), .turn 1 none, .turn 2 none, .turn 1 none]

theorem allMappable_crowd : AllMappable (fun _ => false) crowd := by
  intro body hmem _
  have hbody : body = greeting ∨ body = elsewhere := by simpa [crowd] using hmem
  rcases hbody with rfl | rfl
  · exact .absent
  · exact .absent

theorem spares_bustle : ∀ e ∈ bustle, SparesKey (fun _ => false) crowd "k" e := by
  intro e he
  simp only [bustle, List.mem_cons, List.not_mem_nil, or_false] at he
  have hget : Spares (fun _ => false) "k" (.get question) := fun w hw => nomatch hw
  have hpost : Spares (fun _ => false) "k" (.post elsewhere) := by
    intro w hw
    have hwrite : writeOf (fun _ => false) (.post elsewhere) =
        some ⟨"other", "w", 3600000, none⟩ := by decide +kernel
    obtain rfl := Option.some.inj (hwrite.symm.trans hw)
    decide
  rcases he with rfl | rfl | rfl | rfl
  · trivial
  · rintro request ⟨⟩
    exact hget
  · rintro request ⟨⟩
    exact hpost
  · rintro request ⟨⟩
    exact hget

theorem read_back_bustle :
    ∃ c : Handling, ((cache rejecting (fun _ => false) crowd).run
        ([.turn 0 none] ++ bustle)).clients[1]? = some c ∧
      ∃ left : ℕ, c.rest.outcome? = some (.ok (.entry ⟨.string "k", "v", some left⟩)) ∧
        3600 ≤ left ∧ left ≤ 3600 := by
  obtain ⟨c, hc, hfresh, -⟩ := read_back rejecting (fun _ => false) crowd allMappable_crowd
    (i := 0) (j := 1) (w := ⟨"k", "v", 3600000, none⟩) rfl (by decide +kernel) rfl
    ⟨by decide +kernel, rfl, by decide⟩ [] bustle rfl rfl rfl spares_bustle
    (by simp [bustle])
  exact ⟨c, hc, hfresh (by decide +kernel) (by decide)⟩

end NestBackend.Redis
