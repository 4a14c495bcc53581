import NestBackend.Ws.Ledger

namespace NestBackend.Ws

open NestBackend.Js
open NestBackend.Lib

variable {τ : Type} {deps : Deps τ}

namespace Observed

inductive Change (deps : Deps τ) (o : Observed τ) : Move → Observed τ → Prop
  | skipped (m : Move) : Change deps o m o
  | registered (x : Session) (now : ℚ)
      (hfresh : o.registry.sessions.lookup x.clientId = none)
      (href : x.ref = o.registry.built.length)
      (htoken : x.presenceToken = deps.randomUUID x.ref) :
      Change deps o (.register x.userId x.clientId x.socket x.expiresAt now)
        (o.tell deps x (.connect now) (o.registry.enroll x))
  | released (x : Session) (hheld : o.registry.sessions.lookup x.clientId = some x) :
      Change deps o (.release x.ref) (o.tell deps x .disconnect (o.registry.drop x))

theorem change_move {o : Observed τ} (hv : o.registry.Valid) (m : Move) :
    Change deps o m (o.move deps m) := by
  cases m with
  | register u c socket expiresAt now =>
    rw [move]
    split
    · exact .skipped _
    · next hno =>
      have hfresh : o.registry.sessions.lookup c = none := Option.not_isSome_iff_eq_none.mp hno
      exact .registered (newSession deps o.registry u c socket expiresAt) now hfresh rfl rfl
  | release ref =>
    rw [move]
    split
    · next x hx =>
      split
      · next hholds =>
        obtain rfl := hv.ref hx
        exact .released x ((hv.holds_iff hx).mp hholds)
      · exact .skipped _
    · exact .skipped _

theorem built_prefix_move (o : Observed τ) (m : Move) :
    o.registry.built <+: (o.move deps m).registry.built := by
  cases m with
  | register u c socket expiresAt now =>
    rw [move]
    split
    · exact List.prefix_refl _
    · exact List.prefix_append _ _
  | release ref =>
    rw [move]
    split
    · split
      · rw [tell, Registry.drop_built]
      · exact List.prefix_refl _
    · exact List.prefix_refl _

theorem built_prefix_foldl_move (deps : Deps τ) (o : Observed τ) (ms : List Move) :
    o.registry.built <+: (ms.foldl (move deps) o).registry.built := by
  induction ms generalizing o with
  | nil => exact List.prefix_refl _
  | cons m ms ih => exact (built_prefix_move o m).trans (ih _)

theorem built_move {o : Observed τ} {m : Move} {x : Session}
    (h : x ∈ (o.move deps m).registry.built) :
    x ∈ o.registry.built ∨
      ∃ now, m = .register x.userId x.clientId x.socket x.expiresAt now := by
  cases m with
  | register u c socket expiresAt now =>
    rw [move] at h
    split at h
    · exact .inl h
    · rcases List.mem_append.mp h with h | h
      · exact .inl h
      · obtain rfl := List.mem_singleton.mp h
        exact .inr ⟨now, rfl⟩
  | release ref =>
    rw [move] at h
    split at h
    · split at h
      · rw [tell, Registry.drop_built] at h
        exact .inl h
      · exact .inl h
    · exact .inl h

theorem built_foldl_move {o : Observed τ} {ms : List Move} {x : Session}
    (h : x ∈ (ms.foldl (move deps) o).registry.built) :
    x ∈ o.registry.built ∨
      ∃ now, .register x.userId x.clientId x.socket x.expiresAt now ∈ ms := by
  induction ms generalizing o with
  | nil => exact .inl h
  | cons m ms ih =>
    rcases ih h with h | ⟨now, hnow⟩
    · rcases built_move h with h | ⟨now, rfl⟩
      · exact .inl h
      · exact .inr ⟨now, List.mem_cons_self⟩
    · exact .inr ⟨now, List.mem_cons_of_mem _ hnow⟩

theorem Change.valid {o o' : Observed τ} {m : Move} (h : Change deps o m o')
    (hv : o.registry.Valid) : o'.registry.Valid := by
  cases h with
  | skipped => exact hv
  | registered x now hfresh href htoken => exact hv.enroll hfresh href
  | released x hheld => exact hv.drop hheld

theorem valid_run (deps : Deps τ) (world : τ) (ms : List Move) :
    ((system deps world).run ms).registry.Valid :=
  System.invariant (I := fun o : Observed τ => o.registry.Valid) .empty
    (fun _ m hv => (change_move hv m).valid hv) ms

theorem invariant_of_change {P : Observed τ → Prop} {world : τ} (hinit : P ⟨.empty, [], world⟩)
    (hchange : ∀ o m o', o.registry.Valid → P o → Change deps o m o' → P o') (ms : List Move) :
    P ((system deps world).run ms) :=
  (System.invariant (I := fun o : Observed τ => o.registry.Valid ∧ P o) ⟨.empty, hinit⟩
    (fun o m h => ⟨(change_move h.1 m).valid h.1, hchange o m _ h.1 h.2 (change_move h.1 m)⟩)
    ms).2

theorem foldl_move_of_change {P : Observed τ → Prop}
    (hchange : ∀ o m o', o.registry.Valid → P o → Change deps o m o' → P o') {o : Observed τ}
    (hv : o.registry.Valid) (hP : P o) (ms : List Move) : P (ms.foldl (move deps) o) := by
  induction ms generalizing o with
  | nil => exact hP
  | cons m ms ih =>
    exact ih ((change_move hv m).valid hv) (hchange o m _ hv hP (change_move hv m))

section InWorld

variable {ε : Type} {act : τ → ε → τ} {world : τ}

theorem valid_step_inWorld {o : Observed τ} (hv : o.registry.Valid) (a : Move ⊕ ε) :
    ((inWorld deps act world).step o a).registry.Valid := by
  cases a with
  | inl m => exact (change_move hv m).valid hv
  | inr e => exact hv

theorem valid_run_inWorld (as : List (Move ⊕ ε)) :
    ((inWorld deps act world).run as).registry.Valid :=
  System.invariant (I := fun o : Observed τ => o.registry.Valid) .empty
    (fun _ a hv => valid_step_inWorld hv a) as

theorem invariant_inWorld_along {G : Observed τ → Move ⊕ ε → Prop} {P : Observed τ → Prop}
    (hinit : P ⟨.empty, [], world⟩)
    (hchange : ∀ o m o', o.registry.Valid → P o → G o (.inl m) → Change deps o m o' → P o')
    (hact : ∀ o e, o.registry.Valid → P o → G o (.inr e) →
      P { o with world := act o.world e })
    {as : List (Move ⊕ ε)} (h : (inWorld deps act world).Along G as) :
    P ((inWorld deps act world).run as) := by
  refine (System.invariant_along (I := fun o : Observed τ => o.registry.Valid ∧ P o)
    ⟨.empty, hinit⟩ (fun o a ho hok => ⟨valid_step_inWorld ho.1 a, ?_⟩) h).2
  cases a with
  | inl m => exact hchange o m _ ho.1 ho.2 hok (change_move ho.1 m)
  | inr e => exact hact o e ho.1 ho.2 hok

theorem invariant_inWorld {P : Observed τ → Prop} (hinit : P ⟨.empty, [], world⟩)
    (hchange : ∀ o m o', o.registry.Valid → P o → Change deps o m o' → P o')
    (hact : ∀ o e, o.registry.Valid → P o → P { o with world := act o.world e })
    (as : List (Move ⊕ ε)) : P ((inWorld deps act world).run as) :=
  invariant_inWorld_along (G := fun _ _ => True) hinit
    (fun o m o' hv hP _ hc => hchange o m o' hv hP hc) (fun o e hv hP _ => hact o e hv hP)
    (System.along_iff_forall_prefix.mpr fun _ _ _ => trivial)

end InWorld

end Observed

def SessionLifecycleEvent.identity (event : SessionLifecycleEvent) : UserId × ClientId × String :=
  (event.userId, event.clientId, event.token)

def Session.identity (x : Session) : UserId × ClientId × String :=
  (x.userId, x.clientId, x.presenceToken)

@[simp] theorem identity_lifecycleEvent (r : Registry) (x : Session) :
    (WsService.lifecycleEvent r x).identity = x.identity := rfl

@[simp] theorem clientId_lifecycleEvent (r : Registry) (x : Session) :
    (WsService.lifecycleEvent r x).clientId = x.clientId := rfl

@[simp] theorem userId_lifecycleEvent (r : Registry) (x : Session) :
    (WsService.lifecycleEvent r x).userId = x.userId := rfl

@[simp] theorem token_lifecycleEvent (r : Registry) (x : Session) :
    (WsService.lifecycleEvent r x).token = x.presenceToken := rfl

@[simp] theorem phase_connect (now : ℚ) : (Notice.connect now).phase = .connect := rfl

@[simp] theorem phase_disconnect : Notice.disconnect.phase = .disconnect := rfl

/-- Connects and disconnects in turn, a connect first, each disconnect carrying the
identity of the connect before it.  The index is the identity still connected. -/
inductive Paired : List LifecycleCall → Option (UserId × ClientId × String) → Prop
  | nil : Paired [] none
  | connect {log : List LifecycleCall} (event : SessionLifecycleEvent) (h : Paired log none) :
      Paired (log ++ [⟨.connect, event⟩]) (some event.identity)
  | disconnect {log : List LifecycleCall} (event : SessionLifecycleEvent)
      (h : Paired log (some event.identity)) : Paired (log ++ [⟨.disconnect, event⟩]) none

def callsAbout (c : ClientId) (log : List LifecycleCall) : List LifecycleCall :=
  log.filter (·.event.clientId = c)

def identitiesOf (phase : Phase) (log : List LifecycleCall) :
    List (UserId × ClientId × String) :=
  (log.filter (·.phase = phase)).map (·.event.identity)

def tokensOf (phase : Phase) (log : List LifecycleCall) : List String :=
  (identitiesOf phase log).map (·.2.2)

def callCount (phase : Phase) (u : UserId) (log : List LifecycleCall) : Nat :=
  log.countP fun call => call.phase = phase ∧ call.event.userId = u

def Counted (log : List LifecycleCall) : Prop :=
  ∀ pre call, pre ++ [call] <+: log →
    call.event.userSessionCount + callCount .disconnect call.event.userId (pre ++ [call]) =
      callCount .connect call.event.userId (pre ++ [call])

@[simp] theorem callsAbout_append (c : ClientId) (log : List LifecycleCall)
    (call : LifecycleCall) : callsAbout c (log ++ [call]) =
      callsAbout c log ++ if call.event.clientId = c then [call] else [] := by
  by_cases h : call.event.clientId = c <;> simp [callsAbout, h]

@[simp] theorem identitiesOf_append (phase : Phase) (log : List LifecycleCall)
    (call : LifecycleCall) : identitiesOf phase (log ++ [call]) =
      identitiesOf phase log ++ if call.phase = phase then [call.event.identity] else [] := by
  by_cases h : call.phase = phase <;> simp [identitiesOf, h]

@[simp] theorem tokensOf_append (phase : Phase) (log : List LifecycleCall)
    (call : LifecycleCall) : tokensOf phase (log ++ [call]) =
      tokensOf phase log ++ if call.phase = phase then [call.event.token] else [] := by
  by_cases h : call.phase = phase <;> simp [tokensOf, h, SessionLifecycleEvent.identity]

@[simp] theorem callCount_append (phase : Phase) (u : UserId) (log : List LifecycleCall)
    (call : LifecycleCall) : callCount phase u (log ++ [call]) =
      callCount phase u log + if call.phase = phase ∧ call.event.userId = u then 1 else 0 := by
  simp [callCount, List.countP_append, List.countP_singleton]

theorem Counted.append {log : List LifecycleCall} {call : LifecycleCall} (h : Counted log)
    (hcall : call.event.userSessionCount +
      callCount .disconnect call.event.userId (log ++ [call]) =
        callCount .connect call.event.userId (log ++ [call])) : Counted (log ++ [call]) := by
  intro pre call' hpre
  rcases List.prefix_concat_iff.mp hpre with heq | hpre
  · obtain ⟨rfl, rfl⟩ := List.append_singleton_inj.mp heq
    exact hcall
  · exact h pre call' hpre

namespace Observed

structure Lawful (deps : Deps τ) (o : Observed τ) : Prop where
  token : ∀ x ∈ o.registry.built, x.presenceToken = deps.randomUUID x.ref
  paired : ∀ c, Paired (callsAbout c o.log) ((o.registry.sessions.lookup c).map (·.identity))
  connected : identitiesOf .connect o.log = o.registry.built.map (·.identity)
  balance : ∀ u, o.registry.countUserSessions u + callCount .disconnect u o.log =
    callCount .connect u o.log
  counted : Counted o.log

theorem Lawful.init (deps : Deps τ) (world : τ) : Lawful deps ⟨.empty, [], world⟩ where
  token x hx := by simp [Registry.empty] at hx
  paired c := .nil
  connected := rfl
  balance u := rfl
  counted pre call hpre := by simp at hpre

theorem Lawful.registered {o : Observed τ} (h : Lawful deps o) (hv : o.registry.Valid)
    {x : Session} (now : ℚ) (hfresh : o.registry.sessions.lookup x.clientId = none)
    (htoken : x.presenceToken = deps.randomUUID x.ref) :
    Lawful deps (o.tell deps x (.connect now) (o.registry.enroll x)) := by
  have hcount := fun u => Registry.countUserSessions_enroll hv hfresh u
  have hbalance : ∀ u, (o.registry.enroll x).countUserSessions u + callCount .disconnect u
      (o.log ++ [⟨.connect, WsService.lifecycleEvent (o.registry.enroll x) x⟩]) =
        callCount .connect u
          (o.log ++ [⟨.connect, WsService.lifecycleEvent (o.registry.enroll x) x⟩]) := by
    intro u
    have hu := h.balance u
    rw [hcount u, callCount_append, callCount_append]
    by_cases hux : u = x.userId
    · subst hux; simp; omega
    · simp [hux, Ne.symm hux]; omega
  exact {
    token := by
      intro y hy
      rcases List.mem_append.mp hy with hy | hy
      · exact h.token y hy
      · obtain rfl := List.mem_singleton.mp hy
        exact htoken
    paired := by
      intro c
      have hc := h.paired c
      simp only [tell, phase_connect, callsAbout_append, clientId_lifecycleEvent,
        Registry.lookup_enroll]
      by_cases hxc : x.clientId = c
      · subst hxc
        rw [hfresh] at hc
        simpa using Paired.connect (WsService.lifecycleEvent (o.registry.enroll x) x) hc
      · simpa [hxc, Ne.symm hxc] using hc
    connected := by simp [tell, h.connected]
    balance := hbalance
    counted := h.counted.append (hbalance x.userId) }

theorem Lawful.released {o : Observed τ} (h : Lawful deps o) (hv : o.registry.Valid)
    {x : Session} (hheld : o.registry.sessions.lookup x.clientId = some x) :
    Lawful deps (o.tell deps x .disconnect (o.registry.drop x)) := by
  have hcount := fun u => Registry.countUserSessions_drop hv hheld u
  have hbalance : ∀ u, (o.registry.drop x).countUserSessions u + callCount .disconnect u
      (o.log ++ [⟨.disconnect, WsService.lifecycleEvent (o.registry.drop x) x⟩]) =
        callCount .connect u
          (o.log ++ [⟨.disconnect, WsService.lifecycleEvent (o.registry.drop x) x⟩]) := by
    intro u
    have hu := h.balance u
    have hcu := hcount u
    rw [callCount_append, callCount_append]
    by_cases hux : u = x.userId
    · subst hux; simp at hcu ⊢; omega
    · simp [hux, Ne.symm hux] at hcu ⊢; omega
  exact {
    token := by
      intro y hy
      rw [tell, Registry.drop_built] at hy
      exact h.token y hy
    paired := by
      intro c
      have hc := h.paired c
      simp only [tell, phase_disconnect, callsAbout_append, clientId_lifecycleEvent,
        Registry.lookup_drop]
      by_cases hxc : x.clientId = c
      · subst hxc
        rw [hheld] at hc
        simpa using Paired.disconnect (WsService.lifecycleEvent (o.registry.drop x) x) hc
      · simpa [hxc, Ne.symm hxc] using hc
    connected := by simp [tell, h.connected]
    balance := hbalance
    counted := h.counted.append (hbalance x.userId) }

theorem Lawful.change {o o' : Observed τ} {m : Move} (hv : o.registry.Valid)
    (h : Lawful deps o) (hchange : Change deps o m o') : Lawful deps o' := by
  cases hchange with
  | skipped => exact h
  | registered x now hfresh href htoken => exact h.registered hv now hfresh htoken
  | released x hheld => exact h.released hv hheld

theorem lawful_run (deps : Deps τ) (world : τ) (ms : List Move) :
    Lawful deps ((system deps world).run ms) :=
  invariant_of_change (.init deps world) (fun _ _ _ hv h hc => h.change hv hc) ms

theorem token_injective (hfresh : Function.Injective deps.randomUUID) {o : Observed τ}
    (hv : o.registry.Valid) (h : Lawful deps o) {x y : Session} (hx : x ∈ o.registry.built)
    (hy : y ∈ o.registry.built) (heq : x.presenceToken = y.presenceToken) : x = y := by
  have href : x.ref = y.ref := hfresh (by rw [← h.token x hx, ← h.token y hy, heq])
  exact hv.ref_inj hx hy href

theorem nodup_tokens (hfresh : Function.Injective deps.randomUUID) {o : Observed τ}
    (hv : o.registry.Valid) (h : Lawful deps o) : (tokensOf .connect o.log).Nodup := by
  have hbuilt : o.registry.built.Nodup := by
    rw [List.nodup_iff_getElem?_ne_getElem?]
    intro i j hij hj heq
    have hy := List.getElem?_eq_getElem hj
    have hi := heq.trans hy
    exact absurd ((hv.ref hi).symm.trans (hv.ref hy)) (Nat.ne_of_lt hij)
  rw [tokensOf, h.connected, List.map_map]
  exact hbuilt.map_on fun x hx y hy => token_injective hfresh hv h hx hy

structure Spent (o : Observed τ) : Prop where
  nodup : (tokensOf .disconnect o.log).Nodup
  past : ∀ t ∈ tokensOf .disconnect o.log, ∃ x ∈ o.registry.built,
    x.presenceToken = t ∧ o.registry.sessions.lookup x.clientId ≠ some x

theorem Spent.change (hfresh : Function.Injective deps.randomUUID) {o o' : Observed τ} {m : Move}
    (hv : o.registry.Valid) (hl : Lawful deps o) (h : Spent o) (hchange : Change deps o m o') :
    Spent o' := by
  cases hchange with
  | skipped => exact h
  | registered x now hnone href htoken =>
    refine ⟨by simpa [tell] using h.nodup, fun t ht => ?_⟩
    obtain ⟨y, hy, hyt, hout⟩ := h.past t (by simpa [tell] using ht)
    refine ⟨y, List.mem_append_left _ hy, hyt, ?_⟩
    rw [tell, Registry.lookup_enroll]
    split
    · intro heq
      obtain rfl := Option.some.inj heq
      have hlt := hv.ref_lt_of_mem hy
      omega
    · exact hout
  | released x hheld =>
    have hx : x ∈ o.registry.built := List.mem_of_getElem? (hv.built hheld)
    refine ⟨?_, fun t ht => ?_⟩
    · have hnew : ¬ x.presenceToken ∈ tokensOf .disconnect o.log := by
        intro hmem
        obtain ⟨y, hy, hyt, hout⟩ := h.past _ hmem
        obtain rfl := token_injective hfresh hv hl hy hx hyt
        exact hout hheld
      simp only [tell, tokensOf_append, phase_disconnect, if_true, token_lifecycleEvent]
      rw [← List.concat_eq_append, List.nodup_concat]
      exact ⟨hnew, h.nodup⟩
    · simp only [tell, tokensOf_append, phase_disconnect, if_true, token_lifecycleEvent,
        List.mem_append, List.mem_singleton] at ht
      simp only [tell, Registry.drop_built, Registry.lookup_drop]
      rcases ht with ht | rfl
      · obtain ⟨y, hy, hyt, hout⟩ := h.past t ht
        refine ⟨y, hy, hyt, ?_⟩
        split
        · simp
        · exact hout
      · exact ⟨x, hx, rfl, by simp⟩

theorem spent_run (hfresh : Function.Injective deps.randomUUID) (world : τ) (ms : List Move) :
    Spent ((system deps world).run ms) := by
  have h : Lawful deps _ ∧ Spent ((system deps world).run ms) := invariant_of_change
    (P := fun o => Lawful deps o ∧ Spent o)
    ⟨.init deps world, ⟨List.nodup_nil, fun t ht => by simp [tokensOf, identitiesOf] at ht⟩⟩
    (fun _ _ _ hv h hc => ⟨h.1.change hv hc, h.2.change hfresh hv h.1 hc⟩) ms
  exact h.2

end Observed

theorem WsService.valid_step (deps : Deps τ) {s : WsService τ} (hv : s.registry.Valid)
    (e : WsEvent) : (WsService.step deps s e).registry.Valid := by
  change (WsService.step deps s e).observed.registry.Valid
  rw [WsService.observed_step]
  exact Observed.foldl_move_of_change (fun _ _ _ hv _ hc => hc.valid hv) hv hv _

theorem WsService.built_prefix_step (deps : Deps τ) (s : WsService τ) (e : WsEvent) :
    s.registry.built <+: (WsService.step deps s e).registry.built := by
  have h := Observed.built_prefix_foldl_move deps s.observed (WsService.moves s e)
  rwa [← WsService.observed_step] at h

end NestBackend.Ws
