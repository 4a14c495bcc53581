import NestBackend.Ws.LedgerLaws

namespace NestBackend.Ws.WsService

open NestBackend.Js
open NestBackend.Lib

variable {τ τ' : Type} {deps : Deps τ} {deps' : Deps τ'}

theorem valid_run (deps : Deps τ) (world : τ) (es : List WsEvent) :
    ((system deps world).run es).registry.Valid :=
  (refinement deps world).invariant (P := fun o => o.registry.Valid)
    (Observed.valid_run deps world) es

theorem lawful_run (deps : Deps τ) (world : τ) (es : List WsEvent) :
    ((system deps world).run es).observed.Lawful deps :=
  (refinement deps world).invariant (P := fun o => o.Lawful deps)
    (Observed.lawful_run deps world) es

/-- The session map and the user index represent one set of sessions. -/
theorem registry_representation (deps : Deps τ) (world : τ) (es : List WsEvent) :
    let r := ((system deps world).run es).registry
    (∀ c x, r.sessions.lookup c = some x → x.clientId = c) ∧
      (∀ u c, r.Member u c ↔ ∃ x, r.sessions.lookup c = some x ∧ x.userId = u) ∧
      (∀ u members, r.userClients.lookup u = some members → members.size ≠ 0) ∧
      (∀ u v c, r.Member u c → r.Member v c → u = v) ∧
      (∀ u, r.countUserSessions u = (r.ownedSessions u).length) ∧
      (r.userClients.keys.map r.countUserSessions).sum = r.getSessionCount := by
  have hv := valid_run deps world es
  exact ⟨fun _ _ => hv.key, fun _ _ => hv.member, fun _ _ => hv.nonempty,
    fun _ _ _ => hv.member_unique, Registry.countUserSessions_eq_length hv,
    Registry.sum_countUserSessions hv⟩

def Uniform (deps : Deps τ) (s : WsService τ) : Prop :=
  ∀ i < deps.trackers.length, callsTo i s.trace = lifecycleLog s.trace

theorem Uniform.quiet {s t : WsService τ} (h : Uniform deps s) (hq : Quiet s t) :
    Uniform deps t := by
  intro i hi
  rw [hq.calls, hq.log, h i hi]

theorem callsTo_notify (i : Nat) (phase : Phase) (event : SessionLifecycleEvent) (k n : Nat) :
    callsTo i ((List.range' k n).map fun j => .notify j phase event) =
      if k ≤ i ∧ i < k + n then [⟨phase, event⟩] else [] := by
  induction n generalizing k with
  | zero => simp [callsTo]
  | succ n ih =>
    rw [List.range'_succ, List.map_cons, ← List.singleton_append, callsTo_append, ih (k + 1)]
    by_cases hk : k = i
    · subst hk
      simp [callsTo, Effect.callTo]
    · have hiff : k + 1 ≤ i ∧ i < k + 1 + n ↔ k ≤ i ∧ i < k + (n + 1) := by omega
      have hskip : callsTo i [.notify k phase event] = [] := by simp [callsTo, Effect.callTo, hk]
      rw [hskip, List.nil_append]
      exact if_congr hiff rfl rfl

theorem Uniform.fanOut {s : WsService τ} (h : Uniform deps s) (session : Session)
    (notice : Notice) : Uniform deps (fanOut deps session notice s) := by
  intro i hi
  obtain ⟨fanOuts, heq⟩ := fanOut_eq deps session notice s
  rw [heq]
  dsimp only
  rw [← List.singleton_append, callsTo_append, callsTo_append, lifecycleLog_append,
    lifecycleLog_append, callsTo_notify, lifecycleLog_notify, h i hi]
  simp [hi, callsTo, Effect.callTo, lifecycleLog, Effect.lifecycleCall]

theorem Uniform.release {s : WsService τ} (h : Uniform deps s) (session : Session) :
    Uniform deps (release deps session s).1 := by
  unfold WsService.release
  split
  · exact h
  · refine Uniform.fanOut ?_ session .disconnect
    exact h

theorem Uniform.handleExpiry {s : WsService τ} (h : Uniform deps s) (session : Session) :
    Uniform deps (handleExpiry deps session s) := by
  have hr := h.release session
  unfold WsService.handleExpiry
  split
  · next s' heq => rwa [heq] at hr
  · next s' heq =>
    rw [heq] at hr
    exact hr.quiet (quiet_emit rfl fun _ => rfl)

theorem Uniform.scheduleExpiry {s : WsService τ} (h : Uniform deps s) (session : Session)
    (now : ℚ) : Uniform deps (scheduleExpiry deps session now s) := by
  unfold WsService.scheduleExpiry
  dsimp only
  split
  · exact h.handleExpiry session
  · exact h

theorem Uniform.handleConnection {s : WsService τ} (h : Uniform deps s)
    (params : ConnectionParams) (now now' : ℚ) :
    Uniform deps (handleConnection deps params now now' s).1 := by
  unfold WsService.handleConnection
  split
  · split
    · exact h.quiet (quiet_emit rfl fun _ => rfl)
    · next u c _ _ _ =>
      refine Uniform.scheduleExpiry ?_ _ now'
      refine Uniform.quiet ?_ (quiet_socketOn params.socket _)
      refine Uniform.fanOut ?_ _ _
      exact h
  · exact h.quiet (quiet_emit rfl fun _ => rfl)

theorem Uniform.step {s : WsService τ} (h : Uniform deps s) (e : WsEvent) :
    Uniform deps (step deps s e) := by
  cases e with
  | connect params now now' => exact h.handleConnection params now now'
  | close ref =>
    rw [WsService.step]
    split
    · exact h.release _
    · exact h
  | timer id now now' =>
    rw [WsService.step]
    split
    · split
      · unfold handleExpiryTimer
        split
        · exact Uniform.scheduleExpiry (by exact h) _ _
        · exact Uniform.handleExpiry (by exact h) _
      · exact h
    · exact h
  | destroy => exact h
  | error | message | publishSettled | trackersSettled | sendToClient | sendToLocalUser
  | sendToUser => exact h.quiet (quiet_step deps s rfl)

/-- Two services with trackers of their own that cannot be told apart by sessions,
timers and calls. -/
structure Agree (s : WsService τ) (t : WsService τ') : Prop where
  registry : s.registry = t.registry
  timers : s.timers = t.timers
  log : lifecycleLog s.trace = lifecycleLog t.trace

namespace Agree

variable {s : WsService τ} {t : WsService τ'}

theorem quiet {s' : WsService τ} {t' : WsService τ'} (h : Agree s t) (hs : Quiet s s')
    (ht : Quiet t t') : Agree s' t' :=
  ⟨by rw [hs.registry, ht.registry, h.registry], by rw [hs.timers, ht.timers, h.timers],
    by rw [hs.log, ht.log, h.log]⟩

theorem fanOut (h : Agree s t) (deps : Deps τ) (deps' : Deps τ') (session : Session)
    (notice : Notice) :
    Agree (fanOut deps session notice s) (fanOut deps' session notice t) := by
  obtain ⟨fanOuts, heq⟩ := fanOut_eq deps session notice s
  obtain ⟨fanOuts', heq'⟩ := fanOut_eq deps' session notice t
  rw [heq, heq']
  refine ⟨h.registry, h.timers, ?_⟩
  dsimp only
  rw [← List.singleton_append, ← List.singleton_append (l := List.map _ _)]
  simp only [lifecycleLog_append, lifecycleLog_notify, h.log, h.registry]

theorem release (h : Agree s t) (deps : Deps τ) (deps' : Deps τ') (session : Session) :
    Agree (release deps session s).1 (release deps' session t).1 ∧
      (release deps session s).2 = (release deps' session t).2 := by
  unfold WsService.release
  rw [h.registry, h.timers]
  split
  · exact ⟨h, rfl⟩
  · refine ⟨fanOut ?_ deps deps' session .disconnect, rfl⟩
    exact ⟨rfl, rfl, h.log⟩

theorem handleExpiry (h : Agree s t) (deps : Deps τ) (deps' : Deps τ') (session : Session) :
    Agree (handleExpiry deps session s) (handleExpiry deps' session t) := by
  obtain ⟨hst, heq⟩ := h.release deps deps' session
  unfold WsService.handleExpiry
  cases hs : WsService.release deps session s with
  | mk s' sent =>
    cases ht : WsService.release deps' session t with
    | mk t' sent' =>
      rw [hs, ht] at hst
      obtain rfl : sent = sent' := by simpa [hs, ht] using heq
      cases sent with
      | false => exact hst
      | true => exact hst.quiet (quiet_emit rfl fun _ => rfl) (quiet_emit rfl fun _ => rfl)

theorem scheduleExpiry (h : Agree s t) (deps : Deps τ) (deps' : Deps τ') (session : Session)
    (now : ℚ) : Agree (scheduleExpiry deps session now s) (scheduleExpiry deps' session now t) := by
  unfold WsService.scheduleExpiry
  dsimp only
  split
  · exact h.handleExpiry deps deps' session
  · exact ⟨h.registry, by rw [h.timers], h.log⟩

theorem handleConnection (h : Agree s t) {deps : Deps τ} {deps' : Deps τ'}
    (htokens : deps'.randomUUID = deps.randomUUID) (params : ConnectionParams) (now now' : ℚ) :
    Agree (handleConnection deps params now now' s).1
      (handleConnection deps' params now now' t).1 := by
  unfold WsService.handleConnection
  rw [h.registry, htokens]
  split
  · split
    · exact h.quiet (quiet_emit rfl fun _ => rfl) (quiet_emit rfl fun _ => rfl)
    · refine scheduleExpiry ?_ deps deps' _ now'
      refine quiet ?_ (quiet_socketOn params.socket _) (quiet_socketOn params.socket _)
      refine fanOut ?_ deps deps' _ _
      exact ⟨rfl, h.timers, h.log⟩
  · exact h.quiet (quiet_emit rfl fun _ => rfl) (quiet_emit rfl fun _ => rfl)

theorem step (h : Agree s t) {deps : Deps τ} {deps' : Deps τ'}
    (htokens : deps'.randomUUID = deps.randomUUID) (e : WsEvent) :
    Agree (step deps s e) (step deps' t e) := by
  cases e with
  | connect params now now' => exact h.handleConnection htokens params now now'
  | close ref =>
    rw [WsService.step, WsService.step, h.registry]
    split
    · exact (h.release deps deps' _).1
    · exact h
  | timer id now now' =>
    rw [WsService.step, WsService.step, h.registry, h.timers]
    split
    · split
      · unfold handleExpiryTimer
        split
        · refine scheduleExpiry ?_ deps deps' _ _
          exact ⟨rfl, rfl, h.log⟩
        · refine handleExpiry ?_ deps deps' _
          exact ⟨rfl, rfl, h.log⟩
      · exact h
    · exact h
  | destroy =>
    exact ⟨h.registry, by simp only [WsService.step, onModuleDestroy, h.registry, h.timers], h.log⟩
  | error | message | publishSettled | trackersSettled | sendToClient | sendToLocalUser
  | sendToUser => exact h.quiet (quiet_step deps s rfl) (quiet_step deps' t rfl)

theorem run {deps : Deps τ} {deps' : Deps τ'} (htokens : deps'.randomUUID = deps.randomUUID)
    (world : τ) (world' : τ') (es : List WsEvent) :
    Agree ((system deps world).run es) ((system deps' world').run es) := by
  induction es using List.reverseRecOn with
  | nil => exact ⟨rfl, rfl, rfl⟩
  | append_singleton es e ih =>
    rw [System.run_concat, System.run_concat]
    exact ih.step htokens e

end Agree

/-- The log is the same for every tracker and whatever the trackers do, and it tells the
history of the registry. -/
theorem lifecycle_log_law (deps : Deps τ) (world : τ) (es : List WsEvent) :
    let s := (system deps world).run es
    let log := lifecycleLog s.trace
    (∀ i < deps.trackers.length, callsTo i s.trace = log) ∧
      (∀ (τ' : Type) (deps' : Deps τ') (world' : τ'), deps'.randomUUID = deps.randomUUID →
        ((system deps' world').run es).registry = s.registry ∧
          lifecycleLog ((system deps' world').run es).trace = log) ∧
      (∀ c, ∃ opened, Paired (callsAbout c log) opened) ∧
      Counted log ∧
      (Function.Injective deps.randomUUID → (tokensOf .connect log).Nodup ∧
        ∀ x ∈ s.registry.built, (identitiesOf .connect log).count x.identity = 1 ∧
          (identitiesOf .disconnect log).count x.identity ≤ 1) := by
  intro s log
  have hv : s.registry.Valid := valid_run deps world es
  have hl : s.observed.Lawful deps := lawful_run deps world es
  refine ⟨?_, ?_, fun c => ⟨_, hl.paired c⟩, hl.counted, fun hfresh => ?_⟩
  · exact System.invariant (M := system deps world) (I := Uniform deps) (fun _ _ => rfl)
      (fun _ e h => h.step e) es
  · intro τ' deps' world' htokens
    have h := Agree.run htokens world world' es
    exact ⟨h.registry.symm, h.log.symm⟩
  · have htokens : (tokensOf .connect log).Nodup := Observed.nodup_tokens hfresh hv hl
    have hspent : (tokensOf .disconnect log).Nodup :=
      ((refinement deps world).invariant (P := Observed.Spent)
        (Observed.spent_run hfresh world) es).nodup
    refine ⟨htokens, fun x hx => ⟨?_, ?_⟩⟩
    · have hmem : x.identity ∈ identitiesOf .connect log := by
        rw [show identitiesOf .connect log = _ from hl.connected]
        exact List.mem_map_of_mem hx
      exact List.count_eq_one_of_mem htokens.of_map hmem
    · exact List.nodup_iff_count_le_one.mp hspent.of_map _

end NestBackend.Ws.WsService
