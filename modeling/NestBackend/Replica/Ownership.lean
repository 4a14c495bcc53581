import NestBackend.Replica.Subscriptions

namespace NestBackend.Replica

open NestBackend.Js
open NestBackend.Lib
open NestBackend.UserTopics
open NestBackend.UserTopics.UserTopicService
open NestBackend.Ws

def Rises (u : UserId) (call : LifecycleCall) : Prop :=
  call.phase = .connect ∧ call.event.userId = u ∧ call.event.userSessionCount = 1

def SinceRise (u : UserId) (log : List LifecycleCall) (n : Nat) : Prop :=
  ∀ call ∈ log.drop (n + 1), ¬ Rises u call

/-- The operation was started by a connect of the user, no earlier than the one that last
raised the session count from zero. -/
def StartedInPeriod (u : UserId) (log : List LifecycleCall) (task : TopicOp) : Prop :=
  (∃ event, log[task.started]? = some ⟨.connect, event⟩ ∧ event.userId = u) ∧
    SinceRise u log task.started

def GaveUpInPeriod (o : Observed UserTopicService) (u : UserId) : Prop :=
  ∃ task ∈ o.world.exhausted, task.op = .subscribe ∧ task.channel = channelFor u ∧
    StartedInPeriod u o.log task

def ClaimsKept (o : Observed UserTopicService) : Prop :=
  ∀ u, o.registry.ownedSessions u ≠ [] → channelFor u ∉ o.world.subscribed → GaveUpInPeriod o u

/-- A SUBSCRIBE gives up the claim of a user with sessions only when it was started in the
user's current period, or another one of that period has given up before. -/
def OwnClaimWithdrawn (o : Observed UserTopicService) : Move ⊕ TopicEvent → Prop
  | .inr (.reject i) => ∀ call ∈ o.world.calls[i]?, call.task.op = .subscribe →
      TOPIC_RETRY.afterFailure call.task.attempt = .giveUp →
        ∀ u, call.task.channel = channelFor u → o.registry.ownedSessions u ≠ [] →
          channelFor u ∈ o.world.subscribed →
            SinceRise u o.log call.task.started ∨ GaveUpInPeriod o u
  | _ => True

theorem StartedInPeriod.append {u : UserId} {log : List LifecycleCall} {task : TopicOp}
    (h : StartedInPeriod u log task) {call : LifecycleCall} (hno : ¬ Rises u call) :
    StartedInPeriod u (log ++ [call]) task := by
  obtain ⟨⟨event, hevent, hu⟩, hlater⟩ := h
  obtain ⟨hlt, -⟩ := List.getElem?_eq_some_iff.mp hevent
  refine ⟨⟨event, by rwa [List.getElem?_append_left hlt], hu⟩, ?_⟩
  intro c hc
  rw [List.drop_append_of_le_length hlt] at hc
  rcases List.mem_append.mp hc with hc | hc
  · exact hlater c hc
  · rwa [List.mem_singleton.mp hc]

theorem ClaimsKept.change {rt : Runtime} {o o' : Observed UserTopicService} {m : Move}
    (hv : o.registry.Valid) (h : ClaimsKept o) (hc : Observed.Change rt.topicDeps o m o') :
    ClaimsKept o' := by
  have hv' := hc.valid hv
  intro u hsessions hunclaimed
  rw [ne_eq, Registry.ownedSessions_eq_nil_iff hv'] at hsessions
  have hold : ∀ call, ¬ Rises u call → o.registry.countUserSessions u ≠ 0 →
      channelFor u ∉ o.world.subscribed → ∃ task ∈ o.world.exhausted, task.op = .subscribe ∧
        task.channel = channelFor u ∧ StartedInPeriod u (o.log ++ [call]) task := by
    intro call hno hcount hout
    obtain ⟨task, hmem, hop, hch, hstarted⟩ :=
      h u (fun hnil => hcount ((Registry.ownedSessions_eq_nil_iff hv).mp hnil)) hout
    exact ⟨task, hmem, hop, hch, hstarted.append hno⟩
  cases hc with
  | skipped =>
    exact h u (fun hnil => hsessions ((Registry.ownedSessions_eq_nil_iff hv).mp hnil)) hunclaimed
  | registered x now hfresh =>
    rw [world_tell_connect, mem_subscribed_handleConnect, not_or] at hunclaimed
    have hne : u ≠ x.userId := fun heq => hunclaimed.2 (by rw [heq]; rfl)
    have hcount := Registry.countUserSessions_enroll hv hfresh u
    rw [if_neg hne, Nat.add_zero] at hcount
    obtain ⟨task, hmem, hrest⟩ := hold ⟨.connect, WsService.lifecycleEvent (o.registry.enroll x) x⟩
      (fun hr => hne hr.2.1.symm) (hcount ▸ hsessions) hunclaimed.1
    exact ⟨task, by rwa [world_tell_connect, exhausted_handleConnect], hrest⟩
  | released x hheld =>
    have hcount := Registry.countUserSessions_drop hv hheld u
    have hsessions : (o.registry.drop x).countUserSessions u ≠ 0 := hsessions
    have hout : channelFor u ∉ o.world.subscribed := by
      intro hin
      refine hunclaimed (mem_subscribed_handleDisconnect.mpr ⟨hin, ?_⟩)
      rintro ⟨hzero, hch⟩
      obtain rfl := channelFor_inj.mp hch
      exact hsessions hzero
    obtain ⟨task, hmem, hrest⟩ := hold ⟨.disconnect, WsService.lifecycleEvent (o.registry.drop x) x⟩
      (fun hr => by cases hr.1) (by omega) hout
    exact ⟨task, by rwa [world_tell_disconnect, exhausted_handleDisconnect], hrest⟩

structure Dated (o : Observed UserTopicService) : Prop where
  heard : o.world.heard = o.log.length
  started : ∀ task, task ∈ o.world.pending ∨ task ∈ o.world.exhausted → task.op = .subscribe →
    ∃ event, o.log[task.started]? = some ⟨.connect, event⟩ ∧
      task.channel = channelFor event.userId

theorem Dated.change {rt : Runtime} {o o' : Observed UserTopicService} {m : Move}
    (h : Dated o) (hc : Observed.Change rt.topicDeps o m o') : Dated o' := by
  have hold : ∀ call task, task ∈ o.world.pending ∨ task ∈ o.world.exhausted →
      task.op = .subscribe → ∃ event, (o.log ++ [call])[task.started]? = some ⟨.connect, event⟩ ∧
        task.channel = channelFor event.userId := by
    intro call task hmem hop
    obtain ⟨event, hevent, hch⟩ := h.started task hmem hop
    obtain ⟨hlt, -⟩ := List.getElem?_eq_some_iff.mp hevent
    exact ⟨event, by rwa [List.getElem?_append_left hlt], hch⟩
  cases hc with
  | skipped => exact h
  | registered x now =>
    refine ⟨?_, fun task hmem hop => ?_⟩
    · rw [world_tell_connect, heard_handleConnect, h.heard, Observed.length_log_tell]
    · rw [world_tell_connect, exhausted_handleConnect] at hmem
      rcases hmem with hmem | hmem
      · rcases mem_pending_handleConnect hmem with hmem | rfl
        · exact hold _ task (.inl hmem) hop
        · exact ⟨_, by simp [h.heard, Observed.tell], rfl⟩
      · exact hold _ task (.inr hmem) hop
  | released x =>
    refine ⟨?_, fun task hmem hop => ?_⟩
    · rw [world_tell_disconnect, heard_handleDisconnect, h.heard, Observed.length_log_tell]
    · rw [world_tell_disconnect, exhausted_handleDisconnect] at hmem
      rcases hmem with hmem | hmem
      · rcases mem_pending_handleDisconnect hmem with hmem | rfl
        · exact hold _ task (.inl hmem) hop
        · cases hop
      · exact hold _ task (.inr hmem) hop

theorem Dated.progress {o : Observed UserTopicService} {e : TopicEvent} {w : UserTopicService}
    (h : Dated o) (hp : Progress o.world e w) : Dated { o with world := w } := by
  cases hp with
  | idle => exact h
  | accepted call rest hcalls =>
    exact ⟨h.heard, fun task hmem => h.started task
      (hmem.imp_left fun ht => (mem_pending_accepted hcalls _ task).mpr (.inr ht))⟩
  | retried i call hi hleft =>
    exact ⟨h.heard, fun task hmem => h.started task
      (hmem.imp_left (mem_pending_retried hi task).mp)⟩
  | gaveUp i call hi hspent =>
    refine ⟨h.heard, fun task hmem => h.started task ?_⟩
    rcases hmem with hmem | hmem
    · exact .inl ((mem_pending_gaveUp hi task).mpr (.inr hmem))
    · rcases List.mem_append.mp hmem with hmem | hmem
      · exact .inr hmem
      · exact .inl ((mem_pending_gaveUp hi task).mpr (.inl (List.mem_singleton.mp hmem)))
  | woken i task hi =>
    refine ⟨h.heard, fun t hmem hop => ?_⟩
    rcases hmem with hmem | hmem
    · simp only [mem_pending, attempt, List.mem_append, List.mem_singleton] at hmem
      rcases hmem with ⟨c, hc | rfl, rfl⟩ | hmem
      · exact h.started c.task (.inl (mem_pending.mpr (.inl ⟨c, hc, rfl⟩))) hop
      · exact h.started task (.inl (mem_pending.mpr (.inr (List.mem_of_getElem? hi)))) hop
      · exact h.started t
          (.inl (mem_pending.mpr (.inr ((mem_of_getElem?_iff hi).mpr (.inr hmem))))) hop
    · exact h.started t (.inr hmem) hop

theorem claimsKept_progress_iff {o : Observed UserTopicService} {e : TopicEvent}
    {w : UserTopicService} (hd : Dated o) (h : ClaimsKept o) (hp : Progress o.world e w) :
    ClaimsKept { o with world := w } ↔ OwnClaimWithdrawn o (.inr e) := by
  cases hp with
  | idle e hnone =>
    refine iff_of_true h ?_
    cases e with
    | accept | wake => trivial
    | reject i =>
      intro call hcall
      rw [Option.map_eq_none_iff.mp hnone] at hcall
      cases hcall
  | accepted call rest hcalls => exact iff_of_true h trivial
  | retried i call hi hleft =>
    refine iff_of_true h ?_
    intro call' hcall' _ hspent
    obtain rfl := Option.some.inj (hi.symm.trans hcall')
    exact absurd hspent hleft
  | woken i task hi => exact iff_of_true h trivial
  | gaveUp i call hi hspent =>
    constructor
    · intro hkept call' hcall' hop _ u hch hsessions hclaimed
      obtain rfl := Option.some.inj (hi.symm.trans hcall')
      have hout : channelFor u ∉ o.world.subscribed.delete call.task.channel := by simp [hch]
      obtain ⟨task, hmem, hrest⟩ := hkept u hsessions (by simpa [absorb, hop] using hout)
      rcases List.mem_append.mp hmem with hmem | hmem
      · exact .inr ⟨task, hmem, hrest⟩
      · obtain rfl := List.mem_singleton.mp hmem
        exact .inl hrest.2.2.2
    · intro hok u hsessions hunclaimed
      have hlater : GaveUpInPeriod o u →
          GaveUpInPeriod ⟨o.registry, o.log,
            absorb call.task { o.world with calls := o.world.calls.eraseIdx i }⟩ u := by
        rintro ⟨task, hmem, hrest⟩
        exact ⟨task, List.mem_append_left _ hmem, hrest⟩
      by_cases hclaimed : channelFor u ∈ o.world.subscribed
      · have hop : call.task.op = .subscribe := by
          by_contra hne
          exact hunclaimed (by simpa [absorb, hne] using hclaimed)
        have hch : call.task.channel = channelFor u := by
          by_contra hne
          exact hunclaimed (by simpa [absorb, hop] using ⟨Ne.symm hne, hclaimed⟩)
        rcases hok call hi hop hspent u hch hsessions hclaimed with hsince | hgave
        · obtain ⟨event, hevent, huser⟩ := hd.started call.task
            (.inl ((mem_pending_gaveUp hi _).mpr (.inl rfl))) hop
          have hu : event.userId = u := channelFor_inj.mp (huser.symm.trans hch)
          exact ⟨call.task, List.mem_append_right _ List.mem_cons_self, hop, hch,
            ⟨event, hevent, hu⟩, hsince⟩
        · exact hlater hgave
      · exact hlater (h u hsessions hclaimed)

theorem dated_run (rt : Runtime) (es : List ReplicaEvent) :
    Dated (topicView ((system rt).run es)) :=
  (topicRefinement rt).invariant (P := Dated) (fun as =>
    Observed.invariant_inWorld ⟨rfl, fun _ h => by simp [pending, UserTopicService.start] at h⟩
      (fun _ _ _ _ h hc => h.change hc)
      (fun o e _ h => h.progress (progress_step o.world e)) as) es

/-- A user with sessions is without a claim only after an operation of the current period has
given up, exactly as long as every claim withdrawn is the operation's own. -/
theorem claim_ownership_iff (rt : Runtime) (es : List ReplicaEvent) :
    (∀ pre, pre <+: es → ClaimsKept (topicView ((system rt).run pre))) ↔
      (system rt).Along (TopicGuard rt OwnClaimWithdrawn) es := by
  refine System.forall_prefix_iff_along (P := fun s => ClaimsKept (topicView s))
    (I := fun s => s.registry.Valid ∧ Dated (topicView s))
    (fun es => ⟨topicView_valid rt es, dated_run rt es⟩) (fun u h => absurd rfl h) ?_ es
  rintro s e ⟨hv, hd⟩ h
  rw [show topicView ((system rt).step s e) = _ from topicView_step rt s e]
  cases e with
  | ws e =>
    refine iff_of_true ?_ (System.alongFrom_of_forall ?_ _)
    · rw [topicActs, Observed.runFrom_inl]
      exact Observed.foldl_move_of_change (fun _ _ _ hv h hc => h.change hv hc) hv h _
    · intro a ha o
      obtain ⟨m, -, rfl⟩ := List.mem_map.mp ha
      trivial
  | topic e =>
    have hstep := claimsKept_progress_iff hd h (progress_step (topicView s).world e)
    exact hstep.trans (and_true _).symm.to_iff
  | perform i => exact iff_of_true h trivial
  | deliver channel message io => exact iff_of_true h trivial

/-- Between two attempts of a SUBSCRIBE its session leaves and another one joins; the last
attempt fails while the new claim stands. -/
def claimWithdrawnLate : List ReplicaEvent :=
  [joins "a", .topic (.reject 0), .topic (.wake 0), .topic (.reject 0), .topic (.wake 0),
    .topic (.reject 0), .topic (.wake 0), .topic (.reject 0), .ws (.close 0), .topic .accept,
    joins "b", .topic .accept, .topic (.wake 0), .topic (.reject 0)]

theorem claim_withdrawn_by_stale_operation :
    ¬ ∀ es, ClaimsKept (topicView ((system sample).run es)) := by
  intro h
  obtain ⟨task, hmem, -, -, -, hlater⟩ :=
    h claimWithdrawnLate "u" (by decide +kernel) (by decide +kernel)
  have hexhausted : (topicView ((system sample).run claimWithdrawnLate)).world.exhausted =
      [⟨channelFor "u", .subscribe, 5, 0⟩] := by decide +kernel
  rw [hexhausted, List.mem_singleton] at hmem
  subst hmem
  exact hlater ⟨.connect, ⟨"u", "b", "x", 1⟩⟩ (by decide +kernel) ⟨rfl, rfl, rfl⟩

end NestBackend.Replica
