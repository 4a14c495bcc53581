import NestBackend.Replica

namespace NestBackend.Replica

open NestBackend.Js
open NestBackend.Lib
open NestBackend.UserTopics
open NestBackend.UserTopics.UserTopicService
open NestBackend.Ws

@[simp] theorem world_tell_connect (rt : Runtime) (o : Observed UserTopicService) (x : Session)
    (now : ℚ) (r : Registry) : (o.tell rt.topicDeps x (.connect now) r).world =
      o.world.handleConnect (WsService.lifecycleEvent r x) := rfl

@[simp] theorem world_tell_disconnect (rt : Runtime) (o : Observed UserTopicService)
    (x : Session) (r : Registry) : (o.tell rt.topicDeps x .disconnect r).world =
      o.world.handleDisconnect (WsService.lifecycleEvent r x) := rfl

def Covered (w : UserTopicService) : Prop :=
  ∀ ch ∈ w.subscribed, w.Listens ch ∨ w.Awaits .subscribe ch

/-- No UNSUBSCRIBE takes effect on a claimed channel, unless a SUBSCRIBE is to follow. -/
def NoLateUnsubscribe (o : Observed UserTopicService) : Move ⊕ TopicEvent → Prop
  | .inr .accept => ∀ call ∈ o.world.calls.head?, call.task.op = .unsubscribe →
      call.task.channel ∈ o.world.subscribed → o.world.Awaits .subscribe call.task.channel
  | _ => True

instance (o : Observed UserTopicService) : ∀ a, Decidable (NoLateUnsubscribe o a)
  | .inr .accept => inferInstanceAs (Decidable (∀ call ∈ o.world.calls.head?, _ → _ → _))
  | .inr (.reject _) | .inr (.wake _) | .inl _ => .isTrue trivial

theorem Covered.handleConnect {w : UserTopicService} (h : Covered w)
    (event : SessionLifecycleEvent) : Covered (w.handleConnect event) := by
  intro ch hch
  rw [Listens, listeners_handleConnect, awaits_handleConnect]
  by_cases hold : ch ∈ w.subscribed
  · rcases h ch hold with hl | ha
    · exact .inl hl
    · exact .inr (.inl ha)
  · obtain rfl := (mem_subscribed_handleConnect.mp hch).resolve_left hold
    exact .inr (.inr ⟨hold, rfl, rfl⟩)

theorem Covered.handleDisconnect {w : UserTopicService} (h : Covered w)
    (event : SessionLifecycleEvent) : Covered (w.handleDisconnect event) := by
  intro ch hch
  rw [Listens, listeners_handleDisconnect, awaits_handleDisconnect]
  rcases h ch (mem_subscribed_handleDisconnect.mp hch).1 with hl | ha
  · exact .inl hl
  · exact .inr (.inl ha)

theorem Covered.progress {o : Observed UserTopicService} {e : TopicEvent}
    {w : UserTopicService} (h : Covered o.world) (hok : NoLateUnsubscribe o (.inr e))
    (hp : Progress o.world e w) : Covered w := by
  cases hp with
  | idle => exact h
  | accepted call rest hcalls =>
    intro ch hch
    have hok : call.task.op = .unsubscribe → call.task.channel ∈ o.world.subscribed →
        o.world.Awaits .subscribe call.task.channel := hok call (by simp [hcalls])
    rw [Listens, listens_applyCall]
    cases hop : call.task.op with
    | subscribe =>
      by_cases hsame : call.task.channel = ch
      · simp [hsame]
      · rcases h ch hch with hl | ha
        · exact .inl (by rw [if_pos rfl]; exact .inl hl)
        · exact .inr (awaits_accepted hcalls _ ha (by simp [hsame]))
    | unsubscribe =>
      by_cases hsame : call.task.channel = ch
      · subst hsame
        exact .inr (awaits_accepted hcalls _ (hok hop hch) (by simp [hop]))
      · rcases h ch hch with hl | ha
        · exact .inl (by rw [if_neg (by simp)]; exact ⟨hl, hsame⟩)
        · exact .inr (awaits_accepted hcalls _ ha (by simp [hop]))
  | retried i call hi hleft =>
    intro ch hch
    rw [awaits_retried hi]
    exact h ch hch
  | gaveUp i call hi hspent =>
    intro ch hch
    cases hop : call.task.op with
    | subscribe =>
      obtain ⟨hne, hold⟩ : ch ≠ call.task.channel ∧ ch ∈ o.world.subscribed := by
        simpa [absorb, hop] using hch
      rcases h ch hold with hl | ha
      · exact .inl hl
      · exact .inr (awaits_gaveUp hi ha fun hc => hne hc.2.symm)
    | unsubscribe =>
      have hold : ch ∈ o.world.subscribed := by simpa [absorb, hop] using hch
      rcases h ch hold with hl | ha
      · exact .inl hl
      · exact .inr (awaits_gaveUp hi ha (by simp [hop]))
  | woken i task hi =>
    intro ch hch
    rw [awaits_woken hi]
    exact h ch hch

/-- As long as no UNSUBSCRIBE comes late, a claim with nothing pending has its listener. -/
theorem no_lost_subscription (rt : Runtime) (es : List ReplicaEvent)
    (h : (system rt).Along (TopicGuard rt NoLateUnsubscribe) es) (u : UserId)
    (hidle : ((system rt).run es).world.topics.Idle (channelFor u))
    (hclaim : channelFor u ∈ ((system rt).run es).world.topics.subscribed) :
    ((system rt).run es).world.topics.Listens (channelFor u) := by
  have hcovered : Covered (topicView ((system rt).run es)).world := by
    refine topic_invariant_along (P := fun o => Covered o.world)
      (fun ch hch => absurd hch (OrderedSet.not_mem_empty ch)) ?_ ?_ h
    · intro o m o' _ ho _ hchange
      cases hchange with
      | skipped => exact ho
      | registered x now => exact ho.handleConnect _
      | released x => exact ho.handleDisconnect _
    · intro o e w _ ho hok hp
      exact ho.progress hok hp
  exact (hcovered _ hclaim).resolve_right (hidle.not_awaits .subscribe)

def sample : Runtime := ⟨.reading [], fun n => String.ofList (List.replicate n 'x')⟩

def joins (clientId : ClientId) : ReplicaEvent :=
  .ws (.connect ⟨0, some "u", some clientId, .fin 3600000⟩ 0 0)

theorem no_lost_subscription_rejoining :
    ((system sample).run [joins "a", .topic (.reject 0), .topic (.wake 0), .topic .accept,
      .ws (.close 0), joins "b", .topic .accept, .topic .accept]).world.topics.Listens
        (channelFor "u") :=
  no_lost_subscription sample _ (by decide +kernel) "u" (by decide +kernel) (by decide +kernel)

/-- The last session leaves, its UNSUBSCRIBE is rejected and sleeps; a new session subscribes,
and then the UNSUBSCRIBE is tried again. -/
def unsubscribeRetriedLate : List ReplicaEvent :=
  [joins "a", .topic .accept, .ws (.close 0), .topic (.reject 0), joins "b", .topic .accept,
    .topic (.wake 0), .topic .accept]

theorem subscription_lost : ¬ ∀ es u,
    ((system sample).run es).world.topics.Idle (channelFor u) →
      channelFor u ∈ ((system sample).run es).world.topics.subscribed →
        ((system sample).run es).world.topics.Listens (channelFor u) := by
  intro h
  have hlistens := h unsubscribeRetriedLate "u" (by decide +kernel) (by decide +kernel)
  exact absurd hlistens (by decide +kernel)

def Leashed (w : UserTopicService) : Prop :=
  ∀ ch, w.Listens ch → ch ∈ w.subscribed ∨ w.Awaits .unsubscribe ch

def ClaimsOwned (o : Observed UserTopicService) : Prop :=
  ∀ ch ∈ o.world.subscribed, ∃ u, ch = channelFor u ∧ 0 < o.registry.countUserSessions u

/-- No SUBSCRIBE takes effect on an unclaimed channel, and none gives up the claim of a channel
with a listener, unless an UNSUBSCRIBE is to follow. -/
def NoStraySubscribe (o : Observed UserTopicService) : Move ⊕ TopicEvent → Prop
  | .inr .accept => ∀ call ∈ o.world.calls.head?, call.task.op = .subscribe →
      call.task.channel ∈ o.world.subscribed ∨ o.world.Awaits .unsubscribe call.task.channel
  | .inr (.reject i) => ∀ call ∈ o.world.calls[i]?, call.task.op = .subscribe →
      TOPIC_RETRY.afterFailure call.task.attempt = .giveUp → o.world.Listens call.task.channel →
        o.world.Awaits .unsubscribe call.task.channel
  | _ => True

instance (o : Observed UserTopicService) : ∀ a, Decidable (NoStraySubscribe o a)
  | .inr .accept => inferInstanceAs (Decidable (∀ call ∈ o.world.calls.head?, _ → _))
  | .inr (.reject i) => inferInstanceAs (Decidable (∀ call ∈ o.world.calls[i]?, _ → _ → _ → _))
  | .inr (.wake _) | .inl _ => .isTrue trivial

theorem ClaimsOwned.change {rt : Runtime} {o o' : Observed UserTopicService} {m : Move}
    (hv : o.registry.Valid) (h : ClaimsOwned o) (hc : Observed.Change rt.topicDeps o m o') :
    ClaimsOwned o' := by
  cases hc with
  | skipped => exact h
  | registered x now hfresh =>
    intro ch hch
    have hcount := Registry.countUserSessions_enroll hv hfresh
    rcases mem_subscribed_handleConnect.mp hch with hch | rfl
    · obtain ⟨u, rfl, hu⟩ := h ch hch
      exact ⟨u, rfl, by rw [Observed.tell, hcount]; omega⟩
    · exact ⟨x.userId, rfl, by rw [Observed.tell, hcount]; simp⟩
  | released x hheld =>
    intro ch hch
    have hcount := Registry.countUserSessions_drop hv hheld
    obtain ⟨hold, hnot⟩ := mem_subscribed_handleDisconnect.mp hch
    obtain ⟨u, rfl, hu⟩ := h ch hold
    refine ⟨u, rfl, ?_⟩
    change 0 < (o.registry.drop x).countUserSessions u
    by_cases hux : u = x.userId
    · subst hux
      by_contra hzero
      exact hnot ⟨Nat.eq_zero_of_not_pos hzero, rfl⟩
    · have := hcount u
      rw [if_neg hux] at this
      omega

theorem subscribed_progress {w w' : UserTopicService} {e : TopicEvent} (hp : Progress w e w')
    {ch : String} (h : ch ∈ w'.subscribed) : ch ∈ w.subscribed := by
  cases hp with
  | gaveUp i call hi hspent =>
    unfold absorb at h
    dsimp only at h
    split at h
    · exact (OrderedSet.mem_delete.mp h).2
    · exact h
  | _ => exact h

theorem claimsOwned_run (rt : Runtime) (as : List (Move ⊕ TopicEvent)) :
    ClaimsOwned ((Observed.inWorld rt.topicDeps UserTopicService.step .start).run as) :=
  Observed.invariant_inWorld (fun ch hch => absurd hch (OrderedSet.not_mem_empty ch))
    (fun _ _ _ hv h hc => h.change hv hc)
    (fun o e _ h ch hch => h ch (subscribed_progress (progress_step o.world e) hch)) as

theorem Leashed.handleConnect {w : UserTopicService} (h : Leashed w)
    (event : SessionLifecycleEvent) : Leashed (w.handleConnect event) := by
  intro ch hl
  rw [Listens, listeners_handleConnect] at hl
  rw [mem_subscribed_handleConnect, awaits_handleConnect]
  rcases h ch hl with hc | ha
  · exact .inl (.inl hc)
  · exact .inr (.inl ha)

theorem Leashed.handleDisconnect {w : UserTopicService} (h : Leashed w)
    (event : SessionLifecycleEvent) : Leashed (w.handleDisconnect event) := by
  intro ch hl
  rw [Listens, listeners_handleDisconnect] at hl
  rw [mem_subscribed_handleDisconnect, awaits_handleDisconnect]
  rcases h ch hl with hc | ha
  · by_cases hlast : event.userSessionCount = 0 ∧ ch = channelFor event.userId
    · obtain ⟨hcount, rfl⟩ := hlast
      exact .inr (.inr ⟨hcount, hc, rfl, rfl⟩)
    · exact .inl ⟨hc, hlast⟩
  · exact .inr (.inl ha)

theorem Leashed.progress {o : Observed UserTopicService} {e : TopicEvent} {w : UserTopicService}
    (h : Leashed o.world) (hok : NoStraySubscribe o (.inr e)) (hp : Progress o.world e w)
    (hexhausted : ∀ task ∈ w.exhausted, task.op = .subscribe) : Leashed w := by
  cases hp with
  | idle => exact h
  | accepted call rest hcalls =>
    intro ch hl
    have hok : call.task.op = .subscribe → call.task.channel ∈ o.world.subscribed ∨
        o.world.Awaits .unsubscribe call.task.channel := hok call (by simp [hcalls])
    rw [Listens, listens_applyCall] at hl
    cases hop : call.task.op with
    | subscribe =>
      have hkeep : ∀ {ch}, o.world.Awaits .unsubscribe ch →
          Awaits { o.world with calls := rest, listeners := applyCall o.world.listeners call }
            .unsubscribe ch := fun ha => awaits_accepted hcalls _ ha (by simp [hop])
      rw [hop, if_pos rfl] at hl
      rcases hl with hl | rfl
      · exact (h ch hl).imp_right hkeep
      · exact (hok hop).imp_right hkeep
    | unsubscribe =>
      rw [hop, if_neg (by simp)] at hl
      exact (h ch hl.1).imp_right fun ha => awaits_accepted hcalls _ ha fun hc => hl.2 hc.2
  | retried i call hi hleft =>
    intro ch hl
    rw [awaits_retried hi]
    exact h ch hl
  | gaveUp i call hi hspent =>
    have hop : call.task.op = .subscribe := hexhausted call.task (by simp [absorb])
    have hkeep : ∀ {ch}, o.world.Awaits .unsubscribe ch →
        (absorb call.task { o.world with calls := o.world.calls.eraseIdx i }).Awaits
          .unsubscribe ch := fun ha => awaits_gaveUp hi ha (by simp [hop])
    have hok : o.world.Listens call.task.channel →
        o.world.Awaits .unsubscribe call.task.channel := hok call hi hop hspent
    intro ch hl
    by_cases hsame : ch = call.task.channel
    · subst hsame
      exact .inr (hkeep (hok hl))
    · refine (h ch hl).imp (fun hc => ?_) hkeep
      simpa [absorb, hop] using ⟨hsame, hc⟩
  | woken i task hi =>
    intro ch hl
    rw [awaits_woken hi]
    exact h ch hl

theorem exhausted_progress {w w' : UserTopicService} {e : TopicEvent} (hp : Progress w e w') :
    w.exhausted <+: w'.exhausted := by
  cases hp with
  | gaveUp i call hi hspent => exact List.prefix_append _ _
  | _ => exact List.prefix_refl _

/-- As long as no SUBSCRIBE strays and no UNSUBSCRIBE gives up, a user without sessions leaves
no listener behind. -/
theorem no_leaked_subscription (rt : Runtime) (es : List ReplicaEvent)
    (h : (system rt).Along (TopicGuard rt NoStraySubscribe) es)
    (hexhausted : ∀ task ∈ ((system rt).run es).world.topics.exhausted, task.op = .subscribe)
    (u : UserId) (hgone : ((system rt).run es).registry.ownedSessions u = [])
    (hidle : ((system rt).run es).world.topics.Idle (channelFor u)) :
    ¬ ((system rt).run es).world.topics.Listens (channelFor u) := by
  have hleashed : Leashed (topicView ((system rt).run es)).world := by
    refine topic_invariant_along (G := NoStraySubscribe)
      (P := fun o => (∀ task ∈ o.world.exhausted, task.op = .subscribe) → Leashed o.world)
      (fun _ ch hl => by simp [Listens, UserTopicService.start] at hl) ?_ ?_ h hexhausted
    · intro o m o' _ ho _ hchange
      cases hchange with
      | skipped => exact ho
      | registered x now =>
        intro hex
        exact (ho (by simpa using hex)).handleConnect _
      | released x =>
        intro hex
        exact (ho (by simpa using hex)).handleDisconnect _
    · intro o e w _ ho hok hp hex
      exact (ho fun task ht => hex task ((exhausted_progress hp).subset ht)).progress hok hp hex
  have howned : ClaimsOwned (topicView ((system rt).run es)) :=
    (topicRefinement rt).invariant (claimsOwned_run rt) es
  intro hl
  rcases hleashed _ hl with hclaim | ha
  · obtain ⟨v, hv, hcount⟩ := howned _ hclaim
    obtain rfl := channelFor_inj.mp hv
    have hzero := (Registry.ownedSessions_eq_nil_iff (topicView_valid rt es)).mp hgone
    exact absurd hzero (Nat.ne_of_gt hcount)
  · exact hidle.not_awaits .unsubscribe ha

theorem no_leaked_subscription_retrying :
    ¬ ((system sample).run [joins "a", .topic (.reject 0), .topic (.wake 0), .topic .accept,
      .ws (.close 0), .topic (.reject 0), .topic (.wake 0), .topic .accept]).world.topics.Listens
        (channelFor "u") :=
  no_leaked_subscription sample _ (by decide +kernel) (by decide +kernel) "u" (by decide +kernel)
    (by decide +kernel)

def subscribeRetriedLate : List ReplicaEvent :=
  [joins "a", .topic (.reject 0), .ws (.close 0), .topic .accept, .topic (.wake 0), .topic .accept]

theorem subscription_leaked : ¬ ∀ es u,
    (∀ task ∈ ((system sample).run es).world.topics.exhausted, task.op = .subscribe) →
      ((system sample).run es).registry.ownedSessions u = [] →
        ((system sample).run es).world.topics.Idle (channelFor u) →
          ¬ ((system sample).run es).world.topics.Listens (channelFor u) := by
  intro h
  have hlistens := h subscribeRetriedLate "u" (by decide +kernel) (by decide +kernel)
    (by decide +kernel)
  exact absurd hlistens (by decide +kernel)

end NestBackend.Replica
