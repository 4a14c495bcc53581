import NestBackend.Replica.Ownership
import NestBackend.Replica.Steady

namespace NestBackend

open NestBackend.Js
open NestBackend.Lib
open NestBackend.UserTopics
open NestBackend.UserTopics.UserTopicService
open NestBackend.Ws

namespace Replica

def SucceedsOn (ch : String) (o : Observed UserTopicService) : Move ⊕ TopicEvent → Prop
  | .inr (.reject i) => ∀ call ∈ o.world.calls[i]?, call.task.channel ≠ ch
  | _ => True

instance (ch : String) (o : Observed UserTopicService) : ∀ a, Decidable (SucceedsOn ch o a)
  | .inr (.reject i) => inferInstanceAs (Decidable (∀ call ∈ o.world.calls[i]?, _))
  | .inr .accept | .inr (.wake _) | .inl _ => .isTrue trivial

/-- The claim on a user's channel follows the user's sessions, and the channel has `rest` more
listeners to come than its claim asks for. -/
structure Tracked (u : UserId) (rest : Nat) (o : Observed UserTopicService) : Prop where
  awake : ∀ task ∈ o.world.sleeping, task.channel ≠ channelFor u
  claimed : channelFor u ∈ o.world.subscribed ↔ 0 < o.registry.countUserSessions u
  expected : o.world.expectedOn (channelFor u) =
    if channelFor u ∈ o.world.subscribed then rest + 1 else rest

/-- From `n` sessions to `n'`, what was left behind is gone, or it is all there still and the
last session has not ended. -/
def Sheds (n rest n' rest' : Nat) : Prop := rest' = 0 ∨ rest' = rest ∧ (0 < n' ∨ n = 0)

theorem Sheds.refl (n rest : Nat) : Sheds n rest n rest := by
  unfold Sheds
  omega

theorem Sheds.trans {n n' n'' rest rest' rest'' : Nat} (h : Sheds n rest n' rest')
    (h' : Sheds n' rest' n'' rest'') : Sheds n rest n'' rest'' := by
  unfold Sheds at *
  omega

theorem tally_ne {ch : String} {call : SubscriberCall} (h : call.task.channel ≠ ch) (n : Nat) :
    tally ch n call = n := if_neg h

theorem expectedOn_connect (w : UserTopicService) (event : SessionLifecycleEvent) (ch : String) :
    (w.handleConnect event).expectedOn ch = w.expectedOn ch +
      if ch = channelFor event.userId ∧ ch ∉ w.subscribed then 1 else 0 := by
  by_cases hc : channelFor event.userId ∈ w.subscribed
  · rw [handleConnect_claimed hc, if_neg]
    · rfl
    · rintro ⟨rfl, hout⟩
      exact hout hc
  · rw [handleConnect_unclaimed hc, expectedOn_attempt]
    change tally ch (w.expectedOn ch) _ = _
    by_cases hch : ch = channelFor event.userId
    · subst hch
      simp [tally, hc]
    · rw [tally_ne (Ne.symm hch), if_neg (fun h => hch h.1), Nat.add_zero]

theorem expectedOn_disconnect (w : UserTopicService) (event : SessionLifecycleEvent)
    (ch : String) : (w.handleDisconnect event).expectedOn ch =
      if event.userSessionCount = 0 ∧ ch = channelFor event.userId ∧ ch ∈ w.subscribed then 0
      else w.expectedOn ch := by
  by_cases hc : event.userSessionCount > 0 ∨ channelFor event.userId ∉ w.subscribed
  · rw [handleDisconnect_kept hc, if_neg]
    · rfl
    · rintro ⟨hcount, rfl, hmem⟩
      exact hc.elim (fun h => by omega) fun hout => hout hmem
  · obtain ⟨hcount, hmem⟩ := not_or.mp hc
    rw [handleDisconnect_last (by omega) (not_not.mp hmem), expectedOn_attempt]
    change tally ch (w.expectedOn ch) _ = _
    by_cases hch : ch = channelFor event.userId
    · subst hch
      rw [if_pos ⟨by omega, rfl, not_not.mp hmem⟩]
      simp [tally]
    · rw [tally_ne (Ne.symm hch), if_neg (fun h => hch h.2.1)]

theorem drain_tally_eraseIdx {ch : String} {calls : List SubscriberCall} {i : Nat}
    {call : SubscriberCall} (hi : calls[i]? = some call) (h : call.task.channel ≠ ch) (n : Nat) :
    Backlog.drain (tally ch) n (calls.eraseIdx i) = Backlog.drain (tally ch) n calls := by
  have hcommutes : ∀ q ∈ calls.take i, Backlog.Commutes (tally ch) call q := by
    intro q _ m
    rw [tally_ne h, tally_ne h]
  rw [← Backlog.drain_eraseIdx hi hcommutes n, tally_ne h]

namespace Tracked

variable {rt : Runtime} {u : UserId} {rest : Nat} {o : Observed UserTopicService}

theorem registered (h : Tracked u rest o) (hv : o.registry.Valid) {x : Session} (now : ℚ)
    (hfresh : o.registry.sessions.lookup x.clientId = none) :
    Tracked u rest (o.tell rt.topicDeps x (.connect now) (o.registry.enroll x)) where
  awake := by
    rw [world_tell_connect, sleeping_handleConnect]
    exact h.awake
  claimed := by
    have hcount := Registry.countUserSessions_enroll hv hfresh u
    rw [world_tell_connect, mem_subscribed_handleConnect, h.claimed]
    change _ ↔ 0 < (o.registry.enroll x).countUserSessions u
    rw [hcount, userId_lifecycleEvent, channelFor_inj]
    split <;> simp_all
  expected := by
    rw [world_tell_connect, expectedOn_connect, h.expected, userId_lifecycleEvent]
    have hmem : channelFor u ∈ (o.world.handleConnect
        (WsService.lifecycleEvent (o.registry.enroll x) x)).subscribed ↔
          channelFor u ∈ o.world.subscribed ∨ channelFor u = channelFor x.userId :=
      mem_subscribed_handleConnect
    by_cases hc : channelFor u ∈ o.world.subscribed
    · rw [if_pos hc, if_neg (fun hno => hno.2 hc), if_pos (hmem.mpr (.inl hc))]
    · by_cases hu : channelFor u = channelFor x.userId
      · rw [if_neg hc, if_pos ⟨hu, hc⟩, if_pos (hmem.mpr (.inr hu))]
      · rw [if_neg hc, if_neg (fun hno => hu hno.1), if_neg (fun hin => (hmem.mp hin).elim hc hu),
          Nat.add_zero]

theorem released (h : Tracked u rest o) (hv : o.registry.Valid) {x : Session}
    (hheld : o.registry.sessions.lookup x.clientId = some x) :
    ∃ rest', Tracked u rest' (o.tell rt.topicDeps x .disconnect (o.registry.drop x)) ∧
      Sheds (o.registry.countUserSessions u) rest
        ((o.registry.drop x).countUserSessions u) rest' := by
  have hcount := Registry.countUserSessions_drop hv hheld u
  have hmem : channelFor u ∈ (o.world.handleDisconnect
      (WsService.lifecycleEvent (o.registry.drop x) x)).subscribed ↔
        channelFor u ∈ o.world.subscribed ∧ ¬ ((o.registry.drop x).countUserSessions x.userId = 0 ∧
          channelFor u = channelFor x.userId) := mem_subscribed_handleDisconnect
  have hexpected : (o.world.handleDisconnect
      (WsService.lifecycleEvent (o.registry.drop x) x)).expectedOn (channelFor u) =
        if (o.registry.drop x).countUserSessions x.userId = 0 ∧
          channelFor u = channelFor x.userId ∧ channelFor u ∈ o.world.subscribed then 0
        else o.world.expectedOn (channelFor u) := expectedOn_disconnect ..
  rw [channelFor_inj] at hmem
  have hawake : ∀ task ∈ (o.world.handleDisconnect
      (WsService.lifecycleEvent (o.registry.drop x) x)).sleeping,
      task.channel ≠ channelFor u := by
    rw [sleeping_handleDisconnect]
    exact h.awake
  by_cases hlast : u = x.userId ∧ (o.registry.drop x).countUserSessions u = 0
  · obtain ⟨rfl, hzero⟩ := hlast
    have hclaim : channelFor x.userId ∈ o.world.subscribed :=
      h.claimed.mpr (by simp at hcount; omega)
    have hout : channelFor x.userId ∉ (o.world.handleDisconnect
        (WsService.lifecycleEvent (o.registry.drop x) x)).subscribed := fun hin =>
      (hmem.mp hin).2 ⟨hzero, rfl⟩
    refine ⟨0, ⟨hawake, iff_of_false hout ?_, ?_⟩, .inl rfl⟩
    · exact not_lt.mpr hzero.le
    · exact (hexpected.trans (if_pos ⟨hzero, rfl, hclaim⟩)).trans (if_neg hout).symm
  · have hkept : channelFor u ∈ (o.world.handleDisconnect
        (WsService.lifecycleEvent (o.registry.drop x) x)).subscribed ↔
          channelFor u ∈ o.world.subscribed := by
      rw [hmem, and_iff_left]
      rintro ⟨hzero, rfl⟩
      exact hlast ⟨rfl, hzero⟩
    have hsessions : 0 < (o.registry.drop x).countUserSessions u ↔
        0 < o.registry.countUserSessions u := by
      by_cases hu : u = x.userId
      · rw [if_pos hu] at hcount
        have : (o.registry.drop x).countUserSessions u ≠ 0 := fun hzero => hlast ⟨hu, hzero⟩
        omega
      · rw [if_neg hu] at hcount
        omega
    refine ⟨rest, ⟨hawake, hkept.trans (h.claimed.trans hsessions.symm), ?_⟩, .inr ⟨rfl, ?_⟩⟩
    · refine hexpected.trans ?_
      have hnot : ¬ ((o.registry.drop x).countUserSessions x.userId = 0 ∧
          channelFor u = channelFor x.userId ∧ channelFor u ∈ o.world.subscribed) := by
        rintro ⟨hzero, hch, -⟩
        obtain rfl := channelFor_inj.mp hch
        exact hlast ⟨rfl, hzero⟩
      rw [if_neg hnot, h.expected]
      exact if_congr hkept.symm rfl rfl
    · omega

theorem change (h : Tracked u rest o) (hv : o.registry.Valid) {m : Move}
    {o' : Observed UserTopicService} (hc : Observed.Change rt.topicDeps o m o') :
    ∃ rest', Tracked u rest' o' ∧ Sheds (o.registry.countUserSessions u) rest
      (o'.registry.countUserSessions u) rest' := by
  cases hc with
  | skipped => exact ⟨rest, h, .refl _ _⟩
  | registered x now hfresh =>
    refine ⟨rest, h.registered hv now hfresh, .inr ⟨rfl, ?_⟩⟩
    have hcount := Registry.countUserSessions_enroll hv hfresh u
    change 0 < (o.registry.enroll x).countUserSessions u ∨ _
    omega
  | released x hheld => exact h.released hv hheld

theorem progress (h : Tracked u rest o) {e : TopicEvent} {w : UserTopicService}
    (hok : SucceedsOn (channelFor u) o (.inr e)) (hp : Progress o.world e w) :
    Tracked u rest { o with world := w } := by
  cases hp with
  | idle => exact h
  | accepted call calls hcalls =>
    refine ⟨h.awake, h.claimed, ?_⟩
    refine Eq.trans ?_ h.expected
    rw [expectedOn, expectedOn, hcalls, Backlog.drain_cons, listenersOn, listenersOn,
      countP_applyCall]
  | retried i call hi hleft =>
    have hother : call.task.channel ≠ channelFor u := hok call hi
    refine ⟨fun task hmem => ?_, h.claimed, ?_⟩
    · rcases List.mem_append.mp hmem with hmem | hmem
      · exact h.awake task hmem
      · obtain rfl := List.mem_singleton.mp hmem
        exact hother
    · exact (drain_tally_eraseIdx hi hother _).trans h.expected
  | gaveUp i call hi hspent =>
    have hother : call.task.channel ≠ channelFor u := hok call hi
    have hmem : channelFor u ∈ (absorb call.task { o.world with
        calls := o.world.calls.eraseIdx i }).subscribed ↔ channelFor u ∈ o.world.subscribed := by
      unfold absorb
      dsimp only
      split
      · simp [Ne.symm hother]
      · rfl
    refine ⟨h.awake, hmem.trans h.claimed, ?_⟩
    refine ((drain_tally_eraseIdx hi hother _).trans h.expected).trans ?_
    exact if_congr hmem.symm rfl rfl
  | woken i task hi =>
    have hother : task.channel ≠ channelFor u := h.awake task (List.mem_of_getElem? hi)
    refine ⟨fun t hmem => h.awake t (List.eraseIdx_subset hmem), h.claimed, ?_⟩
    refine Eq.trans ?_ h.expected
    rw [expectedOn_attempt]
    exact tally_ne hother _

theorem runFrom (h : Tracked u rest o) (hv : o.registry.Valid) {as : List (Move ⊕ TopicEvent)}
    (halong : (Observed.inWorld rt.topicDeps UserTopicService.step .start).AlongFrom
      (SucceedsOn (channelFor u)) o as) :
    let o' := (Observed.inWorld rt.topicDeps UserTopicService.step .start).runFrom o as
    ∃ rest', Tracked u rest' o' ∧ Sheds (o.registry.countUserSessions u) rest
      (o'.registry.countUserSessions u) rest' := by
  induction as generalizing o rest with
  | nil => exact ⟨rest, h, .refl _ _⟩
  | cons a as ih =>
    have hv' : ((Observed.inWorld rt.topicDeps UserTopicService.step .start).step o
        a).registry.Valid := Observed.valid_step_inWorld hv a
    obtain ⟨rest', h', hsheds⟩ : ∃ rest', Tracked u rest'
        ((Observed.inWorld rt.topicDeps UserTopicService.step .start).step o a) ∧
        Sheds (o.registry.countUserSessions u) rest (((Observed.inWorld rt.topicDeps
          UserTopicService.step .start).step o a).registry.countUserSessions u) rest' := by
      cases a with
      | inl m => exact h.change hv (Observed.change_move hv m)
      | inr e => exact ⟨rest, h.progress halong.1 (progress_step o.world e), .refl _ _⟩
    obtain ⟨rest'', h'', hsheds'⟩ := ih h' hv' halong.2
    exact ⟨rest'', h'', hsheds.trans hsheds'⟩

theorem of_quiet {rt : Runtime} {es : List ReplicaEvent}
    (hgone : ((system rt).run es).registry.countUserSessions u = 0)
    (hidle : ((system rt).run es).world.topics.Idle (channelFor u)) :
    Tracked u (((system rt).run es).world.topics.listenersOn (channelFor u))
      (topicView ((system rt).run es)) := by
  have hclaims : ClaimsOwned (topicView ((system rt).run es)) :=
    (topicRefinement rt).invariant (claimsOwned_run rt) es
  have hout : channelFor u ∉ ((system rt).run es).world.topics.subscribed := by
    intro hclaim
    obtain ⟨v, hv, hcount⟩ := hclaims _ hclaim
    obtain rfl := channelFor_inj.mp hv
    exact absurd hgone (Nat.ne_of_gt hcount)
  refine ⟨fun task hmem => hidle task (mem_pending.mpr (.inr hmem)), ?_, ?_⟩
  · exact iff_of_false hout (Nat.not_lt.mpr hgone.le)
  · exact (listenersOn_of_idle hidle).symm.trans (if_neg hout).symm

end Tracked

def SingleOn (ch : String) (w : UserTopicService) : Prop :=
  AtMostOne ch (w.listenersOn ch) w.calls

namespace SingleOn

variable {ch : String} {w : UserTopicService}

theorem of_idle (hidle : w.Idle ch) (h : w.listenersOn ch ≤ 1) : SingleOn ch w := by
  have hcalls : ∀ call ∈ w.calls, call.task.channel ≠ ch := fun call hmem =>
    hidle call.task (mem_pending.mpr (.inl ⟨call, hmem, rfl⟩))
  unfold SingleOn
  generalize w.listenersOn ch = n at h
  generalize w.calls = calls at hcalls
  induction calls with
  | nil => exact h
  | cons call calls ih =>
    refine ⟨h, ?_⟩
    rw [tally_ne (hcalls call List.mem_cons_self)]
    exact ih fun c hc => hcalls c (List.mem_cons_of_mem _ hc)

theorem attempt (h : SingleOn ch w) (task : TopicOp)
    (hok : task.channel = ch → task.op = .subscribe → w.expectedOn ch = 0) :
    SingleOn ch (w.attempt task) := by
  refine AtMostOne.append_iff.mpr ⟨h, ?_⟩
  have hdrained : w.expectedOn ch ≤ 1 := AtMostOne.drained h
  change tally ch (w.expectedOn ch) ⟨task, w.closures⟩ ≤ 1
  unfold tally
  split
  · next hch =>
    cases hop : task.op with
    | subscribe => simp [hok hch hop]
    | unsubscribe => simp
  · exact hdrained

theorem handleConnect (h : SingleOn ch w) {event : SessionLifecycleEvent}
    (hok : ch ∉ w.subscribed → w.expectedOn ch = 0) : SingleOn ch (w.handleConnect event) := by
  by_cases hc : channelFor event.userId ∈ w.subscribed
  · rw [handleConnect_claimed hc]
    exact h
  · rw [handleConnect_unclaimed hc]
    refine attempt (w := { w with subscribed := _, heard := _ }) h _ fun hch _ => ?_
    have hch : channelFor event.userId = ch := hch
    exact hok fun hmem => hc (hch ▸ hmem)

theorem handleDisconnect (h : SingleOn ch w) (event : SessionLifecycleEvent) :
    SingleOn ch (w.handleDisconnect event) := by
  by_cases hc : event.userSessionCount > 0 ∨ channelFor event.userId ∉ w.subscribed
  · rw [handleDisconnect_kept hc]
    exact h
  · obtain ⟨hcount, hmem⟩ := not_or.mp hc
    rw [handleDisconnect_last (by omega) (not_not.mp hmem)]
    exact attempt (w := { w with subscribed := _, heard := _ }) h _ (by simp)

theorem progress {o : Observed UserTopicService} (h : SingleOn ch o.world)
    (hawake : ∀ task ∈ o.world.sleeping, task.channel ≠ ch) {e : TopicEvent}
    {w : UserTopicService} (hok : SucceedsOn ch o (.inr e)) (hp : Progress o.world e w) :
    SingleOn ch w := by
  have herased : ∀ {i : Nat} {call : SubscriberCall}, o.world.calls[i]? = some call →
      call.task.channel ≠ ch → AtMostOne ch (o.world.listenersOn ch) (o.world.calls.eraseIdx i) :=
    fun hi hother => AtMostOne.eraseIdx h hi fun _ hch => absurd hch hother
  cases hp with
  | idle => exact h
  | accepted call rest hcalls =>
    rw [SingleOn, hcalls] at h
    have hnext := h.2
    rwa [listenersOn, ← countP_applyCall] at hnext
  | retried i call hi hleft => exact herased hi (hok call hi)
  | gaveUp i call hi hspent => exact herased hi (hok call hi)
  | woken i task hi =>
    exact attempt (w := { o.world with sleeping := _ }) h _ fun hch =>
      absurd hch (hawake task (List.mem_of_getElem? hi))

theorem change {rt : Runtime} {u : UserId} {o o' : Observed UserTopicService} {m : Move}
    (h : SingleOn (channelFor u) o.world) (ht : Tracked u 0 o)
    (hc : Observed.Change rt.topicDeps o m o') : SingleOn (channelFor u) o'.world := by
  cases hc with
  | skipped => exact h
  | registered x now hfresh => exact h.handleConnect fun hout => ht.expected.trans (if_neg hout)
  | released x hheld => exact h.handleDisconnect _

theorem runFrom {rt : Runtime} {u : UserId} {o : Observed UserTopicService}
    (h : SingleOn (channelFor u) o.world) (ht : Tracked u 0 o) (hv : o.registry.Valid)
    {as : List (Move ⊕ TopicEvent)}
    (halong : (Observed.inWorld rt.topicDeps UserTopicService.step .start).AlongFrom
      (SucceedsOn (channelFor u)) o as) : SingleOn (channelFor u)
        ((Observed.inWorld rt.topicDeps UserTopicService.step .start).runFrom o as).world := by
  induction as generalizing o with
  | nil => exact h
  | cons a as ih =>
    have hv' : ((Observed.inWorld rt.topicDeps UserTopicService.step .start).step o
        a).registry.Valid := Observed.valid_step_inWorld hv a
    cases a with
    | inl m =>
      have hc : Observed.Change rt.topicDeps o m (o.move rt.topicDeps m) :=
        Observed.change_move hv m
      obtain ⟨rest', ht', hsheds⟩ := ht.change hv hc
      obtain rfl : rest' = 0 := by
        unfold Sheds at hsheds
        omega
      exact ih (h.change ht hc) ht' hv' halong.2
    | inr e =>
      have hp := progress_step o.world e
      exact ih (h.progress ht.awake halong.1 hp) (ht.progress halong.1 hp) hv' halong.2

end SingleOn

theorem topicView_append (rt : Runtime) (es fs : List ReplicaEvent) :
    topicView ((system rt).run (es ++ fs)) =
      (Observed.inWorld rt.topicDeps UserTopicService.step .start).runFrom
        (topicView ((system rt).run es))
        ((topicRefinement rt).eventsFrom ((system rt).run es) fs) := by
  rw [System.run_append]
  exact (topicRefinement rt).abs_runFrom _ _

theorem tracked_append {rt : Runtime} {es fs : List ReplicaEvent} {u : UserId} {rest : Nat}
    (h : Tracked u rest (topicView ((system rt).run es)))
    (halong : (system rt).AlongFrom (TopicGuard rt (SucceedsOn (channelFor u)))
      ((system rt).run es) fs) :
    ∃ rest', Tracked u rest' (topicView ((system rt).run (es ++ fs))) ∧
      Sheds (((system rt).run es).registry.countUserSessions u) rest
        (((system rt).run (es ++ fs)).registry.countUserSessions u) rest' := by
  have hrun := h.runFrom (topicView_valid rt es)
    ((topicRefinement rt).alongFrom (fun _ _ => id) halong)
  rw [← topicView_append] at hrun
  exact hrun

/-- From whatever state earlier failures have left a user's channel in, once the user has no
session, nothing is pending and no call on the channel is rejected any more: claims follow the
sessions, a user with sessions is listened for, a listener that was left behind goes with the
next session, and from then on there is never more than one. -/
theorem subscription_heals (rt : Runtime) (es fs : List ReplicaEvent) (u : UserId)
    (hgone : ((system rt).run es).registry.countUserSessions u = 0)
    (hidle : ((system rt).run es).world.topics.Idle (channelFor u))
    (halong : (system rt).AlongFrom (TopicGuard rt (SucceedsOn (channelFor u)))
      ((system rt).run es) fs) :
    let t := (system rt).run (es ++ fs)
    (channelFor u ∈ t.world.topics.subscribed ↔ 0 < t.registry.countUserSessions u) ∧
      (t.world.topics.Idle (channelFor u) → 0 < t.registry.countUserSessions u →
        t.world.topics.Listens (channelFor u)) ∧
      (∀ pre, pre <+: fs → 0 < ((system rt).run (es ++ pre)).registry.countUserSessions u →
        t.registry.countUserSessions u = 0 → t.world.topics.Idle (channelFor u) →
          ¬ t.world.topics.Listens (channelFor u)) ∧
      ∀ pre, pre <+: fs → ((system rt).run (es ++ pre)).registry.countUserSessions u = 0 →
        ((system rt).run (es ++ pre)).world.topics.Idle (channelFor u) →
        ¬ ((system rt).run (es ++ pre)).world.topics.Listens (channelFor u) →
          t.world.topics.listenersOn (channelFor u) ≤ 1 := by
  intro t
  have hsplit : ∀ pre, pre <+: fs → ∃ post, es ++ fs = es ++ pre ++ post ∧
      (system rt).AlongFrom (TopicGuard rt (SucceedsOn (channelFor u)))
        ((system rt).run es) pre ∧
      (system rt).AlongFrom (TopicGuard rt (SucceedsOn (channelFor u)))
        ((system rt).run (es ++ pre)) post := by
    rintro pre ⟨post, rfl⟩
    rw [System.alongFrom_append, ← System.run_append] at halong
    exact ⟨post, (List.append_assoc ..).symm, halong⟩
  obtain ⟨rest, ht, -⟩ := tracked_append (Tracked.of_quiet hgone hidle) halong
  have hlistens : t.world.topics.Listens (channelFor u) ↔
      t.world.topics.listenersOn (channelFor u) ≠ 0 := by
    rw [Listens, listenersOn, ← Nat.pos_iff_ne_zero, List.countP_pos_iff]
    simp only [decide_eq_true_eq]
  refine ⟨ht.claimed, fun hquiet hsessions => ?_, fun pre hpre hback hout hquiet => ?_,
    fun pre hpre hnone hquiet hclean => ?_⟩
  · have hexpected := ht.expected
    rw [if_pos (ht.claimed.mpr hsessions)] at hexpected
    rw [hlistens, listenersOn_of_idle hquiet]
    exact fun hzero => absurd (hexpected.symm.trans hzero) (Nat.succ_ne_zero rest)
  · obtain ⟨post, heq, hbeforehand, hpost⟩ := hsplit pre hpre
    obtain ⟨before, hbefore, -⟩ := tracked_append (Tracked.of_quiet hgone hidle) hbeforehand
    obtain ⟨after, hafter, hsheds⟩ := tracked_append hbefore hpost
    rw [← heq] at hafter hsheds
    have hafterzero : after = 0 := by
      change ((system rt).run (es ++ fs)).registry.countUserSessions u = 0 at hout
      unfold Sheds at hsheds
      omega
    have hexpected := hafter.expected
    rw [if_neg (fun hclaim => absurd (hafter.claimed.mp hclaim) (Nat.not_lt.mpr hout.le)),
      hafterzero] at hexpected
    rw [hlistens, not_not, listenersOn_of_idle hquiet]
    exact hexpected
  · obtain ⟨post, heq, -, hpost⟩ := hsplit pre hpre
    have hzero : ((system rt).run (es ++ pre)).world.topics.listenersOn (channelFor u) = 0 := by
      rw [listenersOn, List.countP_eq_zero]
      exact fun l hl hch => hclean ⟨l, hl, by simpa using hch⟩
    have htracked := Tracked.of_quiet hnone hquiet
    rw [hzero] at htracked
    have hsingle : SingleOn (channelFor u) (topicView ((system rt).run (es ++ pre))).world :=
      .of_idle hquiet (hzero.le.trans (Nat.zero_le 1))
    have hrun := hsingle.runFrom htracked (topicView_valid rt _)
      ((topicRefinement rt).alongFrom (fun _ _ => id) hpost)
    rw [← topicView_append, ← heq] at hrun
    exact AtMostOne.now hrun

def listenerLeft : List ReplicaEvent :=
  [joins "a", .topic .accept, .ws (.close 0), .topic (.reject 0), .topic (.wake 0),
    .topic (.reject 0), .topic (.wake 0), .topic (.reject 0), .topic (.wake 0),
    .topic (.reject 0), .topic (.wake 0), .topic (.reject 0)]

example : ((system sample).run listenerLeft).world.topics.listenersOn "user:u" = 1 := by
  decide +kernel

theorem subscription_heals_listenerLeft : ¬ ((system sample).run (listenerLeft ++
    [joins "b", .topic .accept, .ws (.close 1), .topic .accept])).world.topics.Listens "user:u" :=
  (subscription_heals sample listenerLeft
    [joins "b", .topic .accept, .ws (.close 1), .topic .accept] "u" (by decide +kernel)
    (by decide +kernel) (by decide +kernel)).2.2.1 [joins "b"] ⟨_, rfl⟩
    (by decide +kernel) (by decide +kernel) (by decide +kernel)

end Replica

end NestBackend
