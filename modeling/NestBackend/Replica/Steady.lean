import NestBackend.Replica.Listeners

namespace NestBackend

open NestBackend.Js
open NestBackend.Lib
open NestBackend.UserTopics
open NestBackend.UserTopics.UserTopicService
open NestBackend.Ws

namespace Replica

def NoRejection (_ : Observed UserTopicService) : Move ⊕ TopicEvent → Prop
  | .inr (.reject _) => False
  | _ => True

structure Steady (o : Observed UserTopicService) : Prop where
  single : Single o.world
  awake : o.world.sleeping = []
  expected : ∀ ch, o.world.expectedOn ch = if ch ∈ o.world.subscribed then 1 else 0
  claimed : ∀ u, channelFor u ∈ o.world.subscribed ↔ 0 < o.registry.countUserSessions u

theorem expectedOn_attempt (w : UserTopicService) (task : TopicOp) (ch : String) :
    (w.attempt task).expectedOn ch = tally ch (w.expectedOn ch) ⟨task, w.closures⟩ :=
  Backlog.drain_append _ _ _ _

theorem expectedOn_handleConnect {w : UserTopicService}
    (h : ∀ ch, w.expectedOn ch = if ch ∈ w.subscribed then 1 else 0)
    (event : SessionLifecycleEvent) (ch : String) : (w.handleConnect event).expectedOn ch =
      if ch ∈ (w.handleConnect event).subscribed then 1 else 0 := by
  by_cases hc : channelFor event.userId ∈ w.subscribed
  · rw [handleConnect_claimed hc]
    exact h ch
  · rw [handleConnect_unclaimed hc, expectedOn_attempt]
    change tally ch (w.expectedOn ch) _ =
      if ch ∈ w.subscribed.add (channelFor event.userId) then 1 else 0
    rw [h ch]
    by_cases hch : ch = channelFor event.userId
    · subst hch
      simp [tally, hc]
    · simp [tally, hch, Ne.symm hch]

theorem expectedOn_handleDisconnect {w : UserTopicService}
    (h : ∀ ch, w.expectedOn ch = if ch ∈ w.subscribed then 1 else 0)
    (event : SessionLifecycleEvent) (ch : String) : (w.handleDisconnect event).expectedOn ch =
      if ch ∈ (w.handleDisconnect event).subscribed then 1 else 0 := by
  by_cases hc : event.userSessionCount > 0 ∨ channelFor event.userId ∉ w.subscribed
  · rw [handleDisconnect_kept hc]
    exact h ch
  · obtain ⟨hcount, hmem⟩ := not_or.mp hc
    rw [handleDisconnect_last (by omega) (not_not.mp hmem), expectedOn_attempt]
    change tally ch (w.expectedOn ch) _ =
      if ch ∈ w.subscribed.delete (channelFor event.userId) then 1 else 0
    rw [h ch]
    by_cases hch : ch = channelFor event.userId
    · subst hch
      simp [tally]
    · simp [tally, hch, Ne.symm hch]

theorem Steady.registered {rt : Runtime} {o : Observed UserTopicService} (h : Steady o)
    (hv : o.registry.Valid) {x : Session} (now : ℚ)
    (hfresh : o.registry.sessions.lookup x.clientId = none) :
    Steady (o.tell rt.topicDeps x (.connect now) (o.registry.enroll x)) where
  single := h.single.handleConnect fun hout => by rw [h.expected, if_neg hout]
  awake := by
    rw [world_tell_connect, sleeping_handleConnect]
    exact h.awake
  expected := expectedOn_handleConnect h.expected _
  claimed := by
    intro u
    have hcount := Registry.countUserSessions_enroll hv hfresh u
    rw [world_tell_connect, mem_subscribed_handleConnect, h.claimed]
    change _ ↔ 0 < (o.registry.enroll x).countUserSessions u
    rw [hcount, userId_lifecycleEvent, channelFor_inj]
    split <;> simp_all

theorem Steady.released {rt : Runtime} {o : Observed UserTopicService} (h : Steady o)
    (hv : o.registry.Valid) {x : Session}
    (hheld : o.registry.sessions.lookup x.clientId = some x) :
    Steady (o.tell rt.topicDeps x .disconnect (o.registry.drop x)) where
  single := h.single.handleDisconnect _
  awake := by
    rw [world_tell_disconnect, sleeping_handleDisconnect]
    exact h.awake
  expected := expectedOn_handleDisconnect h.expected _
  claimed := by
    intro u
    have hcount := Registry.countUserSessions_drop hv hheld u
    have hevent : (WsService.lifecycleEvent (o.registry.drop x) x).userSessionCount =
        (o.registry.drop x).countUserSessions x.userId := rfl
    rw [world_tell_disconnect, mem_subscribed_handleDisconnect, h.claimed, hevent,
      userId_lifecycleEvent, channelFor_inj]
    change _ ↔ 0 < (o.registry.drop x).countUserSessions u
    by_cases hux : u = x.userId
    · subst hux
      rw [if_pos rfl] at hcount
      constructor
      · rintro ⟨-, hnot⟩
        exact Nat.pos_of_ne_zero fun hzero => hnot ⟨hzero, rfl⟩
      · intro hpos
        exact ⟨by omega, fun hzero => absurd hzero.1 (by omega)⟩
    · rw [if_neg hux, Nat.add_zero] at hcount
      simp [hux, hcount]

theorem Steady.progress {o : Observed UserTopicService} {e : TopicEvent} {w : UserTopicService}
    (h : Steady o) (hok : NoRejection o (.inr e)) (hp : Progress o.world e w) :
    Steady { o with world := w } := by
  cases hp with
  | idle => exact h
  | accepted call rest hcalls =>
    have hsingle := h.single.progress (o := o) (e := .accept) trivial (.accepted call rest hcalls)
    refine ⟨hsingle, h.awake, ?_, h.claimed⟩
    intro ch
    rw [← h.expected ch, expectedOn, expectedOn, hcalls, Backlog.drain_cons, listenersOn,
      listenersOn, countP_applyCall]
  | retried i => exact hok.elim
  | gaveUp i => exact hok.elim
  | woken i task hi => simp [h.awake] at hi

theorem steady_run {rt : Runtime} {es : List ReplicaEvent}
    (h : (system rt).Along (TopicGuard rt NoRejection) es) :
    Steady (topicView ((system rt).run es)) := by
  refine topic_invariant_along (G := NoRejection) ?_ ?_
    (fun o e w _ ho hok hp => ho.progress hok hp) h
  · exact ⟨fun _ => Nat.zero_le 1, rfl, fun ch => rfl, fun u => by
      simp [UserTopicService.start, Registry.countUserSessions, Registry.empty]⟩
  · intro o m o' hv ho _ hc
    cases hc with
    | skipped => exact ho
    | registered x now hfresh => exact ho.registered hv now hfresh
    | released x hheld => exact ho.released hv hheld

theorem listenersOn_of_idle {w : UserTopicService} {ch : String} (h : w.Idle ch) :
    w.listenersOn ch = w.expectedOn ch := by
  have hcalls : ∀ call ∈ w.calls, call.task.channel ≠ ch := fun call hmem =>
    h call.task (mem_pending.mpr (.inl ⟨call, hmem, rfl⟩))
  unfold expectedOn
  generalize w.listenersOn ch = n
  generalize w.calls = calls at hcalls
  induction calls with
  | nil => rfl
  | cons call calls ih =>
    have hskip : tally ch n call = n := by simp [tally, hcalls call List.mem_cons_self]
    rw [Backlog.drain_cons, hskip]
    exact ih fun c hc => hcalls c (List.mem_cons_of_mem _ hc)

end Replica

end NestBackend
