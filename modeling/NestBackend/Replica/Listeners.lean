import NestBackend.Lib.System
import NestBackend.Replica.Delivery
import NestBackend.Replica.Subscriptions

namespace NestBackend

open NestBackend.Js
open NestBackend.Lib
open NestBackend.UserTopics
open NestBackend.Ws

namespace UserTopics.UserTopicService

def tally (channel : String) (n : Nat) (call : SubscriberCall) : Nat :=
  if call.task.channel = channel then
    match call.task.op with
    | .subscribe => n + 1
    | .unsubscribe => 0
  else n

/-- The listeners a channel will have once every call in flight has taken effect. -/
def expectedOn (w : UserTopicService) (channel : String) : Nat :=
  Backlog.drain (tally channel) (w.listenersOn channel) w.calls

def AtMostOne (channel : String) : Nat → List SubscriberCall → Prop
  | n, [] => n ≤ 1
  | n, call :: calls => n ≤ 1 ∧ AtMostOne channel (tally channel n call) calls

theorem tally_mono (channel : String) (call : SubscriberCall) {m n : Nat} (h : m ≤ n) :
    tally channel m call ≤ tally channel n call := by
  unfold tally
  split
  · cases call.task.op with
    | subscribe => exact Nat.succ_le_succ h
    | unsubscribe => exact Nat.le_refl 0
  · exact h

theorem countP_applyCall (channel : String) (ls : List Listener) (call : SubscriberCall) :
    (applyCall ls call).countP (·.channel = channel) =
      tally channel (ls.countP (·.channel = channel)) call := by
  unfold applyCall tally
  cases call.task.op with
  | subscribe =>
    by_cases h : call.task.channel = channel <;>
      simp [h, List.countP_append]
  | unsubscribe =>
    by_cases h : call.task.channel = channel
    · simp only [h, if_true, List.countP_filter]
      rw [List.countP_eq_zero]
      simp
    · simp only [h, if_false, List.countP_filter]
      refine List.countP_congr fun l _ => ?_
      simp only [Bool.and_eq_true, decide_eq_true_eq]
      exact ⟨And.left, fun hl => ⟨hl, fun heq => h (heq.symm.trans hl)⟩⟩

namespace AtMostOne

variable {channel : String} {m n : Nat} {call : SubscriberCall} {calls : List SubscriberCall}

theorem now (h : AtMostOne channel n calls) : n ≤ 1 := by
  cases calls with
  | nil => exact h
  | cons call calls => exact h.1

theorem drained (h : AtMostOne channel n calls) :
    Backlog.drain (tally channel) n calls ≤ 1 := by
  induction calls generalizing n with
  | nil => exact h
  | cons call calls ih => exact ih h.2

theorem mono (h : AtMostOne channel n calls) (hmn : m ≤ n) : AtMostOne channel m calls := by
  induction calls generalizing m n with
  | nil => exact Nat.le_trans hmn h
  | cons call calls ih => exact ⟨Nat.le_trans hmn h.1, ih h.2 (tally_mono channel call hmn)⟩

theorem append_iff : AtMostOne channel n (calls ++ [call]) ↔ AtMostOne channel n calls ∧
    tally channel (Backlog.drain (tally channel) n calls) call ≤ 1 := by
  induction calls generalizing n with
  | nil => rfl
  | cons c calls ih => simp only [List.cons_append, AtMostOne, ih, Backlog.drain_cons, and_assoc]

def Cleared (channel : String) (calls : List SubscriberCall) : Prop :=
  ∀ next ∈ calls.find? (·.task.channel = channel), next.task.op = .unsubscribe

theorem of_cleared (h : AtMostOne channel 0 calls) (hc : Cleared channel calls) (hn : n ≤ 1) :
    AtMostOne channel n calls := by
  induction calls generalizing n with
  | nil => exact hn
  | cons c calls ih =>
    by_cases hch : c.task.channel = channel
    · have hop : c.task.op = .unsubscribe := hc c (by simp [hch])
      have htally : tally channel n c = tally channel 0 c := by simp [tally, hch, hop]
      exact ⟨hn, htally ▸ h.2⟩
    · have hskip : ∀ k, tally channel k c = k := fun k => by simp [tally, hch]
      have hrest := h.2
      rw [hskip] at hrest
      refine ⟨hn, ?_⟩
      rw [hskip]
      exact ih hrest (fun next hnext => hc next (by simpa [hch] using hnext)) hn

theorem eraseIdx {i : Nat} (h : AtMostOne channel n calls) (hi : calls[i]? = some call)
    (hok : call.task.op = .unsubscribe → call.task.channel = channel →
      Backlog.drain (tally channel) n (calls.take i) = 0 ∨ Cleared channel (calls.drop (i + 1))) :
    AtMostOne channel n (calls.eraseIdx i) := by
  induction calls generalizing n i with
  | nil => cases hi
  | cons c calls ih =>
    cases i with
    | zero =>
      obtain rfl : c = call := Option.some.inj hi
      rw [List.eraseIdx_cons_zero]
      by_cases hch : c.task.channel = channel
      · cases hop : c.task.op with
        | subscribe =>
          have htally : tally channel n c = n + 1 := by simp [tally, hch, hop]
          exact (htally ▸ h.2).mono (Nat.le_succ n)
        | unsubscribe =>
          have htally : tally channel n c = 0 := by simp [tally, hch, hop]
          have hrest := h.2
          rw [htally] at hrest
          rcases hok hop hch with hzero | hcleared
          · obtain rfl : n = 0 := hzero
            exact hrest
          · exact hrest.of_cleared hcleared h.1
      · have htally : tally channel n c = n := by simp [tally, hch]
        exact htally ▸ h.2
    | succ i => exact ⟨h.1, ih h.2 hi hok⟩

end AtMostOne

end UserTopics.UserTopicService

namespace Replica

open UserTopicService

/-- A SUBSCRIBE is sent only when no listener is left on its channel, none once the calls
before it have taken effect; and no UNSUBSCRIBE is rejected that was to clear the channel for
a SUBSCRIBE behind it. -/
def SubscribesAlone (o : Observed UserTopicService) : Move ⊕ TopicEvent → Prop
  | .inl (.register u c _ _ _) => o.registry.getSession c = none →
      channelFor u ∉ o.world.subscribed → o.world.expectedOn (channelFor u) = 0
  | .inr (.wake i) => ∀ task ∈ o.world.sleeping[i]?, task.op = .subscribe →
      o.world.expectedOn task.channel = 0
  | .inr (.reject i) => ∀ call ∈ o.world.calls[i]?, call.task.op = .unsubscribe →
      Backlog.drain (tally call.task.channel) (o.world.listenersOn call.task.channel)
          (o.world.calls.take i) = 0 ∨
        AtMostOne.Cleared call.task.channel (o.world.calls.drop (i + 1))
  | _ => True

instance (channel : String) (calls : List SubscriberCall) :
    Decidable (AtMostOne.Cleared channel calls) :=
  inferInstanceAs (Decidable (∀ next ∈ calls.find? _, next.task.op = .unsubscribe))

instance (o : Observed UserTopicService) : ∀ a, Decidable (SubscribesAlone o a)
  | .inl (.register u c _ _ _) =>
    inferInstanceAs (Decidable (o.registry.sessions.lookup c = none →
      channelFor u ∉ o.world.subscribed → o.world.expectedOn (channelFor u) = 0))
  | .inr (.wake i) => inferInstanceAs (Decidable (∀ task ∈ o.world.sleeping[i]?, _ → _))
  | .inr (.reject i) => inferInstanceAs (Decidable (∀ call ∈ o.world.calls[i]?, _ → _))
  | .inl (.release _) | .inr .accept => .isTrue trivial

def Single (w : UserTopicService) : Prop :=
  ∀ channel, AtMostOne channel (w.listenersOn channel) w.calls

theorem Single.attempt {w : UserTopicService} (h : Single w) {task : TopicOp}
    (hok : task.op = .subscribe → w.expectedOn task.channel = 0) : Single (w.attempt task) := by
  intro channel
  refine AtMostOne.append_iff.mpr ⟨h channel, ?_⟩
  have hdrained : w.expectedOn channel ≤ 1 := (h channel).drained
  change tally channel (w.expectedOn channel) ⟨task, w.closures⟩ ≤ 1
  unfold tally
  split
  · next hch =>
    cases hop : task.op with
    | subscribe =>
      have hch : task.channel = channel := hch
      have hzero := hok hop
      rw [hch] at hzero
      simp [hzero]
    | unsubscribe => simp
  · exact hdrained

theorem Single.handleConnect {w : UserTopicService} (h : Single w)
    {event : SessionLifecycleEvent} (hok : channelFor event.userId ∉ w.subscribed →
      w.expectedOn (channelFor event.userId) = 0) : Single (w.handleConnect event) := by
  by_cases hc : channelFor event.userId ∈ w.subscribed
  · rw [handleConnect_claimed hc]
    exact h
  · rw [handleConnect_unclaimed hc]
    exact Single.attempt (w := { w with subscribed := _, heard := _ }) h fun _ => hok hc

theorem Single.handleDisconnect {w : UserTopicService} (h : Single w)
    (event : SessionLifecycleEvent) : Single (w.handleDisconnect event) := by
  by_cases hc : event.userSessionCount > 0 ∨ channelFor event.userId ∉ w.subscribed
  · rw [handleDisconnect_kept hc]
    exact h
  · obtain ⟨hcount, hmem⟩ := not_or.mp hc
    rw [handleDisconnect_last (by omega) (not_not.mp hmem)]
    exact Single.attempt (w := { w with subscribed := _, heard := _ }) h (by simp)

theorem Single.progress {o : Observed UserTopicService} {e : TopicEvent}
    {w : UserTopicService} (h : Single o.world) (hok : SubscribesAlone o (.inr e))
    (hp : Progress o.world e w) : Single w := by
  cases hp with
  | idle => exact h
  | accepted call rest hcalls =>
    intro channel
    have hch := h channel
    rw [hcalls] at hch
    have hnext := hch.2
    rwa [listenersOn, ← countP_applyCall] at hnext
  | retried i call hi hleft =>
    intro channel
    exact (h channel).eraseIdx hi fun hop hch => hch ▸ hok call hi hop
  | gaveUp i call hi hspent =>
    intro channel
    exact (h channel).eraseIdx hi fun hop hch => hch ▸ hok call hi hop
  | woken i task hi =>
    exact Single.attempt (w := { o.world with sleeping := _ }) h fun hop => hok task hi hop

theorem single_run {rt : Runtime} {es : List ReplicaEvent}
    (h : (system rt).Along (TopicGuard rt SubscribesAlone) es) :
    Single ((system rt).run es).world.topics := by
  refine topic_invariant_along (P := fun o => Single o.world)
    (fun channel => Nat.zero_le 1) ?_ ?_ h
  · intro o m o' _ ho hok hchange
    cases hchange with
    | skipped => exact ho
    | registered x now hfresh => exact ho.handleConnect (hok hfresh)
    | released x => exact ho.handleDisconnect _
  · intro o e w _ ho hok hp
    exact ho.progress hok hp

/-- As long as a SUBSCRIBE is only sent for a channel that is or will be clear, a message is
handled once at most and no session is sent it twice. -/
theorem at_most_one_delivery (rt : Runtime) (es : List ReplicaEvent)
    (h : (system rt).Along (TopicGuard rt SubscribesAlone) es) :
    (∀ channel, ((system rt).run es).world.topics.listenersOn channel ≤ 1) ∧
      ∀ channel message io, ((WsService.sentBetween ((system rt).run es)
        (step rt ((system rt).run es) (.deliver channel message io))).map (·.ref)).Nodup := by
  have hsingle : ∀ channel, ((system rt).run es).world.topics.listenersOn channel ≤ 1 :=
    fun channel => (single_run h channel).now
  refine ⟨hsingle, fun channel message io => ?_⟩
  rw [step, deliver_eq, WsService.sentBetween_send rfl]
  have hnodup := nodup_framesFor rt.json io (topicView_valid rt es) channel message
  rcases Nat.le_one_iff_eq_zero_or_eq_one.mp (hsingle channel) with hn | hn
  · simp [hn]
  · simpa [hn] using hnodup

theorem at_most_one_delivery_rejoining :
    ((system sample).run [joins "a", .topic .accept, .ws (.close 0), .topic (.reject 0),
      .topic (.wake 0), joins "b", .topic .accept, .topic .accept]).world.topics.listenersOn
        (channelFor "u") ≤ 1 :=
  (at_most_one_delivery sample _ (by decide +kernel)).1 (channelFor "u")

/-- The UNSUBSCRIBE of the last session uses up its attempts; the next session subscribes. -/
def unsubscribeGivenUp : List ReplicaEvent :=
  [joins "a", .topic .accept, .ws (.close 0), .topic (.reject 0), .topic (.wake 0),
    .topic (.reject 0), .topic (.wake 0), .topic (.reject 0), .topic (.wake 0),
    .topic (.reject 0), .topic (.wake 0), .topic (.reject 0), joins "b", .topic .accept]

theorem listener_doubled :
    ¬ ∀ es channel, ((system sample).run es).world.topics.listenersOn channel ≤ 1 := by
  intro h
  have htwo : ((system sample).run unsubscribeGivenUp).world.topics.listenersOn
      (channelFor "u") = 2 := by decide +kernel
  have hle := h unsubscribeGivenUp (channelFor "u")
  omega

end Replica

end NestBackend
