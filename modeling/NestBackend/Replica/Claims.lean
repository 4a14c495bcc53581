import Mathlib.Data.List.Count
import NestBackend.Lib.History
import NestBackend.Replica.Subscriptions

namespace NestBackend.Replica

open NestBackend.Js
open NestBackend.Lib
open NestBackend.UserTopics
open NestBackend.UserTopics.UserTopicService
open NestBackend.Ws

inductive ClaimEntry where
  | started (channel : String)
  | dropped (channel : String)
  deriving DecidableEq

def startedBetween (w w' : UserTopicService) : List TopicOp :=
  w'.pending.filter (w.heard ≤ ·.started)

def droppedBetween (w w' : UserTopicService) : List String :=
  w.subscribed.toList.filter (· ∉ w'.subscribed)

def claimEntries (w w' : UserTopicService) : List ClaimEntry :=
  ((startedBetween w w').filter (·.op = .subscribe)).map (.started ·.channel) ++
    (droppedBetween w w').map .dropped

def claimsRecorded (rt : Runtime) :
    System (Observed UserTopicService × List ClaimEntry) (Move ⊕ TopicEvent) :=
  let M := Observed.inWorld rt.topicDeps UserTopicService.step .start
  M.recording (fun o a log => log ++ claimEntries o.world (M.step o a).world) []

def claimLog (rt : Runtime) (es : List ReplicaEvent) : List ClaimEntry :=
  ((claimsRecorded rt).run ((topicRefinement rt).trace es)).2

def Held (ch : String) (log : List ClaimEntry) : Prop :=
  ∃ before after, log = before ++ .started ch :: after ∧ .dropped ch ∉ after

def Alternates (ch : String) (log : List ClaimEntry) : Prop :=
  ∀ before between after, log = before ++ .started ch :: (between ++ .started ch :: after) →
    .dropped ch ∈ between

theorem Held.of_append {ch : String} {log : List ClaimEntry} {entry : ClaimEntry}
    (h : Held ch (log ++ [entry])) (hne : entry ≠ .started ch) :
    Held ch log ∧ entry ≠ .dropped ch := by
  obtain ⟨before, after, heq, hnot⟩ := h
  rcases List.eq_nil_or_concat after with rfl | ⟨after, last, rfl⟩
  · have hlast := (List.append_inj' heq rfl).2
    exact absurd (List.singleton_inj.mp hlast) hne
  · rw [List.concat_eq_append, ← List.cons_append, ← List.append_assoc] at heq
    obtain ⟨rfl, hlast⟩ := List.append_inj' heq rfl
    obtain rfl := List.singleton_inj.mp hlast
    rw [List.concat_eq_append, List.mem_append, not_or, List.mem_singleton] at hnot
    exact ⟨⟨before, after, rfl, hnot.1⟩, Ne.symm hnot.2⟩

theorem Alternates.append {ch : String} {log : List ClaimEntry} (h : Alternates ch log)
    {entry : ClaimEntry} (hfree : entry = .started ch → ¬ Held ch log) :
    Alternates ch (log ++ [entry]) := by
  intro before between after heq
  rcases List.eq_nil_or_concat after with rfl | ⟨after, last, rfl⟩
  · rw [← List.cons_append, ← List.append_assoc] at heq
    obtain ⟨hlog, hlast⟩ := List.append_inj' heq rfl
    by_contra hkept
    exact hfree (List.singleton_inj.mp hlast) ⟨before, between, hlog, hkept⟩
  · have hsplit : log ++ [entry] =
        (before ++ .started ch :: (between ++ .started ch :: after)) ++ [last] := by
      simpa using heq
    exact h before between after (List.append_inj' hsplit rfl).1

inductive ClaimStep (w w' : UserTopicService) : List ClaimEntry → Prop
  | kept (h : ∀ ch, ch ∈ w'.subscribed ↔ ch ∈ w.subscribed) : ClaimStep w w' []
  | claimed (ch : String) (hnew : ch ∉ w.subscribed)
      (h : ∀ c, c ∈ w'.subscribed ↔ c ∈ w.subscribed ∨ c = ch) : ClaimStep w w' [.started ch]
  | dropped (ch : String) (h : ∀ c, c ∈ w'.subscribed ↔ c ∈ w.subscribed ∧ c ≠ ch) :
      ClaimStep w w' [.dropped ch]

structure Recorded (w : UserTopicService) (log : List ClaimEntry) : Prop where
  claimed : ∀ ch, Held ch log → ch ∈ w.subscribed
  alternates : ∀ ch, Alternates ch log

theorem Recorded.step {w w' : UserTopicService} {log entries : List ClaimEntry}
    (h : Recorded w log) (hs : ClaimStep w w' entries) : Recorded w' (log ++ entries) := by
  cases hs with
  | kept hsame =>
    rw [List.append_nil]
    exact ⟨fun ch hheld => (hsame ch).mpr (h.claimed ch hheld), h.alternates⟩
  | claimed c hnew hclaims =>
    refine ⟨fun ch hheld => (hclaims ch).mpr ?_, fun ch => (h.alternates ch).append ?_⟩
    · by_cases hch : ch = c
      · exact .inr hch
      · exact .inl (h.claimed ch (hheld.of_append fun he => hch (by cases he; rfl)).1)
    · intro he hheld
      obtain rfl := ClaimEntry.started.inj he
      exact hnew (h.claimed c hheld)
  | dropped c hclaims =>
    refine ⟨fun ch hheld => (hclaims ch).mpr ?_, fun ch => (h.alternates ch).append (by simp)⟩
    obtain ⟨hold, hne⟩ := hheld.of_append (by simp)
    exact ⟨h.claimed ch hold, fun heq => hne (by rw [heq])⟩

def Aged (w : UserTopicService) : Prop := ∀ task ∈ w.pending, task.started < w.heard

theorem Aged.handleConnect {w : UserTopicService} (h : Aged w) (event : SessionLifecycleEvent) :
    Aged (w.handleConnect event) := by
  intro task htask
  rw [heard_handleConnect]
  rcases mem_pending_handleConnect htask with hold | rfl
  · exact Nat.lt_succ_of_lt (h task hold)
  · exact Nat.lt_succ_self _

theorem Aged.handleDisconnect {w : UserTopicService} (h : Aged w)
    (event : SessionLifecycleEvent) : Aged (w.handleDisconnect event) := by
  intro task htask
  rw [heard_handleDisconnect]
  rcases mem_pending_handleDisconnect htask with hold | rfl
  · exact Nat.lt_succ_of_lt (h task hold)
  · exact Nat.lt_succ_self _

theorem Aged.progress {w w' : UserTopicService} {e : TopicEvent} (h : Aged w)
    (hp : Progress w e w') : Aged w' ∧ w'.heard = w.heard := by
  cases hp with
  | idle => exact ⟨h, rfl⟩
  | accepted call rest hcalls =>
    exact ⟨fun task ht => h task ((mem_pending_accepted hcalls _ task).mpr (.inr ht)), rfl⟩
  | retried i call hi hleft =>
    exact ⟨fun task ht => h task ((mem_pending_retried hi task).mp ht), rfl⟩
  | gaveUp i call hi hspent =>
    exact ⟨fun task ht => h task ((mem_pending_gaveUp hi task).mpr (.inr ht)), rfl⟩
  | woken i task hi =>
    refine ⟨fun t ht => ?_, rfl⟩
    simp only [mem_pending, attempt, List.mem_append, List.mem_singleton] at ht
    rcases ht with ⟨c, hc | rfl, rfl⟩ | ht
    · exact h c.task (mem_pending.mpr (.inl ⟨c, hc, rfl⟩))
    · exact h task (mem_pending.mpr (.inr (List.mem_of_getElem? hi)))
    · exact h t (mem_pending.mpr (.inr ((mem_of_getElem?_iff hi).mpr (.inr ht))))

theorem startedBetween_of_lt {w w' : UserTopicService}
    (h : ∀ task ∈ w'.pending, task.started < w.heard) : startedBetween w w' = [] := by
  simpa [startedBetween, List.filter_eq_nil_iff] using h

theorem startedBetween_attempt {w v : UserTopicService} (h : Aged w)
    (hpending : v.pending = w.pending) {task : TopicOp} (hnow : task.started = w.heard) :
    startedBetween w (v.attempt task) = [task] := by
  have hold : ∀ l : List TopicOp, (∀ t ∈ l, t ∈ w.pending) →
      l.filter (w.heard ≤ ·.started) = [] := fun l hl => by
    simpa [List.filter_eq_nil_iff] using fun t ht => h t (hl t ht)
  have hsplit : (v.attempt task).pending = v.calls.map (·.task) ++ (task :: v.sleeping) := by
    simp [pending, attempt]
  rw [pending] at hpending
  rw [startedBetween, hsplit, List.filter_append, List.filter_cons_of_pos (by simp [hnow]),
    hold _ fun t ht => hpending ▸ List.mem_append_left _ ht,
    hold _ fun t ht => hpending ▸ List.mem_append_right _ ht, List.nil_append]

theorem droppedBetween_of_subset {w w' : UserTopicService}
    (h : ∀ ch ∈ w.subscribed, ch ∈ w'.subscribed) : droppedBetween w w' = [] := by
  simpa [droppedBetween, List.filter_eq_nil_iff] using h

theorem droppedBetween_delete {w w' : UserTopicService} {ch : String}
    (hdelete : w'.subscribed = w.subscribed.delete ch) (h : ch ∈ w.subscribed) :
    droppedBetween w w' = [ch] := by
  have hgone : ∀ c ∈ w.subscribed.toList, decide (c ∉ w'.subscribed) = decide (c = ch) := by
    intro c hc
    have hc : c ∈ w.subscribed := hc
    simp [hdelete, hc]
  rw [droppedBetween, List.filter_congr hgone, List.filter_eq,
    List.count_eq_one_of_mem w.subscribed.nodup h, List.replicate_one]

theorem claimStep_same {w w' : UserTopicService} (hstarted : startedBetween w w' = [])
    (hsame : w'.subscribed = w.subscribed) : ClaimStep w w' (claimEntries w w') := by
  rw [claimEntries, hstarted, droppedBetween_of_subset fun ch hch => hsame ▸ hch]
  exact .kept fun ch => by rw [hsame]

theorem claimStep_handleConnect {w : UserTopicService} (h : Aged w)
    (event : SessionLifecycleEvent) :
    ClaimStep w (w.handleConnect event) (claimEntries w (w.handleConnect event)) := by
  by_cases hclaimed : channelFor event.userId ∈ w.subscribed
  · rw [handleConnect_claimed hclaimed]
    exact claimStep_same (startedBetween_of_lt h) rfl
  · have hdropped : droppedBetween w (w.handleConnect event) = [] :=
      droppedBetween_of_subset fun ch hch => mem_subscribed_handleConnect.mpr (.inl hch)
    have hstarted : startedBetween w (w.handleConnect event) =
        [⟨channelFor event.userId, .subscribe, 1, w.heard⟩] := by
      rw [handleConnect_unclaimed hclaimed]
      exact startedBetween_attempt h rfl rfl
    rw [claimEntries, hstarted, hdropped]
    exact .claimed _ hclaimed fun c => mem_subscribed_handleConnect

theorem claimStep_handleDisconnect {w : UserTopicService} (h : Aged w)
    (event : SessionLifecycleEvent) :
    ClaimStep w (w.handleDisconnect event) (claimEntries w (w.handleDisconnect event)) := by
  by_cases hkept : event.userSessionCount > 0 ∨ channelFor event.userId ∉ w.subscribed
  · rw [handleDisconnect_kept hkept]
    exact claimStep_same (startedBetween_of_lt h) rfl
  · obtain ⟨hcount, hclaimed⟩ := not_or.mp hkept
    have hcount : event.userSessionCount = 0 := by omega
    have hlast := handleDisconnect_last hcount (not_not.mp hclaimed)
    have hstarted : startedBetween w (w.handleDisconnect event) =
        [⟨channelFor event.userId, .unsubscribe, 1, w.heard⟩] := by
      rw [hlast]
      exact startedBetween_attempt h rfl rfl
    have hdropped : droppedBetween w (w.handleDisconnect event) = [channelFor event.userId] :=
      droppedBetween_delete (by rw [hlast]; rfl) (not_not.mp hclaimed)
    rw [claimEntries, hstarted, hdropped]
    exact .dropped _ fun c => by simp [mem_subscribed_handleDisconnect, hcount]

theorem claimStep_progress {w w' : UserTopicService} {e : TopicEvent} (h : Aged w)
    (hp : Progress w e w') : ClaimStep w w' (claimEntries w w') := by
  obtain ⟨haged, hheard⟩ := h.progress hp
  have hstarted : startedBetween w w' = [] := startedBetween_of_lt (hheard ▸ haged)
  cases hp with
  | gaveUp i call hi hspent =>
    by_cases hlost : call.task.op = .subscribe ∧ call.task.channel ∈ w.subscribed
    · have hdelete : (absorb call.task { w with calls := w.calls.eraseIdx i }).subscribed =
          w.subscribed.delete call.task.channel := if_pos hlost.1
      rw [claimEntries, hstarted, droppedBetween_delete hdelete hlost.2]
      exact .dropped _ fun c => by rw [hdelete, OrderedSet.mem_delete, and_comm]
    · refine claimStep_same hstarted ?_
      rw [absorb]
      dsimp only
      split
      · next hop =>
        have hout : call.task.channel ∉ w.subscribed := fun hin => hlost ⟨hop, hin⟩
        exact OrderedSet.ext (List.erase_of_not_mem hout)
      · rfl
  | _ => exact claimStep_same hstarted rfl

theorem claimStep_change {rt : Runtime} {o o' : Observed UserTopicService} {m : Move}
    (h : Aged o.world) (hc : Observed.Change rt.topicDeps o m o') :
    Aged o'.world ∧ ClaimStep o.world o'.world (claimEntries o.world o'.world) := by
  cases hc with
  | skipped => exact ⟨h, claimStep_same (startedBetween_of_lt h) rfl⟩
  | registered x now => exact ⟨h.handleConnect _, claimStep_handleConnect h _⟩
  | released x => exact ⟨h.handleDisconnect _, claimStep_handleDisconnect h _⟩

theorem recorded_run (rt : Runtime) (as : List (Move ⊕ TopicEvent)) :
    Recorded ((claimsRecorded rt).run as).1.world ((claimsRecorded rt).run as).2 := by
  refine (System.invariant (M := claimsRecorded rt) (I := fun p => p.1.registry.Valid ∧
    Aged p.1.world ∧ Recorded p.1.world p.2) ?_ ?_ as).2.2
  · refine ⟨.empty, fun task h => absurd h List.not_mem_nil, ?_, ?_⟩
    · rintro ch ⟨before, after, heq, -⟩
      exact absurd heq.symm (List.append_ne_nil_of_right_ne_nil before (List.cons_ne_nil _ _))
    · intro ch before between after heq
      exact absurd heq.symm (List.append_ne_nil_of_right_ne_nil before (List.cons_ne_nil _ _))
  · rintro ⟨o, log⟩ a ⟨hv, haged, hrecorded⟩
    have hvalid : ((Observed.inWorld rt.topicDeps UserTopicService.step .start).step o
        a).registry.Valid := Observed.valid_step_inWorld hv a
    refine ⟨hvalid, ?_⟩
    cases a with
    | inl m =>
      obtain ⟨haged', hstep⟩ := claimStep_change haged (Observed.change_move hv m)
      exact ⟨haged', hrecorded.step hstep⟩
    | inr e =>
      have hp := progress_step o.world e
      exact ⟨(haged.progress hp).1, hrecorded.step (claimStep_progress haged hp)⟩

/-- Every claim is on the channel of a user with sessions, and a channel is subscribed again
only once its claim has been dropped. -/
theorem claims_imply_sessions (rt : Runtime) (es : List ReplicaEvent) :
    (∀ ch ∈ ((system rt).run es).world.topics.subscribed, ∃ u, ch = channelFor u ∧
        ((system rt).run es).registry.ownedSessions u ≠ []) ∧
      ∀ ch before between after, claimLog rt es =
          before ++ .started ch :: (between ++ .started ch :: after) →
        .dropped ch ∈ between := by
  refine ⟨fun ch hch => ?_, (recorded_run rt _).alternates⟩
  obtain ⟨u, rfl, hcount⟩ := (topicRefinement rt).invariant (claimsOwned_run rt) es ch hch
  refine ⟨u, rfl, fun hnone => ?_⟩
  have hzero := (Registry.ownedSessions_eq_nil_iff (topicView_valid rt es)).mp hnone
  exact absurd hzero (Nat.ne_of_gt hcount)

example : claimLog sample [joins "a", joins "b", .ws (.close 0), .ws (.close 1), joins "c"] =
    [.started "user:u", .dropped "user:u", .started "user:u"] := by decide +kernel

end NestBackend.Replica
