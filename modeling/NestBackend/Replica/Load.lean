import Mathlib.Algebra.BigOperators.Group.List.Basic
import Mathlib.Data.List.Perm.Subperm
import NestBackend.Lib.History
import NestBackend.Replica.Ownership

namespace NestBackend.UserTopics

open NestBackend.Common
open NestBackend.Lib
open NestBackend.Ws

def TopicOp.attemptsLeft (task : TopicOp) : Nat := (TOPIC_RETRY.budget - task.attempt).toNat

theorem TopicOp.attemptsLeft_eq (task : TopicOp) : task.attemptsLeft = 5 - task.attempt := by
  rw [TopicOp.attemptsLeft, show TOPIC_RETRY.budget = 5 from rfl]
  omega

theorem afterFailure_giveUp_iff (attempt : Nat) :
    TOPIC_RETRY.afterFailure attempt = .giveUp ↔ 5 ≤ attempt := by
  rw [BoundedRetryOptions.afterFailure, show TOPIC_RETRY.budget = 5 from rfl]
  split
  · next h => exact iff_of_false (by simp) (by omega)
  · next h => exact iff_of_true rfl (by omega)

namespace UserTopicService

def share (k : Nat) (n : TopicOp → Nat) (task : TopicOp) : Nat :=
  if task.started = k then n task else 0

/-- The calls that the pending operation of the `k`-th event may still make. -/
def callsLeft (k : Nat) (w : UserTopicService) : Nat :=
  (w.pending.map (share k (·.attemptsLeft))).sum

/-- The settlements and wake-ups that the pending operation of the `k`-th event may still see. -/
def work (k : Nat) (w : UserTopicService) : Nat :=
  (w.calls.map fun call => share k (fun task => 2 * task.attemptsLeft + 1) call.task).sum +
    (w.sleeping.map (share k fun task => 2 * task.attemptsLeft)).sum

def made (k n : Nat) (w : UserTopicService) : Nat :=
  w.calls.countP fun call => n ≤ call.listener ∧ call.task.started = k

def settled (k : Nat) (w : UserTopicService) (e : TopicEvent) : Nat :=
  ((w.target e).map (share k fun _ => 1)).getD 0

def brought (k n : Nat) (w : UserTopicService) : Nat := if k < w.heard then n else 0

def Fresh (w : UserTopicService) : Prop := ∀ call ∈ w.calls, call.listener < w.closures

def unsettled (w : UserTopicService) : List TopicOp := w.pending ++ w.exhausted

/-- Attempts are counted from one; none sleeps after its last, and only then is it given up. -/
structure Paced (w : UserTopicService) : Prop where
  calls : ∀ call ∈ w.calls, 1 ≤ call.task.attempt ∧ call.task.attempt ≤ 5
  sleeping : ∀ task ∈ w.sleeping, 1 ≤ task.attempt ∧ task.attempt < 5
  exhausted : ∀ task ∈ w.exhausted, task.attempt = 5

inductive Heard (w : UserTopicService) : UserTopicService → Prop
  | counted : Heard w { w with heard := w.heard + 1 }
  | started (channel : String) (op : TopicOpKind) (claims : OrderedSet String) :
      Heard w (attempt ⟨channel, op, 1, w.heard⟩
        { w with subscribed := claims, heard := w.heard + 1 })

theorem heard_connect (w : UserTopicService) (event : SessionLifecycleEvent) :
    Heard w (w.handleConnect event) := by
  by_cases h : channelFor event.userId ∈ w.subscribed
  · rw [handleConnect_claimed h]
    exact .counted
  · rw [handleConnect_unclaimed h]
    exact .started _ _ _

theorem heard_disconnect (w : UserTopicService) (event : SessionLifecycleEvent) :
    Heard w (w.handleDisconnect event) := by
  by_cases h : event.userSessionCount > 0 ∨ channelFor event.userId ∉ w.subscribed
  · rw [handleDisconnect_kept h]
    exact .counted
  · obtain ⟨hcount, hclaimed⟩ := not_or.mp h
    rw [handleDisconnect_last (by omega) (not_not.mp hclaimed)]
    exact .started _ _ _

theorem perm_eraseIdx {α : Type} {l : List α} {i : Nat} {a : α} (h : l[i]? = some a) :
    l.Perm (a :: l.eraseIdx i) := by
  obtain ⟨hlt, rfl⟩ := List.getElem?_eq_some_iff.mp h
  exact (List.getElem_cons_eraseIdx_perm hlt).symm

theorem sum_eraseIdx {α : Type} (f : α → Nat) {l : List α} {i : Nat} {a : α}
    (h : l[i]? = some a) : (l.map f).sum = f a + ((l.eraseIdx i).map f).sum := by
  rw [((perm_eraseIdx h).map f).sum_eq, List.map_cons, List.sum_cons]

theorem callsLeft_eq (k : Nat) (w : UserTopicService) : w.callsLeft k =
    (w.calls.map fun call => share k (·.attemptsLeft) call.task).sum +
      (w.sleeping.map (share k (·.attemptsLeft))).sum := by
  simp [callsLeft, pending, Function.comp_def]

section Steps

variable {w w' : UserTopicService} {k : Nat}

theorem Paced.heard (h : Paced w) (hs : Heard w w') : Paced w' := by
  cases hs with
  | counted => exact ⟨h.calls, h.sleeping, h.exhausted⟩
  | started ch op claims =>
    refine ⟨fun call hcall => ?_, h.sleeping, h.exhausted⟩
    rcases List.mem_append.mp hcall with hcall | hcall
    · exact h.calls call hcall
    · obtain rfl := List.mem_singleton.mp hcall
      exact ⟨Nat.le_refl 1, Nat.le_add_left 1 4⟩

theorem Paced.progress {e : TopicEvent} (h : Paced w) (hp : Progress w e w') : Paced w' := by
  cases hp with
  | idle => exact h
  | accepted call rest hcalls =>
    exact ⟨fun c hc => h.calls c (hcalls ▸ List.mem_cons_of_mem call hc), h.sleeping,
      h.exhausted⟩
  | retried i call hi hleft =>
    refine ⟨fun c hc => h.calls c (List.eraseIdx_subset hc), fun task htask => ?_, h.exhausted⟩
    rcases List.mem_append.mp htask with htask | htask
    · exact h.sleeping task htask
    · obtain rfl := List.mem_singleton.mp htask
      have hbounds := h.calls call (List.mem_of_getElem? hi)
      rw [ne_eq, afterFailure_giveUp_iff] at hleft
      exact ⟨hbounds.1, by omega⟩
  | gaveUp i call hi hspent =>
    refine ⟨fun c hc => h.calls c (List.eraseIdx_subset hc), h.sleeping, fun task htask => ?_⟩
    rcases List.mem_append.mp htask with htask | htask
    · exact h.exhausted task htask
    · obtain rfl := List.mem_singleton.mp htask
      have hbounds := h.calls call (List.mem_of_getElem? hi)
      rw [afterFailure_giveUp_iff] at hspent
      exact Nat.le_antisymm hbounds.2 hspent
  | woken i task hi =>
    refine ⟨fun c hc => ?_, fun t ht => h.sleeping t (List.eraseIdx_subset ht), h.exhausted⟩
    rcases List.mem_append.mp hc with hc | hc
    · exact h.calls c hc
    · obtain rfl := List.mem_singleton.mp hc
      have hbounds := h.sleeping task (List.mem_of_getElem? hi)
      exact ⟨by simp, Nat.succ_le_of_lt hbounds.2⟩

theorem unsettled_attempt (task : TopicOp) :
    (w.attempt task).unsettled.Perm (task :: w.unsettled) := by
  simp only [unsettled, pending, attempt, List.map_append, List.map_cons, List.map_nil,
    List.append_assoc, List.singleton_append]
  exact List.perm_middle

theorem Progress.started {e : TopicEvent} (hp : Progress w e w') :
    (w'.unsettled.map (·.started)).Subperm (w.unsettled.map (·.started)) := by
  cases hp with
  | idle => exact List.Subperm.refl _
  | accepted call rest hcalls =>
    refine (List.Sublist.map _ ?_).subperm
    rw [unsettled, unsettled, pending, pending, hcalls]
    exact List.sublist_cons_self ..
  | retried i call hi hleft =>
    refine (List.Perm.map _ (.append_right _ ?_)).subperm
    have hcalls := ((perm_eraseIdx hi).map (·.task)).append_right w.sleeping
    rw [pending, pending, ← List.append_assoc]
    exact (List.perm_append_singleton _ _).trans hcalls.symm
  | gaveUp i call hi hspent =>
    refine (List.Perm.map _ ?_).subperm
    have hcalls := ((perm_eraseIdx hi).map (·.task)).append_right (w.sleeping ++ w.exhausted)
    simp only [unsettled, pending, absorb, List.append_assoc]
    rw [← List.append_assoc w.sleeping, ← List.append_assoc]
    exact (List.perm_append_singleton _ _).trans hcalls.symm
  | woken i task hi =>
    have hsleeping := (perm_eraseIdx hi).map (·.started)
    have hattempt := (unsettled_attempt (w := { w with sleeping := w.sleeping.eraseIdx i })
      { task with attempt := task.attempt + 1 }).map (·.started)
    refine (hattempt.trans ?_).subperm
    simp only [unsettled, pending, List.map_append, List.append_assoc, List.map_cons]
    exact List.perm_middle.symm.trans ((hsleeping.symm.append_right _).append_left _)

theorem Fresh.sublist (h : Fresh w) (hsub : w'.calls.Sublist w.calls)
    (hclosures : w'.closures = w.closures) : Fresh w' :=
  fun call hcall => hclosures ▸ h call (hsub.subset hcall)

theorem Fresh.attempt (h : Fresh w) (task : TopicOp) : Fresh (w.attempt task) := by
  intro call hcall
  rcases List.mem_append.mp hcall with hcall | hcall
  · exact Nat.lt_succ_of_lt (h call hcall)
  · obtain rfl := List.mem_singleton.mp hcall
    exact Nat.lt_succ_self _

theorem Fresh.heard (h : Fresh w) (hs : Heard w w') : Fresh w' := by
  cases hs with
  | counted => exact h
  | started channel op claims => exact Fresh.attempt (w := { w with
      subscribed := claims, heard := w.heard + 1 }) h _

theorem Fresh.progress {e : TopicEvent} (h : Fresh w) (hp : Progress w e w') : Fresh w' := by
  cases hp with
  | idle => exact h
  | accepted call rest hcalls => exact h.sublist (hcalls ▸ List.sublist_cons_self call rest) rfl
  | retried i call hi hleft => exact h.sublist (List.eraseIdx_sublist ..) rfl
  | gaveUp i call hi hspent => exact h.sublist (List.eraseIdx_sublist ..) rfl
  | woken i task hi => exact Fresh.attempt (w := { w with sleeping := w.sleeping.eraseIdx i }) h _

theorem made_of_sublist (h : Fresh w) (hsub : w'.calls.Sublist w.calls) :
    w'.made k w.closures = 0 := by
  rw [made, List.countP_eq_zero]
  intro call hcall
  have hlt := h call (hsub.subset hcall)
  simp only [decide_eq_true_eq]
  omega

theorem made_attempt {n : Nat} (hn : n ≤ w.closures) (task : TopicOp) :
    (w.attempt task).made k n = w.made k n + share k (fun _ => 1) task := by
  simp only [made, attempt, List.countP_append, List.countP_singleton, share]
  by_cases htask : task.started = k
  · simp [htask, hn]
  · simp [htask]

theorem callsLeft_attempt (task : TopicOp) :
    (w.attempt task).callsLeft k = w.callsLeft k + share k (·.attemptsLeft) task := by
  simp only [callsLeft_eq, attempt, List.map_append, List.map_cons, List.map_nil, List.sum_append,
    List.sum_singleton]
  omega

theorem work_attempt (task : TopicOp) : (w.attempt task).work k =
    w.work k + share k (fun task => 2 * task.attemptsLeft + 1) task := by
  simp only [work, attempt, List.map_append, List.map_cons, List.map_nil, List.sum_append,
    List.sum_singleton]
  omega

theorem Progress.callsLeft {e : TopicEvent} (h : Paced w) (hf : Fresh w) (hp : Progress w e w') :
    w'.callsLeft k + w'.made k w.closures ≤ w.callsLeft k := by
  cases hp with
  | idle => exact (congrArg _ (made_of_sublist hf (.refl _))).le
  | accepted call rest hcalls =>
    rw [made_of_sublist hf (hcalls ▸ List.sublist_cons_self call rest)]
    simp only [callsLeft_eq, hcalls, List.map_cons, List.sum_cons]
    omega
  | retried i call hi hleft =>
    rw [made_of_sublist hf (List.eraseIdx_sublist ..)]
    have hcalls := sum_eraseIdx (fun call => share k (·.attemptsLeft) call.task) hi
    simp only [callsLeft_eq, List.map_append, List.map_cons, List.map_nil, List.sum_append,
      List.sum_singleton]
    omega
  | gaveUp i call hi hspent =>
    rw [made_of_sublist hf (List.eraseIdx_sublist ..)]
    have hcalls := sum_eraseIdx (fun call => share k (·.attemptsLeft) call.task) hi
    simp only [callsLeft_eq, absorb]
    omega
  | woken i task hi =>
    have hnone : made k w.closures { w with sleeping := w.sleeping.eraseIdx i } = 0 :=
      made_of_sublist hf (.refl _)
    have hmade := made_attempt (w := { w with sleeping := w.sleeping.eraseIdx i }) (k := k)
      (n := w.closures) le_rfl { task with attempt := task.attempt + 1 }
    rw [hmade, hnone, callsLeft_attempt]
    have hsleeping := sum_eraseIdx (share k (·.attemptsLeft)) hi
    have hbounds := h.sleeping task (List.mem_of_getElem? hi)
    have hnext : share k (·.attemptsLeft) { task with attempt := task.attempt + 1 } +
        share k (fun _ => 1) { task with attempt := task.attempt + 1 } =
          share k (·.attemptsLeft) task := by
      simp only [share, TopicOp.attemptsLeft_eq]
      split <;> omega
    simp only [callsLeft_eq]
    omega

theorem settled_of_target {e : TopicEvent} {task : TopicOp} (h : w.target e = some task) :
    settled k w e = share k (fun _ => 1) task := by
  rw [settled, h]
  rfl

theorem Progress.work {e : TopicEvent} (h : Paced w) (hp : Progress w e w') :
    w'.work k + settled k w e ≤ w.work k := by
  have hcall : ∀ task, share k (fun task => 2 * task.attemptsLeft) task +
      share k (fun _ => 1) task = share k (fun task => 2 * task.attemptsLeft + 1) task := by
    intro task
    simp only [share]
    split <;> rfl
  cases hp with
  | idle e hnone =>
    rw [settled, hnone]
    exact le_rfl
  | accepted call rest hcalls =>
    have htarget : w.target .accept = some call.task := by rw [target, hcalls]; rfl
    rw [settled_of_target htarget]
    have hone := hcall call.task
    simp only [UserTopicService.work, hcalls, List.map_cons, List.sum_cons]
    omega
  | retried i call hi hleft =>
    have htarget : w.target (.reject i) = some call.task := by rw [target, hi]; rfl
    rw [settled_of_target htarget]
    have hone := hcall call.task
    have hcalls := sum_eraseIdx
      (fun call => share k (fun task => 2 * task.attemptsLeft + 1) call.task) hi
    simp only [UserTopicService.work, List.map_append, List.map_cons, List.map_nil,
      List.sum_append, List.sum_singleton]
    omega
  | gaveUp i call hi hspent =>
    have htarget : w.target (.reject i) = some call.task := by rw [target, hi]; rfl
    rw [settled_of_target htarget]
    have hone := hcall call.task
    have hcalls := sum_eraseIdx
      (fun call => share k (fun task => 2 * task.attemptsLeft + 1) call.task) hi
    simp only [UserTopicService.work, absorb]
    omega
  | woken i task hi =>
    have htarget : w.target (.wake i) = some task := hi
    rw [settled_of_target htarget]
    have hsleeping := sum_eraseIdx (share k fun task => 2 * task.attemptsLeft) hi
    have hbounds := h.sleeping task (List.mem_of_getElem? hi)
    have hnext : share k (fun task => 2 * task.attemptsLeft + 1)
        { task with attempt := task.attempt + 1 } + share k (fun _ => 1) task =
          share k (fun task => 2 * task.attemptsLeft) task := by
      simp only [share, TopicOp.attemptsLeft_eq]
      split <;> omega
    rw [work_attempt]
    simp only [UserTopicService.work]
    omega

theorem Heard.heard (hs : Heard w w') : w'.heard = w.heard + 1 := by
  cases hs with
  | counted => rfl
  | started => rfl

theorem Heard.brought (hs : Heard w w') (k n : Nat) :
    w'.brought k n = w.brought k n + if w.heard = k then n else 0 := by
  simp only [UserTopicService.brought, hs.heard]
  split <;> split <;> split <;> omega

theorem Heard.callsLeft {n : Nat} (hn : n ≤ w.closures) (hs : Heard w w') :
    n ≤ w'.closures ∧ w'.callsLeft k + w'.made k n + w.brought k 5 ≤
      w.callsLeft k + w.made k n + w'.brought k 5 := by
  rw [hs.brought]
  cases hs with
  | counted =>
    exact ⟨hn, (Nat.add_le_add_left (Nat.le_add_right ..) _)⟩
  | started channel op claims =>
    refine ⟨Nat.le_succ_of_le hn, ?_⟩
    have hmade := made_attempt (w := { w with subscribed := claims, heard := w.heard + 1 })
      (k := k) hn ⟨channel, op, 1, w.heard⟩
    have hfive : share k (·.attemptsLeft) ⟨channel, op, 1, w.heard⟩ +
        share k (fun _ => 1) ⟨channel, op, 1, w.heard⟩ = if w.heard = k then 5 else 0 := by
      simp only [share, TopicOp.attemptsLeft_eq]
      split <;> rfl
    rw [hmade, callsLeft_attempt]
    simp only [callsLeft_eq, made]
    omega

theorem Heard.work (hs : Heard w w') :
    w'.work k + w.brought k 9 ≤ w.work k + w'.brought k 9 := by
  rw [hs.brought]
  cases hs with
  | counted => exact Nat.add_le_add_left (Nat.le_add_right ..) _
  | started channel op claims =>
    have hnine : share k (fun task => 2 * task.attemptsLeft + 1) ⟨channel, op, 1, w.heard⟩ =
        if w.heard = k then 9 else 0 := by
      simp only [share, TopicOp.attemptsLeft_eq]
    rw [work_attempt]
    simp only [UserTopicService.work]
    omega

theorem Heard.unsettled (hs : Heard w w') : w'.unsettled = w.unsettled ∨
    ∃ task, task.started = w.heard ∧ w'.unsettled.Perm (task :: w.unsettled) := by
  cases hs with
  | counted => exact .inl rfl
  | started ch op claims => exact .inr ⟨_, rfl, unsettled_attempt _⟩

end Steps

structure Bounded (w : UserTopicService) : Prop where
  paced : Paced w
  distinct : (w.unsettled.map (·.started)).Nodup
  started : ∀ task ∈ w.unsettled, task.started < w.heard
  fresh : Fresh w

theorem Bounded.start : Bounded start where
  paced := ⟨fun _ h => absurd h List.not_mem_nil, fun _ h => absurd h List.not_mem_nil,
    fun _ h => absurd h List.not_mem_nil⟩
  distinct := List.nodup_nil
  started _ h := absurd h List.not_mem_nil
  fresh _ h := absurd h List.not_mem_nil

section Steps

variable {w w' : UserTopicService}

theorem Bounded.heard (h : Bounded w) (hs : Heard w w') : Bounded w' := by
  have hheard := hs.heard
  refine ⟨h.paced.heard hs, ?_, ?_, h.fresh.heard hs⟩
  · rcases hs.unsettled with heq | ⟨task, htask, hperm⟩
    · rw [heq]
      exact h.distinct
    · rw [(hperm.map _).nodup_iff, List.map_cons, List.nodup_cons]
      refine ⟨fun hmem => ?_, h.distinct⟩
      obtain ⟨t, ht, heq⟩ := List.mem_map.mp hmem
      have hold := h.started t ht
      omega
  · intro t ht
    rw [hheard]
    rcases hs.unsettled with heq | ⟨task, htask, hperm⟩
    · exact Nat.lt_succ_of_lt (h.started t (heq ▸ ht))
    · rcases List.mem_cons.mp (hperm.mem_iff.mp ht) with rfl | hold
      · omega
      · exact Nat.lt_succ_of_lt (h.started t hold)

theorem Bounded.progress {e : TopicEvent} (h : Bounded w) (hp : Progress w e w') :
    Bounded w' ∧ w'.heard = w.heard := by
  have hheard : w'.heard = w.heard := by cases hp <;> rfl
  refine ⟨⟨h.paced.progress hp, ?_, fun t ht => ?_, h.fresh.progress hp⟩, hheard⟩
  · obtain ⟨l, hperm, hsub⟩ := hp.started
    exact hperm.nodup_iff.mp (hsub.nodup h.distinct)
  · obtain ⟨t', ht', heq⟩ := List.mem_map.mp (hp.started.subset (List.mem_map_of_mem ht))
    have hold := h.started t' ht'
    rw [← heq, hheard]
    exact hold

theorem exists_target {task : TopicOp} (h : task ∈ w.pending) : ∃ e, w.target e = some task := by
  rcases List.mem_append.mp h with hcall | hsleeping
  · obtain ⟨call, hmem, rfl⟩ := List.mem_map.mp hcall
    obtain ⟨i, hi⟩ := List.mem_iff_getElem?.mp hmem
    exact ⟨.reject i, by rw [target, hi]; rfl⟩
  · obtain ⟨i, hi⟩ := List.mem_iff_getElem?.mp hsleeping
    exact ⟨.wake i, hi⟩

end Steps

end UserTopicService

end NestBackend.UserTopics

namespace NestBackend.Replica

open NestBackend.Js
open NestBackend.Lib
open NestBackend.UserTopics
open NestBackend.UserTopics.UserTopicService
open NestBackend.Ws

theorem heard_change {rt : Runtime} {o o' : Observed UserTopicService} {m : Move}
    (hc : Observed.Change rt.topicDeps o m o') : o' = o ∨
      Heard o.world o'.world ∧ o'.log.length = o.log.length + 1 := by
  cases hc with
  | skipped => exact .inl rfl
  | registered x now =>
    rw [world_tell_connect, Observed.length_log_tell]
    exact .inr ⟨heard_connect _ _, rfl⟩
  | released x =>
    rw [world_tell_disconnect, Observed.length_log_tell]
    exact .inr ⟨heard_disconnect _ _, rfl⟩

theorem bounded_run (rt : Runtime) (es : List ReplicaEvent) :
    Bounded ((system rt).run es).world.topics :=
  (topicRefinement rt).invariant (P := fun o => Bounded o.world) (fun as =>
    Observed.invariant_inWorld (P := fun o => Bounded o.world) Bounded.start
      (fun _ _ _ _ h hc => (heard_change hc).elim (fun heq => heq ▸ h) fun hs => h.heard hs.1)
      (fun o e _ h => (h.progress (progress_step o.world e)).1) as) es

def calls (rt : Runtime) (k : Nat) (s : Replica) (e : ReplicaEvent) : Nat :=
  (step rt s e).world.topics.made k s.world.topics.closures

def settles (k : Nat) (s : Replica) : ReplicaEvent → Nat
  | .topic e => s.world.topics.settled k e
  | _ => 0

def Paid (rt : Runtime) (k n : Nat) (left : UserTopicService → Nat)
    (cost : Replica → ReplicaEvent → Nat) (s : Replica) (e : ReplicaEvent) : Prop :=
  left (step rt s e).world.topics + cost s e + s.world.topics.brought k n ≤
    left s.world.topics + (step rt s e).world.topics.brought k n

section Steps

variable {rt : Runtime} {s : Replica} {k : Nat}

theorem topics_deliver (channel message : String) (io : Sockets) :
    (step rt s (.deliver channel message io)).world.topics = s.world.topics :=
  congrArg Observed.world (topicView_step rt s (.deliver channel message io))

theorem topics_ws {P : UserTopicService → Prop} (hv : s.registry.Valid) (h : P s.world.topics)
    (hheard : ∀ w w', P w → Heard w w' → P w') (e : WsEvent) :
    P (step rt s (.ws e)).world.topics := by
  have hview := topicView_step rt s (.ws e)
  rw [topicActs, Observed.runFrom_inl] at hview
  change P (topicView (step rt s (.ws e))).world
  rw [hview]
  refine Observed.foldl_move_of_change (P := fun o => P o.world) (fun o m o' _ ho hc => ?_)
    (o := topicView s) hv h _
  rcases heard_change hc with rfl | ⟨hs, -⟩
  · exact ho
  · exact hheard _ _ ho hs

theorem paid_calls (hv : s.registry.Valid) (h : Bounded s.world.topics) (e : ReplicaEvent) :
    Paid rt k 5 (callsLeft k) (calls rt k) s e := by
  unfold Paid
  rw [calls]
  have hnone : s.world.topics.made k s.world.topics.closures = 0 :=
    made_of_sublist h.fresh (.refl _)
  cases e with
  | ws e =>
    refine (topics_ws (P := fun w => s.world.topics.closures ≤ w.closures ∧
      w.callsLeft k + w.made k s.world.topics.closures + s.world.topics.brought k 5 ≤
        s.world.topics.callsLeft k + w.brought k 5) hv ⟨le_rfl, ?_⟩ ?_ e).2
    · omega
    · rintro w w' ⟨hn, hw⟩ hs
      obtain ⟨hn', hcalls⟩ := hs.callsLeft (k := k) hn
      exact ⟨hn', by omega⟩
  | topic e =>
    have hp := progress_step s.world.topics e
    have hcalls := hp.callsLeft (k := k) h.paced h.fresh
    have hbrought : (s.world.topics.step e).brought k 5 = s.world.topics.brought k 5 := by
      rw [brought, brought, (h.progress hp).2]
    change (s.world.topics.step e).callsLeft k +
      (s.world.topics.step e).made k s.world.topics.closures + _ ≤
        _ + (s.world.topics.step e).brought k 5
    omega
  | perform i =>
    change _ + s.world.topics.made k _ + _ ≤ _
    rw [hnone]
    exact le_rfl
  | deliver channel message io =>
    rw [topics_deliver, hnone]
    exact le_rfl

theorem paid_settles (hv : s.registry.Valid) (h : Bounded s.world.topics) (e : ReplicaEvent) :
    Paid rt k 9 (work k) (settles k) s e := by
  unfold Paid
  cases e with
  | ws e =>
    refine topics_ws (P := fun w => w.work k + 0 + s.world.topics.brought k 9 ≤
      s.world.topics.work k + w.brought k 9) hv le_rfl ?_ e
    intro w w' hw hs
    have hwork := hs.work (k := k)
    omega
  | topic e =>
    have hp := progress_step s.world.topics e
    have hwork := hp.work (k := k) h.paced
    have hbrought : (s.world.topics.step e).brought k 9 = s.world.topics.brought k 9 := by
      rw [brought, brought, (h.progress hp).2]
    change (s.world.topics.step e).work k + s.world.topics.settled k e + _ ≤
      _ + (s.world.topics.step e).brought k 9
    omega
  | perform i => exact le_rfl
  | deliver channel message io =>
    rw [topics_deliver]
    exact le_rfl

end Steps

theorem sumFrom_le {rt : Runtime} {k n : Nat} {left : UserTopicService → Nat}
    {cost : Replica → ReplicaEvent → Nat} (hstart : left .start = 0)
    (hpaid : ∀ s, s.registry.Valid → Bounded s.world.topics → ∀ e, Paid rt k n left cost s e)
    (es : List ReplicaEvent) : (system rt).sumFrom cost start es ≤
      if k < (lifecycleLog ((system rt).run es).trace).length then n else 0 := by
  have halong : (system rt).AlongFrom (Paid rt k n left cost) start es :=
    System.along_iff_forall_prefix.mpr fun pre e _ =>
      hpaid _ (topicView_valid rt pre) (bounded_run rt pre) e
  have hcovered := System.sumFrom_covered (fun s : Replica => left s.world.topics)
    (fun s => s.world.topics.brought k n) halong
  have hheard : ((system rt).run es).world.topics.heard =
      (lifecycleLog ((system rt).run es).trace).length := (dated_run rt es).heard
  rw [← hheard]
  change _ ≤ brought k n ((system rt).run es).world.topics
  change left _ + _ + _ ≤ left .start + brought k n ((system rt).run es).world.topics at hcovered
  rw [hstart] at hcovered
  omega

example :
    let es := [joins "a", .topic (.reject 0), .topic (.wake 0), .topic (.reject 0),
      .topic (.wake 0), .topic (.reject 0), .topic (.wake 0), .topic (.reject 0), .topic (.wake 0),
      .topic (.reject 0)]
    (system sample).sumFrom (calls sample 0) start es = 5 ∧
      (system sample).sumFrom (settles 0) start es = 9 := by
  decide +kernel

end NestBackend.Replica
