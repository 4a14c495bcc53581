import Mathlib.Data.List.Perm.Basic
import NestBackend.UserTopics.Service

namespace NestBackend.UserTopics.UserTopicService

open NestBackend.Common
open NestBackend.Lib
open NestBackend.Ws

def pending (w : UserTopicService) : List TopicOp := w.calls.map (·.task) ++ w.sleeping

def Idle (w : UserTopicService) (channel : String) : Prop :=
  ∀ task ∈ w.pending, task.channel ≠ channel

def Awaits (w : UserTopicService) (op : TopicOpKind) (channel : String) : Prop :=
  ∃ task ∈ w.pending, task.op = op ∧ task.channel = channel

def Listens (w : UserTopicService) (channel : String) : Prop :=
  ∃ l ∈ w.listeners, l.channel = channel

instance (w : UserTopicService) (channel : String) : Decidable (w.Idle channel) :=
  inferInstanceAs (Decidable (∀ task ∈ w.pending, task.channel ≠ channel))

instance (w : UserTopicService) (op : TopicOpKind) (channel : String) :
    Decidable (w.Awaits op channel) :=
  inferInstanceAs (Decidable (∃ task ∈ w.pending, task.op = op ∧ task.channel = channel))

instance (w : UserTopicService) (channel : String) : Decidable (w.Listens channel) :=
  inferInstanceAs (Decidable (∃ l ∈ w.listeners, l.channel = channel))

theorem Idle.not_awaits {w : UserTopicService} {channel : String} (h : w.Idle channel)
    (op : TopicOpKind) : ¬ w.Awaits op channel := by
  rintro ⟨task, hmem, -, hch⟩
  exact h task hmem hch

def target (w : UserTopicService) : TopicEvent → Option TopicOp
  | .accept => w.calls.head?.map (·.task)
  | .reject i => w.calls[i]?.map (·.task)
  | .wake i => w.sleeping[i]?

inductive Progress (w : UserTopicService) : TopicEvent → UserTopicService → Prop
  | idle (e : TopicEvent) (hnone : w.target e = none) : Progress w e w
  | accepted (call : SubscriberCall) (rest : List SubscriberCall) (h : w.calls = call :: rest) :
      Progress w .accept { w with calls := rest, listeners := applyCall w.listeners call }
  | retried (i : Nat) (call : SubscriberCall) (h : w.calls[i]? = some call)
      (hleft : TOPIC_RETRY.afterFailure call.task.attempt ≠ .giveUp) :
      Progress w (.reject i)
        { w with calls := w.calls.eraseIdx i, sleeping := w.sleeping ++ [call.task] }
  | gaveUp (i : Nat) (call : SubscriberCall) (h : w.calls[i]? = some call)
      (hspent : TOPIC_RETRY.afterFailure call.task.attempt = .giveUp) :
      Progress w (.reject i) (absorb call.task { w with calls := w.calls.eraseIdx i })
  | woken (i : Nat) (task : TopicOp) (h : w.sleeping[i]? = some task) :
      Progress w (.wake i) (attempt { task with attempt := task.attempt + 1 }
        { w with sleeping := w.sleeping.eraseIdx i })

theorem progress_step (w : UserTopicService) (e : TopicEvent) : Progress w e (w.step e) := by
  cases e with
  | accept =>
    change Progress w .accept w.accept
    unfold accept
    split
    · next hnone => exact .idle _ (by rw [target, hnone]; rfl)
    · next call rest h => exact .accepted call rest h
  | reject i =>
    change Progress w (.reject i) (w.reject i)
    unfold reject
    split
    · next hnone => exact .idle _ (by rw [target, hnone]; rfl)
    · next call h =>
      dsimp only
      split
      · next ms hms => exact .retried i call h (by simp [hms])
      · next hspent => exact .gaveUp i call h hspent
  | wake i =>
    change Progress w (.wake i) (w.wake i)
    unfold wake
    split
    · next hnone => exact .idle _ hnone
    · next task h => exact .woken i task h

section Pending

variable {w : UserTopicService} {call : SubscriberCall} {task : TopicOp} {i : Nat}

theorem mem_pending {t : TopicOp} :
    t ∈ w.pending ↔ (∃ call ∈ w.calls, call.task = t) ∨ t ∈ w.sleeping := by
  simp [pending]

theorem mem_of_getElem?_iff {α : Type} {l : List α} {i : Nat} {a b : α} (h : l[i]? = some a) :
    b ∈ l ↔ b = a ∨ b ∈ l.eraseIdx i := by
  obtain ⟨hlt, rfl⟩ := List.getElem?_eq_some_iff.mp h
  rw [← (List.getElem_cons_eraseIdx_perm hlt).mem_iff, List.mem_cons]

theorem mem_pending_accepted {rest : List SubscriberCall} (h : w.calls = call :: rest)
    (ls : List Listener) (t : TopicOp) : t ∈ w.pending ↔ t = call.task ∨
      t ∈ ({ w with calls := rest, listeners := ls } : UserTopicService).pending := by
  simp [pending, h]

theorem mem_pending_retried (h : w.calls[i]? = some call) (t : TopicOp) :
    t ∈ ({ w with calls := w.calls.eraseIdx i, sleeping := w.sleeping ++ [call.task] } :
      UserTopicService).pending ↔ t ∈ w.pending := by
  simp only [mem_pending, mem_of_getElem?_iff h, List.mem_append, List.mem_singleton]
  constructor
  · rintro (⟨c, hc, rfl⟩ | ht | rfl)
    · exact .inl ⟨c, .inr hc, rfl⟩
    · exact .inr ht
    · exact .inl ⟨call, .inl rfl, rfl⟩
  · rintro (⟨c, rfl | hc, rfl⟩ | ht)
    · exact .inr (.inr rfl)
    · exact .inl ⟨c, hc, rfl⟩
    · exact .inr (.inl ht)

theorem mem_pending_gaveUp (h : w.calls[i]? = some call) (t : TopicOp) : t ∈ w.pending ↔
    t = call.task ∨ t ∈ (absorb call.task { w with calls := w.calls.eraseIdx i }).pending := by
  simp only [mem_pending, mem_of_getElem?_iff h, absorb]
  constructor
  · rintro (⟨c, rfl | hc, rfl⟩ | ht)
    · exact .inl rfl
    · exact .inr (.inl ⟨c, hc, rfl⟩)
    · exact .inr (.inr ht)
  · rintro (rfl | ⟨c, hc, rfl⟩ | ht)
    · exact .inl ⟨call, .inl rfl, rfl⟩
    · exact .inl ⟨c, .inr hc, rfl⟩
    · exact .inr ht

theorem awaits_retried (h : w.calls[i]? = some call) (op : TopicOpKind) (ch : String) :
    Awaits { w with calls := w.calls.eraseIdx i, sleeping := w.sleeping ++ [call.task] } op ch ↔
      w.Awaits op ch := by
  simp only [Awaits, mem_pending_retried h]

theorem awaits_woken (h : w.sleeping[i]? = some task) (op : TopicOpKind) (ch : String) :
    (attempt { task with attempt := task.attempt + 1 }
      { w with sleeping := w.sleeping.eraseIdx i }).Awaits op ch ↔ w.Awaits op ch := by
  simp only [Awaits, mem_pending, mem_of_getElem?_iff h, attempt, List.mem_append,
    List.mem_singleton]
  constructor
  · rintro ⟨t, ⟨c, hc | rfl, rfl⟩ | ht, hop, hch⟩
    · exact ⟨c.task, .inl ⟨c, hc, rfl⟩, hop, hch⟩
    · exact ⟨task, .inr (.inl rfl), hop, hch⟩
    · exact ⟨t, .inr (.inr ht), hop, hch⟩
  · rintro ⟨t, ⟨c, hc, rfl⟩ | rfl | ht, hop, hch⟩
    · exact ⟨c.task, .inl ⟨c, .inl hc, rfl⟩, hop, hch⟩
    · exact ⟨_, .inl ⟨_, .inr rfl, rfl⟩, hop, hch⟩
    · exact ⟨t, .inr ht, hop, hch⟩

theorem awaits_accepted {rest : List SubscriberCall} (h : w.calls = call :: rest)
    (ls : List Listener) {op : TopicOpKind} {ch : String} (ha : w.Awaits op ch)
    (hne : ¬ (call.task.op = op ∧ call.task.channel = ch)) :
    Awaits { w with calls := rest, listeners := ls } op ch := by
  obtain ⟨t, ht, hop, hch⟩ := ha
  rcases (mem_pending_accepted h ls t).mp ht with rfl | ht
  · exact absurd ⟨hop, hch⟩ hne
  · exact ⟨t, ht, hop, hch⟩

theorem awaits_gaveUp (h : w.calls[i]? = some call) {op : TopicOpKind} {ch : String}
    (ha : w.Awaits op ch) (hne : ¬ (call.task.op = op ∧ call.task.channel = ch)) :
    (absorb call.task { w with calls := w.calls.eraseIdx i }).Awaits op ch := by
  obtain ⟨t, ht, hop, hch⟩ := ha
  rcases (mem_pending_gaveUp h t).mp ht with rfl | ht
  · exact absurd ⟨hop, hch⟩ hne
  · exact ⟨t, ht, hop, hch⟩

end Pending

section Lifecycle

variable {w : UserTopicService} {event : SessionLifecycleEvent}

theorem handleConnect_claimed (h : channelFor event.userId ∈ w.subscribed) :
    w.handleConnect event = { w with heard := w.heard + 1 } := by
  simp [handleConnect, h]

theorem handleConnect_unclaimed (h : channelFor event.userId ∉ w.subscribed) :
    w.handleConnect event = attempt ⟨channelFor event.userId, .subscribe, 1, w.heard⟩
      { w with
        subscribed := w.subscribed.add (channelFor event.userId)
        heard := w.heard + 1 } := by
  simp [handleConnect, h, withTopicOp]

theorem handleDisconnect_kept
    (h : event.userSessionCount > 0 ∨ channelFor event.userId ∉ w.subscribed) :
    w.handleDisconnect event = { w with heard := w.heard + 1 } := by
  unfold handleDisconnect
  by_cases hcount : event.userSessionCount > 0
  · simp [hcount]
  · have hno := h.resolve_left hcount
    simp [hcount, hno]

theorem handleDisconnect_last (hcount : event.userSessionCount = 0)
    (h : channelFor event.userId ∈ w.subscribed) :
    w.handleDisconnect event = attempt ⟨channelFor event.userId, .unsubscribe, 1, w.heard⟩
      { w with
        subscribed := w.subscribed.delete (channelFor event.userId)
        heard := w.heard + 1 } := by
  simp [handleDisconnect, hcount, h, withTopicOp]

theorem mem_subscribed_handleConnect {ch : String} :
    ch ∈ (w.handleConnect event).subscribed ↔
      ch ∈ w.subscribed ∨ ch = channelFor event.userId := by
  by_cases h : channelFor event.userId ∈ w.subscribed
  · rw [handleConnect_claimed h]
    exact ⟨.inl, fun hch => hch.elim id fun heq => heq ▸ h⟩
  · rw [handleConnect_unclaimed h]
    exact OrderedSet.mem_add

theorem mem_subscribed_handleDisconnect {ch : String} :
    ch ∈ (w.handleDisconnect event).subscribed ↔
      ch ∈ w.subscribed ∧ ¬ (event.userSessionCount = 0 ∧ ch = channelFor event.userId) := by
  by_cases h : event.userSessionCount > 0 ∨ channelFor event.userId ∉ w.subscribed
  · rw [handleDisconnect_kept h]
    refine ⟨fun hch => ⟨hch, ?_⟩, And.left⟩
    rintro ⟨hcount, rfl⟩
    rcases h with h | h
    · omega
    · exact h hch
  · obtain ⟨hcount, hmem⟩ := not_or.mp h
    have hcount : event.userSessionCount = 0 := by omega
    rw [handleDisconnect_last hcount (not_not.mp hmem)]
    simp [attempt, hcount, and_comm]

theorem handleConnect_frame : (w.handleConnect event).listeners = w.listeners ∧
    (w.handleConnect event).sleeping = w.sleeping ∧
    (w.handleConnect event).exhausted = w.exhausted ∧
    (w.handleConnect event).heard = w.heard + 1 := by
  by_cases h : channelFor event.userId ∈ w.subscribed
  · rw [handleConnect_claimed h]
    exact ⟨rfl, rfl, rfl, rfl⟩
  · rw [handleConnect_unclaimed h]
    exact ⟨rfl, rfl, rfl, rfl⟩

theorem handleDisconnect_frame : (w.handleDisconnect event).listeners = w.listeners ∧
    (w.handleDisconnect event).sleeping = w.sleeping ∧
    (w.handleDisconnect event).exhausted = w.exhausted ∧
    (w.handleDisconnect event).heard = w.heard + 1 := by
  by_cases h : event.userSessionCount > 0 ∨ channelFor event.userId ∉ w.subscribed
  · rw [handleDisconnect_kept h]
    exact ⟨rfl, rfl, rfl, rfl⟩
  · obtain ⟨hcount, hmem⟩ := not_or.mp h
    rw [handleDisconnect_last (by omega) (not_not.mp hmem)]
    exact ⟨rfl, rfl, rfl, rfl⟩

@[simp] theorem listeners_handleConnect :
    (w.handleConnect event).listeners = w.listeners := handleConnect_frame.1

@[simp] theorem sleeping_handleConnect :
    (w.handleConnect event).sleeping = w.sleeping := handleConnect_frame.2.1

@[simp] theorem exhausted_handleConnect :
    (w.handleConnect event).exhausted = w.exhausted := handleConnect_frame.2.2.1

@[simp] theorem heard_handleConnect : (w.handleConnect event).heard = w.heard + 1 :=
  handleConnect_frame.2.2.2

@[simp] theorem listeners_handleDisconnect :
    (w.handleDisconnect event).listeners = w.listeners := handleDisconnect_frame.1

@[simp] theorem sleeping_handleDisconnect :
    (w.handleDisconnect event).sleeping = w.sleeping := handleDisconnect_frame.2.1

@[simp] theorem exhausted_handleDisconnect :
    (w.handleDisconnect event).exhausted = w.exhausted := handleDisconnect_frame.2.2.1

@[simp] theorem heard_handleDisconnect : (w.handleDisconnect event).heard = w.heard + 1 :=
  handleDisconnect_frame.2.2.2

theorem mem_pending_attempt {task t : TopicOp} :
    t ∈ (attempt task w).pending ↔ t ∈ w.pending ∨ t = task := by
  simp only [mem_pending, attempt, List.mem_append, List.mem_singleton]
  constructor
  · rintro (⟨c, hmem | rfl, rfl⟩ | h)
    · exact .inl (.inl ⟨c, hmem, rfl⟩)
    · exact .inr rfl
    · exact .inl (.inr h)
  · rintro ((⟨c, hmem, rfl⟩ | h) | rfl)
    · exact .inl ⟨c, .inl hmem, rfl⟩
    · exact .inr h
    · exact .inl ⟨_, .inr rfl, rfl⟩

theorem awaits_attempt {task : TopicOp} {op : TopicOpKind} {ch : String} :
    (attempt task w).Awaits op ch ↔ w.Awaits op ch ∨ op = task.op ∧ ch = task.channel := by
  simp only [Awaits, mem_pending_attempt]
  constructor
  · rintro ⟨t, ht | rfl, hop, hch⟩
    · exact .inl ⟨t, ht, hop, hch⟩
    · exact .inr ⟨hop.symm, hch.symm⟩
  · rintro (⟨t, ht, hop, hch⟩ | ⟨rfl, rfl⟩)
    · exact ⟨t, .inl ht, hop, hch⟩
    · exact ⟨task, .inr rfl, rfl, rfl⟩

theorem mem_pending_handleConnect {t : TopicOp} (h : t ∈ (w.handleConnect event).pending) :
    t ∈ w.pending ∨ t = ⟨channelFor event.userId, .subscribe, 1, w.heard⟩ := by
  by_cases hc : channelFor event.userId ∈ w.subscribed
  · rw [handleConnect_claimed hc] at h
    exact .inl h
  · rw [handleConnect_unclaimed hc] at h
    exact mem_pending_attempt.mp h

theorem mem_pending_handleDisconnect {t : TopicOp}
    (h : t ∈ (w.handleDisconnect event).pending) :
    t ∈ w.pending ∨ t = ⟨channelFor event.userId, .unsubscribe, 1, w.heard⟩ := by
  by_cases hc : event.userSessionCount > 0 ∨ channelFor event.userId ∉ w.subscribed
  · rw [handleDisconnect_kept hc] at h
    exact .inl h
  · obtain ⟨hcount, hmem⟩ := not_or.mp hc
    rw [handleDisconnect_last (by omega) (not_not.mp hmem)] at h
    exact mem_pending_attempt.mp h

theorem awaits_handleConnect {op : TopicOpKind} {ch : String} :
    (w.handleConnect event).Awaits op ch ↔ w.Awaits op ch ∨
      (channelFor event.userId ∉ w.subscribed ∧ op = .subscribe ∧
        ch = channelFor event.userId) := by
  by_cases h : channelFor event.userId ∈ w.subscribed
  · rw [handleConnect_claimed h]
    simp [h, Awaits, pending]
  · rw [handleConnect_unclaimed h, awaits_attempt]
    exact or_congr_right (iff_and_self.mpr fun _ => h)

theorem awaits_handleDisconnect {op : TopicOpKind} {ch : String} :
    (w.handleDisconnect event).Awaits op ch ↔ w.Awaits op ch ∨
      (event.userSessionCount = 0 ∧ channelFor event.userId ∈ w.subscribed ∧
        op = .unsubscribe ∧ ch = channelFor event.userId) := by
  by_cases h : event.userSessionCount > 0 ∨ channelFor event.userId ∉ w.subscribed
  · rw [handleDisconnect_kept h]
    refine ⟨.inl, fun ha => ha.elim id ?_⟩
    rintro ⟨hcount, hmem, -⟩
    rcases h with h | h
    · omega
    · exact absurd hmem h
  · obtain ⟨hcount, hmem⟩ := not_or.mp h
    have hcount : event.userSessionCount = 0 := by omega
    have hmem := not_not.mp hmem
    rw [handleDisconnect_last hcount hmem, awaits_attempt]
    constructor
    · rintro (ha | hop)
      · exact .inl ha
      · exact .inr ⟨hcount, hmem, hop⟩
    · rintro (ha | ⟨-, -, hop⟩)
      · exact .inl ha
      · exact .inr hop

end Lifecycle

theorem listens_applyCall {ls : List Listener} {call : SubscriberCall} {ch : String} :
    (∃ l ∈ applyCall ls call, l.channel = ch) ↔
      if call.task.op = .subscribe then (∃ l ∈ ls, l.channel = ch) ∨ call.task.channel = ch
      else (∃ l ∈ ls, l.channel = ch) ∧ call.task.channel ≠ ch := by
  unfold applyCall
  cases call.task.op with
  | subscribe =>
    simp only [List.mem_append, List.mem_singleton, if_true]
    constructor
    · rintro ⟨l, hl | rfl, hch⟩
      · exact .inl ⟨l, hl, hch⟩
      · exact .inr hch
    · rintro (⟨l, hl, hch⟩ | hch)
      · exact ⟨l, .inl hl, hch⟩
      · exact ⟨_, .inr rfl, hch⟩
  | unsubscribe =>
    simp only [List.mem_filter, decide_eq_true_eq, reduceCtorEq, if_false]
    constructor
    · rintro ⟨l, ⟨hl, hne⟩, rfl⟩
      exact ⟨⟨l, hl, rfl⟩, Ne.symm hne⟩
    · rintro ⟨⟨l, hl, rfl⟩, hne⟩
      exact ⟨l, ⟨hl, Ne.symm hne⟩, rfl⟩

end NestBackend.UserTopics.UserTopicService
