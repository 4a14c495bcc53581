import NestBackend.Lib.History
import NestBackend.Ws.Turns

namespace NestBackend.Ws

open NestBackend.Js
open NestBackend.Lib

variable {τ : Type}

namespace Timers

variable {t : Timers} {x : Session} {id : Nat}

@[simp] theorem expiryTimer_set (t : Timers) (x : Session) (remaining : Number) :
    (t.setExpiryTimer x remaining).expiryTimer =
      Function.update t.expiryTimer x.ref (some t.made) := rfl

theorem mem_set {remaining : Number} {timer : Timer} :
    timer ∈ (t.setExpiryTimer x remaining).pending ↔ timer ∈ t.pending ∨
      timer = ⟨t.made, x.ref, remaining.min (.fin MAX_TIMER_DELAY_MS)⟩ := by
  simp [setExpiryTimer]

theorem clear_of_none (h : t.expiryTimer x.ref = none) : t.clearExpiryTimer x = t := by
  simp [clearExpiryTimer, h]

theorem clear_of_some (h : t.expiryTimer x.ref = some id) : t.clearExpiryTimer x =
    { t with
      expiryTimer := Function.update t.expiryTimer x.ref none
      pending := t.pending.filter (·.id != id) } := by
  simp [clearExpiryTimer, h]

@[simp] theorem expiryTimer_clear (t : Timers) (x : Session) :
    (t.clearExpiryTimer x).expiryTimer = Function.update t.expiryTimer x.ref none := by
  cases h : t.expiryTimer x.ref with
  | none => rw [clear_of_none h, ← h, Function.update_eq_self]
  | some id => rw [clear_of_some h]

@[simp] theorem made_clear (t : Timers) (x : Session) : (t.clearExpiryTimer x).made = t.made := by
  cases h : t.expiryTimer x.ref with
  | none => rw [clear_of_none h]
  | some id => rw [clear_of_some h]

theorem pending_clear_sublist (t : Timers) (x : Session) :
    (t.clearExpiryTimer x).pending.Sublist t.pending := by
  cases h : t.expiryTimer x.ref with
  | none => rw [clear_of_none h]
  | some id =>
    rw [clear_of_some h]
    exact List.filter_sublist

theorem pending_clearAll_sublist (t : Timers) (xs : List Session) :
    (xs.foldl clearExpiryTimer t).pending.Sublist t.pending := by
  induction xs generalizing t with
  | nil => exact List.Sublist.refl _
  | cons x xs ih => exact (ih _).trans (pending_clear_sublist t x)

theorem clear_take (h : t.expiryTimer x.ref = some id) :
    (t.take id).clearExpiryTimer x = t.clearExpiryTimer x := by
  have htake : (t.take id).expiryTimer x.ref = some id := h
  rw [clear_of_some htake, clear_of_some h]
  simp [take]

theorem set_take (h : t.expiryTimer x.ref = some id) (remaining : Number) :
    (t.take id).setExpiryTimer x remaining = (t.clearExpiryTimer x).setExpiryTimer x remaining := by
  rw [clear_of_some h]
  simp [take, setExpiryTimer]

end Timers

theorem Outline.release_take {o : Outline} {x : Session} {id : Nat}
    (h : o.timers.expiryTimer x.ref = some id) : (o.take id).release x = o.release x := by
  have htimers : (o.take id).timers.clearExpiryTimer x = o.timers.clearExpiryTimer x :=
    Timers.clear_take h
  rw [release, release, htimers]
  rfl

structure Owned (r : Registry) (t : Timers) : Prop where
  ids : (t.pending.map (·.id)).Nodup
  made : ∀ timer ∈ t.pending, timer.id < t.made
  slot : ∀ ref id, t.expiryTimer ref = some id ↔
    ∃ timer ∈ t.pending, timer.id = id ∧ timer.ref = ref
  owner : ∀ ref id, t.expiryTimer ref = some id →
    ∃ x, r.sessions.lookup x.clientId = some x ∧ x.ref = ref

def Timed (r : Registry) (t : Timers) : Prop :=
  ∀ x, r.sessions.lookup x.clientId = some x → ∃ id, t.expiryTimer x.ref = some id

/-- A pending timer was armed before its session expired, for the time then left or the
longest delay. -/
def Exact (r : Registry) (t : Timers) (armedAt : Nat → ℚ) : Prop :=
  ∀ timer ∈ t.pending, ∀ x, r.sessions.lookup x.clientId = some x → x.ref = timer.ref →
    WsService.expired x.expiresAt (armedAt timer.id) = false ∧
      timer.delay = (x.expiresAt.sub (.fin (armedAt timer.id))).min (.fin MAX_TIMER_DELAY_MS)

namespace Owned

variable {r : Registry} {t : Timers} {x : Session}

theorem empty : Owned .empty .empty where
  ids := List.nodup_nil
  made timer h := absurd h List.not_mem_nil
  slot ref id := by simp [Timers.empty]
  owner ref id h := by cases h

theorem mem_pending (h : Owned r t) {ref id : Nat} (hid : t.expiryTimer ref = some id) :
    ∃ timer ∈ t.pending, timer.id = id ∧ timer.ref = ref := (h.slot ref id).mp hid

theorem sole (h : Owned r t) {timer timer' : Timer} (ht : timer ∈ t.pending)
    (ht' : timer' ∈ t.pending) (href : timer.ref = timer'.ref) : timer = timer' := by
  have hid := (h.slot timer.ref timer.id).mpr ⟨timer, ht, rfl, rfl⟩
  have hid' := (h.slot timer.ref timer'.id).mpr ⟨timer', ht', rfl, href.symm⟩
  exact List.inj_on_of_nodup_map h.ids ht ht' (Option.some.inj (hid.symm.trans hid'))

theorem find (h : Owned r t) {timer : Timer} (hmem : timer ∈ t.pending) :
    t.pending.find? (·.id == timer.id) = some timer := by
  cases hfind : t.pending.find? (·.id == timer.id) with
  | none =>
    rw [List.find?_eq_none] at hfind
    exact absurd (hfind timer hmem) (by simp)
  | some found =>
    have hid : found.id = timer.id := by simpa using List.find?_some hfind
    rw [List.inj_on_of_nodup_map h.ids (List.mem_of_find?_eq_some hfind) hmem hid]

theorem found (hv : r.Valid) (h : Owned r t) {id : Nat} {timer : Timer}
    (hfind : t.pending.find? (·.id == id) = some timer) :
    timer ∈ t.pending ∧ timer.id = id ∧ ∃ x, r.built[timer.ref]? = some x ∧ x.ref = timer.ref ∧
      r.sessions.lookup x.clientId = some x ∧ t.expiryTimer x.ref = some id := by
  have hmem := List.mem_of_find?_eq_some hfind
  have hid : timer.id = id := by simpa using List.find?_some hfind
  have hslot := (h.slot timer.ref id).mpr ⟨timer, hmem, hid, rfl⟩
  obtain ⟨x, hx, href⟩ := h.owner _ _ hslot
  exact ⟨hmem, hid, x, by rw [← href]; exact hv.built hx, href, hx, by rw [href]; exact hslot⟩

theorem unarmed (hv : r.Valid) (h : Owned r t) (hx : x.ref = r.built.length) :
    t.expiryTimer x.ref = none := by
  rw [Option.eq_none_iff_forall_ne_some]
  intro id hid
  obtain ⟨y, hy, href⟩ := h.owner _ _ hid
  have := hv.ref_lt hy
  omega

theorem mem_clear (h : Owned r t) (x : Session) {timer : Timer} :
    timer ∈ (t.clearExpiryTimer x).pending ↔ timer ∈ t.pending ∧ timer.ref ≠ x.ref := by
  cases hid : t.expiryTimer x.ref with
  | none =>
    rw [Timers.clear_of_none hid]
    refine ⟨fun hmem => ⟨hmem, fun href => ?_⟩, And.left⟩
    have hslot := (h.slot timer.ref timer.id).mpr ⟨timer, hmem, rfl, rfl⟩
    rw [href, hid] at hslot
    cases hslot
  | some id =>
    obtain ⟨own, hown, rfl, href⟩ := h.mem_pending hid
    rw [Timers.clear_of_some hid]
    simp only [List.mem_filter, bne_iff_ne, ne_eq, ← href]
    refine and_congr_right fun hmem => not_congr ⟨fun heq => ?_, fun heq => ?_⟩
    · rw [List.inj_on_of_nodup_map h.ids hmem hown heq]
    · rw [h.sole hmem hown heq]

theorem clear (h : Owned r t) (x : Session) : Owned r (t.clearExpiryTimer x) where
  ids := h.ids.sublist ((Timers.pending_clear_sublist t x).map _)
  made timer hmem := by
    rw [Timers.made_clear]
    exact h.made timer ((Timers.pending_clear_sublist t x).subset hmem)
  slot ref id := by
    simp only [Timers.expiryTimer_clear, Function.update_apply, h.mem_clear x]
    split
    · next href =>
      subst href
      simp only [reduceCtorEq, false_iff]
      rintro ⟨timer, ⟨-, hne⟩, -, href⟩
      exact hne href
    · next href =>
      rw [h.slot]
      constructor
      · rintro ⟨timer, hmem, rfl, rfl⟩
        exact ⟨timer, ⟨hmem, href⟩, rfl, rfl⟩
      · rintro ⟨timer, ⟨hmem, -⟩, hid⟩
        exact ⟨timer, hmem, hid⟩
  owner ref id hslot := by
    rw [Timers.expiryTimer_clear, Function.update_apply] at hslot
    split at hslot
    · cases hslot
    · exact h.owner ref id hslot

theorem clearAll (h : Owned r t) (xs : List Session) :
    Owned r (xs.foldl Timers.clearExpiryTimer t) := by
  induction xs generalizing t with
  | nil => exact h
  | cons x xs ih => exact ih (h.clear x)

theorem drop (hv : r.Valid) (h : Owned r t) (hx : r.sessions.lookup x.clientId = some x)
    (hnone : t.expiryTimer x.ref = none) : Owned (r.drop x) t where
  ids := h.ids
  made := h.made
  slot := h.slot
  owner ref id hslot := by
    obtain ⟨y, hy, rfl⟩ := h.owner ref id hslot
    refine ⟨y, (hv.lookup_drop_iff hx).mpr ⟨hy, fun href => ?_⟩, rfl⟩
    rw [href, hnone] at hslot
    cases hslot

theorem release (hv : r.Valid) (h : Owned r t) (hx : r.sessions.lookup x.clientId = some x) :
    Owned (r.drop x) (t.clearExpiryTimer x) := (h.clear x).drop hv hx (by simp)

theorem enroll (h : Owned r t) (hunused : r.sessions.lookup x.clientId = none) :
    Owned (r.enroll x) t where
  ids := h.ids
  made := h.made
  slot := h.slot
  owner ref id hslot := by
    obtain ⟨y, hy, href⟩ := h.owner ref id hslot
    exact ⟨y, (Registry.lookup_enroll_iff hunused).mpr (.inl hy), href⟩

theorem arm (h : Owned r t) (hx : r.sessions.lookup x.clientId = some x)
    (hnone : t.expiryTimer x.ref = none) (remaining : Number) :
    Owned r (t.setExpiryTimer x remaining) where
  ids := by
    have hnew : t.made ∉ t.pending.map (·.id) := by
      intro hmem
      obtain ⟨timer, ht, hid⟩ := List.mem_map.mp hmem
      exact absurd (h.made timer ht) (by omega)
    simpa [Timers.setExpiryTimer, List.nodup_append, h.ids] using hnew
  made timer hmem := by
    rcases Timers.mem_set.mp hmem with hold | rfl
    · exact Nat.lt_succ_of_lt (h.made timer hold)
    · exact Nat.lt_succ_self _
  slot ref id := by
    rw [Timers.expiryTimer_set, Function.update_apply]
    simp only [Timers.mem_set]
    split
    · next href =>
      subst href
      constructor
      · intro hid
        exact ⟨_, .inr rfl, Option.some.inj hid, rfl⟩
      · rintro ⟨timer, hold | rfl, rfl, href⟩
        · have hslot := (h.slot timer.ref timer.id).mpr ⟨timer, hold, rfl, rfl⟩
          rw [href, hnone] at hslot
          cases hslot
        · rfl
    · next href =>
      rw [h.slot]
      constructor
      · rintro ⟨timer, hold, hid⟩
        exact ⟨timer, .inl hold, hid⟩
      · rintro ⟨timer, hold | rfl, hid⟩
        · exact ⟨timer, hold, hid⟩
        · exact absurd hid.2.symm href
  owner ref id hslot := by
    rw [Timers.expiryTimer_set, Function.update_apply] at hslot
    split at hslot
    · next href => exact ⟨x, hx, href.symm⟩
    · exact h.owner ref id hslot

theorem turn {deps : Deps τ} {o o' : Outline} {e : WsEvent} (hv : o.registry.Valid)
    (h : Owned o.registry o.timers) (ht : Turn deps o e o') : Owned o'.registry o'.timers := by
  cases ht with
  | quiet | refused | closedLate | unarmed => exact h
  | admitted x now hx hlive =>
    exact (h.enroll hx.unused).arm ((Registry.lookup_enroll_iff hx.unused).mpr (.inr rfl))
      (h.unarmed hv hx.ref) _
  | lapsed x now hx hdue =>
    exact (h.enroll hx.unused).release (hv.enroll hx.unused hx.ref)
      ((Registry.lookup_enroll_iff hx.unused).mpr (.inr rfl))
  | closed x hheld => exact h.release hv hheld
  | @rearmed timer x now now' id hfind hbuilt hlive =>
    obtain ⟨-, -, y, hy, -, hheld, hslot⟩ := h.found hv hfind
    obtain rfl := Option.some.inj (hy.symm.trans hbuilt)
    change Owned o.registry ((o.timers.take id).setExpiryTimer y _)
    rw [Timers.set_take hslot]
    exact (h.clear y).arm hheld (by simp) _
  | @ended timer x now now' id hfind hbuilt hdue hheld =>
    obtain ⟨-, -, y, hy, -, -, hslot⟩ := h.found hv hfind
    obtain rfl := Option.some.inj (hy.symm.trans hbuilt)
    rw [Outline.release_take hslot]
    exact h.release hv hheld
  | endedLate hfind hbuilt hdue hstale =>
    obtain ⟨-, -, y, hy, -, hheld, -⟩ := h.found hv hfind
    obtain rfl := Option.some.inj (hy.symm.trans hbuilt)
    exact absurd hheld hstale
  | destroyed => exact h.clearAll _

end Owned

namespace Timed

variable {r : Registry} {t : Timers} {x : Session}

theorem empty : Timed .empty .empty := fun x h => by simp [Registry.empty] at h

theorem arm (h : ∀ y, r.sessions.lookup y.clientId = some y →
      y = x ∨ ∃ id, t.expiryTimer y.ref = some id) (remaining : Number) :
    Timed r (t.setExpiryTimer x remaining) := by
  intro y hy
  rw [Timers.expiryTimer_set, Function.update_apply]
  split
  · exact ⟨_, rfl⟩
  · next hne => exact (h y hy).resolve_left fun heq => hne (by rw [heq])

theorem clear (h : ∀ y, r.sessions.lookup y.clientId = some y →
      y.ref ≠ x.ref ∧ ∃ id, t.expiryTimer y.ref = some id) : Timed r (t.clearExpiryTimer x) := by
  intro y hy
  obtain ⟨hne, hid⟩ := h y hy
  rwa [Timers.expiryTimer_clear, Function.update_of_ne hne]

theorem turn {deps : Deps τ} {o o' : Outline} {e : WsEvent} (hv : o.registry.Valid)
    (h : Timed o.registry o.timers) (he : e ≠ .destroy) (ht : Turn deps o e o') :
    Timed o'.registry o'.timers := by
  cases ht with
  | quiet | refused | closedLate | unarmed => exact h
  | admitted x now hx hlive =>
    refine arm (fun y hy => ?_) _
    rcases (Registry.lookup_enroll_iff hx.unused).mp hy with hy | rfl
    · exact .inr (h y hy)
    · exact .inl rfl
  | lapsed x now hx hdue =>
    refine clear fun y hy => ?_
    have hself := (Registry.lookup_enroll_iff hx.unused).mpr (.inr rfl)
    obtain ⟨hy, hne⟩ := ((hv.enroll hx.unused hx.ref).lookup_drop_iff hself).mp hy
    have hold := ((Registry.lookup_enroll_iff hx.unused).mp hy).resolve_right fun heq =>
      hne (by rw [heq])
    exact ⟨hne, h y hold⟩
  | closed x hheld =>
    refine clear fun y hy => ?_
    obtain ⟨hy, hne⟩ := (hv.lookup_drop_iff hheld).mp hy
    exact ⟨hne, h y hy⟩
  | @rearmed timer x now now' =>
    exact arm (fun y hy => .inr (h y hy)) (x.expiresAt.sub (.fin now'))
  | ended hfind hbuilt hdue hheld =>
    refine clear fun y hy => ?_
    obtain ⟨hy, hne⟩ := (hv.lookup_drop_iff hheld).mp hy
    exact ⟨hne, h y hy⟩
  | endedLate => exact h
  | destroyed => exact absurd rfl he

end Timed

def WsEvent.reading : WsEvent → ℚ
  | .connect _ _ now' | .timer _ _ now' => now'
  | _ => 0

namespace Exact

variable {r : Registry} {t : Timers} {x : Session} {armedAt : Nat → ℚ}

theorem empty (armedAt : Nat → ℚ) : Exact .empty .empty armedAt :=
  fun _ hmem => absurd hmem List.not_mem_nil

theorem update (h : Exact r t armedAt) (hmade : ∀ timer ∈ t.pending, timer.id < t.made)
    (now : ℚ) : Exact r t (Function.update armedAt t.made now) := by
  intro timer hmem
  rw [Function.update_of_ne (Nat.ne_of_lt (hmade timer hmem))]
  exact h timer hmem

theorem mono {r' : Registry} {t' : Timers} (h : Exact r t armedAt)
    (hpending : ∀ {timer}, timer ∈ t'.pending → timer ∈ t.pending)
    (hheld : ∀ timer ∈ t'.pending, ∀ y, r'.sessions.lookup y.clientId = some y →
      y.ref = timer.ref → r.sessions.lookup y.clientId = some y) : Exact r' t' armedAt :=
  fun timer hmem y hy href => h timer (hpending hmem) y (hheld timer hmem y hy href) href

theorem arm (hv : r.Valid) (h : Exact r t armedAt) (hx : r.sessions.lookup x.clientId = some x)
    (hmade : ∀ timer ∈ t.pending, timer.id < t.made) {now : ℚ}
    (hlive : WsService.expired x.expiresAt now = false) :
    Exact r (t.setExpiryTimer x (x.expiresAt.sub (.fin now)))
      (Function.update armedAt t.made now) := by
  intro timer hmem y hy href
  rcases Timers.mem_set.mp hmem with hold | rfl
  · exact h.update hmade now timer hold y hy href
  · obtain rfl := hv.eq_of_ref hy hx href
    rw [Function.update_self]
    exact ⟨hlive, rfl⟩

theorem enroll (hv : r.Valid) (ho : Owned r t) (h : Exact r t armedAt)
    (hunused : r.sessions.lookup x.clientId = none) (hx : x.ref = r.built.length) :
    Exact (r.enroll x) t armedAt := by
  refine h.mono id fun timer hmem y hy href => ?_
  refine ((Registry.lookup_enroll_iff hunused).mp hy).resolve_right fun heq => ?_
  have hslot := (ho.slot timer.ref timer.id).mpr ⟨timer, hmem, rfl, rfl⟩
  rw [← href, heq, ho.unarmed hv hx] at hslot
  cases hslot

theorem drop (hv : r.Valid) (h : Exact r t armedAt)
    (hx : r.sessions.lookup x.clientId = some x) :
    Exact (r.drop x) (t.clearExpiryTimer x) armedAt :=
  h.mono (fun hmem => (Timers.pending_clear_sublist t x).subset hmem)
    fun _ _ _ hy _ => ((hv.lookup_drop_iff hx).mp hy).1

theorem turn {deps : Deps τ} {o o' : Outline} {e : WsEvent} (hv : o.registry.Valid)
    (ho : Owned o.registry o.timers) (h : Exact o.registry o.timers armedAt)
    (ht : Turn deps o e o') : Exact o'.registry o'.timers
      (Function.update armedAt o.timers.made e.reading) := by
  cases ht with
  | quiet | refused | closedLate | unarmed => exact h.update ho.made _
  | admitted x now hx hlive =>
    exact (h.enroll hv ho hx.unused hx.ref).arm (hv.enroll hx.unused hx.ref)
      ((Registry.lookup_enroll_iff hx.unused).mpr (.inr rfl)) ho.made hlive
  | lapsed x now hx hdue =>
    exact ((h.enroll hv ho hx.unused hx.ref).update ho.made _).drop (hv.enroll hx.unused hx.ref)
      ((Registry.lookup_enroll_iff hx.unused).mpr (.inr rfl))
  | closed x hheld => exact (h.update ho.made _).drop hv hheld
  | @rearmed timer x now now' id hfind hbuilt hlive =>
    obtain ⟨-, -, y, hy, -, hheld, hslot⟩ := ho.found hv hfind
    obtain rfl := Option.some.inj (hy.symm.trans hbuilt)
    have hexpired : WsService.expired y.expiresAt now' = false := by
      simp only [ranOut, Bool.or_eq_false_iff] at hlive
      exact hlive.2
    have hmade : (o.timers.clearExpiryTimer y).made = o.timers.made := Timers.made_clear _ _
    change Exact o.registry ((o.timers.take id).setExpiryTimer y _) _
    rw [Timers.set_take hslot, ← hmade]
    exact arm hv (h.mono (fun hmem => (Timers.pending_clear_sublist _ _).subset hmem)
      fun _ _ _ hy _ => hy) hheld (ho.clear y).made hexpired
  | @ended timer x now now' id hfind hbuilt hdue hheld =>
    obtain ⟨-, -, y, hy, -, -, hslot⟩ := ho.found hv hfind
    obtain rfl := Option.some.inj (hy.symm.trans hbuilt)
    rw [Outline.release_take hslot]
    exact (h.update ho.made _).drop hv hheld
  | endedLate =>
    exact (h.update ho.made _).mono List.mem_of_mem_filter fun _ _ _ hy _ => hy
  | destroyed =>
    exact (h.update ho.made _).mono (fun hmem => (Timers.pending_clearAll_sublist _ _).subset hmem)
      fun _ _ _ hy _ => hy

end Exact

structure Alarms where
  armedAt : Nat → ℚ
  fired : Nat → Nat

namespace Alarms

def blank : Alarms := ⟨fun _ => 0, fun _ => 0⟩

def target (t : Timers) : WsEvent → Option Nat
  | .timer id _ _ => (t.pending.find? (·.id == id)).map (·.ref)
  | _ => none

def note (t : Timers) (e : WsEvent) (a : Alarms) : Alarms where
  armedAt := Function.update a.armedAt t.made e.reading
  fired := match target t e with
    | some ref => Function.update a.fired ref (a.fired ref + 1)
    | none => a.fired

theorem armedAt_note {t : Timers} {id : Nat} (h : id < t.made) (e : WsEvent) (a : Alarms) :
    (note t e a).armedAt id = a.armedAt id := Function.update_of_ne (Nat.ne_of_lt h) ..

theorem fired_note_of_ne {t : Timers} {e : WsEvent} {ref : Nat} (h : target t e ≠ some ref)
    (a : Alarms) : (note t e a).fired ref = a.fired ref := by
  unfold note
  cases htarget : target t e with
  | none => rfl
  | some ref' =>
    refine Function.update_of_ne (fun heq => h ?_) _ _
    rw [htarget, heq]

theorem fired_note_self {t : Timers} {e : WsEvent} {ref : Nat} (h : target t e = some ref)
    (a : Alarms) : (note t e a).fired ref = a.fired ref + 1 := by
  simp [note, h]

end Alarms

namespace WsService

def timed (deps : Deps τ) (world : τ) : System (WsService τ × Alarms) WsEvent :=
  (system deps world).recording (fun s => Alarms.note s.timers) .blank

variable (deps : Deps τ) (world : τ)

theorem owned_run (es : List WsEvent) :
    Owned ((system deps world).run es).registry ((system deps world).run es).timers := by
  induction es using List.reverseRecOn with
  | nil => exact .empty
  | append_singleton es e ih =>
    rw [System.run_concat]
    have hv := valid_run deps world es
    exact Owned.turn hv ih (turn_step deps hv e)

theorem timed_run {es : List WsEvent} (hes : .destroy ∉ es) :
    Timed ((system deps world).run es).registry ((system deps world).run es).timers := by
  induction es using List.reverseRecOn with
  | nil => exact .empty
  | append_singleton es e ih =>
    rw [List.mem_append, List.mem_singleton, not_or] at hes
    rw [System.run_concat]
    have hv := valid_run deps world es
    exact Timed.turn hv (ih hes.1) (Ne.symm hes.2) (turn_step deps hv e)

theorem exact_run (es : List WsEvent) :
    Exact ((system deps world).run es).registry ((system deps world).run es).timers
      ((timed deps world).run es).2.armedAt := by
  induction es using List.reverseRecOn with
  | nil => exact .empty _
  | append_singleton es e ih =>
    have hv := valid_run deps world es
    have hfst : ((timed deps world).run es).1 = (system deps world).run es :=
      System.fst_run_recording es
    rw [System.run_concat, System.run_concat]
    change Exact _ _ (Function.update _ ((timed deps world).run es).1.timers.made _)
    rw [hfst]
    exact Exact.turn hv (owned_run deps world es) ih (turn_step deps hv e)

end WsService

end NestBackend.Ws
