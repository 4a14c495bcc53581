import Mathlib.Algebra.Order.Group.MinMax
import Mathlib.Tactic.NormNum
import NestBackend.Ws.Alarms

namespace NestBackend.Ws

open NestBackend.Js
open NestBackend.Lib

variable {τ : Type}

namespace Registry

variable {r : Registry} {x y : Session}

def Gone (r : Registry) (x : Session) : Prop :=
  x ∈ r.built ∧ r.sessions.lookup x.clientId ≠ some x

theorem gone_enroll (hr : r.Valid) (hunused : r.sessions.lookup x.clientId = none)
    (href : x.ref = r.built.length) : (r.enroll x).Gone y ↔ r.Gone y := by
  rw [Gone, Gone, enroll_built, ne_eq, lookup_enroll_iff hunused, not_or, List.mem_append,
    List.mem_singleton]
  constructor
  · rintro ⟨hy | rfl, hout, hne⟩
    · exact ⟨hy, hout⟩
    · exact absurd rfl hne
  · rintro ⟨hy, hout⟩
    refine ⟨.inl hy, hout, ?_⟩
    rintro rfl
    have hlt := hr.ref_lt_of_mem hy
    omega

theorem gone_drop (hr : r.Valid) (hx : r.sessions.lookup x.clientId = some x) :
    (r.drop x).Gone y ↔ r.Gone y ∨ y = x := by
  rw [Gone, Gone, drop_built, ne_eq, hr.lookup_drop_iff hx, not_and_or, not_not]
  constructor
  · rintro ⟨hy, hout⟩
    by_cases hheld : r.sessions.lookup y.clientId = some y
    · exact .inr (hr.eq_of_ref hheld hx (hout.resolve_left (not_not.mpr hheld)))
    · exact .inl ⟨hy, hheld⟩
  · rintro (⟨hy, hout⟩ | rfl)
    · exact ⟨hy, .inl hout⟩
    · exact ⟨List.mem_of_getElem? (hr.built hx), .inr rfl⟩

/-- The event releases the session and is not its own `close`. -/
structure Expires (r : Registry) (e : WsEvent) (r' : Registry) (x : Session) : Prop where
  before : ¬ r.Gone x
  after : r'.Gone x
  cause : e ≠ .close x.ref

end Registry

def terminated (effects : List Effect) : List Socket :=
  effects.filterMap fun
    | .socketTerminate socket => some socket
    | _ => none

theorem terminated_append (es fs : List Effect) :
    terminated (es ++ fs) = terminated es ++ terminated fs := List.filterMap_append

theorem terminated_frames (frames : List SentFrame) :
    terminated (frames.map SentFrame.effect) = [] := by
  induction frames with
  | nil => rfl
  | cons frame frames ih => exact ih

theorem terminated_socketLog (trace : List Effect) :
    terminated (socketLog trace) = terminated trace := by
  rw [terminated, terminated, socketLog, List.filterMap_filter]
  refine List.filterMap_congr fun effect _ => ?_
  cases effect <;> rfl

def WsEvent.readings : WsEvent → List ℚ
  | .connect _ _ now' => [now']
  | .timer _ now now' => [now, now']
  | _ => []

theorem expired_fin {E now : ℚ} : WsService.expired (.fin E) now = true ↔ E ≤ now := by
  simp [WsService.expired, Number.sub, Number.le]

theorem ranOut_fin {x : Session} {E now now' : ℚ} (hE : x.expiresAt = .fin E) :
    ranOut x now now' = true ↔ E ≤ now ∨ E ≤ now' := by
  rw [ranOut, Bool.or_eq_true, hE, expired_fin]
  simp [Number.lt, Number.sub]

theorem Exact.delay {r : Registry} {t : Timers} {armedAt : Nat → ℚ} (h : Exact r t armedAt)
    {timer : Timer} (hmem : timer ∈ t.pending) {x : Session}
    (hx : r.sessions.lookup x.clientId = some x) (href : x.ref = timer.ref) {E : ℚ}
    (hE : x.expiresAt = .fin E) :
    ∃ delay, timer.delay = .fin delay ∧ 0 < delay ∧ delay ≤ MAX_TIMER_DELAY_MS := by
  obtain ⟨hlive, hdelay⟩ := h timer hmem x hx href
  rw [← Bool.not_eq_true, hE, expired_fin, not_le] at hlive
  rw [hE, Number.sub, Number.min_fin] at hdelay
  refine ⟨_, hdelay, lt_min (sub_pos.mpr hlive) ?_, min_le_right _ _⟩
  norm_num [MAX_TIMER_DELAY_MS]

inductive Ending (r : Registry) (e : WsEvent) (r' : Registry) (ended : List Socket) : Prop
  | silent (hnone : ∀ x, ¬ r.Expires e r' x) (hended : ended = [])
  | one (x : Session) (honly : ∀ y, r.Expires e r' y ↔ y = x) (hended : ended = [x.socket])
      (htime : ∀ E, x.expiresAt = .fin E → ∃ now ∈ e.readings, E ≤ now)

theorem ending_of_gone {r r' : Registry} {e : WsEvent} {ended : List Socket}
    (h : ∀ y, r'.Gone y → r.Gone y ∨ e = .close y.ref) (hended : ended = []) :
    Ending r e r' ended := by
  refine .silent (fun y hy => ?_) hended
  rcases h y hy.after with hgone | hclose
  · exact hy.before hgone
  · exact hy.cause hclose

theorem ending_turn {deps : Deps τ} {o o' : Outline} {e : WsEvent} (hv : o.registry.Valid)
    (ht : Turn deps o e o') : ∃ ended, terminated o'.sockets = terminated o.sockets ++ ended ∧
      Ending o.registry e o'.registry ended := by
  cases ht with
  | quiet he frames =>
    refine ⟨[], ?_, ending_of_gone (fun y hy => .inl hy) rfl⟩
    rw [Outline.act_sockets, terminated_append, terminated_frames]
  | refused now now' h =>
    refine ⟨[], ?_, ending_of_gone (fun y hy => .inl hy) rfl⟩
    rw [Outline.act_sockets, terminated_append]
    rfl
  | admitted x now hx hlive =>
    refine ⟨[], ?_, ending_of_gone (fun y hy => ?_) rfl⟩
    · exact terminated_append _ _
    · exact .inl ((Registry.gone_enroll hv hx.unused hx.ref).mp hy)
  | @lapsed x now now' hx hdue =>
    refine ⟨[x.socket], ?_, .one x (fun y => ?_) rfl fun E hE => ?_⟩
    · change terminated ((o.sockets ++ listeners x.socket) ++ _) = _
      rw [terminated_append, terminated_append]
      simp [terminated, listeners]
    · have hself := (Registry.lookup_enroll_iff hx.unused).mpr (.inr rfl)
      have hgone : ((o.registry.enroll x).drop x).Gone y ↔ o.registry.Gone y ∨ y = x := by
        rw [Registry.gone_drop (hv.enroll hx.unused hx.ref) hself,
          Registry.gone_enroll hv hx.unused hx.ref]
      refine ⟨fun hy => (hgone.mp hy.after).resolve_left hy.before, ?_⟩
      rintro rfl
      refine ⟨?_, hgone.mpr (.inr rfl), by simp⟩
      rintro ⟨hmem, -⟩
      have hlt := hv.ref_lt_of_mem hmem
      have := hx.ref
      omega
    · rw [hE, expired_fin] at hdue
      exact ⟨now', by simp [WsEvent.readings], hdue⟩
  | closed x hheld =>
    refine ⟨[], (List.append_nil _).symm, ending_of_gone (fun y hy => ?_) rfl⟩
    rcases (Registry.gone_drop hv hheld).mp hy with hy | rfl
    · exact .inl hy
    · exact .inr rfl
  | closedLate | unarmed | rearmed | endedLate | destroyed =>
    exact ⟨[], (List.append_nil _).symm, ending_of_gone (fun y hy => .inl hy) rfl⟩
  | @ended timer x now now' id hfind hbuilt hdue hheld =>
    refine ⟨[x.socket], terminated_append _ _, .one x (fun y => ?_) rfl fun E hE => ?_⟩
    · have hgone : (o.registry.drop x).Gone y ↔ o.registry.Gone y ∨ y = x :=
        Registry.gone_drop hv hheld
      refine ⟨fun hy => (hgone.mp hy.after).resolve_left hy.before, ?_⟩
      rintro rfl
      exact ⟨fun hgone => hgone.2 hheld, hgone.mpr (.inr rfl), by simp⟩
    · rcases (ranOut_fin hE).mp hdue with h | h
      · exact ⟨now, by simp [WsEvent.readings], h⟩
      · exact ⟨now', by simp [WsEvent.readings], h⟩

theorem gone_turn {deps : Deps τ} {o o' : Outline} {e : WsEvent} {x : Session}
    (hv : o.registry.Valid) (ht : Turn deps o e o') (hx : o.registry.Gone x) :
    o'.registry.Gone x := by
  cases ht with
  | quiet | refused | closedLate | unarmed | rearmed | endedLate | destroyed => exact hx
  | admitted y now hy hlive => exact (Registry.gone_enroll hv hy.unused hy.ref).mpr hx
  | lapsed y now hy hdue =>
    have hself := (Registry.lookup_enroll_iff hy.unused).mpr (.inr rfl)
    exact (Registry.gone_drop (hv.enroll hy.unused hy.ref) hself).mpr
      (.inl ((Registry.gone_enroll hv hy.unused hy.ref).mpr hx))
  | closed y hheld | ended hfind hbuilt hdue hheld =>
    exact (Registry.gone_drop hv hheld).mpr (.inl hx)

namespace WsService

variable (deps : Deps τ) (world : τ)

theorem gone_step {s : WsService τ} (hv : s.registry.Valid) {x : Session}
    (h : s.registry.Gone x) (e : WsEvent) : (step deps s e).registry.Gone x :=
  gone_turn hv (turn_step deps hv e) h

theorem ending_step {s : WsService τ} (hv : s.registry.Valid) (e : WsEvent) : ∃ ended,
    terminated (step deps s e).trace = terminated s.trace ++ ended ∧
      Ending s.registry e (step deps s e).registry ended := by
  obtain ⟨ended, htrace, h⟩ := ending_turn hv (turn_step deps hv e)
  simp only [outline, terminated_socketLog] at htrace
  exact ⟨ended, htrace, h⟩

theorem gone_of_initial {pre es : List WsEvent} (hpre : pre <+: es) {x : Session}
    (h : ((system deps world).run pre).registry.Gone x) :
    ((system deps world).run es).registry.Gone x := by
  obtain ⟨post, rfl⟩ := hpre
  induction post using List.reverseRecOn with
  | nil => rwa [List.append_nil]
  | append_singleton post e ih =>
    rw [← List.append_assoc, System.run_concat]
    exact gone_step deps (valid_run deps world _) ih e

def ExpiresIn (es : List WsEvent) (x : Session) : Prop :=
  ∃ pre e, pre ++ [e] <+: es ∧ ((system deps world).run pre).registry.Expires e
    ((system deps world).run (pre ++ [e])).registry x

theorem expiresIn_concat {es : List WsEvent} {e : WsEvent} {x : Session} :
    ExpiresIn deps world (es ++ [e]) x ↔ ExpiresIn deps world es x ∨
      ((system deps world).run es).registry.Expires e
        ((system deps world).run (es ++ [e])).registry x := by
  constructor
  · rintro ⟨pre, e', hpre, h⟩
    rcases List.prefix_concat_iff.mp hpre with heq | hpre
    · obtain ⟨rfl, rfl⟩ := List.append_singleton_inj.mp heq
      exact .inr h
    · exact .inl ⟨pre, e', hpre, h⟩
  · rintro (⟨pre, e', hpre, h⟩ | h)
    · exact ⟨pre, e', hpre.trans (List.prefix_append _ _), h⟩
    · exact ⟨es, e, List.prefix_refl _, h⟩

theorem ExpiresIn.gone {es : List WsEvent} {x : Session} (h : ExpiresIn deps world es x) :
    ((system deps world).run es).registry.Gone x := by
  obtain ⟨pre, e, hpre, hx⟩ := h
  exact gone_of_initial deps world hpre hx.after

theorem terminated_run (es : List WsEvent) : ∃ ended : List Session, ended.Nodup ∧
    terminated ((system deps world).run es).trace = ended.map (·.socket) ∧
      ∀ x, x ∈ ended ↔ ExpiresIn deps world es x := by
  induction es using List.reverseRecOn with
  | nil =>
    refine ⟨[], List.nodup_nil, rfl, fun x => iff_of_false List.not_mem_nil ?_⟩
    rintro ⟨pre, e, hpre, -⟩
    simp at hpre
  | append_singleton es e ih =>
    obtain ⟨ended, hnodup, htrace, hmem⟩ := ih
    obtain ⟨sockets, hstep, hending⟩ := ending_step deps (valid_run deps world es) e
    simp only [expiresIn_concat]
    rw [System.run_concat]
    cases hending with
    | silent hnone hended =>
      refine ⟨ended, hnodup, ?_, fun x => ?_⟩
      · change terminated (step deps _ e).trace = _
        rw [hstep, htrace, hended, List.append_nil]
      · rw [hmem]
        exact ⟨.inl, fun h => h.resolve_right (hnone x)⟩
    | one x honly hended _ =>
      have hnew : x ∉ ended := fun hx =>
        ((honly x).mpr rfl).before (((hmem x).mp hx).gone deps world)
      refine ⟨ended ++ [x], ?_, ?_, fun y => ?_⟩
      · rw [← List.concat_eq_append, List.nodup_concat]
        exact ⟨hnew, hnodup⟩
      · change terminated (step deps _ e).trace = _
        rw [hstep, htrace, hended, List.map_append]
        rfl
      · rw [List.mem_append, hmem, List.mem_singleton]
        exact or_congr_right (honly y).symm

theorem not_expiresIn_of_closed {pre es : List WsEvent} {x : Session}
    (hpre : pre ++ [.close x.ref] <+: es)
    (hheld : ((system deps world).run pre).registry.sessions.lookup x.clientId = some x) :
    ¬ ExpiresIn deps world es x := by
  have hv := valid_run deps world pre
  have hgone : ((system deps world).run (pre ++ [.close x.ref])).registry.Gone x := by
    have hb := hv.built hheld
    have hh := (hv.holds_iff hb).mpr hheld
    have hr : (step deps ((system deps world).run pre) (.close x.ref)).outline =
        ((system deps world).run pre).outline.release x := by
      rw [step]
      simp only [hb]
      exact (outline_release hh).1
    rw [System.run_concat]
    change (step deps _ (.close x.ref)).outline.registry.Gone x
    rw [hr]
    exact (Registry.gone_drop hv hheld).mpr (.inr rfl)
  rintro ⟨pre', e, hpre', hx⟩
  have hother : ¬ (pre ++ [.close x.ref] <+: pre') := fun h =>
    hx.before (gone_of_initial deps world h hgone)
  have hsame : pre ++ [.close x.ref] <+: pre' ++ [e] ∨ pre' ++ [e] <+: pre ++ [.close x.ref] :=
    List.prefix_or_prefix_of_prefix hpre hpre'
  rcases hsame with h | h
  · rcases List.prefix_concat_iff.mp h with heq | h
    · obtain ⟨-, rfl⟩ := List.append_singleton_inj.mp heq
      exact hx.cause rfl
    · exact hother h
  · rcases List.prefix_concat_iff.mp h with heq | h
    · obtain ⟨-, rfl⟩ := List.append_singleton_inj.mp heq
      exact hx.cause rfl
    · exact (gone_of_initial deps world h hx.after).2 hheld

end WsService

end NestBackend.Ws
