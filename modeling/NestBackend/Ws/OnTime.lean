import Mathlib.Algebra.Order.Floor.Semiring
import Mathlib.Data.Rat.Floor
import Mathlib.Tactic.Linarith
import Mathlib.Tactic.Ring
import NestBackend.Ws.Expiry

namespace NestBackend.Ws

open NestBackend.Js
open NestBackend.Lib

variable {τ : Type}

/-- How many timers in a row wait for `remaining` milliseconds. -/
def firings (remaining : ℚ) : Nat := ⌈remaining / MAX_TIMER_DELAY_MS⌉₊

theorem lt_firings {n : Nat} {remaining : ℚ} :
    n < firings remaining ↔ n * MAX_TIMER_DELAY_MS < remaining := by
  rw [firings, Nat.lt_ceil, lt_div_iff₀ (by norm_num [MAX_TIMER_DELAY_MS])]

/-- Timers of the session fire when they are due, and their callbacks take no time. -/
def OnTime (ref : Nat) (t : Timers) (a : Alarms) : WsEvent → Prop
  | .timer id now now' => ∀ timer ∈ t.pending, timer.id = id → timer.ref = ref →
      now' = now ∧ timer.delay = .fin (now - a.armedAt id)
  | _ => True

instance (ref : Nat) (t : Timers) (a : Alarms) : ∀ e, Decidable (OnTime ref t a e)
  | .timer id now now' => List.decidableBAll (fun timer : Timer => timer.id = id →
      timer.ref = ref → now' = now ∧ timer.delay = .fin (now - a.armedAt id)) t.pending
  | .connect .. | .close _ | .error _ | .message .. | .publishSettled .. | .trackersSettled _
  | .sendToClient .. | .sendToLocalUser .. | .sendToUser .. | .destroy => .isTrue trivial

structure Ticking (x : Session) (began remaining : ℚ) (r : Registry) (t : Timers) (a : Alarms) :
    Prop where
  held : r.sessions.lookup x.clientId = some x
  armed : ∃ timer ∈ t.pending, timer.ref = x.ref ∧
    a.armedAt timer.id = began + a.fired x.ref * MAX_TIMER_DELAY_MS
  early : a.fired x.ref < firings remaining

structure Lapsed (x : Session) (remaining : ℚ) (r : Registry) (a : Alarms) : Prop where
  gone : r.Gone x
  last : a.fired x.ref = firings remaining

namespace Ticking

variable {x : Session} {began remaining : ℚ} {r : Registry} {t : Timers} {a : Alarms}

theorem keep (h : Ticking x began remaining r t a)
    (hmade : ∀ timer ∈ t.pending, timer.id < t.made) {r' : Registry} {t' : Timers}
    (hheld : r'.sessions.lookup x.clientId = some x)
    (hpending : ∀ timer ∈ t.pending, timer.ref = x.ref → timer ∈ t'.pending) {e : WsEvent}
    (htarget : Alarms.target t e ≠ some x.ref) :
    Ticking x began remaining r' t' (Alarms.note t e a) where
  held := hheld
  armed := by
    obtain ⟨timer, hmem, href, hat⟩ := h.armed
    refine ⟨timer, hpending timer hmem href, href, ?_⟩
    rw [Alarms.armedAt_note (hmade timer hmem), Alarms.fired_note_of_ne htarget, hat]
  early := by
    rw [Alarms.fired_note_of_ne htarget]
    exact h.early

theorem fires (hr : Owned r t) (hx : Exact r t a.armedAt) (h : Ticking x began remaining r t a)
    (hE : x.expiresAt = .fin (began + remaining)) {id : Nat} {timer : Timer} {now now' : ℚ}
    (htimer : timer ∈ t.pending) (hid : timer.id = id) (href : timer.ref = x.ref)
    (hon : OnTime x.ref t a (.timer id now now')) : now' = now ∧
      now = min (began + remaining)
        (began + (a.fired x.ref + 1 : Nat) * MAX_TIMER_DELAY_MS) := by
  obtain ⟨own, hown, hownref, hat⟩ := h.armed
  obtain rfl := hr.sole hown htimer (hownref.trans href.symm)
  obtain ⟨hnow, hdelay⟩ := hon own hown hid hownref
  obtain ⟨-, hset⟩ := hx own hown x h.held hownref.symm
  rw [hdelay, hE, ← hid, Number.sub, Number.min_fin, Number.fin.injEq, hat] at hset
  refine ⟨hnow, ?_⟩
  rw [← sub_left_inj, hset, ← min_sub_sub_right]
  congr 1
  push_cast
  ring

theorem target_own {id : Nat} {timer : Timer} (now now' : ℚ)
    (hfind : t.pending.find? (·.id == id) = some timer) (href : timer.ref = x.ref) :
    Alarms.target t (.timer id now now') = some x.ref := by
  simp [Alarms.target, hfind, href]

theorem rearmed (hr : Owned r t) (hx : Exact r t a.armedAt) (h : Ticking x began remaining r t a)
    (hE : x.expiresAt = .fin (began + remaining)) {id : Nat} {timer : Timer} {now now' : ℚ}
    (hfind : t.pending.find? (·.id == id) = some timer) (hmem : timer ∈ t.pending)
    (hid : timer.id = id) (href : timer.ref = x.ref)
    (hon : OnTime x.ref t a (.timer id now now')) (hlive : ranOut x now now' = false) :
    Ticking x began remaining r
      ((t.clearExpiryTimer x).setExpiryTimer x (x.expiresAt.sub (.fin now')))
      (Alarms.note t (.timer id now now') a) := by
  obtain ⟨rfl, hnow⟩ := h.fires hr hx hE hmem hid href hon
  have hleft : ¬ began + remaining ≤ now' := by
    rw [← Bool.not_eq_true, ranOut_fin hE] at hlive
    exact fun hle => hlive (.inl hle)
  rw [min_eq_right_of_lt (lt_of_not_ge fun hle => hleft (by rw [hnow, min_eq_left hle]))] at hnow
  have htarget := target_own now' now' hfind href
  refine ⟨h.held, ⟨_, Timers.mem_set.mpr (.inr rfl), rfl, ?_⟩, ?_⟩
  · rw [Alarms.fired_note_self htarget, Timers.made_clear, ← hnow]
    exact Function.update_self ..
  · rw [Alarms.fired_note_self htarget, lt_firings]
    linarith

theorem ended (hr : Owned r t) (hx : Exact r t a.armedAt) (h : Ticking x began remaining r t a)
    (hE : x.expiresAt = .fin (began + remaining)) {id : Nat} {timer : Timer} {now now' : ℚ}
    (hfind : t.pending.find? (·.id == id) = some timer) (hmem : timer ∈ t.pending)
    (hid : timer.id = id) (href : timer.ref = x.ref)
    (hon : OnTime x.ref t a (.timer id now now')) (hdue : ranOut x now now' = true) :
    (Alarms.note t (.timer id now now') a).fired x.ref = firings remaining ∧ now' = now ∧
      now = began + remaining := by
  obtain ⟨rfl, hnow⟩ := h.fires hr hx hE hmem hid href hon
  have hover : began + remaining ≤ now' := or_self_iff.mp ((ranOut_fin hE).mp hdue)
  have hle : began + remaining ≤ began + (a.fired x.ref + 1 : Nat) * MAX_TIMER_DELAY_MS :=
    hover.trans (hnow.le.trans (min_le_right _ _))
  rw [min_eq_left hle] at hnow
  have hlast : ¬ a.fired x.ref + 1 < firings remaining := fun hlt => by
    have := lt_firings.mp hlt
    linarith
  refine ⟨?_, rfl, hnow⟩
  rw [Alarms.fired_note_self (target_own now' now' hfind href)]
  have := h.early
  omega

theorem released {o : Outline} {e : WsEvent} {y : Session} (hv : o.registry.Valid)
    (ho : Owned o.registry o.timers) (h : Ticking x began remaining o.registry o.timers a)
    (hheld : o.registry.sessions.lookup y.clientId = some y) (hne : x.ref ≠ y.ref)
    (htarget : Alarms.target o.timers e ≠ some x.ref) :
    Ticking x began remaining (o.release y).registry (o.release y).timers
      (Alarms.note o.timers e a) :=
  h.keep ho.made ((hv.lookup_drop_iff hheld).mpr ⟨h.held, hne⟩)
    (fun _ hmem href => (ho.mem_clear y).mpr ⟨hmem, by rwa [href]⟩) htarget

theorem turn {deps : Deps τ} {o o' : Outline} {e : WsEvent} (hv : o.registry.Valid)
    (ho : Owned o.registry o.timers) (hx : Exact o.registry o.timers a.armedAt)
    (hE : x.expiresAt = .fin (began + remaining)) (hclose : e ≠ .close x.ref)
    (hdestroy : e ≠ .destroy) (hon : OnTime x.ref o.timers a e)
    (h : Ticking x began remaining o.registry o.timers a) (ht : Turn deps o e o') :
    Ticking x began remaining o'.registry o'.timers (Alarms.note o.timers e a) ∨
      Lapsed x remaining o'.registry (Alarms.note o.timers e a) ∧
        ∃ id, e = .timer id (began + remaining) (began + remaining) := by
  have hsame (htarget : Alarms.target o.timers e ≠ some x.ref) :
      Ticking x began remaining o.registry o.timers (Alarms.note o.timers e a) :=
    h.keep ho.made h.held (fun _ hmem _ => hmem) htarget
  cases ht with
  | quiet he => exact .inl (hsame (by cases e <;> simp_all [Alarms.target, WsEvent.quiet]))
  | refused | closedLate => exact .inl (hsame (by simp [Alarms.target]))
  | @unarmed id now now' hnone =>
    refine .inl (hsame ?_)
    cases hfind : o.timers.pending.find? (·.id == id) with
    | none => simp [Alarms.target, hfind]
    | some timer =>
      obtain ⟨-, -, y, hy, -⟩ := ho.found hv hfind
      rw [hnone timer hfind] at hy
      cases hy
  | admitted y now hy hlive =>
    refine .inl (h.keep ho.made ?_ (fun timer hmem _ => Timers.mem_set.mpr (.inl hmem))
      (by simp [Alarms.target]))
    exact (Registry.lookup_enroll_iff hy.unused).mpr (.inl h.held)
  | lapsed y now hy hdue =>
    have hself := (Registry.lookup_enroll_iff hy.unused).mpr (.inr rfl)
    have hne : x.ref ≠ y.ref := by
      have := hv.ref_lt h.held
      have := hy.ref
      omega
    refine .inl (h.keep ho.made ?_ (fun timer hmem href => ?_) (by simp [Alarms.target]))
    · exact ((hv.enroll hy.unused hy.ref).lookup_drop_iff hself).mpr
        ⟨(Registry.lookup_enroll_iff hy.unused).mpr (.inl h.held), hne⟩
    · exact (ho.mem_clear y).mpr ⟨hmem, by rwa [href]⟩
  | closed y hheld =>
    have hne : x.ref ≠ y.ref := fun href => hclose (by rw [href])
    exact .inl (h.released hv ho hheld hne (by simp [Alarms.target]))
  | @rearmed timer y now now' id hfind hbuilt hlive =>
    obtain ⟨hmem, hid, y', hy, hyref, hheld, hslot⟩ := ho.found hv hfind
    obtain rfl := Option.some.inj (hy.symm.trans hbuilt)
    have htimers : ((o.take id).arm y' now').timers =
        (o.timers.clearExpiryTimer y').setExpiryTimer y' (y'.expiresAt.sub (.fin now')) :=
      Timers.set_take hslot _
    rw [htimers]
    by_cases hxy : timer.ref = x.ref
    · obtain rfl := hv.eq_of_ref hheld h.held (hyref.trans hxy)
      exact .inl (h.rearmed ho hx hE hfind hmem hid hxy hon hlive)
    · refine .inl (h.keep ho.made h.held (fun timer' hmem' href => ?_) ?_)
      · exact Timers.mem_set.mpr (.inl ((ho.mem_clear y').mpr
          ⟨hmem', by rw [href, hyref]; exact Ne.symm hxy⟩))
      · simpa [Alarms.target, hfind] using hxy
  | @ended timer y now now' id hfind hbuilt hdue hheld =>
    obtain ⟨hmem, hid, y', hy, hyref, -, hslot⟩ := ho.found hv hfind
    obtain rfl := Option.some.inj (hy.symm.trans hbuilt)
    by_cases hxy : timer.ref = x.ref
    · obtain rfl := hv.eq_of_ref hheld h.held (hyref.trans hxy)
      obtain ⟨hlast, rfl, rfl⟩ := h.ended ho hx hE hfind hmem hid hxy hon hdue
      exact .inr ⟨⟨(Registry.gone_drop hv hheld).mpr (.inr rfl), hlast⟩, id, rfl⟩
    · have hne : x.ref ≠ y'.ref := by rw [hyref]; exact Ne.symm hxy
      rw [Outline.release_take hslot]
      exact .inl (h.released hv ho hheld hne (by simpa [Alarms.target, hfind] using hxy))
  | endedLate hfind hbuilt hdue hstale =>
    obtain ⟨-, -, y, hy, -, hheld, -⟩ := ho.found hv hfind
    obtain rfl := Option.some.inj (hy.symm.trans hbuilt)
    exact absurd hheld hstale
  | destroyed => exact absurd rfl hdestroy

end Ticking

theorem Lapsed.turn {deps : Deps τ} {x : Session} {remaining : ℚ} {a : Alarms} {o o' : Outline}
    {e : WsEvent} (hv : o.registry.Valid) (ho : Owned o.registry o.timers)
    (h : Lapsed x remaining o.registry a) (ht : Turn deps o e o') :
    Lapsed x remaining o'.registry (Alarms.note o.timers e a) where
  gone := gone_turn hv ht h.gone
  last := by
    rw [Alarms.fired_note_of_ne, h.last]
    intro htarget
    cases e with
    | timer id now now' =>
      obtain ⟨timer, hfind, href⟩ := Option.map_eq_some_iff.mp htarget
      obtain ⟨-, -, y, hy, -, hheld, -⟩ := ho.found hv hfind
      rw [href, hv.getElem_ref h.gone.1] at hy
      exact h.gone.2 (Option.some.inj hy ▸ hheld)
    | _ => cases htarget

namespace WsService

variable (deps : Deps τ) (world : τ)

theorem fst_run_timed (es : List WsEvent) :
    ((timed deps world).run es).1 = (system deps world).run es := System.fst_run_recording es

theorem fired_run (es : List WsEvent) (ref : Nat)
    (h : ((system deps world).run es).registry.built.length ≤ ref) :
    ((timed deps world).run es).2.fired ref = 0 := by
  induction es using List.reverseRecOn with
  | nil => rfl
  | append_singleton es e ih =>
    have hv := valid_run deps world es
    have ho := owned_run deps world es
    have hbuilt : ((system deps world).run es).registry.built <+:
        ((system deps world).run (es ++ [e])).registry.built := by
      rw [System.run_concat]
      exact built_prefix_step deps _ e
    have hle := hbuilt.length_le.trans h
    rw [System.run_concat]
    change (Alarms.note ((timed deps world).run es).1.timers e _).fired ref = 0
    rw [fst_run_timed, Alarms.fired_note_of_ne, ih hle]
    intro htarget
    cases e with
    | timer id now now' =>
      obtain ⟨timer, hfind, rfl⟩ := Option.map_eq_some_iff.mp htarget
      obtain ⟨-, -, y, hy, -⟩ := ho.found hv hfind
      obtain ⟨hlt, -⟩ := List.getElem?_eq_some_iff.mp hy
      omega
    | _ => cases htarget

theorem ticking_connect (es : List WsEvent) {x : Session} {now' E : ℚ}
    (hx : Fresh deps ((system deps world).run es).registry x) (now : ℚ) (hE : x.expiresAt = .fin E)
    (hleft : now' < E) :
    let p := (timed deps world).run (es ++ [.connect x.params now now'])
    Ticking x now' (E - now') p.1.registry p.1.timers p.2 ∧ p.2.fired x.ref = 0 := by
  intro p
  have hv := valid_run deps world es
  have ho := owned_run deps world es
  have hunused := hx.unused
  have hlive : expired x.expiresAt now' = false := by
    rw [← Bool.not_eq_true, hE, expired_fin]
    exact not_le.mpr hleft
  have houtline : p.1.outline = (((system deps world).run es).outline.enter x).arm x now' := by
    have hturn := (turn_step deps hv (.connect x.params now now')).connected hx
    rw [if_neg (by simp [hlive])] at hturn
    simp only [p]
    rw [fst_run_timed, System.run_concat]
    exact hturn
  have hregistry : p.1.registry = ((system deps world).run es).registry.enroll x :=
    congrArg Outline.registry houtline
  have htimers : p.1.timers = ((system deps world).run es).timers.setExpiryTimer x _ :=
    congrArg Outline.timers houtline
  have hfired : p.2.fired x.ref = 0 := by
    simp only [p]
    rw [System.run_concat]
    change (Alarms.note ((timed deps world).run es).1.timers _ _).fired x.ref = 0
    rw [Alarms.fired_note_of_ne (by simp [Alarms.target])]
    exact fired_run deps world es x.ref hx.ref.ge
  refine ⟨⟨?_, ⟨_, htimers ▸ Timers.mem_set.mpr (.inr rfl), rfl, ?_⟩, ?_⟩, hfired⟩
  · rw [hregistry]
    exact (Registry.lookup_enroll_iff hx.unused).mpr (.inr rfl)
  · rw [hfired]
    simp only [p]
    rw [System.run_concat]
    change (Alarms.note ((timed deps world).run es).1.timers _ _).armedAt _ = _
    rw [fst_run_timed]
    simp [Alarms.note, WsEvent.reading]
  · rw [hfired, lt_firings]
    simpa using hleft

theorem onTime_step {es : List WsEvent} {e : WsEvent} {x : Session} {began remaining : ℚ}
    (hE : x.expiresAt = .fin (began + remaining)) (hdestroy : e ≠ .destroy)
    (hclose : e ≠ .close x.ref)
    (hon : OnTime x.ref ((timed deps world).run es).1.timers ((timed deps world).run es).2 e)
    (h : Ticking x began remaining ((timed deps world).run es).1.registry
      ((timed deps world).run es).1.timers ((timed deps world).run es).2) :
    let p := (timed deps world).run (es ++ [e])
    Ticking x began remaining p.1.registry p.1.timers p.2 ∨
      Lapsed x remaining p.1.registry p.2 ∧
        ∃ id, e = .timer id (began + remaining) (began + remaining) := by
  have hv := valid_run deps world es
  have ho := owned_run deps world es
  have hx := exact_run deps world es
  rw [← fst_run_timed] at hv ho hx
  rw [System.run_concat]
  exact h.turn hv ho hx hE hclose hdestroy hon (turn_step deps hv e)

theorem lapsed_step {es : List WsEvent} (e : WsEvent) {x : Session} {remaining : ℚ}
    (h : Lapsed x remaining ((timed deps world).run es).1.registry
      ((timed deps world).run es).2) :
    let p := (timed deps world).run (es ++ [e])
    Lapsed x remaining p.1.registry p.2 := by
  have hv := valid_run deps world es
  have ho := owned_run deps world es
  rw [← fst_run_timed] at hv ho
  rw [System.run_concat]
  exact h.turn hv ho (turn_step deps hv e)

theorem onTime_run {pre post : List WsEvent} {x : Session} {began remaining : ℚ}
    (hE : x.expiresAt = .fin (began + remaining)) (hdestroy : .destroy ∉ post)
    (hclose : .close x.ref ∉ post)
    (hon : (timed deps world).AlongFrom (fun p e => OnTime x.ref p.1.timers p.2 e)
      ((timed deps world).run pre) post)
    (hstart : Ticking x began remaining ((timed deps world).run pre).1.registry
      ((timed deps world).run pre).1.timers ((timed deps world).run pre).2) :
    let p := (timed deps world).run (pre ++ post)
    Ticking x began remaining p.1.registry p.1.timers p.2 ∨
      Lapsed x remaining p.1.registry p.2 := by
  induction post using List.reverseRecOn with
  | nil => simpa using Or.inl hstart
  | append_singleton post e ih =>
    rw [List.mem_append, List.mem_singleton, not_or] at hdestroy hclose
    rw [System.alongFrom_append, ← System.run_append] at hon
    rw [← List.append_assoc]
    rcases ih hdestroy.1 hclose.1 hon.1 with h | h
    · rcases onTime_step deps world hE (Ne.symm hdestroy.2) (Ne.symm hclose.2) hon.2.1 h with
        h | ⟨h, -⟩
      · exact .inl h
      · exact .inr h
    · exact .inr (lapsed_step deps world e h)

theorem gone_connect {s : WsService τ} (hv : s.registry.Valid) {x : Session}
    (hx : Fresh deps s.registry x) (now : ℚ) {now' : ℚ}
    (hdue : expired x.expiresAt now' = true) :
    (step deps s (.connect x.params now now')).registry.Gone x := by
  have hturn := (turn_step deps hv (.connect x.params now now')).connected hx
  have hself := (Registry.lookup_enroll_iff hx.unused).mpr (.inr rfl)
  rw [if_pos hdue] at hturn
  change (step deps s (.connect x.params now now')).outline.registry.Gone x
  rw [hturn]
  exact (Registry.gone_drop (hv.enroll hx.unused hx.ref) hself).mpr (.inr rfl)

theorem pending_refs (es : List WsEvent) (hes : .destroy ∉ es) :
    let s := (system deps world).run es
    (s.timers.pending.map (·.ref)).Nodup ∧ ∀ ref, ref ∈ s.timers.pending.map (·.ref) ↔
      ∃ x, s.registry.sessions.lookup x.clientId = some x ∧ x.ref = ref := by
  intro s
  have ho : Owned s.registry s.timers := owned_run deps world es
  have ht : Timed s.registry s.timers := timed_run deps world hes
  refine ⟨?_, fun ref => ⟨fun hmem => ?_, ?_⟩⟩
  · exact ho.ids.of_map.map_on fun timer hmem timer' hmem' => ho.sole hmem hmem'
  · obtain ⟨timer, htimer, rfl⟩ := List.mem_map.mp hmem
    exact ho.owner timer.ref timer.id ((ho.slot _ _).mpr ⟨timer, htimer, rfl, rfl⟩)
  · rintro ⟨x, hheld, rfl⟩
    obtain ⟨id, hid⟩ := ht x hheld
    obtain ⟨timer, hmem, -, href⟩ := ho.mem_pending hid
    exact List.mem_map.mpr ⟨timer, hmem, href⟩

theorem pending_delay (es : List WsEvent) {timer : Timer} {x : Session} {E : ℚ}
    (hmem : timer ∈ ((system deps world).run es).timers.pending)
    (hbuilt : ((system deps world).run es).registry.built[timer.ref]? = some x)
    (hE : x.expiresAt = .fin E) :
    ∃ delay, timer.delay = .fin delay ∧ 0 < delay ∧ delay ≤ MAX_TIMER_DELAY_MS := by
  have hv := valid_run deps world es
  have ho := owned_run deps world es
  obtain ⟨y, hy, href⟩ := ho.owner timer.ref timer.id
    ((ho.slot _ _).mpr ⟨timer, hmem, rfl, rfl⟩)
  have hyb := hv.built hy
  rw [href, hbuilt] at hyb
  obtain rfl := Option.some.inj hyb
  exact (exact_run deps world es).delay hmem hy href hE

theorem reading_of_expires {s : WsService τ} (hv : s.registry.Valid) {e : WsEvent} {x : Session}
    {E : ℚ} (h : s.registry.Expires e (step deps s e).registry x) (hE : x.expiresAt = .fin E) :
    ∃ now ∈ e.readings, E ≤ now := by
  obtain ⟨ended, -, hending⟩ := ending_step deps hv e
  cases hending with
  | silent hnone => exact absurd h (hnone x)
  | one y honly _ htime =>
    obtain rfl := (honly x).mp h
    exact htime E hE

theorem connect_expired (es : List WsEvent) {x : Session} {now' : ℚ}
    (hx : Fresh deps ((system deps world).run es).registry x) (now : ℚ)
    (hdue : expired x.expiresAt now' = true) :
    let s := (system deps world).run es
    let t := step deps s (.connect x.params now now')
    t.registry.Gone x ∧ t.timers = s.timers ∧
      terminated t.trace = terminated s.trace ++ [x.socket] := by
  intro s t
  have hv : s.registry.Valid := valid_run deps world es
  have ho : Owned s.registry s.timers := owned_run deps world es
  have hturn := (turn_step deps hv (.connect x.params now now')).connected hx
  rw [if_pos hdue] at hturn
  refine ⟨gone_connect deps hv hx now hdue, ?_, ?_⟩
  · change t.outline.timers = s.timers
    rw [show t.outline = _ from hturn]
    exact Timers.clear_of_none (ho.unarmed hv hx.ref)
  · have hlog : terminated t.outline.sockets = terminated s.outline.sockets ++ [x.socket] := by
      rw [show t.outline = _ from hturn]
      change terminated ((s.outline.sockets ++ listeners x.socket) ++ [_]) = _
      rw [terminated_append, terminated_append]
      simp [terminated, listeners]
    simpa only [outline, terminated_socketLog] using hlog

theorem released_onTime (es : List WsEvent) {x : Session} {now' E : ℚ} {post : List WsEvent}
    (hx : Fresh deps ((system deps world).run es).registry x) (now : ℚ)
    (hE : x.expiresAt = .fin E) (hleft : 0 < E - now') (hdestroy : .destroy ∉ post)
    (hclose : .close x.ref ∉ post) :
    let p := (timed deps world).run (es ++ [.connect x.params now now'])
    (timed deps world).AlongFrom (fun q e => OnTime x.ref q.1.timers q.2 e) p post →
    let q := (timed deps world).runFrom p post
    q.2.fired x.ref ≤ firings (E - now') ∧
      (q.1.registry.sessions.lookup x.clientId = some x ↔
        q.2.fired x.ref < firings (E - now')) ∧
      ∀ post' e, post' ++ [e] <+: post →
        ((timed deps world).runFrom p post').1.registry.sessions.lookup x.clientId = some x →
        ((timed deps world).runFrom p (post' ++ [e])).1.registry.Gone x →
          ∃ id, e = .timer id E E := by
  intro p hon q
  obtain ⟨hstart, -⟩ := ticking_connect deps world es hx now hE (sub_pos.mp hleft)
  have hE' : x.expiresAt = .fin (now' + (E - now')) := by rw [hE, add_sub_cancel]
  have hrun : ∀ post', .destroy ∉ post' → .close x.ref ∉ post' →
      (timed deps world).AlongFrom (fun q e => OnTime x.ref q.1.timers q.2 e) p post' → _ :=
    fun post' hdestroy hclose hon => onTime_run deps world hE' hdestroy hclose hon hstart
  have hq := hrun post hdestroy hclose hon
  rw [System.run_append] at hq
  refine ⟨?_, ?_, ?_⟩
  · rcases hq with h | h
    · exact h.early.le
    · exact h.last.le
  · rcases hq with h | h
    · exact iff_of_true h.held h.early
    · exact iff_of_false h.gone.2 (by rw [h.last]; exact lt_irrefl _)
  · rintro post' e ⟨rest, rfl⟩ hheld hgone
    rw [List.append_assoc, List.mem_append, List.mem_append, List.mem_singleton, not_or, not_or]
      at hdestroy hclose
    rw [List.append_assoc, System.alongFrom_append, System.alongFrom_append,
      ← System.run_append] at hon
    rw [← System.run_append] at hheld hgone
    rw [← List.append_assoc] at hgone
    rcases hrun post' hdestroy.1 hclose.1 hon.1 with h | h
    · rcases onTime_step deps world hE' (Ne.symm hdestroy.2.1) (Ne.symm hclose.2.1)
        hon.2.1.1 h with h | ⟨-, id, hid⟩
      · exact absurd h.held hgone.2
      · exact ⟨id, by rw [hid, add_sub_cancel]⟩
    · exact absurd hheld h.gone.2

/-- Until shutdown the pending timers are the registered sessions' own, and their delays are
within bounds.  A session expires at a clock reading not before its expiry, and then its socket
is terminated, once, unless its own `close` came first.  One that has expired when it is
scheduled goes at once.  One that has not, and whose timers fire on time, goes with the last
of the timers it needs, at its expiry. -/
theorem expiry_timers (es : List WsEvent) (hes : .destroy ∉ es) :
    let s := (system deps world).run es
    ((s.timers.pending.map (·.ref)).Nodup ∧ ∀ ref, ref ∈ s.timers.pending.map (·.ref) ↔
        ∃ x, s.registry.sessions.lookup x.clientId = some x ∧ x.ref = ref) ∧
      (∀ timer ∈ s.timers.pending, ∀ x E, s.registry.built[timer.ref]? = some x →
        x.expiresAt = .fin E →
          ∃ delay, timer.delay = .fin delay ∧ 0 < delay ∧ delay ≤ MAX_TIMER_DELAY_MS) ∧
      (∀ e x E, s.registry.Expires e (step deps s e).registry x → x.expiresAt = .fin E →
        ∃ now ∈ e.readings, E ≤ now) ∧
      (∃ ended : List Session, ended.Nodup ∧ terminated s.trace = ended.map (·.socket) ∧
        (∀ x, x ∈ ended ↔ ExpiresIn deps world es x) ∧
        ∀ pre x, pre ++ [.close x.ref] <+: es →
          ((system deps world).run pre).registry.sessions.lookup x.clientId = some x →
            x ∉ ended) ∧
      (∀ x now now' E, Fresh deps s.registry x → x.expiresAt = .fin E → E ≤ now' →
        let t := step deps s (.connect x.params now now')
        t.registry.Gone x ∧ t.timers = s.timers ∧
          terminated t.trace = terminated s.trace ++ [x.socket]) ∧
      ∀ x now now' E post, Fresh deps s.registry x → x.expiresAt = .fin E → 0 < E - now' →
        .destroy ∉ post → .close x.ref ∉ post →
        let p := (timed deps world).run (es ++ [.connect x.params now now'])
        (timed deps world).AlongFrom (fun q e => OnTime x.ref q.1.timers q.2 e) p post →
        let q := (timed deps world).runFrom p post
        q.2.fired x.ref ≤ firings (E - now') ∧
          (q.1.registry.sessions.lookup x.clientId = some x ↔
            q.2.fired x.ref < firings (E - now')) ∧
          ∀ post' e, post' ++ [e] <+: post →
            ((timed deps world).runFrom p post').1.registry.sessions.lookup x.clientId = some x →
            ((timed deps world).runFrom p (post' ++ [e])).1.registry.Gone x →
              ∃ id, e = .timer id E E := by
  intro s
  refine ⟨pending_refs deps world es hes, ?_, ?_, ?_, ?_, ?_⟩
  · exact fun timer hmem x E hbuilt hE => pending_delay deps world es hmem hbuilt hE
  · exact fun e x E h hE => reading_of_expires deps (valid_run deps world es) h hE
  · obtain ⟨ended, hnodup, htrace, hmem⟩ := terminated_run deps world es
    refine ⟨ended, hnodup, htrace, hmem, fun pre x hpre hheld hin => ?_⟩
    exact not_expiresIn_of_closed deps world hpre hheld ((hmem x).mp hin)
  · intro x now now' E hx hE hdue
    exact connect_expired deps world es hx now (by rwa [hE, expired_fin])
  · intro x now now' E post hx hE hleft hdestroy hclose
    exact released_onTime deps world es hx now hE hleft hdestroy hclose

def longLived : Session := ⟨0, "u", "tab", 0, "0", .fin 5000000000⟩

def untracked : Deps Unit where
  json := ⟨fun _ => "", fun _ => none⟩
  trackers := []
  randomUUID n := toString n

def rearmings : List WsEvent :=
  [.timer 0 2147483647 2147483647, .timer 1 4294967294 4294967294,
    .timer 2 5000000000 5000000000]

theorem expiry_timers_longLived :
    let p := (timed untracked ()).run [.connect longLived.params 0 0]
    let q := (timed untracked ()).runFrom p rearmings
    q.2.fired 0 ≤ firings 5000000000 ∧
      (q.1.registry.sessions.lookup "tab" = some longLived ↔
        q.2.fired 0 < firings 5000000000) := by
  have h := (expiry_timers untracked () [] (by simp)).2.2.2.2.2 longLived 0 0 5000000000
    rearmings ⟨rfl, rfl, by decide +kernel⟩ rfl (by norm_num) (by simp [rearmings])
    (by simp [rearmings]) (by decide +kernel)
  rw [sub_zero] at h
  exact ⟨h.1, h.2.1⟩

end WsService

end NestBackend.Ws
