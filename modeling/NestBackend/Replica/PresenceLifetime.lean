import NestBackend.Replica.Subscriptions
import NestBackend.Ws.OnTime

namespace NestBackend.Replica

open NestBackend.Js
open NestBackend.Lib
open NestBackend.Presence
open NestBackend.Ws
open NestBackend.Ws.WsService

def connectRow (x : Session) (now : ℚ) : ClientRow where
  userId := x.userId
  expiresAt := buildExpiresAt (some CLIENT_PRESENCE_TTL_SECONDS) none now
  presenceToken := x.presenceToken

def UpToDate {τ : Type} (ref : Nat) (t : ℚ) (p : WsService τ × Alarms) : Prop :=
  ∀ timer ∈ p.1.timers.pending, timer.ref = ref → ∀ delay, timer.delay = .fin delay →
    t < p.2.armedAt timer.id + delay

def RowOutlives (rt : Runtime) (es : List WsEvent) (x : Session) (now now' : ℚ) : Prop :=
  ∀ post t, .destroy ∉ post →
    let p := (timed rt.deps .start).run (es ++ .connect x.params now now' :: post)
    p.1.registry.sessions.lookup x.clientId = some x → UpToDate x.ref t p →
      t < (connectRow x now).expiresAt * 1000

theorem inFlight_prefix_move (rt : Runtime) (o : Observed World) (m : Move) :
    o.world.presence.inFlight <+: (o.move rt.deps m).world.presence.inFlight := by
  cases m with
  | register u c socket expiresAt now =>
    rw [Observed.move]
    split
    · exact List.prefix_refl _
    · exact List.prefix_append _ _
  | release ref =>
    rw [Observed.move]
    split
    · split
      · exact List.prefix_append _ _
      · exact List.prefix_refl _
    · exact List.prefix_refl _

theorem inFlight_prefix_foldl_move (rt : Runtime) (o : Observed World) (ms : List Move) :
    o.world.presence.inFlight <+: (ms.foldl (Observed.move rt.deps) o).world.presence.inFlight := by
  induction ms generalizing o with
  | nil => exact List.prefix_refl _
  | cons m ms ih => exact (inFlight_prefix_move rt o m).trans (ih _)

theorem putClient_mem_inFlight (rt : Runtime) {s : Replica} {x : Session}
    (hx : Fresh rt.deps s.registry x) (now now' : ℚ) : .putClient x.clientId (connectRow x now) ∈
      (WsService.step rt.deps s (.connect x.params now now')).world.presence.inFlight := by
  have hunused : (s.registry.getSession x.clientId).isSome = false := by
    simp [Registry.getSession, hx.unused]
  have hsession : Observed.newSession rt.deps s.registry x.userId x.clientId x.socket
      x.expiresAt = x := Fresh.eq ⟨hx.unused, rfl, rfl⟩ hx rfl
  have hmoves : ∃ ms, moves s (.connect x.params now now') =
      .register x.userId x.clientId x.socket x.expiresAt now :: ms := by
    simp only [moves, connectMoves, Session.params, hunused]
    exact ⟨_, rfl⟩
  obtain ⟨ms, hms⟩ := hmoves
  change _ ∈ (WsService.step rt.deps s _).observed.world.presence.inFlight
  rw [observed_step, hms, List.foldl_cons]
  refine (inFlight_prefix_foldl_move rt _ ms).subset ?_
  have hnot : ¬ (s.observed.registry.getSession x.clientId).isSome = true := by
    simp [observed, hunused]
  rw [Observed.move, if_neg hnot, show s.observed.registry = s.registry from rfl, hsession]
  change _ ∈ s.world.presence.inFlight ++ [_, _]
  simp [connectRow]

theorem exists_ticking (rt : Runtime) {es : List WsEvent} {x : Session} {began remaining : ℚ}
    (hE : x.expiresAt = .fin (began + remaining))
    (hstart : let p := (timed rt.deps .start).run es
      Ticking x began remaining p.1.registry p.1.timers p.2)
    {k : Nat} (hk : ((timed rt.deps .start).run es).2.fired x.ref = k) (n : Nat)
    (hn : k + n < firings remaining) : ∃ post, .destroy ∉ post ∧
      let p := (timed rt.deps .start).run (es ++ post)
      Ticking x began remaining p.1.registry p.1.timers p.2 ∧ p.2.fired x.ref = k + n := by
  induction n with
  | zero => exact ⟨[], by simp, by simpa using ⟨hstart, hk⟩⟩
  | succ n ih =>
    obtain ⟨post, hpost, h, hfired⟩ := ih (by omega)
    have ho := owned_run rt.deps .start (es ++ post)
    have hx := exact_run rt.deps .start (es ++ post)
    rw [← fst_run_timed] at ho hx
    obtain ⟨timer, hmem, href, -⟩ := h.armed
    obtain ⟨delay, hdelay, -⟩ := hx.delay hmem h.held href.symm hE
    set p := (timed rt.deps .start).run (es ++ post) with hp
    set due := p.2.armedAt timer.id + delay with hdue
    have htarget : Alarms.target p.1.timers (.timer timer.id due due) = some x.ref := by
      simp [Alarms.target, ho.find hmem, href]
    have hfires : ((timed rt.deps .start).run (es ++ post ++ [.timer timer.id due due])).2.fired
        x.ref = k + (n + 1) := by
      rw [System.run_concat]
      exact (Alarms.fired_note_self htarget p.2).trans (by rw [hfired]; rfl)
    have hon : OnTime x.ref p.1.timers p.2 (.timer timer.id due due) := by
      intro timer' hmem' hid' _
      obtain rfl := List.inj_on_of_nodup_map ho.ids hmem' hmem hid'
      exact ⟨rfl, by rw [hdelay, hdue, add_sub_cancel_left]⟩
    refine ⟨post ++ [.timer timer.id due due], by simp [hpost], ?_⟩
    rw [← List.append_assoc]
    rcases onTime_step rt.deps .start hE (by simp) (by simp) hon h with hnext | ⟨hlapsed, -⟩
    · exact ⟨hnext, hfires⟩
    · have hlast := hlapsed.last
      rw [hfires] at hlast
      omega

theorem upToDate_of_ticking {τ : Type} {x : Session} {began remaining t : ℚ}
    {p : WsService τ × Alarms} (ho : Owned p.1.registry p.1.timers)
    (hx : Exact p.1.registry p.1.timers p.2.armedAt)
    (h : Ticking x began remaining p.1.registry p.1.timers p.2)
    (hE : x.expiresAt = .fin (began + remaining)) (ht : t < began + remaining)
    (hnext : t < began + (p.2.fired x.ref + 1) * MAX_TIMER_DELAY_MS) : UpToDate x.ref t p := by
  intro timer hmem href delay hdelay
  obtain ⟨own, hown, hownref, hat⟩ := h.armed
  obtain rfl := ho.sole hmem hown (href.trans hownref.symm)
  obtain ⟨-, hset⟩ := hx timer hmem x h.held href.symm
  rw [hdelay, hE, Number.sub, Number.min_fin, Number.fin.injEq] at hset
  rw [hset, ← min_add_add_left, add_sub_cancel, hat]
  refine lt_min ht ?_
  linarith

theorem exists_registered (rt : Runtime) {es : List WsEvent} {x : Session} {now' E t : ℚ}
    (hx : Fresh rt.deps ((WsService.system rt.deps .start).run es).registry x) (now : ℚ)
    (hE : x.expiresAt = .fin E) (hbegan : now' ≤ t) (ht : t < E) : ∃ post, .destroy ∉ post ∧
      let p := (timed rt.deps .start).run (es ++ .connect x.params now now' :: post)
      p.1.registry.sessions.lookup x.clientId = some x ∧ UpToDate x.ref t p := by
  obtain ⟨hstart, hfired⟩ := ticking_connect rt.deps .start es hx now hE (hbegan.trans_lt ht)
  have hE' : x.expiresAt = .fin (now' + (E - now')) := by rw [hE, add_sub_cancel]
  have hmax : 0 < MAX_TIMER_DELAY_MS := by norm_num [MAX_TIMER_DELAY_MS]
  have hfloor : ⌊(t - now') / MAX_TIMER_DELAY_MS⌋₊ * MAX_TIMER_DELAY_MS ≤ t - now' :=
    (le_div_iff₀ hmax).mp (Nat.floor_le (div_nonneg (sub_nonneg.mpr hbegan) hmax.le))
  have hover : t - now' < (⌊(t - now') / MAX_TIMER_DELAY_MS⌋₊ + 1) * MAX_TIMER_DELAY_MS :=
    (div_lt_iff₀ hmax).mp (Nat.lt_floor_add_one _)
  obtain ⟨post, hpost, h, hn⟩ := exists_ticking rt hE' hstart hfired
    ⌊(t - now') / MAX_TIMER_DELAY_MS⌋₊ (by rw [Nat.zero_add, lt_firings]; linarith)
  have hsplit : es ++ .connect x.params now now' :: post =
      es ++ [.connect x.params now now'] ++ post := by simp
  refine ⟨post, hpost, ?_⟩
  rw [hsplit]
  have ho := owned_run rt.deps .start (es ++ [.connect x.params now now'] ++ post)
  have hexact := exact_run rt.deps .start (es ++ [.connect x.params now now'] ++ post)
  rw [← fst_run_timed] at ho hexact
  refine ⟨h.held, upToDate_of_ticking ho hexact h hE' (by linarith) ?_⟩
  rw [hn, Nat.zero_add]
  linarith

theorem lt_of_upToDate (rt : Runtime) {es : List WsEvent} (hes : .destroy ∉ es) {x : Session}
    {E t : ℚ} (hE : x.expiresAt = .fin E)
    (hheld : ((WsService.system rt.deps .start).run es).registry.sessions.lookup x.clientId =
      some x)
    (h : UpToDate x.ref t ((timed rt.deps .start).run es)) : t < E := by
  have ho := owned_run rt.deps .start es
  have hexact := exact_run rt.deps .start es
  obtain ⟨id, hid⟩ := timed_run rt.deps .start hes x hheld
  obtain ⟨timer, hmem, rfl, href⟩ := ho.mem_pending hid
  obtain ⟨-, hset⟩ := hexact timer hmem x hheld href.symm
  rw [hE, Number.sub, Number.min_fin] at hset
  rw [← fst_run_timed] at hmem
  have hdue := h timer hmem href _ hset
  have := min_le_left (E - ((timed rt.deps .start).run es).2.armedAt timer.id) MAX_TIMER_DELAY_MS
  linarith

/-- The row lasts as long as the session exactly when the token expires no later than the row,
or has expired by the time the session is scheduled. -/
theorem rowOutlives_iff (rt : Runtime) (es : List WsEvent) (hes : .destroy ∉ es) (x : Session)
    (now now' E : ℚ) (hx : Fresh rt.deps ((WsService.system rt.deps .start).run es).registry x)
    (hE : x.expiresAt = .fin E) :
    DynamoRequest.putClient x.clientId (connectRow x now) ∈
        ((WsService.system rt.deps .start).run
          (es ++ [.connect x.params now now'])).world.presence.inFlight ∧
      (RowOutlives rt es x now now' ↔
        E ≤ now' ∨ E ≤ (connectRow x now).expiresAt * 1000) := by
  have hv := WsService.valid_run rt.deps .start es
  refine ⟨?_, fun h => ?_, ?_⟩
  · rw [System.run_concat]
    exact putClient_mem_inFlight rt hx now now'
  · by_contra hlate
    rw [not_or, not_le, not_le] at hlate
    obtain ⟨post, hpost, hheld, hup⟩ := exists_registered rt hx now hE
      (le_max_left now' ((connectRow x now).expiresAt * 1000)) (max_lt hlate.1 hlate.2)
    exact absurd (h post _ hpost hheld hup) (not_lt.mpr (le_max_right _ _))
  · rintro h post t hpost p hheld hup
    have hall : .destroy ∉ es ++ .connect x.params now now' :: post := by
      simp [hes, hpost]
    have hheld' : ((WsService.system rt.deps .start).run
        (es ++ .connect x.params now now' :: post)).registry.sessions.lookup x.clientId =
          some x := by
      rw [← fst_run_timed]
      exact hheld
    have hlt := lt_of_upToDate rt hall hE hheld' hup
    rcases h with hdue | hrow
    · have hgone : ((WsService.system rt.deps .start).run
          (es ++ [.connect x.params now now'])).registry.Gone x := by
        rw [System.run_concat]
        exact gone_connect rt.deps hv hx now (by rwa [hE, expired_fin])
      have hprefix : es ++ [.connect x.params now now'] <+:
          es ++ .connect x.params now now' :: post := ⟨post, by simp⟩
      exact absurd hheld' (gone_of_initial rt.deps .start hprefix hgone).2
    · exact hlt.trans_le hrow

def firstSession (lifetime : ℚ) : Session :=
  ⟨0, "u", "a", 0, sample.randomUUID 0, .fin lifetime⟩

theorem fresh_firstSession (lifetime : ℚ) : Fresh sample.deps
    ((WsService.system sample.deps .start).run []).registry (firstSession lifetime) :=
  ⟨rfl, rfl, rfl⟩

theorem rowOutlives_oneHour : RowOutlives sample [] (firstSession 3600000) 0 0 :=
  (rowOutlives_iff sample [] (by simp) (firstSession 3600000) 0 0 3600000
    (fresh_firstSession 3600000) rfl).2.mpr (.inr (by decide +kernel))

theorem not_rowOutlives_twoDays : ¬ RowOutlives sample [] (firstSession 172800000) 0 0 := by
  intro h
  obtain ⟨post, hpost, hheld, hup⟩ := exists_registered sample (fresh_firstSession 172800000) 0
    rfl (show (0 : ℚ) ≤ 86400000 by norm_num) (by norm_num)
  exact absurd (h post _ hpost hheld hup) (by decide +kernel)

end NestBackend.Replica
