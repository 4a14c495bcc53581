import NestBackend.Ws.OnTime

namespace NestBackend.Ws

open NestBackend.Js
open NestBackend.Lib

variable {τ : Type}

def Belongs (s : WsService τ) (x : Session) : WsEvent → Prop
  | .close ref => s.registry.built[ref]? = some x
  | .timer id _ _ => ∃ timer ∈ s.timers.pending, timer.id = id ∧
      s.registry.built[timer.ref]? = some x
  | _ => False

structure SameFor (y : Session) (o o' : Outline) : Prop where
  entry : o'.registry.sessions.lookup y.clientId = some y ↔
    o.registry.sessions.lookup y.clientId = some y
  member : o.registry.sessions.lookup y.clientId = some y →
    o'.registry.Member y.userId y.clientId
  timer : o'.timers.expiryTimer y.ref = o.timers.expiryTimer y.ref
  pending : o'.timers.pending.filter (·.ref = y.ref) = o.timers.pending.filter (·.ref = y.ref)

theorem filter_clear {r : Registry} {t : Timers} (ho : Owned r t) {x : Session} {ref : Nat}
    (hne : ref ≠ x.ref) : (t.clearExpiryTimer x).pending.filter (·.ref = ref) =
      t.pending.filter (·.ref = ref) := by
  cases hid : t.expiryTimer x.ref with
  | none => rw [Timers.clear_of_none hid]
  | some id =>
    obtain ⟨own, hown, rfl, href⟩ := ho.mem_pending hid
    rw [Timers.clear_of_some hid, List.filter_filter]
    refine List.filter_congr fun timer hmem => ?_
    by_cases hy : timer.ref = ref
    · have hother : timer.id ≠ own.id := fun heq => hne (by
        rw [← hy, ← href, List.inj_on_of_nodup_map ho.ids hmem hown heq])
      simp [hy, hother]
    · simp [hy]

namespace SameFor

variable {o o' : Outline} {x y : Session}

theorem refl (hv : o.registry.Valid) : SameFor y o o :=
  ⟨Iff.rfl, fun h => hv.member.mpr ⟨y, h, rfl⟩, rfl, rfl⟩

theorem act (h : SameFor y o o') (effects : List Effect) : SameFor y o (o'.act effects) :=
  ⟨h.entry, h.member, h.timer, h.pending⟩

theorem release (hv : o.registry.Valid) (ho : Owned o.registry o.timers)
    (hx : o.registry.sessions.lookup x.clientId = some x) (hne : y.ref ≠ x.ref) :
    SameFor y o (o.release x) where
  entry := (hv.lookup_drop_iff hx).trans (and_iff_left hne)
  member hy := (hv.drop hx).member.mpr ⟨y, (hv.lookup_drop_iff hx).mpr ⟨hy, hne⟩, rfl⟩
  timer := by
    rw [Outline.release, Timers.expiryTimer_clear, Function.update_of_ne hne]
  pending := filter_clear ho hne

theorem rearm (hv : o.registry.Valid) (ho : Owned o.registry o.timers)
    {id : Nat} (hid : o.timers.expiryTimer x.ref = some id) (now : ℚ) (hne : y.ref ≠ x.ref) :
    SameFor y o ((o.take id).arm x now) := by
  have htimers : ((o.take id).arm x now).timers =
      (o.timers.clearExpiryTimer x).setExpiryTimer x (x.expiresAt.sub (.fin now)) :=
    Timers.set_take hid _
  refine ⟨Iff.rfl, fun h => hv.member.mpr ⟨y, h, rfl⟩, ?_, ?_⟩
  · rw [htimers, Timers.expiryTimer_set, Function.update_of_ne hne, Timers.expiryTimer_clear,
      Function.update_of_ne hne]
  · rw [htimers, Timers.setExpiryTimer, List.filter_append, filter_clear ho hne]
    simp [Ne.symm hne]

end SameFor

theorem Belongs.built {s : WsService τ} {x : Session} {e : WsEvent} (h : Belongs s x e) :
    x ∈ s.registry.built := by
  cases e with
  | close ref => exact List.mem_of_getElem? h
  | timer id now now' =>
    obtain ⟨timer, -, -, hx⟩ := h
    exact List.mem_of_getElem? hx
  | _ => exact h.elim

theorem Belongs.timer {s : WsService τ} (ho : Owned s.registry s.timers) {x z : Session}
    {id : Nat} {now now' : ℚ} (h : Belongs s x (.timer id now now')) {timer : Timer}
    (hmem : timer ∈ s.timers.pending) (hid : timer.id = id)
    (hz : s.registry.built[timer.ref]? = some z) : z = x := by
  obtain ⟨own, hown, hid', hx⟩ := h
  obtain rfl := List.inj_on_of_nodup_map ho.ids hmem hown (hid.trans hid'.symm)
  exact Option.some.inj (hz.symm.trans hx)

theorem turn_belongs {deps : Deps τ} {s : WsService τ} (hv : s.registry.Valid)
    (ho : Owned s.registry s.timers) {x : Session} {e : WsEvent} (hx : Belongs s x e)
    {o' : Outline} (ht : Turn deps s.outline e o') :
    (∀ y ∈ s.registry.built, y ≠ x → SameFor y s.outline o') ∧
      ∃ done, o'.sockets = s.outline.sockets ++ done ∧
        ∀ effect ∈ done, effect = .socketTerminate x.socket := by
  have href : ∀ y ∈ s.registry.built, y ≠ x → y.ref ≠ x.ref := fun y hy hne heq =>
    hne (hv.ref_inj hy hx.built heq)
  cases ht with
  | quiet he => cases e <;> simp_all [Belongs, WsEvent.quiet]
  | refused | admitted | lapsed | destroyed => exact hx.elim
  | closed z hheld =>
    obtain rfl := Option.some.inj (hx.symm.trans (hv.built hheld))
    exact ⟨fun y hy hne => .release hv ho hheld (href y hy hne), [], by simp [Outline.release],
      by simp⟩
  | closedLate | unarmed => exact ⟨fun y _ _ => .refl hv, [], by simp, by simp⟩
  | @rearmed timer z now now' id hfind hbuilt hlive =>
    obtain ⟨hmem, hid, z', hz, -, -, hslot⟩ := ho.found hv hfind
    obtain rfl := Option.some.inj (hz.symm.trans hbuilt)
    obtain rfl := hx.timer ho hmem hid hbuilt
    exact ⟨fun y hy hne => .rearm hv ho hslot now' (href y hy hne), [],
      by simp [Outline.arm, Outline.take], by simp⟩
  | @ended timer z now now' id hfind hbuilt hdue hheld =>
    obtain ⟨hmem, hid, z', hz, -, -, hslot⟩ := ho.found hv hfind
    obtain rfl := Option.some.inj (hz.symm.trans hbuilt)
    obtain rfl := hx.timer ho hmem hid hbuilt
    rw [Outline.release_take hslot]
    exact ⟨fun y hy hne => (SameFor.release hv ho hheld (href y hy hne)).act _, _, rfl, by simp⟩
  | endedLate hfind hbuilt hdue hstale =>
    obtain ⟨-, -, z, hz, -, hheld, -⟩ := ho.found hv hfind
    obtain rfl := Option.some.inj (hz.symm.trans hbuilt)
    exact absurd hheld hstale

namespace WsService

theorem step_late {deps : Deps τ} {s : WsService τ} (hv : s.registry.Valid)
    (ho : Owned s.registry s.timers) {x : Session} {e : WsEvent} (hx : Belongs s x e)
    (hout : s.registry.sessions.lookup x.clientId ≠ some x) : step deps s e = s := by
  cases e with
  | close ref =>
    have hb : s.registry.built[ref]? = some x := hx
    have hholds : s.registry.holds x = false := by
      rw [← Bool.not_eq_true, hv.holds_iff (hv.getElem_ref (List.mem_of_getElem? hb))]
      exact hout
    simp only [step, hb, release_of_not_holds hholds]
  | timer id now now' =>
    obtain ⟨timer, hmem, -, hb⟩ := hx
    obtain ⟨y, hy, href⟩ := ho.owner timer.ref timer.id
      ((ho.slot _ _).mpr ⟨timer, hmem, rfl, rfl⟩)
    have hyb := hv.built hy
    rw [href, hb] at hyb
    obtain rfl := Option.some.inj hyb
    exact absurd hy hout
  | _ => exact hx.elim

/-- A close event or a timer of a session leaves every other session as it is, and touches no
other socket; once the session is no longer registered it changes nothing at all. -/
theorem stale_events (deps : Deps τ) (world : τ) (es : List WsEvent) (x : Session) (e : WsEvent)
    (h : Belongs ((system deps world).run es) x e) :
    let s := (system deps world).run es
    let t := step deps s e
    (∀ y ∈ s.registry.built, y ≠ x → SameFor y s.outline t.outline) ∧
      (∃ done, socketLog t.trace = socketLog s.trace ++ done ∧
        ∀ effect ∈ done, effect = .socketTerminate x.socket) ∧
      (s.registry.sessions.lookup x.clientId ≠ some x → t = s) := by
  intro s t
  have hv : s.registry.Valid := valid_run deps world es
  have ho : Owned s.registry s.timers := owned_run deps world es
  obtain ⟨hsame, hdone⟩ := turn_belongs hv ho h (turn_step deps hv e)
  exact ⟨hsame, hdone, step_late hv ho h⟩

/-- Alice's token expires, Bob takes her client id, and only then her socket closes. -/
def closedLate : List WsEvent :=
  [.connect ⟨0, some "alice", some "tab", .fin 1000⟩ 0 0, .timer 0 1000 1000,
    .connect ⟨1, some "bob", some "tab", .fin 5000⟩ 2000 2000]

theorem stale_events_closedLate :
    step untracked ((system untracked ()).run closedLate) (.close 0) =
      (system untracked ()).run closedLate :=
  (stale_events untracked () closedLate ⟨0, "alice", "tab", 0, "0", .fin 1000⟩ (.close 0)
    (by change _ = some _; decide +kernel)).2.2 (by decide +kernel)

end WsService

end NestBackend.Ws
