import NestBackend.Ws.Effects
import NestBackend.Ws.OnTime

namespace NestBackend.Ws

open NestBackend.Js
open NestBackend.Lib

variable {τ : Type}

def Effect.socket : Effect → Option Socket
  | .socketOn socket _ | .socketClose socket _ _ | .socketTerminate socket
  | .socketSend _ socket _ => some socket
  | _ => none

def usesOf (socket : Socket) (log : List Effect) : List Effect :=
  log.filter (·.socket = some socket)

def WsEvent.upgraded : WsEvent → Option Socket
  | .connect params _ _ => some params.socket
  | _ => none

theorem usesOf_append (k : Socket) (log added : List Effect) :
    usesOf k (log ++ added) = usesOf k log ++ usesOf k added := List.filter_append ..

theorem usesOf_socketLog (k : Socket) (trace : List Effect) :
    usesOf k (socketLog trace) = usesOf k trace := by
  rw [usesOf, usesOf, socketLog, List.filter_filter]
  refine List.filter_congr fun effect _ => ?_
  cases effect <;> simp [Effect.socket, Effect.onSocket]

theorem usesOf_frames (k : Socket) (frames : List SentFrame) :
    usesOf k (frames.map SentFrame.effect) =
      (frames.filter (·.socket = k)).map SentFrame.effect := by
  rw [usesOf, List.filter_map]
  congr 2
  funext frame
  simp [SentFrame.effect, Effect.socket]

theorem usesOf_on {k : Socket} {added : List Effect}
    (h : ∀ effect ∈ added, effect.socket = some k) : usesOf k added = added := by
  simpa [usesOf, List.filter_eq_self] using h

theorem usesOf_off {k m : Socket} {added : List Effect}
    (h : ∀ effect ∈ added, effect.socket = some m) (hne : m ≠ k) : usesOf k added = [] := by
  rw [usesOf, List.filter_eq_nil_iff]
  intro effect hmem
  simpa [h effect hmem] using hne

inductive Touch (r : Registry) (up : Option Socket) : Registry → List Effect → Prop
  | frames (frames : List SentFrame) (h : ∀ frame ∈ frames, ∃ x,
      r.sessions.lookup x.clientId = some x ∧ frame = x.frame frame.payload) :
      Touch r up r (frames.map SentFrame.effect)
  | refused (k : Socket) (reason : String) (hup : up = some k) :
      Touch r up r [.socketClose k WS_CLOSE_POLICY_VIOLATION reason]
  | entered (x : Session) (hup : up = some x.socket)
      (hunused : r.sessions.lookup x.clientId = none) (href : x.ref = r.built.length) :
      Touch r up (r.enroll x) (listeners x.socket)
  | lapsed (x : Session) (hup : up = some x.socket)
      (hunused : r.sessions.lookup x.clientId = none) (href : x.ref = r.built.length) :
      Touch r up ((r.enroll x).drop x) (listeners x.socket ++ [.socketTerminate x.socket])
  | left (x : Session) (hheld : r.sessions.lookup x.clientId = some x) : Touch r up (r.drop x) []
  | ended (x : Session) (hheld : r.sessions.lookup x.clientId = some x) :
      Touch r up (r.drop x) [.socketTerminate x.socket]

theorem touch_step (deps : Deps τ) {s : WsService τ} (hv : s.registry.Valid) (e : WsEvent) :
    ∃ added, socketLog (WsService.step deps s e).trace = socketLog s.trace ++ added ∧
      Touch s.registry e.upgraded (WsService.step deps s e).registry added := by
  have hturn := WsService.turn_step deps hv e
  generalize ho : (WsService.step deps s e).outline = o at hturn
  have hlog : socketLog (WsService.step deps s e).trace = o.sockets := congrArg Outline.sockets ho
  have hregistry : (WsService.step deps s e).registry = o.registry := congrArg Outline.registry ho
  rw [hlog, hregistry]
  have hsilent : ∀ added, o.sockets = socketLog s.trace ++ added → added = [] →
      o.registry = s.registry → ∃ added, o.sockets = socketLog s.trace ++ added ∧
        Touch s.registry e.upgraded o.registry added := by
    rintro _ h rfl hr
    refine ⟨[], h, ?_⟩
    rw [hr]
    exact .frames [] (fun _ h => absurd h List.not_mem_nil)
  cases hturn with
  | quiet he frames =>
    obtain ⟨effects, htrace, htraced⟩ := WsService.traced_step deps hv e
    have hsame : socketLog effects = frames.map SentFrame.effect := by
      have hboth := hlog
      rw [htrace, socketLog_append] at hboth
      exact List.append_cancel_left hboth
    refine ⟨_, rfl, .frames frames fun frame hmem => ?_⟩
    have hin : frame.effect ∈ effects :=
      List.mem_of_mem_filter (hsame ▸ List.mem_map_of_mem hmem)
    obtain ⟨io, -, x, hx, -, hframe⟩ := htraced.sent frame
      (List.mem_filterMap.mpr ⟨frame.effect, hin, rfl⟩)
    exact ⟨x, hx, hframe⟩
  | refused now now' h => exact ⟨_, rfl, .refused _ _ rfl⟩
  | admitted x now hx hlive => exact ⟨_, rfl, .entered x rfl hx.unused hx.ref⟩
  | lapsed x now hx hdue =>
    exact ⟨_, List.append_assoc .., .lapsed x rfl hx.unused hx.ref⟩
  | closed x hheld => exact ⟨[], (List.append_nil _).symm, .left x hheld⟩
  | closedLate | unarmed => exact hsilent [] (List.append_nil _).symm rfl rfl
  | rearmed | endedLate | destroyed => exact hsilent [] (List.append_nil _).symm rfl rfl
  | @ended timer x now now' id hfind hbuilt hdue hheld => exact ⟨_, rfl, .ended x hheld⟩

/-- What a socket has been used for: nothing yet, a refusal, or one session, whose listeners and
frames it carries, and which is gone once the socket has been terminated. -/
inductive SocketUse (r : Registry) (k : Socket) : List Effect → Prop
  | untouched (hno : ∀ x ∈ r.built, x.socket ≠ k) : SocketUse r k []
  | refused (hno : ∀ x ∈ r.built, x.socket ≠ k) (reason : String) :
      SocketUse r k [.socketClose k WS_CLOSE_POLICY_VIOLATION reason]
  | serving (x : Session) (hx : x ∈ r.built) (hsocket : x.socket = k) (payloads : List String) :
      SocketUse r k (listeners k ++ payloads.map fun p => (x.frame p).effect)
  | terminated (x : Session) (hx : x ∈ r.built) (hsocket : x.socket = k)
      (payloads : List String) (hgone : r.sessions.lookup x.clientId ≠ some x) :
      SocketUse r k (listeners k ++ payloads.map (fun p => (x.frame p).effect) ++
        [.socketTerminate k])

theorem SocketUse.mono {r r' : Registry} {k : Socket} {log : List Effect} (h : SocketUse r k log)
    (hbuilt : ∀ x ∈ r.built, x ∈ r'.built)
    (hnew : ∀ x ∈ r'.built, x.socket = k → x ∈ r.built)
    (hgone : ∀ x ∈ r.built, r'.sessions.lookup x.clientId = some x →
      r.sessions.lookup x.clientId = some x) : SocketUse r' k log := by
  cases h with
  | untouched hno => exact .untouched fun x hx hk => hno x (hnew x hx hk) hk
  | refused hno reason => exact .refused (fun x hx hk => hno x (hnew x hx hk) hk) reason
  | serving x hx hsocket payloads => exact .serving x (hbuilt x hx) hsocket payloads
  | terminated x hx hsocket payloads hout =>
    exact .terminated x (hbuilt x hx) hsocket payloads fun hin => hout (hgone x hx hin)

structure Disciplined (r : Registry) (log : List Effect) (seen : List Socket) : Prop where
  known : ∀ x ∈ r.built, x.socket ∈ seen
  one : ∀ x ∈ r.built, ∀ y ∈ r.built, x.socket = y.socket → x = y
  unseen : ∀ k, k ∉ seen → usesOf k log = []
  use : ∀ k, SocketUse r k (usesOf k log)

namespace Disciplined

variable {r r' : Registry} {log added : List Effect} {seen : List Socket} {up : Option Socket}

theorem init : Disciplined .empty [] [] :=
  ⟨fun _ h => absurd h List.not_mem_nil, fun _ h => absurd h List.not_mem_nil, fun _ _ => rfl,
    fun _ => .untouched fun _ h => absurd h List.not_mem_nil⟩

theorem serves (hv : r.Valid) (h : Disciplined r log seen) {x : Session}
    (hheld : r.sessions.lookup x.clientId = some x) : ∃ payloads : List String,
      usesOf x.socket log = listeners x.socket ++ payloads.map fun p => (x.frame p).effect := by
  have hx : x ∈ r.built := List.mem_of_getElem? (hv.built hheld)
  have huse := h.use x.socket
  generalize usesOf x.socket log = uses at huse
  cases huse with
  | untouched hno | refused hno => exact absurd rfl (hno x hx)
  | serving y hy hsocket payloads =>
    obtain rfl := h.one y hy x hx hsocket
    exact ⟨payloads, rfl⟩
  | terminated y hy hsocket payloads hgone =>
    obtain rfl := h.one y hy x hx hsocket
    exact absurd hheld hgone

theorem frames (hv : r.Valid) (h : Disciplined r log seen) {fs : List SentFrame}
    (hfs : ∀ frame ∈ fs, ∃ x, r.sessions.lookup x.clientId = some x ∧
      frame = x.frame frame.payload) :
    Disciplined r (log ++ fs.map SentFrame.effect) seen := by
  have hon : ∀ k, ∀ frame ∈ fs.filter (·.socket = k), ∃ x ∈ r.built, x.socket = k ∧
      r.sessions.lookup x.clientId = some x ∧ frame = x.frame frame.payload := by
    intro k frame hmem
    obtain ⟨hmem, hk⟩ := List.mem_filter.mp hmem
    obtain ⟨x, hx, hframe⟩ := hfs frame hmem
    refine ⟨x, List.mem_of_getElem? (hv.built hx), ?_, hx, hframe⟩
    rw [hframe] at hk
    exact of_decide_eq_true hk
  have hnone : ∀ k, (∀ x ∈ r.built, x.socket = k → r.sessions.lookup x.clientId ≠ some x) →
      usesOf k (fs.map SentFrame.effect) = [] := by
    intro k hno
    rw [usesOf_frames, List.map_eq_nil_iff, List.eq_nil_iff_forall_not_mem]
    intro frame hmem
    obtain ⟨x, hx, hk, hheld, -⟩ := hon k frame hmem
    exact hno x hx hk hheld
  refine ⟨h.known, h.one, fun k hk => ?_, fun k => ?_⟩
  · rw [usesOf_append, h.unseen k hk, List.nil_append]
    exact hnone k fun x hx hsocket => absurd (hsocket ▸ h.known x hx) hk
  · rw [usesOf_append]
    have huse := h.use k
    generalize usesOf k log = uses at huse
    cases huse with
    | untouched hno =>
      rw [hnone k fun x hx hk => absurd hk (hno x hx)]
      exact .untouched hno
    | refused hno reason =>
      rw [hnone k fun x hx hk => absurd hk (hno x hx)]
      exact .refused hno reason
    | serving x hx hsocket payloads =>
      have hsame : usesOf k (fs.map SentFrame.effect) =
          ((fs.filter (·.socket = k)).map SentFrame.payload).map fun p => (x.frame p).effect := by
        rw [usesOf_frames, List.map_map]
        refine List.map_congr_left fun frame hmem => ?_
        obtain ⟨y, hy, hk, -, hframe⟩ := hon k frame hmem
        obtain rfl := h.one y hy x hx (hk.trans hsocket.symm)
        exact congrArg SentFrame.effect hframe
      rw [hsame, List.append_assoc, ← List.map_append]
      exact .serving x hx hsocket _
    | terminated x hx hsocket payloads hgone =>
      rw [hnone k fun y hy hk => h.one y hy x hx (hk.trans hsocket.symm) ▸ hgone,
        List.append_nil]
      exact .terminated x hx hsocket payloads hgone

theorem upgraded (h : Disciplined r log seen) {k : Socket} (hk : k ∉ seen)
    (hadded : ∀ effect ∈ added, effect.socket = some k)
    (hseen : ∀ x ∈ r'.built, x ∈ r.built ∨ x.socket = k)
    (hone : ∀ x ∈ r'.built, ∀ y ∈ r'.built, x.socket = k → y.socket = k → x = y)
    (hbuilt : ∀ x ∈ r.built, x ∈ r'.built)
    (hgone : ∀ x ∈ r.built, r'.sessions.lookup x.clientId = some x →
      r.sessions.lookup x.clientId = some x)
    (huse : SocketUse r' k added) : Disciplined r' (log ++ added) (seen ++ [k]) := by
  refine ⟨fun x hx => ?_, fun x hx y hy heq => ?_, fun k' hk' => ?_, fun k' => ?_⟩
  · rcases hseen x hx with hx | rfl
    · exact List.mem_append_left _ (h.known x hx)
    · simp
  · by_cases hxk : x.socket = k
    · exact hone x hx y hy hxk (heq ▸ hxk)
    · have hold := (hseen x hx).resolve_right hxk
      have hold' := (hseen y hy).resolve_right (heq ▸ hxk)
      exact h.one x hold y hold' heq
  · simp only [List.mem_append, List.mem_singleton, not_or] at hk'
    rw [usesOf_append, h.unseen k' hk'.1, usesOf_off hadded (Ne.symm hk'.2), List.append_nil]
  · rw [usesOf_append]
    by_cases hkk : k = k'
    · subst hkk
      rw [h.unseen k hk, usesOf_on hadded]
      exact huse
    · rw [usesOf_off hadded hkk, List.append_nil]
      exact (h.use k').mono hbuilt
        (fun x hx hsocket => (hseen x hx).resolve_right fun heq => hkk (heq.symm.trans hsocket))
        hgone

theorem weaken (h : Disciplined r log seen) (more : List Socket) :
    Disciplined r log (seen ++ more) where
  known x hx := List.mem_append_left _ (h.known x hx)
  one := h.one
  unseen k hk := h.unseen k fun hin => hk (List.mem_append_left _ hin)
  use := h.use

theorem drop (hv : r.Valid) (h : Disciplined r log seen) {x : Session}
    (hheld : r.sessions.lookup x.clientId = some x) : Disciplined (r.drop x) log seen where
  known y hy := h.known y (by rwa [Registry.drop_built] at hy)
  one := by
    rw [Registry.drop_built]
    exact h.one
  unseen := h.unseen
  use k := (h.use k).mono (fun y hy => by rwa [Registry.drop_built])
    (fun y hy _ => by rwa [Registry.drop_built] at hy)
    (fun y _ hin => ((hv.lookup_drop_iff hheld).mp hin).1)

theorem ended (hv : r.Valid) (h : Disciplined r log seen) {x : Session}
    (hheld : r.sessions.lookup x.clientId = some x) :
    Disciplined (r.drop x) (log ++ [.socketTerminate x.socket]) seen := by
  have hdrop := h.drop hv hheld
  have hx : x ∈ r.built := List.mem_of_getElem? (hv.built hheld)
  have hon : ∀ effect ∈ [Effect.socketTerminate x.socket], effect.socket = some x.socket := by
    simp [Effect.socket]
  refine ⟨hdrop.known, hdrop.one, fun k hk => ?_, fun k => ?_⟩
  · have hne : x.socket ≠ k := fun heq => hk (heq ▸ h.known x hx)
    rw [usesOf_append, h.unseen k hk, usesOf_off hon hne, List.append_nil]
  · rw [usesOf_append]
    by_cases hk : x.socket = k
    · subst hk
      obtain ⟨payloads, huses⟩ := h.serves hv hheld
      rw [huses, usesOf_on hon]
      refine .terminated x (by rwa [Registry.drop_built]) rfl payloads fun hin => ?_
      exact ((hv.lookup_drop_iff hheld).mp hin).2 rfl
    · rw [usesOf_off hon hk, List.append_nil]
      exact hdrop.use k

theorem listeners_socket {k : Socket} : ∀ effect ∈ listeners k, effect.socket = some k := by
  simp [listeners, Effect.socket]

theorem entered (h : Disciplined r log seen) {x : Session} (hk : x.socket ∉ seen)
    (hunused : r.sessions.lookup x.clientId = none) :
    Disciplined (r.enroll x) (log ++ listeners x.socket) (seen ++ [x.socket]) := by
  have hno : ∀ y ∈ r.built, y.socket ≠ x.socket := fun y hy heq => hk (heq ▸ h.known y hy)
  have hbuilt : ∀ y, y ∈ (r.enroll x).built ↔ y ∈ r.built ∨ y = x := by simp
  have hsole : ∀ y ∈ (r.enroll x).built, y.socket = x.socket → y = x := fun y hy heq =>
    ((hbuilt y).mp hy).resolve_left fun hold => hno y hold heq
  refine h.upgraded hk listeners_socket
    (fun y hy => ((hbuilt y).mp hy).imp_right fun heq => by rw [heq])
    (fun y hy z hz hyk hzk => (hsole y hy hyk).trans (hsole z hz hzk).symm)
    (fun y hy => (hbuilt y).mpr (.inl hy)) (fun y hy hin => ?_) ?_
  · rcases (Registry.lookup_enroll_iff hunused).mp hin with hold | rfl
    · exact hold
    · exact absurd rfl (hno y hy)
  · have huse := SocketUse.serving (k := x.socket) x ((hbuilt x).mpr (.inr rfl)) rfl []
    rwa [List.map_nil, List.append_nil] at huse

theorem step (hv : r.Valid) (h : Disciplined r log seen) (hup : ∀ k, up = some k → k ∉ seen)
    (ht : Touch r up r' added) : Disciplined r' (log ++ added) (seen ++ up.toList) := by
  cases ht with
  | frames fs hfs => exact (h.frames hv hfs).weaken _
  | refused k reason hk =>
    subst hk
    have hno : ∀ x ∈ r.built, x.socket ≠ k := fun x hx heq => hup k rfl (heq ▸ h.known x hx)
    exact h.upgraded (hup k rfl) (by simp [Effect.socket]) (fun x hx => .inl hx)
      (fun x hx y hy hxk => absurd hxk (hno x hx)) (fun _ hx => hx) (fun _ _ hin => hin)
      (.refused hno reason)
  | entered x hk hunused href =>
    subst hk
    exact h.entered (hup x.socket rfl) hunused
  | lapsed x hk hunused href =>
    subst hk
    have hentered : (r.enroll x).Valid := hv.enroll hunused href
    have hheld : (r.enroll x).sessions.lookup x.clientId = some x :=
      (Registry.lookup_enroll_iff hunused).mpr (.inr rfl)
    rw [← List.append_assoc]
    exact (h.entered (hup x.socket rfl) hunused).ended hentered hheld
  | left x hheld =>
    rw [List.append_nil]
    exact (h.drop hv hheld).weaken _
  | ended x hheld => exact (h.ended hv hheld).weaken _

theorem silent (hv : r.Valid) (h : Disciplined r log seen)
    (hup : ∀ k, up = some k → k ∉ seen) (ht : Touch r up r' added) {x : Session}
    (hx : x ∈ r.built) (hgone : r.sessions.lookup x.clientId ≠ some x) :
    usesOf x.socket added = [] := by
  have hother : ∀ y, r.sessions.lookup y.clientId = some y → y.socket ≠ x.socket := by
    intro y hy heq
    obtain rfl := h.one y (List.mem_of_getElem? (hv.built hy)) x hx heq
    exact hgone hy
  have hnew : ∀ k, up = some k → k ≠ x.socket := fun k hk heq =>
    hup k hk (heq ▸ h.known x hx)
  cases ht with
  | frames fs hfs =>
    rw [usesOf_frames, List.map_eq_nil_iff, List.filter_eq_nil_iff]
    intro frame hmem
    obtain ⟨y, hy, hframe⟩ := hfs frame hmem
    rw [hframe, decide_eq_true_eq]
    exact hother y hy
  | refused k reason hk =>
    exact usesOf_off (m := k) (by simp [Effect.socket]) (hnew k hk)
  | entered y hk => exact usesOf_off listeners_socket (hnew _ hk)
  | lapsed y hk =>
    rw [usesOf_append, usesOf_off listeners_socket (hnew _ hk), List.nil_append]
    exact usesOf_off (m := y.socket) (by simp [Effect.socket]) (hnew _ hk)
  | left => rfl
  | ended y hheld => exact usesOf_off (m := y.socket) (by simp [Effect.socket]) (hother y hheld)

end Disciplined

namespace WsService

theorem disciplined_run (deps : Deps τ) (world : τ) {es : List WsEvent}
    (hfresh : (es.filterMap WsEvent.upgraded).Nodup) :
    Disciplined ((system deps world).run es).registry
      (socketLog ((system deps world).run es).trace) (es.filterMap WsEvent.upgraded) := by
  induction es using List.reverseRecOn with
  | nil => exact .init
  | append_singleton es e ih =>
    rw [List.filterMap_append, List.nodup_append] at hfresh
    obtain ⟨hbefore, -, hdisjoint⟩ := hfresh
    have hv := valid_run deps world es
    obtain ⟨added, hlog, htouch⟩ := touch_step deps hv e
    have hseen : [e].filterMap WsEvent.upgraded = e.upgraded.toList := by
      cases hup : e.upgraded <;> simp [hup]
    rw [System.run_concat, List.filterMap_append, hseen]
    change Disciplined _ (socketLog (step deps _ e).trace) _
    rw [hlog]
    exact (ih hbefore).step hv
      (fun k hk hin => hdisjoint k hin k (by rw [hseen, hk]; exact List.mem_singleton_self k) rfl)
      htouch

theorem silent_run (deps : Deps τ) (world : τ) {pre post : List WsEvent}
    (hfresh : ((pre ++ post).filterMap WsEvent.upgraded).Nodup) {x : Session}
    (hgone : ((system deps world).run pre).registry.Gone x) :
    usesOf x.socket ((system deps world).run (pre ++ post)).trace =
      usesOf x.socket ((system deps world).run pre).trace := by
  induction post using List.reverseRecOn with
  | nil => rw [List.append_nil]
  | append_singleton post e ih =>
    rw [← List.append_assoc] at hfresh ⊢
    have hsplit := hfresh
    rw [List.filterMap_append, List.nodup_append] at hsplit
    obtain ⟨hbefore, -, hdisjoint⟩ := hsplit
    have hv := valid_run deps world (pre ++ post)
    have hlater := gone_of_initial deps world (List.prefix_append pre post) hgone
    obtain ⟨added, hlog, htouch⟩ := touch_step deps hv e
    have hsilent := (disciplined_run deps world hbefore).silent hv (fun k hk hin =>
      hdisjoint k hin k (by simp [hk]) rfl) htouch hlater.1 hlater.2
    rw [System.run_concat, ← usesOf_socketLog]
    change usesOf x.socket (socketLog (step deps _ e).trace) = _
    rw [hlog, usesOf_append, hsilent, List.append_nil, usesOf_socketLog]
    exact ih hbefore

/-- Sockets that are upgraded once each are used so: refused ones are closed, the others listened
to, sent the frames of their one session and at most once terminated; and once the session is
gone its socket is left alone. -/
theorem socket_discipline (deps : Deps τ) (world : τ) (es : List WsEvent)
    (hfresh : (es.filterMap WsEvent.upgraded).Nodup) :
    let s := (system deps world).run es
    (∀ k, SocketUse s.registry k (usesOf k s.trace)) ∧
      (∀ x ∈ s.registry.built, ∀ y ∈ s.registry.built, x.socket = y.socket → x = y) ∧
      ∀ pre, pre <+: es → ∀ x, ((system deps world).run pre).registry.Gone x →
        usesOf x.socket s.trace = usesOf x.socket ((system deps world).run pre).trace := by
  intro s
  have h := disciplined_run deps world hfresh
  refine ⟨fun k => usesOf_socketLog k s.trace ▸ h.use k, h.one, ?_⟩
  rintro pre ⟨post, rfl⟩ x hgone
  exact silent_run deps world hfresh hgone

def idReused : List WsEvent :=
  [.connect ⟨0, some "u", some "tab", .fin 5000⟩ 0 0,
    .connect ⟨1, some "v", some "tab", .fin 5000⟩ 0 0, .close 0,
    .connect ⟨2, some "v", some "tab", .fin 5000⟩ 0 0, .timer 1 5000 5000]

example : usesOf 2 ((system untracked ()).run idReused).trace =
    listeners 2 ++ [.socketTerminate 2] := by
  decide +kernel

theorem socket_discipline_idReused :
    usesOf 0 ((system untracked ()).run idReused).trace =
      usesOf 0 ((system untracked ()).run (idReused.take 3)).trace :=
  (socket_discipline untracked () idReused (by decide +kernel)).2.2 (idReused.take 3)
    ⟨idReused.drop 3, rfl⟩ ⟨0, "u", "tab", 0, "0", .fin 5000⟩
    ⟨by decide +kernel, by decide +kernel⟩

end WsService

end NestBackend.Ws
