import NestBackend.Metrics.Middleware

/-! The in-flight gauge and the observations, held against what has become of each request. -/

namespace NestBackend.Metrics

open NestBackend.Health
open NestBackend.Js
open NestBackend.Lib

structure Life where
  probe : Bool
  finished : Bool
  closed : Bool
  deriving DecidableEq

def Life.inFlight (l : Life) : Bool := !l.probe && !l.finished && !l.closed

/-- `observed` has each call of `observeHttp` with the request that it is for. -/
structure Account where
  lives : List Life
  observed : List (Nat × HttpObservation)

namespace Account

def blank : Account := ⟨[], []⟩

def note (rt : HttpRuntime) (s : Middleware) (e : HttpEvent) (a : Account) : Account :=
  match e with
  | .request req =>
    let probe := isHealthRequest rt.parsePathname (resolveRequestUrl req)
    { a with lives := a.lives ++ [⟨probe, false, false⟩] }
  | .finish i res =>
    { lives := a.lives.modify i fun l => { l with finished := true }
      observed := a.observed ++
        ((s.finishListener i).map fun x => (i, s.observation x res)).toList }
  | .close i => { a with lives := a.lives.modify i fun l => { l with closed := true } }
  | .clock _ => a

end Account

def IsProbe (rt : HttpRuntime) (req : Request) : Prop :=
  ∃ url path, resolveRequestUrl req = some url ∧ url ≠ "" ∧ rt.parsePathname url = some path ∧
    IsProbePath path

def HttpEvent.request? : HttpEvent → Option Request
  | .request req => some req
  | _ => none

def Account.Finished (a : Account) (i : Nat) : Prop :=
  ∃ l, a.lives[i]? = some l ∧ l.probe = false ∧ l.finished = true

structure Life.Matches (now : UInt64) (l : Life) (x : Tracked) : Prop where
  probe : l.probe = false
  onFinish : x.onFinish = !l.finished
  onClose : x.onClose = !l.closed
  released : x.released = (l.finished || l.closed)
  start : x.start ≤ now
  requestBytes : x.requestBytes.IsAmount

def Life.Describes (now : UInt64) (l : Life) : Option Tracked → Prop
  | none => l.probe = true
  | some x => l.Matches now x

structure Recorded (asString : Number → String) (m : MetricsService)
    (observed : List HttpObservation) : Prop where
  requestsTotal : m.requestsTotal = observed.map (·.labels asString)
  requestDuration : m.requestDuration =
    observed.map fun o => (o.labels asString, o.durationSeconds)
  requestSizeBytes : m.requestSizeBytes =
    observed.map fun o => (o.labels asString, o.requestBytes)
  responseSizeBytes : m.responseSizeBytes =
    observed.map fun o => (o.labels asString, o.responseBytes)

structure Accurate (asString : Number → String) (s : Middleware) (a : Account) : Prop where
  length : a.lives.length = s.seen.length
  tracked : ∀ (i : Nat) (l : Life) x, a.lives[i]? = some l → s.seen[i]? = some x →
    l.Describes s.now x
  gauge : s.metrics.inFlightRequests = a.lives.countP (·.inFlight)
  once : (a.observed.map Prod.fst).Nodup
  exactly : ∀ i, i ∈ a.observed.map Prod.fst ↔ a.Finished i
  valid : ∀ p ∈ a.observed, p.2.Valid
  recorded : Recorded asString s.metrics (a.observed.map Prod.snd)

section Lemmas

variable {asString : Number → String} {s : Middleware} {a : Account} {i : Nat} {l : Life}
  {x : Tracked}

theorem Life.Describes.later {now now' : UInt64} {x : Option Tracked} (h : l.Describes now x)
    (hnow : now ≤ now') : l.Describes now' x := by
  cases x with
  | none => exact h
  | some x =>
    have hmatches : l.Matches now x := h
    exact { hmatches with start := UInt64.le_trans hmatches.start hnow }

theorem modify_of_getElem? {α : Type} {xs : List α} {i : Nat} {y : α} (h : xs[i]? = some y)
    (f : α → α) : xs.modify i f = xs.set i (f y) := by
  rw [List.modify_eq_set_getElem?, h]
  rfl

theorem set_of_getElem? {α : Type} {xs : List α} {i : Nat} {y : α} (h : xs[i]? = some y) :
    xs.set i y = xs := by
  obtain ⟨hi, rfl⟩ := List.getElem?_eq_some_iff.mp h
  exact List.set_getElem_self hi

theorem release_eq (i : Nat) (x : Tracked) (s : Middleware) : s.release i x =
    { s with
      metrics := if x.released then s.metrics else s.metrics.untrackInFlight
      seen := s.seen.set i (some { x with released := true }) } := by
  unfold Middleware.release
  obtain ⟨start, method, requestBytes, released, onFinish, onClose⟩ := x
  cases released <;> rfl

theorem Recorded.observe {m : MetricsService} {observed : List HttpObservation}
    (h : Recorded asString m observed) (o : HttpObservation) :
    Recorded asString (m.record asString o) (observed ++ [o]) where
  requestsTotal := by simp [MetricsService.record, h.requestsTotal]
  requestDuration := by simp [MetricsService.record, h.requestDuration]
  requestSizeBytes := by simp [MetricsService.record, h.requestSizeBytes]
  responseSizeBytes := by simp [MetricsService.record, h.responseSizeBytes]

theorem Recorded.untrack {m : MetricsService} {observed : List HttpObservation}
    (h : Recorded asString m observed) (released : Bool) :
    Recorded asString (if released then m else m.untrackInFlight) observed := by
  cases released with
  | true => exact h
  | false => exact ⟨h.requestsTotal, h.requestDuration, h.requestSizeBytes, h.responseSizeBytes⟩

theorem Accurate.lookup (h : Accurate asString s a) (hx : s.seen[i]? = some (some x)) :
    ∃ l, a.lives[i]? = some l ∧ l.Matches s.now x := by
  have hlt : i < a.lives.length := by
    rw [h.length]
    exact (List.getElem?_eq_some_iff.mp hx).1
  exact ⟨a.lives[i], List.getElem?_eq_getElem hlt,
    h.tracked i _ _ (List.getElem?_eq_getElem hlt) hx⟩

theorem Accurate.tracked_set (h : Accurate asString s a) {l' : Life} {y : Option Tracked}
    (hdesc : l'.Describes s.now y) : ∀ (j : Nat) (k : Life) z, (a.lives.set i l')[j]? = some k →
      (s.seen.set i y)[j]? = some z → k.Describes s.now z := by
  intro j k z hk hz
  rw [List.getElem?_set] at hk hz
  by_cases hj : i = j
  · rw [if_pos hj] at hk hz
    split at hk
    · split at hz
      · cases hk
        cases hz
        exact hdesc
      · cases hz
    · cases hk
  · rw [if_neg hj] at hk hz
    exact h.tracked j k z hk hz

theorem Accurate.gauge_release (h : Accurate asString s a) (hl : a.lives[i]? = some l)
    (hm : l.Matches s.now x) {l' : Life} (hl' : l'.inFlight = false) :
    (if x.released then s.metrics else s.metrics.untrackInFlight).inFlightRequests =
      (a.lives.set i l').countP (·.inFlight) := by
  obtain ⟨hi, rfl⟩ := List.getElem?_eq_some_iff.mp hl
  have hflight : a.lives[i].inFlight = !x.released := by
    rw [Life.inFlight, hm.probe, hm.released]
    simp
  have hpos : a.lives[i].inFlight = true → 0 < a.lives.countP (·.inFlight) := fun hin =>
    List.countP_pos_iff.mpr ⟨_, List.getElem_mem hi, hin⟩
  rw [List.countP_set hi, hl']
  cases hreleased : x.released with
  | true => simp [hflight, hreleased, h.gauge]
  | false =>
    rw [hreleased] at hflight
    have := hpos hflight
    simp only [hflight, MetricsService.untrackInFlight, h.gauge]
    simp
    omega

theorem finished_set (hl : a.lives[i]? = some l) (l' : Life) (observed) (j : Nat) :
    Account.Finished ⟨a.lives.set i l', observed⟩ j ↔
      if i = j then l'.probe = false ∧ l'.finished = true else a.Finished j := by
  have hi := (List.getElem?_eq_some_iff.mp hl).1
  unfold Account.Finished
  dsimp only
  rw [List.getElem?_set]
  by_cases hj : i = j
  · subst hj
    simp [hi]
  · simp [hj]

theorem Life.Matches.valid (hm : l.Matches s.now x) (res : Finish) :
    (s.observation x res).Valid where
  durationSeconds := by
    have hlt : s.now.toNat < 2 ^ 64 := s.now.toNat_lt
    have hle : x.start.toNat ≤ s.now.toNat := UInt64.le_iff_toNat_le.mp hm.start
    have hsmall : (s.now.toNat - x.start.toNat : ℤ).natAbs < OVERFLOW := by
      unfold OVERFLOW
      omega
    simp only [Middleware.observation, Middleware.durationSeconds, Number.ofInt, hsmall, if_true]
    refine ⟨_, div_nonneg ?_ (by decide), rfl⟩
    exact_mod_cast Int.sub_nonneg_of_le (Int.ofNat_le.mpr hle)
  requestBytes := hm.requestBytes
  responseBytes := isAmount_parseByteLength _

theorem Accurate.unheard (h : Accurate asString s a) {f : Life → Life}
    (hprobe : ∀ l, (f l).probe = l.probe)
    (hknown : ∀ l x, s.seen[i]? = some (some x) → l.Matches s.now x → f l = l) :
    Accurate asString s { a with lives := a.lives.modify i f } := by
  cases hl : a.lives[i]? with
  | none =>
    rw [List.modify_eq_self (List.getElem?_eq_none_iff.mp hl)]
    exact h
  | some l =>
    have hi : i < s.seen.length := h.length ▸ (List.getElem?_eq_some_iff.mp hl).1
    have hx : s.seen[i]? = some s.seen[i] := List.getElem?_eq_getElem hi
    have hdesc := h.tracked i l _ hl hx
    rw [modify_of_getElem? hl]
    cases hy : s.seen[i] with
    | some x =>
      rw [hy] at hx hdesc
      rw [hknown l x hx hdesc, set_of_getElem? hl]
      exact h
    | none =>
      rw [hy] at hx hdesc
      have hprobe' : (f l).probe = true := (hprobe l).trans hdesc
      have hseen : s.seen.set i none = s.seen := set_of_getElem? hx
      refine { h with length := ?_, tracked := ?_, gauge := ?_, exactly := fun j => ?_ }
      · rw [List.length_set, h.length]
      · have htracked := h.tracked_set (i := i) (show (f l).Describes s.now none from hprobe')
        rw [hseen] at htracked
        exact htracked
      · obtain ⟨hlt, rfl⟩ := List.getElem?_eq_some_iff.mp hl
        have hbefore : a.lives[i].inFlight = false := by
          simp [Life.inFlight, show _ = true from hdesc]
        have hafter : (f a.lives[i]).inFlight = false := by simp [Life.inFlight, hprobe']
        rw [List.countP_set hlt, hbefore, hafter, h.gauge]
        simp
      · rw [h.exactly j, finished_set hl]
        by_cases hj : i = j
        · subst hj
          simp [Account.Finished, hl, hprobe', show l.probe = true from hdesc]
        · rw [if_neg hj]

theorem finishListener_eq_some_iff :
    s.finishListener i = some x ↔ s.seen[i]? = some (some x) ∧ x.onFinish = true := by
  simp [Middleware.finishListener, Option.filter_eq_some_iff, Option.join_eq_some_iff]

theorem closeListener_eq_some_iff :
    s.closeListener i = some x ↔ s.seen[i]? = some (some x) ∧ x.onClose = true := by
  simp [Middleware.closeListener, Option.filter_eq_some_iff, Option.join_eq_some_iff]

theorem note_finish_none {rt : HttpRuntime} (res : Finish) (h : s.finishListener i = none) :
    Account.note rt s (.finish i res) a =
      { a with lives := a.lives.modify i fun l => { l with finished := true } } := by
  simp [Account.note, h]

theorem note_finish_some {rt : HttpRuntime} (res : Finish) (h : s.finishListener i = some x) :
    Account.note rt s (.finish i res) a =
      ⟨a.lives.modify i fun l => { l with finished := true },
        a.observed ++ [(i, s.observation x res)]⟩ := by
  simp [Account.note, h]

theorem Accurate.finish_unheard {rt : HttpRuntime} (h : Accurate rt.asString s a)
    (hlistener : s.finishListener i = none) (res : Finish) :
    Accurate rt.asString (s.finish rt i res) (Account.note rt s (.finish i res) a) := by
  rw [note_finish_none res hlistener, Middleware.finish, hlistener]
  refine h.unheard (fun _ => rfl) fun l x hx hm => ?_
  have hfinished : l.finished = true := by
    by_contra hnot
    have honFinish : x.onFinish = true := by simpa [hm.onFinish] using hnot
    rw [finishListener_eq_some_iff.mpr ⟨hx, honFinish⟩] at hlistener
    cases hlistener
  rw [← hfinished]

theorem finish_eq {rt : HttpRuntime} {res : Finish} (hlistener : s.finishListener i = some x)
    (hvalid : (s.observation x res).Valid) : s.finish rt i res =
      { s with
        metrics :=
          let metrics := s.metrics.record rt.asString (s.observation x res)
          if x.released then metrics else metrics.untrackInFlight
        seen := s.seen.set i (some { x with onFinish := false, released := true }) } := by
  simp only [Middleware.finish, hlistener, observeHttp_of_valid hvalid, release_eq]

theorem Accurate.finish_heard {rt : HttpRuntime} (h : Accurate rt.asString s a)
    (hlistener : s.finishListener i = some x) (res : Finish) :
    Accurate rt.asString (s.finish rt i res) (Account.note rt s (.finish i res) a) := by
  obtain ⟨hx, honFinish⟩ := finishListener_eq_some_iff.mp hlistener
  obtain ⟨l, hl, hm⟩ := h.lookup hx
  have hunfinished : l.finished = false := by simpa [honFinish] using hm.onFinish
  have hvalid := hm.valid res
  have hmatches : Life.Matches s.now { l with finished := true }
      { x with onFinish := false, released := true } :=
    { hm with onFinish := rfl, released := by simp }
  have hgone : Life.inFlight { l with finished := true } = false := by simp [Life.inFlight]
  rw [note_finish_some res hlistener, finish_eq hlistener hvalid, modify_of_getElem? hl]
  refine ⟨by simp [h.length], h.tracked_set hmatches, ?_, ?_, fun j => ?_, ?_, ?_⟩
  · have hgauge := h.gauge_release hl hm hgone
    cases hreleased : x.released <;>
      simpa [hreleased, MetricsService.record, MetricsService.untrackInFlight] using hgauge
  · have hnew : i ∉ a.observed.map Prod.fst := by
      rw [h.exactly i]
      rintro ⟨k, hk, -, hfinished⟩
      rw [hl] at hk
      cases hk
      rw [hunfinished] at hfinished
      cases hfinished
    rw [List.map_append]
    refine List.nodup_append.mpr ⟨h.once, by simp, fun j hj k hk => ?_⟩
    rw [show k = i by simpa using hk]
    exact ne_of_mem_of_not_mem hj hnew
  · rw [finished_set hl, List.map_append, List.mem_append, h.exactly j]
    by_cases hj : i = j
    · simp [hj, hm.probe]
    · simp [hj, Ne.symm hj]
  · intro p hp
    rcases List.mem_append.mp hp with hp | hp
    · exact h.valid p hp
    · rw [List.mem_singleton.mp hp]
      exact hvalid
  · rw [List.map_append]
    exact (h.recorded.observe _).untrack x.released

theorem Accurate.close_unheard {rt : HttpRuntime} (h : Accurate rt.asString s a)
    (hlistener : s.closeListener i = none) :
    Accurate rt.asString (s.close i) (Account.note rt s (.close i) a) := by
  rw [Middleware.close, hlistener]
  refine h.unheard (fun _ => rfl) fun l x hx hm => ?_
  have hclosed : l.closed = true := by
    by_contra hnot
    have honClose : x.onClose = true := by simpa [hm.onClose] using hnot
    rw [closeListener_eq_some_iff.mpr ⟨hx, honClose⟩] at hlistener
    cases hlistener
  rw [← hclosed]

theorem Accurate.close_heard {rt : HttpRuntime} (h : Accurate rt.asString s a)
    (hlistener : s.closeListener i = some x) :
    Accurate rt.asString (s.close i) (Account.note rt s (.close i) a) := by
  obtain ⟨hx, -⟩ := closeListener_eq_some_iff.mp hlistener
  obtain ⟨l, hl, hm⟩ := h.lookup hx
  have hmatches : Life.Matches s.now { l with closed := true }
      { x with onClose := false, released := true } :=
    { hm with onClose := rfl, released := by simp }
  have hgone : Life.inFlight { l with closed := true } = false := by simp [Life.inFlight]
  rw [Middleware.close, hlistener]
  simp only [release_eq, Account.note, modify_of_getElem? hl]
  refine ⟨by simp [h.length], h.tracked_set hmatches, ?_, h.once, fun j => ?_, h.valid, ?_⟩
  · exact h.gauge_release hl hm hgone
  · rw [h.exactly j, finished_set hl]
    by_cases hj : i = j
    · subst hj
      simp [Account.Finished, hl]
    · rw [if_neg hj]
  · exact h.recorded.untrack x.released

theorem le_later (now now' : UInt64) : now ≤ max now now' := by
  change now ≤ if now ≤ now' then now' else now
  split
  · assumption
  · exact UInt64.le_refl now

theorem Accurate.clock {rt : HttpRuntime} (h : Accurate rt.asString s a) (now : UInt64) :
    Accurate rt.asString { s with now := max s.now now } a :=
  { h with tracked := fun i l x hl hx => (h.tracked i l x hl hx).later (le_later _ _) }

theorem finished_concat (hl : l.finished = false) (observed) (j : Nat) :
    Account.Finished ⟨a.lives ++ [l], observed⟩ j ↔ a.Finished j := by
  unfold Account.Finished
  dsimp only
  rw [List.getElem?_append]
  split
  · rfl
  · next hlt =>
    have hnone : a.lives[j]? = none := List.getElem?_eq_none_iff.mpr (Nat.le_of_not_lt hlt)
    rw [hnone, List.getElem?_singleton]
    split
    · simp [hl]
    · simp

theorem Accurate.admitted (h : Accurate asString s a) {y : Option Tracked} {m : MetricsService}
    (hl : l.finished = false) (hdesc : l.Describes s.now y)
    (hgauge : m.inFlightRequests =
      s.metrics.inFlightRequests + if l.inFlight then 1 else 0)
    (hrecorded : Recorded asString m (a.observed.map Prod.snd)) :
    Accurate asString { s with metrics := m, seen := s.seen ++ [y] }
      { a with lives := a.lives ++ [l] } := by
  refine { h with
    length := by simp [h.length]
    tracked := fun i k z hk hz => ?_
    gauge := ?_
    exactly := fun i => ?_
    recorded := hrecorded }
  · rw [List.getElem?_append] at hk hz
    rw [h.length] at hk
    split at hk
    · next hlt =>
      rw [if_pos hlt] at hz
      exact h.tracked i k z hk hz
    · next hlt =>
      rw [List.getElem?_singleton] at hk
      rw [if_neg hlt, List.getElem?_singleton] at hz
      split at hk
      · next hlast =>
        rw [if_pos hlast] at hz
        cases hk
        cases hz
        exact hdesc
      · cases hk
  · simp [List.countP_append, hgauge, h.gauge, List.countP_cons]
  · rw [h.exactly i, finished_concat hl]

theorem Accurate.use {rt : HttpRuntime} (h : Accurate rt.asString s a) (req : Request) :
    Accurate rt.asString (s.use rt req) (Account.note rt s (.request req) a) := by
  unfold Middleware.use Account.note
  dsimp only
  split
  · next hprobe =>
    rw [hprobe]
    exact h.admitted rfl rfl (by simp [Life.inFlight]) h.recorded
  · next hprobe =>
    rw [Bool.not_eq_true] at hprobe
    rw [hprobe]
    refine h.admitted rfl ⟨rfl, rfl, rfl, rfl, UInt64.le_refl _, isAmount_parseByteLength _⟩
      (by simp [Life.inFlight, MetricsService.trackInFlight]) ?_
    exact ⟨h.recorded.requestsTotal, h.recorded.requestDuration, h.recorded.requestSizeBytes,
      h.recorded.responseSizeBytes⟩

theorem Accurate.step {rt : HttpRuntime} (h : Accurate rt.asString s a) (e : HttpEvent) :
    Accurate rt.asString (s.step rt e) (Account.note rt s e a) := by
  cases e with
  | request req => exact h.use req
  | clock now => exact h.clock now
  | finish i res =>
    cases hlistener : s.finishListener i with
    | none => exact h.finish_unheard hlistener res
    | some x => exact h.finish_heard hlistener res
  | close i =>
    cases hlistener : s.closeListener i with
    | none => exact h.close_unheard hlistener
    | some x => exact h.close_heard hlistener

end Lemmas

def accounted (rt : HttpRuntime) (now : UInt64) : System (Middleware × Account) HttpEvent :=
  (Middleware.system rt now).recording (Account.note rt) .blank

theorem accurate_run (rt : HttpRuntime) (now : UInt64) (es : List HttpEvent) :
    Accurate rt.asString ((accounted rt now).run es).1 ((accounted rt now).run es).2 := by
  refine (accounted rt now).invariant (I := fun p => Accurate rt.asString p.1 p.2) ?_
    (fun p e h => h.step e) es
  exact ⟨rfl, by simp [accounted, Middleware.system, System.recording, Account.blank], rfl,
    List.nodup_nil, by simp [accounted, System.recording, Account.blank, Account.Finished],
    by simp [accounted, System.recording, Account.blank], ⟨rfl, rfl, rfl, rfl⟩⟩

def account (rt : HttpRuntime) (now : UInt64) (es : List HttpEvent) : Account :=
  ((accounted rt now).run es).2

theorem probes_modify (lives : List Life) (i : Nat) {f : Life → Life}
    (h : ∀ l, (f l).probe = l.probe) : (lives.modify i f).map (·.probe) = lives.map (·.probe) := by
  refine List.ext_getElem? fun j => ?_
  rw [List.getElem?_map, List.getElem?_map, List.getElem?_modify]
  cases lives[j]? with
  | none => rfl
  | some l =>
    refine congrArg some ?_
    by_cases hij : i = j
    · simp [hij, h]
    · simp [hij]

theorem probes_run (rt : HttpRuntime) (now : UInt64) (es : List HttpEvent) :
    (account rt now es).lives.map (·.probe) = (es.filterMap (·.request?)).map fun req =>
      isHealthRequest rt.parsePathname (resolveRequestUrl req) := by
  induction es using List.reverseRecOn with
  | nil => rfl
  | append_singleton es e ih =>
    rw [account, System.run_concat, List.filterMap_append, List.map_append, ← ih]
    change (Account.note rt _ e (account rt now es)).lives.map (·.probe) = _
    cases e with
    | request req => exact List.map_append
    | clock now' => exact (List.append_nil _).symm
    | finish i res =>
      exact (probes_modify _ i (f := fun l => { l with finished := true }) fun _ => rfl).trans
        (List.append_nil _).symm
    | close i =>
      exact (probes_modify _ i (f := fun l => { l with closed := true }) fun _ => rfl).trans
        (List.append_nil _).symm

theorem Accurate.ignores_probe {s : Middleware} {a : Account} {asString : Number → String}
    (h : Accurate asString s a) {i : Nat} {l : Life} (hl : a.lives[i]? = some l)
    (hprobe : l.probe = true) : s.finishListener i = none ∧ s.closeListener i = none := by
  have hi : i < s.seen.length := h.length ▸ (List.getElem?_eq_some_iff.mp hl).1
  have hx : s.seen[i]? = some s.seen[i] := List.getElem?_eq_getElem hi
  have hdesc := h.tracked i l _ hl hx
  cases hy : s.seen[i] with
  | none => simp [Middleware.finishListener, Middleware.closeListener, hx, hy]
  | some x =>
    rw [hy] at hdesc
    have hno := Life.Matches.probe hdesc
    rw [hprobe] at hno
    cases hno

/-- The gauge counts the requests under way that are no probes, and each response to one that
finished was observed, by all four instruments alike. -/
theorem http_metrics (rt : HttpRuntime) (now : UInt64) (es : List HttpEvent) :
    let s := (Middleware.system rt now).run es
    let a := account rt now es
    s.metrics.inFlightRequests = a.lives.countP (·.inFlight) ∧
      0 ≤ s.metrics.inFlightRequests ∧
      ((∀ l ∈ a.lives, l.inFlight = false) → s.metrics.inFlightRequests = 0) ∧
      (a.observed.map Prod.fst).Nodup ∧
      (∀ i, i ∈ a.observed.map Prod.fst ↔ a.Finished i) ∧
      (∀ p ∈ a.observed, p.2.Valid ∧
        ∀ m, MetricsService.observeHttp rt.asString p.2 m = .ok (m.record rt.asString p.2)) ∧
      Recorded rt.asString s.metrics (a.observed.map Prod.snd) ∧
      a.lives.length = (es.filterMap (·.request?)).length ∧
      (∀ (i : Nat) l req, a.lives[i]? = some l → (es.filterMap (·.request?))[i]? = some req →
        (l.probe = true ↔ IsProbe rt req)) ∧
      (∀ req, IsProbe rt req → (s.use rt req).metrics = s.metrics) ∧
      ∀ (i : Nat) l, a.lives[i]? = some l → l.probe = true →
        (∀ res, s.finish rt i res = s) ∧ s.close i = s := by
  intro s a
  have h : Accurate rt.asString s a := by
    have hrun := accurate_run rt now es
    rwa [accounted, System.fst_run_recording] at hrun
  have hprobes : a.lives.map (·.probe) = _ := probes_run rt now es
  refine ⟨h.gauge, ?_, ?_, h.once, h.exactly, fun p hp => ?_, h.recorded, ?_,
    fun i l req hl hreq => ?_, fun req hprobe => ?_, fun i l hl hprobe => ?_⟩
  · rw [h.gauge]
    exact Int.natCast_nonneg _
  · intro hdone
    rw [h.gauge, List.countP_eq_zero.mpr fun l hl => by simp [hdone l hl]]
    rfl
  · exact ⟨h.valid p hp, observeHttp_of_valid (h.valid p hp) rt.asString⟩
  · simpa using congrArg List.length hprobes
  · have hflag := congrArg (·[i]?) hprobes
    simp only [List.getElem?_map, hl, hreq, Option.map_some, Option.some.injEq] at hflag
    rw [hflag]
    exact isHealthRequest_iff _ _
  · have hprobe : isHealthRequest rt.parsePathname (resolveRequestUrl req) = true :=
      (isHealthRequest_iff _ _).mpr hprobe
    simp [Middleware.use, hprobe]
  · obtain ⟨hfinish, hclose⟩ := h.ignores_probe hl hprobe
    exact ⟨fun res => by simp [Middleware.finish, hfinish], by simp [Middleware.close, hclose]⟩

end NestBackend.Metrics
