import NestBackend.Ws.LedgerLaws
import NestBackend.Replica.Redelivery

namespace NestBackend

open NestBackend.Js
open NestBackend.Lib
open NestBackend.Presence
open NestBackend.Replica
open NestBackend.Ws

/-- Each process keeps its own requests in flight; `tables` are what they are applied to. -/
structure Fleet (ι : Type) where
  replicas : ι → Replica
  tables : Tables

/-- A request may be applied once and be done with, be applied and still be retried, or be given
up. -/
inductive FleetEvent (ι : Type) where
  | ws (i : ι) (e : WsEvent)
  | perform (i : ι) (k : Nat)
  | redeliver (i : ι) (k : Nat)
  | fail (i : ι) (k : Nat)

def Replica.settle (k : Nat) (s : Replica) : Replica :=
  { s with world := { s.world with presence := { s.world.presence with
    inFlight := s.world.presence.inFlight.eraseIdx k } } }

namespace Fleet

variable {ι : Type} [DecidableEq ι]

def start : Fleet ι := ⟨fun _ => .start, ⟨.empty, ∅⟩⟩

def applied (c : Fleet ι) : FleetEvent ι → Option (ι × DynamoRequest)
  | .perform i k | .redeliver i k =>
    ((c.replicas i).world.presence.inFlight[k]?).map fun request => (i, request)
  | .ws .. | .fail .. => none

def proceed (rt : ι → Runtime) (c : Fleet ι) : FleetEvent ι → ι → Replica
  | .ws i e => Function.update c.replicas i (Replica.step (rt i) (c.replicas i) (.ws e))
  | .perform i k | .fail i k => Function.update c.replicas i ((c.replicas i).settle k)
  | .redeliver _ _ => c.replicas

def step (rt : ι → Runtime) (c : Fleet ι) (e : FleetEvent ι) : Fleet ι where
  replicas := c.proceed rt e
  tables := match c.applied e with
    | some (_, request) => c.tables.apply request
    | none => c.tables

def system (rt : ι → Runtime) : System (Fleet ι) (FleetEvent ι) where
  init := start
  step := step rt

omit [DecidableEq ι] in
theorem mem_of_applied {c : Fleet ι} {e : FleetEvent ι} {i : ι} {request : DynamoRequest}
    (h : c.applied e = some (i, request)) :
    request ∈ (c.replicas i).world.presence.inFlight := by
  have hmem : ∀ {j : ι} {k : Nat}, ((c.replicas j).world.presence.inFlight[k]?).map
      (fun request => (j, request)) = some (i, request) →
        request ∈ (c.replicas i).world.presence.inFlight := by
    intro j k h
    obtain ⟨request', hget, hpair⟩ := Option.map_eq_some_iff.mp h
    obtain ⟨rfl, rfl⟩ := Prod.mk.inj hpair
    exact List.mem_of_getElem? hget
  cases e with
  | perform j k | redeliver j k => exact hmem h
  | ws | fail => cases h

theorem mem_user_apply {t : Tables} {request : DynamoRequest} {u : UserId} :
    u ∈ (t.apply request).user ↔ u ∈ t.user ∨ request = .putUser u := by
  cases request with
  | putUser v => simp [Tables.apply, eq_comm]
  | putClient id row => simp [Tables.apply]
  | deleteClient id token =>
    rw [Tables.apply]
    split
    · split <;> simp
    · simp

theorem lookup_step (rt : ι → Runtime) (c : Fleet ι) (e : FleetEvent ι) (id : ClientId) :
    (c.step rt e).tables.clients.lookup id =
      match c.applied e with
      | some (_, request) => applyRow id (c.tables.clients.lookup id) request
      | none => c.tables.clients.lookup id := by
  rw [step]
  cases c.applied e with
  | none => rfl
  | some p => exact lookup_apply c.tables p.2 id

theorem proceed_invariant {rt : ι → Runtime} {P : ι → Replica → Prop} {c : Fleet ι}
    (h : ∀ i, P i (c.replicas i))
    (hws : ∀ i e, P i (c.replicas i) → P i (Replica.step (rt i) (c.replicas i) (.ws e)))
    (hsettle : ∀ i k, P i (c.replicas i) → P i ((c.replicas i).settle k)) (e : FleetEvent ι)
    (j : ι) : P j ((c.step rt e).replicas j) := by
  change P j (c.proceed rt e j)
  have hupdate : ∀ i t, (P i (c.replicas i) → P i t) → P j (Function.update c.replicas i t j) := by
    intro i t ht
    by_cases hij : j = i
    · subst hij
      rw [Function.update_self]
      exact ht (h j)
    · rw [Function.update_of_ne hij]
      exact h j
  cases e with
  | ws i e => exact hupdate i _ (hws i e)
  | perform i k | fail i k => exact hupdate i _ (hsettle i k)
  | redeliver i k => exact h j

theorem authored_ws {rt : Runtime} {s : Replica} (hv : s.registry.Valid)
    (h : Authored rt (presenceView s)) (e : WsEvent) :
    Authored rt (presenceView (Replica.step rt s (.ws e))) := by
  rw [presenceView_step, presenceActs, Observed.runFrom_inl]
  exact Observed.foldl_move_of_change (fun _ _ _ hv ha hc => ha.change hv hc) hv h _

theorem authored_settle {rt : Runtime} {s : Replica} (h : Authored rt (presenceView s)) (k : Nat) :
    Authored rt (presenceView (s.settle k)) :=
  ⟨h.token, fun c row hmem => h.puts c row (List.eraseIdx_subset hmem),
    fun c token hmem => h.deletes c token (List.eraseIdx_subset hmem)⟩

def Sound (rt : ι → Runtime) (c : Fleet ι) : Prop :=
  ∀ i, (c.replicas i).registry.Valid ∧ Authored (rt i) (presenceView (c.replicas i))

theorem sound_step {rt : ι → Runtime} {c : Fleet ι} (h : Sound rt c) (e : FleetEvent ι) :
    Sound rt (c.step rt e) :=
  proceed_invariant (P := fun i s => s.registry.Valid ∧ Authored (rt i) (presenceView s)) h
    (fun i e h => ⟨WsService.valid_step (rt i).deps h.1 e, authored_ws h.1 h.2 e⟩)
    (fun _ k h => ⟨h.1, authored_settle h.2 k⟩) e

omit [DecidableEq ι] in
theorem Sound.init (rt : ι → Runtime) : Sound rt (start : Fleet ι) :=
  fun i => ⟨.empty, .init (rt i)⟩

theorem sound_run (rt : ι → Runtime) (es : List (FleetEvent ι)) : Sound rt ((system rt).run es) :=
  System.invariant (I := Sound rt) (.init rt) (fun _ e h => sound_step h e) es

/-- No two calls of `randomUUID`, on whatever processes, return the same value. -/
def FreshAcross (rt : ι → Runtime) : Prop :=
  ∀ i j m n, (rt i).randomUUID m = (rt j).randomUUID n → i = j ∧ m = n

omit [DecidableEq ι] in
theorem Sound.eq_of_token {rt : ι → Runtime} (hfresh : FreshAcross rt) {c : Fleet ι}
    (h : Sound rt c) {i j : ι} {x y : Session} (hx : x ∈ (c.replicas i).registry.built)
    (hy : y ∈ (c.replicas j).registry.built) (heq : x.presenceToken = y.presenceToken) :
    i = j ∧ x = y := by
  obtain ⟨rfl, href⟩ := hfresh i j x.ref y.ref
    (by rw [← (h i).2.token x hx, ← (h j).2.token y hy, heq])
  exact ⟨rfl, (h i).1.ref_inj hx hy href⟩

def RowOf (c : Fleet ι) (id : ClientId) (token : String) : Prop :=
  ∃ row, c.tables.clients.lookup id = some row ∧ row.presenceToken = token

inductive RowChange (c : Fleet ι) (e : FleetEvent ι) (c' : Fleet ι) (id : ClientId) (i : ι)
    (x : Session) : Prop
  | kept (hrow : RowOf c' id x.presenceToken)
  | removed (happlied : c.applied e = some (i, .deleteClient id x.presenceToken))
      (hgone : (c.replicas i).registry.Gone x) (hclient : x.clientId = id)
      (hnone : c'.tables.clients.lookup id = none)
  | replaced (j : ι) (y : Session) (row : ClientRow) (hy : y ∈ (c.replicas j).registry.built)
      (hne : ¬ (j = i ∧ y = x)) (hclient : y.clientId = id)
      (happlied : c.applied e = some (j, .putClient id row))
      (htoken : row.presenceToken = y.presenceToken)
      (hrow : c'.tables.clients.lookup id = some row)

theorem rowChange {rt : ι → Runtime} (hfresh : FreshAcross rt) {c : Fleet ι} (h : Sound rt c)
    (e : FleetEvent ι) {id : ClientId} {i : ι} {x : Session}
    (hx : x ∈ (c.replicas i).registry.built) (hrow : RowOf c id x.presenceToken) :
    RowChange c e (c.step rt e) id i x := by
  obtain ⟨row, hlookup, htoken⟩ := hrow
  have hstep := lookup_step rt c e id
  rw [hlookup] at hstep
  cases happlied : c.applied e with
  | none =>
    rw [happlied] at hstep
    exact .kept ⟨row, hstep, htoken⟩
  | some p =>
    obtain ⟨j, request⟩ := p
    have hmem := mem_of_applied happlied
    rw [happlied] at hstep
    cases request with
    | putUser u => exact .kept ⟨row, hstep, htoken⟩
    | putClient id' new =>
      by_cases hid : id' = id
      · subst hid
        obtain ⟨y, hy, hyc, hyt⟩ := (h j).2.puts id' new hmem
        have hnew : (c.step rt e).tables.clients.lookup id' = some new := hstep.trans (if_pos rfl)
        by_cases hyx : j = i ∧ y = x
        · exact .kept ⟨new, hnew, by rw [← hyt, hyx.2]⟩
        · exact .replaced j y new hy hyx hyc happlied hyt.symm hnew
      · exact .kept ⟨row, hstep.trans (if_neg hid), htoken⟩
    | deleteClient id' token =>
      by_cases hid : id' = id
      · subst hid
        by_cases ht : row.presenceToken = token
        · obtain ⟨y, hy, hyc, hyt⟩ := (h j).2.deletes id' token hmem
          have htx : x.presenceToken = token := htoken.symm.trans ht
          obtain ⟨rfl, rfl⟩ := h.eq_of_token hfresh hy.1 hx (hyt.trans htx.symm)
          refine .removed (by rw [happlied, htx]) hy hyc ?_
          simpa [applyRow, ht, Option.filter] using hstep
        · refine .kept ⟨row, ?_, htoken⟩
          simpa [applyRow, ht, Option.filter] using hstep
      · exact .kept ⟨row, hstep.trans (if_neg hid), htoken⟩

theorem built_step {rt : ι → Runtime} {c : Fleet ι} {i : ι} {x : Session}
    (hx : x ∈ (c.replicas i).registry.built) (e : FleetEvent ι) :
    x ∈ ((c.step rt e).replicas i).registry.built := by
  refine proceed_invariant (P := fun j s => ∀ y ∈ (c.replicas j).registry.built,
    y ∈ s.registry.built) (fun j y hy => hy) (fun j e _ y hy => ?_) (fun j k h => h) e i x hx
  exact (WsService.built_prefix_step (rt j).deps (c.replicas j) e).subset hy

theorem gone_step {rt : ι → Runtime} {c : Fleet ι} (h : Sound rt c) {i : ι} {x : Session}
    (hx : (c.replicas i).registry.Gone x) (e : FleetEvent ι) :
    ((c.step rt e).replicas i).registry.Gone x := by
  refine proceed_invariant (P := fun j s => ∀ y, (c.replicas j).registry.Gone y →
    s.registry.Gone y) (fun j y hy => hy) (fun j e _ y hy => ?_) (fun j k h => h) e i x hx
  exact WsService.gone_step (rt j).deps (h j).1 hy e

def NoOtherPut (x : Session) (c : Fleet ι) (e : FleetEvent ι) : Prop :=
  ∀ j row, c.applied e = some (j, .putClient x.clientId row) → row.presenceToken = x.presenceToken

theorem rowOf_runFrom {rt : ι → Runtime} (hfresh : FreshAcross rt) {c : Fleet ι}
    (h : Sound rt c) {i : ι} {x : Session} (hx : x ∈ (c.replicas i).registry.built)
    (hrow : RowOf c x.clientId x.presenceToken) {es : List (FleetEvent ι)}
    (halong : (system rt).AlongFrom (NoOtherPut x) c es)
    (hheld : ¬ (((system rt).runFrom c es).replicas i).registry.Gone x) :
    RowOf ((system rt).runFrom c es) x.clientId x.presenceToken := by
  induction es generalizing c with
  | nil => exact hrow
  | cons e es ih =>
    have hsound := sound_step h e
    have hgone : ∀ {c : Fleet ι}, Sound rt c → ∀ es : List (FleetEvent ι),
        (c.replicas i).registry.Gone x →
          (((system rt).runFrom c es).replicas i).registry.Gone x := by
      intro c hc es
      induction es generalizing c with
      | nil => exact id
      | cons e es ih => exact fun hx => ih (sound_step hc e) (gone_step hc hx e)
    refine ih hsound (built_step hx e) ?_ halong.2 hheld
    cases rowChange hfresh h e hx hrow with
    | kept hrow => exact hrow
    | removed happlied hover =>
      exact absurd (hgone hsound es (gone_step h hover e)) hheld
    | replaced j y row hy hne hclient happlied htoken =>
      have hsame := halong.1 j row happlied
      exact absurd (h.eq_of_token hfresh hy hx (htoken.symm.trans hsame)) hne

def Names (built : List Session) : DynamoRequest → Prop
  | .putUser u => ∃ x ∈ built, x.userId = u
  | .putClient id row => ∃ x ∈ built, x.clientId = id ∧ x.owner = row.owner
  | .deleteClient .. => True

theorem Names.mono {built built' : List Session} {request : DynamoRequest}
    (h : Names built request) (hsub : built ⊆ built') : Names built' request := by
  cases request with
  | putUser u =>
    obtain ⟨x, hx, hrest⟩ := h
    exact ⟨x, hsub hx, hrest⟩
  | putClient id row =>
    obtain ⟨x, hx, hrest⟩ := h
    exact ⟨x, hsub hx, hrest⟩
  | deleteClient => trivial

structure Owned (c : Fleet ι) : Prop where
  requests : ∀ i, ∀ request ∈ (c.replicas i).world.presence.inFlight,
    Names (c.replicas i).registry.built request
  rows : ∀ id row, c.tables.clients.lookup id = some row →
    ∃ i, ∃ x ∈ (c.replicas i).registry.built, x.clientId = id ∧ x.owner = row.owner
  users : ∀ u ∈ c.tables.user, ∃ i, ∃ x ∈ (c.replicas i).registry.built, x.userId = u

def NamesOwn (o : Observed PresenceService) : Prop :=
  ∀ request ∈ o.world.inFlight, Names o.registry.built request

theorem NamesOwn.change {rt : Runtime} {o o' : Observed PresenceService} {m : Move}
    (h : NamesOwn o) (hc : Observed.Change rt.presenceDeps o m o') : NamesOwn o' := by
  cases hc with
  | skipped => exact h
  | registered x now hunused href htoken =>
    intro request hmem
    rcases List.mem_append.mp hmem with hold | hnew
    · exact (h request hold).mono (List.subset_append_left _ _)
    · have hx : x ∈ (o.registry.enroll x).built := List.mem_append_right _ List.mem_cons_self
      rcases List.mem_cons.mp hnew with rfl | hnew
      · exact ⟨x, hx, rfl⟩
      · obtain rfl := List.mem_singleton.mp hnew
        exact ⟨x, hx, rfl, rfl⟩
  | released x hheld =>
    intro request hmem
    change Names (o.registry.drop x).built request
    rw [Registry.drop_built]
    rcases List.mem_append.mp hmem with hold | hnew
    · exact h request hold
    · obtain rfl := List.mem_singleton.mp hnew
      trivial

theorem namesOwn_ws {rt : Runtime} {s : Replica} (hv : s.registry.Valid)
    (h : NamesOwn (presenceView s)) (e : WsEvent) :
    NamesOwn (presenceView (Replica.step rt s (.ws e))) := by
  rw [presenceView_step, presenceActs, Observed.runFrom_inl]
  exact Observed.foldl_move_of_change (fun _ _ _ _ ha hc => ha.change hc) hv h _

omit [DecidableEq ι] in
theorem Owned.init : Owned (start : Fleet ι) where
  requests i request hmem := absurd hmem List.not_mem_nil
  rows id row h := by simp [start] at h
  users u hu := by simp [start] at hu

theorem owned_step {rt : ι → Runtime} {c : Fleet ι} (hs : Sound rt c) (h : Owned c)
    (e : FleetEvent ι) : Owned (c.step rt e) := by
  have hrequests := proceed_invariant (c := c)
    (P := fun i s => s.registry.Valid ∧ NamesOwn (presenceView s))
    (fun i => ⟨(hs i).1, h.requests i⟩)
    (fun i e hi => ⟨WsService.valid_step (rt i).deps hi.1 e, namesOwn_ws hi.1 hi.2 e⟩)
    (fun i k hi => ⟨hi.1, fun request hmem => hi.2 request (List.eraseIdx_subset hmem)⟩) e
  -- What was named before the step still is.
  have hnamed : ∀ {Q : Session → Prop}, (∃ i, ∃ x ∈ (c.replicas i).registry.built, Q x) →
      ∃ i, ∃ x ∈ ((c.step rt e).replicas i).registry.built, Q x := by
    rintro Q ⟨i, x, hx, hq⟩
    exact ⟨i, x, built_step hx e, hq⟩
  refine ⟨fun i => (hrequests i).2, fun id row hrow => hnamed ?_, fun u hu => hnamed ?_⟩
  · rw [lookup_step] at hrow
    cases happlied : c.applied e with
    | none =>
      rw [happlied] at hrow
      exact h.rows id row hrow
    | some p =>
      obtain ⟨j, request⟩ := p
      have hnames := h.requests j request (mem_of_applied happlied)
      rw [happlied] at hrow
      cases request with
      | putUser u => exact h.rows id row hrow
      | putClient id' new =>
        simp only [applyRow] at hrow
        split at hrow
        · next hid =>
          obtain rfl := Option.some.inj hrow
          obtain ⟨x, hx, hclient, howner⟩ := hnames
          exact ⟨j, x, hx, hclient.trans hid, howner⟩
        · exact h.rows id row hrow
      | deleteClient id' token =>
        simp only [applyRow] at hrow
        split at hrow
        · exact h.rows id row (Option.filter_eq_some_iff.mp hrow).1
        · exact h.rows id row hrow
  · change u ∈ (match c.applied e with
      | some (_, request) => c.tables.apply request
      | none => c.tables).user at hu
    cases happlied : c.applied e with
    | none =>
      rw [happlied] at hu
      exact h.users u hu
    | some p =>
      obtain ⟨j, request⟩ := p
      have hnames := h.requests j request (mem_of_applied happlied)
      rw [happlied] at hu
      rcases mem_user_apply.mp hu with hu | rfl
      · exact h.users u hu
      · obtain ⟨x, hx, hxu⟩ := hnames
        exact ⟨j, x, hx, hxu⟩

theorem owned_run (rt : ι → Runtime) (es : List (FleetEvent ι)) : Owned ((system rt).run es) :=
  (System.invariant (I := fun c => Sound rt c ∧ Owned c) ⟨.init rt, .init⟩
    (fun _ e h => ⟨sound_step h.1 e, owned_step h.1 h.2 e⟩) es).2

/-- However many processes share the tables, and whichever of their requests are retried or
fail: a connection's row goes only by its own delete or to another connection's put, and until
either it stays; every row is some connection's; and no user is ever taken off the user table. -/
theorem shared_rows_follow_connections (rt : ι → Runtime) (hfresh : FreshAcross rt)
    (es : List (FleetEvent ι)) :
    let c := (system rt).run es
    (∀ e id i, ∀ x ∈ (c.replicas i).registry.built, RowOf c id x.presenceToken →
        RowChange c e (c.step rt e) id i x) ∧
      (∀ e i row, ∀ x ∈ (c.replicas i).registry.built,
        c.applied e = some (i, .putClient x.clientId row) → row.presenceToken = x.presenceToken →
          ∀ post, (system rt).AlongFrom (NoOtherPut x) (c.step rt e) post →
            ¬ (((system rt).runFrom (c.step rt e) post).replicas i).registry.Gone x →
              RowOf ((system rt).runFrom (c.step rt e) post) x.clientId x.presenceToken) ∧
      (∀ id row, c.tables.clients.lookup id = some row →
        ∃ i, ∃ x ∈ (c.replicas i).registry.built, x.clientId = id ∧ x.userId = row.userId ∧
          x.presenceToken = row.presenceToken) ∧
      ∀ e, ∀ u ∈ c.tables.user, u ∈ (c.step rt e).tables.user := by
  intro c
  have hs : Sound rt c := sound_run rt es
  refine ⟨fun e id i x hx hrow => rowChange hfresh hs e hx hrow,
    fun e i row x hx happlied htoken post halong hheld => ?_, fun id row hrow => ?_,
    fun e u hu => ?_⟩
  · have hput := lookup_step rt c e x.clientId
    rw [happlied] at hput
    exact rowOf_runFrom hfresh (sound_step hs e) (built_step hx e)
      ⟨row, hput.trans (if_pos rfl), htoken⟩ halong hheld
  · obtain ⟨i, x, hx, hclient, howner⟩ := (owned_run rt es).rows id row hrow
    exact ⟨i, x, hx, hclient, congrArg Prod.fst howner, congrArg Prod.snd howner⟩
  · change u ∈ (match c.applied e with
      | some (_, request) => c.tables.apply request
      | none => c.tables).user
    cases c.applied e with
    | none => exact hu
    | some p => exact mem_user_apply.mpr (.inl hu)

def fleetRuntime (i : Bool) : Runtime where
  json := sample.json
  randomUUID n := String.ofList ((if i then 'b' else 'a') :: List.replicate n 'x')

theorem freshAcross_fleetRuntime : FreshAcross fleetRuntime := by
  intro i j m n h
  obtain ⟨hhead, htail⟩ := List.cons.inj (String.ofList_inj.mp h)
  refine ⟨?_, by simpa using congrArg List.length htail⟩
  cases i <;> cases j <;> first | rfl | exact absurd hhead (by decide)

/-- A client is registered on both processes at once; the second one's row is written before
the first one's delete is applied. -/
def bothHoldTab : List (FleetEvent Bool) :=
  [.ws false (.connect ⟨0, some "u", some "tab", .fin 3600000⟩ 0 0), .perform false 0,
    .perform false 0, .ws true (.connect ⟨0, some "u", some "tab", .fin 3600000⟩ 0 0),
    .ws false (.close 0)]

theorem shared_rows_follow_connections_both :
    RowOf ((system fleetRuntime).run (bothHoldTab ++ [.perform true 1, .perform false 0]))
      "tab" "b" := by
  have h := (shared_rows_follow_connections fleetRuntime freshAcross_fleetRuntime bothHoldTab).2.1
    (.perform true 1) true ⟨"u", 86400, "b"⟩ ⟨0, "u", "tab", 0, "b", .fin 3600000⟩
    (by decide +kernel) (by decide +kernel) rfl [.perform false 0]
  refine h ⟨?_, trivial⟩ (fun hgone => hgone.2 (by decide +kernel))
  intro j row hput
  have happlied : applied (((system fleetRuntime).run bothHoldTab).step fleetRuntime
      (.perform true 1)) (.perform false 0) = some (false, .deleteClient "tab" "a") := by
    decide +kernel
  rw [happlied] at hput
  cases hput

end Fleet

end NestBackend
