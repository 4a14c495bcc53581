import NestBackend.Replica.PresenceRows
import NestBackend.Ws.Expiry

/-! The `Clients` table when requests may be applied in any order, more than once, or never. -/

namespace NestBackend

open NestBackend.Js
open NestBackend.Lib
open NestBackend.Presence
open NestBackend.Ws

namespace Presence.PresenceService

def redeliver (w : PresenceService) (i : Nat) : PresenceService :=
  match w.inFlight[i]? with
  | none => w
  | some request => { w with tables := w.tables.apply request }

end Presence.PresenceService

inductive DeliveryEvent where
  | replica (e : ReplicaEvent)
  | redeliver (i : Nat)

namespace Replica

/-- A process whose requests to DynamoDB are retried; one that fails is never applied. -/
def retrying (rt : Runtime) : System Replica DeliveryEvent where
  init := start
  step s
    | .replica e => step rt s e
    | .redeliver i =>
      { s with world := { s.world with presence := s.world.presence.redeliver i } }

def network (w : PresenceService) : Nat ⊕ Nat → PresenceService
  | .inl i => w.perform i
  | .inr i => w.redeliver i

def deliveryActs (s : Replica) : DeliveryEvent → List (Move ⊕ (Nat ⊕ Nat))
  | .replica (.ws e) => (WsService.moves s e).map .inl
  | .replica (.perform i) => [.inr (.inl i)]
  | .redeliver i => [.inr (.inr i)]
  | _ => []

def applied (s : Replica) : DeliveryEvent → Option DynamoRequest
  | .replica (.perform i) | .redeliver i => s.world.presence.inFlight[i]?
  | _ => none

theorem presenceView_retrying (rt : Runtime) (s : Replica) (e : DeliveryEvent) :
    presenceView ((retrying rt).step s e) =
      (Observed.inWorld rt.presenceDeps network .start).runFrom (presenceView s)
        (deliveryActs s e) := by
  cases e with
  | replica e =>
    cases e with
    | ws e =>
      have h := presenceView_step rt s (.ws e)
      rw [presenceActs, Observed.runFrom_inl] at h
      rw [deliveryActs, Observed.runFrom_inl]
      exact h
    | topic e => rfl
    | perform i => rfl
    | deliver channel message io => exact presenceView_step rt s (.deliver channel message io)
  | redeliver i => rfl

def retryingRefinement (rt : Runtime) : System.Refinement (retrying rt)
    (Observed.inWorld rt.presenceDeps network .start) where
  abs := presenceView
  events := deliveryActs
  abs_init := rfl
  abs_step := presenceView_retrying rt

structure Authored (rt : Runtime) (o : Observed PresenceService) : Prop where
  token : ∀ x ∈ o.registry.built, x.presenceToken = rt.randomUUID x.ref
  puts : ∀ c row, .putClient c row ∈ o.world.inFlight →
    ∃ x ∈ o.registry.built, x.clientId = c ∧ x.presenceToken = row.presenceToken
  deletes : ∀ c token, .deleteClient c token ∈ o.world.inFlight →
    ∃ x, o.registry.Gone x ∧ x.clientId = c ∧ x.presenceToken = token

namespace Authored

variable {rt : Runtime} {o o' : Observed PresenceService}

theorem init (rt : Runtime) : Authored rt ⟨.empty, [], .start⟩ where
  token _ hx := absurd hx List.not_mem_nil
  puts _ _ h := absurd h List.not_mem_nil
  deletes _ _ h := absurd h List.not_mem_nil

theorem eq_of_token (hfresh : Function.Injective rt.randomUUID) (hv : o.registry.Valid)
    (h : Authored rt o) {x y : Session} (hx : x ∈ o.registry.built) (hy : y ∈ o.registry.built)
    (heq : x.presenceToken = y.presenceToken) : x = y :=
  hv.ref_inj hx hy (hfresh (by rw [← h.token x hx, ← h.token y hy, heq]))

theorem registered (hv : o.registry.Valid) (h : Authored rt o) {x : Session} (now : ℚ)
    (hunused : o.registry.sessions.lookup x.clientId = none)
    (href : x.ref = o.registry.built.length) (htoken : x.presenceToken = rt.randomUUID x.ref) :
    Authored rt (o.tell rt.presenceDeps x (.connect now) (o.registry.enroll x)) where
  token y hy := by
    rcases List.mem_append.mp hy with hy | hy
    · exact h.token y hy
    · obtain rfl := List.mem_singleton.mp hy
      exact htoken
  puts c row hmem := by
    rcases List.mem_append.mp hmem with hold | hnew
    · obtain ⟨y, hy, hyc⟩ := h.puts c row hold
      exact ⟨y, List.mem_append_left _ hy, hyc⟩
    · refine ⟨x, List.mem_append_right _ List.mem_cons_self, ?_⟩
      rcases List.mem_cons.mp hnew with hnew | hnew
      · cases hnew
      · cases List.mem_singleton.mp hnew
        exact ⟨rfl, rfl⟩
  deletes c token hmem := by
    have hold : .deleteClient c token ∈ o.world.inFlight := by
      rcases List.mem_append.mp hmem with hold | hnew
      · exact hold
      · simp at hnew
    obtain ⟨y, hy, hyc⟩ := h.deletes c token hold
    exact ⟨y, (Registry.gone_enroll hv hunused href).mpr hy, hyc⟩

theorem released (hv : o.registry.Valid) (h : Authored rt o) {x : Session}
    (hheld : o.registry.sessions.lookup x.clientId = some x) :
    Authored rt (o.tell rt.presenceDeps x .disconnect (o.registry.drop x)) where
  token y hy := by
    rw [Observed.tell, Registry.drop_built] at hy
    exact h.token y hy
  puts c row hmem := by
    rw [Observed.tell, Registry.drop_built]
    refine h.puts c row ?_
    rcases List.mem_append.mp hmem with hold | hnew
    · exact hold
    · cases List.mem_singleton.mp hnew
  deletes c token hmem := by
    rcases List.mem_append.mp hmem with hold | hnew
    · obtain ⟨y, hy, hyc⟩ := h.deletes c token hold
      exact ⟨y, (Registry.gone_drop hv hheld).mpr (.inl hy), hyc⟩
    · cases List.mem_singleton.mp hnew
      exact ⟨x, (Registry.gone_drop hv hheld).mpr (.inr rfl), rfl, rfl⟩

theorem change {m : Move} (hv : o.registry.Valid) (h : Authored rt o)
    (hc : Observed.Change rt.presenceDeps o m o') : Authored rt o' := by
  cases hc with
  | skipped => exact h
  | registered x now hunused href htoken => exact h.registered hv now hunused href htoken
  | released x hheld => exact h.released hv hheld

theorem delivered (h : Authored rt o) (a : Nat ⊕ Nat) :
    Authored rt { o with world := network o.world a } := by
  have hsub : (network o.world a).inFlight ⊆ o.world.inFlight := by
    cases a with
    | inl i =>
      simp only [network, PresenceService.perform]
      split
      · exact fun _ h => h
      · exact List.eraseIdx_subset
    | inr i =>
      simp only [network, PresenceService.redeliver]
      split <;> exact fun _ h => h
  exact ⟨h.token, fun c row hmem => h.puts c row (hsub hmem),
    fun c token hmem => h.deletes c token (hsub hmem)⟩

end Authored

theorem authored_run (rt : Runtime) (es : List DeliveryEvent) :
    Authored rt (presenceView ((retrying rt).run es)) :=
  (retryingRefinement rt).invariant (fun as => Observed.invariant_inWorld (.init rt)
    (fun _ _ _ hv h hc => h.change hv hc) (fun _ a _ h => h.delivered a) as) es

theorem valid_retrying (rt : Runtime) (es : List DeliveryEvent) :
    ((retrying rt).run es).registry.Valid :=
  (retryingRefinement rt).invariant (P := fun o => o.registry.Valid)
    (fun as => Observed.valid_run_inWorld as) es

theorem tables_foldl_move (rt : Runtime) (o : Observed PresenceService) (ms : List Move) :
    (ms.foldl (Observed.move rt.presenceDeps) o).world.tables = o.world.tables := by
  have hmove : ∀ (o : Observed PresenceService) m,
      (o.move rt.presenceDeps m).world.tables = o.world.tables := by
    intro o m
    cases m with
    | register =>
      rw [Observed.move]
      split <;> rfl
    | release =>
      rw [Observed.move]
      split
      · split <;> rfl
      · rfl
  induction ms generalizing o with
  | nil => rfl
  | cons m ms ih => exact (ih _).trans (hmove o m)

theorem lookup_retrying (rt : Runtime) (s : Replica) (e : DeliveryEvent) (c : ClientId) :
    ((retrying rt).step s e).world.presence.tables.clients.lookup c =
      match applied s e with
      | some request => applyRow c (s.world.presence.tables.clients.lookup c) request
      | none => s.world.presence.tables.clients.lookup c := by
  cases e with
  | replica e =>
    cases e with
    | ws e =>
      have hview := presenceView_step rt s (.ws e)
      rw [presenceActs, Observed.runFrom_inl] at hview
      have htables := (congrArg (fun o => o.world.tables) hview).trans
        (tables_foldl_move rt _ _)
      exact congrArg (fun t : Tables => t.clients.lookup c) htables
    | topic e => rfl
    | perform i =>
      change (s.world.presence.perform i).tables.clients.lookup c = _
      rw [PresenceService.perform, applied]
      cases s.world.presence.inFlight[i]? with
      | none => rfl
      | some request => exact lookup_apply _ _ _
    | deliver channel message io =>
      have hworld := (quiet_deliver rt.json io channel message s).world
      change (deliver rt.json io channel message s).world.presence.tables.clients.lookup c = _
      rw [hworld]
      rfl
  | redeliver i =>
    change (s.world.presence.redeliver i).tables.clients.lookup c = _
    rw [PresenceService.redeliver, applied]
    cases s.world.presence.inFlight[i]? with
    | none => rfl
    | some request => exact lookup_apply _ _ _

theorem mem_of_applied {s : Replica} {e : DeliveryEvent} {request : DynamoRequest}
    (h : applied s e = some request) : request ∈ s.world.presence.inFlight := by
  cases e with
  | replica e =>
    cases e with
    | perform i => exact List.mem_of_getElem? h
    | _ => cases h
  | redeliver i => exact List.mem_of_getElem? h

theorem registry_retrying (rt : Runtime) (s : Replica) (e : DeliveryEvent) :
    ((retrying rt).step s e).registry = s.registry ∨
      ∃ e', ((retrying rt).step s e).registry = (WsService.step rt.deps s e').registry := by
  cases e with
  | replica e =>
    cases e with
    | ws e => exact .inr ⟨e, rfl⟩
    | topic | perform => exact .inl rfl
    | deliver channel message io =>
      exact .inl (quiet_deliver rt.json io channel message s).registry
  | redeliver i => exact .inl rfl

theorem gone_retrying {rt : Runtime} {s : Replica} (hv : s.registry.Valid) {x : Session}
    (h : s.registry.Gone x) (e : DeliveryEvent) : ((retrying rt).step s e).registry.Gone x := by
  rcases registry_retrying rt s e with heq | ⟨e', heq⟩
  · rwa [heq]
  · rw [heq]
    exact WsService.gone_step rt.deps hv h e'

theorem built_retrying {rt : Runtime} {s : Replica} {x : Session} (h : x ∈ s.registry.built)
    (e : DeliveryEvent) : x ∈ ((retrying rt).step s e).registry.built := by
  rcases registry_retrying rt s e with heq | ⟨e', heq⟩
  · rwa [heq]
  · rw [heq]
    exact (WsService.built_prefix_step rt.deps s e').subset h

theorem built_retrying_run {rt : Runtime} {es : List DeliveryEvent} (post : List DeliveryEvent)
    {x : Session} (h : x ∈ ((retrying rt).run es).registry.built) :
    x ∈ ((retrying rt).run (es ++ post)).registry.built := by
  induction post using List.reverseRecOn with
  | nil => rwa [List.append_nil]
  | append_singleton post e ih =>
    rw [← List.append_assoc, System.run_concat]
    exact built_retrying ih e

def RowOf (s : Replica) (c : ClientId) (token : String) : Prop :=
  ∃ row, s.world.presence.tables.clients.lookup c = some row ∧ row.presenceToken = token

inductive RowChange (s : Replica) (e : DeliveryEvent) (s' : Replica) (c : ClientId)
    (x : Session) : Prop
  | kept (hrow : RowOf s' c x.presenceToken)
  | removed (happlied : applied s e = some (.deleteClient c x.presenceToken))
      (hgone : s.registry.Gone x) (hclient : x.clientId = c)
      (hnone : s'.world.presence.tables.clients.lookup c = none)
  | replaced (y : Session) (row : ClientRow) (hy : y ∈ s.registry.built) (hne : y ≠ x)
      (hclient : y.clientId = c) (happlied : applied s e = some (.putClient c row))
      (htoken : row.presenceToken = y.presenceToken)
      (hrow : s'.world.presence.tables.clients.lookup c = some row)

theorem rowChange (rt : Runtime) (hfresh : Function.Injective rt.randomUUID)
    (es : List DeliveryEvent) (e : DeliveryEvent) {c : ClientId} {x : Session}
    (hx : x ∈ ((retrying rt).run es).registry.built)
    (hrow : RowOf ((retrying rt).run es) c x.presenceToken) :
    RowChange ((retrying rt).run es) e ((retrying rt).step ((retrying rt).run es) e) c x := by
  obtain ⟨row, hlookup, htoken⟩ := hrow
  have hv := valid_retrying rt es
  have ha := authored_run rt es
  have hstep := lookup_retrying rt ((retrying rt).run es) e c
  rw [hlookup] at hstep
  cases happlied : applied ((retrying rt).run es) e with
  | none =>
    rw [happlied] at hstep
    exact .kept ⟨row, hstep, htoken⟩
  | some request =>
    have hmem := mem_of_applied happlied
    rw [happlied] at hstep
    cases request with
    | putUser u => exact .kept ⟨row, hstep, htoken⟩
    | putClient c' new =>
      by_cases hc : c' = c
      · subst hc
        obtain ⟨y, hy, hyc, hyt⟩ := ha.puts c' new hmem
        have hnew : ((retrying rt).step ((retrying rt).run es)
            e).world.presence.tables.clients.lookup c' = some new := hstep.trans (if_pos rfl)
        by_cases hyx : y = x
        · exact .kept ⟨new, hnew, by rw [← hyt, hyx]⟩
        · exact .replaced y new hy hyx hyc happlied hyt.symm hnew
      · exact .kept ⟨row, hstep.trans (if_neg hc), htoken⟩
    | deleteClient c' token =>
      by_cases hc : c' = c
      · subst hc
        by_cases ht : row.presenceToken = token
        · obtain ⟨y, hy, hyc, hyt⟩ := ha.deletes c' token hmem
          have htx : x.presenceToken = token := htoken.symm.trans ht
          obtain rfl := ha.eq_of_token hfresh hv hy.1 hx (hyt.trans htx.symm)
          refine .removed (by rw [happlied, htx]) hy hyc ?_
          simpa [applyRow, ht, Option.filter] using hstep
        · refine .kept ⟨row, ?_, htoken⟩
          simpa [applyRow, ht, Option.filter] using hstep
      · exact .kept ⟨row, hstep.trans (if_neg hc), htoken⟩

def NoOtherPut (x : Session) (s : Replica) (e : DeliveryEvent) : Prop :=
  ∀ row, applied s e = some (.putClient x.clientId row) → row.presenceToken = x.presenceToken

theorem noOtherPut_of_delete {x : Session} {s : Replica} {e : DeliveryEvent} {c : ClientId}
    {t : String} (h : applied s e = some (.deleteClient c t)) : NoOtherPut x s e := by
  intro row hput
  rw [h] at hput
  cases hput

theorem rowOf_runFrom (rt : Runtime) (hfresh : Function.Injective rt.randomUUID)
    (es post : List DeliveryEvent) {x : Session} (hx : x ∈ ((retrying rt).run es).registry.built)
    (hrow : RowOf ((retrying rt).run es) x.clientId x.presenceToken)
    (halong : (retrying rt).AlongFrom (NoOtherPut x) ((retrying rt).run es) post)
    (hheld : ¬ ((retrying rt).run (es ++ post)).registry.Gone x) :
    RowOf ((retrying rt).run (es ++ post)) x.clientId x.presenceToken := by
  induction post using List.reverseRecOn with
  | nil => rwa [List.append_nil]
  | append_singleton post e ih =>
    rw [System.alongFrom_append, ← System.run_append] at halong
    rw [← List.append_assoc, System.run_concat] at hheld ⊢
    have hv := valid_retrying rt (es ++ post)
    have hbefore : ¬ ((retrying rt).run (es ++ post)).registry.Gone x :=
      fun h => hheld (gone_retrying hv h e)
    have hbuilt := built_retrying_run post hx
    cases rowChange rt hfresh (es ++ post) e hbuilt (ih halong.1 hbefore) with
    | kept hrow => exact hrow
    | removed happlied hgone => exact absurd hgone hbefore
    | replaced y row hy hne hclient happlied htoken =>
      have hsame := halong.2.1 row happlied
      exact absurd ((authored_run rt (es ++ post)).eq_of_token hfresh hv hy hbuilt
        (htoken.symm.trans hsame)) hne

/-- A row goes only by the delete of its own connection, once that has ended, or to a put of
another connection on the client id; and until either it stays. -/
theorem rows_follow_connections (rt : Runtime) (hfresh : Function.Injective rt.randomUUID)
    (es : List DeliveryEvent) :
    let s := (retrying rt).run es
    (∀ e c, ∀ x ∈ s.registry.built, RowOf s c x.presenceToken →
        RowChange s e ((retrying rt).step s e) c x) ∧
      ∀ e row, ∀ x ∈ s.registry.built, applied s e = some (.putClient x.clientId row) →
        row.presenceToken = x.presenceToken → ∀ post,
          let t := (retrying rt).step s e
          (retrying rt).AlongFrom (NoOtherPut x) t post →
            ¬ ((retrying rt).runFrom t post).registry.Gone x →
              RowOf ((retrying rt).runFrom t post) x.clientId x.presenceToken := by
  intro s
  refine ⟨fun e c x hx hrow => rowChange rt hfresh es e hx hrow, ?_⟩
  intro e row x hx happlied htoken post t halong hheld
  have ht : t = (retrying rt).run (es ++ [e]) := (System.run_concat _ _ _).symm
  have hput := lookup_retrying rt s e x.clientId
  rw [happlied] at hput
  rw [ht, ← System.run_append] at hheld ⊢
  rw [ht] at halong
  refine rowOf_runFrom rt hfresh (es ++ [e]) post ?_ ?_ halong hheld
  · rw [← ht]
    exact built_retrying hx e
  · rw [← ht]
    exact ⟨row, hput.trans (if_pos rfl), htoken⟩

def reconnects : List DeliveryEvent :=
  [.replica (joins "a"), .replica (.perform 0), .replica (.perform 0), .replica (.ws (.close 0)),
    .replica (joins "a")]

theorem rows_follow_connections_reconnected : RowOf
    ((retrying sample).run (reconnects ++
      [.replica (.perform 2), .redeliver 0, .redeliver 0, .replica (.perform 0)])) "a" "x" := by
  have h := (rows_follow_connections sample sample_randomUUID_injective reconnects).2
    (.replica (.perform 2)) ⟨"u", 86400, "x"⟩ ⟨1, "u", "a", 0, "x", .fin 3600000⟩
    (by decide +kernel) (by decide +kernel) rfl
    [.redeliver 0, .redeliver 0, .replica (.perform 0)]
  refine h ⟨?_, ?_, ?_, trivial⟩ (fun hgone => hgone.2 (by decide +kernel)) <;>
    exact noOtherPut_of_delete (c := "a") (t := "") (by decide +kernel)

end Replica

end NestBackend
