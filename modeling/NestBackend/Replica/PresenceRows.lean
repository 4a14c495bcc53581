import NestBackend.Lib.System
import NestBackend.Replica.Subscriptions

namespace NestBackend

open NestBackend.Js
open NestBackend.Lib
open NestBackend.Presence
open NestBackend.Ws

namespace Presence

def ClientRow.owner (row : ClientRow) : UserId × String := (row.userId, row.presenceToken)

def applyRow (c : ClientId) (row : Option ClientRow) : DynamoRequest → Option ClientRow
  | .putUser _ => row
  | .putClient c' new => if c' = c then some new else row
  | .deleteClient c' token => if c' = c then row.filter (·.presenceToken ≠ token) else row

def DynamoRequest.client : DynamoRequest → Option ClientId
  | .putUser _ => none
  | .putClient c _ | .deleteClient c _ => some c

def DynamoRequest.putTo : DynamoRequest → Option ClientId
  | .putClient c _ => some c
  | .putUser _ | .deleteClient _ _ => none

def Apart (earlier later : DynamoRequest) : Prop :=
  ∀ c row token, earlier = .deleteClient c token → later = .putClient c row →
    row.presenceToken ≠ token

theorem lookup_apply (t : Tables) (request : DynamoRequest) (c : ClientId) :
    (t.apply request).clients.lookup c = applyRow c (t.clients.lookup c) request := by
  cases request with
  | putUser u => rfl
  | putClient c' row =>
    by_cases h : c' = c
    · subst h
      simp [Tables.apply, applyRow]
    · simp [Tables.apply, applyRow, h, AList.lookup_insert_ne (Ne.symm h)]
  | deleteClient c' token =>
    by_cases h : c' = c
    · subst h
      cases hl : t.clients.lookup c' with
      | none => simp [Tables.apply, applyRow, hl]
      | some row =>
        by_cases htoken : row.presenceToken = token <;>
          simp [Tables.apply, applyRow, hl, htoken, Option.filter]
    · cases hl : t.clients.lookup c' with
      | none => simp [Tables.apply, applyRow, hl, h]
      | some row =>
        by_cases htoken : row.presenceToken = token
        · simp [Tables.apply, applyRow, hl, htoken, h, AList.lookup_erase_ne (Ne.symm h)]
        · simp [Tables.apply, applyRow, hl, htoken, h]

theorem applyRow_commutes {later earlier : DynamoRequest}
    (hput : ∀ c ∈ earlier.putTo, later.client ≠ some c) (hapart : Apart earlier later)
    (c : ClientId) : Backlog.Commutes (applyRow c) later earlier := by
  intro row
  cases earlier with
  | putUser u => rfl
  | putClient c' new =>
    have hne : later.client ≠ some c' := hput c' rfl
    cases later with
    | putUser u => rfl
    | putClient d new' =>
      by_cases hc : c' = c
      · have hd : d ≠ c := fun hd => hne (by rw [hc, ← hd]; rfl)
        simp [applyRow, hc, hd]
      · simp [applyRow, hc]
    | deleteClient d token =>
      by_cases hc : c' = c
      · have hd : d ≠ c := fun hd => hne (by rw [hc, ← hd]; rfl)
        simp [applyRow, hc, hd]
      · simp [applyRow, hc]
  | deleteClient c' token =>
    cases later with
    | putUser u => rfl
    | putClient d new =>
      by_cases hc : c' = c
      · by_cases hd : d = c
        · have htoken : new.presenceToken ≠ token :=
            hapart c' new token rfl (by rw [hc, hd])
          simp [applyRow, hc, hd, htoken, Option.filter]
        · simp [applyRow, hd]
      · simp [applyRow, hc]
    | deleteClient d token' =>
      simp only [applyRow]
      split
      · split
        · rw [Option.filter_filter, Option.filter_filter]
          exact congrArg (fun keep => row.filter keep) (funext fun r => Bool.and_comm _ _)
        · rfl
      · rfl

end Presence

def Ws.Session.owner (x : Session) : UserId × String := (x.userId, x.presenceToken)

namespace Replica

def PutsInOrder (o : Observed PresenceService) : Move ⊕ Nat → Prop
  | .inr i => ∀ request ∈ o.world.inFlight[i]?, ∀ earlier ∈ o.world.inFlight.take i,
      ∀ c ∈ earlier.putTo, request.client ≠ some c
  | .inl _ => True

instance (o : Observed PresenceService) : ∀ a, Decidable (PutsInOrder o a)
  | .inr i => inferInstanceAs (Decidable (∀ request ∈ o.world.inFlight[i]?,
      ∀ earlier ∈ o.world.inFlight.take i, ∀ c ∈ earlier.putTo, request.client ≠ some c))
  | .inl _ => .isTrue trivial

structure Converging (rt : Runtime) (o : Observed PresenceService) : Prop where
  rows : ∀ c, (Backlog.drain (applyRow c) (o.world.tables.clients.lookup c)
    o.world.inFlight).map (·.owner) = (o.registry.sessions.lookup c).map Session.owner
  apart : o.world.inFlight.Pairwise Apart
  ended : ∀ c token, .deleteClient c token ∈ o.world.inFlight →
    ∃ x ∈ o.registry.built, x.presenceToken = token
  token : ∀ x ∈ o.registry.built, x.presenceToken = rt.randomUUID x.ref

theorem Converging.token_fresh {rt : Runtime} (hfresh : Function.Injective rt.randomUUID)
    {o : Observed PresenceService} (hv : o.registry.Valid) (h : Converging rt o) {x : Session}
    (href : x.ref = o.registry.built.length) (htoken : x.presenceToken = rt.randomUUID x.ref)
    {c : ClientId} {token : String} (hmem : .deleteClient c token ∈ o.world.inFlight) :
    x.presenceToken ≠ token := by
  intro heq
  obtain ⟨y, hy, hyt⟩ := h.ended c token hmem
  have hxy : x.ref = y.ref := hfresh (by rw [← h.token y hy, hyt, ← heq, htoken])
  have hlt := hv.ref_lt_of_mem hy
  omega

theorem Converging.registered {rt : Runtime} (hfresh : Function.Injective rt.randomUUID)
    {o : Observed PresenceService} (hv : o.registry.Valid) (h : Converging rt o) {x : Session}
    (now : ℚ) (href : x.ref = o.registry.built.length)
    (htoken : x.presenceToken = rt.randomUUID x.ref) :
    Converging rt (o.tell rt.presenceDeps x (.connect now) (o.registry.enroll x)) where
  rows := by
    intro c
    change (Backlog.drain (applyRow c) (o.world.tables.clients.lookup c)
      (o.world.inFlight ++ [.putUser x.userId, .putClient x.clientId
        ⟨x.userId, _, x.presenceToken⟩])).map _ =
          ((o.registry.enroll x).sessions.lookup c).map _
    rw [Backlog.drain_append, Registry.lookup_enroll]
    by_cases hcx : c = x.clientId
    · simp [applyRow, hcx, ClientRow.owner, Session.owner]
    · simpa [applyRow, hcx, Ne.symm hcx] using h.rows c
  apart := by
    change (o.world.inFlight ++ [_, _]).Pairwise Apart
    rw [List.pairwise_append]
    refine ⟨h.apart, by simp [Apart], ?_⟩
    rintro r hr q hq c row token rfl rfl
    have hrow : row.presenceToken = x.presenceToken := by
      rcases List.mem_cons.mp hq with hq | hq
      · cases hq
      · cases List.mem_singleton.mp hq
        rfl
    rw [hrow]
    exact h.token_fresh hfresh hv href htoken hr
  ended := by
    intro c token hmem
    obtain ⟨y, hy, hyt⟩ := h.ended c token (by
      rcases List.mem_append.mp hmem with hmem | hmem
      · exact hmem
      · simp at hmem)
    exact ⟨y, List.mem_append_left _ hy, hyt⟩
  token := by
    intro y hy
    rcases List.mem_append.mp hy with hy | hy
    · exact h.token y hy
    · obtain rfl := List.mem_singleton.mp hy
      exact htoken

theorem Converging.released {rt : Runtime} {o : Observed PresenceService}
    (hv : o.registry.Valid) (h : Converging rt o) {x : Session}
    (hheld : o.registry.sessions.lookup x.clientId = some x) :
    Converging rt (o.tell rt.presenceDeps x .disconnect (o.registry.drop x)) where
  rows := by
    intro c
    change (Backlog.drain (applyRow c) (o.world.tables.clients.lookup c)
      (o.world.inFlight ++ [.deleteClient x.clientId x.presenceToken])).map _ =
        ((o.registry.drop x).sessions.lookup c).map _
    rw [Backlog.drain_append, Registry.lookup_drop]
    have hrow := h.rows c
    by_cases hcx : c = x.clientId
    · subst hcx
      rw [hheld] at hrow
      obtain ⟨row, hdrained, howner⟩ := Option.map_eq_some_iff.mp hrow
      have htoken : row.presenceToken = x.presenceToken := congrArg Prod.snd howner
      simp [applyRow, hdrained, htoken, Option.filter]
    · simpa [applyRow, hcx, Ne.symm hcx] using hrow
  apart := by
    change (o.world.inFlight ++ [_]).Pairwise Apart
    rw [List.pairwise_append]
    refine ⟨h.apart, by simp, ?_⟩
    rintro r hr q hq c row token rfl rfl
    cases List.mem_singleton.mp hq
  ended := by
    intro c token hmem
    rw [Observed.tell, Registry.drop_built]
    rcases List.mem_append.mp hmem with hmem | hmem
    · exact h.ended c token hmem
    · cases List.mem_singleton.mp hmem
      exact ⟨x, List.mem_of_getElem? (hv.built hheld), rfl⟩
  token := by
    intro y hy
    rw [Observed.tell, Registry.drop_built] at hy
    exact h.token y hy

theorem Converging.change {rt : Runtime} (hfresh : Function.Injective rt.randomUUID)
    {o o' : Observed PresenceService} {m : Move} (hv : o.registry.Valid) (h : Converging rt o)
    (hc : Observed.Change rt.presenceDeps o m o') : Converging rt o' := by
  cases hc with
  | skipped => exact h
  | registered x now hnone href htoken => exact h.registered hfresh hv now href htoken
  | released x hheld => exact h.released hv hheld

theorem Converging.perform {rt : Runtime} {o : Observed PresenceService} {i : Nat}
    (h : Converging rt o) (hok : PutsInOrder o (.inr i)) :
    Converging rt { o with world := o.world.perform i } := by
  unfold PresenceService.perform
  split
  · exact h
  · next request hi =>
    have hover : ∀ earlier ∈ o.world.inFlight.take i, Apart earlier request := by
      intro earlier hmem
      obtain ⟨hlt, hget⟩ := List.getElem?_eq_some_iff.mp hi
      obtain ⟨j, hj, rfl⟩ := List.mem_take_iff_getElem.mp hmem
      exact hget ▸ List.pairwise_iff_getElem.mp h.apart j i _ hlt (by omega)
    exact {
      rows := by
        intro c
        rw [← h.rows c, lookup_apply, Backlog.drain_eraseIdx hi fun earlier hmem =>
          applyRow_commutes (hok request hi earlier hmem) (hover earlier hmem) c]
      apart := h.apart.sublist (List.eraseIdx_sublist _ _)
      ended := fun c token hmem => h.ended c token (List.mem_of_mem_eraseIdx hmem)
      token := h.token }

/-- As long as no request overtakes a PutItem on its row, the table converges to the registry. -/
theorem presence_converges (rt : Runtime) (hfresh : Function.Injective rt.randomUUID)
    (es : List ReplicaEvent) (h : (system rt).Along (PresenceGuard rt PutsInOrder) es)
    (hdone : ((system rt).run es).world.presence.inFlight = []) (c : ClientId) :
    (((system rt).run es).world.presence.tables.clients.lookup c).map (·.owner) =
      (((system rt).run es).registry.sessions.lookup c).map Session.owner := by
  have habs := (presenceRefinement rt).along (H := PutsInOrder) (fun _ _ => id) h
  have hrun : Converging rt (presenceView ((system rt).run es)) := by
    rw [show presenceView ((system rt).run es) = _ from (presenceRefinement rt).abs_run es]
    refine Observed.invariant_inWorld_along ?_ (fun o m o' hv ho _ hc => ho.change hfresh hv hc)
      (fun o i _ ho hok => ho.perform hok) habs
    exact {
      rows := fun c => rfl
      apart := List.Pairwise.nil
      ended := fun c token hmem => absurd hmem List.not_mem_nil
      token := fun x hx => absurd hx List.not_mem_nil }
  have hrows := hrun.rows c
  change (Backlog.drain (applyRow c) _ ((system rt).run es).world.presence.inFlight).map _ = _
    at hrows
  rwa [hdone] at hrows

theorem sample_randomUUID_injective : Function.Injective sample.randomUUID := by
  intro m n h
  simpa [sample] using congrArg String.length h

/-- The PutItem of a new session is applied before the DeleteItem of the one before it. -/
def putOvertakesDelete : List ReplicaEvent :=
  [joins "a", .perform 0, .perform 0, .ws (.close 0), joins "a", .perform 2, .perform 0, .perform 0]

theorem presence_converges_reconnected :
    (((system sample).run putOvertakesDelete).world.presence.tables.clients.lookup "a").map
      (·.owner) = some ("u", "x") :=
  (presence_converges sample sample_randomUUID_injective putOvertakesDelete (by decide +kernel)
    (by decide +kernel) "a").trans (by decide +kernel)

def deleteOvertakesPut : List ReplicaEvent :=
  [joins "a", .ws (.close 0), .perform 2, .perform 0, .perform 0]

theorem stale_presence_row : ¬ ∀ es c, ((system sample).run es).world.presence.inFlight = [] →
    (((system sample).run es).world.presence.tables.clients.lookup c).map (·.owner) =
      (((system sample).run es).registry.sessions.lookup c).map (·.owner) := by
  intro h
  have hrow := h deleteOvertakesPut "a" (by decide +kernel)
  exact absurd hrow (by decide +kernel)

end Replica

end NestBackend
