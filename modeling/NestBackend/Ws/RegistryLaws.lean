import Mathlib.Algebra.GroupWithZero.Nat
import NestBackend.Ws.Registry

namespace NestBackend.Ws.Registry

open NestBackend.Lib

def Member (r : Registry) (userId : UserId) (clientId : ClientId) : Prop :=
  ∃ members, r.userClients.lookup userId = some members ∧ clientId ∈ members

/-- The two maps agree with each other, and the session map with the objects built. -/
structure Valid (r : Registry) : Prop where
  key : ∀ {c : ClientId} {x : Session}, r.sessions.lookup c = some x → x.clientId = c
  built : ∀ {c : ClientId} {x : Session},
    r.sessions.lookup c = some x → r.built[x.ref]? = some x
  ref : ∀ {i : Nat} {x : Session}, r.built[i]? = some x → x.ref = i
  member : ∀ {u : UserId} {c : ClientId},
    r.Member u c ↔ ∃ x, r.sessions.lookup c = some x ∧ x.userId = u
  nonempty : ∀ {u : UserId} {members : OrderedSet ClientId},
    r.userClients.lookup u = some members → members.size ≠ 0

def enroll (r : Registry) (session : Session) : Registry :=
  (r.addSession session).trackMembership session.userId session.clientId

def drop (r : Registry) (session : Session) : Registry :=
  (r.deleteSession session.clientId).untrackMembership session.userId session.clientId

@[simp] theorem untrackMembership_sessions (r : Registry) (u : UserId) (c : ClientId) :
    (r.untrackMembership u c).sessions = r.sessions := by
  unfold untrackMembership
  split
  · rfl
  · dsimp only
    split <;> rfl

@[simp] theorem untrackMembership_built (r : Registry) (u : UserId) (c : ClientId) :
    (r.untrackMembership u c).built = r.built := by
  unfold untrackMembership
  split
  · rfl
  · dsimp only
    split <;> rfl

@[simp] theorem enroll_built (r : Registry) (x : Session) :
    (r.enroll x).built = r.built ++ [x] := rfl

@[simp] theorem drop_built (r : Registry) (x : Session) : (r.drop x).built = r.built := by
  simp [drop, deleteSession]

theorem lookup_enroll (r : Registry) (x : Session) (c : ClientId) :
    (r.enroll x).sessions.lookup c =
      if c = x.clientId then some x else r.sessions.lookup c := by
  split
  · next h => subst h; exact AList.lookup_insert _
  · next h => exact AList.lookup_insert_ne h

theorem lookup_drop (r : Registry) (x : Session) (c : ClientId) :
    (r.drop x).sessions.lookup c =
      if c = x.clientId then none else r.sessions.lookup c := by
  rw [drop, untrackMembership_sessions]
  split
  · next h => subst h; exact AList.lookup_erase _ _
  · next h => exact AList.lookup_erase_ne h

theorem lookup_trackMembership (r : Registry) (u v : UserId) (c : ClientId) :
    (r.trackMembership u c).userClients.lookup v =
      if v = u then some (((r.userClients.lookup u).getD .empty).add c)
      else r.userClients.lookup v := by
  split
  · next h => subst h; exact AList.lookup_insert _
  · next h => exact AList.lookup_insert_ne h

theorem lookup_untrackMembership (r : Registry) (u v : UserId) (c : ClientId) :
    (r.untrackMembership u c).userClients.lookup v =
      if v = u then
        (r.userClients.lookup u).bind fun members =>
          if (members.delete c).size = 0 then none else some (members.delete c)
      else r.userClients.lookup v := by
  unfold untrackMembership
  cases hm : r.userClients.lookup u with
  | none =>
    by_cases h : v = u
    · subst h; simp [hm]
    · simp [h]
  | some members =>
    by_cases h : v = u
    · subst h
      by_cases hz : (members.delete c).size = 0
      · simp [hz]
      · simp [hz]
    · by_cases hz : (members.delete c).size = 0
      · simp [hz, h, AList.lookup_erase_ne h]
      · simp [hz, h, AList.lookup_insert_ne h]

theorem member_trackMembership (r : Registry) (u v : UserId) (c d : ClientId) :
    (r.trackMembership u c).Member v d ↔ r.Member v d ∨ (v = u ∧ d = c) := by
  unfold Member
  rw [lookup_trackMembership]
  by_cases h : v = u
  · subst h
    cases hm : r.userClients.lookup v with
    | none => simp
    | some members => simp
  · simp [h]

theorem member_untrackMembership (r : Registry) (u v : UserId) (c d : ClientId) :
    (r.untrackMembership u c).Member v d ↔ r.Member v d ∧ ¬(v = u ∧ d = c) := by
  unfold Member
  rw [lookup_untrackMembership]
  by_cases h : v = u
  · subst h
    cases hm : r.userClients.lookup v with
    | none => simp
    | some members =>
      by_cases hz : (members.delete c).size = 0
      · have hno : ¬ d ∈ members.delete c := OrderedSet.size_eq_zero_iff.mp hz d
        simpa [hz, and_comm] using hno
      · simp [hz, and_comm]
  · simp [h]

theorem size_ne_zero_of_trackMembership {r : Registry}
    (hr : ∀ {v members}, r.userClients.lookup v = some members → members.size ≠ 0)
    {u v : UserId} {c : ClientId} {members : OrderedSet ClientId}
    (h : (r.trackMembership u c).userClients.lookup v = some members) : members.size ≠ 0 := by
  rw [lookup_trackMembership] at h
  split at h
  · obtain rfl := Option.some.inj h
    exact Nat.pos_iff_ne_zero.mp (OrderedSet.size_pos_of_mem (a := c) (by simp))
  · exact hr h

theorem size_ne_zero_of_untrackMembership {r : Registry}
    (hr : ∀ {v members}, r.userClients.lookup v = some members → members.size ≠ 0)
    {u v : UserId} {c : ClientId} {members : OrderedSet ClientId}
    (h : (r.untrackMembership u c).userClients.lookup v = some members) :
    members.size ≠ 0 := by
  rw [lookup_untrackMembership] at h
  split at h
  · obtain ⟨old, -, hold⟩ := Option.bind_eq_some_iff.mp h
    split at hold
    · cases hold
    · next hz => exact Option.some.inj hold ▸ hz
  · exact hr h

theorem Member.enroll {r : Registry} {x : Session} {u : UserId} {c : ClientId} :
    (r.enroll x).Member u c ↔ r.Member u c ∨ (u = x.userId ∧ c = x.clientId) :=
  member_trackMembership (r.addSession x) x.userId u x.clientId c

theorem Member.drop {r : Registry} {x : Session} {u : UserId} {c : ClientId} :
    (r.drop x).Member u c ↔ r.Member u c ∧ ¬(u = x.userId ∧ c = x.clientId) :=
  member_untrackMembership (r.deleteSession x.clientId) x.userId u x.clientId c

theorem Valid.empty : Valid .empty where
  key h := by simp [Registry.empty] at h
  built h := by simp [Registry.empty] at h
  ref h := by simp [Registry.empty] at h
  member := by simp [Member, Registry.empty]
  nonempty h := by simp [Registry.empty] at h

theorem Valid.enroll {r : Registry} (hr : r.Valid) {x : Session}
    (hfresh : r.sessions.lookup x.clientId = none) (href : x.ref = r.built.length) :
    (r.enroll x).Valid where
  key {c y} h := by
    rw [lookup_enroll] at h
    split at h
    · next hc => exact Option.some.inj h ▸ hc.symm
    · exact hr.key h
  built {c y} h := by
    rw [lookup_enroll] at h
    rw [enroll_built]
    split at h
    · obtain rfl := Option.some.inj h
      simp [href]
    · have hy := hr.built h
      obtain ⟨hlt, -⟩ := List.getElem?_eq_some_iff.mp hy
      rwa [List.getElem?_append_left hlt]
  ref {i y} h := by
    rw [enroll_built, List.getElem?_append] at h
    split at h
    · exact hr.ref h
    · next hlt =>
      obtain ⟨hi, rfl⟩ : i - r.built.length = 0 ∧ x = y := by
        simpa [List.getElem?_singleton] using h
      omega
  member {u c} := by
    rw [Member.enroll, hr.member]
    by_cases hc : c = x.clientId
    · subst hc
      simp [lookup_enroll, hfresh, eq_comm]
    · simp [lookup_enroll, hc]
  nonempty h := size_ne_zero_of_trackMembership (r := r.addSession x) hr.nonempty h

theorem Valid.drop {r : Registry} (hr : r.Valid) {x : Session}
    (hheld : r.sessions.lookup x.clientId = some x) : (r.drop x).Valid where
  key {c y} h := by
    rw [lookup_drop] at h
    split at h
    · cases h
    · exact hr.key h
  built {c y} h := by
    rw [lookup_drop] at h
    rw [drop_built]
    split at h
    · cases h
    · exact hr.built h
  ref h := hr.ref (by rwa [drop_built] at h)
  member {u c} := by
    rw [Member.drop, hr.member]
    by_cases hc : c = x.clientId
    · subst hc
      simp [lookup_drop, hheld, eq_comm]
    · simp [lookup_drop, hc]
  nonempty h := size_ne_zero_of_untrackMembership (r := r.deleteSession x.clientId) hr.nonempty h

theorem Valid.getElem_ref {r : Registry} (hr : r.Valid) {x : Session} (hx : x ∈ r.built) :
    r.built[x.ref]? = some x := by
  obtain ⟨i, hi⟩ := List.mem_iff_getElem?.mp hx
  rwa [hr.ref hi]

theorem Valid.ref_lt_of_mem {r : Registry} (hr : r.Valid) {x : Session} (hx : x ∈ r.built) :
    x.ref < r.built.length := (List.getElem?_eq_some_iff.mp (hr.getElem_ref hx)).1

theorem Valid.ref_inj {r : Registry} (hr : r.Valid) {x y : Session} (hx : x ∈ r.built)
    (hy : y ∈ r.built) (h : x.ref = y.ref) : x = y := by
  have hbuilt := hr.getElem_ref hx
  rw [h, hr.getElem_ref hy] at hbuilt
  exact (Option.some.inj hbuilt).symm

theorem Valid.ref_lt {r : Registry} (hr : r.Valid) {x : Session}
    (hx : r.sessions.lookup x.clientId = some x) : x.ref < r.built.length :=
  hr.ref_lt_of_mem (List.mem_of_getElem? (hr.built hx))

theorem Valid.eq_of_ref {r : Registry} (hr : r.Valid) {x y : Session}
    (hx : r.sessions.lookup x.clientId = some x) (hy : r.sessions.lookup y.clientId = some y)
    (h : x.ref = y.ref) : x = y :=
  hr.ref_inj (List.mem_of_getElem? (hr.built hx)) (List.mem_of_getElem? (hr.built hy)) h

theorem lookup_enroll_iff {r : Registry} {x y : Session}
    (hunused : r.sessions.lookup x.clientId = none) :
    (r.enroll x).sessions.lookup y.clientId = some y ↔
      r.sessions.lookup y.clientId = some y ∨ y = x := by
  rw [lookup_enroll]
  constructor
  · intro h
    split at h
    · exact .inr (Option.some.inj h).symm
    · exact .inl h
  · rintro (hy | rfl)
    · rw [if_neg]
      · exact hy
      · intro hc
        rw [hc, hunused] at hy
        cases hy
    · exact if_pos rfl

theorem Valid.lookup_drop_iff {r : Registry} (hr : r.Valid) {x y : Session}
    (hx : r.sessions.lookup x.clientId = some x) :
    (r.drop x).sessions.lookup y.clientId = some y ↔
      r.sessions.lookup y.clientId = some y ∧ y.ref ≠ x.ref := by
  rw [lookup_drop]
  constructor
  · intro h
    split at h
    · cases h
    · next hne => exact ⟨h, fun href => hne (by rw [hr.eq_of_ref h hx href])⟩
  · rintro ⟨hy, href⟩
    rw [if_neg]
    · exact hy
    · intro hc
      rw [hc, hx] at hy
      exact href (by rw [Option.some.inj hy])

theorem Valid.holds_iff {r : Registry} (hr : r.Valid) {x : Session}
    (hx : r.built[x.ref]? = some x) :
    r.holds x = true ↔ r.sessions.lookup x.clientId = some x := by
  unfold holds
  cases hl : r.sessions.lookup x.clientId with
  | none => simp
  | some held =>
    have hheld := hr.built hl
    constructor
    · intro h
      have href : held.ref = x.ref := by simpa using h
      rw [href, hx] at hheld
      exact hheld.symm
    · intro h
      simp [Option.some.inj h]

theorem countUserSessions_of_lookup {r : Registry} {u : UserId}
    {members : OrderedSet ClientId} (h : r.userClients.lookup u = some members) :
    r.countUserSessions u = members.size := by
  simp [countUserSessions, h]

theorem countUserSessions_of_lookup_none {r : Registry} {u : UserId}
    (h : r.userClients.lookup u = none) : r.countUserSessions u = 0 := by
  simp [countUserSessions, h]

theorem countUserSessions_enroll {r : Registry} (hr : r.Valid) {x : Session}
    (hfresh : r.sessions.lookup x.clientId = none) (u : UserId) :
    (r.enroll x).countUserSessions u =
      r.countUserSessions u + if u = x.userId then 1 else 0 := by
  have hlookup := lookup_trackMembership (r.addSession x) x.userId u x.clientId
  by_cases hu : u = x.userId
  · subst hu
    rw [if_pos rfl] at hlookup
    rw [if_pos rfl, enroll, countUserSessions_of_lookup hlookup]
    have hno : ¬ r.Member x.userId x.clientId := by
      rw [hr.member]
      simp [hfresh]
    cases hm : r.userClients.lookup x.userId with
    | none =>
      rw [countUserSessions_of_lookup_none hm]
      simp [addSession, hm, OrderedSet.size_add_of_not_mem]
    | some members =>
      have hc : ¬ x.clientId ∈ members := fun h => hno ⟨members, hm, h⟩
      rw [countUserSessions_of_lookup hm]
      simp [addSession, hm, OrderedSet.size_add_of_not_mem hc]
  · rw [if_neg hu] at hlookup
    rw [if_neg hu, enroll, countUserSessions, hlookup]
    rfl

theorem countUserSessions_drop {r : Registry} (hr : r.Valid) {x : Session}
    (hheld : r.sessions.lookup x.clientId = some x) (u : UserId) :
    ((r.drop x).countUserSessions u + if u = x.userId then 1 else 0) =
      r.countUserSessions u := by
  have hlookup := lookup_untrackMembership (r.deleteSession x.clientId) x.userId u x.clientId
  by_cases hu : u = x.userId
  · subst hu
    obtain ⟨members, hm, hc⟩ : r.Member x.userId x.clientId := hr.member.mpr ⟨x, hheld, rfl⟩
    have hm' : (r.deleteSession x.clientId).userClients.lookup x.userId = some members := hm
    have hsize := OrderedSet.size_delete_of_mem hc
    rw [if_pos rfl, hm', Option.bind_some] at hlookup
    rw [if_pos rfl, countUserSessions_of_lookup hm, ← hsize]
    by_cases hz : (members.delete x.clientId).size = 0
    · rw [if_pos hz] at hlookup
      rw [drop, countUserSessions_of_lookup_none hlookup, hz]
    · rw [if_neg hz] at hlookup
      rw [drop, countUserSessions_of_lookup hlookup]
  · rw [if_neg hu] at hlookup
    rw [if_neg hu, drop, countUserSessions, hlookup]
    rfl

def registered (r : Registry) : List Session := r.sessions.entries.map (·.2)

def ownedSessions (r : Registry) (u : UserId) : List Session :=
  r.registered.filter (·.userId = u)

theorem mem_registered {r : Registry} (hr : r.Valid) {x : Session} :
    x ∈ r.registered ↔ r.sessions.lookup x.clientId = some x := by
  rw [registered, List.mem_map]
  constructor
  · rintro ⟨⟨c, y⟩, hmem, rfl⟩
    have hy : r.sessions.lookup c = some y := AList.mem_lookup_iff.mpr hmem
    rwa [hr.key hy]
  · intro h
    exact ⟨⟨x.clientId, x⟩, AList.mem_lookup_iff.mp h, rfl⟩

theorem map_clientId_registered {r : Registry} (hr : r.Valid) :
    r.registered.map (·.clientId) = r.sessions.keys := by
  rw [registered, List.map_map]
  apply List.map_congr_left
  rintro ⟨c, y⟩ hmem
  exact hr.key (AList.mem_lookup_iff.mpr hmem)

theorem nodup_registered {r : Registry} (hr : r.Valid) :
    (r.registered.map (·.clientId)).Nodup := by
  rw [map_clientId_registered hr]
  exact r.sessions.keys_nodup

theorem countUserSessions_eq_length {r : Registry} (hr : r.Valid) (u : UserId) :
    r.countUserSessions u = (r.ownedSessions u).length := by
  have hnodup : ((r.ownedSessions u).map (·.clientId)).Nodup :=
    (nodup_registered hr).sublist (List.filter_sublist.map _)
  have hmem : ∀ c, c ∈ (r.ownedSessions u).map (·.clientId) ↔ r.Member u c := by
    intro c
    rw [hr.member]
    simp only [ownedSessions, List.mem_map, List.mem_filter, decide_eq_true_eq, mem_registered hr]
    constructor
    · rintro ⟨x, ⟨hx, hu⟩, rfl⟩
      exact ⟨x, hx, hu⟩
    · rintro ⟨x, hx, hu⟩
      have hc := hr.key hx
      exact ⟨x, ⟨by rwa [hc], hu⟩, hc⟩
  have hlength : ((r.ownedSessions u).map (·.clientId)).length = (r.ownedSessions u).length :=
    List.length_map _
  rw [← hlength]
  cases hm : r.userClients.lookup u with
  | none =>
    have hnil : (r.ownedSessions u).map (·.clientId) = [] :=
      List.eq_nil_iff_forall_not_mem.mpr fun c hc => by
        obtain ⟨members, hl, -⟩ := (hmem c).mp hc
        simp [hm] at hl
    rw [countUserSessions_of_lookup_none hm, hnil, List.length_nil]
  | some members =>
    have hperm : members.toList.Perm ((r.ownedSessions u).map (·.clientId)) := by
      rw [List.perm_ext_iff_of_nodup members.nodup hnodup]
      intro c
      rw [hmem c]
      simp [Member, hm]
    rw [countUserSessions_of_lookup hm]
    exact hperm.length_eq

theorem ownedSessions_eq_nil_iff {r : Registry} (hr : r.Valid) {u : UserId} :
    r.ownedSessions u = [] ↔ r.countUserSessions u = 0 := by
  rw [countUserSessions_eq_length hr, List.length_eq_zero_iff]

def allMembers (r : Registry) : List ClientId :=
  r.userClients.entries.flatMap fun entry => entry.2.toList

theorem mem_allMembers {r : Registry} {c : ClientId} :
    c ∈ r.allMembers ↔ ∃ u, r.Member u c := by
  simp only [allMembers, List.mem_flatMap, Member]
  constructor
  · rintro ⟨⟨u, members⟩, hmem, hc⟩
    exact ⟨u, members, AList.mem_lookup_iff.mpr hmem, hc⟩
  · rintro ⟨u, members, hm, hc⟩
    exact ⟨⟨u, members⟩, AList.mem_lookup_iff.mp hm, hc⟩

theorem Valid.member_unique {r : Registry} (hr : r.Valid) {u v : UserId} {c : ClientId}
    (hu : r.Member u c) (hv : r.Member v c) : u = v := by
  obtain ⟨x, hx, rfl⟩ := hr.member.mp hu
  obtain ⟨y, hy, rfl⟩ := hr.member.mp hv
  rw [Option.some.inj (hx.symm.trans hy)]

theorem nodup_allMembers {r : Registry} (hr : r.Valid) : r.allMembers.Nodup := by
  rw [allMembers, List.nodup_flatMap]
  refine ⟨fun entry _ => entry.2.nodup, ?_⟩
  have hkeys : r.userClients.entries.Pairwise fun e f => e.1 ≠ f.1 :=
    List.pairwise_map.mp r.userClients.nodupKeys
  refine hkeys.imp_of_mem fun {e f} he hf hne => ?_
  intro c hce hcf
  exact hne (hr.member_unique ⟨e.2, AList.mem_lookup_iff.mpr he, hce⟩
    ⟨f.2, AList.mem_lookup_iff.mpr hf, hcf⟩)

theorem sum_countUserSessions {r : Registry} (hr : r.Valid) :
    (r.userClients.keys.map r.countUserSessions).sum = r.getSessionCount := by
  have hsum : r.userClients.keys.map r.countUserSessions =
      r.userClients.entries.map fun entry => entry.2.toList.length := by
    rw [AList.keys, List.keys, List.map_map]
    apply List.map_congr_left
    rintro ⟨u, members⟩ hmem
    exact countUserSessions_of_lookup (AList.mem_lookup_iff.mpr hmem)
  have hperm : r.allMembers.Perm r.sessions.keys := by
    rw [List.perm_ext_iff_of_nodup (nodup_allMembers hr) r.sessions.keys_nodup]
    intro c
    rw [mem_allMembers]
    change _ ↔ c ∈ r.sessions
    rw [← AList.lookup_isSome, Option.isSome_iff_exists]
    exact ⟨fun ⟨u, h⟩ => (hr.member.mp h).imp fun x hx => hx.1,
      fun ⟨x, hx⟩ => ⟨x.userId, hr.member.mpr ⟨x, hx, rfl⟩⟩⟩
  calc (r.userClients.keys.map r.countUserSessions).sum
      = r.allMembers.length := by rw [hsum, allMembers, List.length_flatMap]
    _ = r.sessions.keys.length := hperm.length_eq
    _ = r.getSessionCount := by rw [AList.keys, List.keys, List.length_map]; rfl

end NestBackend.Ws.Registry
