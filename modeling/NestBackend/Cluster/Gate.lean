import NestBackend.Cluster.Provenance
import NestBackend.Ws.Gateway

/-! The cluster with something in front of every process that lets sessions in. -/

namespace NestBackend

open NestBackend.Js
open NestBackend.Lib
open NestBackend.Replica
open NestBackend.UserTopics
open NestBackend.Ws

/-- What stands in front of a process, and what a knock makes of its state and of the process. -/
structure Gate (ι κ δ : Type) where
  init : κ
  knock : ι → κ → Replica → δ → κ × Replica

structure Gated (ι κ : Type) where
  gates : ι → κ
  cluster : Cluster ι

inductive GatedEvent (ι δ : Type) where
  | knock (i : ι) (e : δ)
  | traffic (e : Traffic ι)

def Traffic.connects {ι : Type} : Traffic ι → Bool
  | .cluster (.ws _ (.connect ..)) => true
  | _ => false

def GatedEvent.toTraffic {ι δ : Type} : GatedEvent ι δ → Option (Traffic ι)
  | .knock .. => none
  | .traffic e => if e.connects then none else some e

namespace Cluster

variable {ι : Type} [DecidableEq ι]

theorem valid_step {rt : Runtime} {s : Replica} (hv : s.registry.Valid) (e : ReplicaEvent) :
    (Replica.step rt s e).registry.Valid := by
  cases e with
  | ws e => exact WsService.valid_step rt.deps hv e
  | topic | perform => exact hv
  | deliver channel message io =>
    rw [Replica.step, (quiet_deliver rt.json io channel message s).registry]
    exact hv

theorem built_step {rt : Runtime} {s : Replica} {e : ReplicaEvent} {x : Session}
    (h : x ∈ (Replica.step rt s e).registry.built) :
    x ∈ s.registry.built ∨ ∃ now now', e = .ws (.connect x.params now now') := by
  cases e with
  | ws e =>
    have hmoves : x ∈ (WsService.step rt.deps s e).observed.registry.built := h
    rw [WsService.observed_step] at hmoves
    rcases Observed.built_foldl_move hmoves with h | ⟨now, hmem⟩
    · exact .inl h
    · cases e with
      | connect params n n' =>
        obtain rfl := WsGateway.register_mem_connectMoves hmem
        exact .inr ⟨n, n', rfl⟩
      | timer id n n' =>
        simp only [WsService.moves] at hmem
        split at hmem
        · split at hmem
          · split at hmem <;> simp at hmem
          · cases hmem
        · cases hmem
      | close ref => simp [WsService.moves] at hmem
      | _ => cases hmem
  | topic | perform => exact .inl h
  | deliver channel message io =>
    rw [Replica.step, (quiet_deliver rt.json io channel message s).registry] at h
    exact .inl h

theorem sessions_of_not_connects (rt : ι → Runtime) {c : Cluster ι} {e : Traffic ι}
    (he : e.connects = false) (j : ι) (hv : (c.replicas j).registry.Valid) :
    (((losing rt).step c e).replicas j).registry.Valid ∧
      ∀ x ∈ (((losing rt).step c e).replicas j).registry.built,
        x ∈ (c.replicas j).registry.built := by
  have hkept : ∀ e', (∀ params now now', e' ≠ .ws (.connect params now now')) →
      (Replica.step (rt j) (c.replicas j) e').registry.Valid ∧
        ∀ x ∈ (Replica.step (rt j) (c.replicas j) e').registry.built,
          x ∈ (c.replicas j).registry.built := by
    intro e' hne
    refine ⟨valid_step hv e', fun x hx => ?_⟩
    rcases built_step hx with hx | ⟨now, now', rfl⟩
    · exact hx
    · exact absurd rfl (hne _ _ _)
  have hsame : (c.replicas j).registry.Valid ∧
      ∀ x ∈ (c.replicas j).registry.built, x ∈ (c.replicas j).registry.built := ⟨hv, fun _ h => h⟩
  cases e with
  | lose i k => exact hsame
  | cluster e =>
    rw [show ((losing rt).step c (.cluster e)).replicas j = _ from replicas_step rt j c e]
    cases e with
    | ws i e =>
      rw [replicaEvents]
      split
      · refine hkept (.ws e) fun params now now' h => ?_
        rw [ReplicaEvent.ws.inj h] at he
        cases he
      · exact hsame
    | topic i e =>
      rw [replicaEvents]
      split
      · exact hkept (.topic e) (by simp)
      · exact hsame
    | perform i k =>
      rw [replicaEvents]
      split
      · exact hkept (.perform k) (by simp)
      · exact hsame
    | publish i io =>
      simp only [replicaEvents]
      split
      · exact hsame
      · next channel message rest hwire =>
        exact hkept (.deliver channel message (io j)) (by simp)

end Cluster

namespace Gate

variable {ι κ δ : Type} [DecidableEq ι]

def knocked (g : Gate ι κ δ) (i : ι) (e : δ) (s : Gated ι κ) : Gated ι κ :=
  let after := g.knock i (s.gates i) (s.cluster.replicas i) e
  { gates := Function.update s.gates i after.1
    cluster := { s.cluster with
      replicas := Function.update s.cluster.replicas i after.2
      wire := Function.update s.cluster.wire i
        (s.cluster.wire i ++ WsService.publishedBetween (s.cluster.replicas i) after.2) } }

/-- The cluster behind the gates.  Nobody connects but by a knock. -/
def system (g : Gate ι κ δ) (rt : ι → Runtime) : System (Gated ι κ) (GatedEvent ι δ) where
  init := ⟨fun _ => g.init, Cluster.start⟩
  step s
    | .knock i e => g.knocked i e s
    | .traffic e =>
      if e.connects then s else { s with cluster := (Cluster.losing rt).step s.cluster e }

structure Admits (g : Gate ι κ δ) (Reason : κ → δ → κ → Session → Prop) : Prop where
  silent : ∀ i k s e, WsService.AddsSilently s (g.knock i k s e).2
  valid : ∀ i k s e, s.registry.Valid → (g.knock i k s e).2.registry.Valid
  built : ∀ i k s e, ∀ x ∈ (g.knock i k s e).2.registry.built,
    x ∈ s.registry.built ∨ Reason k e (g.knock i k s e).1 x

def LetIn (g : Gate ι κ δ) (rt : ι → Runtime) (Reason : κ → δ → κ → Session → Prop)
    (es : List (GatedEvent ι δ)) (j : ι) (x : Session) : Prop :=
  ∃ pre e post, es = pre ++ .knock j e :: post ∧
    Reason (((g.system rt).run pre).gates j) e
      (((g.system rt).run (pre ++ [.knock j e])).gates j) x

/-- A hand-over goes to registered sessions of the addressee, and was asked for from inside or by
a frame of a session that was there; all of these sessions are known. -/
def Traced (g : Gate ι κ δ) (rt : ι → Runtime)
    (Known : List (GatedEvent ι δ) → ι → Session → Prop) (es : List (GatedEvent ι δ))
    (h : Handover ι) : Prop :=
  ∃ pre i e mid io post u m exclude,
    es = pre ++ .traffic (.cluster (.ws i e)) :: mid ++
      .traffic (.cluster (.publish i io)) :: post ∧
    h.channel = channelFor u ∧ buildUserTopicEnvelope (rt i).json m exclude = .text h.message ∧
    (∀ j, ∀ frame ∈ h.sent j, ∃ x,
      (((g.system rt).run (pre ++ .traffic (.cluster (.ws i e)) :: mid)).cluster.replicas
        j).registry.sessions.lookup x.clientId = some x ∧
      Known (pre ++ .traffic (.cluster (.ws i e)) :: mid) j x ∧ x.userId = u ∧
      frame = x.frame frame.payload) ∧
    (e = .sendToUser u m exclude ∨ ∃ author message data io,
      (((g.system rt).run pre).cluster.replicas i).registry.built[author.ref]? = some author ∧
      Known pre i author ∧ e = .message author.ref data io ∧ m = .ofJson message ∧
      parseInboundFrame (rt i).json data = .send u message ∧ exclude = some author.clientId)

variable {g : Gate ι κ δ} {rt : ι → Runtime} {Reason : κ → δ → κ → Session → Prop}

omit [DecidableEq ι] in
theorem toTraffic_eq_some {e : GatedEvent ι δ} {e' : Traffic ι} (h : e.toTraffic = some e') :
    e = .traffic e' ∧ e'.connects = false := by
  cases e with
  | knock => cases h
  | traffic e =>
    rw [GatedEvent.toTraffic] at h
    split at h
    · cases h
    · next hno =>
      obtain rfl := Option.some.inj h
      exact ⟨rfl, by simpa using hno⟩

theorem step_of_toTraffic {e : GatedEvent ι δ} {e' : Traffic ι} (h : e.toTraffic = some e')
    (s : Gated ι κ) : ((g.system rt).step s e).cluster = (Cluster.losing rt).step s.cluster e' := by
  obtain ⟨rfl, hno⟩ := toTraffic_eq_some h
  simp only [system, hno, Bool.false_eq_true, if_false]

theorem replicas_knocked (i j : ι) (e : δ) (s : Gated ι κ) :
    (g.knocked i e s).cluster.replicas j =
      if j = i then (g.knock i (s.gates i) (s.cluster.replicas i) e).2
      else s.cluster.replicas j := by
  rw [knocked]
  exact Function.update_apply ..

theorem gates_knocked (i j : ι) (e : δ) (s : Gated ι κ) :
    (g.knocked i e s).gates j =
      if j = i then (g.knock i (s.gates i) (s.cluster.replicas i) e).1 else s.gates j := by
  rw [knocked]
  exact Function.update_apply ..

theorem gates_traffic (e : Traffic ι) (s : Gated ι κ) :
    ((g.system rt).step s (.traffic e)).gates = s.gates := by
  simp only [system]
  split <;> rfl

namespace Admits

theorem wire_knocked (A : g.Admits Reason) (i : ι) (e : δ) (s : Gated ι κ) :
    (g.knocked i e s).cluster.wire = s.cluster.wire := by
  obtain ⟨effects, htrace, hsilent⟩ := A.silent i (s.gates i) (s.cluster.replicas i) e
  have hnone : WsService.publishedBetween (s.cluster.replicas i)
      (g.knock i (s.gates i) (s.cluster.replicas i) e).2 = [] := by
    rw [WsService.publishedBetween, htrace, List.drop_left]
    exact List.filterMap_eq_nil_iff.mpr fun effect hmem => (hsilent effect hmem).1
  simp only [knocked, hnone, List.append_nil, Function.update_eq_self]

theorem valid_run (A : g.Admits Reason) (rt : ι → Runtime) (es : List (GatedEvent ι δ)) (j : ι) :
    (((g.system rt).run es).cluster.replicas j).registry.Valid := by
  refine System.invariant (I := fun s : Gated ι κ => ∀ j, (s.cluster.replicas j).registry.Valid)
    (fun j => .empty) (fun s e hv j => ?_) es j
  cases e with
  | knock i e =>
    change ((g.knocked i e s).cluster.replicas j).registry.Valid
    rw [replicas_knocked]
    split
    · exact A.valid i _ _ e (hv i)
    · exact hv j
  | traffic e =>
    simp only [system]
    split
    · exact hv j
    · next hno => exact (Cluster.sessions_of_not_connects rt (by simpa using hno) j (hv j)).1

theorem hosts (A : g.Admits Reason) (rt : ι → Runtime) :
    Cluster.Hosts rt (g.system rt) Gated.cluster GatedEvent.toTraffic where
  init := rfl
  steps h s := step_of_toTraffic h s
  aside {e} h s := by
    cases e with
    | knock i e => exact ⟨A.wire_knocked i e s, rfl⟩
    | traffic e =>
      rw [GatedEvent.toTraffic] at h
      split at h
      · next hconnects =>
        rw [show (g.system rt).step s (.traffic e) = s from if_pos hconnects]
        exact ⟨rfl, rfl⟩
      · cases h
  valid es j := A.valid_run rt es j

theorem letIn_run (A : g.Admits Reason) {es : List (GatedEvent ι δ)} {j : ι} {x : Session}
    (h : x ∈ (((g.system rt).run es).cluster.replicas j).registry.built) :
    g.LetIn rt Reason es j x := by
  obtain ⟨pre, e, post, rfl, hbefore, hafter⟩ := System.exists_step_of_run
    (P := fun s : Gated ι κ => x ∈ (s.cluster.replicas j).registry.built) List.not_mem_nil h
  cases e with
  | knock i e =>
    change x ∈ ((g.knocked i e _).cluster.replicas j).registry.built at hafter
    rw [replicas_knocked] at hafter
    split at hafter
    · next hij =>
      subst hij
      refine ⟨pre, e, post, rfl, ?_⟩
      rw [System.run_concat]
      change Reason _ e ((g.knocked j e _).gates j) x
      rw [gates_knocked, if_pos rfl]
      exact (A.built j _ _ e x hafter).resolve_left hbefore
    · exact absurd hafter hbefore
  | traffic e =>
    simp only [system] at hafter
    split at hafter
    · exact absurd hafter hbefore
    · next hno =>
      exact absurd ((Cluster.sessions_of_not_connects rt (by simpa using hno) j
        (A.valid_run rt pre j)).2 x hafter) hbefore

theorem traced (A : g.Admits Reason) {es : List (GatedEvent ι δ)} {h : Handover ι}
    (hmem : h ∈ ((g.system rt).run es).cluster.history) :
    g.Traced rt (g.LetIn rt Reason) es h := by
  obtain ⟨pre, d, i, e, mid, k, io, post, u, m, exclude, rfl, hd, hk, hrequests, hchannel,
    henvelope, hdue⟩ := (A.hosts rt).delivered hmem
  obtain ⟨rfl, -⟩ := toTraffic_eq_some hd
  obtain ⟨rfl, -⟩ := toTraffic_eq_some hk
  refine ⟨pre, i, e, mid, io, post, u, m, exclude, rfl, hchannel, henvelope,
    fun j frame hframe => ?_, ?_⟩
  · obtain ⟨x, payload, excluded, hlookup, hu, -, -, -, rfl⟩ := hdue j frame hframe
    exact ⟨x, hlookup, A.letIn_run (List.mem_of_getElem? ((A.valid_run rt _ j).built hlookup)), hu,
      rfl⟩
  · cases hrequests with
    | told => exact .inl rfl
    | @framed ref author data message io' hauthor hframe hm hexclude =>
      obtain rfl := (A.valid_run rt pre i).ref hauthor
      exact .inr ⟨author, message, data, io', hauthor,
        A.letIn_run (List.mem_of_getElem? hauthor), rfl, hm, hframe, hexclude⟩

end Admits

theorem Traced.imp {Known Known' : List (GatedEvent ι δ) → ι → Session → Prop}
    {es : List (GatedEvent ι δ)} {h : Handover ι} (ht : g.Traced rt Known es h)
    (himp : ∀ pre post j x, es = pre ++ post → Known pre j x → Known' pre j x) :
    g.Traced rt Known' es h := by
  obtain ⟨pre, i, e, mid, io, post, u, m, exclude, rfl, hchannel, henvelope, hreaders,
    hauthor⟩ := ht
  refine ⟨pre, i, e, mid, io, post, u, m, exclude, rfl, hchannel, henvelope,
    fun j frame hframe => ?_, ?_⟩
  · obtain ⟨x, hlookup, hknown, hrest⟩ := hreaders j frame hframe
    exact ⟨x, hlookup, himp _ _ j x rfl hknown, hrest⟩
  · refine hauthor.imp_right fun ⟨author, message, data, io', hbuilt, hknown, hrest⟩ =>
      ⟨author, message, data, io', hbuilt, ?_, hrest⟩
    exact himp pre _ i author (List.append_assoc ..) hknown

theorem gates_run {R : κ → κ → Prop} (hrefl : ∀ k, R k k)
    (htrans : ∀ {k l m}, R k l → R l m → R k m)
    (hknock : ∀ i k s e, R k (g.knock i k s e).1) (es fs : List (GatedEvent ι δ)) (j : ι) :
    R (((g.system rt).run es).gates j) (((g.system rt).run (es ++ fs)).gates j) := by
  induction fs using List.reverseRecOn with
  | nil =>
    rw [List.append_nil]
    exact hrefl _
  | append_singleton fs e ih =>
    rw [← List.append_assoc, System.run_concat]
    refine htrans ih ?_
    cases e with
    | knock i e =>
      change R _ ((g.knocked i e _).gates j)
      rw [gates_knocked]
      split
      · next hij =>
        subst hij
        exact hknock j _ _ e
      · exact hrefl _
    | traffic e =>
      rw [gates_traffic]
      exact hrefl _

end Gate

end NestBackend
