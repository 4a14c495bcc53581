import NestBackend.Cluster.Gate

namespace NestBackend

open NestBackend.Js
open NestBackend.Lib
open NestBackend.Replica
open NestBackend.UserTopics
open NestBackend.Ws

namespace Ws.WsGateway

variable {τ : Type} {deps : GatewayDeps τ} {s : WsService τ}

theorem valid_step (hv : s.registry.Valid) (e : GatewayEvent) :
    (step deps s e).registry.Valid := by
  change (step deps s e).observed.registry.Valid
  rw [observed_step]
  exact Observed.foldl_move_of_change (fun _ _ _ hv _ hc => hc.valid hv) hv hv _

theorem addsSilently_upgrade (a : Attempt) :
    WsService.AddsSilently s (step deps s (.upgrade a)) := by
  rw [step]
  split
  · next s' consulted h =>
    obtain ⟨identity, -, -, ⟨reason, -, rfl⟩ | ⟨u, c, expiresAt, -, rfl⟩⟩ :=
      handleConnection_ok h
    · exact .emit s rfl rfl
    · exact .handleConnection deps.toDeps _ a.now a.now' s
  · exact .refl s

end Ws.WsGateway

def Runtime.gateway (rt : Runtime) (parseUrl : Value → Option (List (String × String))) :
    GatewayDeps World where
  toDeps := rt.deps
  parseUrl := parseUrl

namespace Cluster

variable {ι : Type} [DecidableEq ι]

def gateways (rt : ι → Runtime) (parseUrl : Value → Option (List (String × String))) :
    Gate ι Unit Attempt where
  init := ()
  knock i _ s a := ((), WsGateway.step ((rt i).gateway parseUrl) s (.upgrade a))

omit [DecidableEq ι] in
theorem admits_gateways (rt : ι → Runtime) (parseUrl : Value → Option (List (String × String))) :
    (gateways rt parseUrl).Admits fun _ a _ x => WsGateway.Admitted parseUrl a x where
  silent _ _ _ a := WsGateway.addsSilently_upgrade a
  valid _ _ _ _ hv := WsGateway.valid_step hv _
  built i _ s a x hx := by
    rcases WsGateway.built_step hx with hold | ⟨b, hb, hadmitted⟩
    · exact .inl hold
    · cases hb
      exact .inr hadmitted

/-- Behind the gateways a broadcast to a user is sent only to who showed a token for that very
user that the verifier accepted; and it was asked for from inside, or by the frame of a session
let in the same way. -/
theorem readers_are_subjects (rt : ι → Runtime)
    (parseUrl : Value → Option (List (String × String))) (es : List (GatedEvent ι Attempt)) :
    ∀ h ∈ (((gateways rt parseUrl).system rt).run es).cluster.history,
      (gateways rt parseUrl).Traced rt
        (fun es j x => ∃ a, .knock j a ∈ es ∧ WsGateway.Admitted parseUrl a x) es h := by
  intro h hmem
  refine ((admits_gateways rt parseUrl).traced hmem).imp fun pre post j x _ hlet => ?_
  obtain ⟨before, a, after, rfl, hadmitted⟩ := hlet
  exact ⟨a, List.mem_append_right _ List.mem_cons_self, hadmitted⟩

def welcomedAttempt : Attempt where
  socket := 0
  args := [.data (.object [("url", .string "/")])]
  verify _ := .ok ⟨.string "u", .fin 3600⟩
  now := 0
  now' := 0

def welcomed {δ : Type} (knock : δ) : List (GatedEvent Unit δ) :=
  .knock () knock :: [.cluster (.topic () .accept),
    .cluster (.ws () (.sendToUser "u" (.ofJson (.str "hi")) none)),
    .cluster (.publish () fun _ => ⟨fun _ => OPEN, fun _ => false⟩)].map .traffic

def welcomer : Unit → Runtime :=
  fun _ => ⟨.reading [envelopeJson (.str "hi") none], fun _ => "x"⟩

def welcomeParams (_ : Value) : Option (List (String × String)) :=
  some [("userId", "u"), ("clientId", "tab"), ("token", "t")]

theorem readers_are_subjects_welcomed :
    let g := gateways welcomer welcomeParams
    ∃ h ∈ ((g.system welcomer).run (welcomed welcomedAttempt)).cluster.history, h.sent () ≠ [] ∧
      g.Traced welcomer (fun es j x => ∃ a, .knock j a ∈ es ∧
        WsGateway.Admitted welcomeParams a x) (welcomed welcomedAttempt) h := by
  intro g
  have hhead := List.head_mem (show ((g.system welcomer).run
    (welcomed welcomedAttempt)).cluster.history ≠ [] by decide +kernel)
  exact ⟨_, hhead, by decide +kernel,
    readers_are_subjects welcomer welcomeParams (welcomed welcomedAttempt) _ hhead⟩

end Cluster

end NestBackend
