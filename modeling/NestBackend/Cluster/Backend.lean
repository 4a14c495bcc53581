import NestBackend.Auth.Admission
import NestBackend.Cluster.Readers

namespace NestBackend

open NestBackend.Auth
open NestBackend.Js
open NestBackend.Lib
open NestBackend.Replica
open NestBackend.Ws
open JwtVerifierService

inductive Knock where
  | request (around : Surroundings) (context : ExecutionContext)
  | upgrade (around : Surroundings) (u : Upgrade)

def Knock.event : Knock → DoorEvent
  | .request around context => .request around context
  | .upgrade around u => .upgrade around u

namespace Backend

variable {ι : Type} [DecidableEq ι]

def doors (rt : ι → Runtime) (parseUrl : Value → Option (List (String × String))) :
    Gate ι JwtVerifierService Knock where
  init := {}
  knock i v s e :=
    let d := Door.step ((rt i).gateway parseUrl) ⟨v, s⟩ e.event
    (d.verifier, d.sessions)

/-- The upgrade request showed this session's token, which the library vouches for under the
configuration that the verifier has from then on. -/
def Vouched (parseUrl : Value → Option (List (String × String))) (e : Knock)
    (v : JwtVerifierService) (x : Session) : Prop :=
  ∃ around u config token, e = .upgrade around u ∧ v.config = some config ∧
    call config token ∈ v.calls ∧ Door.Entitled parseUrl around config u token x

omit [DecidableEq ι] in
theorem admits_doors (rt : ι → Runtime) (parseUrl : Value → Option (List (String × String))) :
    (doors rt parseUrl).Admits fun _ e v x => Vouched parseUrl e v x where
  silent i v s e := by
    cases e with
    | request around context => exact .refl _
    | upgrade around u =>
      change WsService.AddsSilently s (Door.step _ ⟨v, s⟩ (.upgrade around u)).sessions
      rw [Door.sessions_upgrade]
      exact WsGateway.addsSilently_upgrade _
  valid i v s e hv := by
    cases e with
    | request around context => exact hv
    | upgrade around u =>
      change (Door.step _ ⟨v, s⟩ (.upgrade around u)).sessions.registry.Valid
      rw [Door.sessions_upgrade]
      exact WsGateway.valid_step hv _
  built i v s e x hx := by
    refine (Door.built_step hx).imp_right ?_
    rintro ⟨around, u, config, token, he, hrest⟩
    cases e with
    | request around context => cases he
    | upgrade around u =>
      cases he
      exact ⟨around, u, config, token, rfl, hrest⟩

def Keeps (v v' : JwtVerifierService) : Prop :=
  (∀ config, v.config = some config → v'.config = some config) ∧ v.calls ⊆ v'.calls

theorem keeps_run (rt : ι → Runtime) (parseUrl : Value → Option (List (String × String)))
    (es fs : List (GatedEvent ι Knock)) (j : ι) :
    Keeps ((((doors rt parseUrl).system rt).run es).gates j)
      ((((doors rt parseUrl).system rt).run (es ++ fs)).gates j) := by
  refine Gate.gates_run (fun v => ⟨fun _ h => h, List.Subset.refl _⟩) ?_ ?_ es fs j
  · intro k l m hkl hlm
    exact ⟨fun config h => hlm.1 config (hkl.1 config h), List.Subset.trans hkl.2 hlm.2⟩
  · intro i v s e
    exact ⟨fun config h => Door.config_step _ (d := ⟨v, s⟩) h e.event,
      Door.calls_step _ ⟨v, s⟩ e.event⟩

def VouchedFor (parseUrl : Value → Option (List (String × String)))
    (es : List (GatedEvent ι Knock)) (v : JwtVerifierService) (i : ι) (x : Session) : Prop :=
  ∃ e, .knock i e ∈ es ∧ Vouched parseUrl e v x

/-- Whatever goes on at the doors of the processes and behind them: a broadcast to a user is sent
only to sessions of that very user, each on a token that its own upgrade request showed earlier
and that the library vouched for, under the one configuration of their process; and it was asked
for from inside, or by a frame of a session that was there already on such a token of its own. -/
theorem broadcasts_are_vouched_for (rt : ι → Runtime)
    (parseUrl : Value → Option (List (String × String))) (es : List (GatedEvent ι Knock)) :
    let b := ((doors rt parseUrl).system rt).run es
    ∀ h ∈ b.cluster.history, (doors rt parseUrl).Traced rt
      (fun pre j x => VouchedFor parseUrl pre (b.gates j) j x) es h := by
  intro b h hmem
  refine ((admits_doors rt parseUrl).traced hmem).imp fun pre post j x hes hlet => ?_
  obtain ⟨before, e, after, rfl, around, u, config, token, he, hconfig, hcall, hentitled⟩ := hlet
  obtain ⟨hkept, hcalls⟩ := keeps_run rt parseUrl (before ++ [.knock j e]) (after ++ post) j
  rw [show before ++ [.knock j e] ++ (after ++ post) = es by simp [hes]] at hkept hcalls
  exact ⟨e, List.mem_append_right _ List.mem_cons_self, around, u, config, token, he,
    hkept config hconfig, hcalls hcall, hentitled⟩

def called : List (GatedEvent Unit Knock) :=
  Cluster.welcomed (.upgrade trusting ⟨0, [.data (.object [("url", .string "/")])], 0, 0⟩)

theorem broadcasts_are_vouched_for_called :
    let g := doors Cluster.welcomer Cluster.welcomeParams
    let b := (g.system Cluster.welcomer).run called
    ∃ h ∈ b.cluster.history, h.sent () ≠ [] ∧ g.Traced Cluster.welcomer
      (fun pre j x => VouchedFor Cluster.welcomeParams pre (b.gates j) j x) called h := by
  intro g b
  have hhead := List.head_mem (show b.cluster.history ≠ [] by decide +kernel)
  exact ⟨_, hhead, by decide +kernel,
    broadcasts_are_vouched_for Cluster.welcomer Cluster.welcomeParams called _ hhead⟩

end Backend

end NestBackend
