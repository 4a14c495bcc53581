import Mathlib.Data.List.Basic

universe u v

namespace NestBackend.Lib

/-- A program that puts requests, a request `r` being answered by some element of `ans r`,
and ends by returning or by throwing. -/
inductive Script (ρ : Type u) (ans : ρ → Type u) (ε : Type u) (α : Type u) : Type u where
  | ret (a : α)
  | throw (e : ε)
  | ask (r : ρ) (k : ans r → Script ρ ans ε α)

structure Exchange {ρ : Type u} (ans : ρ → Type u) where
  request : ρ
  answer : ans request

namespace Script

variable {ρ : Type u} {ans : ρ → Type u} {ε α β : Type u} {σ : Type v}

def bind : Script ρ ans ε α → (α → Script ρ ans ε β) → Script ρ ans ε β
  | .ret a, f => f a
  | .throw e, _ => .throw e
  | .ask r k, f => .ask r fun a => (k a).bind f

instance : Monad (Script ρ ans ε) where
  pure := .ret
  bind := .bind

def settle : Script ρ ans ε α → Script ρ ans ε (Except ε α)
  | .ret a => .ret (.ok a)
  | .throw e => .ret (.error e)
  | .ask r k => .ask r fun a => (k a).settle

def ofExcept : Except ε α → Script ρ ans ε α
  | .ok a => .ret a
  | .error e => .throw e

def request (r : ρ) : Script ρ ans ε (ans r) := .ask r .ret

@[simp] theorem pure_eq (a : α) : (pure a : Script ρ ans ε α) = .ret a := rfl

@[simp] theorem bind_eq (p : Script ρ ans ε α) (f : α → Script ρ ans ε β) :
    p >>= f = p.bind f := rfl

@[simp] theorem ret_bind (a : α) (f : α → Script ρ ans ε β) : (ret a).bind f = f a := rfl

def run (serve : (r : ρ) → σ → Option (ans r × σ)) :
    Script ρ ans ε α → σ → List ρ × Option (Except ε α)
  | .ret a, _ => ([], some (.ok a))
  | .throw e, _ => ([], some (.error e))
  | .ask r k, s =>
    match serve r s with
    | none => ([r], none)
    | some x =>
      let rest := (k x.1).run serve x.2
      (r :: rest.1, rest.2)

section

variable {serve : (r : ρ) → σ → Option (ans r × σ)} {r : ρ} {s t : σ}
  {k : ans r → Script ρ ans ε α}

theorem run_ask_none (h : serve r s = none) : (ask r k).run serve s = ([r], none) := by
  rw [run, h]

theorem run_ask_some {a : ans r} (h : serve r s = some (a, t)) :
    (ask r k).run serve s = (r :: ((k a).run serve t).1, ((k a).run serve t).2) := by
  rw [run, h]

end

def Ends {η : Type v} (returned : α → η → Prop) (thrown : ε → η → Prop) :
    Except ε α → η → Prop
  | .ok a => returned a
  | .error e => thrown e

/-- After the conversation `h`, every request is one that `G` lets be put then, and the script
ends as `Q` says, whatever is answered. -/
def Meets (G : List (Exchange ans) → ρ → Prop) (Q : Except ε α → List (Exchange ans) → Prop) :
    Script ρ ans ε α → List (Exchange ans) → Prop
  | .ret a, h => Q (.ok a) h
  | .throw e, h => Q (.error e) h
  | .ask r k, h => G h r ∧ ∀ a, (k a).Meets G Q (h ++ [⟨r, a⟩])

variable {G : List (Exchange ans) → ρ → Prop} {h : List (Exchange ans)}

theorem Meets.mono {Q Q' : Except ε α → List (Exchange ans) → Prop} {p : Script ρ ans ε α}
    (hp : p.Meets G Q h) (himp : ∀ o h, Q o h → Q' o h) : p.Meets G Q' h := by
  induction p generalizing h with
  | ret a => exact himp _ _ hp
  | throw e => exact himp _ _ hp
  | ask r k ih => exact ⟨hp.1, fun a => ih a (hp.2 a)⟩

theorem Meets.weaken {G' : List (Exchange ans) → ρ → Prop}
    {Q Q' : Except ε α → List (Exchange ans) → Prop} {p : Script ρ ans ε α} (hp : p.Meets G Q h)
    (hG : ∀ h r, G h r → G' h r) (hQ : ∀ o h, Q o h → Q' o h) : p.Meets G' Q' h := by
  induction p generalizing h with
  | ret a => exact hQ _ _ hp
  | throw e => exact hQ _ _ hp
  | ask r k ih => exact ⟨hG _ _ hp.1, fun a => ih a (hp.2 a)⟩

theorem Meets.and {G' : List (Exchange ans) → ρ → Prop}
    {Q Q' : Except ε α → List (Exchange ans) → Prop} {p : Script ρ ans ε α} (hp : p.Meets G Q h)
    (hp' : p.Meets G' Q' h) :
    p.Meets (fun h r => G h r ∧ G' h r) (fun o h => Q o h ∧ Q' o h) h := by
  induction p generalizing h with
  | ret a => exact ⟨hp, hp'⟩
  | throw e => exact ⟨hp, hp'⟩
  | ask r k ih => exact ⟨⟨hp.1, hp'.1⟩, fun a => ih a (hp.2 a) (hp'.2 a)⟩

theorem meets_bind {Q : Except ε β → List (Exchange ans) → Prop} (p : Script ρ ans ε α)
    (f : α → Script ρ ans ε β) :
    (p.bind f).Meets G Q h ↔
      p.Meets G (Ends (fun a h => (f a).Meets G Q h) fun e h => Q (.error e) h) h := by
  induction p generalizing h with
  | ret a => rfl
  | throw e => rfl
  | ask r k ih => exact and_congr_right fun _ => forall_congr' fun a => ih a

theorem meets_settle {Q : Except ε (Except ε α) → List (Exchange ans) → Prop}
    (p : Script ρ ans ε α) :
    p.settle.Meets G Q h ↔ p.Meets G (fun o h => Q (.ok o) h) h := by
  induction p generalizing h with
  | ret a => rfl
  | throw e => rfl
  | ask r k ih => exact and_congr_right fun _ => forall_congr' fun a => ih a

theorem Meets.frame {R : List (Exchange ans) → Prop} (hR : ∀ h x, R h → R (h ++ [x]))
    {Q : Except ε α → List (Exchange ans) → Prop} {p : Script ρ ans ε α} (h₀ : R h)
    (hp : p.Meets G Q h) : p.Meets G (fun o h => R h ∧ Q o h) h := by
  induction p generalizing h with
  | ret a => exact ⟨h₀, hp⟩
  | throw e => exact ⟨h₀, hp⟩
  | ask r k ih => exact ⟨hp.1, fun a => ih a (hR _ _ h₀) (hp.2 a)⟩

def Within : Script ρ ans ε α → ℕ → Prop
  | .ret _, _ => True
  | .throw _, _ => True
  | .ask _ k, n => 0 < n ∧ ∀ a, (k a).Within (n - 1)

theorem Within.mono {m n : ℕ} {p : Script ρ ans ε α} (hp : p.Within m) (hmn : m ≤ n) :
    p.Within n := by
  induction p generalizing m n with
  | ret a => trivial
  | throw e => trivial
  | ask r k ih => exact ⟨Nat.lt_of_lt_of_le hp.1 hmn, fun a => ih a (hp.2 a) (by omega)⟩

theorem Within.bind {m n : ℕ} {p : Script ρ ans ε α} {f : α → Script ρ ans ε β}
    (hp : p.Within m) (hf : ∀ a, (f a).Within n) : (p.bind f).Within (m + n) := by
  induction p generalizing m with
  | ret a => exact (hf a).mono (by omega)
  | throw e => trivial
  | ask r k ih =>
    have hpos : 0 < m := hp.1
    exact ⟨by omega, fun a => (ih a (hp.2 a)).mono (by omega)⟩

theorem Within.settle {n : ℕ} {p : Script ρ ans ε α} (hp : p.Within n) : p.settle.Within n := by
  induction p generalizing n with
  | ret a => trivial
  | throw e => trivial
  | ask r k ih => exact ⟨hp.1, fun a => ih a (hp.2 a)⟩

def outcome? : Script ρ ans ε α → Option (Except ε α)
  | .ret a => some (.ok a)
  | .throw e => some (.error e)
  | .ask _ _ => none

theorem Within.ended {p : Script ρ ans ε α} (hp : p.Within 0) : p.outcome?.isSome := by
  cases p with
  | ret a => rfl
  | throw e => rfl
  | ask r k => exact absurd hp.1 (Nat.lt_irrefl 0)

theorem Meets.of_outcome {Q : Except ε α → List (Exchange ans) → Prop} {p : Script ρ ans ε α}
    {o : Except ε α} (hp : p.Meets G Q h) (ho : p.outcome? = some o) : Q o h := by
  cases p with
  | ret a => cases ho; exact hp
  | throw e => cases ho; exact hp
  | ask r k => cases ho

end Script

end NestBackend.Lib
