import Mathlib.Data.List.Perm.Basic
import Mathlib.Order.Basic
import NestBackend.Lib.System

universe u v w x

namespace NestBackend.Lib.System

variable {σ : Type u} {ε : Type v} {η : Type w} {β : Type x}

def recording (M : System σ ε) (note : σ → ε → η → η) (blank : η) : System (σ × η) ε where
  init := (M.init, blank)
  step p e := (M.step p.1 e, note p.1 e p.2)

variable {M : System σ ε} {note : σ → ε → η → η} {blank : η}

@[simp] theorem fst_runFrom_recording (p : σ × η) (es : List ε) :
    ((M.recording note blank).runFrom p es).1 = M.runFrom p.1 es := by
  induction es generalizing p with
  | nil => rfl
  | cons e es ih => exact ih _

@[simp] theorem fst_run_recording (es : List ε) :
    ((M.recording note blank).run es).1 = M.run es := fst_runFrom_recording _ es

def collectFrom (M : System σ ε) (out : σ → ε → List β) : σ → List ε → List β
  | _, [] => []
  | s, e :: es => out s e ++ M.collectFrom out (M.step s e) es

theorem collectFrom_congr {out out' : σ → ε → List β} {s : σ} {es : List ε}
    (h : M.AlongFrom (fun s e => out s e = out' s e) s es) :
    M.collectFrom out s es = M.collectFrom out' s es := by
  induction es generalizing s with
  | nil => rfl
  | cons e es ih => rw [collectFrom, collectFrom, h.1, ih h.2]

theorem collectFrom_stateless (f : ε → List β) (s : σ) (es : List ε) :
    M.collectFrom (fun _ e => f e) s es = es.flatMap f := by
  induction es generalizing s with
  | nil => rfl
  | cons e es ih => rw [collectFrom, ih, List.flatMap_cons]

theorem collectFrom_balance {taken given : σ → ε → List β} {held : σ → List β} {s : σ}
    {es : List ε} (h : M.AlongFrom (fun s e =>
      (held s ++ taken s e).Perm (held (M.step s e) ++ given s e)) s es) :
    (held s ++ M.collectFrom taken s es).Perm
      (held (M.runFrom s es) ++ M.collectFrom given s es) := by
  induction es generalizing s with
  | nil => exact List.Perm.refl _
  | cons e es ih =>
    calc held s ++ (taken s e ++ M.collectFrom taken (M.step s e) es)
      _ = (held s ++ taken s e) ++ M.collectFrom taken (M.step s e) es :=
        (List.append_assoc ..).symm
      _ |>.Perm ((held (M.step s e) ++ given s e) ++ M.collectFrom taken (M.step s e) es) :=
        h.1.append_right _
      _ |>.Perm (given s e ++ (held (M.step s e) ++ M.collectFrom taken (M.step s e) es)) := by
        rw [← List.append_assoc]
        exact List.perm_append_comm.append_right _
      _ |>.Perm (given s e ++ (held (M.runFrom (M.step s e) es) ++
          M.collectFrom given (M.step s e) es)) := (ih h.2).append_left _
      _ |>.Perm (held (M.runFrom (M.step s e) es) ++
          (given s e ++ M.collectFrom given (M.step s e) es)) := by
        rw [← List.append_assoc, ← List.append_assoc]
        exact List.perm_append_comm.append_right _

theorem collectFrom_map {γ : Type*} (f : β → γ) (out : σ → ε → List β) (s : σ) (es : List ε) :
    M.collectFrom (fun s e => (out s e).map f) s es = (M.collectFrom out s es).map f := by
  induction es generalizing s with
  | nil => rfl
  | cons e es ih => rw [collectFrom, collectFrom, ih, List.map_append]

theorem AlongFrom.mono {G H : σ → ε → Prop} {s : σ} {es : List ε} (h : M.AlongFrom G s es)
    (himp : ∀ s e, G s e → H s e) : M.AlongFrom H s es := by
  induction es generalizing s with
  | nil => trivial
  | cons e es ih => exact ⟨himp s e h.1, ih h.2⟩

theorem AlongFrom.of_reachable {G H : σ → ε → Prop} {I : σ → Prop} (hI : ∀ es, I (M.run es))
    (himp : ∀ s e, I s → G s e → H s e) {pre es : List ε}
    (h : M.AlongFrom G (M.run pre) es) : M.AlongFrom H (M.run pre) es := by
  induction es generalizing pre with
  | nil => trivial
  | cons e es ih =>
    refine ⟨himp _ _ (hI pre) h.1, ?_⟩
    have hrest : M.AlongFrom G (M.run (pre ++ [e])) es := by
      rw [run_concat]
      exact h.2
    rw [← run_concat]
    exact ih hrest

def sumFrom (M : System σ ε) (f : σ → ε → ℕ) : σ → List ε → ℕ
  | _, [] => 0
  | s, e :: es => f s e + M.sumFrom f (M.step s e) es

theorem sumFrom_covered (owed received : σ → ℕ) {cost : σ → ε → ℕ} {s : σ} {es : List ε}
    (h : M.AlongFrom (fun s e =>
      owed (M.step s e) + cost s e + received s ≤ owed s + received (M.step s e)) s es) :
    owed (M.runFrom s es) + M.sumFrom cost s es + received s ≤
      owed s + received (M.runFrom s es) := by
  induction es generalizing s with
  | nil => exact le_of_eq rfl
  | cons e es ih =>
    have hfirst := h.1
    have hrest := ih h.2
    rw [sumFrom, runFrom_cons]
    omega

end NestBackend.Lib.System
