import Mathlib.Data.List.Basic
import Mathlib.Data.List.Infix

universe u v w x

namespace NestBackend.Lib

/-- A deterministic machine.  Everything the environment may choose is an event,
so a run is a list of events. -/
structure System (σ : Type u) (ε : Type v) where
  init : σ
  step : σ → ε → σ

namespace System

variable {σ : Type u} {ε : Type v} {τ : Type w} {δ : Type x}

def runFrom (M : System σ ε) (s : σ) (es : List ε) : σ := es.foldl M.step s

def run (M : System σ ε) (es : List ε) : σ := M.runFrom M.init es

@[simp] theorem runFrom_nil (M : System σ ε) (s : σ) : M.runFrom s [] = s := rfl

@[simp] theorem runFrom_cons (M : System σ ε) (s : σ) (e : ε) (es : List ε) :
    M.runFrom s (e :: es) = M.runFrom (M.step s e) es := rfl

theorem runFrom_append (M : System σ ε) (s : σ) (es fs : List ε) :
    M.runFrom s (es ++ fs) = M.runFrom (M.runFrom s es) fs := List.foldl_append

@[simp] theorem run_nil (M : System σ ε) : M.run [] = M.init := rfl

@[simp] theorem run_concat (M : System σ ε) (es : List ε) (e : ε) :
    M.run (es ++ [e]) = M.step (M.run es) e := by
  simp [run, runFrom_append]

theorem run_append (M : System σ ε) (es fs : List ε) :
    M.run (es ++ fs) = M.runFrom (M.run es) fs := M.runFrom_append M.init es fs

/-- Every step taken from `s` along `es` meets `G`, which reads the state before the step. -/
def AlongFrom (M : System σ ε) (G : σ → ε → Prop) : σ → List ε → Prop
  | _, [] => True
  | s, e :: es => G s e ∧ M.AlongFrom G (M.step s e) es

def Along (M : System σ ε) (G : σ → ε → Prop) (es : List ε) : Prop :=
  M.AlongFrom G M.init es

@[simp] theorem alongFrom_nil (M : System σ ε) (G : σ → ε → Prop) (s : σ) :
    M.AlongFrom G s [] := trivial

@[simp] theorem alongFrom_cons (M : System σ ε) (G : σ → ε → Prop) (s : σ) (e : ε)
    (es : List ε) : M.AlongFrom G s (e :: es) ↔ G s e ∧ M.AlongFrom G (M.step s e) es :=
  Iff.rfl

instance decidableAlongFrom (M : System σ ε) (G : σ → ε → Prop) [∀ s e, Decidable (G s e)] :
    ∀ s es, Decidable (M.AlongFrom G s es)
  | _, [] => .isTrue trivial
  | s, e :: es =>
    have := decidableAlongFrom M G (M.step s e) es
    inferInstanceAs (Decidable (G s e ∧ M.AlongFrom G (M.step s e) es))

instance (M : System σ ε) (G : σ → ε → Prop) [∀ s e, Decidable (G s e)] (es : List ε) :
    Decidable (M.Along G es) := decidableAlongFrom M G M.init es

theorem alongFrom_of_forall {M : System σ ε} {G : σ → ε → Prop} {es : List ε}
    (h : ∀ e ∈ es, ∀ s, G s e) (s : σ) : M.AlongFrom G s es := by
  induction es generalizing s with
  | nil => trivial
  | cons e es ih =>
    exact ⟨h e List.mem_cons_self s, ih (fun e' he' => h e' (List.mem_cons_of_mem _ he')) _⟩

theorem alongFrom_append (M : System σ ε) (G : σ → ε → Prop) (s : σ) (es fs : List ε) :
    M.AlongFrom G s (es ++ fs) ↔
      M.AlongFrom G s es ∧ M.AlongFrom G (M.runFrom s es) fs := by
  induction es generalizing s with
  | nil => simp
  | cons e es ih => simp [ih, and_assoc]

@[simp] theorem along_nil (M : System σ ε) (G : σ → ε → Prop) : M.Along G [] := trivial

@[simp] theorem along_concat (M : System σ ε) (G : σ → ε → Prop) (es : List ε) (e : ε) :
    M.Along G (es ++ [e]) ↔ M.Along G es ∧ G (M.run es) e := by
  simp [Along, alongFrom_append, run]

theorem along_initial {M : System σ ε} {G : σ → ε → Prop} {pre es : List ε}
    (hpre : pre <+: es) (h : M.Along G es) : M.Along G pre := by
  obtain ⟨post, rfl⟩ := hpre
  exact ((M.alongFrom_append G M.init pre post).mp h).1

theorem along_iff_forall_prefix {M : System σ ε} {G : σ → ε → Prop} {es : List ε} :
    M.Along G es ↔ ∀ pre e, pre ++ [e] <+: es → G (M.run pre) e := by
  constructor
  · intro h pre e hpre
    exact ((M.along_concat G pre e).mp (along_initial hpre h)).2
  · intro h
    induction es using List.reverseRecOn with
    | nil => trivial
    | append_singleton es e ih =>
      rw [along_concat]
      exact ⟨ih fun pre e' hpre => h pre e' (hpre.trans (List.prefix_append es [e])),
        h es e (List.prefix_refl _)⟩

/-- The guarded invariant rule: a step need only preserve the invariant when it meets `G`. -/
theorem invariant_along {M : System σ ε} {G : σ → ε → Prop} {I : σ → Prop}
    (hinit : I M.init) (hstep : ∀ s e, I s → G s e → I (M.step s e))
    {es : List ε} (h : M.Along G es) : I (M.run es) := by
  induction es using List.reverseRecOn with
  | nil => exact hinit
  | append_singleton es e ih =>
    rw [along_concat] at h
    rw [run_concat]
    exact hstep _ _ (ih h.1) h.2

theorem invariant {M : System σ ε} {I : σ → Prop}
    (hinit : I M.init) (hstep : ∀ s e, I s → I (M.step s e)) (es : List ε) :
    I (M.run es) := by
  induction es using List.reverseRecOn with
  | nil => exact hinit
  | append_singleton es e ih =>
    rw [run_concat]
    exact hstep _ _ ih

theorem exists_step_of_run {M : System σ ε} {P : σ → Prop} (hinit : ¬ P M.init) {es : List ε}
    (h : P (M.run es)) : ∃ pre e post, es = pre ++ e :: post ∧ ¬ P (M.run pre) ∧
      P (M.step (M.run pre) e) := by
  induction es using List.reverseRecOn with
  | nil => exact absurd h hinit
  | append_singleton es e ih =>
    by_cases hbefore : P (M.run es)
    · obtain ⟨pre, e', post, rfl, hrest⟩ := ih hbefore
      exact ⟨pre, e', post ++ [e], by simp, hrest⟩
    · rw [run_concat] at h
      exact ⟨es, e, [], rfl, hbefore, h⟩

/-- When `G` is exactly what keeps `P` through one step, it is exactly what keeps `P`
through a run. -/
theorem forall_prefix_iff_along {M : System σ ε} {G : σ → ε → Prop} {I P : σ → Prop}
    (hinv : ∀ es, I (M.run es)) (hinit : P M.init)
    (hstep : ∀ s e, I s → P s → (P (M.step s e) ↔ G s e)) (es : List ε) :
    (∀ pre, pre <+: es → P (M.run pre)) ↔ M.Along G es := by
  induction es using List.reverseRecOn with
  | nil => simpa using hinit
  | append_singleton es e ih =>
    rw [along_concat, ← ih]
    constructor
    · intro h
      have hes : P (M.run es) := h es (List.prefix_append es [e])
      refine ⟨fun pre hpre => h pre (hpre.trans (List.prefix_append es [e])), ?_⟩
      rw [← hstep _ _ (hinv es) hes, ← run_concat]
      exact h _ (List.prefix_refl _)
    · rintro ⟨h, hok⟩ pre hpre
      rcases List.prefix_concat_iff.mp hpre with rfl | hpre
      · rw [run_concat, hstep _ _ (hinv es) (h es (List.prefix_refl _))]
        exact hok
      · exact h pre hpre

/-- Every step of `M` is a finite run of `N` on what `abs` keeps of the state. -/
structure Refinement (M : System σ ε) (N : System τ δ) where
  abs : σ → τ
  events : σ → ε → List δ
  abs_init : abs M.init = N.init
  abs_step : ∀ s e, abs (M.step s e) = N.runFrom (abs s) (events s e)

namespace Refinement

variable {M : System σ ε} {N : System τ δ}

def eventsFrom (R : Refinement M N) : σ → List ε → List δ
  | _, [] => []
  | s, e :: es => R.events s e ++ R.eventsFrom (M.step s e) es

def trace (R : Refinement M N) (es : List ε) : List δ := R.eventsFrom M.init es

theorem abs_runFrom (R : Refinement M N) (s : σ) (es : List ε) :
    R.abs (M.runFrom s es) = N.runFrom (R.abs s) (R.eventsFrom s es) := by
  induction es generalizing s with
  | nil => rfl
  | cons e es ih =>
    rw [runFrom_cons, ih, R.abs_step, eventsFrom, runFrom_append]

theorem abs_run (R : Refinement M N) (es : List ε) :
    R.abs (M.run es) = N.run (R.trace es) := by
  rw [run, abs_runFrom, R.abs_init]
  rfl

theorem invariant (R : Refinement M N) {P : τ → Prop} (h : ∀ ds, P (N.run ds))
    (es : List ε) : P (R.abs (M.run es)) := by
  rw [R.abs_run]
  exact h _

theorem alongFrom (R : Refinement M N) {G : σ → ε → Prop} {H : τ → δ → Prop}
    (himp : ∀ s e, G s e → N.AlongFrom H (R.abs s) (R.events s e)) {s : σ} {es : List ε}
    (h : M.AlongFrom G s es) : N.AlongFrom H (R.abs s) (R.eventsFrom s es) := by
  induction es generalizing s with
  | nil => trivial
  | cons e es ih =>
    rw [eventsFrom, alongFrom_append, ← R.abs_step]
    exact ⟨himp s e h.1, ih h.2⟩

theorem along (R : Refinement M N) {G : σ → ε → Prop} {H : τ → δ → Prop}
    (himp : ∀ s e, G s e → N.AlongFrom H (R.abs s) (R.events s e)) {es : List ε}
    (h : M.Along G es) : N.Along H (R.trace es) := by
  have := R.alongFrom himp h
  rwa [R.abs_init] at this

end Refinement

end System

end NestBackend.Lib

/-! Requests that have been issued but not applied yet, in issue order, and the
state they lead to.  A request may be applied ahead of earlier ones without
changing that state when it commutes with each of them. -/

namespace NestBackend.Lib.Backlog

variable {σ : Type u} {ρ : Type v}

def drain (apply : σ → ρ → σ) (s : σ) (rs : List ρ) : σ := rs.foldl apply s

@[simp] theorem drain_nil (apply : σ → ρ → σ) (s : σ) : drain apply s [] = s := rfl

@[simp] theorem drain_cons (apply : σ → ρ → σ) (s : σ) (r : ρ) (rs : List ρ) :
    drain apply s (r :: rs) = drain apply (apply s r) rs := rfl

theorem drain_append (apply : σ → ρ → σ) (s : σ) (rs qs : List ρ) :
    drain apply s (rs ++ qs) = drain apply (drain apply s rs) qs := List.foldl_append

def Commutes (apply : σ → ρ → σ) (r q : ρ) : Prop :=
  ∀ s, apply (apply s q) r = apply (apply s r) q

theorem Commutes.drain {apply : σ → ρ → σ} {r : ρ} {rs : List ρ}
    (h : ∀ q ∈ rs, Commutes apply r q) (s : σ) :
    apply (drain apply s rs) r = Backlog.drain apply (apply s r) rs := by
  induction rs generalizing s with
  | nil => rfl
  | cons q rs ih =>
    have hq : Commutes apply r q := h q List.mem_cons_self
    have hrs : ∀ q ∈ rs, Commutes apply r q := fun q hq => h q (List.mem_cons_of_mem _ hq)
    rw [drain_cons, ih hrs, hq s, drain_cons]

theorem drain_overtake {apply : σ → ρ → σ} {r : ρ} {pre : List ρ}
    (h : ∀ q ∈ pre, Commutes apply r q) (s : σ) (post : List ρ) :
    drain apply (apply s r) (pre ++ post) = drain apply s (pre ++ r :: post) := by
  rw [drain_append, drain_append, drain_cons, Commutes.drain h]

theorem drain_eraseIdx {apply : σ → ρ → σ} {r : ρ} {rs : List ρ} {i : Nat}
    (hi : rs[i]? = some r) (h : ∀ q ∈ rs.take i, Commutes apply r q) (s : σ) :
    drain apply (apply s r) (rs.eraseIdx i) = drain apply s rs := by
  obtain ⟨hlt, hr⟩ := List.getElem?_eq_some_iff.mp hi
  have hsplit : rs = rs.take i ++ r :: rs.drop (i + 1) := by
    rw [← hr, List.getElem_cons_drop hlt, List.take_append_drop]
  rw [List.eraseIdx_eq_take_drop_succ, drain_overtake h s, ← hsplit]

end NestBackend.Lib.Backlog
