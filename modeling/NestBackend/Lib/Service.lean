import NestBackend.Lib.Script
import NestBackend.Lib.System

universe u v w x

namespace NestBackend.Lib

/-- What answers the requests of many clients out of one state.  A choice of type `δ` is made
for each answer, and moves of type `κ` change the state without a request. -/
structure Service (ρ : Type u) (ans : ρ → Type u) (σ : Type v) (δ : Type w) (κ : Type x) where
  serve : σ → δ → (r : ρ) → ans r × σ
  move : σ → κ → σ

structure Client (ρ : Type u) (ans : ρ → Type u) (ε α : Type u) where
  talk : List (Exchange ans)
  rest : Script ρ ans ε α

structure Client.Follows {ρ : Type u} {ans : ρ → Type u} {ε α : Type u}
    (G : List (Exchange ans) → ρ → Prop) (Q : Except ε α → List (Exchange ans) → Prop)
    (c : Client ρ ans ε α) : Prop where
  put : ∀ pre x, pre ++ [x] <+: c.talk → G pre x.request
  rest : c.rest.Meets G Q c.talk

theorem Client.Follows.answered {ρ : Type u} {ans : ρ → Type u} {ε α : Type u}
    {G : List (Exchange ans) → ρ → Prop} {Q : Except ε α → List (Exchange ans) → Prop}
    {c : Client ρ ans ε α} (hc : c.Follows G Q) {r : ρ} {k : ans r → Script ρ ans ε α}
    (hrest : c.rest = .ask r k) (a : ans r) :
    G c.talk r ∧ Client.Follows G Q ⟨c.talk ++ [⟨r, a⟩], k a⟩ := by
  have hmeets := hc.rest
  rw [hrest] at hmeets
  refine ⟨hmeets.1, fun pre x hpre => ?_, hmeets.2 a⟩
  rcases List.prefix_concat_iff.mp hpre with heq | hpre
  · obtain ⟨rfl, hx⟩ := List.append_inj' heq rfl
    cases hx
    exact hmeets.1
  · exact hc.put pre x hpre

structure Sessions (ρ : Type u) (ans : ρ → Type u) (ε α : Type u) (σ : Type v) where
  store : σ
  clients : List (Client ρ ans ε α)

def Sessions.join {ρ : Type u} {ans : ρ → Type u} {ε α : Type u} {σ : Type v}
    (s : Sessions ρ ans ε α σ) (p : Script ρ ans ε α) : Sessions ρ ans ε α σ :=
  { s with clients := s.clients ++ [⟨[], p⟩] }

namespace Service

variable {ρ : Type u} {ans : ρ → Type u} {ε α : Type u} {σ : Type v} {δ : Type w} {κ : Type x}

inductive Event (δ : Type w) (κ : Type x) where
  | turn (client : Nat) (choice : δ)
  | move (m : κ)

def Event.isTurn (i : Nat) : Event δ κ → Bool
  | .turn j _ => j == i
  | .move _ => false

def answer (S : Service ρ ans σ δ κ) (choice : δ) (store : σ) (c : Client ρ ans ε α) :
    σ × Client ρ ans ε α :=
  match c.rest with
  | .ask r k =>
    let served := S.serve store choice r
    (served.2, ⟨c.talk ++ [⟨r, served.1⟩], k served.1⟩)
  | _ => (store, c)

def step (S : Service ρ ans σ δ κ) (s : Sessions ρ ans ε α σ) :
    Event δ κ → Sessions ρ ans ε α σ
  | .turn i choice =>
    match s.clients[i]? with
    | none => s
    | some c =>
      let answered := S.answer choice s.store c
      ⟨answered.1, s.clients.set i answered.2⟩
  | .move m => { s with store := S.move s.store m }

def system (S : Service ρ ans σ δ κ) (store : σ) (scripts : List (Script ρ ans ε α)) :
    System (Sessions ρ ans ε α σ) (Event δ κ) where
  init := ⟨store, scripts.map fun p => ⟨[], p⟩⟩
  step := S.step

/-- What is kept of the state and of each client: an answer keeps it of the client that gets
it, and no client's answer or move of the service disturbs it for the others. -/
structure Keeps (S : Service ρ ans σ δ κ) (I : σ → Prop) (P : σ → Client ρ ans ε α → Prop) :
    Prop where
  serve : ∀ s choice c r k, I s → P s c → c.rest = .ask r k →
    I (S.serve s choice r).2 ∧ P (S.serve s choice r).2
      ⟨c.talk ++ [⟨r, (S.serve s choice r).1⟩], k (S.serve s choice r).1⟩
  others : ∀ s choice c r k, I s → P s c → c.rest = .ask r k →
    ∀ d, P s d → P (S.serve s choice r).2 d
  move : ∀ s m, I s → I (S.move s m)
  through : ∀ s m c, I s → P s c → P (S.move s m) c

theorem Keeps.answer {S : Service ρ ans σ δ κ} {I : σ → Prop}
    {P : σ → Client ρ ans ε α → Prop} (hkeeps : S.Keeps I P) {s : σ} {c : Client ρ ans ε α}
    (hI : I s) (hc : P s c) (choice : δ) :
    I (S.answer choice s c).1 ∧ P (S.answer choice s c).1 (S.answer choice s c).2 ∧
      ∀ d, P s d → P (S.answer choice s c).1 d := by
  unfold Service.answer
  split
  · next r k hrest =>
    obtain ⟨hI', hc'⟩ := hkeeps.serve s choice c r k hI hc hrest
    exact ⟨hI', hc', hkeeps.others s choice c r k hI hc hrest⟩
  · exact ⟨hI, hc, fun _ hd => hd⟩

theorem Keeps.step {S : Service ρ ans σ δ κ} {I : σ → Prop}
    {P : σ → Client ρ ans ε α → Prop} (hkeeps : S.Keeps I P) {s : Sessions ρ ans ε α σ}
    (hI : I s.store) (hP : ∀ c ∈ s.clients, P s.store c) (e : Event δ κ) :
    I (S.step s e).store ∧ ∀ c ∈ (S.step s e).clients, P (S.step s e).store c := by
  cases e with
  | turn i choice =>
    simp only [Service.step]
    cases hc : s.clients[i]? with
    | none => exact ⟨hI, hP⟩
    | some c =>
      have hmem : c ∈ s.clients := List.mem_of_getElem? hc
      obtain ⟨hI', hc', hothers⟩ := hkeeps.answer hI (hP c hmem) choice
      refine ⟨hI', fun d hd => ?_⟩
      rcases List.mem_or_eq_of_mem_set hd with hd | rfl
      · exact hothers d (hP d hd)
      · exact hc'
  | move m => exact ⟨hkeeps.move _ m hI, fun c hc => hkeeps.through _ m c hI (hP c hc)⟩

theorem Keeps.run {S : Service ρ ans σ δ κ} {I : σ → Prop}
    {P : σ → Client ρ ans ε α → Prop} (hkeeps : S.Keeps I P) {store : σ} (hI : I store)
    (scripts : List (Script ρ ans ε α)) (hP : ∀ p ∈ scripts, P store ⟨[], p⟩)
    (es : List (Event δ κ)) :
    I ((S.system store scripts).run es).store ∧
      ∀ c ∈ ((S.system store scripts).run es).clients,
        P ((S.system store scripts).run es).store c := by
  refine (S.system store scripts).invariant
    (I := fun s => I s.store ∧ ∀ c ∈ s.clients, P s.store c) ⟨hI, ?_⟩
    (fun s e h => hkeeps.step h.1 h.2 e) es
  intro c hc
  obtain ⟨p, hp, rfl⟩ := List.mem_map.mp hc
  exact hP p hp

theorem within_answer {S : Service ρ ans σ δ κ} {c : Client ρ ans ε α} {n : ℕ}
    (h : c.rest.Within n) (choice : δ) (store : σ) :
    (S.answer choice store c).2.rest.Within (n - 1) := by
  unfold answer
  split
  · next r k hrest =>
    rw [hrest] at h
    exact h.2 _
  · next hended =>
    cases hrest : c.rest with
    | ret a => trivial
    | throw e => trivial
    | ask r k => exact absurd hrest (hended r k)

theorem within_run (S : Service ρ ans σ δ κ) (store : σ) {scripts : List (Script ρ ans ε α)}
    {i n : ℕ} {p : Script ρ ans ε α} (hp : scripts[i]? = some p) (hn : p.Within n)
    (es : List (Event δ κ)) :
    ∃ c, ((S.system store scripts).run es).clients[i]? = some c ∧
      c.rest.Within (n - es.countP (·.isTurn i)) := by
  induction es using List.reverseRecOn with
  | nil => exact ⟨⟨[], p⟩, by simp [system, hp], hn⟩
  | append_singleton es e ih =>
    obtain ⟨c, hc, hwithin⟩ := ih
    rw [System.run_concat]
    generalize (S.system store scripts).run es = s at hc ⊢
    cases e with
    | move m => exact ⟨c, hc, by simpa [Event.isTurn] using hwithin⟩
    | turn j choice =>
      by_cases hj : j = i
      · subst hj
        refine ⟨(S.answer choice s.store c).2, ?_, ?_⟩
        · have hlt := (List.getElem?_eq_some_iff.mp hc).1
          simp only [system, step, hc]
          exact List.getElem?_set_self hlt
        · have hnext := within_answer (S := S) hwithin choice s.store
          simpa [List.countP_append, Event.isTurn, Nat.sub_sub] using hnext
      · refine ⟨c, ?_, by simpa [Event.isTurn, hj] using hwithin⟩
        simp only [system, step]
        cases s.clients[j]? with
        | none => exact hc
        | some d => rw [List.getElem?_set_ne hj, hc]

theorem answer_ask (S : Service ρ ans σ δ κ) (choice : δ) (store : σ) {c : Client ρ ans ε α} {r : ρ}
    {k : ans r → Script ρ ans ε α} (hrest : c.rest = .ask r k) :
    S.answer choice store c = ((S.serve store choice r).2,
      ⟨c.talk ++ [⟨r, (S.serve store choice r).1⟩], k (S.serve store choice r).1⟩) := by
  rw [answer, hrest]

theorem answer_ended (S : Service ρ ans σ δ κ) (choice : δ) (store : σ) {c : Client ρ ans ε α}
    {o : Except ε α} (ho : c.rest.outcome? = some o) : S.answer choice store c = (store, c) := by
  cases hrest : c.rest with
  | ask r k =>
    rw [hrest] at ho
    cases ho
  | ret a | throw e => rw [answer, hrest]

theorem client_step (S : Service ρ ans σ δ κ) {s : Sessions ρ ans ε α σ} {i : Nat}
    {c : Client ρ ans ε α} (hc : s.clients[i]? = some c) (e : Event δ κ) :
    (e.isTurn i = false ∧ (S.step s e).clients[i]? = some c) ∨
      ∃ choice, e = .turn i choice ∧
        (S.step s e).clients[i]? = some (S.answer choice s.store c).2 ∧
        (S.step s e).store = (S.answer choice s.store c).1 := by
  cases e with
  | move m => exact .inl ⟨rfl, hc⟩
  | turn j choice =>
    by_cases hj : j = i
    · subst hj
      refine .inr ⟨choice, rfl, ?_, by simp only [step, hc]⟩
      simp only [step, hc]
      exact List.getElem?_set_self (List.getElem?_eq_some_iff.mp hc).1
    · refine .inl ⟨by simp [Event.isTurn, hj], ?_⟩
      simp only [step]
      cases s.clients[j]? with
      | none => exact hc
      | some d => rw [List.getElem?_set_ne hj, hc]

theorem client_run (S : Service ρ ans σ δ κ) (store : σ) {scripts : List (Script ρ ans ε α)}
    {i : Nat} {p : Script ρ ans ε α} (hp : scripts[i]? = some p) {P : Nat → Client ρ ans ε α → Prop}
    (hstart : P 0 ⟨[], p⟩)
    (hanswer : ∀ n choice s c, P n c → P (n + 1) (S.answer choice s c).2)
    (es : List (Event δ κ)) :
    ∃ c, ((S.system store scripts).run es).clients[i]? = some c ∧
      P (es.countP (·.isTurn i)) c := by
  induction es using List.reverseRecOn with
  | nil => exact ⟨⟨[], p⟩, by simp [system, hp], hstart⟩
  | append_singleton es e ih =>
    obtain ⟨c, hc, hP⟩ := ih
    rw [System.run_concat, List.countP_append, List.countP_singleton]
    rcases S.client_step hc e with ⟨hturn, hnext⟩ | ⟨choice, rfl, hnext, -⟩
    · exact ⟨c, hnext, by simpa [hturn] using hP⟩
    · exact ⟨_, hnext, by simpa [Event.isTurn] using hanswer _ choice _ c hP⟩

theorem follows_answer {S : Service ρ ans σ δ κ} {c : Client ρ ans ε α}
    {G : List (Exchange ans) → ρ → Prop} {Q : Except ε α → List (Exchange ans) → Prop}
    (h : c.Follows G Q) (choice : δ) (store : σ) : (S.answer choice store c).2.Follows G Q := by
  unfold answer
  split
  · next r k hrest => exact (h.answered hrest _).2
  · exact h

theorem follows_run (S : Service ρ ans σ δ κ) (store : σ) {scripts : List (Script ρ ans ε α)}
    {i : Nat} {p : Script ρ ans ε α} (hp : scripts[i]? = some p)
    {G : List (Exchange ans) → ρ → Prop} {Q : Except ε α → List (Exchange ans) → Prop}
    (hmeets : p.Meets G Q []) (es : List (Event δ κ)) :
    ∃ c, ((S.system store scripts).run es).clients[i]? = some c ∧ c.Follows G Q :=
  S.client_run store hp (P := fun _ c => c.Follows G Q) ⟨fun pre x hpre => by simp at hpre, hmeets⟩
    (fun _ choice s _ hc => follows_answer hc choice s) es

theorem untouched_run (S : Service ρ ans σ δ κ) (store : σ) {scripts : List (Script ρ ans ε α)}
    {i : Nat} {p : Script ρ ans ε α} (hp : scripts[i]? = some p) {es : List (Event δ κ)}
    (hes : es.countP (·.isTurn i) = 0) :
    ((S.system store scripts).run es).clients[i]? = some ⟨[], p⟩ := by
  obtain ⟨c, hc, hstart⟩ := S.client_run store hp (P := fun n c => n = 0 → c = ⟨[], p⟩)
    (fun _ => rfl) (fun n _ _ _ _ h => absurd h n.succ_ne_zero) es
  rw [hc, hstart hes]

theorem length_step (S : Service ρ ans σ δ κ) (s : Sessions ρ ans ε α σ) (e : Event δ κ) :
    (S.step s e).clients.length = s.clients.length := by
  cases e with
  | move m => rfl
  | turn i choice =>
    simp only [step]
    split
    · rfl
    · exact List.length_set ..

theorem length_run (S : Service ρ ans σ δ κ) (store : σ) (scripts : List (Script ρ ans ε α))
    (es : List (Event δ κ)) :
    ((S.system store scripts).run es).clients.length = scripts.length :=
  (S.system store scripts).invariant (I := fun s => s.clients.length = scripts.length)
    (List.length_map ..) (fun s e h => (S.length_step s e).trans h) es

def Event.Within (n : Nat) : Event δ κ → Prop
  | .turn i _ => i < n
  | .move _ => True

theorem Event.Within.mono {m n : Nat} (h : m ≤ n) {e : Event δ κ} (he : e.Within m) :
    e.Within n := by
  cases e with
  | turn i choice => exact lt_of_lt_of_le he h
  | move m => trivial

theorem step_of_not_within (S : Service ρ ans σ δ κ) {s : Sessions ρ ans ε α σ} {e : Event δ κ}
    (he : ¬ e.Within s.clients.length) : S.step s e = s := by
  cases e with
  | turn i choice => simp only [step, List.getElem?_eq_none (not_lt.mp he)]
  | move m => exact absurd trivial he

theorem step_join (S : Service ρ ans σ δ κ) {s : Sessions ρ ans ε α σ} {e : Event δ κ}
    (he : e.Within s.clients.length) (p : Script ρ ans ε α) :
    S.step (s.join p) e = (S.step s e).join p := by
  cases e with
  | turn i choice =>
    have hlt : i < s.clients.length := he
    simp only [step, Sessions.join, List.getElem?_append_left hlt, List.getElem?_eq_getElem hlt,
      List.set_append_left _ _ hlt]
  | move m => rfl

theorem run_join (S : Service ρ ans σ δ κ) (store : σ) {scripts : List (Script ρ ans ε α)}
    {es : List (Event δ κ)} (hes : ∀ e ∈ es, e.Within scripts.length) (p : Script ρ ans ε α) :
    (S.system store (scripts ++ [p])).run es = ((S.system store scripts).run es).join p := by
  induction es using List.reverseRecOn with
  | nil => simp [system, Sessions.join]
  | append_singleton es e ih =>
    rw [System.run_concat, System.run_concat, ih fun e' he' => hes e' (List.mem_append_left _ he')]
    refine S.step_join ?_ p
    rw [S.length_run]
    exact hes e (List.mem_append_right _ List.mem_cons_self)

/-- The clients that have come by now might as well have been there from the start: some run
that has them all leads here. -/
def Reached (S : Service ρ ans σ δ κ) (store : σ) (scripts : List (Script ρ ans ε α))
    (s : Sessions ρ ans ε α σ) : Prop :=
  ∃ es : List (Event δ κ), (∀ e ∈ es, e.Within scripts.length) ∧ s = (S.system store scripts).run es

section

variable {S : Service ρ ans σ δ κ} {store : σ} {scripts : List (Script ρ ans ε α)}
  {s : Sessions ρ ans ε α σ}

theorem reached_nil : S.Reached store ([] : List (Script ρ ans ε α)) ⟨store, []⟩ :=
  ⟨[], ⟨fun _ he => absurd he List.not_mem_nil, rfl⟩⟩

theorem Reached.join (h : S.Reached store scripts s) (p : Script ρ ans ε α) :
    S.Reached store (scripts ++ [p]) (s.join p) := by
  obtain ⟨es, hes, rfl⟩ := h
  refine ⟨es, fun e he => (hes e he).mono ?_, (S.run_join store hes p).symm⟩
  simp

theorem Reached.step (h : S.Reached store scripts s) (e : Event δ κ) :
    S.Reached store scripts (S.step s e) := by
  obtain ⟨es, hes, rfl⟩ := h
  have hlength := S.length_run store scripts es
  by_cases he : e.Within scripts.length
  · refine ⟨es ++ [e], fun e' he' => ?_, ((S.system store scripts).run_concat es e).symm⟩
    rcases List.mem_append.mp he' with hold | hnew
    · exact hes e' hold
    · exact List.mem_singleton.mp hnew ▸ he
  · refine ⟨es, hes, S.step_of_not_within ?_⟩
    rwa [hlength]

end

end Service

end NestBackend.Lib
