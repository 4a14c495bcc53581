import Mathlib.Data.List.Forall2

universe u

namespace NestBackend.Lib

/-- A pattern for a backtracking matcher.  `many` repeats one element, `group` records what
its body takes, `stop` is the end of the input. -/
inductive Pattern (α : Type u) where
  | empty
  | one (p : α → Bool)
  | seq (a b : Pattern α)
  | many (greedy : Bool) (p : α → Bool)
  | group (a : Pattern α)
  | stop

structure Way (α : Type u) where
  taken : List α
  groups : List (List α)
  rest : List α

namespace Pattern

variable {α : Type u}

def fronts (greedy : Bool) (p : α → Bool) : List α → List (List α × List α)
  | [] => [([], [])]
  | x :: xs =>
    let longer := if p x then (fronts greedy p xs).map fun cut => (x :: cut.1, cut.2) else []
    if greedy then longer ++ [([], x :: xs)] else ([], x :: xs) :: longer

def ways : Pattern α → List α → List (Way α)
  | .empty, s => [⟨[], [], s⟩]
  | .one _, [] => []
  | .one p, x :: xs => if p x then [⟨[x], [], xs⟩] else []
  | .seq a b, s =>
    (a.ways s).flatMap fun w =>
      (b.ways w.rest).map fun v => ⟨w.taken ++ v.taken, w.groups ++ v.groups, v.rest⟩
  | .many greedy p, s => (fronts greedy p s).map fun cut => ⟨cut.1, [], cut.2⟩
  | .group a, s => (a.ways s).map fun w => ⟨w.taken, w.taken :: w.groups, w.rest⟩
  | .stop, [] => [⟨[], [], []⟩]
  | .stop, _ :: _ => []

def exec (a : Pattern α) (s : List α) : Option (Way α) := (a.ways s).head?

def many1 (greedy : Bool) (p : α → Bool) : Pattern α := .seq (.one p) (.many greedy p)

def literal (ps : List (α → Bool)) : Pattern α := ps.foldr (fun p a => .seq (.one p) a) .empty

/-- `a.Takes u gs r`: the pattern matches `u` in front of `r`, and its groups record `gs`. -/
inductive Takes : Pattern α → List α → List (List α) → List α → Prop
  | empty {r : List α} : Takes .empty [] [] r
  | one {p : α → Bool} {x : α} {r : List α} : p x = true → Takes (.one p) [x] [] r
  | seq {a b : Pattern α} {u v : List α} {gs hs : List (List α)} {r : List α} :
      Takes a u gs (v ++ r) → Takes b v hs r → Takes (.seq a b) (u ++ v) (gs ++ hs) r
  | many {greedy : Bool} {p : α → Bool} {u r : List α} :
      (∀ x ∈ u, p x = true) → Takes (.many greedy p) u [] r
  | group {a : Pattern α} {u : List α} {gs : List (List α)} {r : List α} :
      Takes a u gs r → Takes (.group a) u (u :: gs) r
  | stop : Takes .stop [] [] []

variable {a b : Pattern α} {p : α → Bool} {greedy : Bool}

section

variable {u r : List α} {gs : List (List α)}

@[simp] theorem takes_empty : (empty : Pattern α).Takes u gs r ↔ u = [] ∧ gs = [] := by
  constructor
  · rintro ⟨⟩
    exact ⟨rfl, rfl⟩
  · rintro ⟨rfl, rfl⟩
    exact .empty

@[simp] theorem takes_one : (one p).Takes u gs r ↔ (∃ x, p x = true ∧ u = [x]) ∧ gs = [] := by
  constructor
  · rintro ⟨⟩
    exact ⟨⟨_, ‹_›, rfl⟩, rfl⟩
  · rintro ⟨⟨x, hx, rfl⟩, rfl⟩
    exact .one hx

theorem takes_seq : (seq a b).Takes u gs r ↔
    ∃ v w hs ks, a.Takes v hs (w ++ r) ∧ b.Takes w ks r ∧ u = v ++ w ∧ gs = hs ++ ks := by
  constructor
  · rintro ⟨⟩
    exact ⟨_, _, _, _, ‹_›, ‹_›, rfl, rfl⟩
  · rintro ⟨v, w, hs, ks, ha, hb, rfl, rfl⟩
    exact .seq ha hb

@[simp] theorem takes_many :
    (many greedy p).Takes u gs r ↔ (∀ x ∈ u, p x = true) ∧ gs = [] := by
  constructor
  · rintro ⟨⟩
    exact ⟨‹_›, rfl⟩
  · rintro ⟨hu, rfl⟩
    exact .many hu

theorem takes_group : (group a).Takes u gs r ↔ ∃ hs, a.Takes u hs r ∧ gs = u :: hs := by
  constructor
  · rintro ⟨⟩
    exact ⟨_, ‹_›, rfl⟩
  · rintro ⟨hs, ha, rfl⟩
    exact .group ha

@[simp] theorem takes_stop : (stop : Pattern α).Takes u gs r ↔ u = [] ∧ gs = [] ∧ r = [] := by
  constructor
  · rintro ⟨⟩
    exact ⟨rfl, rfl, rfl⟩
  · rintro ⟨rfl, rfl, rfl⟩
    exact .stop

@[simp] theorem takes_many1 :
    (many1 greedy p).Takes u gs r ↔ u ≠ [] ∧ (∀ x ∈ u, p x = true) ∧ gs = [] := by
  rw [many1, takes_seq]
  constructor
  · rintro ⟨v, w, hs, ks, hv, hw, rfl, rfl⟩
    obtain ⟨⟨x, hx, rfl⟩, rfl⟩ := takes_one.mp hv
    obtain ⟨hall, rfl⟩ := takes_many.mp hw
    exact ⟨by simp, by simpa using ⟨hx, hall⟩, rfl⟩
  · rintro ⟨hne, hall, rfl⟩
    obtain ⟨x, xs, rfl⟩ := List.exists_cons_of_ne_nil hne
    obtain ⟨hx, hxs⟩ := List.forall_mem_cons.mp hall
    exact ⟨[x], xs, [], [], takes_one.mpr ⟨⟨x, hx, rfl⟩, rfl⟩, takes_many.mpr ⟨hxs, rfl⟩, rfl, rfl⟩

@[simp] theorem takes_literal {ps : List (α → Bool)} :
    (literal ps).Takes u gs r ↔ List.Forall₂ (fun p x => p x = true) ps u ∧ gs = [] := by
  induction ps generalizing u gs r with
  | nil =>
    rw [show literal ([] : List (α → Bool)) = .empty from rfl, takes_empty,
      List.forall₂_nil_left_iff]
  | cons p ps ih =>
    have hstep : literal (p :: ps) = .seq (.one p) (literal ps) := rfl
    rw [hstep, takes_seq]
    constructor
    · rintro ⟨v, w, hs, ks, hv, hw, rfl, rfl⟩
      obtain ⟨⟨x, hx, rfl⟩, rfl⟩ := takes_one.mp hv
      obtain ⟨hall, rfl⟩ := ih.mp hw
      exact ⟨.cons hx hall, rfl⟩
    · rintro ⟨hall, rfl⟩
      cases hall with
      | cons hx hrest =>
        exact ⟨[_], _, [], [], takes_one.mpr ⟨⟨_, hx, rfl⟩, rfl⟩, ih.mpr ⟨hrest, rfl⟩, rfl, rfl⟩

end

theorem mem_fronts_cons {x : α} {xs : List α} {cut : List α × List α} :
    cut ∈ fronts greedy p (x :: xs) ↔ cut = ([], x :: xs) ∨
      p x = true ∧ ∃ shorter ∈ fronts greedy p xs, cut = (x :: shorter.1, shorter.2) := by
  have hlonger : cut ∈ (if p x then (fronts greedy p xs).map fun c => (x :: c.1, c.2) else []) ↔
      p x = true ∧ ∃ shorter ∈ fronts greedy p xs, cut = (x :: shorter.1, shorter.2) := by
    by_cases hx : p x = true
    · simp only [hx, if_true, List.mem_map, true_and]
      exact exists_congr fun c => and_congr_right fun _ => eq_comm
    · simp [hx]
  cases greedy with
  | true => rw [fronts, if_pos rfl, List.mem_append, List.mem_singleton, hlonger, or_comm]
  | false => rw [fronts, if_neg Bool.false_ne_true, List.mem_cons, hlonger]

theorem mem_fronts {s : List α} {cut : List α × List α} :
    cut ∈ fronts greedy p s ↔ s = cut.1 ++ cut.2 ∧ ∀ x ∈ cut.1, p x = true := by
  obtain ⟨u, r⟩ := cut
  induction s generalizing u with
  | nil =>
    simp only [fronts, List.mem_singleton, Prod.mk.injEq, List.nil_eq, List.append_eq_nil_iff]
    constructor
    · rintro ⟨rfl, rfl⟩
      simp
    · rintro ⟨h, -⟩
      exact h
  | cons x xs ih =>
    rw [mem_fronts_cons]
    constructor
    · rintro (h | ⟨hx, ⟨v, r'⟩, hv, h⟩)
      · obtain ⟨rfl, rfl⟩ := Prod.mk.inj h
        simp
      · obtain ⟨rfl, rfl⟩ := Prod.mk.inj h
        obtain ⟨hxs, hall⟩ := (ih v).mp hv
        exact ⟨congrArg (x :: ·) hxs, List.forall_mem_cons.mpr ⟨hx, hall⟩⟩
    · rintro ⟨hs, hall⟩
      cases u with
      | nil => exact .inl (Prod.ext rfl hs.symm)
      | cons y ys =>
        obtain ⟨rfl, hxs⟩ := List.cons.inj hs
        obtain ⟨hx, hys⟩ := List.forall_mem_cons.mp hall
        exact .inr ⟨hx, (ys, r), (ih ys).mpr ⟨hxs, hys⟩, rfl⟩

section

variable {s : List α} {w : Way α}

theorem mem_ways_one :
    w ∈ (one p).ways s ↔ ∃ x xs, p x = true ∧ s = x :: xs ∧ w = ⟨[x], [], xs⟩ := by
  cases s with
  | nil => simp [ways]
  | cons x xs =>
    rw [ways]
    split
    · next hx =>
      rw [List.mem_singleton]
      constructor
      · exact fun hw => ⟨x, xs, hx, rfl, hw⟩
      · rintro ⟨y, ys, -, hs, rfl⟩
        obtain ⟨rfl, rfl⟩ := List.cons.inj hs
        rfl
    · next hx =>
      simp only [List.not_mem_nil, false_iff]
      rintro ⟨y, ys, hy, hs, -⟩
      obtain ⟨rfl, -⟩ := List.cons.inj hs
      exact hx hy

theorem mem_ways_seq : w ∈ (seq a b).ways s ↔ ∃ v ∈ a.ways s, ∃ v' ∈ b.ways v.rest,
    w = ⟨v.taken ++ v'.taken, v.groups ++ v'.groups, v'.rest⟩ := by
  simp only [ways, List.mem_flatMap, List.mem_map, eq_comm]

theorem mem_ways_many : w ∈ (many greedy p).ways s ↔
    ∃ u r, s = u ++ r ∧ (∀ x ∈ u, p x = true) ∧ w = ⟨u, [], r⟩ := by
  rw [ways, List.mem_map]
  constructor
  · rintro ⟨cut, hcut, rfl⟩
    obtain ⟨hs, hall⟩ := mem_fronts.mp hcut
    exact ⟨cut.1, cut.2, hs, hall, rfl⟩
  · rintro ⟨u, r, hs, hall, rfl⟩
    exact ⟨(u, r), mem_fronts.mpr ⟨hs, hall⟩, rfl⟩

theorem mem_ways_group : w ∈ (group a).ways s ↔
    ∃ v ∈ a.ways s, w = ⟨v.taken, v.taken :: v.groups, v.rest⟩ := by
  simp only [ways, List.mem_map, eq_comm]

theorem mem_ways_stop : w ∈ (stop : Pattern α).ways s ↔ s = [] ∧ w = ⟨[], [], []⟩ := by
  cases s with
  | nil => simp [ways]
  | cons x xs => simp [ways]

theorem takes_of_mem_ways (h : w ∈ a.ways s) :
    s = w.taken ++ w.rest ∧ a.Takes w.taken w.groups w.rest := by
  induction a generalizing s w with
  | empty =>
    obtain rfl := List.mem_singleton.mp h
    exact ⟨rfl, .empty⟩
  | one p =>
    obtain ⟨x, xs, hx, rfl, rfl⟩ := mem_ways_one.mp h
    exact ⟨rfl, .one hx⟩
  | seq a b iha ihb =>
    obtain ⟨v, hv, v', hv', rfl⟩ := mem_ways_seq.mp h
    obtain ⟨hs, ha⟩ := iha hv
    obtain ⟨hrest, hb⟩ := ihb hv'
    rw [hrest] at hs ha
    exact ⟨by rw [hs, List.append_assoc], .seq ha hb⟩
  | many greedy p =>
    obtain ⟨u, r, rfl, hall, rfl⟩ := mem_ways_many.mp h
    exact ⟨rfl, .many hall⟩
  | group a ih =>
    obtain ⟨v, hv, rfl⟩ := mem_ways_group.mp h
    exact ⟨(ih hv).1, .group (ih hv).2⟩
  | stop =>
    obtain ⟨rfl, rfl⟩ := mem_ways_stop.mp h
    exact ⟨rfl, .stop⟩

theorem mem_ways_of_takes {u r : List α} {gs : List (List α)} (h : a.Takes u gs r) :
    ⟨u, gs, r⟩ ∈ a.ways (u ++ r) := by
  induction h with
  | empty => exact List.mem_singleton_self _
  | one hx => exact mem_ways_one.mpr ⟨_, _, hx, rfl, rfl⟩
  | seq _ _ iha ihb =>
    rw [List.append_assoc]
    exact mem_ways_seq.mpr ⟨_, iha, _, ihb, rfl⟩
  | many hall => exact mem_ways_many.mpr ⟨_, _, rfl, hall, rfl⟩
  | group _ ih => exact mem_ways_group.mpr ⟨_, ih, rfl⟩
  | stop => exact mem_ways_stop.mpr ⟨rfl, rfl⟩

theorem takes_of_exec (h : a.exec s = some w) :
    s = w.taken ++ w.rest ∧ a.Takes w.taken w.groups w.rest :=
  takes_of_mem_ways (List.mem_of_head? h)

end

theorem exec_ne_none {u r : List α} {gs : List (List α)} (h : a.Takes u gs r) :
    a.exec (u ++ r) ≠ none := by
  intro hnone
  have hmem := mem_ways_of_takes h
  rw [List.head?_eq_none_iff.mp hnone] at hmem
  cases hmem

end Pattern

end NestBackend.Lib
