import Mathlib.Data.PNat.Defs
import NestBackend.Lib.System
import NestBackend.Redis.Service

namespace NestBackend.Redis

open NestBackend.Js
open NestBackend.Lib

/-- What Redis keeps under one key, with the instant it expires at, and its clock in
milliseconds. -/
structure KeyState where
  held : Option (String × Option Nat)
  clock : Nat

/-- What is sent under the key by other clients; one that is refused or skipped does nothing. -/
inductive KeyEvent where
  | set (value : String) (px : Option ℕ+)
  | persist
  | expire (ms : Int)
  | delete
  | tick

namespace KeyState

def live (s : KeyState) : Option (String × Option Nat) :=
  s.held.filter fun x => x.2.all (s.clock ≤ ·)

def step (s : KeyState) : KeyEvent → KeyState
  | .set value px => { s with held := some (value, px.map (s.clock + ·)) }
  | .persist => { s with held := s.live.map fun x => (x.1, none) }
  | .expire ms =>
    if ms ≤ 0 then { s with held := none }
    else { s with held := s.live.map fun x => (x.1, some (s.clock + ms.toNat)) }
  | .delete => { s with held := none }
  | .tick => { s with clock := s.clock + 1 }

/-- To the nearest second. -/
def seconds (ms : Nat) : Nat := (ms + 500) / 1000

def get (s : KeyState) : Option String := s.live.map (·.1)

def ttl (s : KeyState) : Int :=
  match s.live with
  | none => -2
  | some (_, none) => -1
  | some (_, some deadline) => seconds (deadline - s.clock)

def entry (s : KeyState) : Option RedisEntry :=
  s.live.map fun x => ⟨x.1, x.2.map fun deadline => seconds (deadline - s.clock)⟩

def system : System KeyState KeyEvent where
  init := ⟨none, 0⟩
  step := step

end KeyState

def Answers {α : Type} (answer : α) (reply : Except String α) : Prop :=
  reply = .ok answer ∨ ∃ message, reply = .error message

/-- What `getEntry` resolves with is the entry at an instant between its two commands. -/
def OneInstant (key : Value) (s : KeyState) (es : List KeyEvent) : Prop :=
  ∀ get ttl result, Answers s.get get → Answers (KeyState.system.runFrom s es).ttl ttl →
    RedisService.getEntry key get ttl = .ok result →
      ∃ pre, pre <+: es ∧ (KeyState.system.runFrom s pre).entry = result

namespace KeyState

variable {s t : KeyState}

theorem clock_set (s : KeyState) (value : String) (px : Option ℕ+) :
    (s.step (.set value px)).clock = s.clock := rfl

theorem live_set (s : KeyState) (value : String) (px : ℕ+) :
    (s.step (.set value (some px))).live = some (value, some (s.clock + px)) := by
  simp [step, live, Option.filter]

def Only (read : String) (s : KeyState) : Prop := ∀ x ∈ s.held, x.1 = read

theorem held_of_live {x : String × Option Nat} (h : s.live = some x) : s.held = some x :=
  Option.eq_some_of_filter_eq_some h

theorem Only.live {read : String} (h : Only read s) {x : String × Option Nat}
    (hx : s.live = some x) : x.1 = read := h x (held_of_live hx)

theorem only_of_get {read : String} (h : s.get = some read) : Only read s := by
  obtain ⟨x, hx, rfl⟩ := Option.map_eq_some_iff.mp h
  intro y hy
  rw [held_of_live hx] at hy
  obtain rfl := Option.some.inj hy
  rfl

theorem Only.step {read : String} (h : Only read s) {e : KeyEvent}
    (he : ∀ value px, e = .set value px → value = read) : Only read (s.step e) := by
  have hmap : ∀ f : String × Option Nat → Option Nat,
      ∀ x ∈ s.live.map fun x => (x.1, f x), x.1 = read := by
    intro f x hx
    obtain ⟨y, hy, rfl⟩ := Option.map_eq_some_iff.mp hx
    exact h.live (x := y) hy
  cases e with
  | set value px =>
    rintro x hx
    obtain rfl := Option.some.inj hx
    exact he value px rfl
  | persist => exact hmap _
  | expire ms =>
    rw [KeyState.step]
    split
    · exact fun _ hx => nomatch hx
    · exact hmap _
  | delete => exact fun _ hx => nomatch hx
  | tick => exact h

theorem Only.runFrom {read : String} (h : Only read s) {es : List KeyEvent}
    (hes : ∀ value px, .set value px ∈ es → value = read) :
    Only read (system.runFrom s es) := by
  induction es generalizing s with
  | nil => exact h
  | cons e es ih =>
    refine ih (h.step fun value px he => hes value px (he ▸ List.mem_cons_self)) ?_
    exact fun value px hmem => hes value px (List.mem_cons_of_mem e hmem)

end KeyState

def resolved (read : String) (ttl : Int) : Option RedisEntry :=
  if ttl = -2 then none
  else if ttl = -1 then some ⟨read, none⟩
  else some ⟨read, some ttl⟩

@[simp] theorem resolved_natCast (read : String) (n : Nat) :
    resolved read n = some ⟨read, some n⟩ := by
  have hgone : (n : Int) ≠ -2 := by omega
  have hpersistent : (n : Int) ≠ -1 := by omega
  simp [resolved, hgone, hpersistent]

theorem getEntry_hit {key : Value} (hkey : RedisService.assertValidKey key = .ok ())
    (read : String) (n : Int) :
    RedisService.getEntry key (.ok (some read)) (.ok n) = .ok (resolved read n) := by
  simp only [RedisService.getEntry, hkey, resolved, bind, Except.bind]
  split
  · rfl
  · split <;> rfl

theorem getEntry_eq_ok {key : Value} {get : Except String (Option String)}
    {ttl : Except String Int} {result : Option RedisEntry}
    (h : RedisService.getEntry key get ttl = .ok result) :
    (get = .ok none ∧ result = none) ∨
      ∃ read n, get = .ok (some read) ∧ ttl = .ok n ∧ result = resolved read n := by
  cases hkey : RedisService.assertValidKey key with
  | error message => simp [RedisService.getEntry, hkey, bind, Except.bind] at h
  | ok =>
    match get, ttl with
    | .ok (some read), .ok n =>
      exact .inr ⟨read, n, rfl, rfl, Except.ok.inj (h.symm.trans (getEntry_hit hkey read n))⟩
    | .ok none, _ =>
      simp only [RedisService.getEntry, hkey, bind, Except.bind] at h
      cases h
      exact .inl ⟨rfl, rfl⟩
    | .error message, _ | .ok (some read), .error message =>
      simp [RedisService.getEntry, hkey, bind, Except.bind] at h

theorem Answers.eq {α : Type} {answer a : α} (h : Answers answer (.ok a)) : a = answer := by
  rcases h with h | ⟨message, h⟩
  · exact Except.ok.inj h
  · cases h

namespace KeyState

variable {s : KeyState}

theorem resolved_ttl {read : String} (h : Only read s) : resolved read s.ttl = s.entry := by
  cases hlive : s.live with
  | none => simp [resolved, ttl, entry, hlive]
  | some x =>
    obtain ⟨value, deadline⟩ := x
    obtain rfl : value = read := h.live hlive
    cases deadline with
    | none => simp [resolved, ttl, entry, hlive]
    | some deadline => simp [ttl, entry, hlive]

end KeyState

theorem oneInstant_of_sameValue (key : Value) (s : KeyState) (es : List KeyEvent)
    (h : ∀ read, s.get = some read → ∀ value px, .set value px ∈ es → value = read) :
    OneInstant key s es := by
  intro get ttl result hget httl hresult
  rcases getEntry_eq_ok hresult with ⟨rfl, rfl⟩ | ⟨read, n, rfl, rfl, rfl⟩
  · refine ⟨[], List.nil_prefix, ?_⟩
    have hmiss : s.live = none := Option.map_eq_none_iff.mp hget.eq.symm
    simp [KeyState.entry, hmiss]
  · obtain rfl := httl.eq
    have hread : s.get = some read := hget.eq.symm
    exact ⟨es, List.prefix_refl es,
      (KeyState.resolved_ttl ((KeyState.only_of_get hread).runFrom (h read hread))).symm⟩

theorem exists_expiresIn_lt (s : KeyState) :
    ∃ bound : Nat, ∀ e ∈ s.entry, ∀ n ∈ e.expiresIn, n < bound := by
  cases hentry : s.entry with
  | none => exact ⟨0, nofun⟩
  | some e =>
    refine ⟨(e.expiresIn.getD 0).toNat + 1, ?_⟩
    rintro e' he n hn
    obtain rfl := Option.some.inj he
    rw [show e.expiresIn = some n from hn, Option.getD_some]
    omega

theorem exists_expiresIn_lt_run (s : KeyState) (es : List KeyEvent) : ∃ bound : Nat,
    ∀ pre, pre <+: es → ∀ e ∈ (KeyState.system.runFrom s pre).entry, ∀ n ∈ e.expiresIn,
      n < bound := by
  induction es generalizing s with
  | nil =>
    obtain ⟨here, hhere⟩ := exists_expiresIn_lt s
    refine ⟨here, fun pre hpre => ?_⟩
    obtain rfl := List.prefix_nil.mp hpre
    exact hhere
  | cons e es ih =>
    obtain ⟨here, hhere⟩ := exists_expiresIn_lt s
    obtain ⟨later, hlater⟩ := ih (s.step e)
    refine ⟨max here later, fun pre hpre x hx n hn => ?_⟩
    rcases List.prefix_cons_iff.mp hpre with rfl | ⟨post, rfl, hpost⟩
    · have := hhere x hx n hn
      omega
    · have := hlater post hpost x hx n hn
      omega

theorem exists_torn {k : String} (hk : NonBlank k) (s : KeyState) (es : List KeyEvent)
    {read value : String} (hread : s.get = some read) (hne : value ≠ read) :
    ∃ px, ¬ OneInstant (.string k) s (es ++ [.set value (some px)]) := by
  obtain ⟨bound, hbound⟩ := exists_expiresIn_lt_run s es
  refine ⟨⟨1000 * (bound + 1), by omega⟩, fun h => ?_⟩
  set px : ℕ+ := ⟨1000 * (bound + 1), by omega⟩
  have hrun : KeyState.system.runFrom s (es ++ [.set value (some px)]) =
      (KeyState.system.runFrom s es).step (.set value (some px)) := by
    rw [System.runFrom_append]
    rfl
  have hlive := KeyState.live_set (KeyState.system.runFrom s es) value px
  have hseconds : KeyState.seconds px = bound + 1 := by
    change (1000 * (bound + 1) + 500) / 1000 = bound + 1
    omega
  have httl : (KeyState.system.runFrom s (es ++ [.set value (some px)])).ttl =
      ((bound + 1 : Nat) : Int) := by
    rw [hrun, KeyState.ttl, hlive, KeyState.clock_set]
    simp [hseconds]
  obtain ⟨pre, hpre, hentry⟩ := h _ _ _ (.inl rfl) (.inl rfl)
    (by rw [hread]; exact getEntry_hit (RedisService.assertValidKey_of_nonBlank hk) _ _)
  rw [httl, resolved_natCast] at hentry
  rcases List.prefix_concat_iff.mp hpre with rfl | hpre
  · rw [hrun, KeyState.entry, hlive] at hentry
    exact hne (congrArg RedisEntry.value (Option.some.inj hentry))
  · have := hbound pre hpre _ hentry _ rfl
    omega

/-- The read is that of one instant when other clients set no value but the one that GET has
read; a SET of another value can always tear it. -/
theorem getEntry_one_instant (key : Value) (s : KeyState) (es : List KeyEvent) :
    ((∀ read, s.get = some read → ∀ value px, .set value px ∈ es → value = read) →
        OneInstant key s es) ∧
      ∀ k read value, key = .string k → NonBlank k → s.get = some read → value ≠ read →
        ∃ px, ¬ OneInstant key s (es ++ [.set value (some px)]) := by
  refine ⟨oneInstant_of_sameValue key s es, ?_⟩
  rintro k read value rfl hk hread hne
  exact exists_torn hk s es hread hne

def persistent : KeyState := ⟨some ("v1", none), 0⟩

theorem getEntry_one_instant_refreshed :
    OneInstant (.string "k") persistent [.tick, .expire 5000, .delete, .set "v1" (some 60000)] ∧
      ∃ px, ¬ OneInstant (.string "k") persistent
        ([.tick, .expire 5000, .delete, .set "v1" (some 60000)] ++ [.set "v2" (some px)]) := by
  have h := getEntry_one_instant (.string "k") persistent
    [.tick, .expire 5000, .delete, .set "v1" (some 60000)]
  refine ⟨h.1 ?_, h.2 "k" "v1" "v2" rfl (by decide) rfl (by decide)⟩
  intro read hread value px hset
  obtain rfl : "v1" = read := Option.some.inj hread
  have hboth : value = "v1" ∧ px = some 60000 := by simpa using hset
  exact hboth.1

theorem getEntry_torn : ¬ ∀ key s es, OneInstant key s es := by
  intro h
  obtain ⟨pre, hpre, hentry⟩ := h (.string "k") persistent [.set "v2" (some 100000)]
    (.ok (some "v1")) (.ok 100) (some ⟨"v1", some 100⟩) (.inl rfl) (.inl rfl) (by decide +kernel)
  rcases List.prefix_cons_iff.mp hpre with rfl | ⟨post, rfl, hpost⟩
  · exact absurd hentry (by decide)
  · obtain rfl := List.prefix_nil.mp hpost
    exact absurd hentry (by decide)

end NestBackend.Redis
