import NestBackend.Dynamo.Boots
import NestBackend.Dynamo.Constants

namespace NestBackend.Dynamo

open NestBackend.Common
open NestBackend.Js
open NestBackend.Lib
open DynamoService

def Call.changes : Call → Bool
  | .send (.createTable _) | .send (.updateTimeToLive ..) => true
  | _ => false

def MayCallIn (parseUrl : String → Option ParsedUrl) (env : Env) (talk : Talk) (call : Call) :
    Prop :=
  MayCall talk call ∧ (call.changes = true → MayBootstrap parseUrl env)

inductive Started (parseUrl : String → Option ParsedUrl) (env : Env) :
    Except Thrown Unit → Talk → Prop
  | misconfigured {err} : getDynamoConfig parseUrl env = .error err →
      Started parseUrl env (.error err) []
  | unreachable {config err talk} : getDynamoConfig parseUrl env = .ok config →
      Unreachable talk → Started parseUrl env (.error err) talk
  | bootstrapped {talk} : MayBootstrap parseUrl env → Bootstrapped talk →
      Started parseUrl env (.ok ()) talk
  | skipped {config talk} : getDynamoConfig parseUrl env = .ok config →
      ¬ MayBootstrap parseUrl env →
      Started parseUrl env (.ok ()) (talk ++ [⟨.log .log
        ("Skipping DynamoDB table bootstrap for non-local endpoint host " ++ config.hostname), ()⟩])

variable {parseUrl : String → Option ParsedUrl} {env : Env}

theorem changes_connect :
    connect.Meets (fun _ call => call.changes = false) (fun _ _ => True) [] := by
  refine meets_retryFrom (I := fun _ _ => True) (F := fun _ _ _ => True) (fun i talk _ _ => ?_)
    (fun i err talk _ _ => ?_) (show ((1 : Nat) : ℤ) ≤ 10 by decide) trivial
  · refine ⟨rfl, fun answer => ?_⟩
    cases answer with
    | ok _ => trivial
    | error _ => trivial
  · unfold caught
    cases BoundedRetryOptions.afterFailure _ i with
    | giveUp =>
      change if _ then True else True
      split <;> trivial
    | sleep ms =>
      refine ⟨rfl, fun _ => ⟨rfl, fun _ => ?_⟩⟩
      change if _ then True else True
      split <;> trivial

theorem meets_start (parseUrl : String → Option ParsedUrl) (env : Env) :
    (DynamoModule.start parseUrl env).Meets (MayCallIn parseUrl env) (Started parseUrl env) [] := by
  unfold DynamoModule.start
  rcases getDynamoBootstrapConfig_cases parseUrl env with
    ⟨err, hconfig, -, -⟩ | ⟨config, hconfig, shouldBootstrap, hbootstrap, hmay⟩
  · rw [hconfig]
    exact .misconfigured hconfig
  · rw [hconfig, hbootstrap]
    change (onModuleInit (.ok ⟨config.hostname, shouldBootstrap⟩)).Meets _ _ []
    cases shouldBootstrap with
    | true =>
      have henabled := hmay.mp rfl
      refine (meets_onModuleInit config.hostname).weaken (fun _ _ h => ⟨h, fun _ => henabled⟩) ?_
      intro o talk ho
      cases o with
      | ok _ => exact .bootstrapped henabled ho
      | error err => exact .unreachable hconfig ho
    | false =>
      have hdisabled : ¬ MayBootstrap parseUrl env := fun h => nomatch hmay.mpr h
      refine (Script.meets_bind _ _).mpr ((meets_connect.and changes_connect).weaken
        (fun _ call h => ⟨h.1, fun hchanges => nomatch h.2.symm.trans hchanges⟩) ?_)
      rintro o talk ⟨ho, -⟩
      cases o with
      | error err => exact .unreachable hconfig ho
      | ok _ => exact ⟨⟨trivial, nofun⟩, fun _ => .skipped hconfig hdisabled⟩

theorem within_start (parseUrl : String → Option ParsedUrl) (env : Env) :
    (DynamoModule.start parseUrl env).Within BOOT_TURNS := by
  unfold DynamoModule.start
  rcases getDynamoBootstrapConfig_cases parseUrl env with
    ⟨err, hconfig, -, -⟩ | ⟨config, hconfig, shouldBootstrap, hbootstrap, -⟩
  · rw [hconfig]
    trivial
  · rw [hconfig, hbootstrap]
    exact within_onModuleInit ⟨config.hostname, shouldBootstrap⟩

structure Starting (parseUrl : String → Option ParsedUrl) (envs : List Env) (db : Database)
    (c : Replica) : Prop where
  follows : ∃ env ∈ envs, c.Follows (MayCallIn parseUrl env) (Started parseUrl env)
  holds : ∀ x ∈ c.talk, Holds db x

/-- What has become of the database: nothing was lost, and if nobody was to bootstrap, all that
has changed is what DynamoDB itself does. -/
structure Tended (parseUrl : String → Option ParsedUrl) (envs : List Env) (first db : Database) :
    Prop where
  grows : first.Grows db
  untouched : (∀ env ∈ envs, ¬ MayBootstrap parseUrl env) →
    ∃ moves : List TableMove, db = moves.foldl Database.move first

variable {envs : List Env} {first db : Database}

theorem execute_of_not_changes (db : Database) {command : Command}
    (h : (Call.send command).changes = false) : (db.execute command).2 = db := by
  cases command with
  | listTables limit => rfl
  | describeTable name => cases hdb : db name <;> simp [Database.execute, hdb]
  | createTable definition => cases h
  | describeTimeToLive name => cases hdb : db name <;> simp [Database.execute, hdb]
  | updateTimeToLive name enabled attr => cases h

theorem serve_of_not_changes (db : Database) (fault : Option Fault) {call : Call}
    (h : call.changes = false) : (db.serve fault call).2 = db := by
  cases call with
  | log level text => rfl
  | sleep ms => rfl
  | send command =>
    cases fault with
    | none => exact execute_of_not_changes db h
    | some fault =>
      simp only [Database.serve]
      split
      · exact execute_of_not_changes db h
      · rfl

theorem Tended.serve (h : Tended parseUrl envs first db) (hmem : env ∈ envs) {talk : Talk}
    {call : Call} (hmay : MayCallIn parseUrl env talk call) (fault : Option Fault) :
    Tended parseUrl envs first (db.serve fault call).2 where
  grows := h.grows.trans (Database.grows_serve db fault hmay.1)
  untouched hnobody := by
    have hquiet : call.changes = false :=
      Bool.eq_false_iff.mpr fun hchanges => hnobody env hmem (hmay.2 hchanges)
    rw [serve_of_not_changes db fault hquiet]
    exact h.untouched hnobody

theorem Tended.move (h : Tended parseUrl envs first db) (m : TableMove) :
    Tended parseUrl envs first (db.move m) where
  grows := h.grows.trans (Database.grows_move db m)
  untouched hnobody := by
    obtain ⟨moves, rfl⟩ := h.untouched hnobody
    exact ⟨moves ++ [m], by rw [List.foldl_append]; rfl⟩

theorem Starting.grows {db' : Database} {c : Replica} (h : Starting parseUrl envs db c)
    (hgrows : db.Grows db') : Starting parseUrl envs db' c where
  follows := h.follows
  holds x hx := (h.holds x hx).grows hgrows

theorem keeps_starting (parseUrl : String → Option ParsedUrl) (envs : List Env)
    (first : Database) :
    faulty.Keeps (Tended parseUrl envs first) (Starting parseUrl envs) where
  serve db fault c call k hdb hc hrest := by
    obtain ⟨env, hmem, hfollows⟩ := hc.follows
    obtain ⟨hmay, hnext⟩ := hfollows.answered hrest (db.serve fault call).1
    refine ⟨hdb.serve hmem hmay fault, ⟨env, hmem, hnext⟩, fun x hx => ?_⟩
    rcases List.mem_append.mp hx with hx | hx
    · exact (hc.holds x hx).grows (Database.grows_serve db fault hmay.1)
    · rw [List.mem_singleton.mp hx]
      exact holds_served db fault call
  others db fault c call k _ hc hrest d hd := by
    obtain ⟨env, -, hfollows⟩ := hc.follows
    obtain ⟨hmay, -⟩ := hfollows.answered hrest (db.serve fault call).1
    exact hd.grows (Database.grows_serve db fault hmay.1)
  move db m hdb := hdb.move m
  through db m _ _ hc := hc.grows (Database.grows_move db m)

theorem Started.bootstrapped_of_may {talk : Talk} (h : Started parseUrl env (.ok ()) talk)
    (hmay : MayBootstrap parseUrl env) : Bootstrapped talk := by
  cases h with
  | bootstrapped _ hdone => exact hdone
  | skipped _ hdisabled => exact absurd hmay hdisabled

theorem booting_of_bootstrapped {c : Replica}
    (hfollows : c.Follows (MayCallIn parseUrl env) (Started parseUrl env))
    (hholds : ∀ x ∈ c.talk, Holds db x) (ho : c.rest.outcome? = some (.ok ()))
    (hdone : Bootstrapped c.talk) : Booting db c where
  follows := {
    put := fun pre x hpre => (hfollows.put pre x hpre).1
    rest := by
      cases hrest : c.rest with
      | ret a => exact hdone
      | throw err =>
        rw [hrest] at ho
        cases ho
      | ask call k =>
        rw [hrest] at ho
        cases ho }
  holds := hholds

structure Outcome (parseUrl : String → Option ParsedUrl) (env : Env) (db : Database)
    (c : Replica) : Prop where
  gated : ∀ x ∈ c.talk, x.request.changes = true → MayBootstrap parseUrl env
  started : ∀ o, c.rest.outcome? = some o → Started parseUrl env o c.talk
  ensured : c.rest.outcome? = some (.ok ()) → MayBootstrap parseUrl env →
    ∀ before table after, TABLE_DEFINITIONS = before ++ table :: after →
      (∀ t ∈ before ++ [table], Undisturbed t c.talk) →
        db.statusOf table.name = some .ACTIVE ∧ ∀ attributeName,
          table.ttlAttribute = some attributeName → db.TtlOn table.name attributeName

theorem outcome_of_follows {c : Replica}
    (hfollows : c.Follows (MayCallIn parseUrl env) (Started parseUrl env))
    (hholds : ∀ x ∈ c.talk, Holds db x) : Outcome parseUrl env db c where
  gated x hx := by
    obtain ⟨pre, post, htalk⟩ := List.append_of_mem hx
    have hpre : pre ++ [x] <+: c.talk := ⟨post, by rw [htalk, List.append_assoc]; rfl⟩
    exact (hfollows.put pre x hpre).2
  started o ho := hfollows.rest.of_outcome ho
  ensured ho hmay before table after htables hfree := by
    have hdone : Bootstrapped c.talk := (hfollows.rest.of_outcome ho).bootstrapped_of_may hmay
    have htable : table ∈ TABLE_DEFINITIONS := by
      rw [htables]
      exact List.mem_append_right _ List.mem_cons_self
    refine (booting_of_bootstrapped hfollows hholds ho hdone).ensured htable ?_
    rcases hdone with hensured | hstuck
    · exact hensured table htable
    · exact hstuck.ensured htables fun t ht => not_blocked (hfree t ht).accepted (hfree t ht).polls

/-- Whatever DynamoDB rejects, and however the starts interleave: only replicas whose own
environment points at a local endpoint or turns the flag on create or change tables, the others
start without; nothing is ever lost, whatever the mix; and where nobody is to bootstrap, the
tables are left to themselves. -/
theorem bootstrap_gated (parseUrl : String → Option ParsedUrl) (first : Database)
    (envs : List Env) (es : List (Service.Event (Option Fault) TableMove)) :
    let s := (faulty.system first (envs.map (DynamoModule.start parseUrl))).run es
    Tended parseUrl envs first s.store ∧
      ∀ (i : ℕ) env, envs[i]? = some env → ∃ c : Replica, s.clients[i]? = some c ∧
        Outcome parseUrl env s.store c ∧
        (BOOT_TURNS ≤ es.countP (·.isTurn i) → c.rest.outcome?.isSome = true) := by
  intro s
  have hstart : ∀ p ∈ envs.map (DynamoModule.start parseUrl),
      Starting parseUrl envs first ⟨[], p⟩ := by
    intro p hp
    obtain ⟨env, hmem, rfl⟩ := List.mem_map.mp hp
    exact ⟨⟨env, hmem, fun pre x hpre => by simp at hpre, meets_start parseUrl env⟩,
      fun x hx => nomatch hx⟩
  obtain ⟨hstore, hclients⟩ := (keeps_starting parseUrl envs first).run
    ⟨.refl first, fun _ => ⟨[], rfl⟩⟩ _ hstart es
  refine ⟨hstore, fun i env henv => ?_⟩
  have hscript : (envs.map (DynamoModule.start parseUrl))[i]? =
      some (DynamoModule.start parseUrl env) := by
    rw [List.getElem?_map, henv]
    rfl
  obtain ⟨c, hc, hfollows⟩ := faulty.follows_run first hscript (meets_start parseUrl env) es
  refine ⟨c, hc, outcome_of_follows hfollows (hclients c (List.mem_of_getElem? hc)).holds,
    fun hturns => ?_⟩
  obtain ⟨c', hc', hwithin⟩ := faulty.within_run first hscript (within_start parseUrl env) es
  obtain rfl := Option.some.inj (hc.symm.trans hc')
  rw [Nat.sub_eq_zero_of_le hturns] at hwithin
  exact hwithin.ended

end NestBackend.Dynamo
