import NestBackend.Dynamo.Database

namespace NestBackend.Dynamo

open NestBackend.Js
open NestBackend.Lib
open DynamoService

def Holds (db : Database) : Exchange Call.Result → Prop
  | ⟨.send (.describeTable name), .ok status⟩ =>
    isActive status = true → db.statusOf name = some .ACTIVE
  | ⟨.send (.describeTimeToLive name), .ok description⟩ =>
    ∀ attributeName, Wanted name attributeName → ttlIsOnWith attributeName description = true →
      db.TtlOn name attributeName
  | ⟨.send (.updateTimeToLive name enabled attributeName), .ok _⟩ =>
    enabled = true → Wanted name attributeName → db.TtlOn name attributeName
  | _ => True

def Sincere (first : Database) : Exchange Call.Result → Prop
  | ⟨.send (.listTables _), .error _⟩ => False
  | ⟨.send (.describeTable name), .error err⟩ =>
    first name = none ∧ isAwsError err "ResourceNotFoundException" = true
  | ⟨.send (.createTable _), .error err⟩ => isAwsError err "ResourceInUseException" = true
  | ⟨.send (.describeTimeToLive _), .error _⟩ => False
  | ⟨.send (.describeTimeToLive name), .ok description⟩ =>
    ∀ attributeName, Wanted name attributeName → first.TtlOn name attributeName →
      ttlIsOnWith attributeName description = true
  | ⟨.send (.updateTimeToLive ..), .error _⟩ => False
  | _ => True

theorem Holds.grows {db db' : Database} {x : Exchange Call.Result} (h : Holds db x)
    (hgrows : db.Grows db') : Holds db' x := by
  unfold Holds at *
  split
  · exact fun hactive => hgrows.active _ (h hactive)
  · exact fun attr hwanted hon => hgrows.ttl _ attr hwanted (h attr hwanted hon)
  · exact fun henabled hwanted => hgrows.ttl _ _ hwanted (h henabled hwanted)
  · trivial

theorem ttlIsOnWith_describe {ttl : TimeToLive} {attributeName : String} :
    ttlIsOnWith attributeName (some ttl.describe) = true ↔
      ttl = .enabled attributeName ∨ ttl = .enabling attributeName := by
  cases ttl <;> simp [ttlIsOnWith, ttlIsOn, TimeToLive.describe]

theorem holds_served (db : Database) (fault : Option Fault) (call : Call) :
    Holds (db.serve fault call).2 ⟨call, (db.serve fault call).1⟩ := by
  cases call with
  | log level text => trivial
  | sleep ms => trivial
  | send command =>
    cases fault with
    | some fault => cases command <;> trivial
    | none =>
      cases command with
      | listTables limit => trivial
      | createTable definition => simp [Holds]
      | describeTable name =>
        cases hdb : db name with
        | none => simp [Database.serve, Database.execute, hdb, Holds]
        | some table =>
          simp [Database.serve, Database.execute, hdb, Holds, isActive, Database.statusOf]
      | describeTimeToLive name =>
        cases hdb : db name with
        | none => simp [Database.serve, Database.execute, hdb, Holds]
        | some table =>
          simp only [Database.serve, Database.execute, hdb, Holds]
          intro attr _ hon
          simpa [Database.TtlOn, Database.ttlOf, hdb] using ttlIsOnWith_describe.mp hon
      | updateTimeToLive name enabled attr =>
        cases hdb : db name with
        | none => simp [Database.serve, Database.execute, hdb, Holds]
        | some table =>
          simp only [Database.serve, Database.execute, hdb, Holds]
          rintro rfl _
          exact .inl (by simp [Database.ttlOf, Database.alter, hdb])

theorem present_of_seenActive {db : Database} {talk : Talk} (htalk : ∀ x ∈ talk, Holds db x)
    {name : String} (h : talk.SeenActive name) : ∃ table, db name = some table := by
  have hactive : db.statusOf name = some .ACTIVE := htalk _ h rfl
  cases hdb : db name with
  | none => simp [Database.statusOf, hdb] at hactive
  | some table => exact ⟨table, rfl⟩

theorem sincere_served {first db : Database} {talk : Talk} {call : Call}
    (hmay : MayCall talk call) (hgrows : first.Grows db) (htalk : ∀ x ∈ talk, Holds db x) :
    Sincere first ⟨call, (db.serve none call).1⟩ := by
  cases call with
  | log level text => trivial
  | sleep ms => trivial
  | send command =>
    cases command with
    | listTables limit => trivial
    | describeTable name =>
      cases hdb : db name with
      | some table => simp [Database.serve, Database.execute, hdb, Sincere]
      | none =>
        have hfirst : first name = none := by
          by_contra hpresent
          exact hgrows.present name hpresent hdb
        simp [Database.serve, Database.execute, hdb, Sincere, hfirst, isAwsError, resourceNotFound]
    | createTable definition =>
      cases hdb : db definition.name with
      | none => simp [Database.serve, Database.execute, hdb, Sincere]
      | some table =>
        simp [Database.serve, Database.execute, hdb, Sincere, isAwsError, resourceInUse]
    | describeTimeToLive name =>
      obtain ⟨table, hdb⟩ := present_of_seenActive htalk hmay
      simp only [Database.serve, Database.execute, hdb, Sincere]
      intro attr hwanted hon
      have hnow := hgrows.ttl name attr hwanted hon
      exact ttlIsOnWith_describe.mpr (by simpa [Database.TtlOn, Database.ttlOf, hdb] using hnow)
    | updateTimeToLive name enabled attr =>
      obtain ⟨table, hdb⟩ := present_of_seenActive htalk hmay.2.2.1
      simp [Database.serve, Database.execute, hdb, Sincere]

abbrev Replica := Client Call Call.Result Thrown Unit

structure Booting (db : Database) (c : Replica) : Prop where
  follows : c.Follows MayCall (Script.Ends (fun _ => Bootstrapped) fun _ => Unreachable)
  holds : ∀ x ∈ c.talk, Holds db x

theorem Booting.grows {db db' : Database} {c : Replica} (h : Booting db c)
    (hgrows : db.Grows db') : Booting db' c where
  follows := h.follows
  holds x hx := (h.holds x hx).grows hgrows

theorem Booting.answered {db : Database} {c : Replica} (h : Booting db c) {call : Call}
    {k : call.Result → Boot Unit} (hrest : c.rest = .ask call k) (fault : Option Fault) :
    db.Grows (db.serve fault call).2 ∧ Booting (db.serve fault call).2
      ⟨c.talk ++ [⟨call, (db.serve fault call).1⟩], k (db.serve fault call).1⟩ := by
  obtain ⟨hmay, hfollows⟩ := h.follows.answered hrest (db.serve fault call).1
  have hgrows := Database.grows_serve db fault hmay
  refine ⟨hgrows, hfollows, fun x hx => ?_⟩
  rcases List.mem_append.mp hx with hx | hx
  · exact (h.holds x hx).grows hgrows
  · rw [List.mem_singleton.mp hx]
    exact holds_served db fault call

theorem keeps_faulty (first : Database) : faulty.Keeps first.Grows Booting where
  serve _ fault _ _ _ hI hc hrest :=
    ⟨hI.trans (hc.answered hrest fault).1, (hc.answered hrest fault).2⟩
  others _ fault _ _ _ _ hc hrest _ hd := hd.grows (hc.answered hrest fault).1
  move db m hI := hI.trans (Database.grows_move db m)
  through db m _ _ hc := hc.grows (Database.grows_move db m)

theorem keeps_reliable (first : Database) : reliable.Keeps first.Grows
    fun db (c : Replica) => Booting db c ∧ ∀ x ∈ c.talk, Sincere first x where
  serve db _ _ call _ hI hc hrest := by
    refine ⟨hI.trans (hc.1.answered hrest none).1, (hc.1.answered hrest none).2, fun x hx => ?_⟩
    rcases List.mem_append.mp hx with hx | hx
    · exact hc.2 x hx
    · rw [List.mem_singleton.mp hx]
      exact sincere_served (hc.1.follows.answered hrest (db.serve none call).1).1 hI hc.1.holds
  others _ _ _ _ _ _ hc hrest _ hd := ⟨hd.1.grows (hc.1.answered hrest none).1, hd.2⟩
  move db m hI := hI.trans (Database.grows_move db m)
  through db m _ _ hc := ⟨hc.1.grows (Database.grows_move db m), hc.2⟩

theorem Booting.ensured {db : Database} {c : Replica} (h : Booting db c)
    {table : TableDefinition} (htable : table ∈ TABLE_DEFINITIONS)
    (hensured : Ensured table c.talk) :
    db.statusOf table.name = some .ACTIVE ∧ ∀ attributeName,
      table.ttlAttribute = some attributeName → db.TtlOn table.name attributeName := by
  refine ⟨h.holds _ hensured.active rfl, fun attr hattr => ?_⟩
  have hwanted : Wanted table.name attr := ⟨table, htable, rfl, hattr⟩
  rcases hensured.ttl attr hattr with ⟨description, hmem, hon⟩ | hmem
  · exact h.holds _ hmem attr hwanted hon
  · exact h.holds _ hmem rfl hwanted

def boots (hostnames : List String) : List (Boot Unit) :=
  hostnames.map fun hostname => onModuleInit (.ok ⟨hostname, true⟩)

theorem booting_start (first : Database) {hostnames : List String} {p : Boot Unit}
    (hp : p ∈ boots hostnames) : Booting first ⟨[], p⟩ := by
  obtain ⟨hostname, -, rfl⟩ := List.mem_map.mp hp
  exact ⟨⟨fun pre x hpre => by simp at hpre, meets_onModuleInit hostname⟩,
    fun x hx => absurd hx List.not_mem_nil⟩

theorem boot_ends {δ : Type} (S : Service Call Call.Result Database δ TableMove)
    (first : Database) (hostnames : List String) (es : List (Service.Event δ TableMove)) {i : Nat}
    (hi : i < hostnames.length) (hturns : BOOT_TURNS ≤ es.countP (·.isTurn i)) :
    ∃ c, ((S.system first (boots hostnames)).run es).clients[i]? = some c ∧
      c.rest.outcome?.isSome = true := by
  have hscript : (boots hostnames)[i]? = some (onModuleInit (.ok ⟨hostnames[i], true⟩)) := by
    simp [boots, hi]
  obtain ⟨c, hc, hwithin⟩ := S.within_run first hscript (within_onModuleInit _) es
  rw [Nat.sub_eq_zero_of_le hturns] at hwithin
  exact ⟨c, hc, hwithin.ended⟩

theorem not_blocked {table : TableDefinition} {talk : Talk}
    (hrejects : talk.any (rejects table.name) = false) (hpolls : talk.slowPolls table.name < 10) :
    ¬ Blocked table talk := by
  rintro (h | h)
  · simp [hrejects] at h
  · omega

theorem rejects_eq_false {first : Database} {x : Exchange Call.Result} (h : Sincere first x)
    (tableName : String) : rejects tableName x = false := by
  obtain ⟨request, answer⟩ := x
  cases request with
  | log level text => rfl
  | sleep ms => rfl
  | send command =>
    cases command with
    | listTables limit => rfl
    | describeTable name =>
      cases answer with
      | ok status => rfl
      | error err => simp [rejects, h.2]
    | createTable definition =>
      cases answer with
      | ok _ => rfl
      | error err =>
        have hexists : isAwsError err "ResourceInUseException" = true := h
        simp [rejects, hexists]
    | describeTimeToLive name =>
      cases answer with
      | ok description => rfl
      | error err => exact h.elim
    | updateTimeToLive name enabled attr =>
      cases answer with
      | ok _ => rfl
      | error err => exact h.elim

theorem pingAnswer?_ne_false {first : Database} {x : Exchange Call.Result} (h : Sincere first x) :
    pingAnswer? x ≠ some false := by
  obtain ⟨request, answer⟩ := x
  cases request with
  | log level text => simp [pingAnswer?]
  | sleep ms => simp [pingAnswer?]
  | send command =>
    cases command with
    | listTables limit =>
      cases answer with
      | ok _ => simp [pingAnswer?]
      | error err => exact h.elim
    | _ => simp [pingAnswer?]

theorem Booting.mayCall {db : Database} {c : Replica} (h : Booting db c)
    {x : Exchange Call.Result} (hx : x ∈ c.talk) :
    ∃ pre, pre <+: c.talk ∧ MayCall pre x.request := by
  obtain ⟨pre, post, htalk⟩ := List.append_of_mem hx
  have hpre : pre ++ [x] <+: c.talk := ⟨post, by rw [htalk, List.append_assoc]; rfl⟩
  exact ⟨pre, (List.prefix_append pre [x]).trans hpre, h.follows.put pre x hpre⟩

structure BootedWith (first : Database) (db : Database) (c : Replica) : Prop where
  resolved : c.rest.outcome? = some (.ok ())
  noError : ∀ x ∈ c.talk, ∀ text, x.request ≠ .log .error text
  active : ∀ table ∈ TABLE_DEFINITIONS, db.statusOf table.name = some .ACTIVE
  ttl : ∀ table ∈ TABLE_DEFINITIONS, ∀ attributeName, table.ttlAttribute = some attributeName →
    db.ttlOf table.name = some (.enabled attributeName) ∨
      db.ttlOf table.name = some (.enabling attributeName) ∧
        first.ttlOf table.name = some (.enabling attributeName)

structure Sparing (first : Database) (c : Replica) : Prop where
  created : ∀ x ∈ c.talk, ∀ definition, x.request = .send (.createTable definition) →
    (∃ table ∈ TABLE_DEFINITIONS, table.create = definition) ∧ first definition.name = none
  updated : ∀ x ∈ c.talk, ∀ name enabled attributeName,
    x.request = .send (.updateTimeToLive name enabled attributeName) →
    enabled = true ∧ Wanted name attributeName ∧ ¬ first.TtlOn name attributeName

theorem Booting.sparing {first db : Database} {c : Replica} (h : Booting db c)
    (hsincere : ∀ x ∈ c.talk, Sincere first x) : Sparing first c where
  created x hx definition hrequest := by
    obtain ⟨pre, hpre, hmay⟩ := h.mayCall hx
    rw [hrequest] at hmay
    obtain ⟨hdefined, err, hmem, -⟩ := hmay
    exact ⟨hdefined, (hsincere _ (hpre.subset hmem)).1⟩
  updated x hx name enabled attr hrequest := by
    obtain ⟨pre, hpre, hmay⟩ := h.mayCall hx
    rw [hrequest] at hmay
    obtain ⟨henabled, hwanted, -, description, hmem, hoff⟩ := hmay
    refine ⟨henabled, hwanted, fun hon => ?_⟩
    have htold := hsincere _ (hpre.subset hmem) attr hwanted hon
    rw [htold] at hoff
    cases hoff

theorem Booting.booted {first db : Database} {c : Replica} (hgrows : first.Grows db)
    (h : Booting db c) (hsincere : ∀ x ∈ c.talk, Sincere first x)
    (hended : c.rest.outcome?.isSome = true)
    (hpolls : ∀ table ∈ TABLE_DEFINITIONS, Talk.slowPolls table.name c.talk < 10) :
    BootedWith first db c := by
  have hfree : ∀ table ∈ TABLE_DEFINITIONS, ¬ Blocked table c.talk := fun table htable =>
    not_blocked (List.any_eq_false.mpr fun x hx => by simp [rejects_eq_false (hsincere x hx)])
      (hpolls table htable)
  obtain ⟨o, ho⟩ := Option.isSome_iff_exists.mp hended
  have hpost := h.follows.rest.of_outcome ho
  cases o with
  | error err =>
    obtain ⟨x, hx, hrejected⟩ := hpost.tried
    exact absurd hrejected (pingAnswer?_ne_false (hsincere x hx))
  | ok _ =>
    have hensured : ∀ table ∈ TABLE_DEFINITIONS, Ensured table c.talk := by
      rcases hpost with hensured | ⟨done, table, rest, htables, -, hblocked⟩
      · exact hensured
      · exact absurd hblocked (hfree table (htables ▸ List.mem_append_right _ List.mem_cons_self))
    refine ⟨ho, fun x hx text hlog => ?_, fun table htable => ?_, fun table htable attr hattr => ?_⟩
    · obtain ⟨pre, ⟨post, hpre⟩, hmay⟩ := h.mayCall hx
      rw [hlog] at hmay
      obtain ⟨table, htable, hblocked⟩ := hmay
      exact hfree table htable (hpre ▸ hblocked.append post)
    · exact (h.ensured htable (hensured table htable)).1
    · refine ((h.ensured htable (hensured table htable)).2 attr hattr).imp_right fun hon => ?_
      exact ⟨hon, hgrows.enabling _ _ hon⟩

/-- Tables are created by whoever finds them missing first, and everyone gets on. -/
theorem boots_converge (first : Database) (hostnames : List String)
    (es : List (Service.Event Unit TableMove)) :
    let s := (reliable.system first (boots hostnames)).run es
    (∀ i < hostnames.length, BOOT_TURNS ≤ es.countP (·.isTurn i) →
        ∃ c, s.clients[i]? = some c ∧ c.rest.outcome?.isSome = true) ∧
      ∀ c ∈ s.clients, Sparing first c ∧
        (c.rest.outcome?.isSome = true →
          (∀ table ∈ TABLE_DEFINITIONS, Talk.slowPolls table.name c.talk < 10) →
          BootedWith first s.store c) := by
  intro s
  have hrun := (keeps_reliable first).run (.refl first) (boots hostnames)
    (fun p hp => ⟨booting_start first hp, fun x hx => absurd hx List.not_mem_nil⟩) es
  refine ⟨fun i hi hturns => boot_ends reliable first hostnames es hi hturns, fun c hc => ?_⟩
  obtain ⟨hbooting, hsincere⟩ := hrun.2 c hc
  exact ⟨hbooting.sparing hsincere,
    fun hended hpolls => hbooting.booted hrun.1 hsincere hended hpolls⟩

def halfway : Database := fun _ => some ⟨.ACTIVE, .enabling TTL_ATTRIBUTE_NAME⟩

theorem enabling_is_left_alone :
    let s := (reliable.system halfway (boots ["localhost"])).run (.replicate 12 (.turn 0 ()))
    ∃ c, s.clients = [c] ∧ c.rest.outcome? = some (.ok ()) ∧
      (∀ table ∈ TABLE_DEFINITIONS, Talk.slowPolls table.name c.talk = 0) ∧
      ∃ table ∈ TABLE_DEFINITIONS, table.ttlAttribute = some TTL_ATTRIBUTE_NAME ∧
        s.store.ttlOf table.name ≠ some (.enabled TTL_ATTRIBUTE_NAME) := by
  refine ⟨_, rfl, rfl, ?_, TABLE_DEFINITIONS[1], by decide, rfl, ?_⟩
  · decide
  · decide

theorem Stuck.ensured {tables before after : List TableDefinition} {table : TableDefinition}
    {talk : Talk} (h : Stuck tables talk) (htables : tables = before ++ table :: after)
    (hfree : ∀ t ∈ before ++ [table], ¬ Blocked t talk) : Ensured table talk := by
  obtain ⟨done, next, rest, hsplit, hdone, hblocked⟩ := h
  rw [htables] at hsplit
  rcases List.append_eq_append_iff.mp hsplit with ⟨middle, rfl, htail⟩ | ⟨middle, rfl, htail⟩
  · cases middle with
    | nil =>
      obtain ⟨rfl, -⟩ := List.cons.inj htail
      exact absurd hblocked (hfree table (List.mem_append_right _ List.mem_cons_self))
    | cons t middle =>
      obtain ⟨rfl, -⟩ := List.cons.inj htail
      exact hdone table (List.mem_append_right _ List.mem_cons_self)
  · cases middle with
    | nil =>
      obtain ⟨rfl, -⟩ := List.cons.inj htail
      exact absurd hblocked (hfree next (List.mem_append_right _ List.mem_cons_self))
    | cons t middle =>
      obtain ⟨rfl, -⟩ := List.cons.inj htail
      refine absurd hblocked (hfree next (List.mem_append_left _ ?_))
      exact List.mem_append_right _ List.mem_cons_self

structure Undisturbed (table : TableDefinition) (talk : Talk) : Prop where
  accepted : talk.any (rejects table.name) = false
  polls : talk.slowPolls table.name < 10

/-- Whatever is rejected, a boot that was answered a ping resolves, and the tables up to the
first one with trouble are ensured. -/
theorem boots_best_effort (first : Database) (hostnames : List String)
    (es : List (Service.Event (Option Fault) TableMove)) :
    let s := (faulty.system first (boots hostnames)).run es
    (∀ i < hostnames.length, BOOT_TURNS ≤ es.countP (·.isTurn i) →
        ∃ c, s.clients[i]? = some c ∧ c.rest.outcome?.isSome = true) ∧
      ∀ c ∈ s.clients, c.rest.outcome?.isSome = true →
        (∃ x ∈ c.talk, pingAnswer? x = some true) →
        c.rest.outcome? = some (.ok ()) ∧
          ∀ before table after, TABLE_DEFINITIONS = before ++ table :: after →
            (∀ t ∈ before ++ [table], Undisturbed t c.talk) →
            s.store.statusOf table.name = some .ACTIVE ∧
              ∀ attributeName, table.ttlAttribute = some attributeName →
                s.store.TtlOn table.name attributeName := by
  intro s
  have hrun := (keeps_faulty first).run (.refl first) (boots hostnames)
    (fun p hp => booting_start first hp) es
  refine ⟨fun i hi hturns => boot_ends faulty first hostnames es hi hturns, ?_⟩
  rintro c hc hended ⟨x, hx, hpinged⟩
  have hbooting := hrun.2 c hc
  obtain ⟨o, ho⟩ := Option.isSome_iff_exists.mp hended
  have hpost := hbooting.follows.rest.of_outcome ho
  cases o with
  | error err => exact absurd hpinged (hpost.never x hx)
  | ok _ =>
    refine ⟨ho, fun before table after htables hfree => ?_⟩
    have htable : table ∈ TABLE_DEFINITIONS := by
      rw [htables]
      exact List.mem_append_right _ List.mem_cons_self
    refine hbooting.ensured htable ?_
    rcases hpost with hensured | hstuck
    · exact hensured table htable
    · exact hstuck.ensured htables fun t ht => not_blocked (hfree t ht).accepted (hfree t ht).polls

def mismatched : Database := fun name =>
  if name = "Clients" then some ⟨.ACTIVE, .enabled "ttl"⟩ else some ⟨.ACTIVE, .disabled⟩

def ttlRefused : Fault where
  error := .error "ValidationException" none "TimeToLive is active on a different AttributeName"
  applied := false

theorem refusal_starves_later_tables :
    let s := (faulty.system mismatched (boots ["localhost"])).run
      (.replicate 5 (.turn 0 none) ++ [.turn 0 (some ttlRefused), .turn 0 none])
    ∃ c, s.clients = [c] ∧ c.rest.outcome? = some (.ok ()) ∧
      (∃ x ∈ c.talk, pingAnswer? x = some true) ∧
      ∃ table ∈ TABLE_DEFINITIONS, Undisturbed table c.talk ∧
        s.store.statusOf table.name = some .ACTIVE ∧
        table.ttlAttribute = some TTL_ATTRIBUTE_NAME ∧
        ¬ s.store.TtlOn table.name TTL_ATTRIBUTE_NAME := by
  refine ⟨_, rfl, rfl, ⟨_, List.mem_cons_self, rfl⟩, TABLE_DEFINITIONS[5], by decide,
    ⟨by decide, by decide⟩, rfl, rfl, ?_⟩
  unfold Database.TtlOn
  decide

end NestBackend.Dynamo
