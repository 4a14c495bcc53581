import NestBackend.Dynamo.Service

namespace NestBackend.Dynamo

open NestBackend.Common
open NestBackend.Js
open NestBackend.Lib
open DynamoService

abbrev Talk := List (Exchange Call.Result)

def statusAnswer? (tableName : String) :
    Exchange Call.Result → Option (Except Thrown (Option TableStatus))
  | ⟨.send (.describeTable name), answer⟩ => if name = tableName then some answer else none
  | _ => none

def toldActive : Except Thrown (Option TableStatus) → Bool
  | .ok status => isActive status
  | .error _ => false

def rejects (tableName : String) : Exchange Call.Result → Bool
  | ⟨.send (.describeTable name), .error err⟩ =>
    name == tableName && !isAwsError err "ResourceNotFoundException"
  | ⟨.send (.createTable definition), .error err⟩ =>
    definition.name == tableName && !isAwsError err "ResourceInUseException"
  | ⟨.send (.describeTimeToLive name), .error _⟩ => name == tableName
  | ⟨.send (.updateTimeToLive name _ _), .error _⟩ => name == tableName
  | _ => false

namespace Talk

def statuses (tableName : String) (talk : Talk) : List (Except Thrown (Option TableStatus)) :=
  talk.filterMap (statusAnswer? tableName)

/-- The polls, that is every DescribeTable but the first, that did not find the table active. -/
def slowPolls (tableName : String) (talk : Talk) : Nat :=
  (talk.statuses tableName).tail.countP fun answer => !toldActive answer

def SeenActive (tableName : String) (talk : Talk) : Prop :=
  ⟨.send (.describeTable tableName), .ok (some .ACTIVE)⟩ ∈ talk

def SeenMissing (tableName : String) (talk : Talk) : Prop :=
  ∃ err, ⟨.send (.describeTable tableName), .error err⟩ ∈ talk ∧
    isAwsError err "ResourceNotFoundException" = true

def TtlEnsured (tableName attributeName : String) (talk : Talk) : Prop :=
  (∃ description, ⟨.send (.describeTimeToLive tableName), .ok description⟩ ∈ talk ∧
    ttlIsOnWith attributeName description = true) ∨
  ⟨.send (.updateTimeToLive tableName true attributeName), .ok ()⟩ ∈ talk

end Talk

structure Ensured (table : TableDefinition) (talk : Talk) : Prop where
  active : talk.SeenActive table.name
  ttl : ∀ attributeName, table.ttlAttribute = some attributeName →
    talk.TtlEnsured table.name attributeName

def Blocked (table : TableDefinition) (talk : Talk) : Prop :=
  talk.any (rejects table.name) = true ∨ 10 ≤ talk.slowPolls table.name

def MayCall (talk : Talk) : Call → Prop
  | .send (.createTable definition) =>
    (∃ table ∈ TABLE_DEFINITIONS, table.create = definition) ∧ talk.SeenMissing definition.name
  | .send (.describeTimeToLive tableName) => talk.SeenActive tableName
  | .send (.updateTimeToLive tableName enabled attributeName) =>
    enabled = true ∧
      (∃ table ∈ TABLE_DEFINITIONS, table.name = tableName ∧
        table.ttlAttribute = some attributeName) ∧
      talk.SeenActive tableName ∧
      ∃ description, ⟨.send (.describeTimeToLive tableName), .ok description⟩ ∈ talk ∧
        ttlIsOnWith attributeName description = false
  | .log .error _ => ∃ table ∈ TABLE_DEFINITIONS, Blocked table talk
  | _ => True

section Stability

variable {talk : Talk} {tableName : String}

theorem statuses_append (s t : Talk) : (s ++ t).statuses tableName =
    s.statuses tableName ++ t.statuses tableName := List.filterMap_append

theorem slowPolls_append_le (s t : Talk) :
    s.slowPolls tableName ≤ Talk.slowPolls tableName (s ++ t) := by
  unfold Talk.slowPolls
  rw [statuses_append]
  cases s.statuses tableName with
  | nil => simp
  | cons answer answers => simp [List.countP_append]

theorem Ensured.append {table : TableDefinition} (h : Ensured table talk)
    (x : Exchange Call.Result) : Ensured table (talk ++ [x]) where
  active := List.mem_append_left _ h.active
  ttl attributeName hattr := by
    rcases h.ttl attributeName hattr with ⟨description, hmem, hon⟩ | hmem
    · exact .inl ⟨description, List.mem_append_left _ hmem, hon⟩
    · exact .inr (List.mem_append_left _ hmem)

theorem Blocked.append {table : TableDefinition} (h : Blocked table talk) (t : Talk) :
    Blocked table (talk ++ t) := by
  rcases h with h | h
  · exact .inl (by rw [List.any_append, h, Bool.true_or])
  · exact .inr (h.trans (slowPolls_append_le talk t))

end Stability

section Rules

variable {Q : Except Thrown Unit → Talk → Prop} {talk : Talk}

theorem meets_send {c : Command} {f : c.Output → Boot Unit} (hmay : MayCall talk (.send c))
    (hok : ∀ output, (f output).Meets MayCall Q (talk ++ [⟨.send c, .ok output⟩]))
    (herror : ∀ err, Q (.error err) (talk ++ [⟨.send c, .error err⟩])) :
    ((send c).bind f).Meets MayCall Q talk := by
  refine ⟨hmay, fun answer => ?_⟩
  cases answer with
  | ok output => exact hok output
  | error err => exact herror err

theorem meets_try_send {c : Command} {f : Except Thrown c.Output → Boot Unit}
    (hmay : MayCall talk (.send c))
    (hf : ∀ answer, (f answer).Meets MayCall Q (talk ++ [⟨.send c, answer⟩])) :
    ((send c).settle.bind f).Meets MayCall Q talk := by
  refine ⟨hmay, fun answer => ?_⟩
  cases answer with
  | ok output => exact hf (.ok output)
  | error err => exact hf (.error err)

theorem meets_caught {R : Talk → Prop}
    (hR : ∀ talk x, (∀ c, x.request ≠ .send c) → R talk → R (talk ++ [x]))
    (text : Nat → ℤ → String) (options : BoundedRetryOptions) (i : Nat) (err : Thrown)
    (h : R talk) :
    (caught sleep (some fun attempt attempts _ => log .warn (text attempt attempts)) options i
      err : Boot Unit).Meets MayCall (fun o talk => o = .ok () ∧ R talk) talk := by
  unfold caught
  cases options.afterFailure i with
  | giveUp => exact ⟨rfl, h⟩
  | sleep ms =>
    refine ⟨trivial, fun _ => ⟨trivial, fun _ => ⟨rfl, ?_⟩⟩⟩
    exact hR _ _ (fun c => Call.noConfusion) (hR _ _ (fun c => Call.noConfusion) h)

end Rules

theorem meets_reconcileNotice {R : Talk → Prop} (hR : ∀ talk x, R talk → R (talk ++ [x]))
    (tableName attributeName : String) (description : Option TimeToLiveDescription) {talk : Talk}
    (h : R talk) : (reconcileNotice tableName attributeName description).Meets MayCall
      (fun o talk => o = .ok () ∧ R talk) talk := by
  unfold reconcileNotice
  split
  · exact ⟨trivial, fun _ => ⟨rfl, hR _ _ h⟩⟩
  · exact ⟨trivial, fun _ => ⟨rfl, hR _ _ h⟩⟩

section Tables

variable {talk : Talk} {tableName : String} {table : TableDefinition}

theorem statuses_describe (answer : Except Thrown (Option TableStatus)) :
    Talk.statuses tableName (talk ++ [⟨.send (.describeTable tableName), answer⟩]) =
      talk.statuses tableName ++ [answer] := by
  rw [statuses_append]
  simp [Talk.statuses, statusAnswer?]

theorem slowPolls_poll (hdescribed : talk.statuses tableName ≠ [])
    {answer : Except Thrown (Option TableStatus)} (hslow : toldActive answer = false) :
    Talk.slowPolls tableName (talk ++ [⟨.send (.describeTable tableName), answer⟩]) =
      talk.slowPolls tableName + 1 := by
  unfold Talk.slowPolls
  rw [statuses_describe, List.tail_append_of_ne_nil hdescribed]
  simp [hslow]

/-- Before the attempt `i` of `waitUntilActive`, `i - 1` polls have been in vain. -/
structure Waiting (tableName : String) (i : Nat) (talk : Talk) : Prop where
  described : talk.statuses tableName ≠ []
  slow : i ≤ talk.slowPolls tableName + 1

theorem Waiting.append {i : Nat} (h : Waiting tableName i talk) (x : Exchange Call.Result) :
    Waiting tableName i (talk ++ [x]) where
  described := by simp [statuses_append, h.described]
  slow := h.slow.trans (Nat.succ_le_succ (slowPolls_append_le talk [x]))

theorem Waiting.poll {i : Nat} (h : Waiting tableName i talk)
    {answer : Except Thrown (Option TableStatus)} (hslow : toldActive answer = false) :
    Waiting tableName (i + 1) (talk ++ [⟨.send (.describeTable tableName), answer⟩]) where
  described := by simp [statuses_describe]
  slow := by rw [slowPolls_poll h.described hslow]; exact Nat.succ_le_succ h.slow

theorem isActive_iff {status : Option TableStatus} :
    isActive status = true ↔ status = some .ACTIVE := beq_iff_eq

theorem meets_poll {i : Nat} (h : Waiting tableName i talk) :
    (poll tableName).Meets MayCall
      (Script.Ends (fun _ => Talk.SeenActive tableName) fun _ => Waiting tableName (i + 1))
      talk := by
  refine meets_send trivial (fun status => ?_) fun err => h.poll rfl
  by_cases hactive : isActive status = true
  · obtain rfl := isActive_iff.mp hactive
    exact List.mem_append_right _ List.mem_cons_self
  · rw [if_neg hactive]
    exact h.poll (by simpa [toldActive] using hactive)

theorem meets_waitUntilActive (hdescribed : talk.statuses tableName ≠ []) :
    (waitUntilActive tableName).Meets MayCall
      (Script.Ends (fun _ => Talk.SeenActive tableName)
        fun _ talk => 10 ≤ Talk.slowPolls tableName talk) talk := by
  refine meets_retryFrom (I := Waiting tableName) (F := fun i _ => Waiting tableName (i + 1))
    (fun i talk _ h => meets_poll h) (fun i err talk hi h => ?_)
    (show ((1 : Nat) : ℤ) ≤ 10 by decide)
    ⟨hdescribed, Nat.le_add_left 1 _⟩
  refine (meets_caught (fun _ x _ hw => hw.append x) _ _ i err h).mono ?_
  rintro _ talk ⟨rfl, hw⟩
  dsimp only [Script.Ends]
  split
  · exact hw
  · next hlast =>
    have hlast : ¬ (i : ℤ) < 10 := hlast
    have hslow := hw.slow
    omega

theorem blocked_of_rejects {x : Exchange Call.Result} (h : rejects table.name x = true) :
    Blocked table (talk ++ [x]) := by
  left
  rw [List.any_append]
  simp [h]

theorem meets_wait_after (hdescribed : talk.statuses table.name ≠ []) :
    (waitUntilActive table.name).Meets MayCall
      (Script.Ends (fun _ => Talk.SeenActive table.name) fun _ => Blocked table) talk := by
  refine (meets_waitUntilActive hdescribed).mono fun o talk ho => ?_
  cases o with
  | ok _ => exact ho
  | error err => exact .inr ho

theorem meets_ensureTable (htable : table ∈ TABLE_DEFINITIONS) :
    (ensureTable table.create).Meets MayCall
      (Script.Ends (fun _ => Talk.SeenActive table.name) fun _ => Blocked table) talk := by
  refine meets_try_send trivial fun answer => ?_
  have hdescribed : Talk.statuses table.name
      (talk ++ [⟨.send (.describeTable table.name), answer⟩]) ≠ [] := by
    rw [statuses_describe]
    simp
  cases answer with
  | ok status =>
    by_cases hactive : isActive status = true
    · obtain rfl := isActive_iff.mp hactive
      exact List.mem_append_right _ List.mem_cons_self
    · simp only [hactive]
      exact meets_wait_after hdescribed
  | error err =>
    by_cases hmissing : isAwsError err "ResourceNotFoundException" = true
    · simp only [hmissing, if_true]
      refine meets_try_send ⟨⟨table, htable, rfl⟩, err, ?_, hmissing⟩ fun answer => ?_
      · exact List.mem_append_right _ List.mem_cons_self
      have hstill : Talk.statuses table.name
          ((talk ++ [⟨.send (.describeTable table.name), .error err⟩]) ++
            [⟨.send (.createTable table.create), answer⟩]) ≠ [] := by
        rw [statuses_append]
        exact List.append_ne_nil_of_left_ne_nil hdescribed _
      cases answer with
      | ok _ => exact meets_wait_after hstill
      | error createErr =>
        by_cases hexists : isAwsError createErr "ResourceInUseException" = true
        · simp only [hexists, if_true]
          exact meets_wait_after hstill
        · simp only [hexists]
          exact blocked_of_rejects (by simp [rejects, TableDefinition.name, hexists])
    · simp only [hmissing]
      exact blocked_of_rejects (by simp [rejects, TableDefinition.name, hmissing])

theorem meets_ensureTtl {attributeName : String} (htable : table ∈ TABLE_DEFINITIONS)
    (hattr : table.ttlAttribute = some attributeName) (hactive : talk.SeenActive table.name) :
    (ensureTtl table.name attributeName).Meets MayCall
      (Script.Ends (fun _ => Talk.TtlEnsured table.name attributeName) fun _ => Blocked table)
      talk := by
  refine meets_send hactive (fun description => ?_) fun err =>
    blocked_of_rejects (by simp [rejects])
  by_cases hon : ttlIsOnWith attributeName description = true
  · rw [if_pos hon]
    exact .inl ⟨description, List.mem_append_right _ List.mem_cons_self, hon⟩
  · rw [if_neg hon]
    let told (talk : Talk) : Prop := talk.SeenActive table.name ∧
      ⟨.send (.describeTimeToLive table.name), .ok description⟩ ∈ talk
    have htold : told (talk ++ [⟨.send (.describeTimeToLive table.name), .ok description⟩]) :=
      ⟨List.mem_append_left _ hactive, List.mem_append_right _ List.mem_cons_self⟩
    refine (Script.meets_bind _ _).mpr ((meets_reconcileNotice (R := told)
      (fun talk x h => ⟨List.mem_append_left _ h.1, List.mem_append_left _ h.2⟩)
      _ _ _ htold).mono ?_)
    rintro _ talk ⟨rfl, hseen, hdescribed⟩
    refine meets_send
      ⟨rfl, ⟨table, htable, rfl, hattr⟩, hseen, description, hdescribed, by simpa using hon⟩
      (fun _ => .inr (List.mem_append_right _ List.mem_cons_self)) fun err =>
        blocked_of_rejects (by simp [rejects])

theorem meets_ensureDefinition (htable : table ∈ TABLE_DEFINITIONS) :
    (ensureDefinition table).Meets MayCall
      (Script.Ends (fun _ => Ensured table) fun _ => Blocked table) talk := by
  refine (Script.meets_bind _ _).mpr ((meets_ensureTable htable).mono fun o talk ho => ?_)
  cases o with
  | error err => exact ho
  | ok _ =>
    dsimp only [Script.Ends]
    cases hattr : table.ttlAttribute with
    | none => exact ⟨ho, by simp [hattr]⟩
    | some attributeName =>
      refine ((meets_ensureTtl htable hattr ho).frame (R := Talk.SeenActive table.name)
        (fun talk x h => List.mem_append_left _ h) ho).mono fun o talk h => ?_
      cases o with
      | error err => exact h.2
      | ok _ =>
        refine ⟨h.1, fun name hname => ?_⟩
        obtain rfl : attributeName = name := Option.some.inj (hattr.symm.trans hname)
        exact h.2

end Tables

def Stuck (tables : List TableDefinition) (talk : Talk) : Prop :=
  ∃ done table rest, tables = done ++ table :: rest ∧ (∀ d ∈ done, Ensured d talk) ∧
    Blocked table talk

theorem Stuck.append {tables : List TableDefinition} {talk : Talk} (h : Stuck tables talk)
    (x : Exchange Call.Result) : Stuck tables (talk ++ [x]) := by
  obtain ⟨done, table, rest, htables, hdone, hblocked⟩ := h
  exact ⟨done, table, rest, htables, fun d hd => (hdone d hd).append x, hblocked.append [x]⟩

theorem Stuck.cons {table : TableDefinition} {tables : List TableDefinition} {talk : Talk}
    (hensured : Ensured table talk) (h : Stuck tables talk) : Stuck (table :: tables) talk := by
  obtain ⟨done, next, rest, htables, hdone, hblocked⟩ := h
  refine ⟨table :: done, next, rest, by rw [htables, List.cons_append], ?_, hblocked⟩
  exact List.forall_mem_cons.mpr ⟨hensured, hdone⟩

theorem meets_ensureTables {tables : List TableDefinition}
    (htables : ∀ table ∈ tables, table ∈ TABLE_DEFINITIONS) {talk : Talk} :
    (ensureTables tables).Meets MayCall
      (Script.Ends (fun _ talk => ∀ table ∈ tables, Ensured table talk) fun _ => Stuck tables)
      talk := by
  induction tables generalizing talk with
  | nil => exact fun table htable => absurd htable List.not_mem_nil
  | cons table tables ih =>
    obtain ⟨htable, htables⟩ := List.forall_mem_cons.mp htables
    refine (Script.meets_bind _ _).mpr ((meets_ensureDefinition htable).mono fun o talk ho => ?_)
    cases o with
    | error err => exact ⟨[], table, tables, rfl, fun d hd => absurd hd List.not_mem_nil, ho⟩
    | ok _ =>
      refine ((ih htables).frame (R := Ensured table) (fun talk x h => h.append x) ho).mono
        fun o talk h => ?_
      cases o with
      | error err => exact Stuck.cons h.1 h.2
      | ok _ => exact List.forall_mem_cons.mpr ⟨h.1, h.2⟩

def Bootstrapped (talk : Talk) : Prop :=
  (∀ table ∈ TABLE_DEFINITIONS, Ensured table talk) ∨ Stuck TABLE_DEFINITIONS talk

theorem meets_bootstrap {talk : Talk} :
    bootstrap.Meets MayCall (fun o talk => o = .ok () ∧ Bootstrapped talk) talk := by
  unfold bootstrap ensureTablesExist
  refine (Script.meets_bind _ _).mpr ((Script.meets_settle _).mpr ((Script.meets_bind _ _).mpr
    ((meets_ensureTables fun _ h => h).mono fun o talk ho => ?_)))
  cases o with
  | ok _ => exact ⟨trivial, fun _ => ⟨rfl, .inl fun table h => (ho table h).append _⟩⟩
  | error err =>
    have hstuck : Stuck TABLE_DEFINITIONS talk := ho
    obtain ⟨done, table, rest, htables, -, hblocked⟩ := ho
    refine ⟨⟨table, ?_, hblocked⟩, fun _ => ⟨rfl, .inr (hstuck.append _)⟩⟩
    rw [htables]
    exact List.mem_append_right _ List.mem_cons_self

def pingAnswer? : Exchange Call.Result → Option Bool
  | ⟨.send (.listTables _), .ok _⟩ => some true
  | ⟨.send (.listTables _), .error _⟩ => some false
  | _ => none

structure Unreachable (talk : Talk) : Prop where
  never : ∀ x ∈ talk, pingAnswer? x ≠ some true
  tried : ∃ x ∈ talk, pingAnswer? x = some false

theorem pingAnswer?_eq_none {x : Exchange Call.Result} (h : ∀ c, x.request ≠ .send c) :
    pingAnswer? x = none := by
  obtain ⟨request, answer⟩ := x
  cases request with
  | send c => exact absurd rfl (h c)
  | log level text => rfl
  | sleep ms => rfl

theorem Unreachable.append {talk : Talk} (h : Unreachable talk) {x : Exchange Call.Result}
    (hx : ∀ c, x.request ≠ .send c) : Unreachable (talk ++ [x]) where
  never y hy := by
    rcases List.mem_append.mp hy with hy | hy
    · exact h.never y hy
    · rw [List.mem_singleton.mp hy, pingAnswer?_eq_none hx]
      simp
  tried := by
    obtain ⟨y, hy, hrejected⟩ := h.tried
    exact ⟨y, List.mem_append_left _ hy, hrejected⟩

theorem meets_connect :
    connect.Meets MayCall (Script.Ends (fun _ _ => True) fun _ => Unreachable) [] := by
  let silent (talk : Talk) : Prop := ∀ x ∈ talk, pingAnswer? x ≠ some true
  refine meets_retryFrom (I := fun _ => silent) (F := fun _ _ => Unreachable)
    (fun i talk _ h => ?_) (fun i err talk hi h => ?_) (show ((1 : Nat) : ℤ) ≤ 10 by decide)
    (fun x hx => absurd hx List.not_mem_nil)
  · refine meets_send trivial (fun _ => trivial) fun err =>
      ⟨fun x hx => ?_, _, List.mem_append_right _ List.mem_cons_self, rfl⟩
    rcases List.mem_append.mp hx with hx | hx
    · exact h x hx
    · rw [List.mem_singleton.mp hx]
      simp [pingAnswer?]
  · refine (meets_caught (fun _ x hx h => h.append hx) _ _ i err h).mono ?_
    rintro _ talk ⟨rfl, h⟩
    dsimp only [Script.Ends]
    split
    · exact h.never
    · exact h

theorem meets_onModuleInit (hostname : String) :
    (onModuleInit (.ok ⟨hostname, true⟩)).Meets MayCall
      (Script.Ends (fun _ => Bootstrapped) fun _ => Unreachable) [] := by
  refine (Script.meets_bind _ _).mpr (meets_connect.mono fun o talk ho => ?_)
  cases o with
  | error err => exact ho
  | ok _ =>
    refine meets_bootstrap.mono ?_
    rintro _ talk ⟨rfl, h⟩
    exact h

section Turns

theorem within_send (c : Command) : (send c).Within 1 := by
  refine ⟨Nat.one_pos, fun answer => ?_⟩
  cases answer with
  | ok output => trivial
  | error err => trivial

theorem within_caught (text : Nat → ℤ → String) (options : BoundedRetryOptions) (i : Nat)
    (err : Thrown) :
    (caught sleep (some fun attempt attempts _ => log .warn (text attempt attempts)) options i
      err : Boot Unit).Within 2 := by
  unfold caught
  cases options.afterFailure i with
  | giveUp => trivial
  | sleep ms => exact ⟨by decide, fun _ => ⟨by decide, fun _ => trivial⟩⟩

theorem within_ping : ping.Within 1 := (within_send _).bind (n := 0) fun _ => trivial

theorem within_poll (tableName : String) : (poll tableName).Within 1 := by
  refine (within_send _).bind (n := 0) fun status => ?_
  split
  · trivial
  · trivial

theorem within_connect : connect.Within 30 :=
  within_retryFrom within_ping (within_caught _ _)

theorem within_waitUntilActive (tableName : String) : (waitUntilActive tableName).Within 30 :=
  within_retryFrom (within_poll tableName) (within_caught _ _)

theorem within_ensureTable (definition : CreateTableCommandInput) :
    (ensureTable definition).Within 32 := by
  refine (within_send _).settle.bind (n := 31) fun answer => ?_
  have hwait := within_waitUntilActive definition.name
  cases answer with
  | ok status =>
    dsimp only
    split
    · trivial
    · exact hwait.mono (by decide)
  | error err =>
    dsimp only
    split
    · refine (within_send _).settle.bind (n := 30) fun answer => ?_
      cases answer with
      | ok _ => exact hwait
      | error createErr =>
        dsimp only
        split
        · exact hwait
        · trivial
    · trivial

theorem within_ensureTtl (tableName attributeName : String) :
    (ensureTtl tableName attributeName).Within 3 := by
  refine (within_send _).bind (n := 2) fun description => ?_
  split
  · trivial
  · refine Script.Within.bind (m := 1) (n := 1) ?_ fun _ =>
      (within_send _).bind (n := 0) fun _ => trivial
    unfold reconcileNotice
    split
    · exact ⟨Nat.one_pos, fun _ => trivial⟩
    · exact ⟨Nat.one_pos, fun _ => trivial⟩

theorem within_ensureTables (tables : List TableDefinition) :
    (ensureTables tables).Within (35 * tables.length) := by
  induction tables with
  | nil => trivial
  | cons table tables ih =>
    rw [List.length_cons, Nat.mul_succ, Nat.add_comm]
    refine Script.Within.bind ((within_ensureTable table.create).bind (n := 3) fun _ => ?_)
      fun _ => ih
    cases table.ttlAttribute with
    | none => trivial
    | some attributeName => exact within_ensureTtl _ _

/-- How many turns the bootstrap takes at most, whatever is answered. -/
def BOOT_TURNS : Nat := 277

theorem within_onModuleInit (config : DynamoBootstrapConfig) :
    (onModuleInit (.ok config)).Within BOOT_TURNS := by
  have hensure : ensureTablesExist.Within 246 :=
    (within_ensureTables TABLE_DEFINITIONS).bind (n := 1) fun _ => ⟨Nat.one_pos, fun _ => trivial⟩
  refine within_connect.bind (n := 247) fun _ => ?_
  dsimp only [Script.ofExcept, Script.bind_eq, Script.ret_bind]
  split
  · refine hensure.settle.bind (n := 1) fun o => ?_
    cases o with
    | ok _ => trivial
    | error err => exact ⟨Nat.one_pos, fun _ => trivial⟩
  · exact ⟨by decide, fun _ => trivial⟩

end Turns

end NestBackend.Dynamo
