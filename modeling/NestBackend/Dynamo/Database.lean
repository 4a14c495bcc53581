import NestBackend.Dynamo.Bootstrap
import NestBackend.Lib.Service

/-! DynamoDB as far as the bootstrap uses it, shared by any number of replicas. -/

namespace NestBackend.Dynamo

open NestBackend.Js
open NestBackend.Lib
open DynamoService

inductive TimeToLive where
  | disabled
  | disabling (attributeName : String)
  | enabling (attributeName : String)
  | enabled (attributeName : String)
  deriving DecidableEq

structure Table where
  status : TableStatus
  ttl : TimeToLive
  deriving DecidableEq

abbrev Database := String → Option Table

def TimeToLive.describe : TimeToLive → TimeToLiveDescription
  | .disabled => ⟨some .DISABLED, none⟩
  | .disabling attributeName => ⟨some .DISABLING, some attributeName⟩
  | .enabling attributeName => ⟨some .ENABLING, some attributeName⟩
  | .enabled attributeName => ⟨some .ENABLED, some attributeName⟩

def resourceNotFound : Thrown :=
  .error "ResourceNotFoundException" none "Requested resource not found"

def resourceInUse : Thrown := .error "ResourceInUseException" none "Table already exists"

namespace Database

def alter (db : Database) (tableName : String) (f : Table → Table) : Database := fun name =>
  if name = tableName then (db name).map f else db name

def create (db : Database) (tableName : String) : Database := fun name =>
  if name = tableName then some ⟨.CREATING, .disabled⟩ else db name

def statusOf (db : Database) (tableName : String) : Option TableStatus :=
  (db tableName).map (·.status)

def ttlOf (db : Database) (tableName : String) : Option TimeToLive := (db tableName).map (·.ttl)

def execute (db : Database) : (command : Command) → Except Thrown command.Output × Database
  | .listTables _ => (.ok (), db)
  | .describeTable tableName =>
    match db tableName with
    | none => (.error resourceNotFound, db)
    | some table => (.ok (some table.status), db)
  | .createTable definition =>
    match db definition.name with
    | none => (.ok (), db.create definition.name)
    | some _ => (.error resourceInUse, db)
  | .describeTimeToLive tableName =>
    match db tableName with
    | none => (.error resourceNotFound, db)
    | some table => (.ok (some table.ttl.describe), db)
  | .updateTimeToLive tableName enabled attributeName =>
    match db tableName with
    | none => (.error resourceNotFound, db)
    | some _ => (.ok (), db.alter tableName fun table =>
        { table with ttl := if enabled then .enabled attributeName else .disabled })

end Database

/-- A rejection out of the blue, of a command that may have taken effect all the same. -/
structure Fault where
  error : Thrown
  applied : Bool

inductive TableMove where
  | activate (tableName : String)
  | settleTtl (tableName : String)

def TimeToLive.settled : TimeToLive → TimeToLive
  | .enabling attributeName => .enabled attributeName
  | .disabling _ => .disabled
  | ttl => ttl

def Database.serve (db : Database) (fault : Option Fault) : (call : Call) → call.Result × Database
  | .send command =>
    match fault with
    | none => db.execute command
    | some fault => (.error fault.error, if fault.applied then (db.execute command).2 else db)
  | .log .. => ((), db)
  | .sleep _ => ((), db)

def Database.move (db : Database) : TableMove → Database
  | .activate tableName => db.alter tableName fun table => { table with status := .ACTIVE }
  | .settleTtl tableName => db.alter tableName fun table => { table with ttl := table.ttl.settled }

def faulty : Service Call Call.Result Database (Option Fault) TableMove where
  serve db fault call := db.serve fault call
  move := Database.move

def reliable : Service Call Call.Result Database Unit TableMove where
  serve db _ call := db.serve none call
  move := Database.move

def Wanted (tableName attributeName : String) : Prop :=
  ∃ table ∈ TABLE_DEFINITIONS, table.name = tableName ∧ table.ttlAttribute = some attributeName

theorem Wanted.eq {tableName attributeName : String} (h : Wanted tableName attributeName) :
    attributeName = TTL_ATTRIBUTE_NAME := by
  obtain ⟨table, htable, -, hattr⟩ := h
  exact ttlAttribute_eq htable hattr

namespace Database

def TtlOn (db : Database) (tableName attributeName : String) : Prop :=
  db.ttlOf tableName = some (.enabled attributeName) ∨
    db.ttlOf tableName = some (.enabling attributeName)

/-- What no step of a bootstrap or of DynamoDB itself undoes. -/
structure Grows (db db' : Database) : Prop where
  present : ∀ name, db name ≠ none → db' name ≠ none
  active : ∀ name, db.statusOf name = some .ACTIVE → db'.statusOf name = some .ACTIVE
  ttl : ∀ name attributeName, Wanted name attributeName → db.TtlOn name attributeName →
    db'.TtlOn name attributeName
  enabling : ∀ name attributeName, db'.ttlOf name = some (.enabling attributeName) →
    db.ttlOf name = some (.enabling attributeName)

theorem Grows.refl (db : Database) : db.Grows db where
  present _ h := h
  active _ h := h
  ttl _ _ _ h := h
  enabling _ _ h := h

theorem Grows.trans {db₁ db₂ db₃ : Database} (h : db₁.Grows db₂) (h' : db₂.Grows db₃) :
    db₁.Grows db₃ where
  present name hname := h'.present name (h.present name hname)
  active name hname := h'.active name (h.active name hname)
  ttl name attr hwanted hname := h'.ttl name attr hwanted (h.ttl name attr hwanted hname)
  enabling name attr hname := h.enabling name attr (h'.enabling name attr hname)

theorem grows_alter {db : Database} {tableName : String} {f : Table → Table}
    (hactive : ∀ table, table.status = .ACTIVE → (f table).status = .ACTIVE)
    (httl : ∀ table attributeName, Wanted tableName attributeName →
      table.ttl = .enabled attributeName ∨ table.ttl = .enabling attributeName →
      (f table).ttl = .enabled attributeName ∨ (f table).ttl = .enabling attributeName)
    (henabling : ∀ table attributeName, (f table).ttl = .enabling attributeName →
      table.ttl = .enabling attributeName) : db.Grows (db.alter tableName f) where
  present name h := by
    unfold alter
    split
    · simpa using h
    · exact h
  active name h := by
    unfold statusOf alter at *
    split
    · cases hdb : db name with
      | none => simp [hdb] at h
      | some table => simpa [hdb] using hactive table (by simpa [hdb] using h)
    · exact h
  ttl name attr hwanted h := by
    unfold TtlOn ttlOf alter at *
    split
    · next hname =>
      subst hname
      cases hdb : db name with
      | none => simp [hdb] at h
      | some table => simpa [hdb] using httl table attr hwanted (by simpa [hdb] using h)
    · exact h
  enabling name attr h := by
    unfold ttlOf alter at *
    split at h
    · cases hdb : db name with
      | none => simp [hdb] at h
      | some table => simpa [hdb] using henabling table attr (by simpa [hdb] using h)
    · exact h

theorem grows_create {db : Database} {tableName : String} (hmissing : db tableName = none) :
    db.Grows (db.create tableName) where
  present name h := by
    unfold create
    split
    · simp
    · exact h
  active name h := by
    unfold statusOf create at *
    split
    · next hname => simp [hname, hmissing] at h
    · exact h
  ttl name attr _ h := by
    unfold TtlOn ttlOf create at *
    split
    · next hname => simp [hname, hmissing] at h
    · exact h
  enabling name attr h := by
    unfold ttlOf create at *
    split at h
    · simp at h
    · exact h

theorem grows_move (db : Database) (m : TableMove) : db.Grows (db.move m) := by
  cases m with
  | activate name => exact grows_alter (fun _ _ => rfl) (fun _ _ _ h => h) fun _ _ h => h
  | settleTtl name =>
    refine grows_alter (fun _ h => h) (fun table attr _ h => ?_) fun table attr h => ?_
    · rcases h with h | h
      · exact .inl (by simp [h, TimeToLive.settled])
      · exact .inl (by simp [h, TimeToLive.settled])
    · cases httl : table.ttl <;> simp [httl, TimeToLive.settled] at h

theorem grows_execute (db : Database) {talk : Talk} {command : Command}
    (hmay : MayCall talk (.send command)) : db.Grows (db.execute command).2 := by
  cases command with
  | listTables limit => exact .refl db
  | describeTable name => cases hdb : db name <;> simpa [execute, hdb] using Grows.refl db
  | createTable definition =>
    cases hdb : db definition.name with
    | none => simpa [execute, hdb] using grows_create hdb
    | some table => simpa [execute, hdb] using Grows.refl db
  | describeTimeToLive name => cases hdb : db name <;> simpa [execute, hdb] using Grows.refl db
  | updateTimeToLive name enabled attr =>
    obtain ⟨rfl, hwanted, -⟩ := hmay
    cases hdb : db name with
    | none => simpa [execute, hdb] using Grows.refl db
    | some table =>
      simp only [execute, hdb, if_true]
      refine grows_alter (fun _ h => h) (fun table other hother _ => .inl ?_)
        fun table other h => ?_
      · rw [hother.eq, ← Wanted.eq hwanted]
      · simp at h

theorem grows_serve (db : Database) (fault : Option Fault) {talk : Talk} {call : Call}
    (hmay : MayCall talk call) : db.Grows (db.serve fault call).2 := by
  cases call with
  | log level text => exact .refl db
  | sleep ms => exact .refl db
  | send command =>
    cases fault with
    | none => exact grows_execute db hmay
    | some fault =>
      unfold serve
      dsimp only
      split
      · exact grows_execute db hmay
      · exact .refl db

end Database

end NestBackend.Dynamo
