import NestBackend.Common.Retry
import NestBackend.Dynamo.TableDefs

/-! `DynamoService` at startup, as the commands it sends, what it logs and how it waits. -/

namespace NestBackend.Dynamo

open NestBackend.Common
open NestBackend.Js
open NestBackend.Lib

inductive TableStatus where
  | CREATING
  | UPDATING
  | DELETING
  | ACTIVE
  | INACCESSIBLE_ENCRYPTION_CREDENTIALS
  | ARCHIVING
  | ARCHIVED
  | REPLICATION_NOT_AUTHORIZED
  deriving DecidableEq

inductive TimeToLiveStatus where
  | ENABLING
  | DISABLING
  | ENABLED
  | DISABLED
  deriving DecidableEq

structure TimeToLiveDescription where
  timeToLiveStatus : Option TimeToLiveStatus
  attributeName : Option String
  deriving DecidableEq

inductive Command where
  | listTables (limit : Nat)
  | describeTable (tableName : String)
  | createTable (definition : CreateTableCommandInput)
  | describeTimeToLive (tableName : String)
  | updateTimeToLive (tableName : String) (enabled : Bool) (attributeName : String)
  deriving DecidableEq

/-- What the service reads of a response: `described.Table?.TableStatus` and
`described.TimeToLiveDescription`. -/
@[reducible] def Command.Output : Command → Type
  | .listTables _ => Unit
  | .describeTable _ => Option TableStatus
  | .createTable _ => Unit
  | .describeTimeToLive _ => Option TimeToLiveDescription
  | .updateTimeToLive .. => Unit

inductive LogLevel where
  | log
  | warn
  | error
  deriving DecidableEq

inductive Call where
  | send (command : Command)
  | log (level : LogLevel) (text : String)
  | sleep (ms : Nat)
  deriving DecidableEq

@[reducible] def Call.Result : Call → Type
  | .send command => Except Thrown command.Output
  | .log .. => Unit
  | .sleep _ => Unit

abbrev Boot (α : Type) := Script Call Call.Result Thrown α

def send (command : Command) : Boot command.Output := .ask (.send command) .ofExcept

def log (level : LogLevel) (text : String) : Boot Unit := .ask (.log level text) .ret

def sleep (ms : Nat) : Boot Unit := .ask (.sleep ms) .ret

/-- `record[key] === code` on an object that was thrown. -/
def thrownProperty (value : Value) (key code : String) : Bool :=
  match value.read key with
  | .ok v => v.strictEq code
  | .error _ => false

def isAwsError (err : Thrown) (code : String) : Bool :=
  match err with
  | .error name errCode _ => name == code || errCode == some code
  | .other value =>
    value.isObject && (thrownProperty value "name" code || thrownProperty value "code" code)

def isActive (status : Option TableStatus) : Bool := status == some .ACTIVE

structure DynamoBootstrapConfig where
  hostname : String
  shouldBootstrap : Bool

namespace DynamoService

def ping : Boot Unit := do
  let _ ← send (.listTables 1)
  return ()

def poll (tableName : String) : Boot Unit := do
  let status ← send (.describeTable tableName)
  if isActive status then return ()
  else .throw (.ofMessage s!"Table {tableName} is not ACTIVE yet")

def waitUntilActive (tableName : String) : Boot Unit :=
  withBoundedRetry sleep
    (some fun attempt attempts _ =>
      log .warn s!"DynamoDB table {tableName} activation attempt {attempt}/{attempts} pending")
    { failureMessage := some s!"Table {tableName} did not become ACTIVE" }
    (poll tableName)

def ensureTable (definition : CreateTableCommandInput) : Boot Unit := do
  let tableName := definition.name
  match ← (send (.describeTable tableName)).settle with
  | .ok status => if isActive status then return () else waitUntilActive tableName
  | .error err =>
    if isAwsError err "ResourceNotFoundException" then
      match ← (send (.createTable definition)).settle with
      | .ok _ => waitUntilActive tableName
      | .error createErr =>
        if isAwsError createErr "ResourceInUseException" then waitUntilActive tableName
        else .throw createErr
    else .throw err

def ttlIsOn (description : Option TimeToLiveDescription) : Bool :=
  let status := description.bind (·.timeToLiveStatus)
  status == some .ENABLED || status == some .ENABLING

def ttlIsOnWith (attributeName : String) (description : Option TimeToLiveDescription) : Bool :=
  ttlIsOn description && description.bind (·.attributeName) == some attributeName

def reconcileNotice (tableName attributeName : String)
    (description : Option TimeToLiveDescription) : Boot Unit :=
  if ttlIsOn description then
    let current := (description.bind (·.attributeName)).getD "unknown"
    log .warn (s!"DynamoDB table {tableName} TTL uses attribute {current}, " ++
      s!"reconciling to {attributeName}")
  else log .log s!"Enabling DynamoDB TTL on table {tableName} with attribute {attributeName}"

def ensureTtl (tableName attributeName : String) : Boot Unit := do
  let description ← send (.describeTimeToLive tableName)
  if ttlIsOnWith attributeName description then return ()
  else
    reconcileNotice tableName attributeName description
    let _ ← send (.updateTimeToLive tableName true attributeName)
    return ()

/-- The body of the loop of `ensureTablesExist`. -/
def ensureDefinition (table : TableDefinition) : Boot Unit := do
  ensureTable table.create
  match table.ttlAttribute with
  | some attributeName => ensureTtl table.name attributeName
  | none => return ()

def ensureTables : List TableDefinition → Boot Unit
  | [] => pure ()
  | table :: tables => do
    ensureDefinition table
    ensureTables tables

def ensureTablesExist : Boot Unit := do
  ensureTables TABLE_DEFINITIONS
  log .log s!"Ensured DynamoDB tables ({TABLE_DEFINITIONS.length})"

def bootstrapFailure (err : Thrown) : Boot Unit :=
  let detail :=
    match err with
    | .error _ _ message => message
    | .other .. => "unknown error"
  log .error (s!"DynamoDB table bootstrap failed, continuing without ensured tables: {detail}. " ++
    "Bootstrap requires dynamodb:CreateTable, dynamodb:DescribeTable, " ++
    "dynamodb:DescribeTimeToLive, and dynamodb:UpdateTimeToLive on the configured endpoint.")

def connect : Boot Unit :=
  withBoundedRetry sleep
    (some fun attempt attempts _ =>
      log .warn s!"DynamoDB connect attempt {attempt}/{attempts} failed")
    { failureMessage := some "Failed to connect to DynamoDB after 10 attempts" } ping

def bootstrap : Boot Unit := do
  match ← ensureTablesExist.settle with
  | .ok _ => return ()
  | .error err => bootstrapFailure err

/-- `bootstrapConfig` is what `getDynamoBootstrapConfig` returns or throws. -/
def onModuleInit (bootstrapConfig : Except Thrown DynamoBootstrapConfig) : Boot Unit := do
  connect
  let config ← Script.ofExcept bootstrapConfig
  if config.shouldBootstrap then bootstrap
  else
    log .log ("Skipping DynamoDB table bootstrap for non-local endpoint host " ++ config.hostname)

end DynamoService

end NestBackend.Dynamo
