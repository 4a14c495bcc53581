import Mathlib.Data.List.Basic

namespace NestBackend.Dynamo

def TTL_ATTRIBUTE_NAME : String := "expiresAt"

inductive ScalarAttributeType where
  | S
  | N
  | B
  deriving DecidableEq

structure AttributeDefinition where
  attributeName : String
  attributeType : ScalarAttributeType
  deriving DecidableEq

inductive KeyType where
  | HASH
  | RANGE
  deriving DecidableEq

structure KeySchemaElement where
  attributeName : String
  keyType : KeyType
  deriving DecidableEq

inductive ProjectionType where
  | ALL
  | KEYS_ONLY
  | INCLUDE
  deriving DecidableEq

structure GlobalSecondaryIndex where
  indexName : String
  keySchema : List KeySchemaElement
  projection : ProjectionType
  deriving DecidableEq

inductive BillingMode where
  | PROVISIONED
  | PAY_PER_REQUEST
  deriving DecidableEq

structure CreateTableCommandInput where
  tableName : Option String
  attributeDefinitions : List AttributeDefinition
  keySchema : List KeySchemaElement
  globalSecondaryIndexes : Option (List GlobalSecondaryIndex) := none
  billingMode : Option BillingMode := none
  deriving DecidableEq

structure TableDefinition where
  create : CreateTableCommandInput
  ttlAttribute : Option String
  deriving DecidableEq

def CreateTableCommandInput.name (create : CreateTableCommandInput) : String :=
  create.tableName.getD ""

def TableDefinition.name (table : TableDefinition) : String := table.create.name

def defineTable (create : CreateTableCommandInput) (ttlAttribute : Option String := none) :
    TableDefinition where
  create := { create with billingMode := some .PAY_PER_REQUEST }
  ttlAttribute := ttlAttribute

def TABLE_DEFINITIONS : List TableDefinition :=
  [defineTable
      { tableName := some "User"
        attributeDefinitions := [⟨"userId", .S⟩]
        keySchema := [⟨"userId", .HASH⟩] },
    defineTable
      { tableName := some "Clients"
        attributeDefinitions := [⟨"clientId", .S⟩, ⟨"userId", .S⟩]
        keySchema := [⟨"clientId", .HASH⟩]
        globalSecondaryIndexes :=
          some [⟨"ClientsByUser", [⟨"userId", .HASH⟩, ⟨"clientId", .RANGE⟩], .ALL⟩] }
      (some TTL_ATTRIBUTE_NAME),
    defineTable
      { tableName := some "LastSeen"
        attributeDefinitions := [⟨"userId", .S⟩]
        keySchema := [⟨"userId", .HASH⟩] },
    defineTable
      { tableName := some "Chat"
        attributeDefinitions := [⟨"chatId", .S⟩]
        keySchema := [⟨"chatId", .HASH⟩] },
    defineTable
      { tableName := some "Member"
        attributeDefinitions := [⟨"chatId", .S⟩, ⟨"userId", .S⟩]
        keySchema := [⟨"chatId", .HASH⟩, ⟨"userId", .RANGE⟩]
        globalSecondaryIndexes :=
          some [⟨"MembersByUser", [⟨"userId", .HASH⟩, ⟨"chatId", .RANGE⟩], .ALL⟩] },
    defineTable
      { tableName := some "Inbox"
        attributeDefinitions := [⟨"clientId", .S⟩, ⟨"messageId", .S⟩]
        keySchema := [⟨"clientId", .HASH⟩, ⟨"messageId", .RANGE⟩] }
      (some TTL_ATTRIBUTE_NAME),
    defineTable
      { tableName := some "Message"
        attributeDefinitions := [⟨"messageId", .S⟩, ⟨"chatId", .S⟩, ⟨"timestamp", .N⟩]
        keySchema := [⟨"messageId", .HASH⟩]
        globalSecondaryIndexes :=
          some [⟨"MessagesByChat", [⟨"chatId", .HASH⟩, ⟨"timestamp", .RANGE⟩], .ALL⟩] }
      (some TTL_ATTRIBUTE_NAME)]

theorem nodup_names : (TABLE_DEFINITIONS.map (·.name)).Nodup := by decide

theorem ttlAttribute_eq {table : TableDefinition} {attributeName : String}
    (h : table ∈ TABLE_DEFINITIONS) (hattr : table.ttlAttribute = some attributeName) :
    attributeName = TTL_ATTRIBUTE_NAME := by
  have hall : ∀ table ∈ TABLE_DEFINITIONS, table.ttlAttribute.all (· = TTL_ATTRIBUTE_NAME) := by
    decide
  simpa [hattr] using hall table h

end NestBackend.Dynamo
