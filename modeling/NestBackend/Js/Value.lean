import NestBackend.Js.Number

namespace NestBackend.Js

inductive Json where
  | null
  | bool (b : Bool)
  | num (q : ℚ)
  | str (s : String)
  | arr (items : List Json)
  | obj (props : List (String × Json))

/-- `record[key]`, and with `isSome` the test `key in record`. -/
def Json.get? : Json → String → Option Json
  | .obj props, key => props.lookup key
  | _, _ => none

/-- `typeof value === 'object' && value !== null` on a parsed value. -/
def Json.isObject : Json → Bool
  | .arr _ | .obj _ => true
  | _ => false

/-- A value of TypeScript type `unknown`.  Objects hold data properties; `custom`
is an object with its own `toJSON`, which receives the key it is stored under. -/
inductive Value where
  | undefined
  | null
  | bool (b : Bool)
  | number (n : Number)
  | string (s : String)
  | bigint (n : Int)
  | symbol
  | function
  | array (items : List Value)
  | object (props : List (String × Value))
  | cyclic
  | throwing
  | custom (toJSON : String → Value)

def Value.isObject : Value → Bool
  | .array _ | .object _ | .cyclic | .throwing | .custom _ => true
  | _ => false

def Value.isUndefined : Value → Bool
  | .undefined => true
  | _ => false

def Value.strictEq : Value → String → Bool
  | .string t, s => t == s
  | _, _ => false

def Value.hasKey (key : String) : Value → Except String Bool
  | .object props => .ok (props.lookup key).isSome
  | .array _ | .cyclic | .throwing | .custom _ | .function => .ok false
  | _ => .error "TypeError: cannot use 'in' operator"

def Value.read (key : String) : Value → Except String Value
  | .undefined | .null => .error "TypeError: cannot read properties"
  | .object props => .ok ((props.lookup key).getD .undefined)
  | _ => .ok .undefined

inductive Serialized where
  | throws
  | omitted
  | value (j : Json)

mutual

/-- `SerializeJSONProperty`; `resolved` says that `toJSON` has been called already. -/
def Value.serialize (resolved : Bool) (key : String) : Value → Serialized
  | .undefined | .symbol | .function => .omitted
  | .null => .value .null
  | .bool b => .value (.bool b)
  | .number (.fin q) => .value (.num q)
  | .number _ => .value .null
  | .string s => .value (.str s)
  | .bigint _ | .cyclic | .throwing => .throws
  | .array items =>
    match serializeItems 0 items with
    | some js => .value (.arr js)
    | none => .throws
  | .object props =>
    match serializeProps props with
    | some js => .value (.obj js)
    | none => .throws
  | .custom toJSON =>
    if resolved then .value (.obj []) else Value.serialize true key (toJSON key)

def serializeItems (index : Nat) : List Value → Option (List Json)
  | [] => some []
  | v :: vs =>
    match Value.serialize false (toString index) v, serializeItems (index + 1) vs with
    | .throws, _ | _, none => none
    | .omitted, some js => some (.null :: js)
    | .value j, some js => some (j :: js)

def serializeProps : List (String × Value) → Option (List (String × Json))
  | [] => some []
  | (k, v) :: ps =>
    match Value.serialize false k v, serializeProps ps with
    | .throws, _ | _, none => none
    | .omitted, some js => some js
    | .value j, some js => some ((k, j) :: js)

end

mutual

def Value.ofJson : Json → Value
  | .null => .null
  | .bool b => .bool b
  | .num q => .number (.fin q)
  | .str s => .string s
  | .arr items => .array (ofItems items)
  | .obj props => .object (ofProps props)

def ofItems : List Json → List Value
  | [] => []
  | j :: js => Value.ofJson j :: ofItems js

def ofProps : List (String × Json) → List (String × Value)
  | [] => []
  | (k, j) :: ps => (k, Value.ofJson j) :: ofProps ps

end

def Json.read (j : Json) (key : String) : Value :=
  match j.get? key with
  | some v => .ofJson v
  | none => .undefined

theorem Json.read_of_get? {j v : Json} {key : String} (h : j.get? key = some v) :
    j.read key = .ofJson v := by
  rw [read, h]

mutual

@[simp] theorem serialize_ofJson (resolved : Bool) (key : String) (j : Json) :
    (Value.ofJson j).serialize resolved key = .value j := by
  cases j with
  | null => rfl
  | bool b => rfl
  | num q => rfl
  | str s => rfl
  | arr items => simp [Value.ofJson, Value.serialize, serializeItems_ofItems 0 items]
  | obj props => simp [Value.ofJson, Value.serialize, serializeProps_ofProps props]

@[simp] theorem serializeItems_ofItems (index : Nat) (js : List Json) :
    serializeItems index (ofItems js) = some js := by
  cases js with
  | nil => rfl
  | cons j js =>
    simp [ofItems, serializeItems, serialize_ofJson false _ j,
      serializeItems_ofItems (index + 1) js]

@[simp] theorem serializeProps_ofProps (ps : List (String × Json)) :
    serializeProps (ofProps ps) = some ps := by
  match ps with
  | [] => rfl
  | (k, j) :: ps =>
    simp [ofProps, serializeProps, serialize_ofJson false k j, serializeProps_ofProps ps]

end

/-- The text side of `JSON`: how a value is printed and which texts are read back.
`parse` is `none` where `JSON.parse` throws. -/
structure JsonText where
  print : Json → String
  parse : String → Option Json

/-- `JSON.parse(JSON.stringify(j))` gives `j` back. -/
def JsonText.Reads (J : JsonText) (j : Json) : Prop := J.parse (J.print j) = some j

inductive Stringified where
  | throws
  | undefined
  | text (s : String)
  deriving DecidableEq

def JsonText.stringify (J : JsonText) (v : Value) : Stringified :=
  match v.serialize false "" with
  | .throws => .throws
  | .omitted => .undefined
  | .value j => .text (J.print j)

@[simp] theorem JsonText.stringify_ofJson (J : JsonText) (j : Json) :
    J.stringify (.ofJson j) = .text (J.print j) := by
  simp [JsonText.stringify]

mutual

/-- Prints as `JSON.stringify` does when no string needs an escape and numbers are integers. -/
def Json.compact : Json → String
  | .null => "null"
  | .bool b => if b then "true" else "false"
  | .num q => toString q.num
  | .str s => "\"" ++ s ++ "\""
  | .arr items => "[" ++ compactItems items ++ "]"
  | .obj props => "\x7b" ++ compactProps props ++ "\x7d"

def compactItems : List Json → String
  | [] => ""
  | [j] => j.compact
  | j :: js => j.compact ++ "," ++ compactItems js

def compactProps : List (String × Json) → String
  | [] => ""
  | [(k, j)] => "\"" ++ k ++ "\":" ++ j.compact
  | (k, j) :: ps => "\"" ++ k ++ "\":" ++ j.compact ++ "," ++ compactProps ps

end

def JsonText.reading (values : List Json) : JsonText where
  print := Json.compact
  parse s := (values.map fun j => (j.compact, j)).lookup s

/-- What a `catch` clause catches: an `Error`, or any other value. -/
inductive Thrown where
  | error (name : String) (code : Option String) (message : String)
  | other (value : Value)

namespace Thrown

def ofMessage (message : String) : Thrown := .error "Error" none message

def isError : Thrown → Bool
  | .error .. => true
  | .other .. => false

end Thrown

/-- What foreign code throws, by what comes of looking at it: `instanceof Error`, its `message` in
a template, and `String(value)`.  Each of them may throw in turn. -/
inductive Raised where
  | mk (className : String) (isError : Except Raised Bool)
    (message asString : Except Raised String)

namespace Raised

def className : Raised → String
  | mk className _ _ _ => className

def isError : Raised → Except Raised Bool
  | mk _ isError _ _ => isError

def message : Raised → Except Raised String
  | mk _ _ message _ => message

def asString : Raised → Except Raised String
  | mk _ _ _ asString => asString

def error (className message : String) : Raised :=
  mk className (.ok true) (.ok message) (.ok (className ++ ": " ++ message))

end Raised

end NestBackend.Js
