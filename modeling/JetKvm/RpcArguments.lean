import JetKvm.GoFloat64

/-!
# Arguments of the JSON-RPC handlers

Translation of `riskyCallRPCHandler` of `jsonrpc.go`: how the parameters of a
request become the arguments of its handler. A number of the request is read as
a double before it gets here; what the reflection package does with one is
`convertTo`.
-/

namespace JetKvm

namespace RpcArguments

open GoFloat64

/-- The integer kinds of Go -/
inductive IntKind where
  | int | int8 | int16 | int32 | int64
  | uint | uint8 | uint16 | uint32 | uint64 | uintptr
  deriving DecidableEq, Repr

def IntKind.signed : IntKind → Bool
  | .int | .int8 | .int16 | .int32 | .int64 => true
  | _ => false

/-- The integer is one of those with that many bits. -/
def InBits (signed : Bool) (bits : ℕ) (n : ℤ) : Prop :=
  if signed then -2 ^ (bits - 1) ≤ n ∧ n < 2 ^ (bits - 1)
  else 0 ≤ n ∧ n < 2 ^ bits

/-- Keep the low bits. -/
def lowBits (signed : Bool) (bits : ℕ) (n : ℤ) : ℤ :=
  if signed then n.bmod (2 ^ bits) else n % 2 ^ bits

/-- `int` has 64 bits on a wide machine, and 32 on the device. A conversion of a
double gives its integer part where that is an integer of the type, and is left
to the machine elsewhere. -/
structure Machine where
  wide : Bool
  toInteger : Bool → ℕ → ℚ → ℤ
  inBits_toInteger : ∀ signed bits value, 0 < bits →
    InBits signed bits (toInteger signed bits value)
  toInteger_of_inBits : ∀ signed bits value, 0 < bits →
    InBits signed bits (truncated value) →
      toInteger signed bits value = truncated value

def IntKind.bits (machine : Machine) : IntKind → ℕ
  | .int | .uint | .uintptr => if machine.wide then 64 else 32
  | .int8 | .uint8 => 8
  | .int16 | .uint16 => 16
  | .int32 | .uint32 => 32
  | .int64 | .uint64 => 64

def IntKind.InRange (machine : Machine) (kind : IntKind) (n : ℤ) : Prop :=
  InBits kind.signed (kind.bits machine) n

/-- The types of parameters; a type of strings or a structure has its name. -/
inductive GoType where
  | int (kind : IntKind)
  | float64
  | bool
  | string (name : String)
  | struct (name : String)
  | slice (elem : GoType)
  deriving DecidableEq, Repr

inductive Json where
  | null
  | bool (value : Bool)
  | number (value : ℚ)
  | string (text : String)
  | array (elements : List Json)
  | object (fields : List (String × Json))

mutual

/-- The numbers are read as doubles, which fails for one that is too large. -/
def Json.read : Json → Option Json
  | .null => some .null
  | .bool value => some (.bool value)
  | .number value => (parseFloat value).map .number
  | .string text => some (.string text)
  | .array elements => (readElements elements).map .array
  | .object fields => (readFields fields).map .object

def readElements : List Json → Option (List Json)
  | [] => some []
  | element :: elements => do
      let first ← element.read
      let rest ← readElements elements
      some (first :: rest)

def readFields : List (String × Json) → Option (List (String × Json))
  | [] => some []
  | (name, value) :: fields => do
      let first ← value.read
      let rest ← readFields fields
      some ((name, first) :: rest)

end

/-- `Kind.String` -/
def IntKind.name : IntKind → String
  | .int => "int" | .int8 => "int8" | .int16 => "int16" | .int32 => "int32"
  | .int64 => "int64" | .uint => "uint" | .uint8 => "uint8"
  | .uint16 => "uint16" | .uint32 => "uint32" | .uint64 => "uint64"
  | .uintptr => "uintptr"

/-- `Type.String` -/
def GoType.name : GoType → String
  | .int kind => kind.name
  | .float64 => "float64"
  | .bool => "bool"
  | .string name | .struct name => name
  | .slice elem => "[]" ++ elem.name

/-- `Type.Kind` -/
def GoType.kind : GoType → String
  | .int kind => kind.name
  | .float64 => "float64"
  | .bool => "bool"
  | .string _ => "string"
  | .struct _ => "struct"
  | .slice _ => "slice"

/-- The type of a value that was read into an `any`; a null has none. -/
def Json.typeName : Json → String
  | .null => "nil"
  | .bool _ => "bool"
  | .number _ => "float64"
  | .string _ => "string"
  | .array _ => "[]interface \x7b\x7d"
  | .object _ => "map[string]interface \x7b\x7d"

inductive Value (Struct : Type) where
  | int (n : ℤ)
  | float64 (value : ℚ)
  | bool (value : Bool)
  | string (text : String)
  | struct (value : Struct)
  | slice (elements : List (Value Struct))

/-- What the JSON package does with the structures of the handlers, by their
names, and their zero values -/
structure Structs (Struct : Type) where
  marshal : List (String × Json) → Except String String
  unmarshal : String → String → Except String Struct
  zero : String → Struct

/-- An error that is returned, or that is recovered from -/
inductive Failure where
  | error (message : String)
  | panic (message : String)
  deriving DecidableEq, Repr

section Calls

variable {Struct : Type} (machine : Machine) (structs : Structs Struct)

/-- `reflect.Zero` -/
def zero : GoType → Value Struct
  | .int _ => .int 0
  | .float64 => .float64 0
  | .bool => .bool false
  | .string _ => .string ""
  | .struct name => .struct (structs.zero name)
  | .slice _ => .slice []

/-- A double is converted to 64 bits, of which the low ones are kept. -/
def store (kind : IntKind) (value : ℚ) : ℤ :=
  lowBits kind.signed (kind.bits machine)
    (machine.toInteger kind.signed 64 value)

/-- `Value.Convert`, if the type of the value is `ConvertibleTo` the other -/
def convertTo : Json → GoType → Option (Value Struct)
  | .bool value, .bool => some (.bool value)
  | .number value, .int kind => some (.int (store machine kind value))
  | .number value, .float64 => some (.float64 value)
  | .string text, .string _ => some (.string text)
  | .string text, .slice (.int .uint8) =>
      some (.slice (text.toUTF8.data.toList.map fun byte => .int byte.toNat))
  | .string text, .slice (.int .int32) =>
      some (.slice (text.toList.map fun char => .int char.toNat))
  | _, _ => none

/-- `Value.Type` of the zero value -/
def zeroValuePanic : Failure :=
  .panic "reflect: call of reflect.Value.Type on zero Value"

/-- An element that cannot be converted, with the check of the range that is
made for some of them -/
def mismatchedElement (paramName : String) (elem : GoType) (value : Json) :
    Except Failure (Value Struct) :=
  match value, elem with
  | .number number, .int .uint8 =>
      let intValue := machine.toInteger true (IntKind.int.bits machine) number
      if intValue < 0 ∨ 255 < intValue then
        .error (.error ("value out of range for uint8: " ++ toString intValue ++
          " for parameter " ++ paramName))
      else .ok (.int intValue)
  | _, _ =>
      .error (.error ("invalid element type in slice for parameter " ++
        paramName ++ ": from " ++ value.typeName ++ " to " ++ elem.name))

def convertElement (paramName : String) (elem : GoType) :
    Json → Except Failure (Value Struct)
  | .null => .error zeroValuePanic
  | value =>
      match convertTo machine value elem with
      | some converted => .ok converted
      | none => mismatchedElement machine paramName elem value

/-- A parameter that cannot be converted -/
def mismatchedParameter (paramName : String) (paramType : GoType)
    (value : Json) : Except Failure (Value Struct) :=
  match paramType, value with
  | .slice elem, .array elements =>
      (elements.mapM (convertElement machine paramName elem)).map .slice
  | .struct name, .object fields =>
      match structs.marshal fields with
      | .error err =>
          .error (.error ("failed to marshal map to JSON: " ++ err ++
            " for parameter " ++ paramName))
      | .ok jsonData =>
          match structs.unmarshal name jsonData with
          | .error err =>
              .error (.error ("failed to unmarshal JSON into struct: " ++ err ++
                " for parameter " ++ paramName))
          | .ok newStruct => .ok (.struct newStruct)
  | _, _ =>
      .error (.error ("invalid parameter type for: " ++ paramName ++
        ", type: " ++ paramType.kind))

def convertParameter (paramName : String) (paramType : GoType) :
    Json → Except Failure (Value Struct)
  | .null => .error zeroValuePanic
  | value =>
      match convertTo machine value paramType with
      | some converted => .ok converted
      | none => mismatchedParameter machine structs paramName paramType value

/-- What a handler returns: a value, or an error that may be nil -/
inductive Returned (Result : Type) where
  | value (result : Result)
  | error (err : Option String)

/-- An entry of `rpcHandlers`, with the types of the parameters of its function
-/
structure RPCHandler (Struct Result : Type) where
  types : List GoType
  func : List (Value Struct) → List (Returned Result)
  params : List String := []
  optionalParams : List String := []

variable {Result : Type} (handler : RPCHandler Struct Result)

/-- The types and the names of the parameters of the handlers in `rpcHandlers`
that are given integers; none of these is optional. -/
def integerHandlers : List (String × List GoType × List String) :=
  [("keyboardReport",
      [.int .uint8, .slice (.int .uint8)], ["modifier", "keys"]),
    ("keypressReport", [.int .uint8, .bool], ["key", "press"]),
    ("absMouseReport",
      [.int .int, .int .int, .int .uint8], ["x", "y", "buttons"]),
    ("relMouseReport",
      [.int .int8, .int .int8, .int .uint8], ["dx", "dy", "buttons"]),
    ("wheelReport", [.int .int8, .int .int8], ["wheelY", "wheelX"]),
    ("gamepadReport",
      [.int .int, .int .uint8, .int .uint8, .int .uint8, .int .uint8,
        .int .uint8, .int .uint8, .int .uint32],
      ["padIndex", "lx", "ly", "rx", "ry", "lt", "rt", "buttons"]),
    ("setVideoSleepMode", [.int .int], ["duration"]),
    ("setDCRestoreState", [.int .int], ["state"]),
    ("startStorageFileUpload",
      [.string "string", .int .int64], ["filename", "size"])]

/-- The handler of that name, with its function -/
def integerHandler (name : String)
    (func : List (Value Struct) → List (Returned Result)) :
    RPCHandler Struct Result :=
  let (types, params) := (integerHandlers.lookup name).getD ([], [])
  { types := types, func := func, params := params }

def RPCHandler.allParamNames : List String :=
  handler.params ++ handler.optionalParams

/-- The parameters of the request are a map. -/
def argument (params : List (String × Json)) (paramName : String)
    (paramType : GoType) : Except Failure (Value Struct) :=
  match params.lookup paramName with
  | none =>
      if paramName ∈ handler.optionalParams then .ok (zero structs paramType)
      else .error (.error ("missing parameter: " ++ paramName))
  | some paramValue =>
      convertParameter machine structs paramName paramType paramValue

def arguments (params : List (String × Json)) :
    Except Failure (List (Value Struct)) :=
  if handler.allParamNames.length ≠ handler.types.length then
    .error (.error ("mismatch between handler parameters (" ++
      toString handler.types.length ++ ") and defined parameter names (" ++
      toString handler.allParamNames.length ++ ")"))
  else
    (handler.allParamNames.zip handler.types).mapM fun (paramName, paramType) =>
      argument machine structs handler params paramName paramType

/-- What is made of the results of the handler -/
def returned : List (Returned Result) → Except String (Option Result)
  | [] => .ok none
  | [.error none] => .ok none
  | [.error (some err)] => .error err
  | [.value result] => .ok (some result)
  | [_, .error (some err)] => .error err
  | [.value result, _] => .ok (some result)
  | [.error _, _] => .ok none
  | results =>
      .error ("too many return values from handler: " ++
        toString results.length)

inductive Outcome (Struct Result : Type) where
  | failed (failure : Failure)
  | called (args : List (Value Struct)) (reply : Except String (Option Result))

def riskyCallRPCHandler (params : List (String × Json)) :
    Outcome Struct Result :=
  match arguments machine structs handler params with
  | .error failure => .failed failure
  | .ok args => .called args (returned (handler.func args))

/-- The call of the handler for a request as it was sent: `onRPCMessage` does
not get to it if the request cannot be read. -/
def callRequest (params : List (String × Json)) : Outcome Struct Result :=
  match readFields params with
  | none => .failed (.error "Parse error")
  | some params => riskyCallRPCHandler machine structs handler params

end Calls

end RpcArguments

end JetKvm
