import JetKvm.ConfigParser
import JetKvm.OrderedVisits

/-!
# Checking structs of any type

Translation of `internal/confparser/confparser.go` for every struct type made of
the kinds of fields that it knows, with any tags.  A struct type is given by its
fields and their tags, a struct by what the fields hold.  Structs nest to any
depth; the maps of fields and of conditions are gone through in any order, at
each depth anew.
-/

namespace JetKvm

namespace ConfStruct

open ConfParser (NullString NullInt NullBool Parsers validateType
  checkIfSliceContains)
open OrderedVisits

/-! ### Types and values -/

/-- The Go types that a field may have -/
inductive Kind where
  | string
  | nullString
  | strings
  | int
  | nullInt
  | bool
  | nullBool
  | struct
  | pointer
  deriving DecidableEq, Repr

/-- What a field holds; a list and a pointer may be nil. -/
inductive Value (Nested : Type) where
  | string (value : String)
  | nullString (value : NullString)
  | strings (value : Option (List String))
  | int (value : Int)
  | nullInt (value : NullInt)
  | bool (value : Bool)
  | nullBool (value : NullBool)
  | struct (nested : Nested)
  | pointer (nested : Option Nested)

/-- The tags as they are written; one that is absent is empty. -/
structure Tags where
  byDefault : String := ""
  required : String := ""
  requiredIf : String := ""
  oneOf : String := ""
  validateType : String := ""
  deriving DecidableEq, Repr

structure FieldType where
  name : String
  typeString : String
  tags : Tags := {}
  deriving DecidableEq, Repr

/-- A struct whose nested structs are told apart by `Nested` -/
structure Level (Nested : Type) where
  fields : List FieldType
  distinct : (fields.map FieldType.name).Nodup
  value : String → Value Nested

/-- The structs that nest less than `depth` deep -/
def Struct : (depth : Nat) → Type
  | 0 => Empty
  | depth + 1 => Level (Struct depth)

variable {Nested Order : Type}

namespace Value

def kind : Value Nested → Kind
  | .string _ => .string
  | .nullString _ => .nullString
  | .strings _ => .strings
  | .int _ => .int
  | .nullInt _ => .nullInt
  | .bool _ => .bool
  | .nullBool _ => .nullBool
  | .struct _ => .struct
  | .pointer _ => .pointer

def isEmpty : Value Nested → Bool
  | .nullString value => !value.valid
  | .nullInt value => !value.valid
  | .nullBool value => !value.valid
  | .strings value => (value.getD []).isEmpty
  | .pointer nested => nested.isNone
  | _ => false

end Value

def Kind.canUseOneOf : Kind → Bool
  | .string => true
  | .nullString => true
  | .strings => true
  | _ => false

/-! ### The tags -/

inductive Default where
  | string (value : String)
  | strings (value : List String)
  | int (value : Int)
  | bool (value : Bool)
  deriving DecidableEq, Repr

structure FieldConfig (Nested : Type) where
  name : String
  typeString : String
  required : Bool
  requiredIf : List (String × String)
  oneOf : List String
  validateTypes : List String
  defaults : Option Default
  currentValue : Value Nested

/-- `strings.Split` at a single character -/
def split (separator : Char) (text : String) : List String :=
  (text.toList.splitOn separator).map String.ofList

/-- `strings.SplitN` in two; `none` if there is nothing to split at -/
def splitInTwo (separator : Char) (text : String) : Option (String × String) :=
  if separator ∈ text.toList then
    some (String.ofList (text.toList.takeWhile (· ≠ separator)),
      String.ofList (text.toList.dropWhile (· ≠ separator)).tail)
  else none

def splitString (string : String) : List String :=
  if string = "" then [] else split ',' string

/-- `strconv.ParseBool` -/
def parseBool (string : String) : Option Bool :=
  if string ∈ ["1", "t", "T", "TRUE", "true", "True"] then some true
  else if string ∈ ["0", "f", "F", "FALSE", "false", "False"] then some false
  else none

section Parsing

variable (parsers : Parsers) (type : FieldType)

def FieldType.defaults (kind : Kind) : Except String (Option Default) :=
  let text := type.tags.byDefault
  let invalid : Except String (Option Default) :=
    .error ("invalid default value for field `" ++ type.name ++ "`: " ++ text)
  let number : Except String (Option Default) :=
    match parsers.atoi text with
    | some value => .ok (some (.int value))
    | none => invalid
  let truth : Except String (Option Default) :=
    match parseBool text with
    | some value => .ok (some (.bool value))
    | none => invalid
  if text = "" then .ok none
  else
    match kind with
    | .string => .ok (some (.string text))
    | .nullString => .ok (some (.string text))
    | .strings => .ok (some (.strings (split ',' text)))
    | .int => number
    | .nullInt => number
    | .bool => truth
    | .nullBool => truth
    | _ =>
        .error ("field `" ++ type.name ++
          "` cannot use default value: unsupported type: " ++ type.typeString)

/-- A condition on a field that already has one replaces it. -/
def addCondition (conditions : List (String × String)) (key asked : String) :
    List (String × String) :=
  conditions.filter (fun condition => condition.1 ≠ key) ++ [(key, asked)]

def FieldType.addPart (conditions : List (String × String)) (part : String) :
    Except String (List (String × String)) :=
  match splitInTwo '=' part with
  | some (key, asked) => .ok (addCondition conditions key asked)
  | none =>
      .error ("invalid required_if for field `" ++ type.name ++ "`: " ++
        type.tags.requiredIf)

def FieldType.requiredIf : Except String (List (String × String)) :=
  if type.tags.requiredIf = "" then .ok []
  else
    (split ',' type.tags.requiredIf).foldlM type.addPart []

def FieldType.config (value : Value Nested) :
    Except String (FieldConfig Nested) := do
  let defaults ← type.defaults parsers value.kind
  let requiredIf ← type.requiredIf
  let oneOf := splitString type.tags.oneOf
  if !value.kind.canUseOneOf && !oneOf.isEmpty then
    .error ("field `" ++ type.name ++ "` cannot use one_of: unsupported type: " ++
      type.typeString)
  else
    pure {
      name := type.name
      typeString := type.typeString
      required := (parseBool type.tags.required).getD false
      requiredIf := requiredIf
      oneOf := oneOf
      validateTypes := splitString type.tags.validateType
      defaults := defaults
      currentValue := value }

def Level.configs (s : Level Nested) :
    Except String (List (FieldConfig Nested)) :=
  s.fields.mapM fun type => type.config parsers (s.value type.name)

/-- None if a tag cannot be read -/
def Level.fieldConfigs (s : Level Nested) : List (FieldConfig Nested) :=
  (s.configs parsers).toOption.getD []

def Level.Parses (s : Level Nested) : Prop :=
  s.configs parsers = .ok (s.fieldConfigs parsers)

end Parsing

/-! ### What is read from the tags -/

/-- The conditions as they are written, also those that are replaced -/
def Tags.conditions (tags : Tags) : List (String × String) :=
  (splitString tags.requiredIf).filterMap (splitInTwo '=')

theorem mem_addCondition {conditions : List (String × String)} {key asked : String}
    {condition : String × String}
    (member : condition ∈ addCondition conditions key asked) :
    condition ∈ conditions ∨ condition = (key, asked) := by
  rw [addCondition, List.mem_append, List.mem_singleton] at member
  exact member.imp_left List.mem_of_mem_filter

theorem distinct_addCondition {conditions : List (String × String)}
    (key asked : String) (distinct : (conditions.map Prod.fst).Nodup) :
    ((addCondition conditions key asked).map Prod.fst).Nodup := by
  rw [addCondition, List.map_append, List.nodup_append]
  refine ⟨distinct.sublist (List.filter_sublist.map _), by simp, ?_⟩
  intro first firstMember second secondMember same
  obtain ⟨condition, member, rfl⟩ := List.mem_map.mp firstMember
  simp only [List.map_cons, List.map_nil, List.mem_singleton] at secondMember
  have apart := (List.mem_filter.mp member).2
  simp [same, secondMember] at apart

section Read

variable {parsers : Parsers} {type : FieldType}

theorem foldlM_addPart {parts : List String}
    {conditions later : List (String × String)}
    (read : parts.foldlM type.addPart conditions = .ok later)
    (distinct : (conditions.map Prod.fst).Nodup) :
    (later.map Prod.fst).Nodup ∧
      ∀ condition ∈ later, condition ∈ conditions ∨
        condition ∈ parts.filterMap (splitInTwo '=') := by
  induction parts generalizing conditions with
  | nil =>
      cases read
      exact ⟨distinct, fun condition member => .inl member⟩
  | cons part parts ih =>
      rw [List.foldlM_cons, FieldType.addPart] at read
      cases split : splitInTwo '=' part with
      | none =>
          rw [split] at read
          cases read
      | some condition =>
          obtain ⟨key, asked⟩ := condition
          rw [split] at read
          obtain ⟨distinctLater, members⟩ :=
            ih read (distinct_addCondition key asked distinct)
          refine ⟨distinctLater, fun condition member => ?_⟩
          rw [List.filterMap_cons, split, List.mem_cons]
          rcases members condition member with added | later
          · rcases mem_addCondition added with before | now
            · exact .inl before
            · exact .inr (.inl now)
          · exact .inr (.inr later)

theorem FieldType.requiredIf_eq_ok {conditions : List (String × String)}
    (read : type.requiredIf = .ok conditions) :
    (conditions.map Prod.fst).Nodup ∧
      ∀ condition ∈ conditions, condition ∈ type.tags.conditions := by
  rw [FieldType.requiredIf] at read
  split at read
  · cases read
    exact ⟨List.nodup_nil, nofun⟩
  · rename_i written
    obtain ⟨distinct, members⟩ := foldlM_addPart read List.nodup_nil
    refine ⟨distinct, fun condition member => ?_⟩
    rw [Tags.conditions, splitString, if_neg written]
    exact (members condition member).resolve_left nofun

variable {value : Value Nested} {config : FieldConfig Nested}

theorem FieldType.config_eq_ok (read : type.config parsers value = .ok config) :
    type.defaults parsers value.kind = .ok config.defaults ∧
      type.requiredIf = .ok config.requiredIf ∧
      (value.kind.canUseOneOf = true ∨ config.oneOf = []) ∧
      config.name = type.name ∧ config.currentValue = value ∧
      config.required = (parseBool type.tags.required).getD false ∧
      config.oneOf = splitString type.tags.oneOf ∧
      config.validateTypes = splitString type.tags.validateType := by
  rw [FieldType.config] at read
  cases defaults : type.defaults parsers value.kind with
  | error message =>
      rw [defaults] at read
      cases read
  | ok default =>
      cases requiredIf : type.requiredIf with
      | error message =>
          rw [defaults, requiredIf] at read
          cases read
      | ok conditions =>
          rw [defaults, requiredIf] at read
          change (if _ then _ else _) = _ at read
          split at read
          · cases read
          · rename_i suits
            cases read
            refine ⟨rfl, rfl, ?_, rfl, rfl, rfl, rfl, rfl⟩
            simp only [Bool.and_eq_true, Bool.not_eq_true', not_and,
              Bool.not_eq_false, List.isEmpty_iff] at suits
            exact Classical.or_iff_not_imp_left.mpr fun other =>
              suits (by simpa using other)

/-- Only the type of the value matters. -/
theorem FieldType.config_of_kind {other : Value Nested}
    (read : type.config parsers value = .ok config)
    (same : other.kind = value.kind) :
    type.config parsers other = .ok { config with currentValue := other } := by
  rw [FieldType.config] at read ⊢
  rw [same]
  cases defaults : type.defaults parsers value.kind with
  | error message =>
      rw [defaults] at read
      cases read
  | ok default =>
      cases requiredIf : type.requiredIf with
      | error message =>
          rw [defaults, requiredIf] at read
          cases read
      | ok conditions =>
          rw [defaults, requiredIf] at read
          change (if _ then _ else _) = _ at read
          change (if _ then _ else _) = _
          split at read
          · cases read
          · rename_i suits
            cases read
            rw [if_neg suits]
            rfl

end Read

/-! ### The checks of one field -/

/-- What a condition finds: that it is met, a failed type assertion, or nothing.
Only texts are compared with what is asked for. -/
def Value.findsMet (asked : String) : Value Nested → Option (Checked Bool)
  | .string value => if value = asked then some (.ok true) else none
  | .int _ => some .panic
  | .nullString value =>
      if value.valid ∧ value.string = asked then some (.ok true) else none
  | .nullInt value => if value.valid then some .panic else none
  | _ => none

def findsMet (configs : List (FieldConfig Nested)) (condition : String × String) :
    Option (Checked Bool) :=
  match configs.find? fun config => config.name = condition.1 with
  | none =>
      some (.error ("required_if field `" ++ condition.1 ++ "` not found"))
  | some other => other.currentValue.findsMet condition.2

/-- A default is of the type of its field. -/
def Value.setTo : Value Nested → Option Default → Value Nested
  | .nullString _, some (.string value) => .nullString (.of value)
  | .nullInt _, some (.int value) => .nullInt ⟨value, true⟩
  | .nullBool _, some (.bool value) => .nullBool ⟨value, true⟩
  | .strings _, some (.strings value) => .strings (some value)
  | value, _ => value

namespace FieldConfig

variable (config : FieldConfig Nested)

def isRequired (configs : List (FieldConfig Nested)) (rank : String → Nat) :
    Checked Bool :=
  if config.required then .ok true
  else
    ((inOrder Prod.fst rank config.requiredIf).findSome?
      (findsMet configs)).getD (.ok false)

def validateRequired (configs : List (FieldConfig Nested))
    (rank : String → Nat) : Checked Bool :=
  match config.isRequired configs rank with
  | .ok true =>
      if config.currentValue.isEmpty then
        .error ("field `" ++ config.name ++ "` is required")
      else .ok true
  | other => other

/-- The value after `checkIfFieldNeedsUpdate` -/
def updated : Value Nested :=
  if config.currentValue.isEmpty then config.currentValue.setTo config.defaults
  else config.currentValue

def validateOneOf : Except String Unit :=
  if config.oneOf.isEmpty then .ok ()
  else
    let check (val : List String) : Except String Unit :=
      if checkIfSliceContains val config.oneOf then .ok ()
      else
        .error ("field `" ++ config.name ++
          "` is not one of the allowed values: " ++
          ", ".intercalate config.oneOf ++ ", current value: " ++
          ", ".intercalate val)
    match config.updated with
    | .string value => check [value]
    | .nullString value => check [value.string]
    | .strings value => check (value.getD [])
    | _ =>
        .error ("field `" ++ config.name ++
          "` cannot use one_of: unsupported type: " ++ config.typeString)

variable (parsers : Parsers)

def validateSingleValue (fieldRef val : String) : Except String Unit :=
  config.validateTypes.forM (validateType parsers fieldRef val)

/-- A value that was filled in is not checked. -/
def validateField : Except String Unit :=
  if config.validateTypes.isEmpty || config.currentValue.isEmpty then .ok ()
  else
    let single (val : String) : Except String Unit :=
      if val = "" then .ok ()
      else
        config.validateSingleValue parsers ("field `" ++ config.name ++ "`") val
    match config.updated with
    | .strings items =>
        ((items.getD []).zipIdx).forM fun item =>
          config.validateSingleValue parsers
            ("field `" ++ config.name ++ "[" ++ toString item.2 ++ "]`") item.1
    | .string value => single value
    | .nullString value => single value.string
    | .pointer _ =>
        .error ("field `" ++ config.name ++
          "` cannot use validate_type: unsupported type: reflect.Value")
    | _ =>
        .error ("field `" ++ config.name ++
          "` cannot use validate_type: unsupported type: " ++ config.typeString)

def validateValue : Except String Unit := do
  config.validateOneOf
  config.validateField parsers

/-- `validate` and `populate`: what the field holds afterwards, and how its check
ends.  A struct that is not behind a pointer is not a `reflect.Value`. -/
def visit (nested : Order → Nested → Nested × Checked Unit)
    (configs : List (FieldConfig Nested)) (choice : (String → Nat) × Order) :
    Value Nested × Checked Unit :=
  match config.validateRequired configs choice.1 with
  | .error message => (config.currentValue, .error message)
  | .panic => (config.currentValue, .panic)
  | .ok required =>
      match config.validateValue parsers with
      | .error message => (config.currentValue, .error message)
      | .ok () =>
          match required, config.currentValue with
          | true, .struct inner => (.struct inner, .panic)
          | true, .pointer (some inner) =>
              let left := nested choice.2 inner
              (.pointer (some left.1), left.2)
          | _, _ => (config.updated, .ok ())

end FieldConfig

/-! ### The checks of a struct -/

section Structs

variable (parsers : Parsers)

/-- How the fields are ordered, and for each the conditions and what is nested -/
abbrev LevelPlan (Order : Type) := Plan String ((String → Nat) × Order)

def Level.setDefaultsAndValidate
    (nested : Order → Nested → Nested × Checked Unit) (plan : LevelPlan Order)
    (s : Level Nested) : Level Nested × Checked Unit :=
  match s.configs parsers with
  | .error message => (s, .error message)
  | .ok configs =>
      let left := visitInOrder FieldConfig.name
        (fun choice config => config.visit parsers nested configs choice) plan
        configs s.value
      ({ s with value := left.1 }, left.2)

def Orders : (depth : Nat) → Type
  | 0 => Unit
  | depth + 1 => LevelPlan (Orders depth)

def setDefaultsAndValidate :
    (depth : Nat) → Orders depth → Struct depth → Struct depth × Checked Unit
  | 0, _, s => nomatch s
  | depth + 1, plan, s =>
      Level.setDefaultsAndValidate parsers (setDefaultsAndValidate depth) plan s

end Structs

end ConfStruct

end JetKvm
