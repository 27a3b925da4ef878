import JetKvm.ConfigOutcomes

/-!
# What an accepted configuration promises

What the tags of a struct ask of the values of its fields, told without the
check; and for which structs the check sees to it, however the fields and the
conditions are ordered.
-/

namespace JetKvm

namespace ConfStruct

open ConfParser (Parsers validateType checkIfSliceContains)
open OrderedVisits

variable {Nested : Type}

/-! ### What the tags ask for -/

namespace Value

/-- The texts that a field holds -/
def elements : Value Nested → List String
  | .string value => [value]
  | .nullString value => if value.valid then [value.string] else []
  | .strings value => value.getD []
  | _ => []

/-- Also an empty text, which the check never takes to be empty -/
def Blank : Value Nested → Prop
  | .string value => value = ""
  | value => value.isEmpty = true

variable (parsers : Parsers)

def Is (asked : String) : Value Nested → Prop
  | .string value => value = asked
  | .nullString value => value.valid = true ∧ value.string = asked
  | .strings value => asked ∈ value.getD []
  | .int value => parsers.atoi asked = some value
  | .nullInt value => value.valid = true ∧ parsers.atoi asked = some value.int64
  | .bool value => parseBool asked = some value
  | .nullBool value => value.valid = true ∧ parseBool asked = some value.bool
  | _ => False

end Value

section Promises

variable (parsers : Parsers)

def HasType (text kind : String) : Prop := validateType parsers "" text kind = .ok ()

def Level.Holds (s : Level Nested) (condition : String × String) : Prop :=
  ∃ type ∈ s.fields, type.name = condition.1 ∧
    (s.value type.name).Is parsers condition.2

def Level.Requires (s : Level Nested) (type : FieldType) : Prop :=
  parseBool type.tags.required = some true ∨
    ∃ condition ∈ type.tags.conditions, s.Holds parsers condition

/-- What is asked of one field.  Structs that are not required count if
`everywhere` says so. -/
structure Level.Keeps (everywhere : Bool) (valid : Nested → Prop)
    (s : Level Nested) (type : FieldType) : Prop where
  required : s.Requires parsers type → ¬(s.value type.name).Blank
  listed : type.tags.oneOf ≠ "" → ∀ text ∈ (s.value type.name).elements,
    text ∈ splitString type.tags.oneOf
  typed : ∀ text ∈ (s.value type.name).elements, text ≠ "" →
    ∀ kind ∈ splitString type.tags.validateType, HasType parsers text kind
  nested : everywhere = true ∨ s.Requires parsers type →
    ∀ inner ∈ (s.value type.name).present, valid inner

def Valid (everywhere : Bool) : (depth : Nat) → Struct depth → Prop
  | 0, _ => True
  | depth + 1, s => ∀ type ∈ Level.fields s,
      Level.Keeps parsers everywhere (Valid everywhere depth) s type

/-- No order makes it panic, and what it accepts is as it should be. -/
def Sound (everywhere : Bool) (depth : Nat) (s : Struct depth) : Prop :=
  ∀ order, (setDefaultsAndValidate parsers depth order s).2 ≠ .panic ∧
    ((setDefaultsAndValidate parsers depth order s).2 = .ok () →
      Valid parsers everywhere depth
        (setDefaultsAndValidate parsers depth order s).1)

end Promises

/-! ### What the check does not see -/

section Gaps

variable (parsers : Parsers) (configs : List (FieldConfig Nested))

/-- The condition holds once the defaults are filled in. -/
def Meets (condition : String × String) : Prop :=
  ∃ other ∈ configs, other.name = condition.1 ∧
    other.updated.Is parsers condition.2

/-- A condition that is replaced by another one on the same field, or is one on a
list or a truth value, or on a field that was empty -/
def Unseen (config : FieldConfig Nested) (condition : String × String) : Prop :=
  condition ∉ config.requiredIf ∨
    ∃ other ∈ configs, other.name = condition.1 ∧
      (other.currentValue.kind ∈ [Kind.strings, Kind.bool, Kind.nullBool] ∨
        other.currentValue.isEmpty = true)

/-- What has to be so because the check does not see to it.  `sound` tells of a
nested struct that its check sees to the rest, `valid` that there is none. -/
structure Covered (everywhere : Bool) (sound valid : Nested → Prop)
    (type : FieldType) (config : FieldConfig Nested) : Prop where
  noEmptyText : config.Asked configs → config.currentValue ≠ .string ""
  unseen : ¬config.Asked configs → ∀ condition ∈ type.tags.conditions,
    Unseen configs config condition → Meets parsers configs condition →
      ¬config.updated.Blank ∧ ∀ inner ∈ config.currentValue.present, valid inner
  everyItem : config.oneOf ≠ [] → config.currentValue.kind = .strings →
    ∀ text ∈ config.updated.elements, text ∈ config.oneOf
  filledIn : config.currentValue.isEmpty = true →
    ∀ text ∈ config.updated.elements, text ≠ "" →
      ∀ kind ∈ config.validateTypes, HasType parsers text kind
  checked : config.Asked configs →
    ∀ inner ∈ config.currentValue.present, sound inner
  unchecked : everywhere = true → ¬config.Asked configs →
    ∀ inner ∈ config.currentValue.present, valid inner

end Gaps

def CoversRest (parsers : Parsers) (everywhere : Bool) :
    (depth : Nat) → Struct depth → Prop
  | 0, _ => True
  | depth + 1, s => ∀ type ∈ Level.fields s, ∀ config,
      type.config parsers (Level.value s type.name) = .ok config →
        Covered parsers (Level.fieldConfigs parsers s) everywhere
          (CoversRest parsers everywhere depth) (Valid parsers everywhere depth)
          type config

/-! ### Values that are filled in -/

section Filled

variable {parsers : Parsers} {configs : List (FieldConfig Nested)}
variable {config : FieldConfig Nested} {outcomes : Outcomes Nested}

theorem hasType_iff (fieldRef text kind : String) :
    validateType parsers fieldRef text kind = .ok () ↔
      HasType parsers text kind := by
  unfold HasType validateType
  split <;> first | (split <;> simp) | simp

theorem is_filled_iff (asked : String) :
    (config.filled configs outcomes).Is parsers asked ↔
      config.updated.Is parsers asked := by
  rcases @filled_cases _ configs config outcomes with same |
    ⟨inner, -, -, updated, filled⟩
  · rw [same]
  · rw [updated, filled]
    rfl

theorem elements_filled :
    (config.filled configs outcomes).elements = config.updated.elements := by
  rcases @filled_cases _ configs config outcomes with same |
    ⟨inner, -, -, updated, filled⟩
  · rw [same]
  · rw [updated, filled]
    rfl

theorem blank_filled_iff :
    (config.filled configs outcomes).Blank ↔ config.updated.Blank := by
  rcases @filled_cases _ configs config outcomes with same |
    ⟨inner, -, -, updated, filled⟩
  · rw [same]
  · rw [updated, filled]
    simp [Value.Blank, Value.isEmpty]

end Filled

theorem blank_iff_of_not_empty {value : Value Nested}
    (notEmpty : value.isEmpty = false) : value.Blank ↔ value = .string "" := by
  cases value <;> simp_all [Value.Blank]

/-! ### What the check sees -/

section Seen

variable {parsers : Parsers} {configs : List (FieldConfig Nested)}
variable {config : FieldConfig Nested} {outcomes : Outcomes Nested}

theorem findsMet_of_mem {condition : String × String}
    {other : FieldConfig Nested}
    (distinct : (configs.map FieldConfig.name).Nodup) (member : other ∈ configs)
    (named : other.name = condition.1) :
    findsMet configs condition = other.currentValue.findsMet condition.2 := by
  rw [findsMet, ← named, find?_key distinct member]

theorem is_of_findsMet {value : Value Nested} {asked : String}
    (met : value.findsMet asked = some (.ok true)) : value.Is parsers asked := by
  cases value with
  | string _ | nullString _ =>
      simp only [Value.findsMet] at met
      split at met
      · rename_i same
        exact same
      · cases met
  | nullInt value =>
      simp only [Value.findsMet] at met
      split at met <;> cases met
  | int | strings | bool | nullBool | struct | pointer => cases met

/-- Where a condition finds nothing on a field that it can read, it does not
hold. -/
theorem not_is_of_findsMet {value : Value Nested} {asked : String}
    (silent : value.findsMet asked = none)
    (compared : value.kind ∉ [Kind.strings, Kind.bool, Kind.nullBool]) :
    ¬value.Is parsers asked := by
  cases value with
  | string _ | nullString _ =>
      simp only [Value.findsMet] at silent
      split at silent
      · cases silent
      · rename_i apart
        exact apart
  | nullInt value =>
      simp only [Value.findsMet] at silent
      split at silent
      · cases silent
      · rename_i apart
        exact fun holds => apart holds.1
  | int value => cases silent
  | strings value => simp [Value.kind] at compared
  | bool value => simp [Value.kind] at compared
  | nullBool value => simp [Value.kind] at compared
  | struct nested => exact id
  | pointer nested => exact id

theorem meets_of_finds {condition : String × String}
    (found : findsMet configs condition = some (.ok true)) :
    Meets parsers configs condition := by
  rw [findsMet] at found
  split at found
  · cases found
  · rename_i other isOther
    have named := List.find?_some isOther
    refine ⟨other, List.mem_of_find?_eq_some isOther, by simpa using named, ?_⟩
    rw [updated_of_not_empty (isEmpty_of_findsMet found)]
    exact is_of_findsMet found

theorem unseen_of_meets {condition : String × String}
    (distinct : (configs.map FieldConfig.name).Nodup)
    (unasked : config.Unasked configs) (meets : Meets parsers configs condition) :
    Unseen configs config condition := by
  by_cases recorded : condition ∈ config.requiredIf
  · obtain ⟨other, member, named, holds⟩ := meets
    refine .inr ⟨other, member, named, ?_⟩
    by_contra seen
    rw [not_or, Bool.not_eq_true] at seen
    have silent := unasked.2 condition recorded
    rw [findsMet_of_mem distinct member named] at silent
    rw [updated_of_not_empty seen.2] at holds
    exact not_is_of_findsMet silent seen.1 holds
  · exact .inl recorded

/-- A single text is looked up itself, of a list only one item. -/
theorem listed_of_validateOneOf (ok : config.validateOneOf = .ok ())
    (limited : config.oneOf ≠ []) (single : config.currentValue.kind ≠ .strings) :
    ∀ text ∈ config.updated.elements, text ∈ config.oneOf := by
  have kept : config.updated.kind ≠ .strings := by
    rw [kind_updated]
    exact single
  have listed : ∀ text, checkIfSliceContains [text] config.oneOf = true →
      text ∈ config.oneOf := by
    intro text contained
    simpa [checkIfSliceContains] using contained
  rw [FieldConfig.validateOneOf, if_neg (by simpa using limited)] at ok
  cases value : config.updated with
  | string text =>
      simp only [value, ConfParser.ite_eq_ok] at ok
      simpa [Value.elements] using listed text ok
  | nullString text =>
      simp only [value, ConfParser.ite_eq_ok] at ok
      have member := listed text.string ok
      cases valid : text.valid <;> simp [Value.elements, valid, member]
  | strings items =>
      rw [value] at kept
      exact absurd rfl kept
  | int | nullInt | bool | nullBool | struct | pointer => exact nofun

theorem validateSingleValue_eq_ok_iff {fieldRef text : String} :
    config.validateSingleValue parsers fieldRef text = .ok () ↔
      ∀ kind ∈ config.validateTypes, HasType parsers text kind := by
  rw [FieldConfig.validateSingleValue, ConfParser.forM_eq_ok]
  exact forall₂_congr fun kind _ => hasType_iff fieldRef text kind

theorem typed_of_validateField (ok : config.validateField parsers = .ok ())
    (notEmpty : config.currentValue.isEmpty = false) :
    ∀ text ∈ config.updated.elements, text ≠ "" →
      ∀ kind ∈ config.validateTypes, HasType parsers text kind := by
  intro text member written kind kindMember
  have limited : config.validateTypes ≠ [] := List.ne_nil_of_mem kindMember
  rw [FieldConfig.validateField, notEmpty, Bool.or_false,
    if_neg (by simpa using limited)] at ok
  cases value : config.updated with
  | string item =>
      rw [value] at member
      obtain rfl := List.mem_singleton.mp member
      simp only [value, if_neg written] at ok
      exact validateSingleValue_eq_ok_iff.mp ok kind kindMember
  | nullString item =>
      rw [value, Value.elements] at member
      split at member
      · obtain rfl := List.mem_singleton.mp member
        simp only [value, if_neg written] at ok
        exact validateSingleValue_eq_ok_iff.mp ok kind kindMember
      · cases member
  | strings items =>
      rw [value] at member
      simp only [value, ConfParser.forM_eq_ok] at ok
      obtain ⟨index, bound, isItem⟩ := List.mem_iff_getElem.mp member
      have inside : (text, index) ∈ (items.getD []).zipIdx := by
        rw [List.mk_mem_zipIdx_iff_getElem?, ← isItem]
        exact List.getElem?_eq_getElem bound
      exact validateSingleValue_eq_ok_iff.mp (ok _ inside) kind kindMember
  | int | nullInt | bool | nullBool | struct | pointer =>
      rw [value] at member; cases member

end Seen

namespace Level

variable {parsers : Parsers} {s : Level Nested} {outcomes : Outcomes Nested}

theorem holds_filled_iff (parses : s.Parses parsers)
    {condition : String × String} :
    (s.filled parsers outcomes).Holds parsers condition ↔
      Meets parsers (s.fieldConfigs parsers) condition := by
  constructor
  · rintro ⟨type, member, named, holds⟩
    obtain ⟨config, configMember, read⟩ := exists_config parses member
    have name := (FieldType.config_eq_ok read).2.2.2.1
    refine ⟨config, configMember, name.trans named, ?_⟩
    rw [← name, filled_of_mem configMember, is_filled_iff] at holds
    exact holds
  · rintro ⟨config, configMember, named, holds⟩
    obtain ⟨type, member, read⟩ := exists_type configMember
    have name := (FieldType.config_eq_ok read).2.2.2.1
    refine ⟨type, member, name.symm.trans named, ?_⟩
    rw [← name, filled_of_mem configMember, is_filled_iff]
    exact holds

theorem requires_filled_iff {type : FieldType} {config : FieldConfig Nested}
    (parses : s.Parses parsers)
    (read : type.config parsers (s.value type.name) = .ok config) :
    (s.filled parsers outcomes).Requires parsers type ↔
      config.required = true ∨ ∃ condition ∈ type.tags.conditions,
        Meets parsers (s.fieldConfigs parsers) condition := by
  have required := (FieldType.config_eq_ok read).2.2.2.2.2.1
  rw [Requires, required]
  refine or_congr ?_ (exists_congr fun condition =>
    and_congr_right fun _ => holds_filled_iff parses)
  cases parseBool type.tags.required <;> simp

/-- A field that the check takes to be required is. -/
theorem requires_of_asked {type : FieldType} {config : FieldConfig Nested}
    (parses : s.Parses parsers)
    (read : type.config parsers (s.value type.name) = .ok config)
    (asked : config.Asked (s.fieldConfigs parsers)) :
    (s.filled parsers outcomes).Requires parsers type := by
  rw [requires_filled_iff parses read]
  rcases asked with required | ⟨-, condition, member, found⟩
  · exact .inl required
  · have written :=
      (FieldType.requiredIf_eq_ok (FieldType.config_eq_ok read).2.1).2
    exact .inr ⟨condition, written condition member, meets_of_finds found⟩

variable {everywhere : Bool} {sound valid : Nested → Prop}

theorem keeps_iff_covered {type : FieldType} {config : FieldConfig Nested}
    (member : config ∈ s.fieldConfigs parsers)
    (read : type.config parsers (s.value type.name) = .ok config)
    (passes : config.passes (s.fieldConfigs parsers) parsers outcomes)
    (nested : ∀ inner, outcomes.passes inner →
      (valid (outcomes.filled inner) ↔ sound inner)) :
    (s.filled parsers outcomes).Keeps parsers everywhere valid type ↔
      Covered parsers (s.fieldConfigs parsers) everywhere sound valid type
        config := by
  have parses := parses_of_mem member
  obtain ⟨-, -, -, name, -, -, oneOf, validateTypes⟩ :=
    FieldType.config_eq_ok read
  have left : (s.filled parsers outcomes).value type.name =
      config.filled (s.fieldConfigs parsers) outcomes := by
    rw [← name, filled_of_mem member]
  obtain ⟨validOneOf, validField⟩ := validateValue_eq_ok_iff.mp passes.1
  have limited : type.tags.oneOf ≠ "" ↔ config.oneOf ≠ [] := by
    rw [oneOf, splitString]
    split
    · rename_i absent
      simp [absent]
    · rename_i present
      simp [present, split, List.splitOn_ne_nil]
  constructor
  · intro keeps
    have notBlank := keeps.required
    have listed := keeps.listed
    have typed := keeps.typed
    have inside := keeps.nested
    rw [left, blank_filled_iff] at notBlank
    rw [left, elements_filled] at listed typed
    rw [left] at inside
    exact {
      noEmptyText := by
        intro asked value
        apply notBlank (requires_of_asked parses read asked)
        rw [FieldConfig.updated, value]
        rfl
      unseen := by
        intro unasked condition written _ meets
        have required : (s.filled parsers outcomes).Requires parsers type :=
          (requires_filled_iff parses read).mpr (.inr ⟨condition, written, meets⟩)
        rw [present_filled_of_not_asked unasked] at inside
        exact ⟨notBlank required, inside (.inr required)⟩
      everyItem := by
        intro listedOnly _
        rw [oneOf]
        exact listed (limited.mpr listedOnly)
      filledIn := by
        intro _ text textMember written
        rw [validateTypes]
        exact typed text textMember written
      checked := by
        intro asked inner isPresent
        obtain ⟨passesInner, filled⟩ := filled_of_present passes asked isPresent
        apply (nested inner passesInner).mp
        apply inside (.inr (requires_of_asked parses read asked))
        rw [filled]
        rfl
      unchecked := by
        intro all unasked
        rw [present_filled_of_not_asked unasked] at inside
        exact inside (.inl all) }
  · intro covered
    have unaskedOf (other : ¬config.Asked (s.fieldConfigs parsers)) :
        config.Unasked (s.fieldConfigs parsers) :=
      passes.2.resolve_right fun asked => other asked.1
    have unseenOf (other : ¬config.Asked (s.fieldConfigs parsers))
        (required : (s.filled parsers outcomes).Requires parsers type) :
        ¬config.updated.Blank ∧
          ∀ inner ∈ config.currentValue.present, valid inner := by
      rcases (requires_filled_iff parses read).mp required with
        tagged | ⟨condition, written, meets⟩
      · exact absurd (.inl tagged) other
      · exact covered.unseen other condition written
          (unseen_of_meets s.distinct_fieldConfigs (unaskedOf other) meets) meets
    exact {
      required := by
        intro required
        rw [left, blank_filled_iff]
        by_cases asked : config.Asked (s.fieldConfigs parsers)
        · rcases passes.2 with unasked | ⟨-, notEmpty, -, -⟩
          · exact absurd asked (FieldConfig.not_asked_of_unasked unasked)
          · rw [updated_of_not_empty notEmpty, blank_iff_of_not_empty notEmpty]
            exact covered.noEmptyText asked
        · exact (unseenOf asked required).1
      listed := by
        intro written
        rw [left, elements_filled, ← oneOf]
        by_cases list : config.currentValue.kind = .strings
        · exact covered.everyItem (limited.mp written) list
        · exact listed_of_validateOneOf validOneOf (limited.mp written) list
      typed := by
        rw [left, elements_filled, ← validateTypes]
        cases empty : config.currentValue.isEmpty with
        | true => exact covered.filledIn empty
        | false => exact typed_of_validateField validField empty
      nested := by
        rw [left]
        intro counts inner isPresent
        by_cases asked : config.Asked (s.fieldConfigs parsers)
        · rcases passes.2 with unasked | ⟨-, -, noStruct, -⟩
          · exact absurd asked (FieldConfig.not_asked_of_unasked unasked)
          · cases before : config.currentValue.present with
            | none =>
                rw [present_filled_of_none before] at isPresent
                cases isPresent
            | some other =>
                obtain ⟨passesInner, filled⟩ :=
                  filled_of_present passes asked before
                rw [filled] at isPresent
                cases isPresent
                exact (nested other passesInner).mpr
                  (covered.checked asked other before)
        · rw [present_filled_of_not_asked asked] at isPresent
          rcases counts with all | required
          · exact covered.unchecked all asked inner isPresent
          · exact (unseenOf asked required).2 inner isPresent }

theorem valid_filled_iff
    (passes : s.passes parsers outcomes)
    (nested : ∀ inner, outcomes.passes inner →
      (valid (outcomes.filled inner) ↔ sound inner)) :
    (∀ type ∈ s.fields,
        (s.filled parsers outcomes).Keeps parsers everywhere valid type) ↔
      ∀ type ∈ s.fields, ∀ config,
        type.config parsers (s.value type.name) = .ok config →
          Covered parsers (s.fieldConfigs parsers) everywhere sound valid type
            config := by
  refine forall₂_congr fun type typeMember => ?_
  obtain ⟨config, member, read⟩ := exists_config passes.1 typeMember
  rw [keeps_iff_covered member read (passes.2 config member) nested, read]
  exact ⟨fun covered other same => by cases same; exact covered,
    fun covered => covered config rfl⟩

end Level

/-! ### The check as a whole -/

section Whole

variable {parsers : Parsers} {everywhere : Bool} {depth : Nat}

theorem valid_filled_iff_coversRest {s : Struct depth}
    (passes : (outcomes parsers depth).passes s) :
    Valid parsers everywhere depth ((outcomes parsers depth).filled s) ↔
      CoversRest parsers everywhere depth s := by
  induction depth with
  | zero => exact Iff.rfl
  | succ depth ih => exact Level.valid_filled_iff passes fun inner => ih

theorem Sound.not_panics {s : Struct depth}
    (sound : Sound parsers everywhere depth s) :
    ¬(outcomes parsers depth).panics s := by
  intro panics
  obtain ⟨order, ended⟩ :=
    ((realises_outcomes parsers depth).panics_iff s).mp panics
  exact (sound order).1 ended

theorem Sound.coversRest {s : Struct depth}
    (sound : Sound parsers everywhere depth s)
    (passes : (outcomes parsers depth).passes s) :
    CoversRest parsers everywhere depth s := by
  have realises := realises_outcomes parsers depth
  obtain ⟨order, ended⟩ := (realises.passes_iff s).mp passes
  have valid := (sound order).2 ended
  rw [realises.left_of_ok order s ended] at valid
  exact (valid_filled_iff_coversRest passes).mp valid

/-- The check is sound for a struct exactly if it cannot panic on it, and where
it may pass, nothing that is asked for goes unseen. -/
theorem sound_iff_coversRest (s : Struct depth) :
    Sound parsers everywhere depth s ↔
      ¬(outcomes parsers depth).panics s ∧
        ((outcomes parsers depth).passes s →
          CoversRest parsers everywhere depth s) := by
  have realises := realises_outcomes parsers depth
  constructor
  · exact fun sound => ⟨sound.not_panics, sound.coversRest⟩
  · rintro ⟨calm, covers⟩ order
    refine ⟨fun ended => calm ((realises.panics_iff s).mpr ⟨order, ended⟩),
      fun ended => ?_⟩
    have passes := (realises.passes_iff s).mpr ⟨order, ended⟩
    rw [realises.left_of_ok order s ended]
    exact (valid_filled_iff_coversRest passes).mpr (covers passes)

end Whole

/-! ### A nested struct that is not required -/

def ipv4Static : Struct 1 where
  fields := [{
    name := "Netmask"
    typeString := "null.String"
    tags := { required := "true", validateType := "ipv4" } }]
  distinct := by decide
  value _ := .nullString {}

def ipv4ModeType : FieldType where
  name := "IPv4Mode"
  typeString := "null.String"
  tags := { byDefault := "dhcp", oneOf := "dhcp,static,disabled" }

def ipv4StaticType : FieldType where
  name := "IPv4Static"
  typeString := "*types.IPv4StaticConfig"
  tags := { requiredIf := "IPv4Mode=static" }

def networkConfig : Struct 2 where
  fields := [ipv4ModeType, ipv4StaticType]
  distinct := by decide
  value name :=
    if name = "IPv4Mode" then .nullString (.of "dhcp")
    else .pointer (some ipv4Static)

def ipv4ModeConfig : FieldConfig (Struct 1) where
  name := "IPv4Mode"
  typeString := "null.String"
  required := false
  requiredIf := []
  oneOf := ["dhcp", "static", "disabled"]
  validateTypes := []
  defaults := some (.string "dhcp")
  currentValue := .nullString (.of "dhcp")

def ipv4StaticConfig : FieldConfig (Struct 1) where
  name := "IPv4Static"
  typeString := "*types.IPv4StaticConfig"
  required := false
  requiredIf := [("IPv4Mode", "static")]
  oneOf := []
  validateTypes := []
  defaults := none
  currentValue := .pointer (some ipv4Static)

theorem ipv4Static_read (parsers : Parsers) :
    ipv4StaticType.config parsers (Level.value networkConfig "IPv4Static") =
      .ok ipv4StaticConfig := rfl

theorem networkConfig_read (parsers : Parsers) :
    Level.configs parsers networkConfig =
      .ok [ipv4ModeConfig, ipv4StaticConfig] := rfl

theorem networkConfig_configs (parsers : Parsers) :
    Level.fieldConfigs parsers networkConfig =
      [ipv4ModeConfig, ipv4StaticConfig] := rfl

theorem networkConfig_unasked {config : FieldConfig (Struct 1)}
    (member : config ∈ [ipv4ModeConfig, ipv4StaticConfig]) :
    config.Unasked [ipv4ModeConfig, ipv4StaticConfig] := by
  simp only [List.mem_cons, List.not_mem_nil, or_false] at member
  rcases member with rfl | rfl
  · exact ⟨rfl, nofun⟩
  · refine ⟨rfl, List.forall_mem_singleton.mpr ?_⟩
    rfl

theorem networkConfig_passes (parsers : Parsers) :
    (outcomes parsers 2).passes networkConfig := by
  have configs := networkConfig_configs parsers
  refine ⟨(networkConfig_read parsers).trans (congrArg Except.ok configs.symm),
    ?_⟩
  rw [configs]
  intro config member
  refine ⟨?_, .inl (networkConfig_unasked member)⟩
  simp only [List.mem_cons, List.not_mem_nil, or_false] at member
  rcases member with rfl | rfl
  · rfl
  · rfl

/-- With the mode "dhcp", static addresses without a netmask are accepted. -/
theorem networkConfig_not_sound :
    ¬∃ parsers, Sound parsers true 2 networkConfig := by
  rintro ⟨parsers, sound⟩
  have staticMember : ipv4StaticConfig ∈ [ipv4ModeConfig, ipv4StaticConfig] :=
    List.mem_cons_of_mem _ List.mem_cons_self
  have covered := sound.coversRest (networkConfig_passes parsers)
    ipv4StaticType (List.mem_cons_of_mem _ List.mem_cons_self)
    ipv4StaticConfig (ipv4Static_read parsers)
  rw [networkConfig_configs] at covered
  have valid := covered.unchecked rfl (FieldConfig.not_asked_of_unasked
    (networkConfig_unasked staticMember)) ipv4Static rfl
  exact (valid _ List.mem_cons_self).required (.inl rfl) rfl

end ConfStruct

end JetKvm
