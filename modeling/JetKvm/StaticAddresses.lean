import JetKvm.GoIpParse
import JetKvm.NetworkConfig
import JetKvm.OrderedVisits
import Mathlib.Data.List.Nodup

/-!
# Static addresses

An accepted network configuration is turned into addresses
(`pkg/nmlite/static.go`) by parsers other than the ones it was checked with.
What the check leaves open is whether a text is there at all, whether a mask is
contiguous, and the family of an IPv6 address.
-/

namespace JetKvm

open IpText ConfParser

/-! ### What was checked -/

namespace ConfParser

theorem foldlM_eq_ok {Config Item : Type} {check : Item → Except String Unit}
    {next : Config → Item → Config} {items : List Item} {config out : Config} :
    items.foldlM (fun config item => do
        check item
        pure (next config item)) config = .ok out ↔
      (∀ item ∈ items, check item = .ok ()) ∧ items.foldl next config = out := by
  induction items generalizing config with
  | nil => simp [pure, Except.pure]
  | cons item items ih =>
      rw [List.foldlM_cons, List.forall_mem_cons, List.foldl_cons]
      cases checked : check item with
      | error text => simp [bind, Except.bind]
      | ok _ =>
          simp only [bind, Except.bind, pure, Except.pure] at ih ⊢
          rw [ih]
          simp

section Checks

variable {parsers : Parsers} {order : FieldOrder}

theorem setDefaultsAndValidate_eq_ok {Config : Type} {fields : List Field}
    {set : String → Value → Config → Config} {config out : Config} :
    setDefaultsAndValidate parsers order fields set config = .ok out ↔
      (∀ f ∈ fields, f.validate parsers fields = .ok ()) ∧
      (order.visit fields).foldl (fun config f =>
        if f.shouldUpdateValue then set f.name f.updated config else config)
        config = out := by
  rw [setDefaultsAndValidate, foldlM_eq_ok]
  simp only [(order.all fields).mem_iff]

theorem foldl_eq_self {Config Part : Type} {next : Config → Field → Config}
    {part : Config → Part} {items : List Field} (config : Config)
    (kept : ∀ f ∈ items, ∀ config, part (next config f) = part config) :
    part (items.foldl next config) = part config := by
  induction items generalizing config with
  | nil => rfl
  | cons f items ih =>
      rw [List.forall_mem_cons] at kept
      rw [List.foldl_cons, ih (next config f) kept.2, kept.1]

/-- A field that is set is set to the same value at any time. -/
theorem foldl_eq_of_mem {Config Part : Type} {next : Config → Field → Config}
    {part : Config → Part} {items : List Field} (config : Config) {value : Part}
    {f : Field} (member : f ∈ items)
    (sets : ∀ config, part (next config f) = value)
    (others : ∀ g ∈ items, ∀ config, part config = value →
      part (next config g) = value) :
    part (items.foldl next config) = value := by
  have stays : ∀ (items : List Field) (config : Config),
      (∀ g ∈ items, ∀ config, part config = value →
        part (next config g) = value) →
      part config = value → part (items.foldl next config) = value := by
    intro items
    induction items with
    | nil => exact fun _ _ already => already
    | cons g items ih =>
        intro config others already
        rw [List.forall_mem_cons] at others
        exact ih (next config g) others.2 (others.1 config already)
  obtain ⟨before, after, rfl⟩ := List.append_of_mem member
  rw [List.foldl_append, List.foldl_cons]
  apply stays after
  · intro g inside
    exact others g (List.mem_append_right before (List.mem_cons_of_mem f inside))
  · exact sets (before.foldl next config)

theorem validateType_ipv4 {fieldRef text : String} :
    validateType parsers fieldRef text "ipv4" = .ok () ↔
      ((parsers.parseIP text).bind to4).isSome = true :=
  ite_eq_ok

theorem validateType_ipv6 {fieldRef text : String} :
    validateType parsers fieldRef text "ipv6" = .ok () ↔
      (parsers.parseIP text).isSome = true :=
  ite_eq_ok

theorem validateType_ipv6_prefix {fieldRef text : String} :
    validateType parsers fieldRef text "ipv6_prefix" = .ok () ↔
      (parsers.parseCIDR text).isSome = true :=
  ite_eq_ok

theorem Field.validate_eq_ok {fields : List Field} {f : Field} :
    f.validate parsers fields = .ok () ↔
      ∃ required, f.validateRequired fields = .ok required ∧
        f.validateOneOf = .ok () ∧ f.validateField parsers = .ok () ∧
        (required = true → ∀ nested, f.value = .pointer (some nested) →
          nested = .ok ()) := by
  rw [Field.validate]
  cases f.validateRequired fields with
  | error text => simp [bind, Except.bind]
  | ok required =>
      cases f.validateOneOf with
      | error text => simp [bind, Except.bind]
      | ok _ =>
          cases f.validateField parsers with
          | error text => simp [bind, Except.bind]
          | ok _ =>
              cases f.value with
              | pointer nested =>
                  cases nested with
                  | none => simp [bind, Except.bind, pure, Except.pure]
                  | some nested =>
                      cases required with
                      | false => simp [bind, Except.bind, pure, Except.pure]
                      | true => simp [bind, Except.bind]
              | nullString _ => simp [bind, Except.bind, pure, Except.pure]
              | nullInt _ => simp [bind, Except.bind, pure, Except.pure]
              | nullBool _ => simp [bind, Except.bind, pure, Except.pure]
              | strings _ => simp [bind, Except.bind, pure, Except.pure]

theorem Field.validateRequired_eq_ok {fields : List Field} {f : Field}
    {required : Bool} (always : f.required = true) :
    f.validateRequired fields = .ok required ↔
      required = true ∧ f.value.isEmpty = false := by
  rw [Field.validateRequired, always]
  cases f.value.isEmpty with
  | false => simp [bind, Except.bind, pure, Except.pure, eq_comm]
  | true => simp [bind, Except.bind, pure, Except.pure]

/-- An empty text passes as any type. -/
theorem Field.validateField_nullString {f : Field} {value : NullString}
    (same : f.value = .nullString value) (valid : value.valid = true) :
    f.validateField parsers = .ok () ↔ value.string = "" ∨
      ∀ type ∈ f.validateTypes, validateType parsers
        ("field `" ++ f.name ++ "`") value.string type = .ok () := by
  have nonempty : f.value.isEmpty = false := by rw [same, Value.isEmpty, valid]; rfl
  rw [Field.validateField, Field.updated, nonempty, same, Bool.or_false]
  simp only [Bool.false_eq_true, if_false, List.isEmpty_iff]
  by_cases noTypes : f.validateTypes = []
  · simp [noTypes]
  · rw [if_neg noTypes]
    by_cases empty : value.string = ""
    · simp [empty]
    · rw [if_neg empty, Field.validateSingleValue, forM_eq_ok, or_iff_right empty]

theorem Field.validateField_strings {f : Field} {items : Option (List String)}
    (same : f.value = .strings items) (there : f.value.isEmpty = false) :
    f.validateField parsers = .ok () ↔
      ∀ item i, (item, i) ∈ (items.getD []).zipIdx → ∀ type ∈ f.validateTypes,
        validateType parsers
          ("field `" ++ f.name ++ "[" ++ toString i ++ "]`") item type =
            .ok () := by
  rw [Field.validateField, Field.updated, there, same, Bool.or_false]
  simp only [Bool.false_eq_true, if_false, List.isEmpty_iff]
  by_cases noTypes : f.validateTypes = []
  · simp [noTypes]
  · rw [if_neg noTypes, forM_eq_ok, Prod.forall]
    simp only [Field.validateSingleValue, forM_eq_ok]

end Checks

end ConfParser

namespace NetworkConfig

section Required

variable {parsers : Parsers} {order : FieldOrder} {fields : List Field}
  {name validateType : String}

theorem validate_requiredField_nullString {value : NullString} :
    (requiredField name (.nullString value) validateType).validate parsers
        fields = .ok () ↔
      value.valid = true ∧ (value.string = "" ∨
        ConfParser.validateType parsers ("field `" ++ name ++ "`") value.string
          validateType = .ok ()) := by
  rw [Field.validate_eq_ok]
  simp only [Field.validateRequired_eq_ok
    (show (requiredField name (.nullString value) validateType).required = true
      from rfl)]
  cases valid : value.valid with
  | false => simp [requiredField, Value.isEmpty, valid]
  | true =>
      rw [Field.validateField_nullString rfl valid]
      simp [requiredField, Value.isEmpty, valid, Field.validateOneOf]

theorem validate_requiredField_strings {items : Option (List String)} :
    (requiredField name (.strings items) validateType).validate parsers
        fields = .ok () ↔
      items.getD [] ≠ [] ∧ ∀ item i, (item, i) ∈ (items.getD []).zipIdx →
        ConfParser.validateType parsers
          ("field `" ++ name ++ "[" ++ toString i ++ "]`") item validateType =
            .ok () := by
  rw [Field.validate_eq_ok]
  simp only [Field.validateRequired_eq_ok
    (show (requiredField name (.strings items) validateType).required = true
      from rfl)]
  cases there : (Value.strings items).isEmpty with
  | true =>
      have none : items.getD [] = [] := List.isEmpty_iff.mp there
      simp [requiredField, Value.isEmpty, none]
  | false =>
      have some : items.getD [] ≠ [] := by
        intro none
        rw [Value.isEmpty, none] at there
        cases there
      rw [Field.validateField_strings rfl there]
      simp [requiredField, there, some, Field.validateOneOf]

theorem forall_mem_zipIdx {items : List String} {good : String → Prop} :
    (∀ item i, (item, i) ∈ items.zipIdx → good item) ↔
      ∀ item ∈ items, good item := by
  constructor
  · intro all item member
    obtain ⟨i, inside, rfl⟩ := List.getElem_of_mem member
    exact all items[i] i (List.mk_mem_zipIdx_iff_getElem?.mpr
      (List.getElem?_eq_getElem inside))
  · intro all item i member
    exact all item (List.fst_mem_of_mem_zipIdx member)

end Required

/-! ### What an accepted configuration is like -/

section Accepted

/-- The parsers of the standard library for addresses -/
def standard (parsers : Parsers) : Parsers :=
  { parsers with parseIP := IpText.parseIP, parseCIDR := IpText.parseCIDR }

def isIPv4Text (text : String) : Bool :=
  ((IpText.parseIP text).bind to4).isSome

/-- An IPv4 address that is mapped into 16 bytes is not one of IPv6. -/
def isIPv6Text (text : String) : Bool :=
  (IpText.parseIP text).any fun ip => (to4 ip).isNone

variable {parsers : Parsers} {order : FieldOrder}

theorem validateStatic_eq_ok {fields : List Field} :
    validateStatic parsers order fields = .ok () ↔
      ∀ f ∈ fields, f.validate parsers fields = .ok () := by
  rw [validateStatic, setDefaultsAndValidate_eq_ok]
  exact and_iff_left rfl

/-- A text that is there and, where it has characters, is as told -/
def Given (value : NullString) (good : String → Prop) : Prop :=
  value.valid = true ∧ (value.string = "" ∨ good value.string)

theorem validateStatic_ipv4 {static : IPv4StaticConfig} :
    validateStatic (standard parsers) order (ipv4StaticFields static) = .ok () ↔
      Given static.address (isIPv4Text ·) ∧ Given static.netmask (isIPv4Text ·) ∧
      Given static.gateway (isIPv4Text ·) ∧ static.dns.getD [] ≠ [] ∧
      ∀ text ∈ static.dns.getD [], isIPv4Text text := by
  rw [validateStatic_eq_ok, ipv4StaticFields]
  simp only [List.forall_mem_cons, List.not_mem_nil, IsEmpty.forall_iff,
    implies_true, and_true,
    validate_requiredField_nullString, validate_requiredField_strings,
    validateType_ipv4, forall_mem_zipIdx]
  rfl

theorem validateStatic_ipv6 {static : IPv6StaticConfig} :
    validateStatic (standard parsers) order (ipv6StaticFields static) = .ok () ↔
      Given static.addressPrefix (fun text => (IpText.parseCIDR text).isSome) ∧
      Given static.gateway (fun text => (IpText.parseIP text).isSome) ∧
      static.dns.getD [] ≠ [] ∧
      ∀ text ∈ static.dns.getD [], (IpText.parseIP text).isSome := by
  rw [validateStatic_eq_ok, ipv6StaticFields]
  simp only [List.forall_mem_cons, List.not_mem_nil, IsEmpty.forall_iff,
    implies_true, and_true,
    validate_requiredField_nullString, validate_requiredField_strings,
    validateType_ipv6, validateType_ipv6_prefix, forall_mem_zipIdx]
  rfl

variable {config accepted : NetworkConfig}

theorem set_ipv4Static (name : String) (value : Value) (config : NetworkConfig) :
    (set name value config).ipv4Static = config.ipv4Static := by
  unfold set
  split <;> rfl

theorem set_ipv6Static (name : String) (value : Value) (config : NetworkConfig) :
    (set name value config).ipv6Static = config.ipv6Static := by
  unfold set
  split <;> rfl

theorem set_ipv4Mode (name : String) (value : Value) (config : NetworkConfig)
    (other : name ≠ "IPv4Mode") :
    (set name value config).ipv4Mode = config.ipv4Mode := by
  unfold set
  split <;> first | rfl | exact absurd rfl other

theorem set_ipv6Mode (name : String) (value : Value) (config : NetworkConfig)
    (other : name ≠ "IPv6Mode") :
    (set name value config).ipv6Mode = config.ipv6Mode := by
  unfold set
  split <;> first | rfl | exact absurd rfl other

theorem nodup_names :
    ((fields parsers order config).map Field.name).Nodup := by
  have names : (fields parsers order config).map Field.name =
      ["DHCPClient", "Hostname", "HTTPProxy", "Domain", "IPv4Mode",
        "IPv4Static", "IPv6Mode", "IPv6Static", "LLDPMode", "LLDPTxTLVs",
        "MDNSMode", "TimeSyncMode", "TimeSyncOrdering",
        "TimeSyncDisableFallback", "TimeSyncParallel", "TimeSyncNTPServers",
        "TimeSyncHTTPUrls"] := rfl
  rw [names]
  decide

theorem eq_of_name {f g : Field} (mem : f ∈ fields parsers order config)
    (other : g ∈ fields parsers order config) (same : f.name = g.name) :
    f = g :=
  List.inj_on_of_nodup_map nodup_names mem other same

/-- A choice that was not made becomes the default. -/
theorem updated_choice (name : String) (value : NullString)
    (oneOf : List String) (byDefault : String) :
    (choice name value oneOf byDefault).updated =
      .nullString (if value.valid then value else .of byDefault) := by
  cases value with
  | mk string valid =>
      cases valid with
      | false => rfl
      | true => rfl

theorem shouldUpdateValue_choice (name : String) (value : NullString)
    (oneOf : List String) (byDefault : String) :
    (choice name value oneOf byDefault).shouldUpdateValue = !value.valid := by
  cases valid : value.valid with
  | false => simp [choice, Field.shouldUpdateValue, Value.isEmpty, valid]
  | true => simp [choice, Field.shouldUpdateValue, Value.isEmpty, valid]

theorem static_of_ite {mode : NullString} {byDefault : String}
    (other : byDefault ≠ "static") :
    (if mode.valid then mode else .of byDefault).string = "static" ↔
      mode = .of "static" := by
  cases mode with
  | mk string valid =>
      cases valid with
      | false => simp [NullString.of, other]
      | true => simp [NullString.of]

section Modes

variable (validated :
  setDefaultsAndValidate parsers order config = .ok accepted)
include validated

theorem forall_validate_of_accepted :
    ∀ f ∈ fields parsers order config,
      f.validate parsers (fields parsers order config) = .ok () :=
  (setDefaultsAndValidate_eq_ok.mp validated).1

theorem ipv4Static_of_accepted : accepted.ipv4Static = config.ipv4Static := by
  rw [← (setDefaultsAndValidate_eq_ok.mp validated).2]
  apply foldl_eq_self
  intro f member config
  split_ifs
  · exact set_ipv4Static f.name f.updated config
  · rfl

theorem ipv6Static_of_accepted : accepted.ipv6Static = config.ipv6Static := by
  rw [← (setDefaultsAndValidate_eq_ok.mp validated).2]
  apply foldl_eq_self
  intro f member config
  split_ifs
  · exact set_ipv6Static f.name f.updated config
  · rfl

/-- A part of the configuration that one field sets is what that field gives it,
where the field is to be updated. -/
theorem part_of_accepted {Part : Type} {part : NetworkConfig → Part}
    {value : Part} {field : Field}
    (isField : field ∈ fields parsers order config)
    (sets : ∀ config, part (set field.name field.updated config) = value)
    (others : ∀ other value config, other ≠ field.name →
      part (set other value config) = part config) :
    part accepted =
      if field.shouldUpdateValue then value else part config := by
  rw [← (setDefaultsAndValidate_eq_ok.mp validated).2]
  cases updates : field.shouldUpdateValue with
  | false =>
      apply foldl_eq_self
      intro f member current
      by_cases same : f.name = field.name
      · obtain rfl := eq_of_name ((order.all _).mem_iff.mp member) isField same
        rw [updates]
        rfl
      · split_ifs
        · exact others f.name f.updated current same
        · rfl
  | true =>
      rw [if_pos rfl]
      have now : ∀ current : NetworkConfig,
          part (if field.shouldUpdateValue then
            set field.name field.updated current else current) = value := by
        intro current
        rw [updates]
        exact sets current
      apply foldl_eq_of_mem config ((order.all _).mem_iff.mpr isField) now
      intro g member current already
      by_cases same : g.name = field.name
      · obtain rfl := eq_of_name ((order.all _).mem_iff.mp member) isField same
        exact now current
      · split_ifs
        · rw [others g.name g.updated current same, already]
        · exact already

/-- A choice that was not made is the default after the check. -/
theorem choice_of_accepted {part : NetworkConfig → NullString} {name : String}
    {oneOf : List String} {byDefault : String}
    (isField : choice name (part config) oneOf byDefault ∈
      fields parsers order config)
    (sets : ∀ value config, part (set name (.nullString value) config) = value)
    (others : ∀ other value config, other ≠ name →
      part (set other value config) = part config) :
    part accepted =
      if (part config).valid then part config else .of byDefault := by
  have updated : ∀ current, part (set name
      (choice name (part config) oneOf byDefault).updated current) =
      if (part config).valid then part config else .of byDefault := by
    intro current
    rw [updated_choice]
    exact sets _ current
  rw [part_of_accepted validated isField updated others,
    shouldUpdateValue_choice]
  cases (part config).valid with
  | true => rfl
  | false => rfl

theorem ipv4Mode_of_accepted :
    accepted.ipv4Mode =
      if config.ipv4Mode.valid then config.ipv4Mode else .of "dhcp" :=
  @choice_of_accepted parsers order config accepted validated
    NetworkConfig.ipv4Mode "IPv4Mode" ["dhcp", "static", "disabled"] "dhcp"
    (by simp [fields]) (fun _ _ => rfl) set_ipv4Mode

theorem ipv6Mode_of_accepted :
    accepted.ipv6Mode =
      if config.ipv6Mode.valid then config.ipv6Mode else .of "slaac" :=
  @choice_of_accepted parsers order config accepted validated
    NetworkConfig.ipv6Mode "IPv6Mode"
    ["slaac", "dhcpv6", "slaac_and_dhcpv6", "static", "link_local", "disabled"]
    "slaac" (by simp [fields]) (fun _ _ => rfl) set_ipv6Mode

theorem ipv4Mode_static :
    accepted.ipv4Mode.string = "static" ↔ config.ipv4Mode = .of "static" := by
  rw [ipv4Mode_of_accepted validated, static_of_ite (by decide)]

theorem ipv6Mode_static :
    accepted.ipv6Mode.string = "static" ↔ config.ipv6Mode = .of "static" := by
  rw [ipv6Mode_of_accepted validated, static_of_ite (by decide)]

/-- What a mode that asks for static addresses makes of them -/
theorem nested_of_static {f : Field} {key : String} {mode : NullString}
    {oneOf : List String} {byDefault : String}
    {nested : Option (Except String Unit)}
    (isField : f ∈ fields parsers order config)
    (value : f.value = .pointer nested) (optional : f.required = false)
    (asks : f.requiredIf = [(key, "static")])
    (found : (fields parsers order config).find? (·.name = key) =
      some (choice key mode oneOf byDefault))
    (static : mode = .of "static") :
    nested = some (.ok ()) := by
  obtain ⟨required, needed, -, -, checked⟩ :=
    Field.validate_eq_ok.mp (forall_validate_of_accepted validated f isField)
  have meets : Value.meets "static" (choice key mode oneOf byDefault).value =
      true := by
    rw [static]
    rfl
  simp only [Field.validateRequired, optional, asks, requiredByOthers, found,
    meets, Bool.false_eq_true, if_false, if_true] at needed
  cases nested with
  | none =>
      rw [value] at needed
      cases needed
  | some nested =>
      rw [value] at needed
      cases needed
      rw [checked rfl nested value]

theorem ipv4Static_validated (static : config.ipv4Mode = .of "static") :
    ∃ addresses, config.ipv4Static = some addresses ∧
      validateStatic parsers order (ipv4StaticFields addresses) = .ok () := by
  have nested := nested_of_static validated
    (f := { name := "IPv4Static"
            value := .pointer (config.ipv4Static.map fun static =>
              validateStatic parsers order (ipv4StaticFields static))
            requiredIf := [("IPv4Mode", "static")] })
    (by simp [fields]) rfl rfl rfl rfl static
  exact Option.map_eq_some_iff.mp nested

theorem ipv6Static_validated (static : config.ipv6Mode = .of "static") :
    ∃ addresses, config.ipv6Static = some addresses ∧
      validateStatic parsers order (ipv6StaticFields addresses) = .ok () := by
  have nested := nested_of_static validated
    (f := { name := "IPv6Static"
            value := .pointer (config.ipv6Static.map fun static =>
              validateStatic parsers order (ipv6StaticFields static))
            requiredIf := [("IPv6Mode", "static")] })
    (by simp [fields]) rfl rfl rfl rfl static
  exact Option.map_eq_some_iff.mp nested

end Modes

end Accepted

end NetworkConfig

/-! ### What is made of them -/

section Conversion

open NetworkConfig

/-- The address that a text is of, in IPv4 -/
def IsIPv4Of (text : String) (ip : IP) : Prop :=
  IpText.parseIP text = some ip ∧ (to4 ip).isSome = true

def IsIPv6Of (text : String) (ip : IP) : Prop :=
  IpText.parseIP text = some ip ∧ (to4 ip).isNone = true

/-- The address before the slash -/
def addressPart (text : String) : String :=
  String.ofList (text.toList.takeWhile (· ≠ '/'))

/-- The number after the slash -/
def lengthPart (text : String) : Option Nat :=
  dtoi ((text.toList.dropWhile (· ≠ '/')).drop 1) 0

/-- The given addresses, all of IPv4, and a contiguous mask -/
structure IPv4Applied (static : IPv4StaticConfig) (parsed : ParsedIPConfig) :
    Prop where
  address : IsIPv4Of static.address.string parsed.address.ip
  given : (IpText.parseIP static.netmask.string).bind to4 =
    some parsed.address.mask
  contiguous : (simpleMaskLength parsed.address.mask).isSome = true
  gateway : IsIPv4Of static.gateway.string parsed.gateway
  dns : List.Forall₂ IsIPv4Of (static.dns.getD []) parsed.nameservers

/-- The given addresses, none of IPv4, and a mask of the given length -/
structure IPv6Applied (static : IPv6StaticConfig) (parsed : ParsedIPConfig) :
    Prop where
  address : IsIPv6Of (addressPart static.addressPrefix.string) parsed.address.ip
  length : parsed.address.mask.length = 16
  given : ∃ ones, lengthPart static.addressPrefix.string = some ones ∧
    simpleMaskLength parsed.address.mask = some ones
  gateway : IsIPv6Of static.gateway.string parsed.gateway
  dns : List.Forall₂ IsIPv6Of (static.dns.getD []) parsed.nameservers

def CanBeApplied (parsers : Parsers) (config : NetworkConfig) : Prop :=
  (config.ipv4Mode.string = "static" → ∃ static parsed,
    config.ipv4Static = some static ∧
      toIPv4Static parsers config.ipv4Static = .ok parsed ∧
      IPv4Applied static parsed) ∧
  (config.ipv6Mode.string = "static" → ∃ static parsed,
    config.ipv6Static = some static ∧
      toIPv6Static parsers config.ipv6Static = .ok parsed ∧
      IPv6Applied static parsed)

/-- The texts that are left out of the check when they are empty, and a mask
whose ones come first -/
def IPv4StaticConfig.Usable (static : IPv4StaticConfig) : Prop :=
  static.address.string ≠ "" ∧ static.gateway.string ≠ "" ∧
    (((IpText.parseIP static.netmask.string).bind to4).bind
      simpleMaskLength).isSome = true

def IPv6StaticConfig.Usable (static : IPv6StaticConfig) : Prop :=
  isIPv6Text (addressPart static.addressPrefix.string) = true ∧
    isIPv6Text static.gateway.string = true ∧
    ∀ text ∈ static.dns.getD [], isIPv6Text text = true

def NetworkConfig.Usable (config : NetworkConfig) : Prop :=
  (config.ipv4Mode = .of "static" →
    ∀ static, config.ipv4Static = some static → static.Usable) ∧
  (config.ipv6Mode = .of "static" →
    ∀ static, config.ipv6Static = some static → static.Usable)

theorem isIPv4Text_iff {text : String} :
    isIPv4Text text = true ↔ ∃ ip, IsIPv4Of text ip := by
  simp only [isIPv4Text, IsIPv4Of, Option.isSome_iff_exists,
    Option.bind_eq_some_iff]
  exact exists_comm.trans (exists_congr fun ip => by simp)

theorem isIPv6Text_iff {text : String} :
    isIPv6Text text = true ↔ ∃ ip, IsIPv6Of text ip := by
  rw [isIPv6Text, Option.any_eq_true]
  rfl

theorem parseIP_empty : IpText.parseIP "" = none := rfl

theorem ne_empty_of_parseIP {text : String} {ip : IP}
    (parsed : IpText.parseIP text = some ip) : text ≠ "" := by
  rintro rfl
  rw [parseIP_empty] at parsed
  cases parsed

/-- A conversion that ends with the conversion of a list -/
theorem exists_bind_eq_ok {Item Out Result : Type}
    {convert : Item → Except String Out} {Good : Item → Out → Prop}
    {items : List Item} {next : List Out → Except String Result}
    {result : List Out → Result}
    (each : ∀ item ∈ items, ∃ out, convert item = .ok out ∧ Good item out)
    (ends : ∀ outs, next outs = .ok (result outs)) :
    ∃ outs, (items.mapM convert >>= next) = .ok (result outs) ∧
      List.Forall₂ Good items outs := by
  obtain ⟨outs, all, goods⟩ := OrderedVisits.exists_mapM_eq_ok each
  refine ⟨outs, ?_, goods⟩
  rw [all]
  exact ends outs

theorem ok_bind {First Second : Type} (first : First)
    (next : First → Except String Second) :
    (Except.ok first >>= next) = next first := rfl

theorem forall_mem_of_forall₂ {Item Out : Type} {Good : Item → Out → Prop}
    {items : List Item} {outs : List Out} (all : List.Forall₂ Good items outs) :
    ∀ item ∈ items, ∃ out, Good item out := by
  induction all with
  | nil => exact fun item none => absurd none List.not_mem_nil
  | cons good _ ih => exact List.forall_mem_cons.mpr ⟨⟨_, good⟩, ih⟩

variable {parsers : Parsers}

theorem parseIPv4Netmask_eq_ok {address netmask : String} {ip mask : IP}
    (isAddress : IsIPv4Of address ip)
    (isMask : (IpText.parseIP netmask).bind to4 = some mask) :
    parseIPv4Netmask (standard parsers) address netmask = .ok ⟨ip, mask⟩ := by
  obtain ⟨parsed, family⟩ := isAddress
  obtain ⟨whole, maskParsed, maskFamily⟩ := Option.bind_eq_some_iff.mp isMask
  have noSlash := (parseIP_spec parsed).2
  rw [Option.isSome_iff_ne_none] at family
  simp only [parseIPv4Netmask, standard, if_neg noSlash, parsed, if_neg family,
    maskParsed, maskFamily]

theorem parseGateway_eq_ok {gateway : String} {ip : IP}
    (parsed : IpText.parseIP gateway = some ip) :
    parseGateway (standard parsers) gateway = .ok ip := by
  simp only [parseGateway, standard, parsed]

theorem parseIPv6Prefix_eq_ok {text : String} {ip : IP}
    (isAddress : IsIPv6Of (addressPart text) ip)
    (checked : (IpText.parseCIDR text).isSome = true) :
    ∃ mask, parseIPv6Prefix (standard parsers) text = .ok ⟨ip, mask⟩ ∧
      mask.length = 16 ∧ ∃ ones, lengthPart text = some ones ∧
        simpleMaskLength mask = some ones := by
  obtain ⟨⟨given, network, mask⟩, parsed⟩ := Option.isSome_iff_exists.mp checked
  obtain ⟨slash, again, ones, number, simple, sixteen⟩ := parseCIDR_spec parsed
  obtain ⟨read, family⟩ := isAddress
  have same : given = ip := by
    rw [addressPart, again] at read
    exact Option.some.inj read
  subst same
  refine ⟨mask, ?_, sixteen (Option.isNone_iff_eq_none.mp family), ones, number,
    simple⟩
  have notMapped : (to4 given).isSome ≠ true := by
    rw [Option.isNone_iff_eq_none.mp family]
    decide
  simp only [parseIPv6Prefix, standard, if_pos slash, parsed, again,
    if_neg notMapped]

theorem toIPv4Static_eq_ok {static : IPv4StaticConfig} {ip mask via : IP}
    (isAddress : IsIPv4Of static.address.string ip)
    (isMask : (IpText.parseIP static.netmask.string).bind to4 = some mask)
    (isGateway : IsIPv4Of static.gateway.string via)
    (dns : ∀ text ∈ static.dns.getD [], isIPv4Text text = true) :
    ∃ nameservers, toIPv4Static (standard parsers) (some static) =
        .ok ⟨⟨ip, mask⟩, via, nameservers⟩ ∧
      List.Forall₂ IsIPv4Of (static.dns.getD []) nameservers := by
  simp only [toIPv4Static, parseIPv4Netmask_eq_ok isAddress isMask,
    parseGateway_eq_ok isGateway.1, ok_bind]
  apply exists_bind_eq_ok
  · intro text member
    obtain ⟨ip, parsed, family⟩ := isIPv4Text_iff.mp (dns text member)
    refine ⟨ip, ?_, parsed, family⟩
    rw [Option.isSome_iff_ne_none] at family
    simp only [validateIPAddress, standard, parsed, Bool.false_eq_true,
      if_false, if_neg family]
    rfl
  · intro nameservers
    rfl

theorem toIPv6Static_eq_ok {static : IPv6StaticConfig} {ip mask via : IP}
    (converted : parseIPv6Prefix (standard parsers) static.addressPrefix.string =
      .ok ⟨ip, mask⟩)
    (isGateway : IsIPv6Of static.gateway.string via)
    (dns : ∀ text ∈ static.dns.getD [], isIPv6Text text = true) :
    ∃ nameservers, toIPv6Static (standard parsers) (some static) =
        .ok ⟨⟨ip, mask⟩, via, nameservers⟩ ∧
      List.Forall₂ IsIPv6Of (static.dns.getD []) nameservers := by
  simp only [toIPv6Static, converted, parseGateway_eq_ok isGateway.1, ok_bind]
  apply exists_bind_eq_ok
  · intro text member
    obtain ⟨ip, parsed, family⟩ := isIPv6Text_iff.mp (dns text member)
    refine ⟨ip, ?_, parsed, family⟩
    simp only [standard, parsed]
    rfl
  · intro nameservers
    rfl

theorem toIPv4Static_applied_iff {static : IPv4StaticConfig}
    {order : FieldOrder}
    (checked : validateStatic (standard parsers) order
      (ipv4StaticFields static) = .ok ()) :
    (∃ parsed, toIPv4Static (standard parsers) (some static) = .ok parsed ∧
      IPv4Applied static parsed) ↔ static.Usable := by
  obtain ⟨⟨-, address⟩, ⟨-, netmask⟩, ⟨-, gateway⟩, -, dns⟩ :=
    validateStatic_ipv4.mp checked
  constructor
  · rintro ⟨parsed, -, applied⟩
    refine ⟨ne_empty_of_parseIP applied.address.1,
      ne_empty_of_parseIP applied.gateway.1, ?_⟩
    rw [applied.given]
    exact applied.contiguous
  · rintro ⟨someAddress, someGateway, contiguous⟩
    obtain ⟨ip, isAddress⟩ :=
      isIPv4Text_iff.mp (address.resolve_left someAddress)
    obtain ⟨via, isGateway⟩ :=
      isIPv4Text_iff.mp (gateway.resolve_left someGateway)
    obtain ⟨ones, simple⟩ := Option.isSome_iff_exists.mp contiguous
    obtain ⟨mask, isMask, simple⟩ := Option.bind_eq_some_iff.mp simple
    obtain ⟨nameservers, converted, isDNS⟩ :=
      @toIPv4Static_eq_ok parsers static ip mask via isAddress isMask isGateway dns
    refine ⟨_, converted, isAddress, isMask, ?_, isGateway, isDNS⟩
    rw [simple]
    rfl

theorem toIPv6Static_applied_iff {static : IPv6StaticConfig}
    {order : FieldOrder}
    (checked : validateStatic (standard parsers) order
      (ipv6StaticFields static) = .ok ()) :
    (∃ parsed, toIPv6Static (standard parsers) (some static) = .ok parsed ∧
      IPv6Applied static parsed) ↔ static.Usable := by
  obtain ⟨⟨-, whole⟩, -, -, -⟩ := validateStatic_ipv6.mp checked
  constructor
  · rintro ⟨parsed, -, applied⟩
    refine ⟨isIPv6Text_iff.mpr ⟨_, applied.address⟩,
      isIPv6Text_iff.mpr ⟨_, applied.gateway⟩, fun text member => ?_⟩
    exact isIPv6Text_iff.mpr (forall_mem_of_forall₂ applied.dns text member)
  · rintro ⟨address, gateway, dns⟩
    obtain ⟨ip, isAddress⟩ := isIPv6Text_iff.mp address
    obtain ⟨via, isGateway⟩ := isIPv6Text_iff.mp gateway
    have someText : static.addressPrefix.string ≠ "" := by
      intro empty
      rw [empty] at address
      cases address
    obtain ⟨mask, converted, length, given⟩ :=
      @parseIPv6Prefix_eq_ok parsers _ ip isAddress (whole.resolve_left someText)
    obtain ⟨nameservers, whole, isDNS⟩ :=
      @toIPv6Static_eq_ok parsers static ip mask via converted isGateway dns
    exact ⟨_, whole, isAddress, length, given, isGateway, isDNS⟩

/-- An accepted configuration can be applied exactly when it is usable. -/
theorem canBeApplied_iff_usable {order : FieldOrder}
    {config accepted : NetworkConfig}
    (validated : setDefaultsAndValidate (standard parsers) order config =
      .ok accepted) :
    CanBeApplied (standard parsers) accepted ↔ config.Usable := by
  rw [CanBeApplied, ipv4Static_of_accepted validated,
    ipv6Static_of_accepted validated, ipv4Mode_static validated,
    ipv6Mode_static validated]
  apply and_congr
  · apply imp_congr_right
    intro static
    obtain ⟨addresses, given, checked⟩ := ipv4Static_validated validated static
    simpa [given] using toIPv4Static_applied_iff checked
  · apply imp_congr_right
    intro static
    obtain ⟨addresses, given, checked⟩ := ipv6Static_validated validated static
    simpa [given] using toIPv6Static_applied_iff checked

/-! ### A mask with a hole -/

/-- A network that leaves nothing to the defaults -/
def staticNetwork (netmask : String) : NetworkConfig where
  dhcpClient := .of "udhcpc"
  ipv4Mode := .of "static"
  ipv4Static := some
    { address := .of "10.0.0.2", netmask := .of netmask
      gateway := .of "10.0.0.1", dns := some ["10.0.0.1"] }
  ipv6Mode := .of "disabled"
  lldpMode := .of "basic"
  lldpTxTLVs := some ["chassis"]
  mdnsMode := .of "auto"
  timeSyncMode := .of "ntp_only"
  timeSyncOrdering := some ["ntp"]
  timeSyncDisableFallback := ⟨false, true⟩
  timeSyncParallel := ⟨4, true⟩

theorem staticNetwork_canBeApplied :
    CanBeApplied (standard .refusing) (staticNetwork "255.255.255.0") := by
  have validated : setDefaultsAndValidate (standard .refusing) .asListed
      (staticNetwork "255.255.255.0") = .ok (staticNetwork "255.255.255.0") :=
    rfl
  refine (canBeApplied_iff_usable validated).mpr ⟨?_, ?_⟩
  · rintro - static ⟨⟩
    exact ⟨by decide, by decide, by decide⟩
  · intro static
    exact absurd static (by decide)

/-- The mask is accepted as the text of an address. -/
theorem accepted_not_canBeApplied :
    ¬ ∀ (parsers : Parsers) (order : FieldOrder) (config accepted : NetworkConfig),
      setDefaultsAndValidate (standard parsers) order config = .ok accepted →
        CanBeApplied (standard parsers) accepted := by
  intro all
  have applied := all .refusing .asListed (staticNetwork "255.0.255.0")
    (staticNetwork "255.0.255.0") rfl
  obtain ⟨static, parsed, same, -, applied⟩ := applied.1 rfl
  cases same
  have mask : some [255, 0, 255, 0] = some parsed.address.mask := applied.given
  have contiguous := applied.contiguous
  rw [← Option.some.inj mask] at contiguous
  cases contiguous

end Conversion

end JetKvm
