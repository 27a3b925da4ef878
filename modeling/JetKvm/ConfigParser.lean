import JetKvm.GoIpText

/-!
# Checking configurations

How `internal/confparser` fills in the defaults of a configuration and checks
it, field by field and in any order.  What the parsers of the standard library
and of `idna` make of a text is left open.
-/

namespace JetKvm

namespace ConfParser

open IpText

structure NullString where
  string : String := ""
  valid : Bool := false
  deriving DecidableEq, Repr

def NullString.of (string : String) : NullString := ⟨string, true⟩

structure NullInt where
  int64 : Int := 0
  valid : Bool := false
  deriving DecidableEq, Repr

structure NullBool where
  bool : Bool := false
  valid : Bool := false
  deriving DecidableEq, Repr

structure URL where
  scheme : String
  host : String

/-- `none` is an error. -/
structure Parsers where
  parseIP : String → Option IP
  parseCIDR : String → Option (IP × IP × IPMask)
  parseMAC : String → Option (List UInt8)
  parseURL : String → Option URL
  toASCII : String → Option String
  atoi : String → Option Int

/-- No text is taken. -/
def Parsers.refusing : Parsers where
  parseIP := fun _ => none
  parseCIDR := fun _ => none
  parseMAC := fun _ => none
  parseURL := fun _ => none
  toASCII := fun _ => none
  atoi := fun _ => none

/-- A pointer to a configuration is told by how checking that one ends; a list
may be nil. -/
inductive Value where
  | nullString (value : NullString)
  | nullInt (value : NullInt)
  | nullBool (value : NullBool)
  | strings (value : Option (List String))
  | pointer (nested : Option (Except String Unit))

def Value.isEmpty : Value → Bool
  | .nullString value => !value.valid
  | .nullInt value => !value.valid
  | .nullBool value => !value.valid
  | .strings value => (value.getD []).isEmpty
  | .pointer nested => nested.isNone

/-- A field of a configuration with its tags -/
structure Field where
  name : String
  value : Value
  required : Bool := false
  requiredIf : List (String × String) := []
  oneOf : List String := []
  validateTypes : List String := []
  defaults : Option Value := none

/-- Only texts are compared with what `required_if` asks for. -/
def Value.meets (asked : String) : Value → Bool
  | .nullString value => value.valid && value.string == asked
  | _ => false

def requiredByOthers (fields : List Field) :
    List (String × String) → Except String Bool
  | [] => .ok false
  | (key, asked) :: rest =>
      match fields.find? (·.name = key) with
      | none => .error ("required_if field `" ++ key ++ "` not found")
      | some other =>
          if other.value.meets asked then .ok true
          else requiredByOthers fields rest

def Field.validateRequired (fields : List Field) (f : Field) :
    Except String Bool := do
  let required ←
    if f.required then pure true else requiredByOthers fields f.requiredIf
  if required && f.value.isEmpty then
    .error ("field `" ++ f.name ++ "` is required")
  else pure required

/-- The value after `checkIfFieldNeedsUpdate` -/
def Field.updated (f : Field) : Value :=
  if f.value.isEmpty then f.defaults.getD f.value else f.value

def Field.shouldUpdateValue (f : Field) : Bool :=
  f.value.isEmpty && f.defaults.isSome

def checkIfSliceContains (slice oneOf : List String) : Bool :=
  oneOf.any fun one => slice.contains one

def Field.validateOneOf (f : Field) : Except String Unit :=
  if f.oneOf.isEmpty then .ok ()
  else
    let check (val : List String) : Except String Unit :=
      if checkIfSliceContains val f.oneOf then .ok ()
      else .error ("field `" ++ f.name ++ "` is not one of the allowed values: " ++
        ", ".intercalate f.oneOf ++ ", current value: " ++ ", ".intercalate val)
    match f.updated with
    | .nullString value => check [value.string]
    | .strings value => check (value.getD [])
    | _ => .error ("field `" ++ f.name ++ "` cannot use one_of: unsupported type")

section Checks

variable (parsers : Parsers)

def validateType (fieldRef val : String) : String → Except String Unit
  | "int" =>
      if (parsers.atoi val).isSome then .ok ()
      else .error ("field `" ++ fieldRef ++ "` is not a valid integer: " ++ val)
  | "ipv6_prefix_length" =>
      if (parsers.atoi val).any fun length => 0 ≤ length && length ≤ 128 then
        .ok ()
      else
        .error ("field `" ++ fieldRef ++
          "` is not a valid IPv6 prefix length: " ++ val)
  | "ipv4" =>
      if ((parsers.parseIP val).bind to4).isSome then .ok ()
      else .error ("field `" ++ fieldRef ++ "` is not a valid IPv4 address: " ++ val)
  | "ipv6" =>
      if (parsers.parseIP val).isSome then .ok ()
      else .error ("field `" ++ fieldRef ++ "` is not a valid IPv6 address: " ++ val)
  | "ipv6_prefix" =>
      if (parsers.parseCIDR val).isSome then .ok ()
      else .error ("field `" ++ fieldRef ++ "` is not a valid IPv6 prefix: " ++ val)
  | "ipv4_or_ipv6" =>
      if (parsers.parseIP val).isSome then .ok ()
      else .error (fieldRef ++ " is not a valid IPv4 or IPv6 address: " ++ val)
  | "hwaddr" =>
      if (parsers.parseMAC val).isSome then .ok ()
      else .error (fieldRef ++ " is not a valid MAC address: " ++ val)
  | "hostname_or_ipv4_or_ipv6" =>
      if (parsers.parseIP val).isSome || (parsers.toASCII val).isSome then .ok ()
      else
        .error (fieldRef ++ " is not a valid hostname, IPv4 or IPv6 address: " ++
          val)
  | "hostname" =>
      if (parsers.toASCII val).isSome then .ok ()
      else .error (fieldRef ++ " is not a valid hostname: " ++ val)
  | "proxy" =>
      if (parsers.parseURL val).any fun url =>
          (url.scheme == "http" || url.scheme == "https") && url.host != "" then
        .ok ()
      else .error (fieldRef ++ " is not a valid HTTP proxy URL: " ++ val)
  | "url" =>
      if (parsers.parseURL val).isSome then .ok ()
      else .error (fieldRef ++ " is not a valid URL: " ++ val)
  | "cidr" =>
      if (parsers.parseCIDR val).isSome then .ok ()
      else .error (fieldRef ++ " is not a valid CIDR notation: " ++ val)
  | other =>
      .error ("field `" ++ fieldRef ++
        "` cannot use validate_type: unsupported validator: " ++ other)

def Field.validateSingleValue (f : Field) (fieldRef val : String) :
    Except String Unit :=
  f.validateTypes.forM (validateType parsers fieldRef val)

def Field.validateField (f : Field) : Except String Unit :=
  if f.validateTypes.isEmpty || f.value.isEmpty then .ok ()
  else
    match f.updated with
    | .strings items =>
        ((items.getD []).zipIdx).forM fun (item, i) =>
          f.validateSingleValue parsers
            ("field `" ++ f.name ++ "[" ++ toString i ++ "]`") item
    | .nullString value =>
        if value.string = "" then .ok ()
        else
          f.validateSingleValue parsers ("field `" ++ f.name ++ "`") value.string
    | _ =>
        .error ("field `" ++ f.name ++
          "` cannot use validate_type: unsupported type")

def Field.validate (fields : List Field) (f : Field) : Except String Unit := do
  let required ← f.validateRequired fields
  f.validateOneOf
  f.validateField parsers
  match f.value with
  | .pointer (some nested) => if required then nested else pure ()
  | _ => pure ()

/-- The order in which a map of fields is gone through -/
structure FieldOrder where
  visit : List Field → List Field
  all : ∀ fields, (visit fields).Perm fields

def FieldOrder.asListed : FieldOrder := ⟨id, List.Perm.refl⟩

/-- `set` is how a field gets its value. -/
def setDefaultsAndValidate {Config : Type} (order : FieldOrder)
    (fields : List Field) (set : String → Value → Config → Config)
    (config : Config) : Except String Config :=
  (order.visit fields).foldlM (fun config f => do
    f.validate parsers fields
    pure (if f.shouldUpdateValue then set f.name f.updated config else config))
    config

end Checks

theorem ite_eq_ok {good : Prop} [Decidable good] {text : String} :
    (if good then Except.ok () else Except.error text) = Except.ok () ↔ good := by
  by_cases holds : good
  · simp [holds]
  · simp [holds]

theorem forM_eq_ok {Item : Type} {check : Item → Except String Unit}
    {items : List Item} :
    items.forM check = .ok () ↔ ∀ item ∈ items, check item = .ok () := by
  induction items with
  | nil => simp [pure, Except.pure]
  | cons item items ih =>
      rw [List.forM_eq_forM, List.forM_cons, List.forall_mem_cons]
      cases checked : check item with
      | error text => simp [bind, Except.bind]
      | ok _ => simpa [bind, Except.bind] using ih

end ConfParser

end JetKvm
