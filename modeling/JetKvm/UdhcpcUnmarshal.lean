import JetKvm.UdhcpcLease
import Mathlib.Logic.Function.Basic
import Mathlib.Data.List.Nodup

/-!
# Unmarshalling a lease

The loop of `UnmarshalDHCPCLease` over the fields of a lease that may be filled
already: which fields it sets, where it ends, and what `IsEmpty` says of them.
-/

namespace JetKvm

namespace UdhcpcLease

open IpText

/-- The fields with an `env` tag -/
inductive EnvField where
  | ipAddress
  | netmask
  | broadcast
  | ttl
  | mtu
  | hostName
  | domain
  | searchList
  | bootPNextServer
  | bootPServerName
  | bootPFile
  | timezone
  | routers
  | dns
  | ntpServers
  | lprServers
  | timeServers
  | ien116NameServers
  | logServers
  | cookieServers
  | winsServers
  | swapServer
  | bootSize
  | rootPath
  | leaseTime
  | renewalTime
  | rebindingTime
  | dhcpType
  | serverID
  | message
  | tftpServerName
  | bootFileName
  | uptime
  | classIdentifier
  deriving DecidableEq, Repr

/-- What a field of the kind holds -/
def Kind.Value : Kind → Type
  | .string => Text
  | .int | .duration => Int
  | .ip => Option IP
  | .ips => Option (List IP)
  | .strings => Option (List Text)

namespace EnvField

/-- In the order of the type -/
def all : List EnvField :=
  [.ipAddress, .netmask, .broadcast, .ttl, .mtu, .hostName, .domain, .searchList,
    .bootPNextServer, .bootPServerName, .bootPFile, .timezone, .routers, .dns,
    .ntpServers, .lprServers, .timeServers, .ien116NameServers, .logServers,
    .cookieServers, .winsServers, .swapServer, .bootSize, .rootPath, .leaseTime,
    .renewalTime, .rebindingTime, .dhcpType, .serverID, .message, .tftpServerName,
    .bootFileName, .uptime, .classIdentifier]

def env : EnvField → String
  | .ipAddress => "ip"
  | .netmask => "subnet"
  | .broadcast => "broadcast"
  | .ttl => "ipttl"
  | .mtu => "mtu"
  | .hostName => "hostname"
  | .domain => "domain"
  | .searchList => "search"
  | .bootPNextServer => "siaddr"
  | .bootPServerName => "sname"
  | .bootPFile => "boot_file"
  | .timezone => "timezone"
  | .routers => "router"
  | .dns => "dns"
  | .ntpServers => "ntpsrv"
  | .lprServers => "lprsvr"
  | .timeServers => "timesvr"
  | .ien116NameServers => "namesvr"
  | .logServers => "logsvr"
  | .cookieServers => "cookiesvr"
  | .winsServers => "wins"
  | .swapServer => "swapsvr"
  | .bootSize => "bootsize"
  | .rootPath => "rootpath"
  | .leaseTime => "lease"
  | .renewalTime => "renewal"
  | .rebindingTime => "rebinding"
  | .dhcpType => "dhcptype"
  | .serverID => "serverid"
  | .message => "message"
  | .tftpServerName => "tftp"
  | .bootFileName => "bootfile"
  | .uptime => "uptime"
  | .classIdentifier => "classid"

def kind : EnvField → Kind
  | .ipAddress | .netmask | .broadcast | .bootPNextServer | .swapServer => .ip
  | .ttl | .mtu | .bootSize => .int
  | .hostName | .domain | .bootPServerName | .bootPFile | .timezone | .rootPath
  | .dhcpType | .serverID | .message | .tftpServerName | .bootFileName
  | .classIdentifier => .string
  | .searchList => .strings
  | .routers | .dns | .ntpServers | .lprServers | .timeServers
  | .ien116NameServers | .logServers | .cookieServers | .winsServers => .ips
  | .leaseTime | .renewalTime | .rebindingTime | .uptime => .duration

theorem mem_all (field : EnvField) : field ∈ all := by
  cases field <;> decide

theorem nodup_all : all.Nodup := by decide

theorem kind_eq_strings_iff {field : EnvField} :
    field.kind = .strings ↔ field = .searchList := by
  cases field <;> decide

theorem env_injective : Function.Injective env := by
  have distinct : (all.map env).Nodup := by decide +kernel
  intro first second same
  exact List.inj_on_of_nodup_map distinct first.mem_all second.mem_all same

theorem lookup_env {value : EnvField → Bool} {fields : List EnvField}
    {field : EnvField} (member : field ∈ fields) :
    (fields.map fun field => (field.env, value field)).lookup field.env =
      some (value field) := by
  induction fields with
  | nil => cases member
  | cons first fields ih =>
      rw [List.map_cons, List.lookup_cons]
      by_cases same : field = first
      · simp [same]
      · have other : (field.env == first.env) = false :=
          beq_eq_false_iff_ne.mpr fun equal => same (env_injective equal)
        rw [other]
        exact ih ((List.mem_cons.mp member).resolve_left same)

end EnvField

namespace DHCPLease

def field (lease : DHCPLease) : ∀ field : EnvField, field.kind.Value
  | .ipAddress => lease.ipAddress
  | .netmask => lease.netmask
  | .broadcast => lease.broadcast
  | .ttl => lease.ttl
  | .mtu => lease.mtu
  | .hostName => lease.hostName
  | .domain => lease.domain
  | .searchList => lease.searchList
  | .bootPNextServer => lease.bootPNextServer
  | .bootPServerName => lease.bootPServerName
  | .bootPFile => lease.bootPFile
  | .timezone => lease.timezone
  | .routers => lease.routers
  | .dns => lease.dns
  | .ntpServers => lease.ntpServers
  | .lprServers => lease.lprServers
  | .timeServers => lease.timeServers
  | .ien116NameServers => lease.ien116NameServers
  | .logServers => lease.logServers
  | .cookieServers => lease.cookieServers
  | .winsServers => lease.winsServers
  | .swapServer => lease.swapServer
  | .bootSize => lease.bootSize
  | .rootPath => lease.rootPath
  | .leaseTime => lease.leaseTime
  | .renewalTime => lease.renewalTime
  | .rebindingTime => lease.rebindingTime
  | .dhcpType => lease.dhcpType
  | .serverID => lease.serverID
  | .message => lease.message
  | .tftpServerName => lease.tftpServerName
  | .bootFileName => lease.bootFileName
  | .uptime => lease.uptime
  | .classIdentifier => lease.classIdentifier

def withFields (lease : DHCPLease) (values : ∀ field : EnvField, field.kind.Value) :
    DHCPLease :=
  { lease with
    ipAddress := values .ipAddress
    netmask := values .netmask
    broadcast := values .broadcast
    ttl := values .ttl
    mtu := values .mtu
    hostName := values .hostName
    domain := values .domain
    searchList := values .searchList
    bootPNextServer := values .bootPNextServer
    bootPServerName := values .bootPServerName
    bootPFile := values .bootPFile
    timezone := values .timezone
    routers := values .routers
    dns := values .dns
    ntpServers := values .ntpServers
    lprServers := values .lprServers
    timeServers := values .timeServers
    ien116NameServers := values .ien116NameServers
    logServers := values .logServers
    cookieServers := values .cookieServers
    winsServers := values .winsServers
    swapServer := values .swapServer
    bootSize := values .bootSize
    rootPath := values .rootPath
    leaseTime := values .leaseTime
    renewalTime := values .renewalTime
    rebindingTime := values .rebindingTime
    dhcpType := values .dhcpType
    serverID := values .serverID
    message := values .message
    tftpServerName := values .tftpServerName
    bootFileName := values .bootFileName
    uptime := values .uptime
    classIdentifier := values .classIdentifier }

def setField (lease : DHCPLease) (target : EnvField) (value : target.kind.Value) :
    DHCPLease :=
  lease.withFields (Function.update lease.field target value)

end DHCPLease

/-- What one round of the loop does with the value of a field -/
inductive Assigned (α : Type) where
  | set (value : α)
  | skipped
  | unsupported

/-- The switch over the type of the field -/
def assigned (parsing : Parsing) (value : Text) :
    ∀ kind : Kind, Assigned kind.Value
  | .string => .set value
  | .int =>
      match parsing.atoi value with
      | some n => .set n
      | none => .skipped
  | .duration =>
      match parsing.parseDuration (value ++ ['s']) with
      | some nanoseconds => .set nanoseconds
      | none => .skipped
  | .ip =>
      match parsing.parseIP value with
      | some ip => .set (some ip)
      | none => .skipped
  | .ips => .set (some ((fields value).filterMap parsing.parseIP))
  | .strings => .unsupported

/-- The loop over the fields: the lease it leaves, and which keys it parsed
values for, or the error it ends with. -/
def assignFields (parsing : Parsing) (data : List (Text × Text)) :
    List EnvField → DHCPLease → List (String × Bool) →
      DHCPLease × Except String (List (String × Bool))
  | [], lease, valuesParsed => (lease, .ok valuesParsed)
  | field :: fields, lease, valuesParsed =>
      if valueOf data field.env = [] then
        assignFields parsing data fields lease
          (valuesParsed ++ [(field.env, false)])
      else
        match assigned parsing (valueOf data field.env) field.kind with
        | .set value =>
            assignFields parsing data fields (lease.setField field value)
              (valuesParsed ++ [(field.env, true)])
        | .skipped =>
            assignFields parsing data fields lease
              (valuesParsed ++ [(field.env, false)])
        | .unsupported =>
            (lease,
              .error ("unsupported field `" ++ field.env ++ "` type: []string"))

/-- `UnmarshalDHCPCLease`: the object it leaves, and its error -/
def unmarshalInto (parsing : Parsing) (obj : Lease) (text : Text) :
    Lease × Option String :=
  match assignFields parsing (parseLines text) EnvField.all obj.lease [] with
  | (lease, .ok valuesParsed) => (⟨lease, valuesParsed⟩, none)
  | (lease, .error message) => ({ obj with lease := lease }, some message)

/-- `IsEmpty`, which is false for a key that is not in the map -/
def Lease.isEmptyAt (obj : Lease) (key : String) : Bool :=
  (obj.isEmpty.lookup key).getD false

/-! ### What the text says of a field -/

section Spec

variable (parsing : Parsing) (data : List (Text × Text))

/-- The parse of a value, if it is well formed -/
def parse (value : Text) : ∀ kind : Kind, Option kind.Value
  | .string => some value
  | .int => parsing.atoi value
  | .duration => parsing.parseDuration (value ++ ['s'])
  | .ip => (parsing.parseIP value).map some
  | .ips => some (some ((fields value).filterMap parsing.parseIP))
  | .strings => some (some (fields value))

/-- The parse of the value in the last line for the key of the field, unless it
is empty or not well formed -/
def told (field : EnvField) : Option field.kind.Value :=
  if valueOf data field.env = [] then none
  else parse parsing (valueOf data field.env) field.kind

variable (obj : Lease) (text : Text)

/-- No error, and every field is as the text says, or as it was. -/
structure SetsFields : Prop where
  noError : (unmarshalInto parsing obj text).2 = none
  fields : ∀ field, (unmarshalInto parsing obj text).1.lease.field field =
    (told parsing (parseLines text) field).getD (obj.lease.field field)

/-- `IsEmpty` tells which fields were not set. -/
structure Unmarshals : Prop extends SetsFields parsing obj text where
  empty : ∀ field : EnvField,
    (unmarshalInto parsing obj text).1.isEmptyAt field.env = true ↔
      told parsing (parseLines text) field = none

end Spec

/-! ### The loop -/

namespace DHCPLease

variable (lease : DHCPLease)

@[simp] theorem field_withFields (values : ∀ field : EnvField, field.kind.Value) :
    (lease.withFields values).field = values := by
  funext field
  cases field <;> rfl

@[simp] theorem withFields_withFields
    (first second : ∀ field : EnvField, field.kind.Value) :
    (lease.withFields first).withFields second = lease.withFields second :=
  rfl

@[simp] theorem withFields_field : lease.withFields lease.field = lease :=
  rfl

end DHCPLease

section Loop

variable {parsing : Parsing} {data : List (Text × Text)}
variable {lease : DHCPLease} {valuesParsed : List (String × Bool)}

theorem assigned_cases (value : Text) {kind : Kind} (supported : kind ≠ .strings) :
    (∃ result, assigned parsing value kind = .set result ∧
        parse parsing value kind = some result) ∨
      assigned parsing value kind = .skipped ∧ parse parsing value kind = none := by
  cases kind with
  | string => exact .inl ⟨value, rfl, rfl⟩
  | int =>
      simp only [assigned, parse]
      cases parsing.atoi value with
      | none => exact .inr ⟨rfl, rfl⟩
      | some n => exact .inl ⟨n, rfl, rfl⟩
  | duration =>
      simp only [assigned, parse]
      cases parsing.parseDuration (value ++ ['s']) with
      | none => exact .inr ⟨rfl, rfl⟩
      | some nanoseconds => exact .inl ⟨nanoseconds, rfl, rfl⟩
  | ip =>
      simp only [assigned, parse]
      cases parsing.parseIP value with
      | none => exact .inr ⟨rfl, rfl⟩
      | some ip => exact .inl ⟨some ip, rfl, rfl⟩
  | ips => exact .inl ⟨_, rfl, rfl⟩
  | strings => exact absurd rfl supported

theorem assigned_of_strings (value : Text) {kind : Kind}
    (unknown : kind = .strings) : assigned parsing value kind = .unsupported := by
  subst unknown
  rfl

/-- Each field that is visited is set to what the text says of it. -/
theorem assignFields_eq_ok {fields : List EnvField} (nodup : fields.Nodup)
    (supported : ∀ field ∈ fields, field.kind = .strings →
      valueOf data field.env = []) :
    assignFields parsing data fields lease valuesParsed =
      (lease.withFields fun field =>
          if field ∈ fields then (told parsing data field).getD (lease.field field)
          else lease.field field,
        .ok (valuesParsed ++ fields.map fun field =>
          (field.env, (told parsing data field).isSome))) := by
  induction fields generalizing lease valuesParsed with
  | nil => simp [assignFields]
  | cons field fields ih =>
      obtain ⟨here, later⟩ := List.forall_mem_cons.mp supported
      obtain ⟨fresh, nodup⟩ := List.nodup_cons.mp nodup
      -- a round that leaves the field as it was
      have unset (nothing : told parsing data field = none) :
          assignFields parsing data fields lease
              (valuesParsed ++ [(field.env, false)]) =
            (lease.withFields fun other =>
                if other ∈ field :: fields then
                  (told parsing data other).getD (lease.field other)
                else lease.field other,
              .ok (valuesParsed ++ (field :: fields).map fun other =>
                (other.env, (told parsing data other).isSome))) := by
        rw [ih nodup later]
        congr 2
        · funext other
          by_cases same : other = field
          · subst same
            simp [fresh, nothing]
          · simp [same]
        · simp [nothing]
      rw [assignFields]
      split
      · rename_i empty
        exact unset (if_pos empty)
      · rename_i value
        have isTold : told parsing data field =
            parse parsing (valueOf data field.env) field.kind := if_neg value
        have known : field.kind ≠ .strings := fun same => value (here same)
        rcases @assigned_cases parsing (valueOf data field.env) _ known with
          ⟨result, sets, parses⟩ | ⟨skips, fails⟩
        · rw [sets]
          dsimp only
          rw [parses] at isTold
          rw [ih nodup later, DHCPLease.setField, DHCPLease.withFields_withFields,
            DHCPLease.field_withFields]
          congr 2
          · funext other
            by_cases same : other = field
            · subst same
              simp [fresh, isTold]
            · simp [same]
          · simp [isTold]
        · rw [skips]
          exact unset (isTold.trans fails)

theorem assignFields_eq_error {fields : List EnvField} {field : EnvField}
    (member : field ∈ fields) (unknown : field.kind = .strings)
    (value : valueOf data field.env ≠ []) :
    ∃ left message, assignFields parsing data fields lease valuesParsed =
      (left, .error message) := by
  induction fields generalizing lease valuesParsed with
  | nil => cases member
  | cons first fields ih =>
      rw [assignFields]
      rcases List.mem_cons.mp member with rfl | member
      · rw [if_neg value, assigned_of_strings _ unknown]
        exact ⟨_, _, rfl⟩
      · split
        · exact ih member
        · split
          · exact ih member
          · exact ih member
          · exact ⟨_, _, rfl⟩

end Loop

/-! ### Results -/

section Main

variable {parsing : Parsing} {obj : Lease} {text : Text}

/-- Without a search list, all fields are set as the text says. -/
theorem unmarshalInto_of_supported
    (noSearch : valueOf (parseLines text) "search" = []) :
    unmarshalInto parsing obj text =
      (⟨obj.lease.withFields fun field =>
          (told parsing (parseLines text) field).getD (obj.lease.field field),
        EnvField.all.map fun field =>
          (field.env, (told parsing (parseLines text) field).isSome)⟩, none) := by
  have supported : ∀ field ∈ EnvField.all, field.kind = .strings →
      valueOf (parseLines text) field.env = [] := by
    intro field _ isStrings
    rw [EnvField.kind_eq_strings_iff.mp isStrings]
    exact noSearch
  unfold unmarshalInto
  rw [assignFields_eq_ok EnvField.nodup_all supported]
  simp only [EnvField.mem_all, if_true, List.nil_append]

theorem exists_error_of_search
    (value : valueOf (parseLines text) "search" ≠ []) :
    ∃ message, (unmarshalInto parsing obj text).2 = some message := by
  obtain ⟨left, message, fails⟩ :=
    @assignFields_eq_error parsing (parseLines text) obj.lease [] EnvField.all
      .searchList (EnvField.mem_all _) rfl value
  refine ⟨message, ?_⟩
  simp only [unmarshalInto, fails]

theorem setsFields_iff :
    SetsFields parsing obj text ↔ valueOf (parseLines text) "search" = [] := by
  constructor
  · intro sets
    by_contra value
    obtain ⟨message, fails⟩ :=
      @exists_error_of_search parsing obj text value
    rw [sets.noError] at fails
    cases fails
  · intro noSearch
    refine ⟨?_, fun field => ?_⟩
    · rw [unmarshalInto_of_supported noSearch]
    · rw [unmarshalInto_of_supported noSearch, DHCPLease.field_withFields]

/-- `IsEmpty` is true of the fields that were set. -/
theorem isEmptyAt_of_supported
    (noSearch : valueOf (parseLines text) "search" = []) (field : EnvField) :
    (unmarshalInto parsing obj text).1.isEmptyAt field.env =
      (told parsing (parseLines text) field).isSome := by
  rw [unmarshalInto_of_supported noSearch, Lease.isEmptyAt,
    EnvField.lookup_env field.mem_all, Option.getD_some]

end Main

/-- The fields are set as the text says exactly if it has no search list, and
then `IsEmpty` is wrong about each of them. -/
theorem setsFields_iff_and_not_unmarshals (parsing : Parsing) (obj : Lease)
    (text : Text) :
    (SetsFields parsing obj text ↔ valueOf (parseLines text) "search" = []) ∧
      ¬ Unmarshals parsing obj text := by
  refine ⟨setsFields_iff, fun unmarshals => ?_⟩
  have noSearch := setsFields_iff.mp unmarshals.toSetsFields
  have reversed := unmarshals.empty .ipAddress
  rw [isEmptyAt_of_supported noSearch] at reversed
  cases said : told parsing (parseLines text) .ipAddress with
  | none => simp [said] at reversed
  | some ip => simp [said] at reversed

/-- What `loadLeaseFile` unmarshals into -/
def newLease : Lease where
  lease := leaseOf sampleParsing []
  isEmpty := []

/-- The address is there, and `IsEmpty` says that it is not. -/
theorem not_unmarshals_leased :
    ¬ ∀ (parsing : Parsing) (obj : Lease) (text : Text),
      Unmarshals parsing obj text := by
  intro always
  have empty := (always sampleParsing newLease leased).empty .ipAddress
  exact absurd (empty.mp (by decide +kernel)) (by decide +kernel)

end UdhcpcLease

end JetKvm
