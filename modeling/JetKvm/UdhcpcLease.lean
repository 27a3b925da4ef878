import JetKvm.GoIpText
import JetKvm.LabelledRuns
import Mathlib.Tactic.SplitIfs

/-!
# The lease file of udhcpc

Translation of `UnmarshalDHCPCLease`, `loadLeaseFile` and `run` of
`pkg/nmlite/udhcpc`.  The file is loaded once at the start and after each write;
a lease that is reported is the one that is kept, so that what the report
changes in it is compared with what the next load reads.
-/

namespace JetKvm

namespace UdhcpcLease

open IpText LabelledRuns

abbrev Text := List Char

/-- What the standard library makes of a value; `none` is an error.  Durations
are in nanoseconds. -/
structure Parsing where
  parseIP : Text → Option IP
  atoi : Text → Option Int
  parseDuration : Text → Option Int

/-- Lists may be nil. -/
structure DHCPLease where
  ipAddress : Option IP
  netmask : Option IP
  broadcast : Option IP
  ttl : Int
  mtu : Int
  hostName : Text
  domain : Text
  searchList : Option (List Text)
  bootPNextServer : Option IP
  bootPServerName : Text
  bootPFile : Text
  timezone : Text
  routers : Option (List IP)
  dns : Option (List IP)
  ntpServers : Option (List IP)
  lprServers : Option (List IP)
  timeServers : Option (List IP)
  ien116NameServers : Option (List IP)
  logServers : Option (List IP)
  cookieServers : Option (List IP)
  winsServers : Option (List IP)
  swapServer : Option IP
  bootSize : Int
  rootPath : Text
  leaseTime : Int
  renewalTime : Int
  rebindingTime : Int
  dhcpType : Text
  serverID : Text
  message : Text
  tftpServerName : Text
  bootFileName : Text
  uptime : Int
  classIdentifier : Text
  leaseExpiry : Option Int := none
  interfaceName : Text := []
  dhcpClient : Text := []
  deriving DecidableEq, Repr

/-- The map tells of each key whether its value was parsed. -/
structure Lease where
  lease : DHCPLease
  isEmpty : List (String × Bool)
  deriving DecidableEq, Repr

/-! ### Parsing -/

/-- `unicode.IsSpace` -/
def isSpace (char : Char) : Bool :=
  let code := char.toNat
  (9 ≤ code && code ≤ 13) || code = 0x20 || code = 0x85 || code = 0xA0 ||
    code = 0x1680 || (0x2000 ≤ code && code ≤ 0x200A) || code = 0x2028 ||
    code = 0x2029 || code = 0x202F || code = 0x205F || code = 0x3000

def trimSpace (text : Text) : Text :=
  ((text.dropWhile isSpace).reverse.dropWhile isSpace).reverse

/-- The words between white space -/
def fields (text : Text) : List Text :=
  (text.splitOnP isSpace).filter (· ≠ [])

/-- Empty lines, comments and lines without an equality sign are skipped. -/
def parseLine (line : Text) : Option (Text × Text) :=
  let line := trimSpace line
  if line = [] ∨ line.head? = some '#' ∨ '=' ∉ line then none
  else
    some (trimSpace (line.takeWhile (· ≠ '=')),
      trimSpace (line.dropWhile (· ≠ '=')).tail)

def parseLines (text : Text) : List (Text × Text) :=
  (text.splitOn '\n').filterMap parseLine

/-- The value of a key, the last where there are several, and empty where there
is none -/
def valueOf (data : List (Text × Text)) (key : String) : Text :=
  match data.reverse.find? fun entry => entry.1 = key.toList with
  | some entry => entry.2
  | none => []

inductive Kind where
  | string
  | int
  | duration
  | ip
  | ips
  | strings
  deriving DecidableEq, Repr

/-- The fields with their `env` tags, in the order of the type -/
def envTags : List (String × Kind) :=
  [("ip", .ip), ("subnet", .ip), ("broadcast", .ip), ("ipttl", .int),
    ("mtu", .int), ("hostname", .string), ("domain", .string),
    ("search", .strings), ("siaddr", .ip), ("sname", .string),
    ("boot_file", .string), ("timezone", .string), ("router", .ips),
    ("dns", .ips), ("ntpsrv", .ips), ("lprsvr", .ips), ("timesvr", .ips),
    ("namesvr", .ips), ("logsvr", .ips), ("cookiesvr", .ips), ("wins", .ips),
    ("swapsvr", .ip), ("bootsize", .int), ("rootpath", .string),
    ("lease", .duration), ("renewal", .duration), ("rebinding", .duration),
    ("dhcptype", .string), ("serverid", .string), ("message", .string),
    ("tftp", .string), ("bootfile", .string), ("uptime", .duration),
    ("classid", .string)]

section Unmarshal

variable (parsing : Parsing) (data : List (Text × Text))

def ipOf (key : String) : Option IP :=
  if valueOf data key = [] then none else parsing.parseIP (valueOf data key)

def intOf (key : String) : Option Int :=
  if valueOf data key = [] then none else parsing.atoi (valueOf data key)

def durationOf (key : String) : Option Int :=
  if valueOf data key = [] then none
  else parsing.parseDuration (valueOf data key ++ ['s'])

/-- Addresses that do not parse are left out. -/
def ipsOf (key : String) : Option (List IP) :=
  if valueOf data key = [] then none
  else some ((fields (valueOf data key)).filterMap parsing.parseIP)

def parsed (key : String) : Kind → Bool
  | .string => valueOf data key ≠ []
  | .int => (intOf parsing data key).isSome
  | .duration => (durationOf parsing data key).isSome
  | .ip => (ipOf parsing data key).isSome
  | .ips => (ipsOf parsing data key).isSome
  | .strings => false

/-- The fields of the types that are supported -/
def leaseOf : DHCPLease where
  ipAddress := ipOf parsing data "ip"
  netmask := ipOf parsing data "subnet"
  broadcast := ipOf parsing data "broadcast"
  ttl := (intOf parsing data "ipttl").getD 0
  mtu := (intOf parsing data "mtu").getD 0
  hostName := valueOf data "hostname"
  domain := valueOf data "domain"
  searchList := none
  bootPNextServer := ipOf parsing data "siaddr"
  bootPServerName := valueOf data "sname"
  bootPFile := valueOf data "boot_file"
  timezone := valueOf data "timezone"
  routers := ipsOf parsing data "router"
  dns := ipsOf parsing data "dns"
  ntpServers := ipsOf parsing data "ntpsrv"
  lprServers := ipsOf parsing data "lprsvr"
  timeServers := ipsOf parsing data "timesvr"
  ien116NameServers := ipsOf parsing data "namesvr"
  logServers := ipsOf parsing data "logsvr"
  cookieServers := ipsOf parsing data "cookiesvr"
  winsServers := ipsOf parsing data "wins"
  swapServer := ipOf parsing data "swapsvr"
  bootSize := (intOf parsing data "bootsize").getD 0
  rootPath := valueOf data "rootpath"
  leaseTime := (durationOf parsing data "lease").getD 0
  renewalTime := (durationOf parsing data "renewal").getD 0
  rebindingTime := (durationOf parsing data "rebinding").getD 0
  dhcpType := valueOf data "dhcptype"
  serverID := valueOf data "serverid"
  message := valueOf data "message"
  tftpServerName := valueOf data "tftp"
  bootFileName := valueOf data "bootfile"
  uptime := (durationOf parsing data "uptime").getD 0
  classIdentifier := valueOf data "classid"

/-- A value for the field of an unsupported type is an error, whatever else the
file says. -/
def unmarshalDHCPCLease (text : Text) : Except String Lease :=
  let data := parseLines text
  if valueOf data "search" ≠ [] then
    .error "unsupported field `search` type: []string"
  else
    .ok {
      lease := leaseOf parsing data
      isEmpty := envTags.map fun tag =>
        (tag.1, parsed parsing data tag.1 tag.2) }

end Unmarshal

/-! ### Loading -/

/-- `/proc/uptime`, which may not be readable, and the time at one load -/
structure Clock where
  uptime : Option Int
  now : Int
  deriving DecidableEq, Repr

namespace DHCPLease

def setLeaseExpiry (lease : DHCPLease) (clock : Clock) : DHCPLease :=
  if lease.uptime = 0 ∨ lease.leaseTime = 0 then lease
  else
    match clock.uptime with
    | none => lease
    | some uptime =>
        { lease with
          leaseExpiry :=
            some (clock.now + (lease.uptime + lease.leaseTime - uptime)) }

def toDHCPLease (lease : DHCPLease) : DHCPLease :=
  { lease with dhcpClient := ['u', 'd', 'h', 'c', 'p', 'c'] }

end DHCPLease

inductive LoadError where
  | notExist
  | parse (message : String)
  deriving DecidableEq, Repr

/-- What a load leaves in the client, what it calls `onLeaseChange` with, and its
error -/
structure Loaded where
  lease : Option Lease
  reported : Option DHCPLease := none
  error : Option LoadError := none
  deriving DecidableEq, Repr

/-- The lease that is reported is also the one that is kept. -/
def loadLeaseFile (parsing : Parsing) (clock : Clock) (lease : Option Lease) :
    Option Text → Loaded
  | none => { lease := lease, error := some .notExist }
  | some text =>
      if text = [] then { lease := lease }
      else
        match unmarshalDHCPCLease parsing text with
        | .error message =>
            { lease := lease, error := some (.parse message) }
        | .ok loaded =>
            if lease = some loaded then { lease := lease }
            else if loaded.lease.ipAddress = none then { lease := some loaded }
            else
              let reported := (loaded.lease.setLeaseExpiry clock).toDHCPLease
              { lease := some { loaded with lease := reported }
                reported := some reported }

inductive Status where
  | idle
  | tracking
  | ended
  deriving DecidableEq, Repr

/-- `reported` is what was reported last, `notified` tells whether the last load
reported, and `history` are the contents loaded, the last one first. -/
structure State where
  file : Option Text := none
  lease : Option Lease := none
  status : Status := .idle
  reported : Option DHCPLease := none
  notified : Bool := false
  history : List (Option Text) := []
  deriving DecidableEq, Repr

/-- The client is started, or the file is written. -/
inductive Label where
  | start (clock : Clock)
  | write (text : Text) (clock : Clock)
  deriving DecidableEq, Repr

section Runs

variable (parsing : Parsing)

def State.load (state : State) (clock : Clock) : State :=
  let loaded := loadLeaseFile parsing clock state.lease state.file
  { state with
    lease := loaded.lease
    reported := loaded.reported.or state.reported
    notified := loaded.reported.isSome
    history := state.file :: state.history }

/-- The first load ends `run` if it fails on a file that exists; what a later
one returns is dropped. -/
def step (state : State) : Label → Option State
  | .start clock =>
      if state.status = .idle then
        let loaded := loadLeaseFile parsing clock state.lease state.file
        some { state.load parsing clock with
          status :=
            if loaded.error = none ∨ loaded.error = some .notExist then
              .tracking
            else .ended }
      else some state
  | .write text clock =>
      let written := { state with file := some text }
      some (if state.status = .tracking then written.load parsing clock
        else written)

/-- The lease a content tells of, with its search list, unless it tells of
none -/
def leaseIn (content : Option Text) : Option DHCPLease :=
  content.bind fun text =>
    let data := parseLines text
    if ipOf parsing data "ip" = none then none
    else
      some { leaseOf parsing data with
        searchList :=
          if valueOf data "search" = [] then none
          else some (fields (valueOf data "search")) }

/-- What of a reported lease comes from the file -/
def fromFile (lease : DHCPLease) : DHCPLease :=
  { lease with leaseExpiry := none, dhcpClient := [] }

/-- Tracking goes on; what was reported last is the lease of the content that
was loaded last; and a content loaded twice in a row is not reported again. -/
structure Tracks (state : State) : Prop where
  goesOn : state.status ≠ .ended
  corresponds : ∀ content ∈ state.history.head?,
    state.reported.map fromFile = leaseIn parsing content
  quiet : ∀ content rest, state.history = content :: content :: rest →
    state.notified = false

/-- The content has a value for the search list. -/
def HasSearch (content : Option Text) : Prop :=
  ∃ text ∈ content, valueOf (parseLines text) "search" ≠ []

/-- The first content has no search list.  Each later one that tells of a lease
has none either and differs from the one before; one that tells of no lease
comes before any that does. -/
def Trackable (state : State) : Label → Prop
  | .start _ => state.status = .idle → ¬ HasSearch state.file
  | .write text _ =>
      state.status = .tracking →
        (leaseIn parsing (some text) ≠ none →
          ¬ HasSearch (some text) ∧ state.history.head? ≠ some (some text)) ∧
        (leaseIn parsing (some text) = none →
          ∀ content ∈ state.history, leaseIn parsing content = none)

end Runs

/-! ### What one load does -/

section Loads

variable {parsing : Parsing} {clock : Clock} {lease : Option Lease}
variable {content : Option Text}

/-- The client was marked in every lease that was reported. -/
def Kept (lease : Option Lease) : Prop :=
  ∀ kept ∈ lease, kept.lease.ipAddress ≠ none → kept.lease.dhcpClient ≠ []

theorem loadLeaseFile_of_hasSearch (search : HasSearch content) :
    ∃ message, loadLeaseFile parsing clock lease content =
      { lease := lease, error := some (.parse message) } := by
  obtain ⟨text, rfl, value⟩ := search
  have some : text ≠ [] := by
    rintro rfl
    exact value (by decide)
  refine ⟨"unsupported field `search` type: []string", ?_⟩
  simp [loadLeaseFile, some, unmarshalDHCPCLease, value]

theorem leaseIn_eq_none {text : Text} :
    leaseIn parsing (some text) = none ↔
      ipOf parsing (parseLines text) "ip" = none := by
  rw [leaseIn, Option.bind_some]
  by_cases none : ipOf parsing (parseLines text) "ip" = none
  · simp [none]
  · simp [none]

/-- A content that tells of no lease is not reported. -/
theorem loadLeaseFile_of_silent (silent : leaseIn parsing content = none)
    (kept : Kept lease) :
    (loadLeaseFile parsing clock lease content).reported = none ∧
      Kept (loadLeaseFile parsing clock lease content).lease := by
  cases content with
  | none => exact ⟨rfl, kept⟩
  | some text =>
      rw [leaseIn_eq_none] at silent
      simp only [loadLeaseFile]
      split_ifs
      · exact ⟨rfl, kept⟩
      · cases read : unmarshalDHCPCLease parsing text with
        | error message => exact ⟨rfl, kept⟩
        | ok loaded =>
            have noAddress : loaded.lease.ipAddress = none := by
              simp only [unmarshalDHCPCLease] at read
              split_ifs at read
              cases read
              exact silent
            simp only [noAddress, if_true]
            split_ifs
            · exact ⟨rfl, kept⟩
            · refine ⟨rfl, ?_⟩
              rintro _ ⟨rfl⟩ address
              exact absurd noAddress address

theorem fromFile_report (lease : DHCPLease) (clock : Clock) :
    fromFile (lease.setLeaseExpiry clock).toDHCPLease = fromFile lease := by
  unfold DHCPLease.setLeaseExpiry
  split_ifs
  · rfl
  · cases clock.uptime with
    | none => rfl
    | some uptime => rfl

theorem unmarshal_of_supported {text : Text}
    (noSearch : valueOf (parseLines text) "search" = []) :
    ∃ isEmpty, unmarshalDHCPCLease parsing text =
      .ok ⟨leaseOf parsing (parseLines text), isEmpty⟩ :=
  ⟨_, if_neg (not_not_intro noSearch)⟩

/-- Any other is reported, even where it was loaded before: the lease that is
kept has been marked since. -/
theorem loadLeaseFile_of_lease {told : DHCPLease}
    (tells : leaseIn parsing content = some told)
    (supported : ¬ HasSearch content) (kept : Kept lease) :
    ∃ reported, (loadLeaseFile parsing clock lease content).reported =
        some reported ∧ fromFile reported = told ∧
      reported.searchList = none ∧
      Kept (loadLeaseFile parsing clock lease content).lease ∧
      (loadLeaseFile parsing clock lease content).error = none := by
  cases content with
  | none => cases tells
  | some text =>
      have noSearch : valueOf (parseLines text) "search" = [] := by
        by_contra value
        exact supported ⟨text, rfl, value⟩
      have address : ipOf parsing (parseLines text) "ip" ≠ none := by
        intro none
        rw [leaseIn_eq_none.mpr none] at tells
        cases tells
      have told : told = leaseOf parsing (parseLines text) := by
        rw [leaseIn, Option.bind_some] at tells
        simp only [address, noSearch, if_false, if_true] at tells
        exact (Option.some.inj tells).symm
      have nonempty : text ≠ [] := by
        rintro rfl
        exact address rfl
      have unmarked : ∀ isEmpty : List (String × Bool),
          lease ≠ some ⟨leaseOf parsing (parseLines text), isEmpty⟩ := by
        intro isEmpty same
        exact kept _ same address rfl
      let reported :=
        ((leaseOf parsing (parseLines text)).setLeaseExpiry clock).toDHCPLease
      have report : fromFile reported = leaseOf parsing (parseLines text) :=
        fromFile_report _ clock
      have loads : ∃ isEmpty, loadLeaseFile parsing clock lease (some text) =
          { lease := some ⟨reported, isEmpty⟩, reported := some reported } := by
        obtain ⟨isEmpty, read⟩ := @unmarshal_of_supported parsing text noSearch
        have unsilent :
            (leaseOf parsing (parseLines text)).ipAddress ≠ none := address
        refine ⟨isEmpty, ?_⟩
        simp only [loadLeaseFile, read, if_neg nonempty, if_neg (unmarked _),
          if_neg unsilent]
        rfl
      obtain ⟨isEmpty, loads⟩ := loads
      rw [loads, told]
      refine ⟨reported, rfl, report, congrArg DHCPLease.searchList report, ?_,
        rfl⟩
      rintro _ ⟨rfl⟩ -
      exact List.cons_ne_nil _ _

/-- Only a search list makes a load fail on a file that exists. -/
theorem error_iff :
    (loadLeaseFile parsing clock lease content).error = none ∨
        (loadLeaseFile parsing clock lease content).error =
          some .notExist ↔ ¬ HasSearch content := by
  constructor
  · intro tolerated search
    obtain ⟨message, failed⟩ :=
      @loadLeaseFile_of_hasSearch parsing clock lease content search
    rw [failed] at tolerated
    simp at tolerated
  · intro supported
    cases content with
    | none => exact .inr rfl
    | some text =>
        have noSearch : valueOf (parseLines text) "search" = [] := by
          by_contra value
          exact supported ⟨text, rfl, value⟩
        obtain ⟨isEmpty, read⟩ := @unmarshal_of_supported parsing text noSearch
        left
        simp only [loadLeaseFile, read]
        split_ifs <;> rfl

end Loads

/-! ### Runs -/

section Invariants

variable {parsing : Parsing} {state next : State} {label : Label}
variable {clock : Clock}

/-- What holds in every state of a run whose contents are trackable -/
structure Invariant (parsing : Parsing) (state : State) : Prop where
  tracks : Tracks parsing state
  kept : Kept state.lease
  plain : ∀ lease ∈ state.reported, lease.searchList = none
  silent : state.reported = none ↔
    ∀ content ∈ state.history, leaseIn parsing content = none
  idle : state.status = .idle → state.history = []

theorem Invariant.initial (parsing : Parsing) (file : Option Text) :
    Invariant parsing { file := file } where
  tracks := by
    refine ⟨?_, ?_, ?_⟩
    · intro ended
      cases ended
    · intro content member
      cases member
    · intro content rest same
      cases same
  kept := by
    intro kept member
    cases member
  plain := by
    intro lease member
    cases member
  silent := by
    refine iff_of_true rfl ?_
    intro content member
    cases member
  idle _ := rfl

/-- What a load leaves when its content tells of no lease and none did before -/
theorem Invariant.load_silent (invariant : Invariant parsing state)
    (silent : leaseIn parsing state.file = none)
    (before : ∀ content ∈ state.history, leaseIn parsing content = none)
    (running : state.status ≠ .idle) :
    Invariant parsing (state.load parsing clock) := by
  have none := invariant.silent.mpr before
  obtain ⟨unreported, kept⟩ :=
    @loadLeaseFile_of_silent parsing clock _ _ silent invariant.kept
  have reported : (state.load parsing clock).reported = .none := by
    simp only [State.load]
    rw [unreported, none]
    rfl
  refine ⟨⟨invariant.tracks.goesOn, ?_, ?_⟩, kept, ?_, ?_, ?_⟩
  · intro content member
    obtain rfl : state.file = content := Option.some.inj member
    rw [reported, silent]
    rfl
  · intro content rest same
    simp only [State.load]
    rw [unreported]
    rfl
  · rw [reported]
    intro lease member
    cases member
  · exact iff_of_true reported (List.forall_mem_cons.mpr ⟨silent, before⟩)
  · exact fun idle => absurd idle running

/-- What a load leaves when its content tells of a lease that is new -/
theorem Invariant.load_lease (invariant : Invariant parsing state)
    {told : DHCPLease} (tells : leaseIn parsing state.file = some told)
    (supported : ¬ HasSearch state.file)
    (fresh : state.history.head? ≠ some state.file)
    (running : state.status ≠ .idle) :
    Invariant parsing (state.load parsing clock) := by
  obtain ⟨lease, reports, report, plain, kept, -⟩ :=
    @loadLeaseFile_of_lease parsing clock _ _ told tells supported
      invariant.kept
  have reported : (state.load parsing clock).reported = some lease := by
    simp only [State.load]
    rw [reports]
    rfl
  refine ⟨⟨invariant.tracks.goesOn, ?_, ?_⟩, kept, ?_, ?_, ?_⟩
  · intro content member
    obtain rfl : state.file = content := Option.some.inj member
    rw [reported, tells, Option.map_some, report]
  · intro content rest same
    obtain ⟨rfl, same⟩ := List.cons.inj same
    rw [same] at fresh
    exact absurd rfl fresh
  · rw [reported]
    intro other member
    obtain rfl : lease = other := Option.some.inj member
    exact plain
  · rw [reported]
    refine iff_of_false (Option.some_ne_none lease) fun all => ?_
    have none := all _ List.mem_cons_self
    rw [tells] at none
    cases none
  · exact fun idle => absurd idle running

/-- The client is started. -/
theorem Invariant.started (invariant : Invariant parsing state) :
    Invariant parsing { state with status := .tracking } := by
  obtain ⟨⟨-, corresponds, quiet⟩, kept, plain, silent, -⟩ := invariant
  refine ⟨⟨?_, corresponds, quiet⟩, kept, plain, silent, ?_⟩
  · intro ended
    cases ended
  · intro idle
    cases idle

theorem Invariant.write (invariant : Invariant parsing state)
    (file : Option Text) : Invariant parsing { state with file := file } := by
  obtain ⟨⟨goesOn, corresponds, quiet⟩, kept, plain, silent, idle⟩ := invariant
  exact ⟨⟨goesOn, corresponds, quiet⟩, kept, plain, silent, idle⟩

theorem Invariant.step (invariant : Invariant parsing state)
    (trackable : Trackable parsing state label)
    (taken : UdhcpcLease.step parsing state label = some next) :
    Invariant parsing next := by
  cases label with
  | start clock =>
      simp only [UdhcpcLease.step] at taken
      split_ifs at taken with idle tolerated
      · cases taken
        have started := invariant.started
        have noHistory := invariant.idle idle
        have supported := trackable idle
        cases told : leaseIn parsing state.file with
        | none =>
            refine started.load_silent told ?_ (fun same => by cases same)
            intro content member
            rw [noHistory] at member
            cases member
        | some lease =>
            refine started.load_lease told supported ?_
              (fun same => by cases same)
            rw [noHistory]
            exact Option.some_ne_none state.file ∘ Eq.symm
      · exact absurd (error_iff.mpr (trackable idle)) tolerated
      · cases taken
        exact invariant
  | write text clock =>
      simp only [UdhcpcLease.step, Option.some.injEq] at taken
      split_ifs at taken with tracking
      · cases taken
        obtain ⟨leases, silences⟩ := trackable tracking
        have running : state.status ≠ .idle := by
          rw [tracking]
          intro same
          cases same
        have written := invariant.write (some text)
        cases told : leaseIn parsing (some text) with
        | none => exact written.load_silent told (silences told) running
        | some lease =>
            obtain ⟨supported, fresh⟩ := leases (by
              rw [told]
              exact Option.some_ne_none lease)
            exact written.load_lease told supported fresh running
      · cases taken
        exact invariant.write (some text)

/-- A content with a search list leaves the last report as it was. -/
theorem not_hasSearch_of_tracks (invariant : Invariant parsing state)
    (tracks : Tracks parsing (state.load parsing clock))
    (tells : leaseIn parsing state.file ≠ none) : ¬ HasSearch state.file := by
  intro search
  obtain ⟨message, failed⟩ :=
    @loadLeaseFile_of_hasSearch parsing clock state.lease state.file search
  have corresponds := tracks.corresponds state.file rfl
  have reported : (state.load parsing clock).reported = state.reported := by
    simp only [State.load]
    rw [failed]
    rfl
  rw [reported] at corresponds
  obtain ⟨text, isText, value⟩ := search
  rw [isText] at corresponds tells
  rw [Ne, leaseIn_eq_none] at tells
  rw [leaseIn, Option.bind_some] at corresponds
  simp only [tells, value, if_false] at corresponds
  obtain ⟨lease, isReported, same⟩ := Option.map_eq_some_iff.mp corresponds
  have plain := invariant.plain lease isReported
  have listed := congrArg DHCPLease.searchList same
  cases plain.symm.trans listed

theorem trackable_of_tracks (invariant : Invariant parsing state)
    (taken : UdhcpcLease.step parsing state label = some next)
    (tracks : Tracks parsing next) : Trackable parsing state label := by
  cases label with
  | start clock =>
      intro idle search
      simp only [UdhcpcLease.step, idle, if_true, Option.some.injEq] at taken
      split_ifs at taken with tolerated
      · exact error_iff.mp tolerated search
      · cases taken
        exact tracks.goesOn rfl
  | write text clock =>
      intro tracking
      simp only [UdhcpcLease.step, Option.some.injEq] at taken
      rw [if_pos tracking] at taken
      cases taken
      have written := invariant.write (some text)
      constructor
      · intro tells
        have supported := not_hasSearch_of_tracks written tracks tells
        refine ⟨supported, fun again => ?_⟩
        obtain ⟨rest, history⟩ := List.head?_eq_some_iff.mp again
        obtain ⟨told, tells⟩ := Option.ne_none_iff_exists'.mp tells
        obtain ⟨lease, reports, -⟩ :=
          @loadLeaseFile_of_lease parsing clock _ _ told tells supported
            invariant.kept
        have silent := tracks.quiet (some text) rest
          (congrArg (some text :: ·) history)
        simp only [State.load] at silent
        rw [reports] at silent
        cases silent
      · intro silent
        obtain ⟨unreported, -⟩ :=
          @loadLeaseFile_of_silent parsing clock _ _ silent invariant.kept
        have corresponds := tracks.corresponds (some text) rfl
        simp only [State.load] at corresponds
        rw [unreported, silent, Option.none_or,
          Option.map_eq_none_iff] at corresponds
        exact invariant.silent.mp corresponds

end Invariants

theorem tracks_iff_trackable (parsing : Parsing) (file : Option Text)
    (labels : List Label) :
    AllStates (step parsing) (Tracks parsing) { file := file } labels ↔
      AllSteps (step parsing) (Trackable parsing) { file := file } labels := by
  apply allStates_iff_allSteps _ _ _ (Invariant.initial parsing file) labels
  · intro state invariant
    exact invariant.tracks
  · intro state next label invariant trackable taken
    exact invariant.step trackable taken
  · intro state next label invariant taken tracks
    exact trackable_of_tracks invariant taken tracks

/-! ### Three files -/

/-- The values of the files below; durations do not occur in them. -/
def sampleParsing : Parsing where
  parseIP text := if text = "10.0.0.2".toList then some [10, 0, 0, 2] else none
  atoi _ := none
  parseDuration _ := none

def leased : Text := "ip=10.0.0.2".toList

def searched : Text := "ip=10.0.0.2\nsearch=lan".toList

def sampleClock : Clock := ⟨none, 0⟩

/-- A search list ends the tracking, a lease that is cleared stays reported, and
one that is written again is reported again. -/
theorem not_tracks :
    ¬ AllStates (step sampleParsing) (Tracks sampleParsing)
        { file := some searched } [.start sampleClock] ∧
      ¬ AllStates (step sampleParsing) (Tracks sampleParsing)
        { file := some leased } [.start sampleClock, .write [] sampleClock] ∧
      ¬ AllStates (step sampleParsing) (Tracks sampleParsing)
        { file := some leased }
        [.start sampleClock, .write leased sampleClock] := by
  refine ⟨fun all => ?_, fun all => ?_, fun all => ?_⟩
  · have ended := (all.last rfl).goesOn
    exact ended (by decide +kernel)
  · have cleared := (all.last rfl).corresponds (some []) rfl
    exact absurd cleared (by decide +kernel)
  · have quiet := (all.last rfl).quiet (some leased) [] rfl
    exact absurd quiet (by decide +kernel)

end UdhcpcLease

end JetKvm
