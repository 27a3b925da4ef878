import JetKvm.GoIpParse
import JetKvm.GoSlices
import JetKvm.LinkReconcile
import Mathlib.Algebra.Group.Int.Defs

/-!
# What becomes of a DHCP answer

Translation of a round of `requestLoop` with `fromNclient4Lease`,
`fromNclient6Lease`, `getRenewalTime` and `handleLeaseChange` of
`pkg/nmlite/jetdhcpc`, of `IPMask` and `IPNet` of `DHCPLease`, and of the lease
handler of an interface manager with `applyDHCPLease` and `ReconcileLinkAddrs`.
The answers are what the accessors of the DHCP library return, the netlink
library is known by what its documentation says, and a crash is told apart from
an error.
-/

namespace JetKvm

namespace DhcpAnswers

open IpText Netlink LinkReconcile

abbrev Text := List Char

/-- Durations are in nanoseconds. -/
def second : Int := 10 ^ 9

inductive Crash where
  | panic (panic : Panic)
  | nilDereference
  deriving DecidableEq, Repr

/-- What a function body does: return a value or crash. -/
abbrev Body (α : Type) := Except Crash α

/-- `list[i]` -/
def at_ {α : Type} (list : List α) (i : Nat) : Body α :=
  match list[i]? with
  | some a => .ok a
  | none => .error (.panic (.indexOutOfRange i list.length))

/-- `*pointer` -/
def deref {α : Type} : Option α → Body α
  | some a => .ok a
  | none => .error .nilDereference

/-! ### Answers -/

/-- A DHCPv4 ACK by its accessors.  A nil slice is empty; the address is of four
bytes on the wire, and so is a subnet mask that the library accepts.  Times are
in seconds. -/
structure ACK where
  router : List IP
  yourIPAddr : IP
  subnetMask : IPMask
  broadcastAddress : IP
  ntpServers : List IP
  hostName : Text
  domainName : Text
  domainSearch : Option (List Text)
  dns : List IP
  classIdentifier : Text
  serverIdentifier : IP
  interfaceMTU : List UInt8
  message : Text
  leaseTime : Option UInt32
  renewalTime : Option UInt32
  isIPv4 : yourIPAddr.length = 4
  isMask : subnetMask = [] ∨ subnetMask.length = 4

/-- The accessor returns its argument where the option is absent. -/
def ACK.ipAddressLeaseTime (ack : ACK) (default : Int) : Int :=
  match ack.leaseTime with
  | some seconds => seconds.toNat * second
  | none => default

def ACK.ipAddressRenewalTime (ack : ACK) (default : Int) : Int :=
  match ack.renewalTime with
  | some seconds => seconds.toNat * second
  | none => default

structure IAAddress where
  ipv6Addr : IP
  validLifetime : UInt32
  isIPv6 : ipv6Addr.length = 16

structure IANA where
  oneAddress : Option IAAddress

/-- A DHCPv6 message by its accessors -/
structure Reply where
  oneIANA : Option IANA
  dns : List IP

/-! ### Leases -/

/-- The fields that are set from an answer -/
structure DHCPLease where
  ipAddress : IP := []
  netmask : IP := []
  broadcast : IP := []
  mtu : Int := 0
  hostName : Text := []
  domain : Text := []
  searchList : List Text := []
  routers : List IP := []
  dns : List IP := []
  ntpServers : List IP := []
  leaseTime : Int := 0
  renewalTime : Int := 0
  serverID : Text := []
  message : Text := []
  classIdentifier : Text := []
  interfaceName : Text := []
  dhcpClient : Text := []

structure Lease where
  lease : DHCPLease
  p4 : Option ACK := none
  p6 : Option Reply := none

def Lease.toDHCPLease (l : Lease) : DHCPLease :=
  { l.lease with dhcpClient := "jetdhcpc".toList }

def defaultLeaseTime : Int := 30 * 60 * second

def defaultRenewalTime : Int := 15 * 60 * second

/-- `binary.BigEndian.Uint16` -/
def uint16 (b : List UInt8) : Body Nat := do
  let low ← at_ b 1
  let high ← at_ b 0
  return high.toNat * 256 + low.toNat

/-- The MTU that is set where the option is there -/
def leaseMTU (mtu : List UInt8) : Body Nat :=
  if mtu ≠ [] then uint16 mtu else pure 0

def fromNclient4Lease (ack : ACK) (iface : Text) : Body Lease := do
  let mtu ← leaseMTU ack.interfaceMTU
  return {
    p4 := some ack
    lease := {
      routers := ack.router
      ipAddress := ack.yourIPAddr
      netmask := ack.subnetMask
      broadcast := ack.broadcastAddress
      ntpServers := ack.ntpServers
      hostName := ack.hostName
      domain := ack.domainName
      searchList := ack.domainSearch.getD []
      dns := ack.dns
      classIdentifier := ack.classIdentifier
      serverID := ipText ack.serverIdentifier
      mtu := mtu
      message := ack.message
      leaseTime := ack.ipAddressLeaseTime defaultLeaseTime
      renewalTime := ack.ipAddressRenewalTime defaultRenewalTime
      interfaceName := iface } }

/-- A reply without an address gives a nil lease. -/
def fromNclient6Lease (l : Reply) (iface : Text) : Option Lease := do
  let iana ← l.oneIANA
  let address ← iana.oneAddress
  return {
    p6 := some l
    lease := {
      ipAddress := address.ipv6Addr
      netmask := cidrMask 128 16
      dns := l.dns
      interfaceName := iface } }

namespace DHCPLease

def isIPv6 (d : DHCPLease) : Bool := to4 d.ipAddress = none

def ipMask (d : DHCPLease) : Body IPMask :=
  if d.isIPv6 then pure []
  else do
    -- a text that is no address is parsed to nil
    let mask := (parseIP (String.ofList (ipText d.netmask))).getD []
    let a ← at_ mask 12
    let b ← at_ mask 13
    let c ← at_ mask 14
    let d ← at_ mask 15
    return [a, b, c, d]

def ipNet (d : DHCPLease) : Body (Option (IP × IPMask)) :=
  if d.isIPv6 then pure none
  else do
    let mask ← d.ipMask
    return some (d.ipAddress, mask)

end DHCPLease

/-! ### The lease handler of an interface manager -/

def convertDHCPLeaseToIPv4Config (lease : DHCPLease) :
    Body (Option IPAddress) := do
  match ← lease.ipNet with
  | none => return none
  | some (ip, mask) =>
      let gateway ← at_ lease.routers 0
      return some ⟨ip, mask, some gateway, 0⟩

/-- The part of the manager that a lease changes -/
structure Manager where
  dhcpLease4 : Option DHCPLease := none
  dhcpLease6 : Option DHCPLease := none

/-- What is set up around the request loop: the IPv4 mode, the link of the
interface, which may not be there, and the netlink library with the orders in
which maps are gone through -/
structure Setting (Kernel : Type) where
  ipv4Mode : String
  link : Kernel → Except String Link
  library : Library Crash Kernel
  orders : Orders

section Handler

variable {Kernel : Type} (setting : Setting Kernel) (kernel : Kernel)

def dhcpProtocol : Nat := 3

/-- An error is a value that is returned. -/
def reconcileLinkAddrs (addrs : List IPAddress) (family : Family)
    (protocol : Nat) : Body (Kernel × Except String Unit) :=
  match setting.link kernel with
  | .error err => pure (kernel, .error ("failed to get interface: " ++ err))
  | .ok link => reconcileLink setting.library setting.orders kernel link addrs
      family protocol

def applyDHCPLease (lease : DHCPLease) : Body (Kernel × Except String Unit) :=
  if lease.dhcpClient ≠ "jetdhcpc".toList then pure (kernel, .ok ())
  else if lease.isIPv6 then pure (kernel, .ok ())
  else do
    let ipv4Config ← deref (← convertDHCPLeaseToIPv4Config lease)
    reconcileLinkAddrs setting kernel [ipv4Config] .inet dhcpProtocol

def updateStateFromDHCPLease (im : Manager) (lease : DHCPLease) : Manager :=
  if lease.isIPv6 then { im with dhcpLease6 := some lease }
  else { im with dhcpLease4 := some lease }

/-- The handler that a new interface manager gives to its DHCP client -/
def onLeaseChange (im : Manager) (lease : DHCPLease) :
    Body (Kernel × Manager) :=
  if setting.ipv4Mode ≠ "dhcp" then pure (kernel, im)
  else do
    -- an error is logged
    let (kernel, _) ← applyDHCPLease setting kernel lease
    return (kernel, updateStateFromDHCPLease im lease)

end Handler

/-! ### The request loop -/

structure Client where
  currentLease4 : Option Lease := none
  currentLease6 : Option Lease := none

structure State (Kernel : Type) where
  kernel : Kernel
  attempt : Nat := 0
  client : Client := {}
  manager : Manager := {}

variable {Kernel : Type}

/-- Both handlers of the client call the one of the manager.  Nothing else is
done with a lease: `apply` logs the name servers. -/
def handleLeaseChange (setting : Setting Kernel) (state : State Kernel)
    (lease : Option Lease) : Body (State Kernel) := do
  let lease ← deref lease
  let client := if lease.p4.isSome
    then { state.client with currentLease4 := some lease }
    else { state.client with currentLease6 := some lease }
  let (kernel, manager) ←
    onLeaseChange setting state.kernel state.manager lease.toDHCPLease
  return { state with kernel, client, manager }

def maxRenewalAttemptDuration : Int := 2 * 60 * 60 * second

def getRenewalTime (lease : DHCPLease) : Int :=
  if lease.renewalTime ≤ 0 ∨ lease.leaseTime > maxRenewalAttemptDuration / 2 then
    maxRenewalAttemptDuration
  else lease.renewalTime

/-- The delay that `resetTimer` sets -/
def retryDelay (attempt : Nat) : Int := 2 ^ min attempt 3 * second

/-- How a request ends: the interface is not up or none is answered, or there is
an answer. -/
inductive Answer where
  | failed
  | ack (l : ACK)
  | reply (l : Reply)

def Answer.lease (iface : Text) : Answer → Body (Option Lease)
  | .failed => pure none
  | .ack l => some <$> fromNclient4Lease l iface
  | .reply l => pure (fromNclient6Lease l iface)

/-- A round of the loop, with the time that the timer is reset to -/
def requestRound (setting : Setting Kernel) (iface : Text)
    (state : State Kernel) (answer : Answer) : Body (State Kernel × Int) :=
  match answer with
  | .failed =>
      pure ({ state with attempt := state.attempt + 1 },
        retryDelay state.attempt)
  | answer => do
      let lease ← answer.lease iface
      let state ← handleLeaseChange setting { state with attempt := 0 } lease
      let lease ← deref lease
      return (state, getRenewalTime lease.lease)

/-! ### Answers that do not crash -/

/-- The body returns instead of crashing. -/
def Returns {α : Type} (body : Body α) : Prop := ∃ value, body = .ok value

/-- Whether the lease handler looks at leases -/
def Setting.handles (setting : Setting Kernel) : Prop :=
  setting.ipv4Mode = "dhcp"

/-- The link of the interface is there and its addresses can be listed. -/
def Setting.Lists (setting : Setting Kernel) (kernel : Kernel) : Prop :=
  ∃ link addrs, setting.link kernel = .ok link ∧
    setting.library.addrList kernel link.index .inet = .ok addrs

/-- What the answer must have -/
def Complete (setting : Setting Kernel) (kernel : Kernel) : Answer → Prop
  | .failed => True
  | .ack l =>
      l.interfaceMTU.length ≠ 1 ∧
        (setting.handles → l.subnetMask ≠ [] ∧ l.router ≠ [] ∧
          (setting.Lists kernel → Contiguous l.subnetMask))
  | .reply l =>
      ∃ iana ∈ l.oneIANA, ∃ address ∈ iana.oneAddress,
        setting.handles → to4 address.ipv6Addr = none

section Bodies

variable {α β : Type}

@[simp] theorem returns_pure (value : α) : Returns (pure value : Body α) :=
  ⟨value, rfl⟩

@[simp] theorem not_returns_error (crash : Crash) :
    ¬ Returns (.error crash : Body α) := by
  rintro ⟨value, same⟩
  cases same

theorem bind_eq_ok_iff {body : Body α} {next : α → Body β} {result : β} :
    (body >>= next) = .ok result ↔
      ∃ value, body = .ok value ∧ next value = .ok result := by
  cases body with
  | error crash =>
      constructor
      · intro same
        cases same
      · rintro ⟨value, same, -⟩
        cases same
  | ok value =>
      refine ⟨fun ends => ⟨value, rfl, ends⟩, ?_⟩
      rintro ⟨other, same, ends⟩
      obtain rfl := Except.ok.inj same
      exact ends

theorem returns_bind_iff {body : Body α} {next : α → Body β} :
    Returns (body >>= next) ↔ ∃ value, body = .ok value ∧ Returns (next value) := by
  constructor
  · rintro ⟨result, ends⟩
    obtain ⟨value, same, rest⟩ := bind_eq_ok_iff.mp ends
    exact ⟨value, same, result, rest⟩
  · rintro ⟨value, same, result, rest⟩
    exact ⟨result, bind_eq_ok_iff.mpr ⟨value, same, rest⟩⟩

theorem returns_at_iff {list : List α} {i : Nat} :
    Returns (at_ list i) ↔ i < list.length := by
  unfold at_
  split
  · rename_i a found
    exact iff_of_true ⟨a, rfl⟩ (List.getElem?_eq_some_iff.mp found).1
  · rename_i none
    exact iff_of_false (not_returns_error _)
      (Nat.not_lt.mpr (List.getElem?_eq_none_iff.mp none))

theorem returns_uint16_iff {b : List UInt8} :
    Returns (uint16 b) ↔ 2 ≤ b.length := by
  match b with
  | [] => simp [uint16, at_, returns_bind_iff]
  | [_] => simp [uint16, at_, returns_bind_iff]
  | low :: high :: rest => exact iff_of_true ⟨_, rfl⟩ (by simp)

theorem at_eq_ok {list : List α} {i : Nat} (inside : i < list.length) :
    at_ list i = .ok list[i] := by
  unfold at_
  rw [List.getElem?_eq_getElem inside]

end Bodies

section Leases

variable {lease : DHCPLease}

theorem returns_ipMask_iff (isIPv4 : lease.isIPv6 = false) :
    Returns lease.ipMask ↔
      16 ≤ ((parseIP (String.ofList (ipText lease.netmask))).getD []).length := by
  unfold DHCPLease.ipMask
  rw [isIPv4, if_neg Bool.false_ne_true]
  dsimp only
  generalize (parseIP (String.ofList (ipText lease.netmask))).getD [] = mask
  constructor
  · intro returns
    simp only [returns_bind_iff] at returns
    obtain ⟨-, -, -, -, -, -, last, found, -⟩ := returns
    exact returns_at_iff.mp ⟨last, found⟩
  · intro long
    rw [at_eq_ok (by omega : 12 < mask.length), at_eq_ok (by omega : 13 < mask.length),
      at_eq_ok (by omega : 14 < mask.length), at_eq_ok (by omega : 15 < mask.length)]
    exact ⟨_, rfl⟩

/-- The gateway is the first of the routers, so there has to be one. -/
theorem returns_convert_iff (isIPv4 : lease.isIPv6 = false) :
    Returns (convertDHCPLeaseToIPv4Config lease) ↔
      Returns lease.ipMask ∧ lease.routers ≠ [] := by
  have net : lease.ipNet = lease.ipMask >>= fun mask =>
      pure (some (lease.ipAddress, mask)) := by
    unfold DHCPLease.ipNet
    rw [isIPv4, if_neg Bool.false_ne_true]
  unfold convertDHCPLeaseToIPv4Config
  rw [net]
  cases lease.ipMask with
  | error crash =>
      exact iff_of_false (not_returns_error crash)
        fun both => not_returns_error crash both.1
  | ok mask =>
      have present : Returns (.ok mask : Body IPMask) := ⟨mask, rfl⟩
      rw [and_iff_right present, ← List.length_pos_iff, ← returns_at_iff]
      cases at_ lease.routers 0 with
      | error crash =>
          exact iff_of_false (not_returns_error crash) (not_returns_error crash)
      | ok gateway => exact iff_of_true ⟨_, rfl⟩ ⟨gateway, rfl⟩

theorem convert_eq_ok (isIPv4 : lease.isIPv6 = false) {mask : IPMask}
    (masked : lease.ipMask = .ok mask) (routers : lease.routers ≠ []) :
    ∃ gateway, convertDHCPLeaseToIPv4Config lease =
      .ok (some ⟨lease.ipAddress, mask, some gateway, 0⟩) := by
  obtain ⟨gateway, rest, routers⟩ := List.exists_cons_of_ne_nil routers
  refine ⟨gateway, ?_⟩
  unfold convertDHCPLeaseToIPv4Config DHCPLease.ipNet
  rw [isIPv4, if_neg Bool.false_ne_true, masked, routers]
  rfl

/-- The one address of a lease is brought to the link, unless the mask crashes
the library. -/
theorem returns_reconcileLinkAddrs_iff {setting : Setting Kernel}
    (documented : setting.library.Documented) (kernel : Kernel)
    {address : IPAddress} (ofFamily : OfFamily 4 address.ip address.mask)
    (unsized : address.mtu = 0) :
    Returns (reconcileLinkAddrs setting kernel [address] .inet dhcpProtocol) ↔
      (setting.Lists kernel → Contiguous address.mask) := by
  unfold reconcileLinkAddrs Setting.Lists
  cases linked : setting.link kernel with
  | error err =>
      refine iff_of_true ⟨_, rfl⟩ ?_
      rintro ⟨link, addrs, other, -⟩
      cases other
  | ok link =>
      refine (reconcileLink_returns_iff documented kernel dhcpProtocol ofFamily
        unsized).trans ?_
      constructor
      · rintro listed ⟨other, addrs, same, found⟩
        obtain rfl := Except.ok.inj same
        exact listed addrs found
      · exact fun listed addrs found => listed ⟨link, addrs, rfl, found⟩

/-- A lease of this client crashes the handler if it is for an IPv4 address and
lacks what the configuration is made of, or its mask crashes the library. -/
theorem returns_applyDHCPLease_iff {setting : Setting Kernel}
    (documented : setting.library.Documented) (kernel : Kernel) {mask : IPMask}
    (own : lease.dhcpClient = "jetdhcpc".toList) (isIPv4 : lease.isIPv6 = false)
    (ofFamily : OfFamily 4 lease.ipAddress mask) (masked : lease.ipMask = .ok mask) :
    Returns (applyDHCPLease setting kernel lease) ↔
      lease.routers ≠ [] ∧ (setting.Lists kernel → Contiguous mask) := by
  have convert := returns_convert_iff isIPv4
  unfold applyDHCPLease
  rw [if_neg (not_not.mpr own), isIPv4, if_neg Bool.false_ne_true]
  by_cases routers : lease.routers = []
  · refine iff_of_false (fun returns => ?_) fun both => both.1 routers
    obtain ⟨config, converted, -⟩ := returns_bind_iff.mp returns
    exact (convert.mp ⟨config, converted⟩).2 routers
  · obtain ⟨gateway, converted⟩ := convert_eq_ok isIPv4 masked routers
    rw [converted, and_iff_right routers]
    exact returns_reconcileLinkAddrs_iff documented kernel ofFamily rfl

theorem returns_onLeaseChange_iff (setting : Setting Kernel) (kernel : Kernel)
    (im : Manager) : Returns (onLeaseChange setting kernel im lease) ↔
      (setting.handles → Returns (applyDHCPLease setting kernel lease)) := by
  unfold onLeaseChange Setting.handles
  split
  · rename_i other
    exact iff_of_true ⟨_, rfl⟩ fun handles => absurd handles other
  · rename_i handles
    rw [forall_prop_of_true (not_not.mp handles)]
    cases applyDHCPLease setting kernel lease with
    | error crash =>
        exact iff_of_false (not_returns_error crash) (not_returns_error crash)
    | ok outcome => exact iff_of_true ⟨_, rfl⟩ ⟨_, rfl⟩

end Leases

section Answers

variable {lease : Lease} {iface : Text}

/-- What the handler needs of the lease for an ACK -/
structure OfACK (l : ACK) (lease : Lease) : Prop where
  ipAddress : lease.lease.ipAddress = l.yourIPAddr
  netmask : lease.lease.netmask = l.subnetMask
  routers : lease.lease.routers = l.router
  leaseTime : lease.lease.leaseTime = l.ipAddressLeaseTime defaultLeaseTime
  renewalTime :
    lease.lease.renewalTime = l.ipAddressRenewalTime defaultRenewalTime

theorem ofACK_of_fromNclient4Lease {l : ACK}
    (made : fromNclient4Lease l iface = .ok lease) : OfACK l lease := by
  unfold fromNclient4Lease at made
  cases mtu : leaseMTU l.interfaceMTU with
  | error crash =>
      rw [mtu] at made
      cases made
  | ok value =>
      rw [mtu] at made
      cases made
      exact ⟨rfl, rfl, rfl, rfl, rfl⟩

/-- Two bytes are read of an MTU that is there. -/
theorem returns_fromNclient4Lease_iff {l : ACK} :
    Returns (fromNclient4Lease l iface) ↔ l.interfaceMTU.length ≠ 1 := by
  have mtu : Returns (leaseMTU l.interfaceMTU) ↔ l.interfaceMTU.length ≠ 1 := by
    unfold leaseMTU
    split
    · rename_i present
      have some := List.length_pos_iff.mpr present
      rw [returns_uint16_iff]
      omega
    · rename_i absent
      rw [not_not.mp absent]
      simp
  rw [← mtu]
  unfold fromNclient4Lease
  generalize leaseMTU l.interfaceMTU = value
  cases value with
  | error crash =>
      exact iff_of_false (not_returns_error crash) (not_returns_error crash)
  | ok mtu => exact iff_of_true ⟨_, rfl⟩ ⟨_, rfl⟩

theorem isIPv6_of_ack {l : ACK} (ofACK : OfACK l lease) :
    lease.toDHCPLease.isIPv6 = false := by
  have address : lease.toDHCPLease.ipAddress = l.yourIPAddr := ofACK.ipAddress
  unfold DHCPLease.isIPv6
  rw [address, to4, if_pos l.isIPv4]
  rfl

/-- The mask of an ACK is written and parsed again. -/
theorem ipMask_ack {l : ACK} (ofACK : OfACK l lease) (masked : l.subnetMask ≠ []) :
    lease.toDHCPLease.ipMask = .ok l.subnetMask := by
  have mask : lease.toDHCPLease.netmask = l.subnetMask := ofACK.netmask
  have four := l.isMask.resolve_left masked
  unfold DHCPLease.ipMask
  rw [isIPv6_of_ack ofACK, if_neg Bool.false_ne_true, mask, parseIP_ipText four]
  match l.subnetMask, four with
  | [a, b, c, d], _ => rfl

/-- What the handler does with the lease for an ACK -/
theorem returns_onLeaseChange_ack_iff {setting : Setting Kernel}
    (documented : setting.library.Documented) (kernel : Kernel) (im : Manager)
    {l : ACK} (ofACK : OfACK l lease) :
    Returns (onLeaseChange setting kernel im lease.toDHCPLease) ↔
      (setting.handles → l.subnetMask ≠ [] ∧ l.router ≠ [] ∧
        (setting.Lists kernel → Contiguous l.subnetMask)) := by
  have isIPv4 := isIPv6_of_ack ofACK
  have routers : lease.toDHCPLease.routers = l.router := ofACK.routers
  have netmask : lease.toDHCPLease.netmask = l.subnetMask := ofACK.netmask
  have own : lease.toDHCPLease.dhcpClient = "jetdhcpc".toList := rfl
  have address : lease.toDHCPLease.ipAddress = l.yourIPAddr := ofACK.ipAddress
  refine (returns_onLeaseChange_iff setting kernel im).trans
    (imp_congr_right fun _ => ?_)
  by_cases masked : l.subnetMask = []
  · refine iff_of_false (fun returns => ?_) fun all => all.1 masked
    unfold applyDHCPLease at returns
    rw [if_neg (not_not.mpr own), isIPv4, if_neg Bool.false_ne_true]
      at returns
    obtain ⟨config, converted, -⟩ := returns_bind_iff.mp returns
    have long := (returns_ipMask_iff isIPv4).mp
      ((returns_convert_iff isIPv4).mp ⟨config, converted⟩).1
    rw [netmask, masked] at long
    exact absurd long (by decide)
  · have ofFamily : OfFamily 4 lease.toDHCPLease.ipAddress l.subnetMask := by
      refine ⟨?_, l.isMask.resolve_left masked⟩
      rw [address]
      unfold canonical to4
      rw [if_pos l.isIPv4]
      exact l.isIPv4
    rw [returns_applyDHCPLease_iff documented kernel own isIPv4 ofFamily
      (ipMask_ack ofACK masked), routers, and_iff_right masked]

theorem returns_handleLeaseChange_iff (setting : Setting Kernel)
    (state : State Kernel) (found : Option Lease) :
    Returns (handleLeaseChange setting state found) ↔
      ∃ lease, found = some lease ∧ Returns (onLeaseChange setting state.kernel
        state.manager lease.toDHCPLease) := by
  cases found with
  | none => exact iff_of_false (not_returns_error _) (by simp)
  | some lease =>
      simp only [Option.some.injEq, exists_eq_left']
      change Returns (onLeaseChange setting state.kernel state.manager
        lease.toDHCPLease >>= _) ↔ _
      cases onLeaseChange setting state.kernel state.manager
        lease.toDHCPLease with
      | error crash =>
          exact iff_of_false (not_returns_error crash) (not_returns_error crash)
      | ok manager => exact iff_of_true ⟨_, rfl⟩ ⟨_, rfl⟩

theorem requestRound_eq {setting : Setting Kernel} {state : State Kernel}
    {answer : Answer} (answered : answer ≠ .failed) :
    requestRound setting iface state answer =
      (do
        let lease ← answer.lease iface
        let state ← handleLeaseChange setting { state with attempt := 0 } lease
        let lease ← deref lease
        return (state, getRenewalTime lease.lease)) := by
  cases answer with
  | failed => exact absurd rfl answered
  | ack l => rfl
  | reply l => rfl

theorem answer_lease_ack_iff {l : ACK} :
    (Answer.ack l).lease iface = .ok (some lease) ↔
      fromNclient4Lease l iface = .ok lease := by
  unfold Answer.lease
  dsimp only
  cases fromNclient4Lease l iface with
  | error crash => simp
  | ok other => simp

/-- A round that returns has got a lease, and the handler is done with it. -/
theorem requestRound_eq_ok_iff {setting : Setting Kernel}
    {state next : State Kernel} {answer : Answer} {timer : Int}
    (answered : answer ≠ .failed) :
    requestRound setting iface state answer = .ok (next, timer) ↔
      ∃ lease, answer.lease iface = .ok (some lease) ∧
        handleLeaseChange setting { state with attempt := 0 } (some lease) =
          .ok next ∧
        timer = getRenewalTime lease.lease := by
  rw [requestRound_eq answered, bind_eq_ok_iff]
  constructor
  · rintro ⟨found, made, rest⟩
    obtain ⟨after, handled, rest⟩ := bind_eq_ok_iff.mp rest
    cases found with
    | none => cases handled
    | some lease =>
        cases rest
        exact ⟨lease, made, handled, rfl⟩
  · rintro ⟨lease, made, handled, rfl⟩
    exact ⟨some lease, made, bind_eq_ok_iff.mpr ⟨next, handled, rfl⟩⟩

theorem returns_requestRound_iff_lease (setting : Setting Kernel) (iface : Text)
    (state : State Kernel) {answer : Answer} (answered : answer ≠ .failed) :
    Returns (requestRound setting iface state answer) ↔
      ∃ lease, answer.lease iface = .ok (some lease) ∧
        Returns (onLeaseChange setting state.kernel state.manager
          lease.toDHCPLease) := by
  have handles (lease : Lease) := returns_handleLeaseChange_iff setting
    { state with attempt := 0 } (some lease)
  constructor
  · rintro ⟨⟨next, timer⟩, round⟩
    obtain ⟨lease, made, handled, -⟩ := (requestRound_eq_ok_iff answered).mp round
    obtain ⟨_, same, returns⟩ := (handles lease).mp ⟨next, handled⟩
    cases same
    exact ⟨lease, made, returns⟩
  · rintro ⟨lease, made, returns⟩
    obtain ⟨next, handled⟩ := (handles lease).mpr ⟨lease, rfl, returns⟩
    exact ⟨(next, getRenewalTime lease.lease),
      (requestRound_eq_ok_iff answered).mpr ⟨lease, made, handled, rfl⟩⟩

theorem returns_ack_iff {setting : Setting Kernel}
    (documented : setting.library.Documented) (state : State Kernel) (l : ACK) :
    Returns (requestRound setting iface state (.ack l)) ↔
      Complete setting state.kernel (.ack l) := by
  rw [returns_requestRound_iff_lease setting iface state (by simp)]
  have handles := fun lease (ofACK : OfACK l lease) =>
    returns_onLeaseChange_ack_iff documented state.kernel state.manager ofACK
  constructor
  · rintro ⟨lease, same, returns⟩
    have fromACK := answer_lease_ack_iff.mp same
    exact ⟨returns_fromNclient4Lease_iff.mp ⟨lease, fromACK⟩,
      (handles lease (ofACK_of_fromNclient4Lease fromACK)).mp returns⟩
  · rintro ⟨mtu, rest⟩
    obtain ⟨lease, fromACK⟩ := (@returns_fromNclient4Lease_iff iface l).mpr mtu
    exact ⟨lease, answer_lease_ack_iff.mpr fromACK,
      (handles lease (ofACK_of_fromNclient4Lease fromACK)).mpr rest⟩

/-- What the handler needs of the lease for a reply -/
structure OfReply (address : IAAddress) (lease : Lease) : Prop where
  ipAddress : lease.lease.ipAddress = address.ipv6Addr
  routers : lease.lease.routers = []
  leaseTime : lease.lease.leaseTime = 0
  renewalTime : lease.lease.renewalTime = 0

theorem fromNclient6Lease_eq_some {l : Reply} :
    fromNclient6Lease l iface = some lease →
      ∃ iana ∈ l.oneIANA, ∃ address ∈ iana.oneAddress, OfReply address lease := by
  intro made
  simp only [fromNclient6Lease, Option.bind_eq_bind, Option.bind_eq_some_iff,
    Option.pure_def, Option.some.injEq] at made
  obtain ⟨iana, isIANA, address, isAddress, rfl⟩ := made
  exact ⟨iana, isIANA, address, isAddress, rfl, rfl, rfl, rfl⟩

theorem exists_fromNclient6Lease {l : Reply} {iana : IANA} {address : IAAddress}
    (isIANA : iana ∈ l.oneIANA) (isAddress : address ∈ iana.oneAddress) :
    ∃ lease, fromNclient6Lease l iface = some lease ∧ OfReply address lease := by
  unfold fromNclient6Lease
  rw [Option.mem_def.mp isIANA, Option.bind_eq_bind, Option.bind_some,
    Option.mem_def.mp isAddress]
  exact ⟨_, rfl, rfl, rfl, rfl, rfl⟩

/-- A lease for a reply has no routers. -/
theorem returns_onLeaseChange_reply_iff (setting : Setting Kernel)
    (kernel : Kernel) (im : Manager) {address : IAAddress}
    (ofReply : OfReply address lease) :
    Returns (onLeaseChange setting kernel im lease.toDHCPLease) ↔
      (setting.handles → to4 address.ipv6Addr = none) := by
  have routers : lease.toDHCPLease.routers = [] := ofReply.routers
  have isIPv6 : lease.toDHCPLease.isIPv6 = decide (to4 address.ipv6Addr = none) :=
    congrArg (fun ip => decide (to4 ip = none)) ofReply.ipAddress
  have own : lease.toDHCPLease.dhcpClient = "jetdhcpc".toList := rfl
  refine (returns_onLeaseChange_iff setting kernel im).trans
    (imp_congr_right fun _ => ?_)
  unfold applyDHCPLease
  rw [if_neg (not_not.mpr own), isIPv6]
  by_cases unmapped : to4 address.ipv6Addr = none
  · rw [if_pos (decide_eq_true unmapped)]
    exact iff_of_true ⟨_, rfl⟩ unmapped
  · rw [decide_eq_false unmapped, if_neg Bool.false_ne_true]
    refine iff_of_false (fun returns => ?_) unmapped
    obtain ⟨config, converted, -⟩ := returns_bind_iff.mp returns
    exact ((returns_convert_iff (isIPv6.trans (decide_eq_false unmapped))).mp
      ⟨config, converted⟩).2 routers

theorem returns_reply_iff (setting : Setting Kernel) (state : State Kernel)
    (l : Reply) : Returns (requestRound setting iface state (.reply l)) ↔
      Complete setting state.kernel (.reply l) := by
  rw [returns_requestRound_iff_lease setting iface state (by simp)]
  unfold Complete
  constructor
  · rintro ⟨lease, made, returns⟩
    obtain ⟨iana, isIANA, address, isAddress, ofReply⟩ :=
      fromNclient6Lease_eq_some (Except.ok.inj made)
    exact ⟨iana, isIANA, address, isAddress,
      (returns_onLeaseChange_reply_iff setting _ _ ofReply).mp returns⟩
  · rintro ⟨iana, isIANA, address, isAddress, unmapped⟩
    obtain ⟨lease, made, ofReply⟩ :=
      @exists_fromNclient6Lease iface l iana address isIANA isAddress
    refine ⟨lease, congrArg Except.ok made, ?_⟩
    exact (returns_onLeaseChange_reply_iff setting _ _ ofReply).mpr unmapped

end Answers

/-- A round returns exactly when the answer has what the lease is made of. -/
theorem returns_requestRound_iff {Kernel : Type} (setting : Setting Kernel)
    (documented : setting.library.Documented) (iface : Text)
    (state : State Kernel) (answer : Answer) :
    Returns (requestRound setting iface state answer) ↔
      Complete setting state.kernel answer := by
  cases answer with
  | failed => exact iff_of_true ⟨_, rfl⟩ trivial
  | ack l => exact returns_ack_iff documented state l
  | reply l => exact returns_reply_iff setting state l

/-- An ACK with an address only -/
def bareACK : ACK where
  router := []
  yourIPAddr := [192, 168, 0, 10]
  subnetMask := []
  broadcastAddress := []
  ntpServers := []
  hostName := []
  domainName := []
  domainSearch := none
  dns := []
  classIdentifier := []
  serverIdentifier := []
  interfaceMTU := []
  message := []
  leaseTime := none
  renewalTime := none
  isIPv4 := rfl
  isMask := .inl rfl

/-- A kernel that does as it is told, with the addresses and routes it has -/
structure Table where
  addrs : List Address := []
  routes : List Route := []

def tableLibrary : Library Crash Table where
  addrList := fun table link family => .ok (table.addrs.filter fun address =>
    address.link = link ∧ address.family = family ∧
      address.mask.length = family.bytes ∧ Contiguous address.mask)
  defaultRoutes := fun table family =>
    .ok (table.routes.filter fun route => route.family = family)
  perform := fun table operation =>
    match operation with
    | .setMTU _ _ => .ok table
    | .addrAdd link ip mask =>
        if familyOf ip = .inet ∧ ¬ Contiguous mask then
          .error (.panic (.indexOutOfRange 0 0))
        else .ok { table with
          addrs := table.addrs ++ [⟨link, familyOf ip, ip, mask⟩] }
    | .addrDel link ip mask =>
        if familyOf ip = .inet ∧ ¬ Contiguous mask then
          .error (.panic (.indexOutOfRange 0 0))
        else .ok { table with
          addrs := table.addrs.erase ⟨link, familyOf ip, ip, mask⟩ }
    | .routeAdd route => .ok { table with routes := table.routes ++ [route] }
    | .routeDel route => .ok { table with routes := table.routes.erase route }

theorem tableLibrary_documented : tableLibrary.Documented where
  listed := by
    intro table link addrs found address member
    obtain rfl := Except.ok.inj found
    exact (of_decide_eq_true (List.mem_filter.mp member).2).2.2
  returns := by
    intro table operation plain
    cases operation with
    | addrAdd link ip mask =>
        exact ⟨_, if_neg fun both => both.2 (plain both.1).2⟩
    | addrDel link ip mask =>
        exact ⟨_, if_neg fun both => both.2 (plain both.1).2⟩
    | setMTU | routeAdd | routeDel => exact ⟨_, rfl⟩
  panics := fun table link ip mask family _ mixed =>
    ⟨_, if_pos ⟨family, mixed⟩⟩

def dhcpSetting : Setting Table where
  ipv4Mode := "dhcp"
  link := fun _ => .ok ⟨2, 1500⟩
  library := tableLibrary
  orders := ⟨⟨values, fun _ => .refl _⟩, ⟨values, fun _ => .refl _⟩⟩

/-- An ACK with a mask and a router for a lease of so many seconds -/
def leaseFor (seconds : UInt32) : ACK :=
  { bareACK with
    router := [[192, 168, 0, 1]]
    subnetMask := [255, 255, 255, 0]
    leaseTime := some seconds
    isMask := .inr rfl }

/-- A mask with a hole crashes the device, one without does not. -/
theorem returns_requestRound_iff_contiguous :
    Returns (requestRound dhcpSetting [] ⟨{}, 0, {}, {}⟩
        (.ack (leaseFor 3600))) ∧
      ¬ Returns (requestRound dhcpSetting [] ⟨{}, 0, {}, {}⟩
        (.ack { leaseFor 3600 with
          subnetMask := [255, 0, 255, 0]
          isMask := .inr rfl })) := by
  constructor
  · exact (returns_requestRound_iff dhcpSetting tableLibrary_documented [] _
      _).mpr ⟨by decide, fun _ => ⟨by decide, by decide, fun _ => by decide⟩⟩
  · intro returns
    have complete := (returns_requestRound_iff dhcpSetting
      tableLibrary_documented [] _ _).mp returns
    exact absurd ((complete.2 rfl).2.2 ⟨_, _, rfl, rfl⟩) (by decide)

/-- An ACK without a subnet mask crashes the device. -/
theorem not_returns_bareACK :
    ¬ ∀ (setting : Setting Table) (iface : Text) (state : State Table)
      (answer : Answer), setting.library.Documented →
        Returns (requestRound setting iface state answer) := by
  intro always
  obtain ⟨value, same⟩ := always dhcpSetting [] ⟨{}, 0, {}, {}⟩ (.ack bareACK)
    tableLibrary_documented
  have crash : requestRound dhcpSetting [] ⟨{}, 0, {}, {}⟩ (.ack bareACK) =
      .error (.panic (.indexOutOfRange 12 0)) := rfl
  rw [crash] at same
  cases same

end DhcpAnswers

end JetKvm
