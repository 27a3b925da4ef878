import JetKvm.Netlink
import Mathlib.Data.List.AList

/-!
# Reconciling a link

How the addresses and the default routes of one family on one link are brought
to the expected ones (`pkg/nmlite/link/manager.go`): both are compared with
maps keyed by printed texts, the stale ones are deleted and the missing ones
added.  Link-local addresses are passed over.
-/

namespace JetKvm

namespace LinkReconcile

open IpText Netlink

abbrev Keyed (V : Type) := AList fun _ : List Char => V

def values {V : Type} (keyed : Keyed V) : List V :=
  keyed.entries.map Sigma.snd

/-- Of values with one key the last one stays. -/
def index {V : Type} (key : V → List Char) (listed : List V) : Keyed V :=
  listed.foldl (fun keyed value => keyed.insert (key value) value) ∅

/-- An order in which a map is gone through -/
structure Order (V : Type) where
  visit : Keyed V → List V
  all : ∀ keyed, (visit keyed).Perm (values keyed)

structure IPAddress where
  ip : IP
  mask : IPMask
  gateway : Option IP
  mtu : Int
  deriving DecidableEq, Repr

def IPAddress.string (address : IPAddress) : List Char :=
  ipNetText address.ip address.mask

def IPAddress.compare (address : IPAddress) (current : Address) : Bool :=
  if !equal address.ip current.ip then false
  else if address.mask ≠ current.mask then false
  else true

structure Link where
  index : Nat
  mtu : Int
  deriving DecidableEq, Repr

/-- The smallest MTU that an expected address asks for. -/
def expectedMTU (expected : List IPAddress) : Int :=
  expected.foldl (fun least address =>
    if address.mtu ≠ 0 then
      if least = 0 ∨ address.mtu < least then address.mtu else least
    else least) 0

def expectedAddrs (expected : List IPAddress) : Keyed IPAddress :=
  index IPAddress.string expected

def expectedGateways (expected : List IPAddress) : Keyed IP :=
  index ipText (expected.filterMap IPAddress.gateway)

structure AddressChanges where
  toRemove : List Address
  toUpdate : List IPAddress
  remaining : Keyed IPAddress

def checkAddresses : List Address → Keyed IPAddress → AddressChanges
  | [], expected => ⟨[], [], expected⟩
  | address :: addrs, expected =>
      if isLinkLocalUnicast address.ip then checkAddresses addrs expected
      else
        let key := ipNetText address.ip address.mask
        match expected.lookup key with
        | none =>
            let changes := checkAddresses addrs expected
            { changes with toRemove := address :: changes.toRemove }
        | some expectedAddr =>
            let changes := checkAddresses addrs (expected.erase key)
            if expectedAddr.compare address then changes
            else { changes with toUpdate := expectedAddr :: changes.toUpdate }

structure RouteChanges where
  toRemove : List Route
  remaining : Keyed IP

def checkRoutes (link : Link) : List Route → Keyed IP → RouteChanges
  | [], expected => ⟨[], expected⟩
  | route :: routes, expected =>
      if route.link ≠ link.index then checkRoutes link routes expected
      else
        let key := ipText route.gw
        match expected.lookup key with
        | none =>
            let changes := checkRoutes link routes expected
            { changes with toRemove := route :: changes.toRemove }
        | some _ => checkRoutes link routes (expected.erase key)

/-- The orders in which the maps are gone through -/
structure Orders where
  addrs : Order IPAddress
  gateways : Order IP

def mtuOperations (link : Link) (expected : List IPAddress) :
    List Operation :=
  if expectedMTU expected ≠ 0 ∧ expectedMTU expected ≠ link.mtu then
    [.setMTU link.index (expectedMTU expected)]
  else []

def addressOperations (orders : Orders) (link : Link)
    (changes : AddressChanges) : List Operation :=
  let toAdd := orders.addrs.visit changes.remaining ++ changes.toUpdate
  changes.toUpdate.map (fun address =>
      .addrDel link.index address.ip address.mask) ++
    changes.toRemove.map (fun address =>
      .addrDel link.index address.ip address.mask) ++
    toAdd.map fun address => .addrAdd link.index address.ip address.mask

def routeOperations (orders : Orders) (link : Link) (family : Family)
    (protocol : Nat) (changes : RouteChanges) : List Operation :=
  changes.toRemove.map .routeDel ++
    (orders.gateways.visit changes.remaining).map fun gateway =>
      .routeAdd ⟨link.index, family, gateway, 0, protocol⟩

section Reconcile

variable {Crash Kernel : Type} (library : Library Crash Kernel)
variable (orders : Orders) (kernel : Kernel) (link : Link)

/-- An error is a value that is returned. -/
def reconcileDefaultRoutes (expected : Keyed IP) (family : Family)
    (protocol : Nat) : Except Crash (Kernel × Except String Unit) :=
  match library.defaultRoutes kernel family with
  | .error err => pure (kernel, .error ("failed to get default routes: " ++ err))
  | .ok routes => do
      let rerouted ← library.run kernel (routeOperations orders link family
        protocol (checkRoutes link routes expected))
      return (rerouted, .ok ())

def reconcileLink (expected : List IPAddress) (family : Family)
    (protocol : Nat) : Except Crash (Kernel × Except String Unit) := do
  let resized ← library.run kernel (mtuOperations link expected)
  match library.addrList resized link.index family with
  | .error err => return (resized, .error ("failed to get addresses: " ++ err))
  | .ok addrs =>
      let addressed ← library.run resized (addressOperations orders link
        (checkAddresses addrs (expectedAddrs expected)))
      -- an error is logged
      let (rerouted, _) ← reconcileDefaultRoutes library orders addressed link
        (expectedGateways expected) family protocol
      return (rerouted, .ok ())

end Reconcile

/-! ### Calls that panic -/

variable {Crash Kernel : Type} {library : Library Crash Kernel}
variable {orders : Orders} {link : Link}

theorem checkAddresses_subset (addrs : List Address) :
    ∀ expected : Keyed IPAddress,
      let changes := checkAddresses addrs expected
      changes.toRemove ⊆ addrs ∧ changes.toUpdate ⊆ values expected ∧
        values changes.remaining ⊆ values expected := by
  induction addrs with
  | nil => exact fun _ => ⟨List.Subset.refl _, List.nil_subset _,
      List.Subset.refl _⟩
  | cons address addrs ih =>
      intro expected
      rw [checkAddresses]
      split
      · obtain ⟨removed, updated, remaining⟩ := ih expected
        exact ⟨List.Subset.trans removed (List.subset_cons_self _ _), updated,
          remaining⟩
      · dsimp only
        cases found : expected.lookup (ipNetText address.ip address.mask) with
        | none =>
            obtain ⟨removed, updated, remaining⟩ := ih expected
            exact ⟨List.cons_subset_cons _ removed, updated, remaining⟩
        | some expectedAddr =>
            obtain ⟨removed, updated, remaining⟩ :=
              ih (expected.erase (ipNetText address.ip address.mask))
            have fewer : values (expected.erase
                (ipNetText address.ip address.mask)) ⊆ values expected :=
              List.map_subset _ (List.kerase_sublist _ _).subset
            have listed : expectedAddr ∈ values expected :=
              List.mem_map_of_mem (AList.mem_lookup_iff.mp found)
            have kept := List.Subset.trans remaining fewer
            have removedLater :=
              List.Subset.trans removed (List.subset_cons_self address _)
            dsimp only
            split
            · exact ⟨removedLater, List.Subset.trans updated fewer, kept⟩
            · exact ⟨removedLater, List.cons_subset.mpr
                ⟨listed, List.Subset.trans updated fewer⟩, kept⟩

/-- Addresses that are not expected take nothing away. -/
theorem checkAddresses_remaining {addrs : List Address}
    {expected : Keyed IPAddress}
    (stale : ∀ address ∈ addrs,
      expected.lookup (ipNetText address.ip address.mask) = none) :
    (checkAddresses addrs expected).remaining = expected := by
  induction addrs with
  | nil => rfl
  | cons address addrs ih =>
      have rest := ih fun other member => stale other (List.mem_cons_of_mem _ member)
      rw [checkAddresses]
      split
      · exact rest
      · simp only [stale address List.mem_cons_self]
        exact rest

theorem values_expectedAddrs_singleton (address : IPAddress) :
    values (expectedAddrs [address]) = [address] := rfl

/-- What the calls for one IPv4 address are given -/
theorem plain_addressOperations {addrs : List Address} {address : IPAddress}
    (listed : ∀ address ∈ addrs,
      address.mask.length = 4 ∧ Contiguous address.mask)
    (masked : address.mask.length = 4) (contiguous : Contiguous address.mask) :
    ∀ operation ∈ addressOperations orders link
        (checkAddresses addrs (expectedAddrs [address])), operation.Plain := by
  obtain ⟨removed, updated, remaining⟩ :=
    checkAddresses_subset addrs (expectedAddrs [address])
  rw [values_expectedAddrs_singleton] at updated remaining
  have only : ∀ other ∈ [address],
      other.mask.length = 4 ∧ Contiguous other.mask := by
    intro other member
    rw [List.mem_singleton.mp member]
    exact ⟨masked, contiguous⟩
  intro operation member
  simp only [addressOperations, List.mem_append, List.mem_map] at member
  rcases member with (⟨other, member, rfl⟩ | ⟨other, member, rfl⟩) |
    ⟨other, member | member, rfl⟩
  · exact fun _ => only other (updated member)
  · exact fun _ => listed other (removed member)
  · exact fun _ => only other
      (remaining ((orders.addrs.all _).mem_iff.mp member))
  · exact fun _ => only other (updated member)

/-- An address whose mask is not contiguous is not there yet, so it is added. -/
theorem addrAdd_mem {addrs : List Address} {address : IPAddress}
    (listed : ∀ address ∈ addrs,
      address.mask.length = 4 ∧ Contiguous address.mask)
    (ofFamily : OfFamily 4 address.ip address.mask)
    (mixed : ¬ Contiguous address.mask) :
    .addrAdd link.index address.ip address.mask ∈ addressOperations orders link
      (checkAddresses addrs (expectedAddrs [address])) := by
  have stale : ∀ other ∈ addrs,
      (expectedAddrs [address]).lookup (ipNetText other.ip other.mask) =
        none := by
    intro other member
    obtain ⟨masked, contiguous⟩ := listed other member
    have different : ipNetText other.ip other.mask ≠ address.string := by
      intro same
      have masks := (ipNetText_inj (.inl rfl) ofFamily masked same).2
      exact mixed (masks ▸ contiguous)
    exact (AList.lookup_insert_ne different).trans (AList.lookup_empty _)
  have visited : address ∈ orders.addrs.visit
      (checkAddresses addrs (expectedAddrs [address])).remaining := by
    rw [checkAddresses_remaining stale, (orders.addrs.all _).mem_iff]
    exact List.mem_singleton_self address
  exact List.mem_append_right _
    (List.mem_map_of_mem (List.mem_append_left _ visited))

theorem reconcileDefaultRoutes_returns (documented : library.Documented)
    (kernel : Kernel) (expected : Keyed IP) (family : Family)
    (protocol : Nat) : ∃ result, reconcileDefaultRoutes library orders kernel
      link expected family protocol = .ok result := by
  unfold reconcileDefaultRoutes
  cases library.defaultRoutes kernel family with
  | error err => exact ⟨_, rfl⟩
  | ok routes =>
      have plain : ∀ operation ∈ routeOperations orders link family protocol
          (checkRoutes link routes expected), operation.Plain := by
        intro operation member
        rcases List.mem_append.mp member with member | member
        · obtain ⟨route, -, rfl⟩ := List.mem_map.mp member
          trivial
        · obtain ⟨gateway, -, rfl⟩ := List.mem_map.mp member
          trivial
      obtain ⟨last, ends⟩ := documented.run plain kernel
      simp only [ends]
      exact ⟨_, rfl⟩

/-- With one IPv4 address and no MTU to set, the call returns exactly when the
addresses cannot be listed or the mask is contiguous. -/
theorem reconcileLink_returns_iff (documented : library.Documented)
    (kernel : Kernel) {address : IPAddress} (protocol : Nat)
    (ofFamily : OfFamily 4 address.ip address.mask) (unsized : address.mtu = 0) :
    (∃ result, reconcileLink library orders kernel link [address] .inet
        protocol = .ok result) ↔
      (∀ addrs, library.addrList kernel link.index .inet = .ok addrs →
        Contiguous address.mask) := by
  have resize : mtuOperations link [address] = [] := by
    simp [mtuOperations, expectedMTU, unsized]
  have family : familyOf address.ip = .inet := by
    rw [familyOf, if_pos (Nat.le_of_eq ofFamily.1)]
  have nothing : library.run kernel [] = .ok kernel := rfl
  unfold reconcileLink
  rw [resize, nothing]
  dsimp only [bind, Except.bind]
  cases found : library.addrList kernel link.index .inet with
  | error err => exact iff_of_true ⟨_, rfl⟩ fun addrs other => (nomatch other)
  | ok addrs =>
      have listed := documented.listed found
      simp only [Except.ok.injEq, forall_eq']
      constructor
      · rintro ⟨result, ends⟩
        by_contra mixed
        cases addressed : library.run kernel (addressOperations orders link
            (checkAddresses addrs (expectedAddrs [address]))) with
        | error crash =>
            rw [addressed] at ends
            cases ends
        | ok last =>
            obtain ⟨before, next, performed⟩ := Library.perform_of_run addressed _
              (addrAdd_mem listed ofFamily mixed)
            obtain ⟨crash, panics⟩ := documented.panics before link.index family
              ofFamily.2 mixed
            rw [panics] at performed
            cases performed
      · intro contiguous
        obtain ⟨last, addressed⟩ := documented.run
          (plain_addressOperations listed ofFamily.2 contiguous) kernel
        obtain ⟨⟨rerouted, outcome⟩, ends⟩ := reconcileDefaultRoutes_returns
          documented last (expectedGateways [address]) .inet protocol
        refine ⟨(rerouted, .ok ()), ?_⟩
        rw [addressed]
        dsimp only
        rw [ends]
        rfl

end LinkReconcile

end JetKvm
