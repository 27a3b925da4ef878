import JetKvm.GoIpText

/-!
# Addresses and default routes by netlink

What the netlink library is asked and told about the addresses of a link and
the default routes of the main table.  The library and the kernel behind it are
not described further than its documentation does.
-/

namespace JetKvm

namespace Netlink

open IpText

inductive Family where
  | inet
  | inet6
  deriving DecidableEq, Repr

def Family.bytes : Family → Nat
  | .inet => 4
  | .inet6 => 16

/-- `nl.GetIPFamily` -/
def familyOf (ip : IP) : Family :=
  if (canonical ip).length ≤ 4 then .inet else .inet6

structure Address where
  link : Nat
  family : Family
  ip : IP
  mask : IPMask
  deriving DecidableEq, Repr

structure Route where
  link : Nat
  family : Family
  gw : IP
  priority : Nat
  protocol : Nat
  deriving DecidableEq, Repr

inductive Operation where
  | setMTU (link : Nat) (mtu : Int)
  | addrAdd (link : Nat) (ip : IP) (mask : IPMask)
  | addrDel (link : Nat) (ip : IP) (mask : IPMask)
  | routeAdd (route : Route)
  | routeDel (route : Route)
  deriving DecidableEq, Repr

/-- The library, with what is left of a kernel by a call that succeeds or fails;
a call may panic as well. -/
structure Library (Crash Kernel : Type) where
  addrList : Kernel → Nat → Family → Except String (List Address)
  defaultRoutes : Kernel → Family → Except String (List Route)
  perform : Kernel → Operation → Except Crash Kernel

/-- The ones of the mask come first. -/
def Contiguous (mask : IPMask) : Prop := simpleMaskLength mask ≠ none

instance (mask : IPMask) : Decidable (Contiguous mask) :=
  inferInstanceAs (Decidable (_ ≠ _))

/-- An IPv4 address has a contiguous mask of its family. -/
def Operation.Plain : Operation → Prop
  | .addrAdd _ ip mask | .addrDel _ ip mask =>
      familyOf ip = .inet → mask.length = 4 ∧ Contiguous mask
  | _ => True

namespace Library

variable {Crash Kernel : Type} (library : Library Crash Kernel)

/-- The calls one after the other; errors are only logged. -/
def run (kernel : Kernel) (operations : List Operation) : Except Crash Kernel :=
  operations.foldlM library.perform kernel

/-- The addresses of a list have the mask of a prefix length.  The broadcast
address of an IPv4 address is made from the size of its mask, which is 0 for one
that is not contiguous, so that its first byte is out of range. -/
structure Documented : Prop where
  listed : ∀ {kernel link addrs}, library.addrList kernel link .inet = .ok addrs →
    ∀ address ∈ addrs, address.mask.length = 4 ∧ Contiguous address.mask
  returns : ∀ kernel {operation}, operation.Plain →
    ∃ next, library.perform kernel operation = .ok next
  panics : ∀ kernel link {ip mask}, familyOf ip = .inet → mask.length = 4 →
    ¬ Contiguous mask →
      ∃ crash, library.perform kernel (.addrAdd link ip mask) = .error crash

variable {library}

theorem run_cons_eq_ok_iff {kernel last : Kernel} {operation : Operation}
    {operations : List Operation} :
    library.run kernel (operation :: operations) = .ok last ↔
      ∃ next, library.perform kernel operation = .ok next ∧
        library.run next operations = .ok last := by
  unfold run
  rw [List.foldlM_cons]
  cases library.perform kernel operation with
  | error crash =>
      refine ⟨fun ends => (nomatch ends), ?_⟩
      rintro ⟨next, ends, -⟩
      cases ends
  | ok next =>
      refine ⟨fun ends => ⟨next, rfl, ends⟩, ?_⟩
      rintro ⟨other, same, ends⟩
      obtain rfl := Except.ok.inj same
      exact ends

theorem Documented.run (documented : library.Documented)
    {operations : List Operation}
    (plain : ∀ operation ∈ operations, operation.Plain) (kernel : Kernel) :
    ∃ last, library.run kernel operations = .ok last := by
  induction operations generalizing kernel with
  | nil => exact ⟨kernel, rfl⟩
  | cons operation operations ih =>
      obtain ⟨next, performed⟩ :=
        documented.returns kernel (plain operation List.mem_cons_self)
      obtain ⟨last, ends⟩ :=
        ih (fun other member => plain other (List.mem_cons_of_mem _ member)) next
      exact ⟨last, run_cons_eq_ok_iff.mpr ⟨next, performed, ends⟩⟩

/-- Each call of a run that ends has returned. -/
theorem perform_of_run {operations : List Operation} {kernel last : Kernel}
    (ends : library.run kernel operations = .ok last) :
    ∀ operation ∈ operations, ∃ before next,
      library.perform before operation = .ok next := by
  induction operations generalizing kernel with
  | nil => exact fun operation member => absurd member List.not_mem_nil
  | cons first operations ih =>
      obtain ⟨next, performed, rest⟩ := run_cons_eq_ok_iff.mp ends
      intro operation member
      rcases List.mem_cons.mp member with rfl | later
      · exact ⟨kernel, next, performed⟩
      · exact ih rest operation later

end Library

end Netlink

end JetKvm
