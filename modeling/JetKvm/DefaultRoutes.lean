import JetKvm.Netlink

/-!
# Default routes

Translation of `RouteList`, `ListDefaultRoutes`, `HasDefaultRoute` and
`RemoveDefaultRoute` of the netlink manager, on the main routing table with
routes deleted as asked for.
-/

namespace JetKvm

namespace DefaultRoutes

open IpText Netlink

/-- `IPMask.String` -/
def maskString (mask : IPMask) : List Char :=
  if mask = [] then ['<', 'n', 'i', 'l', '>'] else hexString mask

/-- A route as netlink reports it; no destination is a nil one. -/
structure Route where
  family : Family
  dst : Option (IP × IPMask)
  link : Nat
  gw : IP
  priority : Nat
  protocol : Nat
  deriving DecidableEq, Repr

abbrev Table := List Route

def ipv4zero : IP := v4InV6Prefix ++ List.replicate 4 0

def ipv6zero : IP := List.replicate 16 0

def zeroIP : Family → IP
  | .inet => ipv4zero
  | .inet6 => ipv6zero

/-- The zero prefix of the family -/
def isZeroPrefix (family : Family) (dst : IP × IPMask) : Bool :=
  equal dst.1 (zeroIP family) ∧ dst.2 = List.replicate family.bytes 0

/-- A default route has no destination or the zero prefix. -/
def Route.isDefault (family : Family) (route : Route) : Bool :=
  route.family = family ∧ (route.dst.all (isZeroPrefix family))

section Manager

variable (family : Family) (table : Table)

def routeList : List Route := table.filter (·.family = family)

def routeDel (route : Route) : Table := table.erase route

def listDefaultRoutes : List Route := table.filter (Route.isDefault family)

def hasDefaultRoute : Bool := 0 < (listDefaultRoutes family table).length

/-- A round of the loop of `RemoveDefaultRoute` -/
def checkRoute (route : Route) : Table :=
  match route.dst with
  | none => table
  | some (ip, mask) =>
      let table :=
        if family = .inet ∧ equal ip ipv4zero ∧
            maskString mask = "0.0.0.0/0".toList then
          routeDel table route
        else table
      if family = .inet6 ∧ equal ip ipv6zero ∧ maskString mask = "::/0".toList then
        routeDel table route
      else table

/-- The routes may fail to be listed. -/
def removeDefaultRoute (failure : Option String) : Except String Table :=
  match failure with
  | some err => .error ("failed to get routes: " ++ err)
  | none => .ok ((routeList family table).foldl (checkRoute family) table)

/-- Of the family no default route is left, and every other route is. -/
structure Removed (after : Table) : Prop where
  noneLeft : ∀ route ∈ after, route.isDefault family = false
  others : after.filter (fun route => !route.isDefault family) =
    table.filter fun route => !route.isDefault family

end Manager

section Masks

variable {family : Family} {table after : Table}

/-- A mask is printed as digits without punctuation. -/
theorem maskString_ne (text : List Char) (c : Char) (member : c ∈ text)
    (punctuation : isHex c = false) (notNil : c ∉ ['<', 'n', 'i', 'l', '>'])
    (mask : IPMask) : maskString mask ≠ text := by
  rintro rfl
  unfold maskString at member
  split at member
  · exact notNil member
  · rw [isHex_of_mem_hexString member] at punctuation
    cases punctuation

/-- The mask of no route is printed as a prefix. -/
theorem checkRoute_eq (route : Route) : checkRoute family table route = table := by
  have dotted := maskString_ne "0.0.0.0/0".toList '/' (by decide) (by decide)
    (by decide)
  have colons := maskString_ne "::/0".toList '/' (by decide) (by decide)
    (by decide)
  unfold checkRoute
  split
  · rfl
  · dsimp only
    rw [if_neg fun both => colons _ both.2.2, if_neg fun both => dotted _ both.2.2]

/-- No route is ever removed. -/
theorem removeDefaultRoute_eq_ok {failure : Option String}
    (removed : removeDefaultRoute family table failure = .ok after) :
    after = table := by
  cases failure with
  | some err => cases removed
  | none =>
      have kept : ∀ routes : List Route,
          routes.foldl (checkRoute family) table = table := by
        intro routes
        induction routes with
        | nil => rfl
        | cons route routes ih => rw [List.foldl_cons, checkRoute_eq, ih]
      exact (Except.ok.inj removed).symm.trans (kept _)

theorem hasDefaultRoute_iff :
    hasDefaultRoute family table = true ↔
      ∃ route ∈ table, route.isDefault family = true := by
  unfold hasDefaultRoute listDefaultRoutes
  rw [decide_eq_true_iff, List.length_pos_iff, ne_eq, List.filter_eq_nil_iff]
  simp

end Masks

/-- A removal that returns nil has removed the default routes exactly where
there was none. -/
theorem removed_iff_none (family : Family) (table after : Table)
    (failure : Option String)
    (removed : removeDefaultRoute family table failure = .ok after) :
    Removed family table after ↔ hasDefaultRoute family table = false := by
  rw [removeDefaultRoute_eq_ok removed, Bool.eq_false_iff, ne_eq,
    hasDefaultRoute_iff]
  constructor
  · rintro ⟨noneLeft, -⟩ ⟨route, listed, default⟩
    rw [noneLeft route listed] at default
    cases default
  · intro none
    refine ⟨fun route listed => ?_, rfl⟩
    rw [Bool.eq_false_iff]
    exact fun default => none ⟨route, listed, default⟩

def gatewayRoute : Route :=
  ⟨.inet, some ([0, 0, 0, 0], [0, 0, 0, 0]), 2, [192, 168, 0, 1], 0, 16⟩

def localRoute : Route :=
  ⟨.inet, some ([192, 168, 0, 0], [255, 255, 255, 0]), 2, [], 0, 2⟩

theorem removed_iff_none_local :
    Removed .inet [localRoute] [localRoute] ↔
      hasDefaultRoute .inet [localRoute] = false :=
  removed_iff_none .inet [localRoute] [localRoute] none rfl

/-- The default route through a gateway stays. -/
theorem not_removed_gateway :
    ¬ ∀ (family : Family) (table after : Table),
      removeDefaultRoute family table none = .ok after →
        Removed family table after := by
  intro always
  have removed := always .inet [gatewayRoute] [gatewayRoute] rfl
  have left := removed.noneLeft gatewayRoute (List.mem_singleton_self _)
  exact absurd left (by decide)

end DefaultRoutes

end JetKvm
