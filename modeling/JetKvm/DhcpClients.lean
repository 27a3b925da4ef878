import JetKvm.Netlink
import Mathlib.Logic.Function.Basic

/-!
# DHCP clients

The client of `pkg/nmlite/jetdhcpc` with a timer and a request loop for each
address family, and the client of `pkg/nmlite/dhcp.go` around it.  A request
loop is never ended, so every client that was ever made is kept.
-/

namespace JetKvm

namespace Dhcp

open Netlink

/-- Where a request loop is: it waits for its timer, brings the interface up,
or has sent a request. -/
inductive Phase where
  | waiting
  | ensuring
  | requesting
  deriving DecidableEq, Repr

/-- What a client has for one address family: the setting, the timer, the
request loop if one was started, and whether there is a lease. -/
structure Half where
  enabled : Bool
  armed : Bool := true
  loop : Option Phase := none
  lease : Bool := false
  deriving DecidableEq, Repr

abbrev Client := Family → Half

def newClient (ipv4 ipv6 : Bool) : Client
  | .inet => { enabled := ipv4 }
  | .inet6 => { enabled := ipv6 }

/-- The timer is stopped when the family is disabled, and is then reset. -/
def Half.setEnabled (enabled : Bool) (half : Half) : Half :=
  let changed := { half with enabled := enabled }
  if half.enabled = enabled then changed
  else
    let stopped :=
      if !enabled then { changed with lease := false, armed := false }
      else changed
    { stopped with armed := true }

def Client.setEnabled (family : Family) (enabled : Bool) (client : Client) :
    Client :=
  Function.update client family ((client family).setEnabled enabled)

def Client.setIPv4 : Bool → Client → Client := Client.setEnabled .inet

def Client.setIPv6 : Bool → Client → Client := Client.setEnabled .inet6

def Client.renew (client : Client) : Client := fun family =>
  { client family with armed := true }

def Client.start (client : Client) : Client := fun family =>
  if (client family).enabled then
    { client family with loop := some .waiting }
  else client family

/-! ### The request loop -/

inductive Tick where
  | fire
  | ensure (up : Bool)
  | answer (leased : Bool)
  deriving DecidableEq, Repr

/-- The timer is reset after a failure as well as after a lease. -/
def Half.tick (half : Half) : Tick → Option Half
  | .fire =>
      if half.loop = some .waiting ∧ half.armed then
        some { half with loop := some .ensuring, armed := false }
      else none
  | .ensure up =>
      if half.loop = some .ensuring then
        if up then some { half with loop := some .requesting }
        else some { half with loop := some .waiting, armed := true }
      else none
  | .answer leased =>
      if half.loop = some .requesting then
        some { half with
          loop := some .waiting, armed := true, lease := half.lease || leased }
      else none

/-- Whether there is a request loop that may still send a request. -/
def Half.canSend (half : Half) : Bool :=
  match half.loop with
  | none => false
  | some .waiting => half.armed
  | some _ => true

/-! ### The client of the network manager -/

inductive Underlying where
  | jetdhcpc (index : Nat)
  | udhcpc
  deriving DecidableEq, Repr

structure DHCPClient where
  clientType : String
  ipv4Enabled : Bool := false
  ipv6Enabled : Bool := false
  client : Option Underlying := none
  made : List Client := []

namespace DHCPClient

def onClient (change : Client → Client) (dc : DHCPClient) : DHCPClient :=
  match dc.client with
  | some (.jetdhcpc index) => { dc with made := dc.made.modify index change }
  | _ => dc

def setIPv4 (enabled : Bool) (dc : DHCPClient) : DHCPClient :=
  { dc with ipv4Enabled := enabled }.onClient (Client.setIPv4 enabled)

def setIPv6 (enabled : Bool) (dc : DHCPClient) : DHCPClient :=
  { dc with ipv6Enabled := enabled }.onClient (Client.setIPv6 enabled)

/-- A new client has the settings of the moment. -/
def start (dc : DHCPClient) : Except String DHCPClient :=
  if dc.client.isSome then .ok dc
  else
    match dc.clientType with
    | "jetdhcpc" =>
        .ok { dc with
          client := some (.jetdhcpc dc.made.length)
          made := dc.made ++
            [Client.start (newClient dc.ipv4Enabled dc.ipv6Enabled)] }
    | "udhcpc" => .ok { dc with client := some .udhcpc }
    | other =>
        .error ("failed to create DHCP client: invalid client type: " ++ other)

/-- The client is only forgotten. -/
def stop (dc : DHCPClient) : DHCPClient := { dc with client := none }

def renew (dc : DHCPClient) : Except String DHCPClient :=
  if dc.client = none then .error "DHCP client not started"
  else .ok (dc.onClient Client.renew)

def tick (dc : DHCPClient) (index : Nat) (family : Family) (tick : Tick) :
    Option DHCPClient := do
  let client ← dc.made[index]?
  let half ← (client family).tick tick
  pure { dc with made := dc.made.set index (Function.update client family half) }

end DHCPClient

/-! ### Request loops go on -/

/-- A request loop never waits for a timer that is not armed. -/
def Half.Live (half : Half) : Prop :=
  half.loop.isSome = true → half.canSend = true

theorem Half.Live.setEnabled {half : Half} (live : half.Live)
    (enabled : Bool) : (half.setEnabled enabled).Live := by
  obtain ⟨was, armed, loop, lease⟩ := half
  intro running
  by_cases same : was = enabled
  · rw [Half.setEnabled, if_pos same] at running ⊢
    exact live running
  · rw [Half.setEnabled, if_neg same] at running ⊢
    cases loop with
    | none => cases enabled <;> cases running
    | some phase => cases phase <;> cases enabled <;> rfl

@[simp] theorem Half.loop_setEnabled (half : Half) (enabled : Bool) :
    (half.setEnabled enabled).loop = half.loop := by
  rw [Half.setEnabled]
  split_ifs <;> rfl

theorem live_start_newClient (ipv4 ipv6 : Bool) (family : Family) :
    (Client.start (newClient ipv4 ipv6) family).Live := by
  rw [Half.Live]
  cases family <;> cases ipv4 <;> cases ipv6 <;> decide

theorem Client.live_setEnabled {client : Client}
    (live : ∀ family, (client family).Live) (changed : Family) (enabled : Bool)
    (family : Family) : (client.setEnabled changed enabled family).Live := by
  rw [Client.setEnabled]
  by_cases same : family = changed
  · subst same
    rw [Function.update_self]
    exact (live family).setEnabled enabled
  · rw [Function.update_of_ne same]
    exact live family

@[simp] theorem Client.loop_setEnabled (client : Client) (changed : Family)
    (enabled : Bool) (family : Family) :
    (client.setEnabled changed enabled family).loop = (client family).loop := by
  rw [Client.setEnabled]
  by_cases same : family = changed
  · subst same
    rw [Function.update_self, Half.loop_setEnabled]
  · rw [Function.update_of_ne same]

theorem Half.live_of_tick {half next : Half} {tick : Tick}
    (taken : half.tick tick = some next) :
    next.Live ∧ next.loop.isSome = half.loop.isSome := by
  cases tick with
  | fire =>
      rw [Half.tick, Option.ite_none_right_eq_some, Option.some.injEq] at taken
      obtain ⟨⟨waiting, -⟩, rfl⟩ := taken
      exact ⟨fun _ => rfl, by rw [waiting]; rfl⟩
  | ensure up =>
      rw [Half.tick, Option.ite_none_right_eq_some] at taken
      obtain ⟨ensuring, taken⟩ := taken
      rw [ensuring]
      cases up with
      | true =>
          cases taken
          exact ⟨fun _ => rfl, rfl⟩
      | false =>
          cases taken
          exact ⟨fun _ => rfl, rfl⟩
  | answer leased =>
      rw [Half.tick, Option.ite_none_right_eq_some, Option.some.injEq] at taken
      obtain ⟨requesting, rfl⟩ := taken
      exact ⟨fun _ => rfl, by rw [requesting]; rfl⟩

end Dhcp

end JetKvm
