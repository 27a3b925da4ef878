import JetKvm.DhcpClients
import JetKvm.FallibleCalls
import JetKvm.NetworkConfig

/-!
# The interface manager

How `pkg/nmlite/interface.go` applies a configuration to an interface, and what
it does when the link goes up or down.  What the operations on the interface
answer is given from outside; they leave the manager alone.
-/

namespace JetKvm

namespace InterfaceManager

open Netlink ConfParser Dhcp Fallible

inductive Failure where
  | error (text : String)
  | panic
  deriving DecidableEq, Repr

/-- `fmt.Errorf("context: %w", err)` -/
def Failure.wrap (context : String) : Failure → Failure
  | .error text => .error (context ++ ": " ++ text)
  | .panic => .panic

abbrev Answer := Except String Unit

/-- What the operations on the interface answer while a configuration is
applied. -/
structure Outside where
  reconcileIPv4 : Answer := .ok ()
  disableIPv4 : Answer := .ok ()
  reconcileIPv6 : Answer := .ok ()
  link : Answer := .ok ()
  ensureUp : Answer := .ok ()
  removeAddresses : Answer := .ok ()
  enableSLAAC : Answer := .ok ()
  enableLinkLocal : Answer := .ok ()
  disableIPv6 : Answer := .ok ()

structure Manager where
  config : NetworkConfig
  dhcpClient : DHCPClient
  linkUp : Bool := false
  started : Bool := false

abbrev ManagerCall := Fallible Failure Manager Unit

def onDHCPClient (change : DHCPClient → DHCPClient) : ManagerCall :=
  modify fun im => { im with dhcpClient := change im.dhcpClient }

/-- What something else returned, be it an error -/
def reported {State Value : Type} (outcome : Except String Value) :
    Fallible Failure State Value :=
  match outcome with
  | .ok value => pure value
  | .error text => throw (.error text)

@[simp] theorem reported_ok {State Value : Type} (value : Value) :
    (reported (.ok value) : Fallible Failure State Value) = pure value := rfl

@[simp] theorem reported_error {State Value : Type} (text : String) :
    (reported (.error text) : Fallible Failure State Value) =
      throw (.error text) := rfl

theorem ends_reported {State Value : Type} {outcome : Except String Value}
    {state : State} {returned : Value → State → Prop}
    {failed : Failure → State → Prop} :
    Ends (reported outcome) state returned failed ↔
      (∀ value, outcome = .ok value → returned value state) ∧
        ∀ text, outcome = .error text → failed (.error text) state := by
  cases outcome <;> simp

def startDHCPClient : ManagerCall := do
  let im ← get
  let started ← reported im.dhcpClient.start
  onDHCPClient fun _ => started

section Calls

variable (parsers : Parsers) (outside : Outside)

def applyIPv4Static : ManagerCall := do
  let im ← get
  if im.config.ipv4Static = none then
    throw (.error "IPv4 static configuration is nil")
  else
    onDHCPClient (·.setIPv4 false)
    let _ ← wrapping (.wrap "failed to convert IPv4 static configuration")
      (reported (toIPv4Static parsers im.config.ipv4Static))
    reported outside.reconcileIPv4

def applyIPv4DHCP : ManagerCall := do
  onDHCPClient (·.setIPv4 true)
  startDHCPClient

def disableIPv4 : ManagerCall := do
  onDHCPClient (·.setIPv4 false)
  reported outside.disableIPv4

def applyIPv4Config : ManagerCall := do
  let im ← get
  match im.config.ipv4Mode.string with
  | "static" => applyIPv4Static parsers outside
  | "dhcp" => applyIPv4DHCP
  | "disabled" => disableIPv4 outside
  | mode => throw (.error ("invalid IPv4 mode: " ++ mode))

def applyIPv6Static : ManagerCall := do
  let im ← get
  if im.config.ipv6Static = none then
    throw (.error "IPv6 static configuration is nil")
  else
    onDHCPClient (·.setIPv6 false)
    let _ ← wrapping (.wrap "failed to convert IPv6 static configuration")
      (reported (toIPv6Static parsers im.config.ipv6Static))
    reported outside.reconcileIPv6

def applyIPv6DHCP : ManagerCall := do
  onDHCPClient (·.setIPv6 true)
  startDHCPClient

def applyIPv6SLAAC : ManagerCall := do
  onDHCPClient (·.setIPv6 false)
  wrapping (.wrap "failed to get interface") (reported outside.link)
  wrapping (.wrap "failed to bring interface up") (reported outside.ensureUp)
  wrapping (.wrap "failed to remove non-link-local IPv6 addresses")
    (reported outside.removeAddresses)
  reported outside.enableSLAAC

def applyIPv6SLAACAndDHCP : ManagerCall := do
  onDHCPClient (·.setIPv6 true)
  wrapping (.wrap "failed to start DHCP client") startDHCPClient
  reported outside.enableSLAAC

def applyIPv6LinkLocal : ManagerCall := do
  onDHCPClient (·.setIPv6 false)
  reported outside.enableLinkLocal

def disableIPv6 : ManagerCall := do
  onDHCPClient (·.setIPv6 false)
  reported outside.disableIPv6

def applyIPv6Config : ManagerCall := do
  let im ← get
  match im.config.ipv6Mode.string with
  | "static" => applyIPv6Static parsers outside
  | "dhcpv6" => applyIPv6DHCP
  | "slaac" => applyIPv6SLAAC outside
  | "slaac_and_dhcpv6" => applyIPv6SLAACAndDHCP outside
  | "link_local" => applyIPv6LinkLocal outside
  | "disabled" => disableIPv6 outside
  | mode => throw (.error ("invalid IPv6 mode: " ++ mode))

def applyConfiguration : ManagerCall := do
  wrapping (.wrap "failed to apply IPv4 config")
    (applyIPv4Config parsers outside)
  wrapping (.wrap "failed to apply IPv6 config")
    (applyIPv6Config parsers outside)

/-- The configuration is stored before it is applied. -/
def setConfig (order : FieldOrder) (config : NetworkConfig) : ManagerCall := do
  let config ← wrapping (.wrap "invalid config")
    (reported (config.setDefaultsAndValidate parsers order))
  modify fun im => { im with config := config }
  applyConfiguration parsers outside

def renewDHCPLease : ManagerCall := do
  let im ← get
  let renewed ← reported im.dhcpClient.renew
  onDHCPClient fun _ => renewed

/-- `ensured` is whether the interface could be brought up. -/
def start (ensured : Bool) : ManagerCall := do
  modify fun im => { im with started := true, linkUp := ensured }
  if ensured then applyConfiguration parsers outside else pure ()

/-- Failures are only logged. -/
def handleLinkUp : ManagerCall := do
  modify fun im => { im with linkUp := true }
  let _ ← attempt (applyConfiguration parsers outside)
  let im ← get
  if im.config.ipv4Mode.string = "dhcp" then
    let _ ← attempt renewDHCPLease
    pure ()
  else pure ()

def handleLinkDown : ManagerCall := do
  modify fun im => { im with linkUp := false }
  let im ← get
  if im.config.ipv4Mode.string = "dhcp" then onDHCPClient DHCPClient.stop
  else pure ()

end Calls

/-! ### What applying a configuration does -/

/-- Whether a configuration runs DHCP on a family. -/
def serves (config : NetworkConfig) : Family → Bool
  | .inet => config.ipv4Mode.string = "dhcp"
  | .inet6 =>
      config.ipv6Mode.string = "dhcpv6" ∨
        config.ipv6Mode.string = "slaac_and_dhcpv6"

section Applying

variable (parsers : Parsers) (outside : Outside)

/-- Whether the IPv4 part of a configuration is applied without an error, the
DHCP client apart. -/
def ipv4Applies (config : NetworkConfig) : Bool :=
  match config.ipv4Mode.string with
  | "static" =>
      (toIPv4Static parsers config.ipv4Static).isOk &&
        outside.reconcileIPv4.isOk
  | "dhcp" => true
  | "disabled" => outside.disableIPv4.isOk
  | _ => false

def ipv6Applies (config : NetworkConfig) : Bool :=
  match config.ipv6Mode.string with
  | "static" =>
      (toIPv6Static parsers config.ipv6Static).isOk &&
        outside.reconcileIPv6.isOk
  | "dhcpv6" => true
  | "slaac" =>
      outside.link.isOk && (outside.ensureUp.isOk &&
        (outside.removeAddresses.isOk && outside.enableSLAAC.isOk))
  | "slaac_and_dhcpv6" => outside.enableSLAAC.isOk
  | "link_local" => outside.enableLinkLocal.isOk
  | "disabled" => outside.disableIPv6.isOk
  | _ => false

/-- The DHCP client once it was started, if it can be. -/
def started (dc : DHCPClient) : DHCPClient :=
  match dc.start with
  | .ok started => started
  | .error _ => dc

def settledIPv4 (config : NetworkConfig) (dc : DHCPClient) : DHCPClient :=
  match config.ipv4Mode.string with
  | "static" => if config.ipv4Static.isSome then dc.setIPv4 false else dc
  | "dhcp" => started (dc.setIPv4 true)
  | "disabled" => dc.setIPv4 false
  | _ => dc

def settledIPv6 (config : NetworkConfig) (dc : DHCPClient) : DHCPClient :=
  match config.ipv6Mode.string with
  | "static" => if config.ipv6Static.isSome then dc.setIPv6 false else dc
  | "dhcpv6" => started (dc.setIPv6 true)
  | "slaac" => dc.setIPv6 false
  | "slaac_and_dhcpv6" => started (dc.setIPv6 true)
  | "link_local" => dc.setIPv6 false
  | "disabled" => dc.setIPv6 false
  | _ => dc

def ipv4Done (config : NetworkConfig) (dc : DHCPClient) : Bool :=
  ipv4Applies parsers outside config &&
    (!serves config .inet || (dc.setIPv4 true).start.isOk)

def ipv6Done (config : NetworkConfig) (dc : DHCPClient) : Bool :=
  ipv6Applies parsers outside config &&
    (!serves config .inet6 || (dc.setIPv6 true).start.isOk)

/-- Whether a configuration is applied without an error. -/
def done (config : NetworkConfig) (dc : DHCPClient) : Bool :=
  ipv4Done parsers outside config dc &&
    ipv6Done parsers outside config (settledIPv4 config dc)

def settled (config : NetworkConfig) (dc : DHCPClient) : DHCPClient :=
  if ipv4Done parsers outside config dc then
    settledIPv6 config (settledIPv4 config dc)
  else settledIPv4 config dc

variable {parsers outside} {im : Manager}

/-- The call succeeds exactly if it says so, and leaves these DHCP clients. -/
def Leaves (succeeds : Bool) (dc : DHCPClient) (im : Manager)
    (call : ManagerCall) : Prop :=
  Ends call im
    (fun _ next => succeeds = true ∧ next = { im with dhcpClient := dc })
    fun failure next =>
      (succeeds = false ∧ failure ≠ .panic) ∧
        next = { im with dhcpClient := dc }

theorem Leaves.returns {dc : DHCPClient} {call : ManagerCall}
    (leaves : Leaves true dc im call) :
    call im = .ok () { im with dhcpClient := dc } := by
  rw [Leaves, Ends] at leaves
  cases result : call im with
  | ok value next =>
      rw [result] at leaves
      rw [leaves.2]
  | error failure next =>
      rw [result] at leaves
      cases leaves.1.1

theorem Leaves.fails {dc : DHCPClient} {call : ManagerCall}
    (leaves : Leaves false dc im call) :
    ∃ failure, failure ≠ .panic ∧
      call im = .error failure { im with dhcpClient := dc } := by
  rw [Leaves, Ends] at leaves
  cases result : call im with
  | ok value next =>
      rw [result] at leaves
      cases leaves.1
  | error failure next =>
      rw [result] at leaves
      exact ⟨failure, leaves.1.2, by rw [leaves.2]⟩

theorem leaves_reported (outcome : Answer) :
    Leaves outcome.isOk im.dhcpClient im (reported outcome) := by
  apply ends_reported.mpr
  constructor
  · rintro _ rfl
    exact ⟨rfl, rfl⟩
  · rintro text rfl
    exact ⟨⟨rfl, Failure.noConfusion⟩, rfl⟩

theorem leaves_startDHCPClient :
    Leaves im.dhcpClient.start.isOk (started im.dhcpClient) im
      startDHCPClient := by
  rw [Leaves, startDHCPClient, ends_bind, ends_get, ends_bind, started]
  cases im.dhcpClient.start with
  | error text => exact ⟨⟨rfl, Failure.noConfusion⟩, rfl⟩
  | ok started => exact ⟨rfl, rfl⟩

theorem Leaves.wrapping {succeeds : Bool} {dc : DHCPClient}
    {call : ManagerCall} (leaves : Leaves succeeds dc im call)
    (context : String) :
    Leaves succeeds dc im (Fallible.wrapping (.wrap context) call) := by
  rw [Leaves, ends_wrapping]
  apply leaves.imp
  · exact fun _ _ both => both
  · rintro failure next ⟨⟨fails, noPanic⟩, same⟩
    refine ⟨⟨fails, ?_⟩, same⟩
    cases failure with
    | error text => exact Failure.noConfusion
    | panic => exact absurd rfl noPanic

theorem Leaves.bind {succeeds later : Bool} {dc after : DHCPClient}
    {call next : ManagerCall} (leaves : Leaves succeeds dc im call)
    (rest : succeeds = true → Leaves later after { im with dhcpClient := dc }
      next)
    (otherwise : succeeds = false → after = dc) :
    Leaves (succeeds && later) after im (do call; next) := by
  rw [Leaves, ends_bind]
  apply leaves.imp
  · rintro _ between ⟨succeeded, rfl⟩
    rw [succeeded, Bool.true_and]
    exact rest succeeded
  · rintro failure between ⟨⟨failed, noPanic⟩, rfl⟩
    rw [failed, otherwise failed]
    exact ⟨⟨rfl, noPanic⟩, rfl⟩

theorem leaves_onDHCPClient {succeeds : Bool} {after : DHCPClient}
    {change : DHCPClient → DHCPClient} {next : ManagerCall}
    (rest : Leaves succeeds after
      { im with dhcpClient := change im.dhcpClient } next) :
    Leaves succeeds after im (do onDHCPClient change; next) := by
  rw [Leaves, ends_bind, onDHCPClient, ends_modify]
  exact rest

theorem leaves_throw (text : String) :
    Leaves false im.dhcpClient im (throw (.error text)) :=
  ⟨⟨rfl, Failure.noConfusion⟩, rfl⟩

theorem leaves_runs {change : DHCPClient → DHCPClient} :
    Leaves (change im.dhcpClient).start.isOk (started (change im.dhcpClient)) im
      (do onDHCPClient change; startDHCPClient) :=
  leaves_onDHCPClient leaves_startDHCPClient

/-- Static addresses are converted and then reconciled. -/
theorem leaves_static {Parsed : Type} (converted : Except String Parsed)
    (outcome : Answer) (context : String) :
    Leaves (converted.isOk && outcome.isOk) im.dhcpClient im (do
      let _ ← Fallible.wrapping (.wrap context) (reported converted)
      reported outcome) := by
  rw [Leaves, ends_bind, ends_wrapping]
  cases converted with
  | error text => exact ⟨⟨rfl, Failure.noConfusion⟩, rfl⟩
  | ok value => exact leaves_reported outcome

theorem leaves_applyIPv4Config :
    Leaves (ipv4Done parsers outside im.config im.dhcpClient)
      (settledIPv4 im.config im.dhcpClient) im
      (applyIPv4Config parsers outside) := by
  have unserved : ∀ {done : Bool}, serves im.config .inet = false →
      ipv4Done parsers outside im.config im.dhcpClient = done →
      ipv4Applies parsers outside im.config = done := by
    intro done unserved same
    rw [← same, ipv4Done, unserved, Bool.not_false, Bool.true_or, Bool.and_true]
  rw [Leaves, applyIPv4Config, ends_bind, ends_get, ← Leaves, settledIPv4]
  split
  · rename_i mode
    rw [← unserved (by simp [serves, mode]) rfl, ipv4Applies]
    simp only [mode]
    rw [applyIPv4Static, Leaves, ends_bind, ends_get, ← Leaves]
    cases im.config.ipv4Static with
    | none => exact leaves_throw _
    | some config =>
        simp only [Option.isSome_some, if_true, reduceCtorEq, if_false]
        exact leaves_onDHCPClient (leaves_static _ _ _)
  · rename_i mode
    have served : ipv4Done parsers outside im.config im.dhcpClient =
        (im.dhcpClient.setIPv4 true).start.isOk := by
      simp [ipv4Done, ipv4Applies, serves, mode]
    rw [served]
    exact leaves_runs
  · rename_i mode
    rw [← unserved (by simp [serves, mode]) rfl, ipv4Applies]
    simp only [mode]
    exact leaves_onDHCPClient (leaves_reported _)
  · rename_i mode notStatic notDhcp notDisabled
    have fails : ipv4Done parsers outside im.config im.dhcpClient = false := by
      simp [ipv4Done, ipv4Applies]
    rw [fails]
    exact leaves_throw _

theorem leaves_applyIPv6Config :
    Leaves (ipv6Done parsers outside im.config im.dhcpClient)
      (settledIPv6 im.config im.dhcpClient) im
      (applyIPv6Config parsers outside) := by
  have unserved : ∀ {done : Bool}, serves im.config .inet6 = false →
      ipv6Done parsers outside im.config im.dhcpClient = done →
      ipv6Applies parsers outside im.config = done := by
    intro done unserved same
    rw [← same, ipv6Done, unserved, Bool.not_false, Bool.true_or, Bool.and_true]
  rw [Leaves, applyIPv6Config, ends_bind, ends_get, ← Leaves, settledIPv6]
  split
  · rename_i mode
    rw [← unserved (by simp [serves, mode]) rfl, ipv6Applies]
    simp only [mode]
    rw [applyIPv6Static, Leaves, ends_bind, ends_get, ← Leaves]
    cases im.config.ipv6Static with
    | none => exact leaves_throw _
    | some config =>
        simp only [Option.isSome_some, if_true, reduceCtorEq, if_false]
        exact leaves_onDHCPClient (leaves_static _ _ _)
  · rename_i mode
    have served : ipv6Done parsers outside im.config im.dhcpClient =
        (im.dhcpClient.setIPv6 true).start.isOk := by
      simp [ipv6Done, ipv6Applies, serves, mode]
    rw [served]
    exact leaves_runs
  · rename_i mode
    rw [← unserved (by simp [serves, mode]) rfl, ipv6Applies]
    simp only [mode]
    apply leaves_onDHCPClient
    exact ((leaves_reported _).wrapping _).bind (fun _ =>
      ((leaves_reported _).wrapping _).bind (fun _ =>
        ((leaves_reported _).wrapping _).bind (fun _ => leaves_reported _)
          fun _ => rfl) fun _ => rfl) fun _ => rfl
  · rename_i mode
    have served : ipv6Done parsers outside im.config im.dhcpClient =
        ((im.dhcpClient.setIPv6 true).start.isOk &&
          outside.enableSLAAC.isOk) := by
      simp [ipv6Done, ipv6Applies, serves, mode, Bool.and_comm]
    rw [served]
    apply leaves_onDHCPClient
    exact (leaves_startDHCPClient.wrapping _).bind (fun _ => leaves_reported _)
      fun _ => rfl
  · rename_i mode
    rw [← unserved (by simp [serves, mode]) rfl, ipv6Applies]
    simp only [mode]
    exact leaves_onDHCPClient (leaves_reported _)
  · rename_i mode
    rw [← unserved (by simp [serves, mode]) rfl, ipv6Applies]
    simp only [mode]
    exact leaves_onDHCPClient (leaves_reported _)
  · have fails : ipv6Done parsers outside im.config im.dhcpClient = false := by
      simp [ipv6Done, ipv6Applies]
    rw [fails]
    exact leaves_throw _

/-- Applying a configuration only changes the DHCP clients, and succeeds exactly
when both of its parts do. -/
theorem leaves_applyConfiguration :
    Leaves (done parsers outside im.config im.dhcpClient)
      (settled parsers outside im.config im.dhcpClient) im
      (applyConfiguration parsers outside) := by
  rw [done, settled]
  apply Leaves.bind (leaves_applyIPv4Config.wrapping _)
  · intro succeeded
    rw [if_pos succeeded]
    exact Leaves.wrapping leaves_applyIPv6Config _
  · intro failed
    rw [if_neg (by rw [failed]; decide)]

end Applying

end InterfaceManager

end JetKvm
