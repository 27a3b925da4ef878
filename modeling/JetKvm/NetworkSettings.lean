import JetKvm.InterfaceManager

/-!
# Changing the network settings

`rpcSetNetworkSettings` of `network.go` on a device whose interface is managed:
it decides on a reboot and announces it, renames the device, hands the settings
to the interface manager, saves them and reboots.  What the system answers to
each of these steps is given from outside.
-/

namespace JetKvm

namespace NetworkSettings

open Netlink ConfParser Dhcp InterfaceManager Fallible

structure PostRebootAction where
  healthCheck : String
  redirectTo : String
  deriving DecidableEq, Repr

/-- `hostname` is the one of the `resolv.conf` manager, `defaultHostname` what
`GetDefaultHostname` returns, `rpcChannel` whether the current session has a
channel for events, and `willReboot` the events it was sent. -/
structure Device where
  im : Manager
  networkConfig : NetworkConfig
  hostname : String
  systemHostname : String
  defaultHostname : String
  rpcChannel : Bool
  willReboot : List (Option PostRebootAction) := []

structure Outcomes where
  apply : Outside := {}
  etcHostname : Answer := .ok ()
  etcHosts : Answer := .ok ()
  systemHostname : Answer := .ok ()
  save : Answer := .ok ()
  reboot : Answer := .ok ()

abbrev DeviceCall := Fallible Failure Device

/-! ### The reboot -/

def postRebootActionFor (static : IPv4StaticConfig) : PostRebootAction where
  healthCheck := "//" ++ static.address.string ++ "/device/status"
  redirectTo := "//" ++ static.address.string

/-- Where the new address is read of no static configuration, the program
panics. -/
def shouldRebootForNetworkChange (oldConfig newConfig : NetworkConfig) :
    Option (Bool × Option PostRebootAction) :=
  if newConfig.dhcpClient.string ≠ oldConfig.dhcpClient.string then
    some (true, none)
  else if newConfig.ipv4Mode.string ≠ oldConfig.ipv4Mode.string then
    if newConfig.ipv4Mode.string = "static" ∧
        oldConfig.ipv4Mode.string ≠ "static" then
      newConfig.ipv4Static.map fun static =>
        (true, some (postRebootActionFor static))
    else some (true, none)
  else if oldConfig.ipv4Static ≠ newConfig.ipv4Static then
    match newConfig.ipv4Static, oldConfig.ipv4Static with
    | some new, some old =>
        if new.address.string ≠ old.address.string then
          some (true, some (postRebootActionFor new))
        else some (true, none)
    | _, _ => some (true, none)
  else
    some (decide (newConfig.ipv6Mode.string ≠ oldConfig.ipv6Mode.string ∧
        oldConfig.dhcpClient.string = "udhcpc") ||
      decide (newConfig.hostname.string ≠ oldConfig.hostname.string), none)

/-- `writeJSONRPCEvent("willReboot", …)` -/
def writeWillReboot (postRebootAction : Option PostRebootAction) :
    DeviceCall Unit :=
  modify fun device =>
    { device with
      willReboot :=
        if device.rpcChannel then device.willReboot ++ [postRebootAction]
        else device.willReboot }

def hwReboot (outcomes : Outcomes)
    (postRebootAction : Option PostRebootAction) : DeviceCall Unit := do
  writeWillReboot postRebootAction
  wrapping (.wrap "failed to reboot") (reported outcomes.reboot)

/-! ### The hostname -/

/-- `unicode.IsSpace` -/
def isSpace (char : Char) : Bool :=
  (9 ≤ char.toNat && char.toNat ≤ 13) ||
    (8192 ≤ char.toNat && char.toNat ≤ 8202) ||
    [32, 133, 160, 5760, 8232, 8233, 8239, 8287, 12288].contains char.toNat

/-- `strings.TrimSpace` -/
def trimSpace (text : String) : String :=
  String.ofList (text.toList.dropWhile isSpace |>.reverse.dropWhile isSpace
    |>.reverse)

def toValidHostname (parsers : Parsers) (hostname : String) : String :=
  (parsers.toASCII hostname).getD ""

/-- The domain only goes to `/etc/hosts`. -/
def reconcileHostname (outcomes : Outcomes) : DeviceCall Unit := do
  wrapping (.wrap "failed to update /etc/hostname")
    (reported outcomes.etcHostname)
  wrapping (.wrap "failed to update /etc/hosts") (reported outcomes.etcHosts)
  wrapping (.wrap "failed to set system hostname")
    (reported outcomes.systemHostname)
  modify fun device => { device with systemHostname := device.hostname }

def newHostname (parsers : Parsers) (device : Device) (hostname : String) :
    String :=
  toValidHostname parsers
    (trimSpace (if hostname = "" then device.defaultHostname else hostname))

def setHostname (parsers : Parsers) (outcomes : Outcomes)
    (hostname : String) : DeviceCall Unit := do
  let device ← get
  let hostname := newHostname parsers device hostname
  if hostname = "" then throw (.error ("invalid hostname: " ++ hostname))
  else
    modify fun device => { device with hostname := hostname }
    reconcileHostname outcomes

/-- Whether the system takes a new hostname. -/
def Outcomes.renames (outcomes : Outcomes) : Bool :=
  outcomes.etcHostname.isOk &&
    (outcomes.etcHosts.isOk && outcomes.systemHostname.isOk)

/-! ### The settings -/

def setInterfaceConfig (parsers : Parsers) (order : FieldOrder)
    (outcomes : Outcomes) (config : NetworkConfig) : DeviceCall Unit :=
  within Device.im (fun im device => { device with im := im })
    (setConfig parsers outcomes.apply order config)

def rpcSetNetworkSettings (parsers : Parsers) (order : FieldOrder)
    (outcomes : Outcomes) (settings : NetworkConfig) :
    DeviceCall NetworkConfig := do
  let device ← get
  match shouldRebootForNetworkChange device.networkConfig settings with
  | none => throw .panic
  | some (rebootRequired, postRebootAction) =>
      onlyIf rebootRequired (writeWillReboot postRebootAction)
      let _ ← attempt (setHostname parsers outcomes settings.hostname.string)
      setInterfaceConfig parsers order outcomes settings
      modify fun device => { device with networkConfig := device.im.config }
      reported outcomes.save
      onlyIf rebootRequired (hwReboot outcomes postRebootAction)
      let device ← get
      pure device.networkConfig

/-! ### A failed change -/

section Atomicity

variable (parsers : Parsers) (order : FieldOrder) (outcomes : Outcomes)
variable (device : Device) (settings : NetworkConfig)

/-- The configurations, the hostname and the events are as before; so at the
next link-up the interface manager applies the configuration it had. -/
structure Unchanged (before after : Device) : Prop where
  config : after.im.config = before.im.config
  networkConfig : after.networkConfig = before.networkConfig
  hostname : after.hostname = before.hostname
  systemHostname : after.systemHostname = before.systemHostname
  willReboot : after.willReboot = before.willReboot
  linkUp : ∀ outside,
    Leaves (done parsers outside before.im.config after.im.dhcpClient)
      (settled parsers outside before.im.config after.im.dhcpClient) after.im
      (applyConfiguration parsers outside)

def Atomic : Prop :=
  Ends (rpcSetNetworkSettings parsers order outcomes settings) device
    (fun _ _ => True) fun failure after =>
      failure ≠ .panic ∧ Unchanged parsers device after

/-- The settings ask for static addresses and have none. -/
def MissingStatic (oldConfig newConfig : NetworkConfig) : Prop :=
  newConfig.dhcpClient.string = oldConfig.dhcpClient.string ∧
    newConfig.ipv4Mode.string ≠ oldConfig.ipv4Mode.string ∧
    newConfig.ipv4Mode.string = "static" ∧ newConfig.ipv4Static = none

def rebootRequired (oldConfig newConfig : NetworkConfig) : Bool :=
  (shouldRebootForNetworkChange oldConfig newConfig).any (·.1)

instance (oldConfig newConfig : NetworkConfig) :
    Decidable (MissingStatic oldConfig newConfig) :=
  inferInstanceAs (Decidable (_ ∧ _ ∧ _ ∧ _))

/-- The new hostname is invalid, or is the one of the device already. -/
def KeepsHostname : Prop :=
  let hostname := newHostname parsers device settings.hostname.string
  hostname = "" ∨ hostname = device.hostname ∧
    (outcomes.renames = true → hostname = device.systemHostname)

instance : Decidable (KeepsHostname parsers outcomes device settings) :=
  inferInstanceAs (Decidable (_ ∨ _ ∧ (_ → _)))

/-- Nobody is told of a reboot, and the hostname is kept. -/
def Unnoticed : Prop :=
  ¬(device.rpcChannel = true ∧
      rebootRequired device.networkConfig settings = true) ∧
    KeepsHostname parsers outcomes device settings

instance : Decidable (Unnoticed parsers outcomes device settings) :=
  inferInstanceAs (Decidable (¬(_ ∧ _) ∧ _))

/-- Every failure comes before anything was changed, or after changes to what
was there before. -/
structure Harmless : Prop where
  given : ¬MissingStatic device.networkConfig settings
  rejected : ∀ text, settings.setDefaultsAndValidate parsers order =
    .error text → Unnoticed parsers outcomes device settings
  unapplied : ∀ config, settings.setDefaultsAndValidate parsers order =
    .ok config → done parsers outcomes.apply config device.im.dhcpClient =
      false →
    Unnoticed parsers outcomes device settings ∧ config = device.im.config
  unsaved : ∀ config, settings.setDefaultsAndValidate parsers order =
    .ok config → done parsers outcomes.apply config device.im.dhcpClient =
      true →
    (outcomes.save.isOk = false ∨
      rebootRequired device.networkConfig settings = true ∧
        outcomes.reboot.isOk = false) →
    Unnoticed parsers outcomes device settings ∧ config = device.im.config ∧
      config = device.networkConfig

/-! ### The steps of a change -/

def Device.announced (required : Bool)
    (postRebootAction : Option PostRebootAction) (device : Device) : Device :=
  { device with
    willReboot :=
      if required && device.rpcChannel then
        device.willReboot ++ [postRebootAction]
      else device.willReboot }

def Device.renamed (device : Device) (hostname : String) : Device :=
  { device with
    hostname := if hostname = "" then device.hostname else hostname
    systemHostname :=
      if hostname ≠ "" ∧ outcomes.renames then hostname
      else device.systemHostname }

/-- The device when the settings reach the interface manager -/
def Device.prepared (required : Bool)
    (postRebootAction : Option PostRebootAction) (hostname : String) : Device :=
  (device.announced required postRebootAction).renamed outcomes
    (newHostname parsers device hostname)

def Device.configured (device : Device) (config : NetworkConfig) : Device :=
  { device with
    im := { device.im with
      config := config
      dhcpClient := settled parsers outcomes.apply config
        device.im.dhcpClient } }

variable {parsers order outcomes device settings}

theorem shouldReboot_eq_none {oldConfig newConfig : NetworkConfig} :
    shouldRebootForNetworkChange oldConfig newConfig = none ↔
      MissingStatic oldConfig newConfig := by
  rw [shouldRebootForNetworkChange, MissingStatic]
  constructor
  · intro panics
    split_ifs at panics with client mode static same
    · exact ⟨not_not.mp client, mode, static.1,
        Option.map_eq_none_iff.mp panics⟩
    · split at panics
      · split_ifs at panics
      · cases panics
  · rintro ⟨client, mode, static, missing⟩
    rw [if_neg (not_not.mpr client), if_pos mode,
      if_pos ⟨static, static ▸ mode.symm⟩, missing]
    rfl

theorem ends_announce {required : Bool}
    {postRebootAction : Option PostRebootAction}
    {returned : Unit → Device → Prop} {failed : Failure → Device → Prop} :
    Ends (onlyIf required (writeWillReboot postRebootAction)) device returned
        failed ↔
      returned () (device.announced required postRebootAction) := by
  cases required with
  | true => exact Iff.rfl
  | false => exact Iff.rfl

theorem ends_setHostname {hostname : String} {holds : Device → Prop}
    {failed : Failure → Device → Prop} :
    Ends (attempt (setHostname parsers outcomes hostname)) device
        (fun _ => holds) failed ↔
      holds (device.renamed outcomes
        (newHostname parsers device hostname)) := by
  rw [ends_attempt, setHostname, ends_bind, ends_get, Device.renamed]
  by_cases empty : newHostname parsers device hostname = ""
  · rw [if_pos empty, ends_throw, if_pos empty, if_neg fun both => both.1 empty]
  · rw [if_neg empty, ends_bind, ends_modify, reconcileHostname, if_neg empty,
      Outcomes.renames]
    simp only [ends_bind, ends_wrapping, ends_modify]
    cases outcomes.etcHostname with
    | error text => simp [Except.isOk, Except.toBool]
    | ok _ =>
        cases outcomes.etcHosts with
        | error text => simp [Except.isOk, Except.toBool]
        | ok _ =>
            cases outcomes.systemHostname with
            | error text => simp [Except.isOk, Except.toBool]
            | ok _ => simp [Except.isOk, Except.toBool, empty]

theorem ends_rejected {text : String}
    (rejected : settings.setDefaultsAndValidate parsers order = .error text)
    {returned : Unit → Device → Prop} {failed : Failure → Device → Prop} :
    Ends (setInterfaceConfig parsers order outcomes settings) device returned
        failed ↔
      failed (.error ("invalid config: " ++ text)) device := by
  rw [setInterfaceConfig, ends_within, setConfig, rejected, ends_bind,
    ends_wrapping]
  exact Iff.rfl

theorem ends_unapplied {config : NetworkConfig}
    (accepted : settings.setDefaultsAndValidate parsers order = .ok config)
    (fails : done parsers outcomes.apply config device.im.dhcpClient = false) :
    ∃ failure : Failure, failure ≠ .panic ∧
      ∀ {returned : Unit → Device → Prop} {failed : Failure → Device → Prop},
        Ends (setInterfaceConfig parsers order outcomes settings) device
            returned failed ↔
          failed failure (device.configured parsers outcomes config) := by
  have leaves := @leaves_applyConfiguration parsers outcomes.apply
    { device.im with config := config }
  rw [fails] at leaves
  obtain ⟨failure, noPanic, result⟩ := leaves.fails
  refine ⟨failure, noPanic, ?_⟩
  intro returned failed
  rw [setInterfaceConfig, ends_within, setConfig, accepted, ends_bind,
    ends_wrapping, reported_ok, ends_pure, ends_bind, ends_modify,
    ends_of_error result]
  exact Iff.rfl

theorem ends_applied {config : NetworkConfig}
    (accepted : settings.setDefaultsAndValidate parsers order = .ok config)
    (applies : done parsers outcomes.apply config device.im.dhcpClient = true)
    {returned : Unit → Device → Prop} {failed : Failure → Device → Prop} :
    Ends (setInterfaceConfig parsers order outcomes settings) device returned
        failed ↔
      returned () (device.configured parsers outcomes config) := by
  have leaves := @leaves_applyConfiguration parsers outcomes.apply
    { device.im with config := config }
  rw [applies] at leaves
  rw [setInterfaceConfig, ends_within, setConfig, accepted, ends_bind,
    ends_wrapping, reported_ok, ends_pure, ends_bind, ends_modify,
    ends_of_ok leaves.returns]
  exact Iff.rfl

/-! ### What a failure shows -/

theorem willReboot_announced_of_told {required : Bool}
    (told : device.rpcChannel = true ∧ required = true)
    (postRebootAction : Option PostRebootAction) :
    (device.announced required postRebootAction).willReboot =
      device.willReboot ++ [postRebootAction] := by
  rw [Device.announced, told.1, told.2]
  rfl

theorem announced_of_untold {required : Bool}
    (untold : ¬(device.rpcChannel = true ∧ required = true))
    (postRebootAction : Option PostRebootAction) :
    device.announced required postRebootAction = device := by
  rw [Device.announced, if_neg]
  exact fun told => untold (Bool.and_eq_true_iff.mp told).symm

/-- Every event that is sent is one more. -/
theorem willReboot_announced_eq_iff (required : Bool)
    (postRebootAction : Option PostRebootAction) :
    (device.announced required postRebootAction).willReboot =
        device.willReboot ↔
      ¬(device.rpcChannel = true ∧ required = true) := by
  constructor
  · intro same told
    rw [willReboot_announced_of_told told] at same
    exact absurd (List.append_right_eq_self.mp same) (List.cons_ne_nil _ _)
  · intro untold
    rw [announced_of_untold untold]

/-- The reboot announces itself once more. -/
theorem willReboot_announced_again_eq_iff {saved : Device} {required : Bool}
    {postRebootAction : Option PostRebootAction}
    (rpcChannel : saved.rpcChannel = device.rpcChannel)
    (willReboot : saved.willReboot =
      (device.announced required postRebootAction).willReboot) :
    (saved.announced required postRebootAction).willReboot =
        device.willReboot ↔
      ¬(device.rpcChannel = true ∧ required = true) := by
  constructor
  · intro same told
    rw [willReboot_announced_of_told (rpcChannel ▸ told), willReboot,
      willReboot_announced_of_told told, List.append_assoc] at same
    exact absurd (List.append_right_eq_self.mp same) (List.cons_ne_nil _ _)
  · intro untold
    rw [announced_of_untold (rpcChannel ▸ untold), willReboot,
      announced_of_untold untold]

theorem renamed_eq_iff {hostname : String} :
    ((device.renamed outcomes hostname).hostname = device.hostname ∧
      (device.renamed outcomes hostname).systemHostname =
        device.systemHostname) ↔
      hostname = "" ∨ hostname = device.hostname ∧
        (outcomes.renames = true → hostname = device.systemHostname) := by
  rw [Device.renamed]
  by_cases invalid : hostname = ""
  · simp [invalid]
  · simp [invalid]

theorem unchanged_iff {before after : Device} :
    Unchanged parsers before after ↔
      after.im.config = before.im.config ∧
        after.networkConfig = before.networkConfig ∧
        (after.hostname = before.hostname ∧
          after.systemHostname = before.systemHostname) ∧
        after.willReboot = before.willReboot := by
  constructor
  · rintro ⟨config, networkConfig, hostname, systemHostname, willReboot, -⟩
    exact ⟨config, networkConfig, ⟨hostname, systemHostname⟩, willReboot⟩
  · rintro ⟨config, networkConfig, ⟨hostname, systemHostname⟩, willReboot⟩
    refine ⟨config, networkConfig, hostname, systemHostname, willReboot, ?_⟩
    intro outside
    rw [← config]
    exact leaves_applyConfiguration

/-- A device that was prepared and sent these events. -/
theorem unchanged_iff_unnoticed {required : Bool}
    {postRebootAction : Option PostRebootAction} {after : Device}
    (hostname : after.hostname = (device.prepared parsers outcomes required
      postRebootAction settings.hostname.string).hostname)
    (systemHostname : after.systemHostname = (device.prepared parsers outcomes
      required postRebootAction settings.hostname.string).systemHostname)
    (willReboot : after.willReboot = device.willReboot ↔
      ¬(device.rpcChannel = true ∧
        rebootRequired device.networkConfig settings = true)) :
    Unchanged parsers device after ↔
      Unnoticed parsers outcomes device settings ∧
        after.im.config = device.im.config ∧
        after.networkConfig = device.networkConfig := by
  have renamed := @renamed_eq_iff outcomes device
    (newHostname parsers device settings.hostname.string)
  rw [unchanged_iff, hostname, systemHostname, willReboot, Unnoticed,
    KeepsHostname, ← renamed]
  constructor
  · rintro ⟨config, networkConfig, names, untold⟩
    exact ⟨⟨untold, names⟩, config, networkConfig⟩
  · rintro ⟨⟨untold, names⟩, config, networkConfig⟩
    exact ⟨config, networkConfig, names, untold⟩

theorem ends_hwReboot {postRebootAction : Option PostRebootAction}
    {returned : Unit → Device → Prop} {failed : Failure → Device → Prop}
    (returns : ∀ after, returned () after) :
    Ends (hwReboot outcomes postRebootAction) device returned failed ↔
      ∀ text, outcomes.reboot = .error text →
        failed (.error ("failed to reboot: " ++ text))
          (device.announced true postRebootAction) := by
  rw [hwReboot, ends_bind, writeWillReboot, ends_modify, ends_wrapping,
    ends_reported]
  exact and_iff_right fun _ _ => returns _

/-- What comes after the settings were applied fails at the saving or at the
reboot. -/
theorem ends_finish {required : Bool}
    {postRebootAction : Option PostRebootAction}
    {failed : Failure → Device → Prop} {kept : Prop}
    (unsaved : ∀ text, failed (.error text) device ↔ kept)
    (unrebooted : required = true → ∀ text,
      failed (.error text) (device.announced true postRebootAction) ↔ kept) :
    Ends (do
        reported outcomes.save
        onlyIf required (hwReboot outcomes postRebootAction)
        let device ← get
        pure device.networkConfig) device (fun _ _ => True) failed ↔
      ((outcomes.save.isOk = false ∨
        required = true ∧ outcomes.reboot.isOk = false) → kept) := by
  rw [ends_bind]
  cases outcomes.save with
  | error text =>
      rw [reported_error, ends_throw, unsaved]
      exact ⟨fun kept _ => kept, fun ends => ends (.inl rfl)⟩
  | ok _ =>
      rw [reported_ok, ends_pure, ends_bind, ends_onlyIf,
        ends_hwReboot fun _ => trivial]
      have saved : (.ok () : Answer).isOk ≠ false := Bool.noConfusion
      cases required with
      | false =>
          constructor
          · rintro - (unsaved | ⟨asked, -⟩)
            · exact absurd unsaved saved
            · cases asked
          · exact fun _ => ⟨fun asked => (by cases asked), fun _ => trivial⟩
      | true =>
          cases outcomes.reboot with
          | error text =>
              constructor
              · exact fun ends _ => (unrebooted rfl _).mp (ends.1 rfl text rfl)
              · intro kept
                refine ⟨fun _ other same => ?_, fun _ => trivial⟩
                exact (unrebooted rfl _).mpr (kept (.inr ⟨rfl, rfl⟩))
          | ok _ =>
              constructor
              · rintro - (unsaved | ⟨-, unrebooted⟩)
                · exact absurd unsaved saved
                · exact absurd unrebooted saved
              · exact fun _ =>
                  ⟨fun _ text fails => (by cases fails), fun _ => trivial⟩

/-! ### When a change is atomic -/

theorem shouldReboot_eq_some {oldConfig newConfig : NetworkConfig}
    (given : ¬MissingStatic oldConfig newConfig) :
    ∃ postRebootAction, shouldRebootForNetworkChange oldConfig newConfig =
      some (rebootRequired oldConfig newConfig, postRebootAction) := by
  rw [rebootRequired]
  cases decided : shouldRebootForNetworkChange oldConfig newConfig with
  | none => exact absurd (shouldReboot_eq_none.mp decided) given
  | some decision => exact ⟨decision.2, rfl⟩

/-- Without a panic the call is the preparation, the interface manager and the
rest. -/
theorem atomic_iff_of_decided {required : Bool}
    {postRebootAction : Option PostRebootAction}
    (decided : shouldRebootForNetworkChange device.networkConfig settings =
      some (required, postRebootAction)) :
    Atomic parsers order outcomes device settings ↔
      Ends (setInterfaceConfig parsers order outcomes settings)
        (device.prepared parsers outcomes required postRebootAction
          settings.hostname.string)
        (fun _ between => Ends (do
            modify fun device : Device =>
              { device with networkConfig := device.im.config }
            reported outcomes.save
            onlyIf required (hwReboot outcomes postRebootAction)
            let device ← get
            pure device.networkConfig) between (fun _ _ => True)
          fun failure after =>
            failure ≠ .panic ∧ Unchanged parsers device after)
        fun failure after =>
          failure ≠ .panic ∧ Unchanged parsers device after := by
  rw [Atomic, rpcSetNetworkSettings, ends_bind, ends_get]
  simp only [decided]
  rw [ends_bind, ends_announce, ends_bind, ends_setHostname, ends_bind]
  exact Iff.rfl

theorem not_atomic_of_missing
    (missing : MissingStatic device.networkConfig settings) :
    ¬Atomic parsers order outcomes device settings := by
  rw [Atomic, rpcSetNetworkSettings, ends_bind, ends_get]
  simp only [shouldReboot_eq_none.mpr missing, ends_throw]
  exact fun failed => failed.1 rfl

theorem atomic_iff_of_rejected
    (given : ¬MissingStatic device.networkConfig settings) {text : String}
    (rejected : settings.setDefaultsAndValidate parsers order = .error text) :
    Atomic parsers order outcomes device settings ↔
      Unnoticed parsers outcomes device settings := by
  obtain ⟨postRebootAction, decided⟩ := shouldReboot_eq_some given
  let prepared := device.prepared parsers outcomes
    (rebootRequired device.networkConfig settings) postRebootAction
    settings.hostname.string
  have shown : Unchanged parsers device prepared ↔ _ :=
    unchanged_iff_unnoticed rfl rfl (willReboot_announced_eq_iff _ _)
  rw [atomic_iff_of_decided decided, ends_rejected rejected, shown]
  constructor
  · exact fun failed => failed.2.1
  · exact fun unnoticed => ⟨Failure.noConfusion, unnoticed, rfl, rfl⟩

theorem atomic_iff_of_unapplied
    (given : ¬MissingStatic device.networkConfig settings)
    {config : NetworkConfig}
    (accepted : settings.setDefaultsAndValidate parsers order = .ok config)
    (fails : done parsers outcomes.apply config device.im.dhcpClient = false) :
    Atomic parsers order outcomes device settings ↔
      Unnoticed parsers outcomes device settings ∧
        config = device.im.config := by
  obtain ⟨postRebootAction, decided⟩ := shouldReboot_eq_some given
  let prepared := device.prepared parsers outcomes
    (rebootRequired device.networkConfig settings) postRebootAction
    settings.hostname.string
  obtain ⟨failure, noPanic, result⟩ :=
    @ends_unapplied parsers order outcomes prepared settings config accepted
      fails
  have shown :
      Unchanged parsers device (prepared.configured parsers outcomes config) ↔
        _ :=
    unchanged_iff_unnoticed rfl rfl (willReboot_announced_eq_iff _ _)
  rw [atomic_iff_of_decided decided, result, shown]
  constructor
  · exact fun failed => ⟨failed.2.1, failed.2.2.1⟩
  · exact fun kept => ⟨noPanic, kept.1, kept.2, rfl⟩

theorem atomic_iff_of_applied
    (given : ¬MissingStatic device.networkConfig settings)
    {config : NetworkConfig}
    (accepted : settings.setDefaultsAndValidate parsers order = .ok config)
    (applies : done parsers outcomes.apply config device.im.dhcpClient = true) :
    Atomic parsers order outcomes device settings ↔
      ((outcomes.save.isOk = false ∨
        rebootRequired device.networkConfig settings = true ∧
          outcomes.reboot.isOk = false) →
        Unnoticed parsers outcomes device settings ∧
          config = device.im.config ∧ config = device.networkConfig) := by
  obtain ⟨postRebootAction, decided⟩ := shouldReboot_eq_some given
  let prepared := device.prepared parsers outcomes
    (rebootRequired device.networkConfig settings) postRebootAction
    settings.hostname.string
  let saved : Device :=
    { prepared.configured parsers outcomes config with networkConfig := config }
  have failing : ∀ {after : Device} {kept : Prop},
      (Unchanged parsers device after ↔ kept) →
      ∀ text, Failure.error text ≠ .panic ∧ Unchanged parsers device after ↔
        kept :=
    fun same _ => (and_iff_right Failure.noConfusion).trans same
  have unsaved : Unchanged parsers device saved ↔ _ :=
    unchanged_iff_unnoticed rfl rfl (willReboot_announced_eq_iff _ _)
  have unrebooted : rebootRequired device.networkConfig settings = true →
      (Unchanged parsers device (saved.announced true postRebootAction) ↔
        Unnoticed parsers outcomes device settings ∧
          config = device.im.config ∧ config = device.networkConfig) := by
    intro asked
    refine @unchanged_iff_unnoticed parsers outcomes device settings _
      postRebootAction _ rfl rfl ?_
    have again := @willReboot_announced_again_eq_iff device saved _
      postRebootAction rfl rfl
    rw [asked] at again ⊢
    exact again
  rw [atomic_iff_of_decided decided, @ends_applied parsers order outcomes
    prepared settings config accepted applies, ends_bind, ends_modify]
  exact ends_finish (failing unsaved) fun asked => failing (unrebooted asked)

theorem harmless_iff_of_rejected {text : String}
    (given : ¬MissingStatic device.networkConfig settings)
    (rejected : settings.setDefaultsAndValidate parsers order = .error text) :
    Harmless parsers order outcomes device settings ↔
      Unnoticed parsers outcomes device settings := by
  constructor
  · intro harmless
    exact harmless.rejected text rejected
  · intro unnoticed
    refine ⟨given, fun _ _ => unnoticed, fun config accepted => ?_,
      fun config accepted => ?_⟩
    · rw [rejected] at accepted
      cases accepted
    · rw [rejected] at accepted
      cases accepted

theorem harmless_iff_of_unapplied {config : NetworkConfig}
    (given : ¬MissingStatic device.networkConfig settings)
    (accepted : settings.setDefaultsAndValidate parsers order = .ok config)
    (fails : done parsers outcomes.apply config device.im.dhcpClient = false) :
    Harmless parsers order outcomes device settings ↔
      Unnoticed parsers outcomes device settings ∧
        config = device.im.config := by
  constructor
  · intro harmless
    exact harmless.unapplied config accepted fails
  · intro kept
    refine ⟨given, fun text rejected => ?_, fun other same _ => ?_,
      fun other same applies => ?_⟩
    · rw [accepted] at rejected
      cases rejected
    · rw [accepted] at same
      cases same
      exact kept
    · rw [accepted] at same
      cases same
      rw [fails] at applies
      cases applies

theorem harmless_iff_of_applied {config : NetworkConfig}
    (given : ¬MissingStatic device.networkConfig settings)
    (accepted : settings.setDefaultsAndValidate parsers order = .ok config)
    (applies : done parsers outcomes.apply config device.im.dhcpClient = true) :
    Harmless parsers order outcomes device settings ↔
      ((outcomes.save.isOk = false ∨
        rebootRequired device.networkConfig settings = true ∧
          outcomes.reboot.isOk = false) →
        Unnoticed parsers outcomes device settings ∧
          config = device.im.config ∧ config = device.networkConfig) := by
  constructor
  · intro harmless
    exact harmless.unsaved config accepted applies
  · intro kept
    refine ⟨given, fun text rejected => ?_, fun other same fails => ?_,
      fun other same _ => ?_⟩
    · rw [accepted] at rejected
      cases rejected
    · rw [accepted] at same
      cases same
      rw [applies] at fails
      cases fails
    · rw [accepted] at same
      cases same
      exact kept

/-- A change of the network settings is atomic exactly if no static addresses
are missing, and every failure comes before anything is noticed and leaves what
was there before. -/
theorem atomic_iff_harmless (parsers : Parsers) (order : FieldOrder)
    (outcomes : Outcomes) (device : Device) (settings : NetworkConfig) :
    Atomic parsers order outcomes device settings ↔
      Harmless parsers order outcomes device settings := by
  by_cases missing : MissingStatic device.networkConfig settings
  · exact iff_of_false (not_atomic_of_missing missing)
      fun harmless => harmless.given missing
  · cases validated : settings.setDefaultsAndValidate parsers order with
    | error text =>
        rw [atomic_iff_of_rejected missing validated,
          harmless_iff_of_rejected missing validated]
    | ok config =>
        cases applies : done parsers outcomes.apply config
            device.im.dhcpClient with
        | false =>
            rw [atomic_iff_of_unapplied missing validated applies,
              harmless_iff_of_unapplied missing validated applies]
        | true =>
            rw [atomic_iff_of_applied missing validated applies,
              harmless_iff_of_applied missing validated applies]

end Atomicity

/-! ### Changes that are not atomic -/

/-- A name is its own ASCII form. -/
def plainNames : Parsers :=
  { Parsers.refusing with toASCII := some }

/-- A configuration with the defaults filled in -/
def running : NetworkConfig where
  dhcpClient := .of "jetdhcpc"
  ipv4Mode := .of "dhcp"
  ipv6Mode := .of "slaac"
  lldpMode := .of "basic"
  lldpTxTLVs := some ["chassis", "port", "system", "vlan"]
  mdnsMode := .of "auto"
  timeSyncMode := .of "ntp_and_http"
  timeSyncOrdering := some ["ntp", "http"]
  timeSyncDisableFallback := ⟨false, true⟩
  timeSyncParallel := ⟨4, true⟩

def connected : Device where
  im := { config := running, dhcpClient := { clientType := "jetdhcpc" } }
  networkConfig := running
  hostname := "jetkvm"
  systemHostname := "jetkvm"
  defaultHostname := "jetkvm"
  rpcChannel := true

/-- Static addresses that are missing make the program panic, settings that are
rejected have renamed the device and announced a reboot, and settings that could
not be applied are kept. -/
theorem changes_not_atomic :
    ¬Atomic plainNames .asListed {} connected
      { running with ipv4Mode := .of "static" } ∧
    ¬Atomic plainNames .asListed {} connected
      { running with hostname := .of "kvm", ipv6Mode := .of "off" } ∧
    ¬Atomic plainNames .asListed
      { apply := { disableIPv6 := .error "no such device" } } connected
      { running with ipv6Mode := .of "disabled" } := by
  refine ⟨not_atomic_of_missing (by decide), ?_, ?_⟩
  · rw [atomic_iff_of_rejected (by decide) rfl]
    decide
  · rw [atomic_iff_of_unapplied (by decide) rfl (by decide)]
    decide

end NetworkSettings

end JetKvm
