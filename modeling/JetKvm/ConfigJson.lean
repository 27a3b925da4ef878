import JetKvm.ConfigDurability
import JetKvm.JsonDecoding
import Mathlib.Algebra.Group.Int.Defs

/-!
# The configuration as JSON

The fields of the configuration with their `json` tags, in the order of the
structs: `config.go`, `jiggler.go`, `mqtt.go`, `internal/usbgadget` and
`internal/network/types`.  What is written is read back field by field.
-/

namespace JetKvm

namespace ConfigJson

open JsonDecoding ConfigDurability ConfParser

/-! ### Numbers and nullable values -/

/-- An `int` of the device has 32 bits. -/
def IsInt (n : Int) : Prop := -2147483648 ≤ n ∧ n ≤ 2147483647

instance (n : Int) : Decidable (IsInt n) := inferInstanceAs (Decidable (_ ∧ _))

def intDecoder : Decoder Int := .int (-2147483648) 2147483647

def intJson (n : Int) : Json := .number (.integer n)

/-- An empty string that is left out -/
def omitEmpty (text : String) : Option Json :=
  if text = "" then none else some (.string text)

def stringsJson (texts : List String) : Json := .array (texts.map .string)

/-- A list without elements that is left out, nil or not -/
def omitEmptyStrings (texts : Option (List String)) : Option Json :=
  if texts.getD [] = [] then none else texts.map stringsJson

/-- The methods `UnmarshalJSON` of the package `null`; `none` is an error. -/
structure NullPackage where
  string : Json → Option (NullString → NullString)
  int : Json → Option (NullInt → NullInt)
  bool : Json → Option (NullBool → NullBool)

/-- Null only makes a value invalid. -/
structure NullPackage.Documented (null : NullPackage) : Prop where
  nullString : null.string .null = some fun old => { old with valid := false }
  nullInt : null.int .null = some fun old => { old with valid := false }
  nullBool : null.bool .null = some fun old => { old with valid := false }
  string : ∀ text, null.string (.string text) = some fun _ => ⟨text, true⟩
  int : ∀ n : Int, -2 ^ 63 ≤ n → n < 2 ^ 63 →
    null.int (intJson n) = some fun _ => ⟨n, true⟩
  bool : ∀ value, null.bool (.bool value) = some fun _ => ⟨value, true⟩

def nullStringJson (value : NullString) : Json :=
  if value.valid then .string value.string else .null

def nullIntJson (value : NullInt) : Json :=
  if value.valid then intJson value.int64 else .null

def nullBoolJson (value : NullBool) : Json :=
  if value.valid then .bool value.bool else .null

/-! ### The structs that the configuration points to -/

inductive JigglerKey where
  | inactivityLimitSeconds | jitterPercentage | scheduleCronTab | timezone
  deriving DecidableEq

abbrev JigglerValue : JigglerKey → Type
  | .inactivityLimitSeconds | .jitterPercentage => Int
  | .scheduleCronTab | .timezone => String

def jigglerRecord : Record JigglerValue where
  keys := [.inactivityLimitSeconds, .jitterPercentage, .scheduleCronTab, .timezone]
  tag
    | .inactivityLimitSeconds => "inactivity_limit_seconds"
    | .jitterPercentage => "jitter_percentage"
    | .scheduleCronTab => "schedule_cron_tab"
    | .timezone => "timezone"
  decoder
    | .inactivityLimitSeconds | .jitterPercentage => intDecoder
    | .scheduleCronTab | .timezone => .string

def jigglerFields : JigglerConfig ≃ ∀ key, JigglerValue key where
  toFun config
    | .inactivityLimitSeconds => config.inactivityLimitSeconds
    | .jitterPercentage => config.jitterPercentage
    | .scheduleCronTab => config.scheduleCronTab
    | .timezone => config.timezone
  invFun fields :=
    { inactivityLimitSeconds := fields .inactivityLimitSeconds
      jitterPercentage := fields .jitterPercentage
      scheduleCronTab := fields .scheduleCronTab
      timezone := fields .timezone }
  left_inv _ := rfl
  right_inv fields := by
    funext key
    cases key <;> rfl

def jigglerJson (config : JigglerConfig) : JigglerKey → Option Json
  | .inactivityLimitSeconds => some (intJson config.inactivityLimitSeconds)
  | .jitterPercentage => some (intJson config.jitterPercentage)
  | .scheduleCronTab => some (.string config.scheduleCronTab)
  | .timezone => omitEmpty config.timezone

def jigglerDecoder : Decoder JigglerConfig :=
  .via jigglerFields jigglerRecord.decode

inductive UsbConfigKey where
  | vendorId | productId | serialNumber | manufacturer | product
  deriving DecidableEq

def usbConfigRecord : Record fun _ : UsbConfigKey => String where
  keys := [.vendorId, .productId, .serialNumber, .manufacturer, .product]
  tag
    | .vendorId => "vendor_id"
    | .productId => "product_id"
    | .serialNumber => "serial_number"
    | .manufacturer => "manufacturer"
    | .product => "product"
  decoder _ := .string

def usbConfigFields : UsbConfig ≃ (UsbConfigKey → String) where
  toFun config
    | .vendorId => config.vendorId
    | .productId => config.productId
    | .serialNumber => config.serialNumber
    | .manufacturer => config.manufacturer
    | .product => config.product
  invFun fields :=
    { vendorId := fields .vendorId
      productId := fields .productId
      serialNumber := fields .serialNumber
      manufacturer := fields .manufacturer
      product := fields .product }
  left_inv _ := rfl
  right_inv fields := by
    funext key
    cases key <;> rfl

def usbConfigJson (config : UsbConfig) (key : UsbConfigKey) : Option Json :=
  some (.string (usbConfigFields config key))

def usbConfigDecoder : Decoder UsbConfig :=
  .via usbConfigFields usbConfigRecord.decode

inductive UsbDevicesKey where
  | absoluteMouse | relativeMouse | keyboard | gamepad | massStorage
  | serialConsole | audio
  deriving DecidableEq

def usbDevicesRecord : Record fun _ : UsbDevicesKey => Bool where
  keys := [.absoluteMouse, .relativeMouse, .keyboard, .gamepad, .massStorage,
    .serialConsole, .audio]
  tag
    | .absoluteMouse => "absolute_mouse"
    | .relativeMouse => "relative_mouse"
    | .keyboard => "keyboard"
    | .gamepad => "gamepad"
    | .massStorage => "mass_storage"
    | .serialConsole => "serial_console"
    | .audio => "audio"
  decoder _ := .bool

def usbDevicesFields : UsbDevices ≃ (UsbDevicesKey → Bool) where
  toFun devices
    | .absoluteMouse => devices.absoluteMouse
    | .relativeMouse => devices.relativeMouse
    | .keyboard => devices.keyboard
    | .gamepad => devices.gamepad
    | .massStorage => devices.massStorage
    | .serialConsole => devices.serialConsole
    | .audio => devices.audio
  invFun fields :=
    { absoluteMouse := fields .absoluteMouse
      relativeMouse := fields .relativeMouse
      keyboard := fields .keyboard
      gamepad := fields .gamepad
      massStorage := fields .massStorage
      serialConsole := fields .serialConsole
      audio := fields .audio }
  left_inv _ := rfl
  right_inv fields := by
    funext key
    cases key <;> rfl

def usbDevicesJson (devices : UsbDevices) (key : UsbDevicesKey) : Option Json :=
  some (.bool (usbDevicesFields devices key))

def usbDevicesDecoder : Decoder UsbDevices :=
  .via usbDevicesFields usbDevicesRecord.decode

inductive MqttKey where
  | enabled | broker | port | username | password | baseTopic | useTLS
  | tlsInsecure | enableHADiscovery | enableActions | debounceMs
  deriving DecidableEq

abbrev MqttValue : MqttKey → Type
  | .broker | .username | .password | .baseTopic => String
  | .port | .debounceMs => Int
  | .enabled | .useTLS | .tlsInsecure | .enableHADiscovery | .enableActions => Bool

def mqttRecord : Record MqttValue where
  keys := [.enabled, .broker, .port, .username, .password, .baseTopic, .useTLS,
    .tlsInsecure, .enableHADiscovery, .enableActions, .debounceMs]
  tag
    | .enabled => "enabled"
    | .broker => "broker"
    | .port => "port"
    | .username => "username"
    | .password => "password"
    | .baseTopic => "base_topic"
    | .useTLS => "use_tls"
    | .tlsInsecure => "tls_insecure"
    | .enableHADiscovery => "enable_ha_discovery"
    | .enableActions => "enable_actions"
    | .debounceMs => "debounce_ms"
  decoder
    | .broker | .username | .password | .baseTopic => .string
    | .port | .debounceMs => intDecoder
    | .enabled | .useTLS | .tlsInsecure | .enableHADiscovery | .enableActions =>
        .bool

def mqttFields : MqttConfig ≃ ∀ key, MqttValue key where
  toFun config
    | .enabled => config.enabled
    | .broker => config.broker
    | .port => config.port
    | .username => config.username
    | .password => config.password
    | .baseTopic => config.baseTopic
    | .useTLS => config.useTLS
    | .tlsInsecure => config.tlsInsecure
    | .enableHADiscovery => config.enableHADiscovery
    | .enableActions => config.enableActions
    | .debounceMs => config.debounceMs
  invFun fields :=
    { enabled := fields .enabled
      broker := fields .broker
      port := fields .port
      username := fields .username
      password := fields .password
      baseTopic := fields .baseTopic
      useTLS := fields .useTLS
      tlsInsecure := fields .tlsInsecure
      enableHADiscovery := fields .enableHADiscovery
      enableActions := fields .enableActions
      debounceMs := fields .debounceMs }
  left_inv _ := rfl
  right_inv fields := by
    funext key
    cases key <;> rfl

def mqttJson (config : MqttConfig) : MqttKey → Option Json
  | .enabled => some (.bool config.enabled)
  | .broker => some (.string config.broker)
  | .port => some (intJson config.port)
  | .username => some (.string config.username)
  | .password => some (.string config.password)
  | .baseTopic => some (.string config.baseTopic)
  | .useTLS => some (.bool config.useTLS)
  | .tlsInsecure => some (.bool config.tlsInsecure)
  | .enableHADiscovery => some (.bool config.enableHADiscovery)
  | .enableActions => some (.bool config.enableActions)
  | .debounceMs => some (intJson config.debounceMs)

def mqttDecoder : Decoder MqttConfig := .via mqttFields mqttRecord.decode

/-! ### The network configuration -/

section Network

variable (null : NullPackage)

def stringsDecoder : Decoder (Option (List String)) := .slice "" .string

inductive IPv4StaticKey where
  | address | netmask | gateway | dns
  deriving DecidableEq

abbrev IPv4StaticValue : IPv4StaticKey → Type
  | .address | .netmask | .gateway => NullString
  | .dns => Option (List String)

def ipv4StaticRecord : Record IPv4StaticValue where
  keys := [.address, .netmask, .gateway, .dns]
  tag
    | .address => "address"
    | .netmask => "netmask"
    | .gateway => "gateway"
    | .dns => "dns"
  decoder
    | .address | .netmask | .gateway => .unmarshaler null.string
    | .dns => stringsDecoder

def ipv4StaticFields : IPv4StaticConfig ≃ ∀ key, IPv4StaticValue key where
  toFun config
    | .address => config.address
    | .netmask => config.netmask
    | .gateway => config.gateway
    | .dns => config.dns
  invFun fields :=
    { address := fields .address
      netmask := fields .netmask
      gateway := fields .gateway
      dns := fields .dns }
  left_inv _ := rfl
  right_inv fields := by
    funext key
    cases key <;> rfl

/-- Leaving out what is empty does not concern the nullable values. -/
def ipv4StaticJson (config : IPv4StaticConfig) : IPv4StaticKey → Option Json
  | .address => some (nullStringJson config.address)
  | .netmask => some (nullStringJson config.netmask)
  | .gateway => some (nullStringJson config.gateway)
  | .dns => omitEmptyStrings config.dns

inductive IPv6StaticKey where
  | addressPrefix | gateway | dns
  deriving DecidableEq

abbrev IPv6StaticValue : IPv6StaticKey → Type
  | .addressPrefix | .gateway => NullString
  | .dns => Option (List String)

def ipv6StaticRecord : Record IPv6StaticValue where
  keys := [.addressPrefix, .gateway, .dns]
  tag
    | .addressPrefix => "prefix"
    | .gateway => "gateway"
    | .dns => "dns"
  decoder
    | .addressPrefix | .gateway => .unmarshaler null.string
    | .dns => stringsDecoder

def ipv6StaticFields : IPv6StaticConfig ≃ ∀ key, IPv6StaticValue key where
  toFun config
    | .addressPrefix => config.addressPrefix
    | .gateway => config.gateway
    | .dns => config.dns
  invFun fields :=
    { addressPrefix := fields .addressPrefix
      gateway := fields .gateway
      dns := fields .dns }
  left_inv _ := rfl
  right_inv fields := by
    funext key
    cases key <;> rfl

def ipv6StaticJson (config : IPv6StaticConfig) : IPv6StaticKey → Option Json
  | .addressPrefix => some (nullStringJson config.addressPrefix)
  | .gateway => some (nullStringJson config.gateway)
  | .dns => omitEmptyStrings config.dns

inductive NetworkKey where
  | dhcpClient | hostname | httpProxy | domain | ipv4Mode | ipv4Static
  | ipv6Mode | ipv6Static | lldpMode | lldpTxTLVs | mdnsMode | timeSyncMode
  | timeSyncOrdering | timeSyncDisableFallback | timeSyncParallel
  | timeSyncNTPServers | timeSyncHTTPUrls
  deriving DecidableEq

abbrev NetworkValue : NetworkKey → Type
  | .dhcpClient | .hostname | .httpProxy | .domain | .ipv4Mode | .ipv6Mode
  | .lldpMode | .mdnsMode | .timeSyncMode => NullString
  | .ipv4Static => Option IPv4StaticConfig
  | .ipv6Static => Option IPv6StaticConfig
  | .lldpTxTLVs | .timeSyncOrdering | .timeSyncNTPServers | .timeSyncHTTPUrls =>
      Option (List String)
  | .timeSyncDisableFallback => NullBool
  | .timeSyncParallel => NullInt

def networkRecord : Record NetworkValue where
  keys := [.dhcpClient, .hostname, .httpProxy, .domain, .ipv4Mode, .ipv4Static,
    .ipv6Mode, .ipv6Static, .lldpMode, .lldpTxTLVs, .mdnsMode, .timeSyncMode,
    .timeSyncOrdering, .timeSyncDisableFallback, .timeSyncParallel,
    .timeSyncNTPServers, .timeSyncHTTPUrls]
  tag
    | .dhcpClient => "dhcp_client"
    | .hostname => "hostname"
    | .httpProxy => "http_proxy"
    | .domain => "domain"
    | .ipv4Mode => "ipv4_mode"
    | .ipv4Static => "ipv4_static"
    | .ipv6Mode => "ipv6_mode"
    | .ipv6Static => "ipv6_static"
    | .lldpMode => "lldp_mode"
    | .lldpTxTLVs => "lldp_tx_tlvs"
    | .mdnsMode => "mdns_mode"
    | .timeSyncMode => "time_sync_mode"
    | .timeSyncOrdering => "time_sync_ordering"
    | .timeSyncDisableFallback => "time_sync_disable_fallback"
    | .timeSyncParallel => "time_sync_parallel"
    | .timeSyncNTPServers => "time_sync_ntp_servers"
    | .timeSyncHTTPUrls => "time_sync_http_urls"
  decoder
    | .dhcpClient | .hostname | .httpProxy | .domain | .ipv4Mode | .ipv6Mode
    | .lldpMode | .mdnsMode | .timeSyncMode => .unmarshaler null.string
    | .ipv4Static =>
        .pointer {} (.via ipv4StaticFields (ipv4StaticRecord null).decode)
    | .ipv6Static =>
        .pointer {} (.via ipv6StaticFields (ipv6StaticRecord null).decode)
    | .lldpTxTLVs | .timeSyncOrdering | .timeSyncNTPServers
    | .timeSyncHTTPUrls => stringsDecoder
    | .timeSyncDisableFallback => .unmarshaler null.bool
    | .timeSyncParallel => .unmarshaler null.int

def networkFields : NetworkConfig ≃ ∀ key, NetworkValue key where
  toFun config
    | .dhcpClient => config.dhcpClient
    | .hostname => config.hostname
    | .httpProxy => config.httpProxy
    | .domain => config.domain
    | .ipv4Mode => config.ipv4Mode
    | .ipv4Static => config.ipv4Static
    | .ipv6Mode => config.ipv6Mode
    | .ipv6Static => config.ipv6Static
    | .lldpMode => config.lldpMode
    | .lldpTxTLVs => config.lldpTxTLVs
    | .mdnsMode => config.mdnsMode
    | .timeSyncMode => config.timeSyncMode
    | .timeSyncOrdering => config.timeSyncOrdering
    | .timeSyncDisableFallback => config.timeSyncDisableFallback
    | .timeSyncParallel => config.timeSyncParallel
    | .timeSyncNTPServers => config.timeSyncNTPServers
    | .timeSyncHTTPUrls => config.timeSyncHTTPUrls
  invFun fields :=
    { dhcpClient := fields .dhcpClient
      hostname := fields .hostname
      httpProxy := fields .httpProxy
      domain := fields .domain
      ipv4Mode := fields .ipv4Mode
      ipv4Static := fields .ipv4Static
      ipv6Mode := fields .ipv6Mode
      ipv6Static := fields .ipv6Static
      lldpMode := fields .lldpMode
      lldpTxTLVs := fields .lldpTxTLVs
      mdnsMode := fields .mdnsMode
      timeSyncMode := fields .timeSyncMode
      timeSyncOrdering := fields .timeSyncOrdering
      timeSyncDisableFallback := fields .timeSyncDisableFallback
      timeSyncParallel := fields .timeSyncParallel
      timeSyncNTPServers := fields .timeSyncNTPServers
      timeSyncHTTPUrls := fields .timeSyncHTTPUrls }
  left_inv _ := rfl
  right_inv fields := by
    funext key
    cases key <;> rfl

/-- Nil pointers are left out as well. -/
def networkJson (config : NetworkConfig) : NetworkKey → Option Json
  | .dhcpClient => some (nullStringJson config.dhcpClient)
  | .hostname => some (nullStringJson config.hostname)
  | .httpProxy => some (nullStringJson config.httpProxy)
  | .domain => some (nullStringJson config.domain)
  | .ipv4Mode => some (nullStringJson config.ipv4Mode)
  | .ipv4Static => config.ipv4Static.map fun static =>
      (ipv4StaticRecord null).write (ipv4StaticJson static)
  | .ipv6Mode => some (nullStringJson config.ipv6Mode)
  | .ipv6Static => config.ipv6Static.map fun static =>
      (ipv6StaticRecord null).write (ipv6StaticJson static)
  | .lldpMode => some (nullStringJson config.lldpMode)
  | .lldpTxTLVs => omitEmptyStrings config.lldpTxTLVs
  | .mdnsMode => some (nullStringJson config.mdnsMode)
  | .timeSyncMode => some (nullStringJson config.timeSyncMode)
  | .timeSyncOrdering => omitEmptyStrings config.timeSyncOrdering
  | .timeSyncDisableFallback => some (nullBoolJson config.timeSyncDisableFallback)
  | .timeSyncParallel => some (nullIntJson config.timeSyncParallel)
  | .timeSyncNTPServers => omitEmptyStrings config.timeSyncNTPServers
  | .timeSyncHTTPUrls => omitEmptyStrings config.timeSyncHTTPUrls

def networkDecoder : Decoder NetworkConfig :=
  .via networkFields (networkRecord null).decode

end Network

/-! ### The lists of the configuration -/

inductive DeviceKey where
  | name | macAddress | broadcastIP
  deriving DecidableEq

def deviceRecord : Record fun _ : DeviceKey => String where
  keys := [.name, .macAddress, .broadcastIP]
  tag
    | .name => "name"
    | .macAddress => "macAddress"
    | .broadcastIP => "broadcastIP"
  decoder _ := .string

def deviceFields : WakeOnLanDevice ≃ (DeviceKey → String) where
  toFun device
    | .name => device.name
    | .macAddress => device.macAddress
    | .broadcastIP => device.broadcastIP
  invFun fields :=
    { name := fields .name
      macAddress := fields .macAddress
      broadcastIP := fields .broadcastIP }
  left_inv _ := rfl
  right_inv fields := by
    funext key
    cases key <;> rfl

def deviceJson (device : WakeOnLanDevice) : DeviceKey → Option Json
  | .name => some (.string device.name)
  | .macAddress => some (.string device.macAddress)
  | .broadcastIP => omitEmpty device.broadcastIP

def deviceDecoder : Decoder WakeOnLanDevice := .via deviceFields deviceRecord.decode

/-- A nil list is an empty one here. -/
def listDecoder {β : Type} (zero : β) (decoder : Decoder β) :
    Decoder (List β) := fun value =>
  let storing := Decoder.slice zero decoder value
  ⟨storing.outcome, fun old => (storing.update (some old)).getD []⟩

inductive StepKey where
  | keys | modifiers | delay
  deriving DecidableEq

abbrev StepValue : StepKey → Type
  | .keys | .modifiers => List String
  | .delay => Int

def stepRecord : Record StepValue where
  keys := [.keys, .modifiers, .delay]
  tag
    | .keys => "keys"
    | .modifiers => "modifiers"
    | .delay => "delay"
  decoder
    | .keys | .modifiers => listDecoder "" .string
    | .delay => intDecoder

def stepFields : KeyboardMacroStep ≃ ∀ key, StepValue key where
  toFun step
    | .keys => step.keys
    | .modifiers => step.modifiers
    | .delay => step.delay
  invFun fields :=
    { keys := fields .keys
      modifiers := fields .modifiers
      delay := fields .delay }
  left_inv _ := rfl
  right_inv fields := by
    funext key
    cases key <;> rfl

def stepJson (step : KeyboardMacroStep) : StepKey → Option Json
  | .keys => some (stringsJson step.keys)
  | .modifiers => some (stringsJson step.modifiers)
  | .delay => some (intJson step.delay)

def stepDecoder : Decoder KeyboardMacroStep := .via stepFields stepRecord.decode

inductive MacroKey where
  | id | name | steps | sortOrder
  deriving DecidableEq

abbrev MacroValue : MacroKey → Type
  | .id | .name => String
  | .steps => List KeyboardMacroStep
  | .sortOrder => Int

def macroRecord : Record MacroValue where
  keys := [.id, .name, .steps, .sortOrder]
  tag
    | .id => "id"
    | .name => "name"
    | .steps => "steps"
    | .sortOrder => "sortOrder"
  decoder
    | .id | .name => .string
    | .steps => listDecoder ⟨[], [], 0⟩ stepDecoder
    | .sortOrder => intDecoder

def macroFields : KeyboardMacro ≃ ∀ key, MacroValue key where
  toFun config
    | .id => config.id
    | .name => config.name
    | .steps => config.steps
    | .sortOrder => config.sortOrder
  invFun fields :=
    { id := fields .id
      name := fields .name
      steps := fields .steps
      sortOrder := fields .sortOrder }
  left_inv _ := rfl
  right_inv fields := by
    funext key
    cases key <;> rfl

def macroJson (config : KeyboardMacro) : MacroKey → Option Json
  | .id => some (.string config.id)
  | .name => some (.string config.name)
  | .steps =>
      some (.array (config.steps.map fun step => stepRecord.write (stepJson step)))
  | .sortOrder =>
      if config.sortOrder = 0 then none else some (intJson config.sortOrder)

def macroDecoder : Decoder KeyboardMacro := .via macroFields macroRecord.decode

/-! ### The configuration -/

inductive ConfigKey where
  | cloudURL | updateAPIURL | cloudAppURL | cloudToken | tailscaleControlURL
  | googleIdentity | jigglerEnabled | jigglerConfig | autoUpdateEnabled
  | includePreRelease | hashedPassword | localAuthToken | localAuthMode
  | localLoopbackOnly | wakeOnLanDevices | keyboardMacros | keyboardLayout
  | edidString | activeExtension | displayRotation | displayMaxBrightness
  | displayDimAfterSec | displayOffAfterSec | tlsMode | usbConfig | usbDevices
  | networkConfig | defaultLogLevel | videoSleepAfterSec | videoQualityFactor
  | videoCodecPreference | nativeMaxRestart | mqttConfig | audioInputAutoEnable
  | audioOutputEnabled | multiPlayerGamepad | sharingPasswordHash
  deriving DecidableEq

/-- A pointer of the configuration that is decoded is a copy of the default's. -/
abbrev Cell : ConfigKey → Type
  | .cloudURL | .updateAPIURL | .cloudAppURL | .cloudToken
  | .tailscaleControlURL | .googleIdentity | .hashedPassword | .localAuthToken
  | .localAuthMode | .keyboardLayout | .edidString | .activeExtension
  | .displayRotation | .tlsMode | .defaultLogLevel | .videoCodecPreference
  | .sharingPasswordHash => String
  | .jigglerEnabled | .autoUpdateEnabled | .includePreRelease
  | .localLoopbackOnly | .audioInputAutoEnable | .audioOutputEnabled
  | .multiPlayerGamepad => Bool
  | .displayMaxBrightness | .displayDimAfterSec | .displayOffAfterSec
  | .videoSleepAfterSec => Int
  | .jigglerConfig => Pointer JigglerConfig
  | .wakeOnLanDevices => List WakeOnLanDevice
  | .keyboardMacros => List KeyboardMacro
  | .usbConfig => Pointer UsbConfig
  | .usbDevices => Pointer UsbDevices
  | .networkConfig => Pointer NetworkConfig
  | .videoQualityFactor => String
  | .nativeMaxRestart => Nat
  | .mqttConfig => Pointer MqttConfig

/-- `encoding/json` as far as the fields do not decide it: the indented text of
a value, the value of a text, and the doubles, which are numerals here. -/
structure Coding where
  print : Json → List Char
  parse : List Char → Option Json
  formatFloat : String → Option Numeral
  parseFloat : Numeral → Option String
  null : NullPackage

section Coding

variable (coding : Coding)

def configRecord : Record Cell where
  keys := [.cloudURL, .updateAPIURL, .cloudAppURL, .cloudToken,
    .tailscaleControlURL, .googleIdentity, .jigglerEnabled, .jigglerConfig,
    .autoUpdateEnabled, .includePreRelease, .hashedPassword, .localAuthToken,
    .localAuthMode, .localLoopbackOnly, .wakeOnLanDevices, .keyboardMacros,
    .keyboardLayout, .edidString, .activeExtension, .displayRotation,
    .displayMaxBrightness, .displayDimAfterSec, .displayOffAfterSec, .tlsMode,
    .usbConfig, .usbDevices, .networkConfig, .defaultLogLevel,
    .videoSleepAfterSec, .videoQualityFactor, .videoCodecPreference,
    .nativeMaxRestart, .mqttConfig, .audioInputAutoEnable, .audioOutputEnabled,
    .multiPlayerGamepad, .sharingPasswordHash]
  tag
    | .cloudURL => "cloud_url"
    | .updateAPIURL => "update_api_url"
    | .cloudAppURL => "cloud_app_url"
    | .cloudToken => "cloud_token"
    | .tailscaleControlURL => "tailscale_control_url"
    | .googleIdentity => "google_identity"
    | .jigglerEnabled => "jiggler_enabled"
    | .jigglerConfig => "jiggler_config"
    | .autoUpdateEnabled => "auto_update_enabled"
    | .includePreRelease => "include_pre_release"
    | .hashedPassword => "hashed_password"
    | .localAuthToken => "local_auth_token"
    | .localAuthMode => "localAuthMode"
    | .localLoopbackOnly => "local_loopback_only"
    | .wakeOnLanDevices => "wake_on_lan_devices"
    | .keyboardMacros => "keyboard_macros"
    | .keyboardLayout => "keyboard_layout"
    | .edidString => "hdmi_edid_string"
    | .activeExtension => "active_extension"
    | .displayRotation => "display_rotation"
    | .displayMaxBrightness => "display_max_brightness"
    | .displayDimAfterSec => "display_dim_after_sec"
    | .displayOffAfterSec => "display_off_after_sec"
    | .tlsMode => "tls_mode"
    | .usbConfig => "usb_config"
    | .usbDevices => "usb_devices"
    | .networkConfig => "network_config"
    | .defaultLogLevel => "default_log_level"
    | .videoSleepAfterSec => "video_sleep_after_sec"
    | .videoQualityFactor => "video_quality_factor"
    | .videoCodecPreference => "video_codec_preference"
    | .nativeMaxRestart => "native_max_restart_attempts"
    | .mqttConfig => "mqtt_config"
    | .audioInputAutoEnable => "audio_input_auto_enable"
    | .audioOutputEnabled => "audio_output_enabled"
    | .multiPlayerGamepad => "multi_player_gamepad"
    | .sharingPasswordHash => "sharing_password_hash"
  decoder
    | .cloudURL | .updateAPIURL | .cloudAppURL | .cloudToken
    | .tailscaleControlURL | .googleIdentity | .hashedPassword | .localAuthToken
    | .localAuthMode | .keyboardLayout | .edidString | .activeExtension
    | .displayRotation | .tlsMode | .defaultLogLevel | .videoCodecPreference
    | .sharingPasswordHash => .string
    | .jigglerEnabled | .autoUpdateEnabled | .includePreRelease
    | .localLoopbackOnly | .audioInputAutoEnable | .audioOutputEnabled
    | .multiPlayerGamepad => .bool
    | .displayMaxBrightness | .displayDimAfterSec | .displayOffAfterSec
    | .videoSleepAfterSec => intDecoder
    | .jigglerConfig => Pointer.decode ⟨0, 0, "", ""⟩ jigglerDecoder
    | .wakeOnLanDevices => listDecoder ⟨"", "", ""⟩ deviceDecoder
    | .keyboardMacros => listDecoder ⟨"", "", [], 0⟩ macroDecoder
    | .usbConfig => Pointer.decode ⟨"", "", "", "", ""⟩ usbConfigDecoder
    | .usbDevices => Pointer.decode {} usbDevicesDecoder
    | .networkConfig => Pointer.decode {} (networkDecoder coding.null)
    | .videoQualityFactor => .number coding.parseFloat
    | .nativeMaxRestart => .uint 4294967295
    | .mqttConfig => Pointer.decode {} mqttDecoder

end Coding

/-- A shallow copy of the configuration -/
def copied (config : Config) : ∀ key, Cell key
  | .cloudURL => config.cloudURL
  | .updateAPIURL => config.updateAPIURL
  | .cloudAppURL => config.cloudAppURL
  | .cloudToken => config.cloudToken
  | .tailscaleControlURL => config.tailscaleControlURL
  | .googleIdentity => config.googleIdentity
  | .jigglerEnabled => config.jigglerEnabled
  | .jigglerConfig => .copy config.jigglerConfig
  | .autoUpdateEnabled => config.autoUpdateEnabled
  | .includePreRelease => config.includePreRelease
  | .hashedPassword => config.hashedPassword
  | .localAuthToken => config.localAuthToken
  | .localAuthMode => config.localAuthMode
  | .localLoopbackOnly => config.localLoopbackOnly
  | .wakeOnLanDevices => config.wakeOnLanDevices
  | .keyboardMacros => config.keyboardMacros
  | .keyboardLayout => config.keyboardLayout
  | .edidString => config.edidString
  | .activeExtension => config.activeExtension
  | .displayRotation => config.displayRotation
  | .displayMaxBrightness => config.displayMaxBrightness
  | .displayDimAfterSec => config.displayDimAfterSec
  | .displayOffAfterSec => config.displayOffAfterSec
  | .tlsMode => config.tlsMode
  | .usbConfig => .copy config.usbConfig
  | .usbDevices => .copy config.usbDevices
  | .networkConfig => .copy config.networkConfig
  | .defaultLogLevel => config.defaultLogLevel
  | .videoSleepAfterSec => config.videoSleepAfterSec
  | .videoQualityFactor => config.videoQualityFactor
  | .videoCodecPreference => config.videoCodecPreference
  | .nativeMaxRestart => config.nativeMaxRestart
  | .mqttConfig => .copy config.mqttConfig
  | .audioInputAutoEnable => config.audioInputAutoEnable
  | .audioOutputEnabled => config.audioOutputEnabled
  | .multiPlayerGamepad => config.multiPlayerGamepad
  | .sharingPasswordHash => config.sharingPasswordHash

/-- The copy, with what it points to -/
def loaded (cells : ∀ key, Cell key) : Config where
  cloudURL := cells .cloudURL
  updateAPIURL := cells .updateAPIURL
  cloudAppURL := cells .cloudAppURL
  cloudToken := cells .cloudToken
  tailscaleControlURL := cells .tailscaleControlURL
  googleIdentity := cells .googleIdentity
  jigglerEnabled := cells .jigglerEnabled
  jigglerConfig := (cells .jigglerConfig).loaded
  autoUpdateEnabled := cells .autoUpdateEnabled
  includePreRelease := cells .includePreRelease
  hashedPassword := cells .hashedPassword
  localAuthToken := cells .localAuthToken
  localAuthMode := cells .localAuthMode
  localLoopbackOnly := cells .localLoopbackOnly
  wakeOnLanDevices := cells .wakeOnLanDevices
  keyboardMacros := cells .keyboardMacros
  keyboardLayout := cells .keyboardLayout
  edidString := cells .edidString
  activeExtension := cells .activeExtension
  displayRotation := cells .displayRotation
  displayMaxBrightness := cells .displayMaxBrightness
  displayDimAfterSec := cells .displayDimAfterSec
  displayOffAfterSec := cells .displayOffAfterSec
  tlsMode := cells .tlsMode
  usbConfig := (cells .usbConfig).loaded
  usbDevices := (cells .usbDevices).loaded
  networkConfig := (cells .networkConfig).loaded
  defaultLogLevel := cells .defaultLogLevel
  videoSleepAfterSec := cells .videoSleepAfterSec
  videoQualityFactor := cells .videoQualityFactor
  videoCodecPreference := cells .videoCodecPreference
  nativeMaxRestart := cells .nativeMaxRestart
  mqttConfig := (cells .mqttConfig).loaded
  audioInputAutoEnable := cells .audioInputAutoEnable
  audioOutputEnabled := cells .audioOutputEnabled
  multiPlayerGamepad := cells .multiPlayerGamepad
  sharingPasswordHash := cells .sharingPasswordHash

/-- The configuration that was copied, with what it points to -/
def original (config : Config) (cells : ∀ key, Cell key) : Config :=
  { config with
    jigglerConfig := (cells .jigglerConfig).original
    usbConfig := (cells .usbConfig).original
    usbDevices := (cells .usbDevices).original
    networkConfig := (cells .networkConfig).original
    mqttConfig := (cells .mqttConfig).original }

def pointerJson {α Key : Type} {β : Key → Type} (record : Record β)
    (json : α → Key → Option Json) (pointer : Option α) : Json :=
  pointer.elim .null fun object => record.write (json object)

/-- Without devices the list is nil, as in the default. -/
def devicesJson (devices : List WakeOnLanDevice) : Json :=
  if devices = [] then .null
  else .array (devices.map fun device => deviceRecord.write (deviceJson device))

def macrosJson (macros : List KeyboardMacro) : Json :=
  .array (macros.map fun config => macroRecord.write (macroJson config))

section Coding

variable (coding : Coding)

def configJson (config : Config) (factor : Numeral) : ConfigKey → Option Json
  | .cloudURL => some (.string config.cloudURL)
  | .updateAPIURL => some (.string config.updateAPIURL)
  | .cloudAppURL => some (.string config.cloudAppURL)
  | .cloudToken => some (.string config.cloudToken)
  | .tailscaleControlURL => omitEmpty config.tailscaleControlURL
  | .googleIdentity => some (.string config.googleIdentity)
  | .jigglerEnabled => some (.bool config.jigglerEnabled)
  | .jigglerConfig =>
      some (pointerJson jigglerRecord jigglerJson config.jigglerConfig)
  | .autoUpdateEnabled => some (.bool config.autoUpdateEnabled)
  | .includePreRelease => some (.bool config.includePreRelease)
  | .hashedPassword => some (.string config.hashedPassword)
  | .localAuthToken => some (.string config.localAuthToken)
  | .localAuthMode => some (.string config.localAuthMode)
  | .localLoopbackOnly => some (.bool config.localLoopbackOnly)
  | .wakeOnLanDevices => some (devicesJson config.wakeOnLanDevices)
  | .keyboardMacros => some (macrosJson config.keyboardMacros)
  | .keyboardLayout => some (.string config.keyboardLayout)
  | .edidString => some (.string config.edidString)
  | .activeExtension => some (.string config.activeExtension)
  | .displayRotation => some (.string config.displayRotation)
  | .displayMaxBrightness => some (intJson config.displayMaxBrightness)
  | .displayDimAfterSec => some (intJson config.displayDimAfterSec)
  | .displayOffAfterSec => some (intJson config.displayOffAfterSec)
  | .tlsMode => some (.string config.tlsMode)
  | .usbConfig => some (pointerJson usbConfigRecord usbConfigJson config.usbConfig)
  | .usbDevices =>
      some (pointerJson usbDevicesRecord usbDevicesJson config.usbDevices)
  | .networkConfig =>
      some (pointerJson (networkRecord coding.null) (networkJson coding.null)
        config.networkConfig)
  | .defaultLogLevel => some (.string config.defaultLogLevel)
  | .videoSleepAfterSec => some (intJson config.videoSleepAfterSec)
  | .videoQualityFactor => some (.number factor)
  | .videoCodecPreference => some (.string config.videoCodecPreference)
  | .nativeMaxRestart => some (.number (.integer config.nativeMaxRestart))
  | .mqttConfig => some (pointerJson mqttRecord mqttJson config.mqttConfig)
  | .audioInputAutoEnable => some (.bool config.audioInputAutoEnable)
  | .audioOutputEnabled => some (.bool config.audioOutputEnabled)
  | .multiPlayerGamepad => some (.bool config.multiPlayerGamepad)
  | .sharingPasswordHash => omitEmpty config.sharingPasswordHash

/-- A double that is not a number is no value of JSON. -/
def marshal (config : Config) : Except String Json :=
  match coding.formatFloat config.videoQualityFactor with
  | none => .error ("json: unsupported value: " ++ config.videoQualityFactor)
  | some factor =>
      .ok ((configRecord coding).write (configJson coding config factor))

/-- A text that is malformed is refused before anything is stored. -/
def unmarshal (base : Config) (text : List Char) : Except Config Config :=
  match coding.parse text with
  | none => .error base
  | some value =>
      let storing := (configRecord coding).decode value
      let cells := storing.update (copied base)
      if storing.outcome = .fine then .ok (loaded cells)
      else .error (original base cells)

def encodingJson : EncodingJson where
  marshal config := (marshal coding config).map coding.print
  unmarshal := unmarshal coding

end Coding

end ConfigJson

end JetKvm
