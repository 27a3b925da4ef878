import JetKvm.CrashTriples
import JetKvm.JsonFraming
import JetKvm.LocalAuth
import JetKvm.NetworkConfig

/-!
# The configuration on disk

Translation of `LoadConfig` and `saveConfig` of `config.go`.  Saving truncates
the only copy and writes the new one over it, by calls that may each fail and
after any of which the power may be lost.
-/

namespace JetKvm

namespace ConfigDurability

open ConfParser JsonText

/-! ### The configuration -/

structure WakeOnLanDevice where
  name : String
  macAddress : String
  broadcastIP : String := ""
  deriving DecidableEq, Repr

structure KeyboardMacroStep where
  keys : List String
  modifiers : List String
  delay : Int
  deriving DecidableEq, Repr

structure KeyboardMacro where
  id : String
  name : String
  steps : List KeyboardMacroStep
  sortOrder : Int := 0
  deriving DecidableEq, Repr

structure JigglerConfig where
  inactivityLimitSeconds : Int
  jitterPercentage : Int
  scheduleCronTab : String
  timezone : String
  deriving DecidableEq, Repr

/-- `usbgadget.Config` without its two fields that are not stored -/
structure UsbConfig where
  vendorId : String
  productId : String
  serialNumber : String
  manufacturer : String
  product : String
  deriving DecidableEq, Repr

structure UsbDevices where
  absoluteMouse : Bool := false
  relativeMouse : Bool := false
  keyboard : Bool := false
  gamepad : Bool := false
  massStorage : Bool := false
  serialConsole : Bool := false
  audio : Bool := false
  deriving DecidableEq, Repr

structure MqttConfig where
  enabled : Bool := false
  broker : String := ""
  port : Int := 0
  username : String := ""
  password : String := ""
  baseTopic : String := ""
  useTLS : Bool := false
  tlsInsecure : Bool := false
  enableHADiscovery : Bool := false
  enableActions : Bool := false
  debounceMs : Int := 0
  deriving DecidableEq, Repr

/-- Pointers may be nil; the quality factor, a float, is its numeral. -/
structure Config where
  cloudURL : String := ""
  updateAPIURL : String := ""
  cloudAppURL : String := ""
  cloudToken : String := ""
  tailscaleControlURL : String := ""
  googleIdentity : String := ""
  jigglerEnabled : Bool := false
  jigglerConfig : Option JigglerConfig := none
  autoUpdateEnabled : Bool := false
  includePreRelease : Bool := false
  hashedPassword : String := ""
  localAuthToken : String := ""
  localAuthMode : String := ""
  localLoopbackOnly : Bool := false
  wakeOnLanDevices : List WakeOnLanDevice := []
  keyboardMacros : List KeyboardMacro := []
  keyboardLayout : String := ""
  edidString : String := ""
  activeExtension : String := ""
  displayRotation : String := ""
  displayMaxBrightness : Int := 0
  displayDimAfterSec : Int := 0
  displayOffAfterSec : Int := 0
  tlsMode : String := ""
  usbConfig : Option UsbConfig := none
  usbDevices : Option UsbDevices := none
  networkConfig : Option NetworkConfig := none
  defaultLogLevel : String := ""
  videoSleepAfterSec : Int := 0
  videoQualityFactor : String := "0"
  videoCodecPreference : String := ""
  nativeMaxRestart : Nat := 0
  mqttConfig : Option MqttConfig := none
  audioInputAutoEnable : Bool := false
  audioOutputEnabled : Bool := false
  multiPlayerGamepad : Bool := false
  sharingPasswordHash : String := ""
  deriving DecidableEq, Repr

def defaultJigglerConfig : JigglerConfig where
  inactivityLimitSeconds := 60
  jitterPercentage := 25
  scheduleCronTab := "0 * * * * *"
  timezone := "UTC"

def defaultUsbConfig : UsbConfig where
  vendorId := "0x1d6b"
  productId := "0x0104"
  serialNumber := ""
  manufacturer := "JetKVM"
  product := "USB Emulation Device"

def defaultUsbDevices : UsbDevices where
  absoluteMouse := true
  relativeMouse := true
  keyboard := true
  massStorage := true
  audio := true

/-- What `SetDefaultsAndValidate` makes of the empty configuration -/
def defaultNetworkConfig : NetworkConfig where
  dhcpClient := .of "udhcpc"
  ipv4Mode := .of "dhcp"
  ipv6Mode := .of "slaac"
  lldpMode := .of "basic"
  lldpTxTLVs := some ["chassis", "port", "system", "vlan"]
  mdnsMode := .of "auto"
  timeSyncMode := .of "ntp_and_http"
  timeSyncOrdering := some ["ntp", "http"]
  timeSyncDisableFallback := ⟨false, true⟩
  timeSyncParallel := ⟨4, true⟩

example (parsers : Parsers) :
    NetworkConfig.setDefaultsAndValidate parsers ⟨id, fun _ => .refl _⟩ {} =
      .ok defaultNetworkConfig := by
  rfl

def defaultMqttConfig : MqttConfig where
  port := 1883
  baseTopic := "jetkvm"
  enableActions := true
  debounceMs := 500

def defaultAPIURL : String := "https://api.jetkvm.com"

def getDefaultConfig : Config where
  cloudURL := defaultAPIURL
  updateAPIURL := defaultAPIURL
  cloudAppURL := "https://app.jetkvm.com"
  autoUpdateEnabled := true
  displayRotation := "270"
  keyboardLayout := "en-US"
  displayMaxBrightness := 64
  displayDimAfterSec := 120
  displayOffAfterSec := 1800
  jigglerConfig := some defaultJigglerConfig
  usbConfig := some defaultUsbConfig
  usbDevices := some defaultUsbDevices
  networkConfig := some defaultNetworkConfig
  defaultLogLevel := "WARN"
  videoQualityFactor := "1"
  videoCodecPreference := "auto"
  mqttConfig := some defaultMqttConfig
  audioOutputEnabled := true

/-- The chip default, without an extension -/
def tsbDefaultEDID : String :=
  "00ffffffffffff0052620188008888881c150103800000780a0dc9a057479827" ++
  "12484c00000001010101010101010101010101010101023a801871382d40582c" ++
  "4500c48e2100001e011d007251d01e206e285500c48e2100001e000000fc0054" ++
  "3734392d6648443732300a20000000fd00147801ff1d000a202020202020017b"

/-- The default before 720p at 120 Hz -/
def jkvV1NoHighRefresh : String :=
  "00ffffffffffff0028b4010001eeffc0302301038047287856ee91a3544c9926" ++
  "0f5054000000d1c081c0318001010101010101010101023a801871382d40582c" ++
  "4500c48e2100001e011d007251d01e206e285500c48e2100001e000000fd0017" ++
  "4c0f5111000a202020202020000000fc004a65744b564d2076310a202020011d" ++
  "020322d1431004012309070783010000e200cfe40d100401e305000065030c00" ++
  "1000000000000000000000000000000000000000000000000000000000000000" ++
  "0000000000000000000000000000000000000000000000000000000000000000" ++
  "00000000000000000000000000000000000000000000000000000000000000cf"

/-- The default with 720p at 120 Hz in its extension only -/
def jkvV1CtaOnly120 : String :=
  "00ffffffffffff0028b4010001eeffc0302301038047287856ee91a3544c9926" ++
  "0f5054000000d1c081c0318001010101010101010101023a801871382d40582c" ++
  "4500c48e2100001e011d007251d01e206e285500c48e2100001e000000fd0017" ++
  "4c0f5111000a202020202020000000fc004a65744b564d2076310a202020011d" ++
  "020322d1431004012309070783010000e200cfe40d100401e305000065030c00" ++
  "1000773300a050d02b2030203500122c2100001a000000000000000000000000" ++
  "0000000000000000000000000000000000000000000000000000000000000000" ++
  "000000000000000000000000000000000000000000000000000000000000001c"

/-- `native.DefaultEDID` -/
def defaultEDID : String :=
  "00FFFFFFFFFFFF0028B4010001EEFFC0302301038047287856EE91A3544C9926" ++
  "0F5054000000D1C081C0318001010101010101010101023A801871382D40582C" ++
  "4500C48E2100001E773300A050D02B2030203500122C2100001A000000FD0017" ++
  "4C0F5111000A202020202020000000FC004A65744B564D2076310A20202001D5" ++
  "020322D1431004012309070783010000E200CFE40D100401E305000065030C00" ++
  "1000000000000000000000000000000000000000000000000000000000000000" ++
  "0000000000000000000000000000000000000000000000000000000000000000" ++
  "00000000000000000000000000000000000000000000000000000000000000CF"

/-! ### Loading -/

/-- `strings.EqualFold` against digits and letters that have no other case
than the two ASCII ones -/
def equalFold (text hex : String) : Prop :=
  text.toLower = hex.toLower

instance (text hex : String) : Decidable (equalFold text hex) :=
  inferInstanceAs (Decidable (_ = _))

/-- fixup old keyboard layout value -/
def fixupKeyboardLayout (layout : String) : String :=
  if layout = "en_US" then "en-US" else layout

def migrateEdid (edid : String) : String :=
  if edid = "" ∨ equalFold edid tsbDefaultEDID ∨
      equalFold edid jkvV1NoHighRefresh ∨ equalFold edid jkvV1CtaOnly120 then
    defaultEDID
  else edid

/-- What `LoadConfig` does to a configuration that was decoded -/
def migrate (loadedConfig : Config) : Config :=
  { loadedConfig with
    usbConfig := loadedConfig.usbConfig.or getDefaultConfig.usbConfig
    usbDevices := loadedConfig.usbDevices.or getDefaultConfig.usbDevices
    networkConfig :=
      loadedConfig.networkConfig.or getDefaultConfig.networkConfig
    jigglerConfig :=
      loadedConfig.jigglerConfig.or getDefaultConfig.jigglerConfig
    mqttConfig := loadedConfig.mqttConfig.or getDefaultConfig.mqttConfig
    keyboardLayout := fixupKeyboardLayout loadedConfig.keyboardLayout
    defaultLogLevel := "WARN"
    edidString := migrateEdid loadedConfig.edidString }

/-- `encoding/json` for configurations: the indented text of one, and the
decoding of a value over one.  The value decoded into shares what it points to
with the default, so that a decoding that fails leaves its traces there. -/
structure EncodingJson where
  marshal : Config → Except String (List Char)
  unmarshal : Config → List Char → Except Config Config

/-- The content of the file, if there is one -/
abbrev File := Option (List Char)

section Loading

variable (json : EncodingJson)

/-- `NewDecoder(file).Decode`: a value that does not end is an error before
anything is decoded. -/
def decode (base : Config) (text : List Char) : Except Config Config :=
  match readValue text with
  | none => .error base
  | some value => json.unmarshal base value

def loadConfig (file : File) : Config :=
  match file with
  | none => getDefaultConfig
  | some text =>
      match decode json getDefaultConfig text with
      | .error defaultConfig => defaultConfig
      | .ok loadedConfig => migrate loadedConfig

/-- The file decodes. -/
def Loadable (file : File) : Prop :=
  ∃ text loadedConfig, file = some text ∧
    decode json getDefaultConfig text = .ok loadedConfig

end Loading

/-! ### Reading back what was written

Fields that are omitted when they are empty keep what they are decoded over,
and a null value only loses its validity. -/

section ReadBack

def readString (base stored : NullString) : NullString :=
  if stored.valid then stored else { base with valid := false }

def readInt (base stored : NullInt) : NullInt :=
  if stored.valid then stored else { base with valid := false }

def readBool (base stored : NullBool) : NullBool :=
  if stored.valid then stored else { base with valid := false }

def readOmitEmpty (base stored : String) : String :=
  if stored = "" then base else stored

def readStrings (base stored : Option (List String)) : Option (List String) :=
  if stored.getD [] = [] then base else stored

def readIPv4Static (base : Option IPv4StaticConfig) :
    Option IPv4StaticConfig → Option IPv4StaticConfig
  | none => base
  | some stored =>
      let base := base.getD {}
      some {
        address := readString base.address stored.address
        netmask := readString base.netmask stored.netmask
        gateway := readString base.gateway stored.gateway
        dns := readStrings base.dns stored.dns }

def readIPv6Static (base : Option IPv6StaticConfig) :
    Option IPv6StaticConfig → Option IPv6StaticConfig
  | none => base
  | some stored =>
      let base := base.getD {}
      some {
        addressPrefix := readString base.addressPrefix stored.addressPrefix
        gateway := readString base.gateway stored.gateway
        dns := readStrings base.dns stored.dns }

def readNetwork (base stored : NetworkConfig) : NetworkConfig where
  dhcpClient := readString base.dhcpClient stored.dhcpClient
  hostname := readString base.hostname stored.hostname
  httpProxy := readString base.httpProxy stored.httpProxy
  domain := readString base.domain stored.domain
  ipv4Mode := readString base.ipv4Mode stored.ipv4Mode
  ipv4Static := readIPv4Static base.ipv4Static stored.ipv4Static
  ipv6Mode := readString base.ipv6Mode stored.ipv6Mode
  ipv6Static := readIPv6Static base.ipv6Static stored.ipv6Static
  lldpMode := readString base.lldpMode stored.lldpMode
  lldpTxTLVs := readStrings base.lldpTxTLVs stored.lldpTxTLVs
  mdnsMode := readString base.mdnsMode stored.mdnsMode
  timeSyncMode := readString base.timeSyncMode stored.timeSyncMode
  timeSyncOrdering := readStrings base.timeSyncOrdering stored.timeSyncOrdering
  timeSyncDisableFallback :=
    readBool base.timeSyncDisableFallback stored.timeSyncDisableFallback
  timeSyncParallel := readInt base.timeSyncParallel stored.timeSyncParallel
  timeSyncNTPServers :=
    readStrings base.timeSyncNTPServers stored.timeSyncNTPServers
  timeSyncHTTPUrls := readStrings base.timeSyncHTTPUrls stored.timeSyncHTTPUrls

def readJiggler (base stored : JigglerConfig) : JigglerConfig :=
  { stored with timezone := readOmitEmpty base.timezone stored.timezone }

/-- What decoding the text of a configuration over the default gives -/
def readBack (stored : Config) : Config :=
  { stored with
    tailscaleControlURL := readOmitEmpty
      getDefaultConfig.tailscaleControlURL stored.tailscaleControlURL
    jigglerConfig :=
      stored.jigglerConfig.map (readJiggler defaultJigglerConfig)
    networkConfig :=
      stored.networkConfig.map (readNetwork defaultNetworkConfig)
    sharingPasswordHash := readOmitEmpty
      getDefaultConfig.sharingPasswordHash stored.sharingPasswordHash }

/-- The text of a configuration is one object, which decodes to what was
encoded. -/
structure EncodingJson.Documented (json : EncodingJson) : Prop where
  object : ∀ {config text}, json.marshal config = .ok text → IsObject text
  readsBack : ∀ {config text}, json.marshal config = .ok text →
    json.unmarshal getDefaultConfig text = .ok (readBack config)

end ReadBack

/-! ### Saving -/

/-- How the calls of one save end: an error of each, and how much of the text
the writing leaves in the file when it fails. -/
structure Calls where
  create : Option String := none
  write : Option String := none
  written : Nat := 0
  sync : Option String := none

section Saving

variable (json : EncodingJson) (calls : Calls)

open Program

/-- One character more in the file -/
def put (char : Char) : Program File String Unit :=
  effect fun file => some (file.getD [] ++ [char])

def fixup (config : Config) : Config :=
  { config with keyboardLayout := fixupKeyboardLayout config.keyboardLayout }

/-- `Encoder.Encode` ends its text with a newline and writes it at once. -/
def encode (config : Config) : Program File String Unit :=
  match json.marshal config with
  | .error message => fail ("failed to encode config: " ++ message)
  | .ok text => do
      let line := text ++ ['\n']
      (if calls.write.isSome then line.take calls.written else line).forM put
      check (calls.write.map ("failed to encode config: " ++ ·))

/-- The file is closed on every return; that changes nothing in it. -/
def saveConfig (config : Config) : Program File String Unit := do
  check (calls.create.map ("failed to create config file: " ++ ·))
  effect fun _ => some []
  encode json calls (fixup config)
  check (calls.sync.map ("failed to wite config: " ++ ·))

end Saving

/-! ### The content of the file at each moment -/

section Moments

open Program

variable {json : EncodingJson} {calls : Calls} {config : Config} {file : File}

/-- All that a save leaves in the file that it truncated -/
def left (json : EncodingJson) (calls : Calls) (config : Config) : List Char :=
  match json.marshal (fixup config) with
  | .error _ => []
  | .ok text =>
      if calls.write.isSome then (text ++ ['\n']).take calls.written
      else text ++ ['\n']

theorem forM_put (chars text : List Char) :
    (chars.forM put : Program File String Unit) (some text) =
      ((List.range chars.length).map fun written =>
        some (text ++ chars.take (written + 1)), .ok ()) := by
  induction chars generalizing text with
  | nil => rfl
  | cons char chars ih =>
      have first : put char (some text) = ([some (text ++ [char])], .ok ()) :=
        rfl
      have rest := ih (text ++ [char])
      simp only [List.forM_eq_forM, List.forM_cons] at rest ⊢
      simp [Bind.bind, Program.bind, final, first, rest,
        List.range_succ_eq_map, Function.comp_def]

theorem encode_moments :
    (encode json calls (fixup config) (some [])).1 =
      (List.range (left json calls config).length).map fun written =>
        some ((left json calls config).take (written + 1)) := by
  unfold encode left
  cases json.marshal (fixup config) with
  | error message => rfl
  | ok text => simp only [effects_bind_check, forM_put, List.nil_append]

/-- A save that gets past opening the file truncates it and then leaves in it
more and more of what it writes. -/
theorem saveConfig_moments (opened : calls.create = none) :
    (saveConfig json calls config file).1 =
      (List.range ((left json calls config).length + 1)).map fun written =>
        some ((left json calls config).take written) := by
  have create : ((check (calls.create.map
      ("failed to create config file: " ++ ·)) :
        Program File String Unit) file).2 = .ok () := by
    rw [opened]
    rfl
  have truncate : ((effect fun _ => some [] :
      Program File String Unit) file).2 = .ok () := rfl
  unfold saveConfig
  rw [bind_of_ok create, effects_check, List.nil_append]
  simp only [final, effects_check, List.getLastD_nil]
  rw [bind_of_ok truncate, effects_bind_check]
  simp only [final, effect, List.getLastD_cons, List.getLastD_nil]
  rw [encode_moments, List.range_succ_eq_map]
  simp [Function.comp_def]

theorem cutOff_of_refused {stop : Nat} (refused : calls.create ≠ none) :
    (saveConfig json calls config).cutOff stop file = file := by
  obtain ⟨message, failed⟩ := Option.ne_none_iff_exists'.mp refused
  simp [cutOff, saveConfig, failed, Bind.bind, Program.bind, check, fail]

theorem cutOff_of_opened {stop : Nat} (opened : calls.create = none) :
    (saveConfig json calls config).cutOff (stop + 1) file =
      some ((left json calls config).take stop) := by
  unfold cutOff
  rw [saveConfig_moments opened, ← List.map_take, List.take_range]
  have least : min (stop + 1) ((left json calls config).length + 1) =
      min stop (left json calls config).length + 1 := by omega
  rw [least, List.range_succ, List.map_append, List.map_singleton,
    List.getLastD_concat]
  exact congrArg some (List.take_eq_take_iff.mpr (by omega))

end Moments

/-! ### What a save interrupted leaves to load -/

section Survival

open Program

variable {json : EncodingJson} {calls : Calls} {config : Config}
variable {file : File} {stop : Nat}

/-- What the next start loads is what was stored or what was being saved, up to
the migrations.  It is not the default, nor open to whoever sets it up first
when neither of the two was. -/
structure Survives (json : EncodingJson) (config : Config)
    (before after : File) : Prop where
  oneOfTwo : loadConfig json after = loadConfig json before ∨
    loadConfig json after = migrate (readBack (fixup config))
  notDefault : loadConfig json after ≠ getDefaultConfig
  claimed : (loadConfig json before).localAuthMode ≠ "" →
    config.localAuthMode ≠ "" → (loadConfig json after).localAuthMode ≠ ""

/-- The save stops before it truncates the file, or after the last brace of
what it writes. -/
def StopsOutside (json : EncodingJson) (calls : Calls) (config : Config)
    (stop : Nat) : Prop :=
  calls.create ≠ none ∨ stop = 0 ∨
    ∃ text, json.marshal (fixup config) = .ok text ∧
      text.length < stop ∧ (calls.write = none ∨ text.length ≤ calls.written)

theorem defaultEDID_ne_empty : defaultEDID ≠ "" := by
  unfold defaultEDID
  intro empty
  exact absurd (String.append_eq_empty_iff.mp empty).2 (by decide)

theorem migrateEdid_ne_empty (edid : String) : migrateEdid edid ≠ "" := by
  unfold migrateEdid
  split
  · exact defaultEDID_ne_empty
  · intro empty
    simp_all

/-- The default leaves the display data to the migration. -/
theorem migrate_ne_default (loaded : Config) :
    migrate loaded ≠ getDefaultConfig := by
  intro same
  have edid : migrateEdid loaded.edidString = "" :=
    congrArg Config.edidString same
  exact migrateEdid_ne_empty _ edid

theorem Loadable.notDefault (loadable : Loadable json file) :
    loadConfig json file ≠ getDefaultConfig := by
  obtain ⟨text, loaded, rfl, decoded⟩ := loadable
  simp only [loadConfig, decoded]
  exact migrate_ne_default loaded

theorem survives_self (loadable : Loadable json file) :
    Survives json config file file where
  oneOfTwo := .inl rfl
  notDefault := loadable.notDefault
  claimed claimed _ := claimed

/-- A file that holds the whole object loads as what was saved. -/
theorem loadConfig_of_whole {text more : List Char}
    (documented : json.Documented)
    (marshalled : json.marshal config = .ok text) :
    loadConfig json (some (text ++ more)) = migrate (readBack config) := by
  have object := documented.object marshalled
  simp only [loadConfig, decode, object.readValue_append,
    documented.readsBack marshalled]

/-- A file that holds less loads as the default. -/
theorem loadConfig_of_cut {text : List Char} {length : Nat}
    (object : IsObject text) (short : length < text.length) :
    loadConfig json (some (text.take length)) = getDefaultConfig := by
  simp only [loadConfig, decode, object.readValue_take short]

theorem survives_of_whole {text more : List Char}
    (documented : json.Documented)
    (marshalled : json.marshal (fixup config) = .ok text) :
    Survives json config file (some (text ++ more)) := by
  have loaded : loadConfig json (some (text ++ more)) =
      migrate (readBack (fixup config)) :=
    loadConfig_of_whole documented marshalled
  refine ⟨.inr loaded, ?_, ?_⟩
  · rw [loaded]
    exact migrate_ne_default _
  · intro _ claimed
    rw [loaded]
    exact claimed

/-- How much of its text a save has written by its `stop`th character -/
def reached (calls : Calls) (stop : Nat) : Nat :=
  if calls.write.isSome then min stop calls.written else stop

theorem left_take {text : List Char}
    (marshalled : json.marshal (fixup config) = .ok text) :
    (left json calls config).take stop =
      (text ++ ['\n']).take (reached calls stop) := by
  unfold left reached
  rw [marshalled]
  cases calls.write with
  | none => rfl
  | some message => exact List.take_take

theorem le_reached {length : Nat} :
    length ≤ reached calls stop ↔
      length ≤ stop ∧ (calls.write = none ∨ length ≤ calls.written) := by
  unfold reached
  cases calls.write with
  | none => simp
  | some message =>
      rw [if_pos Option.isSome_some, Nat.le_min]
      simp

theorem stopsOutside_succ (opened : calls.create = none) :
    StopsOutside json calls config (stop + 1) ↔
      ∃ text, json.marshal (fixup config) = .ok text ∧
        text.length ≤ reached calls stop := by
  simp only [StopsOutside, opened, le_reached, Nat.lt_succ_iff]
  simp

/-- A save that is stopped inside leaves a device that loads the default. -/
theorem loadConfig_of_stopsInside (documented : json.Documented)
    (inside : ¬ StopsOutside json calls config stop) :
    loadConfig json ((saveConfig json calls config).cutOff stop file) =
      getDefaultConfig := by
  have opened : calls.create = none := by
    by_contra refused
    exact inside (.inl refused)
  cases stop with
  | zero => exact absurd (.inr (.inl rfl)) inside
  | succ stop =>
      rw [stopsOutside_succ opened] at inside
      rw [cutOff_of_opened opened]
      cases marshalled : json.marshal (fixup config) with
      | error message => simp [left, marshalled, loadConfig, decode]
      | ok text =>
          have short : reached calls stop < text.length := by
            by_contra long
            exact inside ⟨text, marshalled, by omega⟩
          rw [left_take marshalled, List.take_append_of_le_length short.le]
          exact loadConfig_of_cut (documented.object marshalled) short

theorem survives_of_stopsOutside (documented : json.Documented)
    (loadable : Loadable json file)
    (outside : StopsOutside json calls config stop) :
    Survives json config file
      ((saveConfig json calls config).cutOff stop file) := by
  by_cases opened : calls.create = none
  · cases stop with
    | zero => exact survives_self loadable
    | succ stop =>
        rw [stopsOutside_succ opened] at outside
        obtain ⟨text, marshalled, whole⟩ := outside
        rw [cutOff_of_opened opened, left_take marshalled, List.take_append,
          List.take_of_length_le whole]
        exact survives_of_whole documented marshalled
  · rw [cutOff_of_refused opened]
    exact survives_self loadable

/-- The configuration as the handlers of the local authentication see it -/
def credentials (config : Config) : LocalAuth.Config where
  localAuthMode := config.localAuthMode
  hashedPassword := config.hashedPassword
  localAuthToken := config.localAuthToken
  sharingPasswordHash := config.sharingPasswordHash

/-- A device that has just started -/
def started (json : EncodingJson) (file : File) : LocalAuth.Server where
  config := credentials (loadConfig json file)

/-- After a save that is stopped inside, whoever comes first sets the device up
with a password of their own, whatever password it had. -/
theorem handleSetup_of_stopsInside {call : LocalAuth.Call} {password : String}
    {hash : { hash : String // hash ≠ "" }} (documented : json.Documented)
    (inside : ¬ StopsOutside json calls config stop)
    (acceptable : LocalAuth.AcceptablePassword password)
    (hashed : call.generateFromPassword = .ok hash)
    (saved : call.saveConfig = .ok ()) :
    LocalAuth.handleSetup
        (started json ((saveConfig json calls config).cutOff stop file)) call
        (some ⟨"password", password⟩) =
      ((started json ((saveConfig json calls config).cutOff stop file)
          |>.setCredentials "password" hash call.newUUID),
        { status := 200, message := "Device setup completed successfully"
          cookies := [("authToken", call.newUUID)] }) := by
  have given := acceptable.ne_empty
  obtain ⟨long, short⟩ := acceptable
  rw [started, loadConfig_of_stopsInside documented inside]
  -- the limiter of a device that has just started knows no address
  simp [LocalAuth.handleSetup, LocalAuth.Server.saveConfig,
    LocalAuth.Server.setCredentials, LocalAuth.Server.isAllowed,
    RateLimit.RateLimiter.isAllowed, credentials, getDefaultConfig, given,
    hashed, saved, Nat.not_lt.mpr long, Nat.not_lt.mpr short]

theorem survives_iff_stopsOutside (documented : json.Documented)
    (loadable : Loadable json file) :
    Survives json config file
        ((saveConfig json calls config).cutOff stop file) ↔
      StopsOutside json calls config stop := by
  constructor
  · intro survives
    by_contra inside
    exact survives.notDefault (loadConfig_of_stopsInside documented inside)
  · exact survives_of_stopsOutside documented loadable

end Survival

/-! ### A device with a password -/

section Device

/-- A fresh device after its first setup -/
def stored : Config :=
  { getDefaultConfig with
    localAuthMode := "password"
    hashedPassword := "$2a$10$hash"
    localAuthToken := "token" }

def storedText : String :=
  "\x7b\n  \"cloud_url\": \"https://api.jetkvm.com\",\n" ++
  "  \"update_api_url\": \"https://api.jetkvm.com\",\n" ++
  "  \"cloud_app_url\": \"https://app.jetkvm.com\",\n" ++
  "  \"cloud_token\": \"\",\n  \"google_identity\": \"\",\n" ++
  "  \"jiggler_enabled\": false,\n  \"jiggler_config\": \x7b\n" ++
  "    \"inactivity_limit_seconds\": 60,\n    \"jitter_percentage\": 25,\n" ++
  "    \"schedule_cron_tab\": \"0 * * * * *\",\n    \"timezone\": \"UTC\"\n" ++
  "  \x7d,\n  \"auto_update_enabled\": true,\n" ++
  "  \"include_pre_release\": false,\n" ++
  "  \"hashed_password\": \"$2a$10$hash\",\n" ++
  "  \"local_auth_token\": \"token\",\n  \"localAuthMode\": \"password\",\n" ++
  "  \"local_loopback_only\": false,\n  \"wake_on_lan_devices\": null,\n" ++
  "  \"keyboard_macros\": [],\n  \"keyboard_layout\": \"en-US\",\n" ++
  "  \"hdmi_edid_string\": \"\",\n  \"active_extension\": \"\",\n" ++
  "  \"display_rotation\": \"270\",\n  \"display_max_brightness\": 64,\n" ++
  "  \"display_dim_after_sec\": 120,\n  \"display_off_after_sec\": 1800,\n" ++
  "  \"tls_mode\": \"\",\n  \"usb_config\": \x7b\n" ++
  "    \"vendor_id\": \"0x1d6b\",\n    \"product_id\": \"0x0104\",\n" ++
  "    \"serial_number\": \"\",\n    \"manufacturer\": \"JetKVM\",\n" ++
  "    \"product\": \"USB Emulation Device\"\n  \x7d,\n" ++
  "  \"usb_devices\": \x7b\n    \"absolute_mouse\": true,\n" ++
  "    \"relative_mouse\": true,\n    \"keyboard\": true,\n" ++
  "    \"gamepad\": false,\n    \"mass_storage\": true,\n" ++
  "    \"serial_console\": false,\n    \"audio\": true\n  \x7d,\n" ++
  "  \"network_config\": \x7b\n    \"dhcp_client\": \"udhcpc\",\n" ++
  "    \"hostname\": null,\n    \"http_proxy\": null,\n" ++
  "    \"domain\": null,\n    \"ipv4_mode\": \"dhcp\",\n" ++
  "    \"ipv6_mode\": \"slaac\",\n    \"lldp_mode\": \"basic\",\n" ++
  "    \"lldp_tx_tlvs\": [\n      \"chassis\",\n      \"port\",\n" ++
  "      \"system\",\n      \"vlan\"\n    ],\n" ++
  "    \"mdns_mode\": \"auto\",\n" ++
  "    \"time_sync_mode\": \"ntp_and_http\",\n" ++
  "    \"time_sync_ordering\": [\n      \"ntp\",\n      \"http\"\n    ],\n" ++
  "    \"time_sync_disable_fallback\": false,\n" ++
  "    \"time_sync_parallel\": 4\n  \x7d,\n" ++
  "  \"default_log_level\": \"WARN\",\n  \"video_sleep_after_sec\": 0,\n" ++
  "  \"video_quality_factor\": 1,\n" ++
  "  \"video_codec_preference\": \"auto\",\n" ++
  "  \"native_max_restart_attempts\": 0,\n  \"mqtt_config\": \x7b\n" ++
  "    \"enabled\": false,\n    \"broker\": \"\",\n    \"port\": 1883,\n" ++
  "    \"username\": \"\",\n    \"password\": \"\",\n" ++
  "    \"base_topic\": \"jetkvm\",\n    \"use_tls\": false,\n" ++
  "    \"tls_insecure\": false,\n    \"enable_ha_discovery\": false,\n" ++
  "    \"enable_actions\": true,\n    \"debounce_ms\": 500\n  \x7d,\n" ++
  "  \"audio_input_auto_enable\": false,\n" ++
  "  \"audio_output_enabled\": true,\n  \"multi_player_gamepad\": false\n" ++
  "\x7d"

/-- A coder that knows one configuration and its text -/
def jsonOf (config : Config) (text : List Char) : EncodingJson where
  marshal asked :=
    if asked = config then .ok text else .error "json: unsupported value"
  unmarshal base value :=
    if value = text then .ok (readBack config) else .error base

theorem jsonOf_marshal {config asked : Config} {text marshalled : List Char} :
    (jsonOf config text).marshal asked = .ok marshalled ↔
      asked = config ∧ text = marshalled := by
  unfold jsonOf
  by_cases same : asked = config <;> simp [same]

theorem jsonOf_documented {config : Config} {text : List Char}
    (object : IsObject text) : (jsonOf config text).Documented where
  object marshalled := (jsonOf_marshal.mp marshalled).2 ▸ object
  readsBack marshalled := by
    obtain ⟨rfl, rfl⟩ := jsonOf_marshal.mp marshalled
    simp [jsonOf]

theorem jsonOf_loadable {config : Config} {text : List Char}
    (object : IsObject text) : Loadable (jsonOf config text) (some text) :=
  ⟨text, readBack config, rfl, by simp [decode, object.whole, jsonOf]⟩

/-- The lines of a text are read off its end, one at a time. -/
theorem isObject_line {front : String} {line back : List Char}
    (object : IsObject (front.toList ++ (line ++ back))) :
    IsObject ((front ++ String.ofList line).toList ++ back) := by
  rw [String.toList_append, String.toList_ofList, List.append_assoc]
  exact object

theorem isObject_lines {line back : List Char}
    (checked : (decide ((line ++ back).head? = some '{') &&
      decide (readValue (line ++ back) = some (line ++ back))) = true) :
    IsObject ((String.ofList line).toList ++ back) := by
  rw [Bool.and_eq_true, decide_eq_true_iff, decide_eq_true_iff] at checked
  rw [String.toList_ofList]
  exact ⟨checked.1, checked.2⟩

theorem storedText_isObject : IsObject storedText.toList := by
  rw [← List.append_nil storedText.toList]
  unfold storedText
  repeat apply isObject_line
  apply isObject_lines
  decide +kernel

/-- Saving what is already stored, to the end -/
theorem stored_survives :
    ∃ text, text = storedText.toList ∧
      Survives (jsonOf stored text) stored (some text)
        ((saveConfig (jsonOf stored text) {} stored).cutOff (text.length + 1)
          (some text)) := by
  obtain ⟨text, same⟩ : ∃ text, text = storedText.toList := ⟨_, rfl⟩
  have object : IsObject text := same ▸ storedText_isObject
  have marshalled : (jsonOf stored text).marshal (fixup stored) = .ok text :=
    jsonOf_marshal.mpr ⟨rfl, rfl⟩
  have outside : StopsOutside (jsonOf stored text) {} stored
      (text.length + 1) :=
    .inr (.inr ⟨text, marshalled, Nat.lt_succ_self _, .inl rfl⟩)
  exact ⟨text, same, (survives_iff_stopsOutside (jsonOf_documented object)
    (jsonOf_loadable object)).mpr outside⟩

theorem truncated_not_stopsOutside {text : List Char} (object : IsObject text) :
    ¬ StopsOutside (jsonOf stored text) {} stored 1 := by
  rw [stopsOutside_succ rfl]
  rintro ⟨marshalled, same, whole⟩
  obtain rfl := List.length_eq_zero_iff.mp (Nat.le_zero.mp whole)
  have brace := ((jsonOf_documented object).object same).brace
  simp at brace

def neighbour : LocalAuth.Call :=
  ⟨"192.168.1.5", 0, 0, fun _ _ => false, .ok ⟨"$2a$10$new", by decide⟩,
    "new-token", .ok ()⟩

/-- A neighbour chooses the password of the device. -/
theorem handleSetup_of_stopsInside_truncated :
    ∃ file, file =
        (saveConfig (jsonOf stored storedText.toList) {} stored).cutOff 1
          (some storedText.toList) ∧
      LocalAuth.handleSetup (started (jsonOf stored storedText.toList) file)
          neighbour (some ⟨"password", "swordfish"⟩) =
        ((started (jsonOf stored storedText.toList) file).setCredentials
            "password" "$2a$10$new" "new-token",
          { status := 200, message := "Device setup completed successfully"
            cookies := [("authToken", "new-token")] }) := by
  have object := storedText_isObject
  have acceptable : LocalAuth.AcceptablePassword "swordfish" :=
    ⟨by decide, by decide⟩
  refine ⟨_, rfl, ?_⟩
  exact @handleSetup_of_stopsInside _ _ _ _ _ neighbour _
    ⟨"$2a$10$new", by decide⟩ (jsonOf_documented object)
    (truncated_not_stopsOutside object) acceptable rfl rfl

/-- The same save, with the power lost as soon as the file is truncated -/
theorem truncated_not_survives :
    let text := storedText.toList
    let json := jsonOf stored text
    json.Documented ∧ Loadable json (some text) ∧
      ¬ Survives json stored (some text)
        ((saveConfig json {} stored).cutOff 1 (some text)) := by
  have object := storedText_isObject
  generalize storedText.toList = text at object
  have documented := @jsonOf_documented stored text object
  refine ⟨documented, jsonOf_loadable object, fun survives => ?_⟩
  exact survives.notDefault
    (loadConfig_of_stopsInside documented (truncated_not_stopsOutside object))

end Device

end ConfigDurability

end JetKvm
