import JetKvm.ConfigJson

/-!
# Reloading the configuration

`LoadConfig` decodes the file over a shallow copy of the default, which shares
with it the objects that the default points to.  When the decoding fails, what
it stored in them stays in the default.  When it succeeds, fields that were left
out of the file have the values of the default.
-/

namespace JetKvm

namespace ConfigReload

open JsonDecoding ConfigDurability ConfigJson ConfParser

/-! ### The fields have names of their own -/

theorem jigglerRecord_lawful : jigglerRecord.Lawful :=
  .of_found (by simp [jigglerRecord]) fun key => by cases key <;> rfl

theorem usbConfigRecord_lawful : usbConfigRecord.Lawful :=
  .of_found (by simp [usbConfigRecord]) fun key => by cases key <;> rfl

theorem usbDevicesRecord_lawful : usbDevicesRecord.Lawful :=
  .of_found (by simp [usbDevicesRecord]) fun key => by cases key <;> rfl

theorem mqttRecord_lawful : mqttRecord.Lawful :=
  .of_found (by simp [mqttRecord]) fun key => by cases key <;> rfl

theorem ipv4StaticRecord_lawful (null : NullPackage) :
    (ipv4StaticRecord null).Lawful :=
  .of_found (by simp [ipv4StaticRecord]) fun key => by cases key <;> rfl

theorem ipv6StaticRecord_lawful (null : NullPackage) :
    (ipv6StaticRecord null).Lawful :=
  .of_found (by simp [ipv6StaticRecord]) fun key => by cases key <;> rfl

theorem networkRecord_lawful (null : NullPackage) :
    (networkRecord null).Lawful :=
  .of_found (by simp [networkRecord]) fun key => by cases key <;> rfl

theorem deviceRecord_lawful : deviceRecord.Lawful :=
  .of_found (by simp [deviceRecord]) fun key => by cases key <;> rfl

theorem stepRecord_lawful : stepRecord.Lawful :=
  .of_found (by simp [stepRecord]) fun key => by cases key <;> rfl

theorem macroRecord_lawful : macroRecord.Lawful :=
  .of_found (by simp [macroRecord]) fun key => by cases key <;> rfl

theorem configRecord_lawful (coding : Coding) : (configRecord coding).Lawful :=
  .of_found (by simp [configRecord]) fun key => by cases key <;> rfl

/-! ### Reading the objects back -/

section Reading

/-- A string that was left out stays. -/
theorem reads_omitEmpty {text base : String} :
    match omitEmpty text with
    | none => readOmitEmpty base text = base
    | some value => Decoder.string.Reads value base (readOmitEmpty base text) := by
  unfold omitEmpty readOmitEmpty
  by_cases empty : text = ""
  · simp [empty]
  · simp only [empty, if_false]
    exact Decoder.reads_string

theorem reads_strings {texts : List String} {base : Option (List String)} :
    stringsDecoder.Reads (stringsJson texts) base (some texts) :=
  Decoder.reads_slice fun _ _ => Decoder.reads_string

theorem reads_omitEmptyStrings {texts base : Option (List String)} :
    match omitEmptyStrings texts with
    | none => readStrings base texts = base
    | some value => stringsDecoder.Reads value base (readStrings base texts) := by
  unfold omitEmptyStrings readStrings
  by_cases empty : texts.getD [] = []
  · simp [empty]
  · obtain ⟨texts, rfl⟩ : ∃ given, texts = some given := by
      cases texts with
      | none => exact absurd rfl empty
      | some given => exact ⟨given, rfl⟩
    simp only [empty, if_false, Option.map_some]
    exact reads_strings

theorem reads_jiggler {base stored : JigglerConfig}
    (seconds : IsInt stored.inactivityLimitSeconds)
    (percentage : IsInt stored.jitterPercentage) :
    jigglerDecoder.Reads (jigglerRecord.write (jigglerJson stored)) base
      (readJiggler base stored) := by
  refine (Record.reads_write jigglerRecord_lawful fun key => ?_).via
  cases key with
  | inactivityLimitSeconds => exact Decoder.reads_int seconds
  | jitterPercentage => exact Decoder.reads_int percentage
  | scheduleCronTab => exact Decoder.reads_string
  | timezone => exact reads_omitEmpty

theorem reads_usbConfig {base stored : UsbConfig} :
    usbConfigDecoder.Reads (usbConfigRecord.write (usbConfigJson stored)) base
      stored :=
  (Record.reads_write usbConfigRecord_lawful fun _ => Decoder.reads_string).via

theorem reads_usbDevices {base stored : UsbDevices} :
    usbDevicesDecoder.Reads (usbDevicesRecord.write (usbDevicesJson stored)) base
      stored :=
  (Record.reads_write usbDevicesRecord_lawful fun _ => Decoder.reads_bool).via

theorem reads_mqtt {base stored : MqttConfig} (port : IsInt stored.port)
    (debounce : IsInt stored.debounceMs) :
    mqttDecoder.Reads (mqttRecord.write (mqttJson stored)) base stored := by
  refine (Record.reads_write mqttRecord_lawful fun key => ?_).via
  cases key with
  | port => exact Decoder.reads_int port
  | debounceMs => exact Decoder.reads_int debounce
  | broker | username | password | baseTopic => exact Decoder.reads_string
  | _ => exact Decoder.reads_bool

variable {null : NullPackage}

theorem reads_nullString (documented : null.Documented)
    {base stored : NullString} :
    (Decoder.unmarshaler null.string).Reads (nullStringJson stored) base
      (readString base stored) := by
  obtain ⟨text, valid⟩ := stored
  cases valid with
  | false => exact Decoder.reads_unmarshaler documented.nullString
  | true => exact Decoder.reads_unmarshaler (documented.string text)

theorem reads_nullInt (documented : null.Documented) {base stored : NullInt}
    (inside : -2 ^ 63 ≤ stored.int64 ∧ stored.int64 < 2 ^ 63) :
    (Decoder.unmarshaler null.int).Reads (nullIntJson stored) base
      (readInt base stored) := by
  obtain ⟨n, valid⟩ := stored
  cases valid with
  | false => exact Decoder.reads_unmarshaler documented.nullInt
  | true =>
      exact Decoder.reads_unmarshaler (documented.int n inside.1 inside.2)

theorem reads_nullBool (documented : null.Documented) {base stored : NullBool} :
    (Decoder.unmarshaler null.bool).Reads (nullBoolJson stored) base
      (readBool base stored) := by
  obtain ⟨value, valid⟩ := stored
  cases valid with
  | false => exact Decoder.reads_unmarshaler documented.nullBool
  | true => exact Decoder.reads_unmarshaler (documented.bool value)

theorem reads_ipv4Static (documented : null.Documented)
    {base : Option IPv4StaticConfig} {stored : IPv4StaticConfig} :
    (Decoder.pointer {} (.via ipv4StaticFields (ipv4StaticRecord null).decode)).Reads
      ((ipv4StaticRecord null).write (ipv4StaticJson stored)) base
      (readIPv4Static base (some stored)) := by
  refine Decoder.reads_pointer rfl
    (Record.reads_write (ipv4StaticRecord_lawful null) fun key => ?_).via
  cases key with
  | dns => exact reads_omitEmptyStrings
  | _ => exact reads_nullString documented

theorem reads_ipv6Static (documented : null.Documented)
    {base : Option IPv6StaticConfig} {stored : IPv6StaticConfig} :
    (Decoder.pointer {} (.via ipv6StaticFields (ipv6StaticRecord null).decode)).Reads
      ((ipv6StaticRecord null).write (ipv6StaticJson stored)) base
      (readIPv6Static base (some stored)) := by
  refine Decoder.reads_pointer rfl
    (Record.reads_write (ipv6StaticRecord_lawful null) fun key => ?_).via
  cases key with
  | dns => exact reads_omitEmptyStrings
  | _ => exact reads_nullString documented

theorem reads_network (documented : null.Documented) {base stored : NetworkConfig}
    (inside : -2 ^ 63 ≤ stored.timeSyncParallel.int64 ∧
      stored.timeSyncParallel.int64 < 2 ^ 63) :
    (networkDecoder null).Reads
      ((networkRecord null).write (networkJson null stored)) base
      (readNetwork base stored) := by
  refine (Record.reads_write (networkRecord_lawful null) fun key => ?_).via
  cases key with
  | ipv4Static =>
      obtain ⟨_, _, _, _, _, ipv4Static⟩ := stored
      cases ipv4Static with
      | none => rfl
      | some static => exact reads_ipv4Static documented
  | ipv6Static =>
      obtain ⟨_, _, _, _, _, _, _, ipv6Static⟩ := stored
      cases ipv6Static with
      | none => rfl
      | some static => exact reads_ipv6Static documented
  | lldpTxTLVs | timeSyncOrdering | timeSyncNTPServers | timeSyncHTTPUrls =>
      exact reads_omitEmptyStrings
  | timeSyncDisableFallback => exact reads_nullBool documented
  | timeSyncParallel => exact reads_nullInt documented inside
  | _ => exact reads_nullString documented

theorem reads_list {β : Type} {zero : β} {decoder : Decoder β} {json : β → Json}
    {values base : List β}
    (reads : ∀ value ∈ values, decoder.Reads (json value) zero value) :
    (listDecoder zero decoder).Reads (.array (values.map json)) base values :=
  have whole : (Decoder.slice zero decoder).Reads (.array (values.map json))
      (some base) (some values) := Decoder.reads_slice reads
  ⟨whole.fine, congrArg (·.getD []) whole.stored⟩

theorem reads_device {base stored : WakeOnLanDevice} (fresh : base.broadcastIP = "") :
    deviceDecoder.Reads (deviceRecord.write (deviceJson stored)) base stored := by
  refine (Record.reads_write deviceRecord_lawful fun key => ?_).via
  cases key with
  | broadcastIP =>
      have reads := @reads_omitEmpty stored.broadcastIP base.broadcastIP
      have unchanged : readOmitEmpty base.broadcastIP stored.broadcastIP =
          stored.broadcastIP := by
        unfold readOmitEmpty
        split
        · rename_i empty
          rw [empty, fresh]
        · rfl
      rwa [unchanged] at reads
  | _ => exact Decoder.reads_string

theorem reads_devices {base stored : List WakeOnLanDevice} :
    (listDecoder ⟨"", "", ""⟩ deviceDecoder).Reads (devicesJson stored) base
      stored := by
  unfold devicesJson
  split
  · rename_i empty
    rw [empty]
    exact ⟨rfl, rfl⟩
  · exact reads_list fun _ _ => reads_device rfl

theorem reads_step {base stored : KeyboardMacroStep} (delay : IsInt stored.delay) :
    stepDecoder.Reads (stepRecord.write (stepJson stored)) base stored := by
  refine (Record.reads_write stepRecord_lawful fun key => ?_).via
  cases key with
  | delay => exact Decoder.reads_int delay
  | _ => exact reads_list fun _ _ => Decoder.reads_string

theorem reads_macro {base stored : KeyboardMacro} (fresh : base.sortOrder = 0)
    (order : IsInt stored.sortOrder)
    (delays : ∀ step ∈ stored.steps, IsInt step.delay) :
    macroDecoder.Reads (macroRecord.write (macroJson stored)) base stored := by
  refine (Record.reads_write macroRecord_lawful fun key => ?_).via
  cases key with
  | id => exact Decoder.reads_string
  | name => exact Decoder.reads_string
  | steps => exact reads_list fun step inSteps => reads_step (delays step inSteps)
  | sortOrder =>
      obtain ⟨id, name, steps, sortOrder⟩ := stored
      simp only [macroJson]
      by_cases zero : sortOrder = 0
      · rw [if_pos zero]
        exact zero.trans fresh.symm
      · rw [if_neg zero]
        exact Decoder.reads_int order

end Reading

/-! ### Reading the configuration back -/

/-- The integers of the configuration fit their types. -/
structure InRange (config : Config) : Prop where
  displayMaxBrightness : IsInt config.displayMaxBrightness
  displayDimAfterSec : IsInt config.displayDimAfterSec
  displayOffAfterSec : IsInt config.displayOffAfterSec
  videoSleepAfterSec : IsInt config.videoSleepAfterSec
  nativeMaxRestart : config.nativeMaxRestart ≤ 4294967295
  jiggler : ∀ jiggler ∈ config.jigglerConfig,
    IsInt jiggler.inactivityLimitSeconds ∧ IsInt jiggler.jitterPercentage
  macros : ∀ saved ∈ config.keyboardMacros,
    IsInt saved.sortOrder ∧ ∀ step ∈ saved.steps, IsInt step.delay
  network : ∀ network ∈ config.networkConfig,
    -2 ^ 63 ≤ network.timeSyncParallel.int64 ∧
      network.timeSyncParallel.int64 < 2 ^ 63
  mqtt : ∀ mqtt ∈ config.mqttConfig, IsInt mqtt.port ∧ IsInt mqtt.debounceMs

/-- A text is read as the value it was written for. -/
structure Documented (coding : Coding) (config : Config) : Prop where
  null : coding.null.Documented
  float : ∀ factor ∈ coding.formatFloat config.videoQualityFactor,
    coding.parseFloat factor = some config.videoQualityFactor
  object : ∀ value, marshal coding config = .ok value →
    JsonText.IsObject (coding.print value)
  parse : ∀ value, marshal coding config = .ok value →
    coding.parse (coding.print value) = some value

/-- What a pointer to the object becomes -/
def readPointer {α : Type} (read : α → α → α) (object : α) : Option α → Pointer α
  | none => .apart (some object) none
  | some stored => .shared (read object stored)

theorem loaded_readPointer {α : Type} (read : α → α → α) (object : α)
    (stored : Option α) :
    (readPointer read object stored).loaded = stored.map (read object) := by
  cases stored <;> rfl

theorem reads_pointerJson {α Key : Type} {β : Key → Type} {record : Record β}
    {json : α → Key → Option Json} {zero object : α} {decoder : Decoder α}
    {read : α → α → α} {pointer : Option α}
    (reads : ∀ stored ∈ pointer,
      decoder.Reads (record.write (json stored)) object (read object stored)) :
    (Pointer.decode zero decoder).Reads (pointerJson record json pointer)
      (.shared object) (readPointer read object pointer) := by
  cases pointer with
  | none => exact ⟨rfl, rfl⟩
  | some stored => exact Pointer.reads_shared rfl (reads stored rfl)

/-- Every field is stored. -/
def readWhole {α : Type} (_ stored : α) : α := stored

def readCells (config : Config) : ∀ key, Cell key
  | .jigglerConfig =>
      readPointer readJiggler defaultJigglerConfig config.jigglerConfig
  | .usbConfig => readPointer readWhole defaultUsbConfig config.usbConfig
  | .usbDevices => readPointer readWhole defaultUsbDevices config.usbDevices
  | .networkConfig =>
      readPointer readNetwork defaultNetworkConfig config.networkConfig
  | .mqttConfig => readPointer readWhole defaultMqttConfig config.mqttConfig
  | key => copied (readBack config) key

theorem loaded_readCells (config : Config) :
    loaded (readCells config) = readBack config := by
  have whole {α : Type} (object : α) : readWhole object = id := rfl
  unfold loaded readCells
  simp only [loaded_readPointer, whole, Option.map_id, id_eq]
  rfl

section Config

variable {coding : Coding} {config : Config}

theorem reads_config (documented : Documented coding config)
    (inRange : InRange config) {factor : Numeral}
    (formatted : coding.formatFloat config.videoQualityFactor = some factor) :
    (configRecord coding).decode.Reads
      ((configRecord coding).write (configJson coding config factor))
      (copied getDefaultConfig) (readCells config) := by
  refine Record.reads_write (configRecord_lawful coding) fun key => ?_
  cases key with
  | tailscaleControlURL => exact reads_omitEmpty
  | sharingPasswordHash => exact reads_omitEmpty
  | jigglerEnabled | autoUpdateEnabled | includePreRelease | localLoopbackOnly
  | audioInputAutoEnable | audioOutputEnabled | multiPlayerGamepad =>
      exact Decoder.reads_bool
  | displayMaxBrightness => exact Decoder.reads_int inRange.displayMaxBrightness
  | displayDimAfterSec => exact Decoder.reads_int inRange.displayDimAfterSec
  | displayOffAfterSec => exact Decoder.reads_int inRange.displayOffAfterSec
  | videoSleepAfterSec => exact Decoder.reads_int inRange.videoSleepAfterSec
  | nativeMaxRestart => exact Decoder.reads_uint inRange.nativeMaxRestart
  | videoQualityFactor =>
      exact Decoder.reads_number (documented.float factor formatted)
  | wakeOnLanDevices => exact reads_devices
  | keyboardMacros =>
      exact reads_list fun saved inMacros =>
        reads_macro rfl (inRange.macros saved inMacros).1
          (inRange.macros saved inMacros).2
  | jigglerConfig =>
      exact reads_pointerJson fun stored here =>
        reads_jiggler (inRange.jiggler stored here).1 (inRange.jiggler stored here).2
  | usbConfig => exact reads_pointerJson fun _ _ => reads_usbConfig
  | usbDevices => exact reads_pointerJson fun _ _ => reads_usbDevices
  | networkConfig =>
      exact reads_pointerJson fun stored here =>
        reads_network documented.null (inRange.network stored here)
  | mqttConfig =>
      exact reads_pointerJson fun stored here =>
        reads_mqtt (inRange.mqtt stored here).1 (inRange.mqtt stored here).2
  | _ => exact Decoder.reads_string

/-- The text of a configuration decodes, over the default, to what is read back
of each field. -/
theorem unmarshal_print (documented : Documented coding config)
    (inRange : InRange config) {value : Json}
    (marshalled : marshal coding config = .ok value) :
    unmarshal coding getDefaultConfig (coding.print value) =
      .ok (readBack config) := by
  unfold unmarshal
  rw [documented.parse value marshalled]
  unfold marshal at marshalled
  split at marshalled
  · cases marshalled
  · rename_i factor formatted
    obtain rfl := Except.ok.inj marshalled
    have reads := reads_config documented inRange formatted
    dsimp only
    rw [if_pos reads.fine, reads.stored, loaded_readCells]

end Config

/-! ### What a reload should give -/

section Reload

variable (coding : Coding)

/-- A file that does not decode leaves the default. -/
def Untouched (text : List Char) : Prop :=
  ¬ Loadable (encodingJson coding) (some text) →
    loadConfig (encodingJson coding) (some text) = getDefaultConfig

/-- The configuration up to the migrations of `LoadConfig` -/
def migrated (config : Config) : Config :=
  { config with
    keyboardLayout := fixupKeyboardLayout config.keyboardLayout
    defaultLogLevel := "WARN"
    edidString := migrateEdid config.edidString }

/-- What was saved is what is loaded. -/
def Reloads (config : Config) : Prop :=
  ∀ calls file,
    (saveConfig (encodingJson coding) calls config file).2 = .ok () →
      loadConfig (encodingJson coding)
          ((saveConfig (encodingJson coding) calls config).final file) =
        migrated config

/-- The configuration has all the objects it may point to. -/
structure Nested (config : Config) : Prop where
  jiggler : config.jigglerConfig.isSome = true
  usbConfig : config.usbConfig.isSome = true
  usbDevices : config.usbDevices.isSome = true
  network : config.networkConfig.isSome = true
  mqtt : config.mqttConfig.isSome = true

/-! ### When a file that does not decode is harmless -/

/-- The values of the file that are stored in an object of the default: those
before the first null, and before a value that is refused. -/
def sharedValues (key : ConfigKey) (value : Json) : List Json :=
  Pointer.throughOriginal ((configRecord coding).valuesAt key value.members)

/-- They end with the value of the default, in each field. -/
structure Restored (value : Json) : Prop where
  jiggler : jigglerRecord.Restores (sharedValues coding .jigglerConfig value)
    (jigglerFields defaultJigglerConfig)
  usbConfig : usbConfigRecord.Restores (sharedValues coding .usbConfig value)
    (usbConfigFields defaultUsbConfig)
  usbDevices : usbDevicesRecord.Restores (sharedValues coding .usbDevices value)
    (usbDevicesFields defaultUsbDevices)
  network : (networkRecord coding.null).Restores
    (sharedValues coding .networkConfig value) (networkFields defaultNetworkConfig)
  mqtt : mqttRecord.Restores (sharedValues coding .mqttConfig value)
    (mqttFields defaultMqttConfig)

/-- The text has a value, or else nothing is decoded. -/
def valueOf (text : List Char) : Option Json :=
  (JsonText.readValue text).bind coding.parse

def Harmless (text : List Char) : Prop :=
  ∀ value ∈ valueOf coding text,
    ((configRecord coding).decode value).outcome ≠ .fine → Restored coding value

/-! ### When a configuration is read back as it was -/

def StringStays (base stored : NullString) : Prop :=
  stored.valid = true ∨ stored.string = base.string

def StringsStay (base stored : Option (List String)) : Prop :=
  stored.getD [] ≠ [] ∨ stored = base

structure NetworkKept (network : NetworkConfig) : Prop where
  dhcpClient : StringStays (.of "udhcpc") network.dhcpClient
  hostname : StringStays {} network.hostname
  httpProxy : StringStays {} network.httpProxy
  domain : StringStays {} network.domain
  ipv4Mode : StringStays (.of "dhcp") network.ipv4Mode
  ipv4Static : ∀ static ∈ network.ipv4Static,
    StringStays {} static.address ∧ StringStays {} static.netmask ∧
      StringStays {} static.gateway ∧ StringsStay none static.dns
  ipv6Mode : StringStays (.of "slaac") network.ipv6Mode
  ipv6Static : ∀ static ∈ network.ipv6Static,
    StringStays {} static.addressPrefix ∧ StringStays {} static.gateway ∧
      StringsStay none static.dns
  lldpMode : StringStays (.of "basic") network.lldpMode
  lldpTxTLVs : network.lldpTxTLVs.getD [] ≠ []
  mdnsMode : StringStays (.of "auto") network.mdnsMode
  timeSyncMode : StringStays (.of "ntp_and_http") network.timeSyncMode
  timeSyncOrdering : network.timeSyncOrdering.getD [] ≠ []
  timeSyncDisableFallback : network.timeSyncDisableFallback.valid = true ∨
    network.timeSyncDisableFallback.bool = false
  timeSyncParallel : network.timeSyncParallel.valid = true ∨
    network.timeSyncParallel.int64 = 4
  timeSyncNTPServers : StringsStay none network.timeSyncNTPServers
  timeSyncHTTPUrls : StringsStay none network.timeSyncHTTPUrls

structure Kept (config : Config) : Prop where
  jiggler : ∀ jiggler ∈ config.jigglerConfig, jiggler.timezone ≠ ""
  network : ∀ network ∈ config.networkConfig, NetworkKept network

end Reload

/-! ### What a failed decoding leaves in the default -/

section Failed

variable {coding : Coding}

theorem decode_encodingJson (base : Config) (text : List Char) :
    decode (encodingJson coding) base text =
      match valueOf coding text with
      | none => .error base
      | some value =>
          let storing := (configRecord coding).decode value
          let cells := storing.update (copied base)
          if storing.outcome = .fine then .ok (loaded cells)
          else .error (original base cells) := by
  unfold decode valueOf
  cases JsonText.readValue text with
  | none => rfl
  | some line => rfl

/-- The object of the default keeps what the shared values store in it. -/
theorem original_pointer {α Key : Type} [DecidableEq Key] {β : Key → Type}
    {record : Record β} {content : α ≃ ∀ key, β key} {zero object : α}
    (values : List Json) :
    (values.foldl
        (fun pointer value =>
          (Pointer.decode zero (record.decode.via content) value).update pointer)
        (.shared object)).original = some object ↔
      record.Restores (Pointer.throughOriginal values) (content object) := by
  rw [Pointer.original_settled, Option.some.injEq, Record.foldl_via_eq_iff]

theorem original_decode_eq_iff (value : Json) :
    original getDefaultConfig
        (((configRecord coding).decode value).update (copied getDefaultConfig)) =
        getDefaultConfig ↔
      Restored coding value := by
  have whole (cells : ∀ key, Cell key) :
      original getDefaultConfig cells = getDefaultConfig ↔
        (cells .jigglerConfig).original = some defaultJigglerConfig ∧
          (cells .usbConfig).original = some defaultUsbConfig ∧
          (cells .usbDevices).original = some defaultUsbDevices ∧
          (cells .networkConfig).original = some defaultNetworkConfig ∧
          (cells .mqttConfig).original = some defaultMqttConfig := by
    simp [original, getDefaultConfig]
  rw [whole]
  simp only [Record.update_decode]
  constructor
  · rintro ⟨jiggler, usbConfig, usbDevices, network, mqtt⟩
    exact ⟨(original_pointer _).mp jiggler, (original_pointer _).mp usbConfig,
      (original_pointer _).mp usbDevices, (original_pointer _).mp network,
      (original_pointer _).mp mqtt⟩
  · rintro ⟨jiggler, usbConfig, usbDevices, network, mqtt⟩
    exact ⟨(original_pointer _).mpr jiggler, (original_pointer _).mpr usbConfig,
      (original_pointer _).mpr usbDevices, (original_pointer _).mpr network,
      (original_pointer _).mpr mqtt⟩

theorem loadable_iff (text : List Char) :
    Loadable (encodingJson coding) (some text) ↔
      ∃ value ∈ valueOf coding text,
        ((configRecord coding).decode value).outcome = .fine := by
  constructor
  · rintro ⟨text', config, same, decoded⟩
    obtain rfl := Option.some.inj same
    rw [decode_encodingJson] at decoded
    cases read : valueOf coding text with
    | none =>
        rw [read] at decoded
        cases decoded
    | some value =>
        rw [read] at decoded
        dsimp only at decoded
        split at decoded
        · rename_i fine
          exact ⟨value, rfl, fine⟩
        · cases decoded
  · rintro ⟨value, read, fine⟩
    have decoded := @decode_encodingJson coding getDefaultConfig text
    rw [Option.mem_def.mp read] at decoded
    exact ⟨text, _, rfl, decoded.trans (if_pos fine)⟩

/-- The text is malformed, and nothing is decoded. -/
theorem loadConfig_of_malformed {text : List Char}
    (malformed : valueOf coding text = none) :
    loadConfig (encodingJson coding) (some text) = getDefaultConfig := by
  simp only [loadConfig, decode_encodingJson, malformed]

theorem loadConfig_of_failed {text : List Char} {value : Json}
    (read : valueOf coding text = some value)
    (failed : ((configRecord coding).decode value).outcome ≠ .fine) :
    loadConfig (encodingJson coding) (some text) =
      original getDefaultConfig
        (((configRecord coding).decode value).update
          (copied getDefaultConfig)) := by
  simp only [loadConfig, decode_encodingJson, read, if_neg failed]

theorem untouched_iff_harmless (text : List Char) :
    Untouched coding text ↔ Harmless coding text := by
  unfold Untouched Harmless
  rw [loadable_iff]
  cases read : valueOf coding text with
  | none =>
      exact iff_of_true (fun _ => loadConfig_of_malformed read) nofun
  | some value =>
      simp only [Option.mem_def, Option.some.injEq, forall_eq', exists_eq_left']
      refine forall_congr' fun failed => ?_
      rw [loadConfig_of_failed read failed, original_decode_eq_iff]

end Failed

/-! ### What a reload gives of what was saved -/

section Saved

variable {coding : Coding} {config : Config}

section Program

open Program

variable {World Failure : Type} {Value Other : Type}

theorem bind_eq_ok_iff {program : Program World Failure Value}
    {next : Value → Program World Failure Other} {world : World} {value : Other} :
    ((program >>= next) world).2 = .ok value ↔
      ∃ first, (program world).2 = .ok first ∧
        (next first (program.final world)).2 = .ok value := by
  cases ended : (program world).2 with
  | ok first => simp [bind_of_ok ended]
  | error failure => simp [bind_of_error ended]

theorem none_of_check {failure : Option Failure} {world : World}
    (passed : ((check failure : Program World Failure Unit) world).2 = .ok ()) :
    failure = none := by
  cases failure with
  | none => rfl
  | some failure => cases passed

end Program

/-- A save that succeeds leaves the whole text and a newline. -/
theorem final_of_saved {json : EncodingJson} {calls : Calls} {file : File}
    (saved : (saveConfig json calls config file).2 = .ok ()) :
    ∃ text, json.marshal (fixup config) = .ok text ∧
      (saveConfig json calls config).final file = some (text ++ ['\n']) := by
  obtain ⟨_, opened, saved'⟩ := bind_eq_ok_iff.mp saved
  have created := Option.map_eq_none_iff.mp (none_of_check opened)
  obtain ⟨_, -, saved'⟩ := bind_eq_ok_iff.mp saved'
  obtain ⟨_, encoded, -⟩ := bind_eq_ok_iff.mp saved'
  unfold encode at encoded
  cases marshalled : json.marshal (fixup config) with
  | error message =>
      rw [marshalled] at encoded
      cases encoded
  | ok text =>
      rw [marshalled] at encoded
      obtain ⟨_, -, written⟩ := bind_eq_ok_iff.mp encoded
      have written := Option.map_eq_none_iff.mp (none_of_check written)
      refine ⟨text, rfl, ?_⟩
      unfold Program.final
      rw [saveConfig_moments created, List.range_succ, List.map_append,
        List.map_singleton, List.getLastD_concat, List.take_length]
      simp [left, marshalled, written]

/-- Without errors of the calls, what can be marshalled is saved. -/
theorem saved_of_marshal {json : EncodingJson} {text : List Char} {file : File}
    (marshalled : json.marshal (fixup config) = .ok text) :
    (saveConfig json {} config file).2 = .ok () := by
  have encoded : (encode json {} (fixup config) (some [])).2 = .ok () := by
    unfold encode
    rw [marshalled]
    exact bind_eq_ok_iff.mpr
      ⟨(), congrArg Prod.snd (forM_put (text ++ ['\n']) []), rfl⟩
  exact bind_eq_ok_iff.mpr ⟨(), rfl, bind_eq_ok_iff.mpr ⟨(), rfl,
    bind_eq_ok_iff.mpr ⟨(), encoded, rfl⟩⟩⟩

theorem loadConfig_of_saved {calls : Calls} {file : File}
    (documented : Documented coding (fixup config)) (inRange : InRange config)
    (saved : (saveConfig (encodingJson coding) calls config file).2 = .ok ()) :
    loadConfig (encodingJson coding)
        ((saveConfig (encodingJson coding) calls config).final file) =
      migrate (readBack (fixup config)) := by
  obtain ⟨text, marshalled, left⟩ := final_of_saved saved
  have fixedInRange : InRange (fixup config) := { inRange with }
  cases valued : marshal coding (fixup config) with
  | error message => simp [encodingJson, valued, Except.map] at marshalled
  | ok value =>
      simp only [encodingJson, valued, Except.map, Except.ok.injEq] at marshalled
      subst marshalled
      have object := documented.object value valued
      have read := unmarshal_print documented fixedInRange valued
      rw [left]
      simp only [loadConfig, decode, object.readValue_append, encodingJson, read]

/-- The configuration can be saved, as far as its double goes. -/
def Supported (coding : Coding) (config : Config) : Prop :=
  (coding.formatFloat config.videoQualityFactor).isSome = true

theorem saved_iff_supported {file : File} :
    (saveConfig (encodingJson coding) {} config file).2 = .ok () ↔
      Supported coding config := by
  unfold Supported
  constructor
  · intro saved
    obtain ⟨text, marshalled, -⟩ := final_of_saved saved
    by_contra unsupported
    rw [Option.not_isSome_iff_eq_none] at unsupported
    simp [encodingJson, marshal, fixup, unsupported, Except.map] at marshalled
  · intro supported
    obtain ⟨factor, formatted⟩ := Option.isSome_iff_exists.mp supported
    have marshalled : (encodingJson coding).marshal (fixup config) =
        .ok (coding.print ((configRecord coding).write
          (configJson coding (fixup config) factor))) := by
      simp [encodingJson, marshal, fixup, formatted, Except.map]
    exact saved_of_marshal marshalled

end Saved

/-! ### When the fields are read back as they were -/

section Kept

theorem readString_eq_iff {base stored : NullString} :
    readString base stored = stored ↔ StringStays base stored := by
  obtain ⟨text, valid⟩ := stored
  cases valid with
  | true => simp [readString, StringStays]
  | false => simpa [readString, StringStays] using eq_comm

theorem readStrings_eq_iff {base stored : Option (List String)} :
    readStrings base stored = stored ↔ StringsStay base stored := by
  unfold readStrings StringsStay
  by_cases empty : stored.getD [] = []
  · simpa [empty] using eq_comm
  · simp [empty]

theorem readStrings_of_default {base stored : Option (List String)}
    (nonempty : base.getD [] ≠ []) :
    readStrings base stored = stored ↔ stored.getD [] ≠ [] := by
  rw [readStrings_eq_iff]
  unfold StringsStay
  refine or_iff_left_of_imp ?_
  rintro rfl
  exact nonempty

theorem readInt_eq_iff {base stored : NullInt} :
    readInt base stored = stored ↔
      stored.valid = true ∨ stored.int64 = base.int64 := by
  obtain ⟨n, valid⟩ := stored
  cases valid with
  | true => simp [readInt]
  | false => simpa [readInt] using eq_comm

theorem readBool_eq_iff {base stored : NullBool} :
    readBool base stored = stored ↔
      stored.valid = true ∨ stored.bool = base.bool := by
  obtain ⟨value, valid⟩ := stored
  cases valid with
  | true => simp [readBool]
  | false => simpa [readBool] using eq_comm

theorem readIPv4Static_eq_iff {stored : Option IPv4StaticConfig} :
    readIPv4Static none stored = stored ↔
      ∀ static ∈ stored, StringStays {} static.address ∧
        StringStays {} static.netmask ∧ StringStays {} static.gateway ∧
          StringsStay none static.dns := by
  cases stored with
  | none => simp [readIPv4Static]
  | some static =>
      cases static
      simp [readIPv4Static, readString_eq_iff, readStrings_eq_iff]

theorem readIPv6Static_eq_iff {stored : Option IPv6StaticConfig} :
    readIPv6Static none stored = stored ↔
      ∀ static ∈ stored, StringStays {} static.addressPrefix ∧
        StringStays {} static.gateway ∧ StringsStay none static.dns := by
  cases stored with
  | none => simp [readIPv6Static]
  | some static =>
      cases static
      simp [readIPv6Static, readString_eq_iff, readStrings_eq_iff]

theorem readNetwork_eq_iff {network : NetworkConfig} :
    readNetwork defaultNetworkConfig network = network ↔ NetworkKept network := by
  have tlvs : defaultNetworkConfig.lldpTxTLVs.getD [] ≠ [] := by decide
  have ordering : defaultNetworkConfig.timeSyncOrdering.getD [] ≠ [] := by decide
  cases network
  rw [readNetwork, NetworkConfig.mk.injEq]
  simp only [readString_eq_iff, readInt_eq_iff, readBool_eq_iff,
    readStrings_of_default tlvs, readStrings_of_default ordering]
  constructor
  · rintro ⟨dhcpClient, hostname, httpProxy, domain, ipv4Mode, ipv4Static, ipv6Mode,
      ipv6Static, lldpMode, lldpTxTLVs, mdnsMode, timeSyncMode, timeSyncOrdering,
      timeSyncDisableFallback, timeSyncParallel, ntpServers, httpUrls⟩
    exact ⟨dhcpClient, hostname, httpProxy, domain, ipv4Mode,
      readIPv4Static_eq_iff.mp ipv4Static, ipv6Mode,
      readIPv6Static_eq_iff.mp ipv6Static, lldpMode, lldpTxTLVs, mdnsMode,
      timeSyncMode, timeSyncOrdering, timeSyncDisableFallback, timeSyncParallel,
      readStrings_eq_iff.mp ntpServers, readStrings_eq_iff.mp httpUrls⟩
  · intro kept
    exact ⟨kept.dhcpClient, kept.hostname, kept.httpProxy, kept.domain,
      kept.ipv4Mode, readIPv4Static_eq_iff.mpr kept.ipv4Static, kept.ipv6Mode,
      readIPv6Static_eq_iff.mpr kept.ipv6Static, kept.lldpMode, kept.lldpTxTLVs,
      kept.mdnsMode, kept.timeSyncMode, kept.timeSyncOrdering,
      kept.timeSyncDisableFallback, kept.timeSyncParallel,
      readStrings_eq_iff.mpr kept.timeSyncNTPServers,
      readStrings_eq_iff.mpr kept.timeSyncHTTPUrls⟩

theorem readOmitEmpty_empty (text : String) : readOmitEmpty "" text = text := by
  unfold readOmitEmpty
  split
  · rename_i empty
    exact empty.symm
  · rfl

theorem readJiggler_eq_iff {jiggler : JigglerConfig} :
    readJiggler defaultJigglerConfig jiggler = jiggler ↔ jiggler.timezone ≠ "" := by
  obtain ⟨seconds, percentage, cronTab, timezone⟩ := jiggler
  by_cases empty : timezone = ""
  · subst empty
    simp [readJiggler, readOmitEmpty, defaultJigglerConfig]
  · simp [readJiggler, readOmitEmpty, empty]

theorem map_eq_iff {α : Type} {read : α → α} {stored : Option α} :
    stored.map read = stored ↔ ∀ object ∈ stored, read object = object := by
  cases stored <;> simp

/-- With nothing to fill in, only the migrations change what is read back. -/
theorem migrate_readBack {config : Config} (nested : Nested config) :
    migrate (readBack (fixup config)) = migrated (readBack config) := by
  obtain ⟨jiggler, hasJiggler⟩ := Option.isSome_iff_exists.mp nested.jiggler
  obtain ⟨usbConfig, hasUsbConfig⟩ := Option.isSome_iff_exists.mp nested.usbConfig
  obtain ⟨usbDevices, hasUsbDevices⟩ := Option.isSome_iff_exists.mp nested.usbDevices
  obtain ⟨network, hasNetwork⟩ := Option.isSome_iff_exists.mp nested.network
  obtain ⟨mqtt, hasMqtt⟩ := Option.isSome_iff_exists.mp nested.mqtt
  have idempotent (layout : String) :
      fixupKeyboardLayout (fixupKeyboardLayout layout) =
        fixupKeyboardLayout layout := by
    unfold fixupKeyboardLayout
    split <;> simp_all
  simp [migrate, migrated, readBack, fixup, hasJiggler, hasUsbConfig,
    hasUsbDevices, hasNetwork, hasMqtt, idempotent]

theorem readBack_eq_iff {config : Config} :
    migrated (readBack config) = migrated config ↔ Kept config := by
  have whole : migrated (readBack config) = migrated config ↔
      config.jigglerConfig.map (readJiggler defaultJigglerConfig) =
          config.jigglerConfig ∧
        config.networkConfig.map (readNetwork defaultNetworkConfig) =
          config.networkConfig := by
    have noTailscale : getDefaultConfig.tailscaleControlURL = "" := rfl
    have noPassword : getDefaultConfig.sharingPasswordHash = "" := rfl
    simp [migrated, readBack, noTailscale, noPassword, readOmitEmpty_empty]
  rw [whole, map_eq_iff, map_eq_iff]
  simp only [readJiggler_eq_iff, readNetwork_eq_iff]
  exact ⟨fun kept => ⟨kept.1, kept.2⟩, fun kept => ⟨kept.jiggler, kept.network⟩⟩

end Kept

section Main

variable {coding : Coding} {config : Config}

theorem reloads_iff_kept (documented : Documented coding (fixup config))
    (inRange : InRange config) (nested : Nested config) :
    Reloads coding config ↔ (Supported coding config → Kept config) := by
  have same {calls : Calls} {file : File}
      (saved : (saveConfig (encodingJson coding) calls config file).2 = .ok ()) :
      loadConfig (encodingJson coding)
            ((saveConfig (encodingJson coding) calls config).final file) =
          migrated config ↔
        Kept config := by
    rw [loadConfig_of_saved documented inRange saved, migrate_readBack nested,
      readBack_eq_iff]
  constructor
  · intro reloads supported
    have saved := (@saved_iff_supported coding config none).mpr supported
    exact (same saved).mp (reloads {} none saved)
  · intro kept calls file saved
    obtain ⟨text, marshalled, -⟩ := final_of_saved saved
    have again := @saved_of_marshal config _ text none marshalled
    exact (same saved).mpr (kept (saved_iff_supported.mp again))

/-- A file that does not decode leaves the default exactly if what it stores in
the objects of the default ends with their values, and a configuration is read
back exactly if its fields that may be left out are not. -/
theorem untouched_and_reloads_iff (text : List Char)
    (documented : Documented coding (fixup config)) (inRange : InRange config)
    (nested : Nested config) :
    Untouched coding text ∧ Reloads coding config ↔
      Harmless coding text ∧ (Supported coding config → Kept config) :=
  and_congr (untouched_iff_harmless text)
    (reloads_iff_kept documented inRange nested)

end Main

/-! ### A device and its file -/

section Device

def nullPackage : NullPackage where
  string
    | .null => some fun old => { old with valid := false }
    | .string text => some fun _ => ⟨text, true⟩
    | _ => none
  int
    | .null => some fun old => { old with valid := false }
    | .number (.integer n) =>
        if -2 ^ 63 ≤ n ∧ n < 2 ^ 63 then some fun _ => ⟨n, true⟩ else none
    | _ => none
  bool
    | .null => some fun old => { old with valid := false }
    | .bool value => some fun _ => ⟨value, true⟩
    | _ => none

theorem nullPackage_documented : nullPackage.Documented where
  nullString := rfl
  nullInt := rfl
  nullBool := rfl
  string _ := rfl
  int _ lower upper := if_pos ⟨lower, upper⟩
  bool _ := rfl

/-- A coder that knows one text, and one double -/
def coderOf (known : List Char) (value : Json) : Coding where
  print _ := known
  parse text := if text = known then some value else none
  formatFloat numeral := if numeral = "1" then some (.integer 1) else none
  parseFloat numeral := if numeral = .integer 1 then some "1" else none
  null := nullPackage

theorem parse_coderOf (known : List Char) (value : Json) :
    (coderOf known value).parse known = some value :=
  if_pos rfl

theorem float_coderOf {known : List Char} {value : Json} {numeral : String}
    {factor : Numeral}
    (formatted : (coderOf known value).formatFloat numeral = some factor) :
    (coderOf known value).parseFloat factor = some numeral := by
  simp only [coderOf, Option.ite_none_right_eq_some] at formatted
  obtain ⟨rfl, integer⟩ := formatted
  obtain rfl := Option.some.inj integer
  rfl

def storedJson : Json :=
  (configRecord (coderOf [] .null)).write
    (configJson (coderOf [] .null) (fixup stored) (.integer 1))

theorem marshal_stored (known : List Char) :
    marshal (coderOf known storedJson) (fixup stored) = .ok storedJson :=
  rfl

theorem stored_documented {known : List Char} (object : JsonText.IsObject known) :
    Documented (coderOf known storedJson) (fixup stored) where
  null := nullPackage_documented
  float _ formatted := float_coderOf formatted
  object _ _ := object
  parse value marshalled := by
    rw [marshal_stored] at marshalled
    rw [← Except.ok.inj marshalled]
    exact parse_coderOf known storedJson

theorem stored_inRange : InRange stored where
  displayMaxBrightness := by decide
  displayDimAfterSec := by decide
  displayOffAfterSec := by decide
  videoSleepAfterSec := by decide
  nativeMaxRestart := by decide
  jiggler _ here := by
    obtain rfl := Option.some.inj here
    decide
  macros := nofun
  network _ here := by
    obtain rfl := Option.some.inj here
    decide
  mqtt _ here := by
    obtain rfl := Option.some.inj here
    decide

theorem stored_nested : Nested stored :=
  ⟨rfl, rfl, rfl, rfl, rfl⟩

/-- The text of a device with a password -/
theorem untouched_and_reloads_iff_stored :
    ∃ text, text = storedText.toList ∧
      Documented (coderOf text storedJson) (fixup stored) ∧
        InRange stored ∧ Nested stored ∧
          (Untouched (coderOf text storedJson) text ∧
              Reloads (coderOf text storedJson) stored ↔
            Harmless (coderOf text storedJson) text ∧
              (Supported (coderOf text storedJson) stored → Kept stored)) := by
  obtain ⟨text, same⟩ : ∃ text, text = storedText.toList := ⟨_, rfl⟩
  have documented := stored_documented (same ▸ storedText_isObject)
  exact ⟨text, same, documented, stored_inRange, stored_nested,
    untouched_and_reloads_iff text documented stored_inRange stored_nested⟩

/-- The second of the settings is no string. -/
def twoSettings : Json :=
  .object [("usb_config", .object [("vendor_id", .string "0x046d")]),
    ("cloud_url", .number (.integer 5))]

def twoSettingsText : List Char :=
  "\x7b\"usb_config\":\x7b\"vendor_id\":\"0x046d\"\x7d,\"cloud_url\":5\x7d".toList

theorem valueOf_twoSettings :
    valueOf (coderOf twoSettingsText twoSettings) twoSettingsText =
      some twoSettings := by
  have whole : JsonText.readValue twoSettingsText = some twoSettingsText := by
    decide +kernel
  rw [valueOf, whole, Option.bind_some]
  exact parse_coderOf twoSettingsText twoSettings

/-- A vendor from a file that does not decode gets into the default.  The
configuration that is saved has a double that cannot be. -/
theorem not_untouched_twoSettings :
    ¬ ∀ (coding : Coding) (text : List Char) (config : Config),
      Documented coding (fixup config) → InRange config → Nested config →
        Untouched coding text ∧ Reloads coding config := by
  intro all
  have documented : Documented (coderOf twoSettingsText twoSettings)
      (fixup { stored with videoQualityFactor := "NaN" }) :=
    ⟨nullPackage_documented, fun _ formatted => float_coderOf formatted,
      nofun, nofun⟩
  obtain ⟨untouched, -⟩ := all _ twoSettingsText _ documented
    { stored_inRange with } { stored_nested with }
  have restored := (untouched_iff_harmless twoSettingsText).mp untouched twoSettings
    valueOf_twoSettings (by decide +kernel)
  have vendor := restored.usbConfig .vendorId
  exact absurd vendor (by decide +kernel)

end Device

end ConfigReload

end JetKvm
