import JetKvm.ConfigDurability
import JetKvm.FallibleCalls
import JetKvm.UsbGadgetConfig

/-!
# Changing the USB settings

Translation of `rpcSetUsbDevices`, `rpcSetUsbDeviceState` and `rpcSetUsbConfig`
of `jsonrpc.go`, and of the parts of `internal/usbgadget/config.go` they call.
The settings are in the configuration and in the gadget; both are changed before
the gadget is updated and the configuration is saved.  The audio that is stopped
and started around an update is left out.
-/

namespace JetKvm

namespace UsbSettings

open ConfigDurability (UsbConfig)
open Fallible UsbGadget

/-! ### The gadget -/

/-- The custom configuration is `none` where it is marked as empty. -/
structure Gadget where
  configMap : List GadgetConfigItemWithKey
  customConfig : Option UsbConfig
  enabledDevices : Devices
  strictMode : Bool
  deriving DecidableEq, Repr

def setAttr (attrs : GadgetAttributes) (name value : String) : GadgetAttributes :=
  if attrs.any fun attr => attr.1 = name then
    attrs.map fun attr => if attr.1 = name then (name, value) else attr
  else attrs ++ [(name, value)]

/-- An assignment to an attribute of an item of the map, which is there -/
def setItemAttr (itemKey name value : String)
    (configMap : List GadgetConfigItemWithKey) : List GadgetConfigItemWithKey :=
  configMap.map fun entry =>
    if entry.key = itemKey then
      { entry with item.attrs := setAttr entry.item.attrs name value }
    else entry

/-- The five assignments of `loadGadgetConfig` -/
def setCustomAttrs (config : UsbConfig) (configMap : List GadgetConfigItemWithKey) :
    List GadgetConfigItemWithKey :=
  setItemAttr "base_info" "product" config.product
    (setItemAttr "base_info" "manufacturer" config.manufacturer
      (setItemAttr "base_info" "serialnumber" config.serialNumber
        (setItemAttr "base" "idProduct" config.productId
          (setItemAttr "base" "idVendor" config.vendorId configMap))))

def loadGadgetConfig (gadget : Gadget) : Gadget :=
  match gadget.customConfig with
  | none => gadget
  | some config =>
      { gadget with configMap := setCustomAttrs config gadget.configMap }

def setGadgetConfig (config : UsbConfig) (gadget : Gadget) : Gadget :=
  loadGadgetConfig { gadget with customConfig := some config }

def setGadgetDevices (devices : Devices) (gadget : Gadget) : Gadget :=
  { gadget with enabledDevices := devices }

/-- The error of the transaction is only logged unless the mode is strict. -/
def updateGadgetConfig (transaction : Option String) :
    Fallible String Gadget Unit := do
  modify loadGadgetConfig
  let gadget ← get
  match transaction with
  | some error => if gadget.strictMode then throw error else pure ()
  | none => pure ()

/-! ### The handlers -/

/-- The configuration is loaded, and its two pointers are not nil then. -/
structure Usb where
  usbDevices : Devices
  usbConfig : UsbConfig
  gadget : Gadget
  deriving DecidableEq, Repr

/-- The errors of the transaction that updates the gadget, and of the save -/
structure Outcomes where
  transaction : Option String := none
  save : Option String := none

def updateUsbRelatedConfig (outcomes : Outcomes) : Fallible String Usb Unit := do
  wrapping ("failed to write gadget config: " ++ ·)
    (within Usb.gadget (fun gadget usb => { usb with gadget := gadget })
      (updateGadgetConfig outcomes.transaction))
  match outcomes.save with
  | some error => throw ("failed to save config: " ++ error)
  | none => pure ()

def rpcSetUsbDevices (usbDevices : Devices) (outcomes : Outcomes) :
    Fallible String Usb Unit := do
  modify fun usb => { usb with usbDevices := usbDevices }
  modify fun usb => { usb with gadget := setGadgetDevices usb.usbDevices usb.gadget }
  updateUsbRelatedConfig outcomes

/-- `none` is an invalid device. -/
def setDevice (device : String) (enabled : Bool) (devices : Devices) :
    Option Devices :=
  match device with
  | "absoluteMouse" => some { devices with absoluteMouse := enabled }
  | "relativeMouse" => some { devices with relativeMouse := enabled }
  | "keyboard" => some { devices with keyboard := enabled }
  | "massStorage" => some { devices with massStorage := enabled }
  | "serialConsole" => some { devices with serialConsole := enabled }
  | "gamepad" => some { devices with gamepad := enabled }
  | "audio" => some { devices with audio := enabled }
  | _ => none

def rpcSetUsbDeviceState (device : String) (enabled : Bool) (outcomes : Outcomes) :
    Fallible String Usb Unit := do
  let usb ← get
  match setDevice device enabled usb.usbDevices with
  | none => throw ("invalid device: " ++ device)
  | some usbDevices => modify fun usb => { usb with usbDevices := usbDevices }
  modify fun usb => { usb with gadget := setGadgetDevices usb.usbDevices usb.gadget }
  updateUsbRelatedConfig outcomes

def rpcSetUsbConfig (usbConfig : UsbConfig) (outcomes : Outcomes) :
    Fallible String Usb Unit := do
  modify fun usb => { usb with usbConfig := usbConfig }
  modify fun usb => { usb with gadget := setGadgetConfig usb.usbConfig usb.gadget }
  updateUsbRelatedConfig outcomes

inductive Request where
  | setUsbDevices (usbDevices : Devices)
  | setUsbDeviceState (device : String) (enabled : Bool)
  | setUsbConfig (usbConfig : UsbConfig)
  deriving DecidableEq, Repr

def Request.handle (request : Request) (outcomes : Outcomes) :
    Fallible String Usb Unit :=
  match request with
  | setUsbDevices usbDevices => rpcSetUsbDevices usbDevices outcomes
  | setUsbDeviceState device enabled => rpcSetUsbDeviceState device enabled outcomes
  | setUsbConfig usbConfig => rpcSetUsbConfig usbConfig outcomes

/-! ### What an error leaves behind -/

/-- What a save writes of the settings -/
def saved (usb : Usb) : Devices × UsbConfig := (usb.usbDevices, usb.usbConfig)

/-- What an update writes: the items in order, and which of them are enabled -/
def written (gadget : Gadget) : List (GadgetConfigItemWithKey × Bool) :=
  (getOrderedConfigItems (loadGadgetConfig gadget).configMap).map fun entry =>
    (entry, isGadgetConfigItemEnabled gadget.enabledDevices entry.key)

/-- A request that fails changes no setting, and is not applied by a later save
or update. -/
structure SettingsAtomic (request : Request) (outcomes : Outcomes) (usb : Usb) :
    Prop where
  unchanged : Atomic (request.handle outcomes) usb
  notApplied : Ends (request.handle outcomes) usb (fun _ _ => True)
    fun _ next => saved next = saved usb ∧ written next.gadget = written usb.gadget

/-- The settings with what is asked for; an invalid device asks for nothing. -/
def Request.asked (request : Request) (usb : Usb) : Option Usb :=
  match request with
  | setUsbDevices usbDevices => some
      { usb with
        usbDevices := usbDevices
        gadget.enabledDevices := usbDevices }
  | setUsbDeviceState device enabled =>
      (setDevice device enabled usb.usbDevices).map fun usbDevices =>
        { usb with
          usbDevices := usbDevices
          gadget.enabledDevices := usbDevices }
  | setUsbConfig usbConfig => some
      { usb with
        usbConfig := usbConfig
        gadget.customConfig := some usbConfig }

/-- The update or the save is reported to have failed. -/
def Outcomes.Fail (outcomes : Outcomes) (usb : Usb) : Prop :=
  (usb.gadget.strictMode = true ∧ outcomes.transaction ≠ none) ∨
    outcomes.save ≠ none

/-- What is asked for is nothing, or succeeds, or is what there is, with the
custom configuration in the config map. -/
def Harmless (request : Request) (outcomes : Outcomes) (usb : Usb) : Prop :=
  request.asked usb = none ∨ ¬ outcomes.Fail usb ∨
    (request.asked usb = some usb ∧ loadGadgetConfig usb.gadget = usb.gadget)

/-! ### The config map -/

/-- The attribute is there and has the value. -/
structure HasAttr (name value : String) (attrs : GadgetAttributes) : Prop where
  there : attrs.any (fun attr => attr.1 = name) = true
  value : ∀ attr ∈ attrs, attr.1 = name → attr = (name, value)

section ConfigMap

variable {attrs : GadgetAttributes} {name value other otherValue : String}

theorem map_eq_self {α : Type} {f : α → α} {values : List α}
    (same : ∀ value ∈ values, f value = value) : values.map f = values :=
  (List.map_congr_left same).trans (List.map_id' values)

theorem setAttr_of_hasAttr (has : HasAttr name value attrs) :
    setAttr attrs name value = attrs := by
  rw [setAttr, if_pos has.there]
  refine map_eq_self fun attr inAttrs => ?_
  split
  · rename_i named
    exact (has.value attr inAttrs named).symm
  · rfl

theorem hasAttr_setAttr : HasAttr name value (setAttr attrs name value) := by
  unfold setAttr
  split
  · rename_i there
    obtain ⟨attr, inAttrs, named⟩ := List.any_eq_true.mp there
    have named := of_decide_eq_true named
    refine ⟨List.any_eq_true.mpr ⟨(name, value), ?_, by simp⟩, ?_⟩
    · exact List.mem_map.mpr ⟨attr, inAttrs, if_pos named⟩
    · intro changed inChanged
      obtain ⟨attr, -, rfl⟩ := List.mem_map.mp inChanged
      split
      · exact fun _ => rfl
      · rename_i other
        exact fun named => absurd named other
  · rename_i absent
    refine ⟨by simp, fun attr inAttrs named => ?_⟩
    rcases List.mem_append.mp inAttrs with old | new
    · exact absurd (List.any_eq_true.mpr ⟨attr, old, decide_eq_true named⟩) absent
    · exact List.mem_singleton.mp new

theorem HasAttr.setAttr_of_ne (has : HasAttr name value attrs)
    (different : other ≠ name) :
    HasAttr name value (setAttr attrs other otherValue) := by
  obtain ⟨attr, inAttrs, named⟩ := List.any_eq_true.mp has.there
  have named := of_decide_eq_true named
  unfold setAttr
  split
  · constructor
    · refine List.any_eq_true.mpr ⟨attr, List.mem_map.mpr ⟨attr, inAttrs, ?_⟩,
        decide_eq_true named⟩
      exact if_neg fun same => different (same.symm.trans named)
    · intro changed inChanged
      obtain ⟨attr, inAttrs, rfl⟩ := List.mem_map.mp inChanged
      split
      · exact fun named => absurd named different
      · exact has.value attr inAttrs
  · constructor
    · exact List.any_eq_true.mpr ⟨attr, List.mem_append_left _ inAttrs,
        decide_eq_true named⟩
    · intro attr inAttrs named
      rcases List.mem_append.mp inAttrs with old | new
      · exact has.value attr old named
      · rw [List.mem_singleton.mp new] at named
        exact absurd named different

/-- The item of the map has the attribute. -/
def Has (itemKey name value : String)
    (configMap : List GadgetConfigItemWithKey) : Prop :=
  ∀ entry ∈ configMap, entry.key = itemKey → HasAttr name value entry.item.attrs

variable {itemKey otherKey : String} {configMap : List GadgetConfigItemWithKey}

theorem setItemAttr_of_has (has : Has itemKey name value configMap) :
    setItemAttr itemKey name value configMap = configMap := by
  refine map_eq_self fun entry inMap => ?_
  split
  · rename_i here
    rw [setAttr_of_hasAttr (has entry inMap here)]
  · rfl

theorem has_setItemAttr :
    Has itemKey name value (setItemAttr itemKey name value configMap) := by
  intro changed inChanged
  obtain ⟨entry, -, rfl⟩ := List.mem_map.mp inChanged
  split
  · exact fun _ => hasAttr_setAttr
  · rename_i elsewhere
    exact fun here => absurd here elsewhere

theorem Has.setItemAttr_of_ne (has : Has itemKey name value configMap)
    (different : otherKey ≠ itemKey ∨ other ≠ name) :
    Has itemKey name value (setItemAttr otherKey other otherValue configMap) := by
  intro changed inChanged
  obtain ⟨entry, inMap, rfl⟩ := List.mem_map.mp inChanged
  split
  · rename_i there
    intro here
    have otherName := different.resolve_left fun ne => ne (there.symm.trans here)
    exact (has entry inMap here).setAttr_of_ne otherName
  · exact has entry inMap

end ConfigMap

theorem setCustomAttrs_setCustomAttrs (config : UsbConfig)
    (configMap : List GadgetConfigItemWithKey) :
    setCustomAttrs config (setCustomAttrs config configMap) =
      setCustomAttrs config configMap := by
  generalize loaded : setCustomAttrs config configMap = last
  unfold setCustomAttrs at loaded
  -- what was assigned is not touched by the later assignments
  have product : Has "base_info" "product" config.product last :=
    loaded ▸ has_setItemAttr
  have manufacturer : Has "base_info" "manufacturer" config.manufacturer last :=
    loaded ▸ has_setItemAttr.setItemAttr_of_ne (.inr (by decide))
  have serialNumber : Has "base_info" "serialnumber" config.serialNumber last :=
    loaded ▸ (has_setItemAttr.setItemAttr_of_ne (.inr (by decide))).setItemAttr_of_ne
      (.inr (by decide))
  have productId : Has "base" "idProduct" config.productId last :=
    loaded ▸ ((has_setItemAttr.setItemAttr_of_ne (.inl (by decide))).setItemAttr_of_ne
      (.inl (by decide))).setItemAttr_of_ne (.inl (by decide))
  have vendorId : Has "base" "idVendor" config.vendorId last :=
    loaded ▸ (((has_setItemAttr.setItemAttr_of_ne (.inr (by decide))).setItemAttr_of_ne
      (.inl (by decide))).setItemAttr_of_ne (.inl (by decide))).setItemAttr_of_ne
        (.inl (by decide))
  rw [setCustomAttrs, setItemAttr_of_has vendorId, setItemAttr_of_has productId,
    setItemAttr_of_has serialNumber, setItemAttr_of_has manufacturer,
    setItemAttr_of_has product]

/-- Loading the custom configuration again changes nothing. -/
theorem loadGadgetConfig_loadGadgetConfig (gadget : Gadget) :
    loadGadgetConfig (loadGadgetConfig gadget) = loadGadgetConfig gadget := by
  obtain ⟨configMap, customConfig, enabledDevices, strictMode⟩ := gadget
  cases customConfig with
  | none => rfl
  | some config => simp [loadGadgetConfig, setCustomAttrs_setCustomAttrs]

section Loading

variable (gadget : Gadget)

@[simp] theorem customConfig_loadGadgetConfig :
    (loadGadgetConfig gadget).customConfig = gadget.customConfig := by
  unfold loadGadgetConfig
  split
  · rfl
  · rfl

@[simp] theorem enabledDevices_loadGadgetConfig :
    (loadGadgetConfig gadget).enabledDevices = gadget.enabledDevices := by
  unfold loadGadgetConfig
  split
  · rfl
  · rfl

@[simp] theorem strictMode_loadGadgetConfig :
    (loadGadgetConfig gadget).strictMode = gadget.strictMode := by
  unfold loadGadgetConfig
  split
  · rfl
  · rfl

end Loading

/-! ### How a request ends -/

section Ends

variable {request : Request} {outcomes : Outcomes} {usb : Usb}

/-- The settings that an update leaves, whether it fails or not -/
def updated (usb : Usb) : Usb :=
  { usb with gadget := loadGadgetConfig usb.gadget }

theorem ends_updateUsbRelatedConfig {returned : Unit → Usb → Prop}
    {holds : Usb → Prop} :
    Ends (updateUsbRelatedConfig outcomes) usb returned (fun _ => holds) ↔
      (outcomes.Fail usb → holds (updated usb)) ∧
        (¬ outcomes.Fail usb → returned () (updated usb)) := by
  unfold Outcomes.Fail updateUsbRelatedConfig updateGadgetConfig
  cases transaction : outcomes.transaction with
  | none =>
      cases save : outcomes.save with
      | none => simp [ends_within, updated]
      | some error => simp [ends_within, updated]
  | some failure =>
      cases strict : usb.gadget.strictMode with
      | true => simp [ends_within, updated, strict]
      | false =>
          cases save : outcomes.save with
          | none => simp [ends_within, updated, strict]
          | some error => simp [ends_within, updated, strict]

/-- An invalid device is refused before anything is changed. -/
theorem ends_handle_of_none {returned : Unit → Usb → Prop} {holds : Usb → Prop}
    (invalid : request.asked usb = none) :
    Ends (request.handle outcomes) usb returned (fun _ => holds) ↔ holds usb := by
  cases request with
  | setUsbDevices usbDevices => cases invalid
  | setUsbConfig usbConfig => cases invalid
  | setUsbDeviceState device enabled =>
      have unknown : setDevice device enabled usb.usbDevices = none :=
        Option.map_eq_none_iff.mp invalid
      simp [Request.handle, rpcSetUsbDeviceState, unknown]

theorem ends_handle_of_asked {asked : Usb} {returned : Unit → Usb → Prop}
    {holds : Usb → Prop} (asks : request.asked usb = some asked) :
    Ends (request.handle outcomes) usb returned (fun _ => holds) ↔
      (outcomes.Fail usb → holds (updated asked)) ∧
        (¬ outcomes.Fail usb → returned () (updated asked)) := by
  cases request with
  | setUsbDevices usbDevices =>
      obtain rfl := Option.some.inj asks
      simp only [Request.handle, rpcSetUsbDevices, ends_bind, ends_modify,
        ends_updateUsbRelatedConfig]
      exact Iff.rfl
  | setUsbDeviceState device enabled =>
      obtain ⟨usbDevices, known, rfl⟩ := Option.map_eq_some_iff.mp asks
      simp only [Request.handle, rpcSetUsbDeviceState, known, ends_bind, ends_get,
        ends_modify, ends_updateUsbRelatedConfig]
      exact Iff.rfl
  | setUsbConfig usbConfig =>
      obtain rfl := Option.some.inj asks
      simp only [Request.handle, rpcSetUsbConfig, ends_bind, ends_modify,
        ends_updateUsbRelatedConfig, updated, setGadgetConfig,
        loadGadgetConfig_loadGadgetConfig, Outcomes.Fail,
        strictMode_loadGadgetConfig]

theorem asked_gadget {asked : Usb} (asks : request.asked usb = some asked) :
    asked.gadget.configMap = usb.gadget.configMap ∧
      asked.gadget.strictMode = usb.gadget.strictMode := by
  cases request with
  | setUsbDevices usbDevices =>
      obtain rfl := Option.some.inj asks
      exact ⟨rfl, rfl⟩
  | setUsbDeviceState device enabled =>
      obtain ⟨usbDevices, -, rfl⟩ := Option.map_eq_some_iff.mp asks
      exact ⟨rfl, rfl⟩
  | setUsbConfig usbConfig =>
      obtain rfl := Option.some.inj asks
      exact ⟨rfl, rfl⟩

/-- The update leaves the settings that there were only if they were asked for,
and loaded. -/
theorem updated_eq_iff {asked : Usb} (asks : request.asked usb = some asked) :
    updated asked = usb ↔
      request.asked usb = some usb ∧ loadGadgetConfig usb.gadget = usb.gadget := by
  constructor
  · intro same
    have loaded : loadGadgetConfig usb.gadget = usb.gadget := by
      rw [← same]
      exact loadGadgetConfig_loadGadgetConfig asked.gadget
    obtain ⟨sameMap, sameMode⟩ := asked_gadget asks
    have gadget : asked.gadget = usb.gadget := by
      have here : loadGadgetConfig asked.gadget = usb.gadget :=
        congrArg Usb.gadget same
      have custom := congrArg Gadget.customConfig here
      have enabled := congrArg Gadget.enabledDevices here
      rw [customConfig_loadGadgetConfig] at custom
      rw [enabledDevices_loadGadgetConfig] at enabled
      rcases asked with ⟨_, _, _, _, _, _⟩
      rcases usb with ⟨_, _, _, _, _, _⟩
      simp_all
    have whole : asked = usb := by
      rcases asked with ⟨devices, config, askedGadget⟩
      rcases usb with ⟨devices', config', usbGadget⟩
      simp_all [updated]
    exact ⟨whole ▸ asks, loaded⟩
  · rintro ⟨unchanged, loaded⟩
    obtain rfl := Option.some.inj (unchanged.symm.trans asks)
    unfold updated
    rw [loaded]

theorem requestAtomic_iff_harmless :
    Atomic (request.handle outcomes) usb ↔ Harmless request outcomes usb := by
  unfold Atomic Harmless
  cases asks : request.asked usb with
  | none => exact iff_of_true ((ends_handle_of_none asks).mpr rfl) (.inl rfl)
  | some asked =>
      rw [ends_handle_of_asked asks, updated_eq_iff asks, ← asks]
      by_cases fails : outcomes.Fail usb
      · simp [fails, asks]
      · simp [fails]

/-- The settings are atomic exactly if no request fails that asks for something
new, or whose custom configuration is not in the config map. -/
theorem usbSettingsAtomic_iff_harmless (request : Request) (outcomes : Outcomes)
    (usb : Usb) :
    SettingsAtomic request outcomes usb ↔ Harmless request outcomes usb := by
  rw [← requestAtomic_iff_harmless]
  refine ⟨SettingsAtomic.unchanged, fun atomic => ⟨atomic, ?_⟩⟩
  refine atomic.imp (fun _ _ => id) ?_
  rintro error next rfl
  exact ⟨rfl, rfl⟩

end Ends

/-- A device on its default settings -/
def freshUsb : Usb where
  usbDevices := { keyboard := true }
  usbConfig := ConfigDurability.defaultUsbConfig
  gadget := loadGadgetConfig
    { configMap := defaultGadgetConfig
      customConfig := some ConfigDurability.defaultUsbConfig
      enabledDevices := { keyboard := true }
      strictMode := false }

/-- The gamepad stays on, though the configuration could not be saved. -/
theorem not_settingsAtomic_gamepad :
    ¬ ∀ (request : Request) (outcomes : Outcomes) (usb : Usb),
      SettingsAtomic request outcomes usb := by
  intro all
  have harmless := requestAtomic_iff_harmless.mp
    (all (.setUsbDeviceState "gamepad" true)
      { save := some "no space left on device" } freshUsb).unchanged
  rcases harmless with invalid | succeeds | ⟨same, -⟩
  · cases invalid
  · exact succeeds (.inr (by decide))
  · have devices := congrArg (Option.map Usb.usbDevices) same
    exact absurd devices (by decide)

end UsbSettings

end JetKvm
