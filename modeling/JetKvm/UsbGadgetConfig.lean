import JetKvm.GamepadSlots
import JetKvm.UsbFileChange
import Mathlib.Data.List.Sort

/-!
# The configuration of the USB gadget

Translation of `internal/usbgadget/config.go` and of the configuration items in
the files beside it.  A Go map is the list of its entries in the order in which
one `range` over it meets them.
-/

namespace JetKvm

namespace UsbGadget

open Gamepad (maxGamepads)

abbrev GadgetAttributes := List (String × String)

/-- `configAttrs`, `configPath` and `reportDesc` are `none` where they are nil
in the source. -/
structure GadgetConfigItem where
  order : Nat
  device : String := ""
  path : List String := []
  attrs : GadgetAttributes := []
  configAttrs : Option GadgetAttributes := none
  configPath : Option (List String) := none
  reportDesc : Option Bytes := none
  deriving DecidableEq, Repr

/-- The item is a function that the configuration links to. -/
def GadgetConfigItem.Linked (item : GadgetConfigItem) : Prop :=
  item.configPath ≠ none ∧ item.configAttrs = none

instance (item : GadgetConfigItem) : Decidable item.Linked :=
  inferInstanceAs (Decidable (_ ∧ _))

structure GadgetConfigItemWithKey where
  key : String
  item : GadgetConfigItem
  deriving DecidableEq, Repr

/-! ### The default configuration -/

def keyboardReportDesc : Bytes :=
  [0x05, 0x01, 0x09, 0x06, 0xa1, 0x01, 0x05, 0x07, 0x19, 0xe0, 0x29, 0xe7,
    0x15, 0x00, 0x25, 0x01, 0x75, 0x01, 0x95, 0x08, 0x81, 0x02, 0x95, 0x01,
    0x75, 0x08, 0x81, 0x03, 0x95, 0x05, 0x75, 0x01, 0x05, 0x08, 0x19, 0x01,
    0x29, 0x05, 0x91, 0x02, 0x95, 0x01, 0x75, 0x03, 0x91, 0x03, 0x95, 0x06,
    0x75, 0x08, 0x15, 0x00, 0x25, 0xff, 0x05, 0x07, 0x19, 0x00, 0x29, 0xff,
    0x81, 0x00, 0xc0]

def absoluteMouseCombinedReportDesc : Bytes :=
  [0x05, 0x01, 0x09, 0x02, 0xa1, 0x01, 0x85, 0x01, 0x09, 0x01, 0xa1, 0x00,
    0x05, 0x09, 0x19, 0x01, 0x29, 0x05, 0x15, 0x00, 0x25, 0x01, 0x75, 0x01,
    0x95, 0x05, 0x81, 0x02, 0x95, 0x01, 0x75, 0x03, 0x81, 0x03, 0x05, 0x01,
    0x09, 0x30, 0x09, 0x31, 0x16, 0x00, 0x00, 0x26, 0xff, 0x7f, 0x36, 0x00,
    0x00, 0x46, 0xff, 0x7f, 0x75, 0x10, 0x95, 0x02, 0x81, 0x02, 0xc0, 0x85,
    0x02, 0x09, 0x38, 0x15, 0x81, 0x25, 0x7f, 0x35, 0x00, 0x45, 0x00, 0x75,
    0x08, 0x95, 0x01, 0x81, 0x06, 0x05, 0x0c, 0x0a, 0x38, 0x02, 0x15, 0x81,
    0x25, 0x7f, 0x75, 0x08, 0x95, 0x01, 0x81, 0x06, 0xc0]

def relativeMouseCombinedReportDesc : Bytes :=
  [0x05, 0x01, 0x09, 0x02, 0xa1, 0x01, 0x09, 0x01, 0xa1, 0x00, 0x05, 0x09,
    0x19, 0x01, 0x29, 0x08, 0x15, 0x00, 0x25, 0x01, 0x95, 0x08, 0x75, 0x01,
    0x81, 0x02, 0x05, 0x01, 0x09, 0x30, 0x09, 0x31, 0x09, 0x38, 0x15, 0x81,
    0x25, 0x7f, 0x75, 0x08, 0x95, 0x03, 0x81, 0x06, 0x05, 0x0c, 0x0a, 0x38,
    0x02, 0x15, 0x81, 0x25, 0x7f, 0x75, 0x08, 0x95, 0x01, 0x81, 0x06, 0xc0,
    0xc0]

def gamepadReportDesc : Bytes :=
  [0x05, 0x01, 0x09, 0x05, 0xa1, 0x01, 0x09, 0x01, 0xa1, 0x00, 0x09, 0x30,
    0x09, 0x31, 0x09, 0x32, 0x09, 0x35, 0x09, 0x33, 0x09, 0x34, 0x15, 0x00,
    0x26, 0xff, 0x00, 0x75, 0x08, 0x95, 0x06, 0x81, 0x02, 0xc0, 0x05, 0x09,
    0x19, 0x01, 0x29, 0x11, 0x15, 0x00, 0x25, 0x01, 0x75, 0x01, 0x95, 0x11,
    0x81, 0x02, 0x75, 0x01, 0x95, 0x07, 0x81, 0x03, 0xc0]

def keyboardConfig : GadgetConfigItem where
  order := 1000
  device := "hid.usb0"
  path := ["functions", "hid.usb0"]
  configPath := some ["hid.usb0"]
  attrs :=
    [("protocol", "1"), ("subclass", "1"), ("report_length", "8"),
      ("no_out_endpoint", "0"), ("wakeup_on_write", "1")]
  reportDesc := some keyboardReportDesc

def absoluteMouseConfig : GadgetConfigItem where
  order := 1001
  device := "hid.usb1"
  path := ["functions", "hid.usb1"]
  configPath := some ["hid.usb1"]
  attrs :=
    [("protocol", "2"), ("subclass", "0"), ("report_length", "6"),
      ("no_out_endpoint", "1"), ("wakeup_on_write", "1")]
  reportDesc := some absoluteMouseCombinedReportDesc

def relativeMouseConfig : GadgetConfigItem where
  order := 1002
  device := "hid.usb2"
  path := ["functions", "hid.usb2"]
  configPath := some ["hid.usb2"]
  attrs :=
    [("protocol", "2"), ("subclass", "1"), ("report_length", "5"),
      ("no_out_endpoint", "1"), ("wakeup_on_write", "1")]
  reportDesc := some relativeMouseCombinedReportDesc

def makeGamepadConfig (idx : Nat) : GadgetConfigItem :=
  let fnName := s!"hid.usb{3 + idx}"
  { order := 1003 + idx
    device := fnName
    path := ["functions", fnName]
    configPath := some [fnName]
    attrs :=
      [("protocol", "0"), ("subclass", "0"), ("report_length", "9"),
        ("no_out_endpoint", "1"), ("wakeup_on_write", "1")]
    reportDesc := some gamepadReportDesc }

def gamepadConfigKey (idx : Nat) : String := s!"gamepad{idx}"

def gamepadHidPath (idx : Nat) : String := s!"/dev/hidg{3 + idx}"

def massStorageBaseConfig : GadgetConfigItem where
  order := 3000
  device := "mass_storage.usb0"
  path := ["functions", "mass_storage.usb0"]
  configPath := some ["mass_storage.usb0"]
  attrs := [("stall", "1")]

def massStorageLun0Config : GadgetConfigItem where
  order := 3001
  path := ["functions", "mass_storage.usb0", "lun.0"]
  attrs :=
    [("cdrom", "1"), ("ro", "1"), ("removable", "1"), ("file", "\n"),
      ("inquiry_string", "JetKVM  Virtual Media")]

def serialConsoleConfig : GadgetConfigItem where
  order := 4000
  device := "acm.usb0"
  path := ["functions", "acm.usb0"]
  configPath := some ["acm.usb0"]

/-- `defaultGadgetConfig` after `init`, which adds the gamepads to it. -/
def defaultGadgetConfig : List GadgetConfigItemWithKey :=
  [⟨"base",
      { order := 0
        attrs :=
          [("bcdUSB", "0x0200"), ("idVendor", "0x1d6b"),
            ("idProduct", "0x0104"), ("bcdDevice", "0x0100")]
        configAttrs := some [("MaxPower", "250"), ("bmAttributes", "0xa0")] }⟩,
    ⟨"base_info",
      { order := 1
        path := ["strings", "0x409"]
        configPath := some ["strings", "0x409"]
        attrs :=
          [("serialnumber", ""), ("manufacturer", "JetKVM"),
            ("product", "JetKVM USB Emulation Device")]
        configAttrs := some [("configuration", "Config 1: HID")] }⟩,
    ⟨"keyboard", keyboardConfig⟩,
    ⟨"absolute_mouse", absoluteMouseConfig⟩,
    ⟨"relative_mouse", relativeMouseConfig⟩,
    ⟨"mass_storage_base", massStorageBaseConfig⟩,
    ⟨"mass_storage_lun0", massStorageLun0Config⟩,
    ⟨"serial_console", serialConsoleConfig⟩,
    ⟨"audio",
      { order := 4000
        device := "uac1.usb0"
        path := ["functions", "uac1.usb0"]
        configPath := some ["uac1.usb0"]
        attrs :=
          [("p_chmask", "3"), ("p_srate", "48000"), ("p_ssize", "2"),
            ("p_volume_present", "0"), ("c_chmask", "3"),
            ("c_srate", "48000"), ("c_ssize", "2"),
            ("c_volume_present", "0")] }⟩] ++
    (List.range maxGamepads).map fun i =>
      ⟨gamepadConfigKey i, makeGamepadConfig i⟩

/-! ### Which items are enabled -/

structure Devices where
  absoluteMouse : Bool := false
  relativeMouse : Bool := false
  keyboard : Bool := false
  gamepad : Bool := false
  massStorage : Bool := false
  serialConsole : Bool := false
  audio : Bool := false
  deriving DecidableEq, Repr

/-- The number of `/dev/hidgN` minors the kernel has. -/
def hidInstanceCap : Nat := 4

/-- `free` is below zero in the source where this subtraction stops at zero. -/
def gamepadSlotsAvailable (enabledDevices : Devices) : Nat :=
  if enabledDevices.gamepad = false then 0
  else
    let primary := enabledDevices.keyboard.toNat +
      enabledDevices.absoluteMouse.toNat + enabledDevices.relativeMouse.toNat
    min (hidInstanceCap - primary) maxGamepads

def isGadgetConfigItemEnabled (enabledDevices : Devices) (itemKey : String) :
    Bool :=
  if itemKey = "absolute_mouse" then enabledDevices.absoluteMouse
  else if itemKey = "relative_mouse" then enabledDevices.relativeMouse
  else if itemKey = "keyboard" then enabledDevices.keyboard
  else if itemKey = "mass_storage_base" then enabledDevices.massStorage
  else if itemKey = "mass_storage_lun0" then enabledDevices.massStorage
  else if itemKey = "serial_console" then enabledDevices.serialConsole
  else if itemKey = "audio" then enabledDevices.audio
  else
    match (List.range maxGamepads).find? fun i => itemKey = gamepadConfigKey i with
    | some i =>
        enabledDevices.gamepad && i < gamepadSlotsAvailable enabledDevices
    | none => true

/-- Sorting by order; items of equal order may come in either order, as they do
here for the different orders a map can be met in. -/
def getOrderedConfigItems (configMap : List GadgetConfigItemWithKey) :
    List GadgetConfigItemWithKey :=
  configMap.mergeSort fun first second =>
    first.item.order ≤ second.item.order

end UsbGadget

end JetKvm
