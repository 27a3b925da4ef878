import JetKvm.SortedListings
import JetKvm.UsbGadgetTransaction

/-!
# The layout of the gadget

The host numbers the interfaces in the order in which the functions are linked.
That order comes from a map, which is ranged over in any order, and from a sort
that is not stable; only the order values of the items are told apart.  Since
each order the sort may answer can also be met in the map, it is enough to
range over the map in every order.
-/

namespace JetKvm

namespace UsbGadget

open SortedListings

namespace UsbGadgetTransaction

variable (tx : UsbGadgetTransaction)

/-- The links the transaction asks for, in their order. -/
def links : List Symlink :=
  (tx.reorderSymlinkChanges.map fun change => change.paramSymlinks).getD []

@[simp]
theorem links_adding (changes : List RequestedFileChange) :
    (tx.adding changes).links = tx.links := rfl

/-- The link that the configuration has to an item, if there is one. -/
def linkOf (item : GadgetConfigItem) : Option Symlink :=
  match item.configPath, item.configAttrs with
  | some configPath, none => some
      { path := joinPath tx.configC1Path configPath
        target := bytesOf (pathText (joinPath tx.kvmGadgetPath item.path)) }
  | _, _ => none

/-- The link that an enabled item asks for. -/
def requestedLink (val : GadgetConfigItemWithKey) : Option Symlink :=
  if tx.isGadgetConfigItemEnabled val.key then tx.linkOf val.item else none

theorem SameGadget.requestedLink {tx other : UsbGadgetTransaction}
    (same : tx.SameGadget other) : other.requestedLink = tx.requestedLink := by
  funext val
  simp only [UsbGadgetTransaction.requestedLink, linkOf,
    same.isGadgetConfigItemEnabled, same.configC1Path, same.kvmGadgetPath]

theorem links_disableGadgetItemConfig (item : GadgetConfigItem) :
    (tx.disableGadgetItemConfig item).links = tx.links := by
  simp [links]

theorem links_createSymlink (item : GadgetConfigItem) (files : List String) :
    (tx.createSymlink item files).links =
      tx.links ++ (tx.linkOf item).toList := by
  unfold createSymlink linkOf
  cases item.configPath with
  | none => simp
  | some configPath =>
      cases item.configAttrs with
      | some attrs => simp
      | none =>
          cases collected : tx.reorderSymlinkChanges with
          | none => simp [addReorderSymlinkChange, addFileChange_eq, links, collected]
          | some change =>
              simp [addReorderSymlinkChange, addFileChange_eq, links, collected]

theorem links_writeOrDisable (deps : List String)
    (val : GadgetConfigItemWithKey) :
    (writeOrDisable (tx, deps) val).1.links =
      tx.links ++ (tx.requestedLink val).toList := by
  unfold requestedLink
  cases enabled : tx.isGadgetConfigItemEnabled val.key with
  | false => simp [writeOrDisable, enabled, links_disableGadgetItemConfig]
  | true =>
      simp only [writeOrDisable, enabled, if_true, writeGadgetItemConfig_eq,
        links_createSymlink, links_adding]
      rfl

theorem links_foldl (deps : List String) (items : List GadgetConfigItemWithKey) :
    (items.foldl writeOrDisable (tx, deps)).1.links =
      tx.links ++ items.filterMap tx.requestedLink := by
  induction items generalizing tx deps with
  | nil => simp
  | cons val items ih =>
      have same := (tx.sameGadget_writeOrDisable deps val).requestedLink
      have here := tx.links_writeOrDisable deps val
      rw [List.foldl_cons]
      generalize writeOrDisable (tx, deps) val = written at same here
      obtain ⟨next, files⟩ := written
      rw [ih, here, same, List.append_assoc]
      cases link : tx.requestedLink val with
      | none => simp [link]
      | some requested => simp [link]

/-- The links are those of the enabled functions, in the order of the items. -/
theorem links_writeGadgetConfig :
    tx.writeGadgetConfig.links =
      tx.links ++ tx.orderedConfigItems.filterMap tx.requestedLink := by
  have opened : ∀ changes, (tx.adding changes).requestedLink = tx.requestedLink :=
    fun changes => (tx.sameGadget_adding changes).requestedLink
  simp only [writeGadgetConfig, mkdirAll_eq, writeUDC, addFileChange_eq,
    links_adding, links_foldl, orderedConfigItems_adding, opened]

end UsbGadgetTransaction

/-! ### Two runs -/

/-- What is the same each time the gadget is written. -/
structure Settings where
  udc : String
  kvmGadgetPath : Path
  configC1Path : Path
  isGadgetConfigItemEnabled : String → Bool

/-- A new transaction that writes the items. -/
def Settings.transaction (settings : Settings)
    (items : List GadgetConfigItemWithKey) : UsbGadgetTransaction where
  udc := settings.udc
  kvmGadgetPath := settings.kvmGadgetPath
  configC1Path := settings.configC1Path
  orderedConfigItems := items
  isGadgetConfigItemEnabled := settings.isGadgetConfigItemEnabled

/-- The links that a transaction asks for when the map is met in this order. -/
def Settings.layout (settings : Settings)
    (configMap : List GadgetConfigItemWithKey) : List Symlink :=
  (settings.transaction
    (getOrderedConfigItems configMap)).writeGadgetConfig.links

/-- Any two transactions ask for the same links in the same order. -/
def Reproducible (settings : Settings)
    (configMap : List GadgetConfigItemWithKey) : Prop :=
  ∀ one other : List GadgetConfigItemWithKey, one.Perm configMap →
    other.Perm configMap → settings.layout one = settings.layout other

/-- Two enabled functions with the same order value ask for the same link. -/
def OrdersApart (settings : Settings)
    (configMap : List GadgetConfigItemWithKey) : Prop :=
  ∀ first ∈ configMap, ∀ second ∈ configMap,
    first.item.order = second.item.order →
    ∀ link ∈ (settings.transaction []).requestedLink first,
      ∀ other ∈ (settings.transaction []).requestedLink second, link = other

theorem arranges_getOrderedConfigItems
    {configMap visited : List GadgetConfigItemWithKey}
    (perm : visited.Perm configMap) :
    Arranges (fun val : GadgetConfigItemWithKey => val.item.order) configMap
      (getOrderedConfigItems visited) :=
  have sorted := arranges_mergeSort
    (fun val : GadgetConfigItemWithKey => val.item.order) visited
  ⟨sorted.perm.trans perm, sorted.sorted⟩

theorem getOrderedConfigItems_of_arranges
    {configMap items : List GadgetConfigItemWithKey}
    (arranges : Arranges (fun val : GadgetConfigItemWithKey => val.item.order)
      configMap items) : getOrderedConfigItems items = items :=
  arranges.mergeSort_eq

theorem layout_eq (settings : Settings)
    (configMap : List GadgetConfigItemWithKey) :
    settings.layout configMap =
      (getOrderedConfigItems configMap).filterMap
        (settings.transaction []).requestedLink := by
  rw [Settings.layout, UsbGadgetTransaction.links_writeGadgetConfig]
  rfl

/-- However the map is met and sorted, the gadget is laid out in the same way,
if and only if its enabled functions have different order values, or the same
link. -/
theorem reproducible_iff_ordersApart (settings : Settings)
    (configMap : List GadgetConfigItemWithKey) :
    Reproducible settings configMap ↔ OrdersApart settings configMap := by
  unfold OrdersApart
  rw [← filterMap_eq_iff]
  constructor
  · intro reproducible one other oneArranges otherArranges
    have same := reproducible one other oneArranges.perm otherArranges.perm
    rwa [layout_eq, layout_eq, getOrderedConfigItems_of_arranges oneArranges,
      getOrderedConfigItems_of_arranges otherArranges] at same
  · intro same one other onePerm otherPerm
    rw [layout_eq, layout_eq]
    exact same _ _ (arranges_getOrderedConfigItems onePerm)
      (arranges_getOrderedConfigItems otherPerm)

/-- The settings of a gadget with the devices. -/
def Settings.ofDevices (devices : Devices) : Settings where
  udc := "ffb00000.usb"
  kvmGadgetPath := joinPath gadgetPath ["jetkvm"]
  configC1Path := joinPath gadgetPath ["jetkvm", "configs", "c.1"]
  isGadgetConfigItemEnabled := UsbGadget.isGadgetConfigItemEnabled devices

/-- In the default configuration only the serial console and the audio function
share an order value. -/
theorem ordersApart_defaultGadgetConfig_iff (devices : Devices) :
    OrdersApart (Settings.ofDevices devices) defaultGadgetConfig ↔
      ¬ (devices.serialConsole = true ∧ devices.audio = true) := by
  let serial : GadgetConfigItemWithKey := ⟨"serial_console", serialConsoleConfig⟩
  let audio := defaultGadgetConfig[8]
  let enabled := ((Settings.ofDevices devices).transaction []).requestedLink
  have serialLink : enabled serial = if devices.serialConsole then
      ((Settings.ofDevices devices).transaction []).linkOf serial.item
      else none := rfl
  have audioLink : enabled audio = if devices.audio then
      ((Settings.ofDevices devices).transaction []).linkOf audio.item
      else none := rfl
  constructor
  · rintro apart ⟨hasSerial, hasAudio⟩
    rw [if_pos hasSerial] at serialLink
    rw [if_pos hasAudio] at audioLink
    have same := apart serial (by decide +kernel) audio (by decide +kernel) rfl
      _ serialLink _ audioLink
    have paths := congrArg Symlink.path same
    simp [Settings.ofDevices, Settings.transaction, joinPath] at paths
  · intro notBoth first firstIn second secondIn sameOrder link asked other asks
    have shared : ∀ first ∈ defaultGadgetConfig, ∀ second ∈ defaultGadgetConfig,
        first.item.order = second.item.order → first = second ∨
          (first = serial ∧ second = audio) ∨ (first = audio ∧ second = serial) := by
      decide +kernel
    have notEither : devices.serialConsole = false ∨ devices.audio = false :=
      (not_and_or.mp notBoth).imp (Bool.not_eq_true _).mp (Bool.not_eq_true _).mp
    rcases shared first firstIn second secondIn sameOrder with
      rfl | ⟨rfl, rfl⟩ | ⟨rfl, rfl⟩
    · exact Option.some.inj (asked.symm.trans asks)
    all_goals
      change enabled _ = some link at asked
      change enabled _ = some other at asks
      rw [serialLink, audioLink] at *
      rcases notEither with off | off <;> simp [off] at asked asks

/-- The serial console and the audio function share an order value. -/
theorem serialConsole_and_audio_not_reproducible :
    ¬ Reproducible
      (Settings.ofDevices { serialConsole := true, audio := true })
      defaultGadgetConfig := by
  intro reproducible
  let front := defaultGadgetConfig.take 5 ++ defaultGadgetConfig.drop 9 ++
    (defaultGadgetConfig.drop 5).take 2
  let serial : GadgetConfigItemWithKey := ⟨"serial_console", serialConsoleConfig⟩
  let audio := defaultGadgetConfig[8]
  have serialFirst : Arranges
      (fun val : GadgetConfigItemWithKey => val.item.order) defaultGadgetConfig
      (front ++ [serial, audio]) := ⟨by decide +kernel, by decide +kernel⟩
  have audioFirst : Arranges
      (fun val : GadgetConfigItemWithKey => val.item.order) defaultGadgetConfig
      (front ++ [audio, serial]) := ⟨by decide +kernel, by decide +kernel⟩
  have same := reproducible _ _ serialFirst.perm audioFirst.perm
  rw [layout_eq, layout_eq, getOrderedConfigItems_of_arranges serialFirst,
    getOrderedConfigItems_of_arranges audioFirst] at same
  revert same
  decide +kernel

end UsbGadget

end JetKvm
