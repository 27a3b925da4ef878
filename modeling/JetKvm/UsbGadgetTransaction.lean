import JetKvm.UsbGadgetConfig

/-!
# Transactions of the USB gadget

Translation of `internal/usbgadget/config_tx.go` up to the point where the
collected changes are applied.  The methods of a transaction only add to it, so
each one is a function from a transaction to a transaction; where the source
also returns the keys of the changes it added, they come with it.
-/

namespace JetKvm

namespace UsbGadget

def configFSPath : Path := ["sys", "kernel", "config"]

def gadgetPath : Path := ["sys", "kernel", "config", "usb_gadget"]

def dwc3Path : Path := ["sys", "bus", "platform", "drivers", "dwc3"]

/-- `c` holds the changes collected so far. -/
structure UsbGadgetTransaction where
  c : List RequestedFileChange := []
  udc : String
  kvmGadgetPath : Path
  configC1Path : Path
  orderedConfigItems : List GadgetConfigItemWithKey
  isGadgetConfigItemEnabled : String → Bool
  reorderSymlinkChanges : Option RequestedFileChange := none

namespace UsbGadgetTransaction

variable (tx : UsbGadgetTransaction)

def addFileChange (component : String) (change : RequestedFileChange) :
    UsbGadgetTransaction × String :=
  ({ tx with c := tx.c ++ [change.ownedBy component] }, change.resolvedKey)

def mkdirAll (component : String) (path : Path) (description : String)
    (deps : List String) : UsbGadgetTransaction × String :=
  tx.addFileChange component
    { path := path
      expectedState := .directory
      description := description
      dependsOn := deps }

def removeFile (component : String) (path : Path) (description : String) :
    UsbGadgetTransaction × String :=
  tx.addFileChange component
    { path := path
      expectedState := .absent
      description := description }

def mountConfigFS : UsbGadgetTransaction :=
  (tx.addFileChange "gadget"
    { path := configFSPath
      expectedState := .mountedConfigFS
      description := "mount configfs" }).1

def createConfigPath : UsbGadgetTransaction :=
  (tx.mkdirAll "gadget" tx.configC1Path "create config path"
    [pathText configFSPath]).1

def getDisableKeys : List String :=
  (tx.orderedConfigItems.filter fun item =>
    tx.isGadgetConfigItemEnabled item.key ∧ item.item.Linked).map fun item =>
      s!"disable-{item.item.device}"

def disableGadgetItemConfig (item : GadgetConfigItem) : UsbGadgetTransaction :=
  match item.configPath with
  | none => tx
  | some configPath =>
      (tx.removeFile "gadget" (joinPath tx.configC1Path configPath)
        "remove symlink: disable gadget config").1

def attrChange (basePath : Path) (beforeChange : List String)
    (attr : String × String) : RequestedFileChange where
  path := joinPath basePath [attr.1]
  expectedState := .fileContentMatch
  expectedContent := bytesOf attr.2
  description := "write gadget attribute"
  dependsOn := [pathText basePath]
  beforeChange := some beforeChange
  ignoreErrors := attr.1 = "wakeup_on_write"

/-- One round of the loop of `writeGadgetAttrs`. -/
def writeGadgetAttr (basePath : Path) (component : String)
    (beforeChange : List String)
    (written : UsbGadgetTransaction × List String) (attr : String × String) :
    UsbGadgetTransaction × List String :=
  let (tx, attrKey) :=
    written.1.addFileChange component (attrChange basePath beforeChange attr)
  (tx, written.2 ++ [attrKey])

def writeGadgetAttrs (basePath : Path) (attrs : GadgetAttributes)
    (component : String) (beforeChange : List String) :
    UsbGadgetTransaction × List String :=
  attrs.foldl (writeGadgetAttr basePath component beforeChange) (tx, [])

def addReorderSymlinkChange (path : Path) (target : Bytes) (deps : List String) :
    UsbGadgetTransaction :=
  let change := tx.reorderSymlinkChanges.getD
    { component := "gadget-finalize"
      key := "reorder-symlinks"
      path := tx.configC1Path
      expectedState := .symlinkInOrderConfigFS
      description := "order symlinks" }
  { tx with
    reorderSymlinkChanges := some
      { change with
        dependsOn := change.dependsOn ++ deps
        paramSymlinks :=
          change.paramSymlinks ++ [{ path := path, target := target }] } }

/-- The removals to make before a file of the item changes. -/
def itemBeforeChange (item : GadgetConfigItem) : List String :=
  if item.Linked then tx.getDisableKeys else []

/-! The steps of `writeGadgetItemConfig`.  Each takes the keys of the files
written so far and returns them with its own added. -/

def createItemDirectory (item : GadgetConfigItem) (files : List String) :
    UsbGadgetTransaction × List String :=
  let gadgetItemPath := joinPath tx.kvmGadgetPath item.path
  if gadgetItemPath ≠ tx.kvmGadgetPath then
    let (tx, gadgetItemDir) := tx.mkdirAll item.device gadgetItemPath
      "create gadget item directory" files
    (tx, files ++ [gadgetItemDir])
  else (tx, files)

def writeItemAttrs (item : GadgetConfigItem) (beforeChange files : List String) :
    UsbGadgetTransaction × List String :=
  if 0 < item.attrs.length then
    let (tx, written) := tx.writeGadgetAttrs
      (joinPath tx.kvmGadgetPath item.path) item.attrs item.device beforeChange
    (tx, files ++ written)
  else (tx, files)

def reportDescChange (item : GadgetConfigItem)
    (beforeChange files : List String) : RequestedFileChange :=
  let reportDescPath :=
    joinPath (joinPath tx.kvmGadgetPath item.path) ["report_desc"]
  match item.reportDesc with
  | some reportDesc =>
      { path := reportDescPath
        expectedState := .fileContentMatch
        expectedContent := reportDesc
        description := "write report descriptor"
        beforeChange := some beforeChange
        dependsOn := files }
  | none =>
      { path := reportDescPath
        expectedState := .absent
        description := "remove report descriptor"
        beforeChange := some beforeChange
        dependsOn := files }

def writeReportDesc (item : GadgetConfigItem) (beforeChange files : List String) :
    UsbGadgetTransaction × List String :=
  let (tx, reportDescKey) := tx.addFileChange item.device
    (tx.reportDescChange item beforeChange files)
  (tx, files ++ [reportDescKey])

def writeConfigAttrs (item : GadgetConfigItem)
    (beforeChange files : List String) : UsbGadgetTransaction × List String :=
  match item.configAttrs with
  | some (attr :: attrs) =>
      let configItemPath := joinPath tx.configC1Path (item.configPath.getD [])
      let (tx, files) :=
        if configItemPath ≠ tx.configC1Path then
          let (tx, configItemDir) := tx.mkdirAll item.device configItemPath
            "create config item directory" files
          (tx, files ++ [configItemDir])
        else (tx, files)
      let (tx, written) := tx.writeGadgetAttrs configItemPath (attr :: attrs)
        item.device beforeChange
      (tx, files ++ written)
  | _ => (tx, files)

/-- The removal of the link is applied only as a `beforeChange` of others. -/
def createSymlink (item : GadgetConfigItem) (files : List String) :
    UsbGadgetTransaction :=
  match item.configPath, item.configAttrs with
  | some configPath, none =>
      let configPath := joinPath tx.configC1Path configPath
      let (tx, _) := tx.addFileChange item.device
        { key := s!"disable-{item.device}"
          path := configPath
          expectedState := .absent
          when := "beforeChange"
          description := "remove symlink" }
      tx.addReorderSymlinkChange configPath
        (bytesOf (pathText (joinPath tx.kvmGadgetPath item.path))) files
  | _, _ => tx

def writeGadgetItemConfig (item : GadgetConfigItem) (deps : List String) :
    UsbGadgetTransaction × List String :=
  let (tx, files) := tx.createItemDirectory item deps
  let beforeChange := tx.itemBeforeChange item
  let (tx, files) := tx.writeItemAttrs item beforeChange files
  let (tx, files) := tx.writeReportDesc item beforeChange files
  let (tx, files) := tx.writeConfigAttrs item beforeChange files
  (tx.createSymlink item files, files)

/-- One round of the loop of `WriteGadgetConfig`. -/
def writeOrDisable (written : UsbGadgetTransaction × List String)
    (val : GadgetConfigItemWithKey) : UsbGadgetTransaction × List String :=
  let (tx, deps) := written
  if tx.isGadgetConfigItemEnabled val.key then
    tx.writeGadgetItemConfig val.item deps
  else (tx.disableGadgetItemConfig val.item, deps)

def writeUDC : UsbGadgetTransaction :=
  (tx.addFileChange "udc"
    { key := "udc"
      path := joinPath tx.kvmGadgetPath ["UDC"]
      expectedState := .fileContentMatch
      expectedContent := bytesOf tx.udc
      dependsOn := ["reorder-symlinks"]
      description := "write UDC" }).1

def writeGadgetConfig : UsbGadgetTransaction :=
  let (tx, kvmGadgetDir) := tx.mkdirAll "gadget" tx.kvmGadgetPath
    "create kvm gadget path" [pathText tx.configC1Path]
  (tx.orderedConfigItems.foldl writeOrDisable (tx, [kvmGadgetDir])).1.writeUDC

def rebindUsb (ignoreUnbindError : Bool) : UsbGadgetTransaction :=
  let (tx, _) := tx.addFileChange "udc"
    { path := joinPath dwc3Path ["unbind"]
      expectedState := .fileWrite
      expectedContent := bytesOf tx.udc
      description := "unbind UDC"
      dependsOn := ["udc"]
      ignoreErrors := ignoreUnbindError }
  (tx.addFileChange "udc"
    { path := joinPath dwc3Path ["bind"]
      expectedState := .fileWrite
      expectedContent := bytesOf tx.udc
      description := "bind UDC"
      dependsOn := [pathText (joinPath dwc3Path ["unbind"])] }).1

/-- The changes that `Commit` applies.  There is no result when it dereferences
a nil `reorderSymlinkChanges`. -/
def commitChanges : Option (List RequestedFileChange) :=
  tx.reorderSymlinkChanges.map fun change =>
    (tx.addFileChange "gadget-finalize" change).1.c

/-! ### What each method adds -/

/-- The transaction with more changes collected. -/
def adding (changes : List RequestedFileChange) : UsbGadgetTransaction :=
  { tx with c := tx.c ++ changes }

section Adding

variable (changes more : List RequestedFileChange)

@[simp]
theorem adding_nil : tx.adding [] = tx := by
  simp [adding]

@[simp]
theorem adding_adding :
    (tx.adding changes).adding more = tx.adding (changes ++ more) := by
  simp [adding]

@[simp]
theorem c_adding : (tx.adding changes).c = tx.c ++ changes := rfl

@[simp]
theorem udc_adding : (tx.adding changes).udc = tx.udc := rfl

@[simp]
theorem kvmGadgetPath_adding :
    (tx.adding changes).kvmGadgetPath = tx.kvmGadgetPath := rfl

@[simp]
theorem configC1Path_adding :
    (tx.adding changes).configC1Path = tx.configC1Path := rfl

@[simp]
theorem orderedConfigItems_adding :
    (tx.adding changes).orderedConfigItems = tx.orderedConfigItems := rfl

@[simp]
theorem isGadgetConfigItemEnabled_adding :
    (tx.adding changes).isGadgetConfigItemEnabled =
      tx.isGadgetConfigItemEnabled := rfl

@[simp]
theorem reorderSymlinkChanges_adding :
    (tx.adding changes).reorderSymlinkChanges = tx.reorderSymlinkChanges := rfl

@[simp]
theorem getDisableKeys_adding :
    (tx.adding changes).getDisableKeys = tx.getDisableKeys := rfl

@[simp]
theorem itemBeforeChange_adding :
    (tx.adding changes).itemBeforeChange = tx.itemBeforeChange := rfl

@[simp]
theorem reportDescChange_adding :
    (tx.adding changes).reportDescChange = tx.reportDescChange := rfl

end Adding

theorem addFileChange_eq (component : String) (change : RequestedFileChange) :
    tx.addFileChange component change =
      (tx.adding [change.ownedBy component], change.resolvedKey) := rfl

def directoryChange (component : String) (path : Path) (description : String)
    (deps : List String) : RequestedFileChange where
  component := component
  path := path
  expectedState := .directory
  description := description
  dependsOn := deps

@[simp]
theorem resolvedKey_directoryChange (component : String) (path : Path)
    (description : String) (deps : List String) :
    (directoryChange component path description deps).resolvedKey =
      pathText path := rfl

theorem mkdirAll_eq (component : String) (path : Path) (description : String)
    (deps : List String) :
    tx.mkdirAll component path description deps =
      (tx.adding [directoryChange component path description deps],
        pathText path) := rfl

def attrChanges (basePath : Path) (attrs : GadgetAttributes)
    (component : String) (beforeChange : List String) :
    List RequestedFileChange :=
  attrs.map fun attr => (attrChange basePath beforeChange attr).ownedBy component

theorem foldl_writeGadgetAttr (basePath : Path) (attrs : GadgetAttributes)
    (component : String) (beforeChange files : List String) :
    attrs.foldl (writeGadgetAttr basePath component beforeChange) (tx, files) =
      (tx.adding (attrChanges basePath attrs component beforeChange),
        files ++ (attrChanges basePath attrs component beforeChange).map
          RequestedFileChange.resolvedKey) := by
  induction attrs generalizing tx files with
  | nil => simp [attrChanges]
  | cons attr attrs ih =>
      rw [List.foldl_cons, writeGadgetAttr, addFileChange_eq, ih]
      simp [attrChanges]

theorem writeGadgetAttrs_eq (basePath : Path) (attrs : GadgetAttributes)
    (component : String) (beforeChange : List String) :
    tx.writeGadgetAttrs basePath attrs component beforeChange =
      (tx.adding (attrChanges basePath attrs component beforeChange),
        (attrChanges basePath attrs component beforeChange).map
          RequestedFileChange.resolvedKey) := by
  rw [writeGadgetAttrs, foldl_writeGadgetAttr, List.nil_append]

/-- The directory an item asks for, unless it is the one it is to be below. -/
def directoryBelow (item : GadgetConfigItem) (basePath path : Path)
    (description : String) (files : List String) : List RequestedFileChange :=
  if path ≠ basePath then
    [directoryChange item.device path description files]
  else []

theorem createItemDirectory_eq (item : GadgetConfigItem) (files : List String) :
    tx.createItemDirectory item files =
      let added := directoryBelow item tx.kvmGadgetPath
        (joinPath tx.kvmGadgetPath item.path) "create gadget item directory" files
      (tx.adding added, files ++ added.map RequestedFileChange.resolvedKey) := by
  by_cases own : joinPath tx.kvmGadgetPath item.path = tx.kvmGadgetPath
  · simp [createItemDirectory, directoryBelow, own]
  · simp [createItemDirectory, directoryBelow, own, mkdirAll_eq]

theorem writeItemAttrs_eq (item : GadgetConfigItem)
    (beforeChange files : List String) :
    tx.writeItemAttrs item beforeChange files =
      let added := attrChanges (joinPath tx.kvmGadgetPath item.path) item.attrs
        item.device beforeChange
      (tx.adding added, files ++ added.map RequestedFileChange.resolvedKey) := by
  unfold writeItemAttrs
  split
  · rw [writeGadgetAttrs_eq]
  · rename_i empty
    have none : item.attrs = [] := by simpa using empty
    simp [none, attrChanges]

theorem writeReportDesc_eq (item : GadgetConfigItem)
    (beforeChange files : List String) :
    tx.writeReportDesc item beforeChange files =
      let added :=
        [(tx.reportDescChange item beforeChange files).ownedBy item.device]
      (tx.adding added, files ++ added.map RequestedFileChange.resolvedKey) := rfl

/-- What `writeGadgetItemConfig` asks for in the configuration's directory. -/
def configChanges (item : GadgetConfigItem) (beforeChange files : List String) :
    List RequestedFileChange :=
  match item.configAttrs with
  | some (attr :: attrs) =>
      let configItemPath := joinPath tx.configC1Path (item.configPath.getD [])
      directoryBelow item tx.configC1Path configItemPath
          "create config item directory" files ++
        attrChanges configItemPath (attr :: attrs) item.device beforeChange
  | _ => []

@[simp]
theorem configChanges_adding (changes : List RequestedFileChange) :
    (tx.adding changes).configChanges = tx.configChanges := rfl

theorem writeConfigAttrs_eq (item : GadgetConfigItem)
    (beforeChange files : List String) :
    tx.writeConfigAttrs item beforeChange files =
      let added := tx.configChanges item beforeChange files
      (tx.adding added, files ++ added.map RequestedFileChange.resolvedKey) := by
  unfold writeConfigAttrs configChanges
  cases item.configAttrs with
  | none => simp
  | some attrs =>
      cases attrs with
      | nil => simp
      | cons attr attrs =>
          by_cases own : joinPath tx.configC1Path (item.configPath.getD []) =
              tx.configC1Path
          · simp [directoryBelow, own, writeGadgetAttrs_eq]
          · simp [directoryBelow, own, mkdirAll_eq, writeGadgetAttrs_eq]

/-- What `writeGadgetItemConfig` asks for in the directory of the item. -/
def itemChanges (item : GadgetConfigItem) (deps : List String) :
    List RequestedFileChange :=
  let gadgetItemPath := joinPath tx.kvmGadgetPath item.path
  let written :=
    directoryBelow item tx.kvmGadgetPath gadgetItemPath
        "create gadget item directory" deps ++
      attrChanges gadgetItemPath item.attrs item.device (tx.itemBeforeChange item)
  written ++
    [(tx.reportDescChange item (tx.itemBeforeChange item)
      (deps ++ written.map RequestedFileChange.resolvedKey)).ownedBy item.device]

/-- All that `writeGadgetItemConfig` asks for before the link. -/
def filesOf (item : GadgetConfigItem) (deps : List String) :
    List RequestedFileChange :=
  let written := tx.itemChanges item deps
  written ++ tx.configChanges item (tx.itemBeforeChange item)
    (deps ++ written.map RequestedFileChange.resolvedKey)

theorem writeGadgetItemConfig_eq (item : GadgetConfigItem)
    (deps : List String) :
    tx.writeGadgetItemConfig item deps =
      let files :=
        deps ++ (tx.filesOf item deps).map RequestedFileChange.resolvedKey
      ((tx.adding (tx.filesOf item deps)).createSymlink item files, files) := by
  simp [writeGadgetItemConfig, createItemDirectory_eq, writeItemAttrs_eq,
    writeReportDesc_eq, writeConfigAttrs_eq, filesOf, itemChanges]

/-- The transactions serve the same gadget and configuration. -/
structure SameGadget (other : UsbGadgetTransaction) : Prop where
  udc : other.udc = tx.udc
  kvmGadgetPath : other.kvmGadgetPath = tx.kvmGadgetPath
  configC1Path : other.configC1Path = tx.configC1Path
  orderedConfigItems : other.orderedConfigItems = tx.orderedConfigItems
  isGadgetConfigItemEnabled :
    other.isGadgetConfigItemEnabled = tx.isGadgetConfigItemEnabled

theorem SameGadget.trans {tx other last : UsbGadgetTransaction}
    (first : tx.SameGadget other) (second : other.SameGadget last) :
    tx.SameGadget last where
  udc := second.udc.trans first.udc
  kvmGadgetPath := second.kvmGadgetPath.trans first.kvmGadgetPath
  configC1Path := second.configC1Path.trans first.configC1Path
  orderedConfigItems := second.orderedConfigItems.trans first.orderedConfigItems
  isGadgetConfigItemEnabled :=
    second.isGadgetConfigItemEnabled.trans first.isGadgetConfigItemEnabled

theorem sameGadget_adding (changes : List RequestedFileChange) :
    tx.SameGadget (tx.adding changes) :=
  ⟨rfl, rfl, rfl, rfl, rfl⟩

theorem sameGadget_disableGadgetItemConfig (item : GadgetConfigItem) :
    tx.SameGadget (tx.disableGadgetItemConfig item) := by
  unfold disableGadgetItemConfig
  split <;> exact ⟨rfl, rfl, rfl, rfl, rfl⟩

theorem sameGadget_createSymlink (item : GadgetConfigItem)
    (files : List String) : tx.SameGadget (tx.createSymlink item files) := by
  unfold createSymlink
  split <;> exact ⟨rfl, rfl, rfl, rfl, rfl⟩

theorem sameGadget_writeOrDisable (deps : List String)
    (val : GadgetConfigItemWithKey) :
    tx.SameGadget (writeOrDisable (tx, deps) val).1 := by
  cases enabled : tx.isGadgetConfigItemEnabled val.key with
  | false =>
      simpa [writeOrDisable, enabled] using
        tx.sameGadget_disableGadgetItemConfig val.item
  | true =>
      simp only [writeOrDisable, enabled, writeGadgetItemConfig_eq, if_true]
      exact (tx.sameGadget_adding _).trans (sameGadget_createSymlink _ _ _)

theorem sameGadget_foldl (deps : List String)
    (items : List GadgetConfigItemWithKey) :
    tx.SameGadget (items.foldl writeOrDisable (tx, deps)).1 := by
  induction items generalizing tx deps with
  | nil => exact ⟨rfl, rfl, rfl, rfl, rfl⟩
  | cons val items ih =>
      have same := tx.sameGadget_writeOrDisable deps val
      rw [List.foldl_cons]
      generalize writeOrDisable (tx, deps) val = written at same
      obtain ⟨next, files⟩ := written
      exact same.trans (ih next files)

theorem sameGadget_writeGadgetConfig :
    tx.SameGadget tx.writeGadgetConfig := by
  simp only [writeGadgetConfig, mkdirAll_eq, writeUDC, addFileChange_eq]
  exact (tx.sameGadget_adding _).trans
    ((sameGadget_foldl _ _ _).trans (sameGadget_adding _ _))

/-! ### The reordering of the links -/

@[simp]
theorem reorderSymlinkChanges_disableGadgetItemConfig (item : GadgetConfigItem) :
    (tx.disableGadgetItemConfig item).reorderSymlinkChanges =
      tx.reorderSymlinkChanges := by
  unfold disableGadgetItemConfig
  split <;> rfl

theorem isSome_reorder_createSymlink (item : GadgetConfigItem)
    (files : List String) :
    (tx.createSymlink item files).reorderSymlinkChanges.isSome ↔
      tx.reorderSymlinkChanges.isSome ∨ item.Linked := by
  unfold createSymlink GadgetConfigItem.Linked
  cases item.configPath with
  | none => simp
  | some configPath =>
      cases item.configAttrs with
      | none => simp [addReorderSymlinkChange]
      | some attrs => simp

theorem isSome_reorder_writeOrDisable (deps : List String)
    (val : GadgetConfigItemWithKey) :
    (writeOrDisable (tx, deps) val).1.reorderSymlinkChanges.isSome ↔
      tx.reorderSymlinkChanges.isSome ∨
        (tx.isGadgetConfigItemEnabled val.key ∧ val.item.Linked) := by
  cases enabled : tx.isGadgetConfigItemEnabled val.key with
  | false => simp [writeOrDisable, enabled]
  | true =>
      simp [writeOrDisable, enabled, writeGadgetItemConfig_eq,
        isSome_reorder_createSymlink]

theorem isSome_reorder_foldl (deps : List String)
    (items : List GadgetConfigItemWithKey) :
    (items.foldl writeOrDisable (tx, deps)).1.reorderSymlinkChanges.isSome ↔
      tx.reorderSymlinkChanges.isSome ∨
        ∃ val ∈ items, tx.isGadgetConfigItemEnabled val.key ∧
          val.item.Linked := by
  induction items generalizing tx deps with
  | nil => simp
  | cons val items ih =>
      have same := (tx.sameGadget_writeOrDisable deps val).isGadgetConfigItemEnabled
      have here := tx.isSome_reorder_writeOrDisable deps val
      rw [List.foldl_cons]
      generalize writeOrDisable (tx, deps) val = written at same here
      obtain ⟨next, files⟩ := written
      rw [ih, here, same, List.exists_mem_cons_iff, or_assoc]

/-- Exactly an enabled function leaves the links to be reordered. -/
theorem isSome_reorder_writeGadgetConfig :
    tx.writeGadgetConfig.reorderSymlinkChanges.isSome ↔
      tx.reorderSymlinkChanges.isSome ∨
        ∃ val ∈ tx.orderedConfigItems, tx.isGadgetConfigItemEnabled val.key ∧
          val.item.Linked := by
  simp only [writeGadgetConfig, mkdirAll_eq, writeUDC, addFileChange_eq,
    reorderSymlinkChanges_adding]
  rw [isSome_reorder_foldl]
  rfl

/-- What the collected reordering asks for, whatever the links. -/
def ReordersConfig : Prop :=
  ∀ change ∈ tx.reorderSymlinkChanges,
    change.expectedState = .symlinkInOrderConfigFS ∧
      change.path = tx.configC1Path ∧ change.when = ""

theorem ReordersConfig.adding {tx : UsbGadgetTransaction}
    (reorders : tx.ReordersConfig) (changes : List RequestedFileChange) :
    (tx.adding changes).ReordersConfig := reorders

theorem ReordersConfig.createSymlink {tx : UsbGadgetTransaction}
    (reorders : tx.ReordersConfig)
    (item : GadgetConfigItem) (files : List String) :
    (tx.createSymlink item files).ReordersConfig := by
  unfold UsbGadgetTransaction.createSymlink
  split
  · intro change collected
    simp only [addFileChange_eq, addReorderSymlinkChange,
      reorderSymlinkChanges_adding, configC1Path_adding, Option.mem_some_iff]
      at collected ⊢
    subst collected
    cases found : tx.reorderSymlinkChanges with
    | none => simp
    | some known => simpa using reorders known found
  · exact reorders

theorem ReordersConfig.writeOrDisable {tx : UsbGadgetTransaction}
    (reorders : tx.ReordersConfig)
    (deps : List String) (val : GadgetConfigItemWithKey) :
    (UsbGadgetTransaction.writeOrDisable (tx, deps) val).1.ReordersConfig := by
  cases enabled : tx.isGadgetConfigItemEnabled val.key with
  | false =>
      have same := tx.sameGadget_disableGadgetItemConfig val.item
      simp only [UsbGadgetTransaction.writeOrDisable, enabled,
        Bool.false_eq_true, if_false]
      intro change collected
      rw [same.configC1Path]
      exact reorders change (by simpa using collected)
  | true =>
      simp only [UsbGadgetTransaction.writeOrDisable, enabled, if_true,
        writeGadgetItemConfig_eq]
      exact (reorders.adding _).createSymlink _ _

theorem ReordersConfig.foldl {tx : UsbGadgetTransaction}
    (reorders : tx.ReordersConfig)
    (deps : List String) (items : List GadgetConfigItemWithKey) :
    (items.foldl UsbGadgetTransaction.writeOrDisable (tx, deps)).1.ReordersConfig := by
  induction items generalizing tx deps with
  | nil => exact reorders
  | cons val items ih =>
      exact ih (reorders.writeOrDisable deps val) _

theorem ReordersConfig.writeGadgetConfig {tx : UsbGadgetTransaction}
    (reorders : tx.ReordersConfig) :
    tx.writeGadgetConfig.ReordersConfig := by
  simp only [UsbGadgetTransaction.writeGadgetConfig, mkdirAll_eq, writeUDC,
    addFileChange_eq]
  exact ((reorders.adding _).foldl _ _).adding _

theorem isSome_commitChanges :
    tx.commitChanges.isSome ↔ tx.reorderSymlinkChanges.isSome := by
  simp [commitChanges]

end UsbGadgetTransaction

end UsbGadget

end JetKvm
