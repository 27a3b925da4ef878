import JetKvm.LabelledRuns
import JetKvm.UsbGadgetTransaction

/-!
# Runs of USB gadget transactions

The goroutine of `WithTransactionTimeout` holds the transaction lock from its
first to its last step, so a run is a list of whole goroutines, in the order in
which they get the lock.  What applying the changes does to the files, and
whether it fails, is left open: each transaction comes with its own `apply`.

The gadget can start its next transaction as long as every callback so far
returned no error and asked for the configuration of at least one function.
-/

namespace JetKvm

namespace UsbGadget

/-- The methods by which a callback adds to its transaction. -/
inductive TxCall where
  | mountConfigFS
  | createConfigPath
  | writeGadgetConfig
  | disableGadgetItemConfig (item : GadgetConfigItem)
  | writeUDC
  | rebindUsb (ignoreUnbindError : Bool)
  deriving DecidableEq

def TxCall.run (tx : UsbGadgetTransaction) : TxCall → UsbGadgetTransaction
  | .mountConfigFS => tx.mountConfigFS
  | .createConfigPath => tx.createConfigPath
  | .writeGadgetConfig => tx.writeGadgetConfig
  | .disableGadgetItemConfig item => tx.disableGadgetItemConfig item
  | .writeUDC => tx.writeUDC
  | .rebindUsb ignoreUnbindError => tx.rebindUsb ignoreUnbindError

/-- The calls that a callback makes until it returns, and the error it returns
with. -/
structure Callback where
  calls : List TxCall
  err : Option String := none

/-- The callback of `configureUsbGadget`. -/
def configureUsbGadget (resetUsb : Bool) : Callback where
  calls :=
    [.mountConfigFS, .createConfigPath, .writeGadgetConfig] ++
      if resetUsb then [.rebindUsb true] else []

/-- One call of `WithTransaction`, with the settings it finds.  `configMap` is
in the order in which it is ranged over. -/
structure Transaction (FileSystem : Type*) where
  udc : String
  configMap : List GadgetConfigItemWithKey
  isEnabled : String → Bool
  callback : Callback
  apply : List RequestedFileChange → FileSystem → Option String × FileSystem

/-- `results` holds what the goroutines sent on their channels. -/
structure Gadget (FileSystem : Type*) where
  kvmGadgetPath : Path
  configC1Path : Path
  tx : Option UsbGadgetTransaction := none
  files : FileSystem
  crashed : Bool := false
  results : List (Option String) := []

namespace Gadget

variable {FileSystem : Type*}

/-- `newUsbGadget` before its `Init`. -/
def new (name : String) (files : FileSystem) : Gadget FileSystem where
  kvmGadgetPath := joinPath gadgetPath [name]
  configC1Path := joinPath gadgetPath [name, "configs", "c.1"]
  files := files

def newUsbGadgetTransaction (gadget : Gadget FileSystem)
    (call : Transaction FileSystem) : Except String UsbGadgetTransaction :=
  if gadget.tx.isSome then .error "transaction already exists"
  else
    .ok
      { udc := call.udc
        kvmGadgetPath := gadget.kvmGadgetPath
        configC1Path := gadget.configC1Path
        orderedConfigItems := getOrderedConfigItems call.configMap
        isGadgetConfigItemEnabled := call.isEnabled }

def done (gadget : Gadget FileSystem) (err : Option String) :
    Gadget FileSystem :=
  { gadget with results := gadget.results ++ [err] }

/-- The goroutine of `WithTransactionTimeout`.  A panic in it ends the
process. -/
def goroutine (gadget : Gadget FileSystem) (call : Transaction FileSystem) :
    Gadget FileSystem :=
  match gadget.newUsbGadgetTransaction call with
  | .error err => gadget.done (some err)
  | .ok tx =>
      let tx := call.callback.calls.foldl TxCall.run tx
      match call.callback.err with
      | some err => { gadget with tx := some tx }.done (some err)
      | none =>
          match tx.commitChanges with
          | none => { gadget with tx := some tx, crashed := true }
          | some changes =>
              let (result, files) := call.apply changes gadget.files
              { gadget with tx := none, files := files }.done result

def step (gadget : Gadget FileSystem) (call : Transaction FileSystem) :
    Option (Gadget FileSystem) :=
  if gadget.crashed then none else some (gadget.goroutine call)

/-- No goroutine has panicked, and the next transaction can start. -/
def Ready (gadget : Gadget FileSystem) : Prop :=
  gadget.crashed = false ∧ gadget.tx = none

end Gadget

/-- The callback returns no error and asks for a configuration with at least
one function enabled. -/
def Transaction.ConfiguresFunction {FileSystem : Type*}
    (call : Transaction FileSystem) : Prop :=
  call.callback.err = none ∧
    .writeGadgetConfig ∈ call.callback.calls ∧
      ∃ val ∈ call.configMap, call.isEnabled val.key ∧ val.item.Linked

/-! ### What the callback leaves in the transaction -/

section Callback

variable (tx : UsbGadgetTransaction) (call : TxCall) (calls : List TxCall)

theorem TxCall.sameGadget_run : tx.SameGadget (call.run tx) := by
  cases call with
  | writeGadgetConfig => exact tx.sameGadget_writeGadgetConfig
  | disableGadgetItemConfig item => exact tx.sameGadget_disableGadgetItemConfig item
  | _ => exact ⟨rfl, rfl, rfl, rfl, rfl⟩

/-- Only `writeGadgetConfig` asks for links. -/
theorem TxCall.isSome_reorder_run :
    (call.run tx).reorderSymlinkChanges.isSome ↔
      tx.reorderSymlinkChanges.isSome ∨
        call = .writeGadgetConfig ∧
          ∃ val ∈ tx.orderedConfigItems,
            tx.isGadgetConfigItemEnabled val.key ∧ val.item.Linked := by
  cases call with
  | writeGadgetConfig =>
      rw [TxCall.run, tx.isSome_reorder_writeGadgetConfig]
      simp only [true_and]
  | disableGadgetItemConfig item => simp [TxCall.run]
  | _ =>
      simp only [reduceCtorEq, false_and, or_false]
      rfl

theorem isSome_reorder_foldl_run :
    (calls.foldl TxCall.run tx).reorderSymlinkChanges.isSome ↔
      tx.reorderSymlinkChanges.isSome ∨
        .writeGadgetConfig ∈ calls ∧
          ∃ val ∈ tx.orderedConfigItems,
            tx.isGadgetConfigItemEnabled val.key ∧ val.item.Linked := by
  induction calls generalizing tx with
  | nil => simp
  | cons call calls ih =>
      have same := call.sameGadget_run tx
      rw [List.foldl_cons, ih, call.isSome_reorder_run,
        same.orderedConfigItems, same.isGadgetConfigItemEnabled,
        List.mem_cons, or_assoc, ← or_and_right,
        @eq_comm _ TxCall.writeGadgetConfig]

end Callback

namespace Gadget

variable {FileSystem : Type*}

/-! ### One goroutine -/

/-- From a ready gadget, exactly the transactions that configure a function
leave it ready. -/
theorem ready_goroutine_iff {gadget : Gadget FileSystem} (ready : gadget.Ready)
    (call : Transaction FileSystem) :
    (gadget.goroutine call).Ready ↔ call.ConfiguresFunction := by
  obtain ⟨running, free⟩ := ready
  simp only [goroutine, newUsbGadgetTransaction, free, Option.isSome_none,
    Bool.false_eq_true, if_false]
  generalize filled : call.callback.calls.foldl TxCall.run _ = tx
  have committed : tx.commitChanges.isSome ↔
      .writeGadgetConfig ∈ call.callback.calls ∧
        ∃ val ∈ call.configMap, call.isEnabled val.key ∧ val.item.Linked := by
    rw [tx.isSome_commitChanges, ← filled, isSome_reorder_foldl_run]
    simp [getOrderedConfigItems]
  unfold Transaction.ConfiguresFunction
  rw [← committed]
  cases call.callback.err with
  | some err => simp [Ready, done]
  | none =>
      cases tx.commitChanges with
      | none => simp [Ready]
      | some changes => simp [Ready, done, running]

/-! ### Whole runs -/

open LabelledRuns

/-- No goroutine of a run panics, and each leaves room for the next one, exactly
when every transaction of the run configures a function. -/
theorem neverWedges_iff_configureFunctions (name : String) (files : FileSystem)
    (calls : List (Transaction FileSystem)) :
    AllStates step Ready (new name files) calls ↔
      ∀ call ∈ calls, call.ConfiguresFunction := by
  have onward : ∀ gadget : Gadget FileSystem, gadget.Ready →
      (AllStates step Ready gadget calls ↔
        ∀ call ∈ calls, call.ConfiguresFunction) := by
    induction calls with
    | nil => intro gadget ready; simpa [AllStates] using ready
    | cons call calls ih =>
        intro gadget ready
        have taken : gadget.step call = some (gadget.goroutine call) := by
          simp [step, ready.1]
        rw [List.forall_mem_cons, ← ready_goroutine_iff ready call]
        rw [allStates_cons_iff_of_step taken]
        constructor
        · rintro ⟨-, later⟩
          exact ⟨later.first, (ih _ later.first).mp later⟩
        · rintro ⟨here, later⟩
          exact ⟨ready, (ih _ here).mpr later⟩
  exact onward _ ⟨rfl, rfl⟩

/-- With every device off, the first configuration of the gadget dereferences
nil. -/
theorem allDevicesOff_not_neverWedges :
    ¬ ∀ (FileSystem : Type) (name : String) (files : FileSystem)
        (calls : List (Transaction FileSystem)),
      AllStates step Ready (new name files) calls := by
  intro always
  let call : Transaction Unit :=
    { udc := "ffb00000.usb"
      configMap := defaultGadgetConfig
      isEnabled := isGadgetConfigItemEnabled {}
      callback := configureUsbGadget true
      apply := fun _ files => (none, files) }
  have unconfigured : ¬ call.ConfiguresFunction := by
    rintro ⟨-, -, enabled⟩
    revert enabled
    decide +kernel
  have after := (always Unit "jetkvm" () [call]).2 _ rfl
  exact unconfigured ((ready_goroutine_iff ⟨rfl, rfl⟩ call).mp after.first)

end Gadget

end UsbGadget

end JetKvm
