import JetKvm.UsbTransactionRuns
import Mathlib.Data.List.Range

/-!
# The minors of the HID functions

The kernel numbers a HID function when its directory is created, while the code
opens the functions at fixed paths.  An update of the gadget creates the
directories of the enabled functions and never removes one, so the paths are
right as long as each update only enables functions whose predecessors are
there or come with them.
-/

namespace JetKvm

namespace UsbGadget

open Gamepad (maxGamepads)

/-! ### The functions -/

inductive HidFunction where
  | keyboard
  | absoluteMouse
  | relativeMouse
  | gamepad (idx : Fin maxGamepads)
  deriving DecidableEq

namespace HidFunction

def all : List HidFunction :=
  [.keyboard, .absoluteMouse, .relativeMouse] ++
    (List.finRange maxGamepads).map .gamepad

theorem mem_all (function : HidFunction) : function ∈ all := by
  cases function <;> simp [all]

/-- The key of the function in the configuration map. -/
def key : HidFunction → String
  | .keyboard => "keyboard"
  | .absoluteMouse => "absolute_mouse"
  | .relativeMouse => "relative_mouse"
  | .gamepad idx => gamepadConfigKey idx

def item : HidFunction → GadgetConfigItem
  | .keyboard => keyboardConfig
  | .absoluteMouse => absoluteMouseConfig
  | .relativeMouse => relativeMouseConfig
  | .gamepad idx => makeGamepadConfig idx

/-- The path that the writer of the function opens. -/
def writerPath : HidFunction → String
  | .keyboard => "/dev/hidg0"
  | .absoluteMouse => "/dev/hidg1"
  | .relativeMouse => "/dev/hidg2"
  | .gamepad idx => gamepadHidPath idx

/-- The number in the name of the function. -/
def number : HidFunction → Nat
  | .keyboard => 0
  | .absoluteMouse => 1
  | .relativeMouse => 2
  | .gamepad idx => 3 + idx

/-- The name of the function's directory below `functions`. -/
def name (function : HidFunction) : String := s!"hid.usb{function.number}"

theorem number_injective {first second : HidFunction}
    (same : first.number = second.number) : first = second := by
  have all : ∀ first ∈ all, ∀ second ∈ all,
      first.number = second.number → first = second := by decide
  exact all first first.mem_all second second.mem_all same

end HidFunction

/-- The device of one minor. -/
def hidgPath (minor : Nat) : String := s!"/dev/hidg{minor}"

theorem hidgPath_eq_writerPath_iff {minor : Nat} (small : minor < hidInstanceCap)
    (function : HidFunction) :
    hidgPath minor = function.writerPath ↔ minor = function.number := by
  have all : ∀ function ∈ HidFunction.all, ∀ minor < hidInstanceCap,
      hidgPath minor = function.writerPath ↔ minor = function.number := by
    decide +kernel
  exact all function function.mem_all minor small

/-! ### The kernel -/

/-- The function directories `functions/hid.*` that exist, with their
minors. -/
structure HidKernel where
  minors : List (String × Nat) := []
  deriving DecidableEq

namespace HidKernel

variable (kernel : HidKernel)

def minorOf (name : String) : Option Nat := kernel.minors.lookup name

def lowestFree : Option Nat :=
  (List.range hidInstanceCap).find? fun minor =>
    minor ∉ kernel.minors.map Prod.snd

/-- Making the directory of a function fails when no minor is free. -/
def create (name : String) : Option HidKernel :=
  if (kernel.minorOf name).isSome then some kernel
  else
    kernel.lowestFree.map fun minor =>
      { minors := kernel.minors ++ [(name, minor)] }

def remove (name : String) : HidKernel where
  minors := kernel.minors.filter fun entry => entry.1 ≠ name

end HidKernel

/-- The name of the HID function whose directory has these elements below the
directory of the gadget. -/
def hidElement : List String → Option String
  | ["functions", name] =>
      if "hid.".toList <+: name.toList then some name else none
  | _ => none

def hidFunctionName (kvmGadgetPath path : Path) : Option String :=
  if kvmGadgetPath <+: path then
    hidElement (path.drop kvmGadgetPath.length)
  else none

namespace HidKernel

/-- What one change means for the minors, or nothing when it fails. -/
def applyChange (kvmGadgetPath : Path) (kernel : HidKernel)
    (change : RequestedFileChange) : Option HidKernel :=
  match hidFunctionName kvmGadgetPath change.path with
  | none => some kernel
  | some name =>
      match change.expectedState with
      | .directory => kernel.create name
      | .absent => some (kernel.remove name)
      | _ => some kernel

/-- The loop of `applyChangesWithTimeout`. -/
def applyChanges (kvmGadgetPath : Path) :
    HidKernel → List RequestedFileChange → HidKernel
  | kernel, [] => kernel
  | kernel, change :: changes =>
      match kernel.applyChange kvmGadgetPath change with
      | some next => applyChanges kvmGadgetPath next changes
      | none =>
          if change.ignoreErrors then applyChanges kvmGadgetPath kernel changes
          else kernel

end HidKernel

/-! ### Updates -/

/-- `SetGadgetDevices` followed by `UpdateGadgetConfig`.  `configMap` is the
configuration in the order in which it is ranged over, `order` the order the
resolver gives the changes. -/
structure HidUpdate where
  devices : Devices
  udc : String
  configMap : List GadgetConfigItemWithKey
  order : List RequestedFileChange

/-- The transaction of `configureUsbGadget` at the time of its `Commit`. -/
def configuredTransaction (name udc : String) (devices : Devices)
    (items : List GadgetConfigItemWithKey) : UsbGadgetTransaction :=
  (configureUsbGadget true).calls.foldl TxCall.run
    { udc := udc
      kvmGadgetPath := joinPath gadgetPath [name]
      configC1Path := joinPath gadgetPath [name, "configs", "c.1"]
      orderedConfigItems := items
      isGadgetConfigItemEnabled := isGadgetConfigItemEnabled devices }

structure HidGadget where
  kernel : HidKernel := {}
  enabledDevices : Devices := {}

namespace HidGadget

/-- An update ends the process instead when `Commit` dereferences nil. -/
def step (name : String) (gadget : HidGadget) (update : HidUpdate) :
    Option HidGadget :=
  if update.configMap.Perm defaultGadgetConfig then
    match (configuredTransaction name update.udc update.devices
        (getOrderedConfigItems update.configMap)).commitChanges with
    | none => none
    | some changes =>
        if RequestedFileChange.OrderOf changes update.order then
          some
            { kernel := gadget.kernel.applyChanges (joinPath gadgetPath [name])
                update.order
              enabledDevices := update.devices }
        else none
  else none

/-- Every enabled function has its directory, and its writer opens the minor of
that directory. -/
def FunctionsFit (gadget : HidGadget) : Prop :=
  ∀ function : HidFunction,
    isGadgetConfigItemEnabled gadget.enabledDevices function.key →
      ∃ minor, gadget.kernel.minorOf function.name = some minor ∧
        hidgPath minor = function.writerPath

/-- The update enables only functions below the cap, each with all its
predecessors there already or enabled with it. -/
def InTurn (gadget : HidGadget) (update : HidUpdate) : Prop :=
  ∀ function : HidFunction,
    isGadgetConfigItemEnabled update.devices function.key →
      function.number < hidInstanceCap ∧
        ∀ predecessor : HidFunction, predecessor.number < function.number →
          (gadget.kernel.minorOf predecessor.name).isSome ∨
            isGadgetConfigItemEnabled update.devices predecessor.key

end HidGadget

/-! ### Creating functions -/

namespace HidKernel

variable {kernel next : HidKernel} {name other : String} {minor : Nat}

/-- Make the directories of some functions, stopping at the first failure. -/
def createAll : HidKernel → List String → HidKernel
  | kernel, [] => kernel
  | kernel, name :: names =>
      match kernel.create name with
      | some next => createAll next names
      | none => kernel

theorem minorOf_create (created : kernel.create name = some next)
    (known : kernel.minorOf other = some minor) :
    next.minorOf other = some minor := by
  unfold create at created
  split at created
  · cases created
    exact known
  · obtain ⟨free, -, rfl⟩ := Option.map_eq_some_iff.mp created
    have found : kernel.minors.lookup other = some minor := known
    simp [minorOf, List.lookup_append, found]

theorem minorOf_createAll (names : List String)
    (known : kernel.minorOf other = some minor) :
    (kernel.createAll names).minorOf other = some minor := by
  induction names generalizing kernel with
  | nil => exact known
  | cons name names ih =>
      unfold createAll
      split
      · rename_i next created
        exact ih (minorOf_create created known)
      · exact known

/-- The first functions are there, each with its own number as its minor. -/
def Dense (kernel : HidKernel) (count : Nat) : Prop :=
  count ≤ hidInstanceCap ∧
    kernel.minors = (HidFunction.all.take count).map fun function =>
      (function.name, function.number)

theorem Dense.minorOf_name {count : Nat} (dense : kernel.Dense count)
    (function : HidFunction) :
    kernel.minorOf function.name =
      if function.number < count then some function.number else none := by
  have all : ∀ function ∈ HidFunction.all, ∀ count ≤ hidInstanceCap,
      ((HidFunction.all.take count).map fun function =>
          (function.name, function.number)).lookup function.name =
        if function.number < count then some function.number else none := by
    decide +kernel
  rw [minorOf, dense.2]
  exact all function function.mem_all count dense.1

theorem Dense.create_name {count : Nat} (dense : kernel.Dense count)
    {function : HidFunction} (new : count ≤ function.number) :
    kernel.create function.name =
      if count < hidInstanceCap then
        some { minors := kernel.minors ++ [(function.name, count)] }
      else none := by
  have free : ∀ count ≤ hidInstanceCap,
      (HidKernel.mk ((HidFunction.all.take count).map fun function =>
          (function.name, function.number))).lowestFree =
        if count < hidInstanceCap then some count else none := by
    decide +kernel
  have here := free count dense.1
  rw [← dense.2] at here
  have missing : ¬ function.number < count := Nat.not_lt.mpr new
  rw [create, dense.minorOf_name, if_neg missing, here]
  by_cases room : count < hidInstanceCap <;> simp [room]

/-- The next function in turn gets its own number. -/
theorem Dense.append {count : Nat} (dense : kernel.Dense count)
    {function : HidFunction} (next : function.number = count)
    (below : count < hidInstanceCap) :
    (HidKernel.mk (kernel.minors ++ [(function.name, count)])).Dense
      (count + 1) := by
  have all : ∀ function ∈ HidFunction.all, ∀ count < hidInstanceCap,
      function.number = count →
        HidFunction.all.take (count + 1) =
          HidFunction.all.take count ++ [function] := by
    decide
  refine ⟨below, ?_⟩
  simp [all function function.mem_all count below next, dense.2, next]

/-- The function's directory is there, with the minor its writer opens. -/
def Fits (kernel : HidKernel) (function : HidFunction) : Prop :=
  ∃ minor, kernel.minorOf function.name = some minor ∧
    hidgPath minor = function.writerPath

theorem fits_iff_of_minorOf {function : HidFunction}
    (known : kernel.minorOf function.name = some minor)
    (small : minor < hidInstanceCap) :
    kernel.Fits function ↔ minor = function.number := by
  simp [Fits, known, hidgPath_eq_writerPath_iff small]

/-- The functions still to create are in turn after the first `count`. -/
def InTurnAfter (count : Nat) (functions : List HidFunction) : Prop :=
  ∀ function ∈ functions,
    function.number < hidInstanceCap ∧
      ∀ predecessor : HidFunction, predecessor.number < function.number →
        predecessor.number < count ∨ predecessor ∈ functions

theorem inTurnAfter_cons_of_lt {count : Nat} {function : HidFunction}
    {functions : List HidFunction} (there : function.number < count)
    (within : count ≤ hidInstanceCap) :
    InTurnAfter count (function :: functions) ↔
      InTurnAfter count functions := by
  unfold InTurnAfter
  rw [List.forall_mem_cons]
  constructor
  · rintro ⟨-, later⟩ other member
    refine ⟨(later other member).1, fun predecessor before => ?_⟩
    rcases (later other member).2 predecessor before with known | found
    · exact .inl known
    · rcases List.mem_cons.mp found with rfl | found
      · exact .inl there
      · exact .inr found
  · intro later
    refine ⟨⟨there.trans_le within, fun predecessor before =>
      .inl (before.trans there)⟩, fun other member => ?_⟩
    refine ⟨(later other member).1, fun predecessor before => ?_⟩
    exact ((later other member).2 predecessor before).imp_right
      (List.mem_cons_of_mem _)

theorem inTurnAfter_cons_of_eq {count : Nat} {function : HidFunction}
    {functions : List HidFunction} (next : function.number = count)
    (below : count < hidInstanceCap) :
    InTurnAfter count (function :: functions) ↔
      InTurnAfter (count + 1) functions := by
  unfold InTurnAfter
  rw [List.forall_mem_cons]
  constructor
  · rintro ⟨-, later⟩ other member
    refine ⟨(later other member).1, fun predecessor before => ?_⟩
    rcases (later other member).2 predecessor before with known | found
    · exact .inl (by omega)
    · rcases List.mem_cons.mp found with rfl | found
      · exact .inl (by omega)
      · exact .inr found
  · intro later
    refine ⟨⟨by omega, fun predecessor before => .inl (by omega)⟩,
      fun other member => ?_⟩
    refine ⟨(later other member).1, fun predecessor before => ?_⟩
    rcases (later other member).2 predecessor before with known | found
    · by_cases same : predecessor.number = count
      · obtain rfl : predecessor = function :=
          HidFunction.number_injective (same.trans next.symm)
        exact .inr List.mem_cons_self
      · exact .inl (by omega)
    · exact .inr (List.mem_cons_of_mem _ found)

/-- A function that leaves a gap, or comes after the last minor, is not in
turn. -/
theorem not_inTurnAfter_cons {count : Nat} {function : HidFunction}
    {functions : List HidFunction}
    (sorted : (function :: functions).Pairwise fun first second =>
      first.number < second.number)
    (new : count ≤ function.number)
    (gap : count ≠ function.number ∨ hidInstanceCap ≤ count) :
    ¬ InTurnAfter count (function :: functions) := by
  intro inTurn
  obtain ⟨small, predecessors⟩ := inTurn function List.mem_cons_self
  have before : count < function.number := by omega
  have all : ∀ count < hidInstanceCap,
      ∃ predecessor ∈ HidFunction.all, predecessor.number = count := by decide
  obtain ⟨predecessor, -, number⟩ := all count (by omega)
  rcases predecessors predecessor (by omega) with known | found
  · omega
  · rcases List.mem_cons.mp found with rfl | found
    · omega
    · have after := List.rel_of_pairwise_cons sorted found
      omega

/-- Creating functions in the order of their numbers gives each of them the
minor its writer opens exactly when they are in turn. -/
theorem Dense.fits_createAll_iff {count : Nat} (dense : kernel.Dense count)
    {functions : List HidFunction}
    (sorted : functions.Pairwise fun first second =>
      first.number < second.number) :
    (∀ function ∈ functions,
        (kernel.createAll (functions.map HidFunction.name)).Fits function) ↔
      InTurnAfter count functions := by
  induction functions generalizing kernel count with
  | nil => simp [InTurnAfter]
  | cons function functions ih =>
      have later := (List.pairwise_cons.mp sorted).2
      rw [List.forall_mem_cons, List.map_cons, createAll]
      by_cases there : function.number < count
      · have known : kernel.minorOf function.name = some function.number := by
          rw [dense.minorOf_name, if_pos there]
        have created : kernel.create function.name = some kernel := by
          simp [create, known]
        rw [created, inTurnAfter_cons_of_lt there dense.1, ← ih dense later]
        refine and_iff_right ?_
        have final := minorOf_createAll (functions.map HidFunction.name) known
        exact (fits_iff_of_minorOf final (there.trans_le dense.1)).mpr rfl
      · have new : count ≤ function.number := Nat.not_lt.mp there
        rw [dense.create_name new]
        by_cases room : count < hidInstanceCap
        · rw [if_pos room]
          have known :
              (HidKernel.mk (kernel.minors ++ [(function.name, count)])).minorOf
                function.name = some count := by
            have missing : kernel.minors.lookup function.name = none := by
              have := dense.minorOf_name function
              rwa [if_neg there] at this
            simp [minorOf, List.lookup_append, missing]
          have final := minorOf_createAll (functions.map HidFunction.name) known
          by_cases next : function.number = count
          · rw [inTurnAfter_cons_of_eq next room,
              ← ih (dense.append next room) later]
            exact and_iff_right ((fits_iff_of_minorOf final room).mpr next.symm)
          · have unfit := (fits_iff_of_minorOf final room).not.mpr (Ne.symm next)
            have gap := not_inTurnAfter_cons sorted new (.inl (Ne.symm next))
            exact iff_of_false (fun fits => unfit fits.1) gap
        · rw [if_neg room]
          have missing : kernel.minorOf function.name = none := by
            rw [dense.minorOf_name, if_neg there]
          have gap := not_inTurnAfter_cons sorted new (.inr (Nat.not_lt.mp room))
          refine iff_of_false (fun fits => ?_) gap
          obtain ⟨minor, known, -⟩ := fits.1
          rw [missing] at known
          cases known

/-- Functions in turn leave the kernel dense again. -/
theorem Dense.createAll {count : Nat} (dense : kernel.Dense count)
    {functions : List HidFunction}
    (sorted : functions.Pairwise fun first second =>
      first.number < second.number)
    (inTurn : InTurnAfter count functions) :
    ∃ count, (kernel.createAll (functions.map HidFunction.name)).Dense count := by
  induction functions generalizing kernel count with
  | nil => exact ⟨count, dense⟩
  | cons function functions ih =>
      have later := (List.pairwise_cons.mp sorted).2
      rw [List.map_cons, HidKernel.createAll]
      by_cases there : function.number < count
      · have created : kernel.create function.name = some kernel := by
          simp [create, dense.minorOf_name, there]
        rw [created]
        exact ih dense later ((inTurnAfter_cons_of_lt there dense.1).mp inTurn)
      · have new : count ≤ function.number := Nat.not_lt.mp there
        have noGap : ¬ (count ≠ function.number ∨ hidInstanceCap ≤ count) :=
          fun gap => not_inTurnAfter_cons sorted new gap inTurn
        have next : function.number = count := by omega
        have room : count < hidInstanceCap := by omega
        rw [dense.create_name new, if_pos room]
        exact ih (dense.append next room) later
          ((inTurnAfter_cons_of_eq next room).mp inTurn)

end HidKernel

/-! ### The directories an update asks for -/

section Directories

variable (kvmGadgetPath : Path)

/-- The change makes or removes the directory of a HID function. -/
def Renumbers (change : RequestedFileChange) : Prop :=
  (change.expectedState = .directory ∨ change.expectedState = .absent) ∧
    (hidFunctionName kvmGadgetPath change.path).isSome

instance (change : RequestedFileChange) :
    Decidable (Renumbers kvmGadgetPath change) :=
  inferInstanceAs (Decidable (_ ∧ _))

def renumbering (changes : List RequestedFileChange) :
    List RequestedFileChange :=
  changes.filter fun change => Renumbers kvmGadgetPath change

@[simp]
theorem renumbering_append (changes more : List RequestedFileChange) :
    renumbering kvmGadgetPath (changes ++ more) =
      renumbering kvmGadgetPath changes ++ renumbering kvmGadgetPath more :=
  List.filter_append ..

theorem renumbering_eq_nil {changes : List RequestedFileChange}
    (never : ∀ change ∈ changes, ¬ Renumbers kvmGadgetPath change) :
    renumbering kvmGadgetPath changes = [] := by
  simpa [renumbering] using never

@[simp]
theorem hidFunctionName_joinPath (elements : List String) :
    hidFunctionName kvmGadgetPath (joinPath kvmGadgetPath elements) =
      hidElement elements := by
  simp [hidFunctionName, joinPath]

theorem hidElement_configs (elements : List String) :
    hidElement ("configs" :: elements) = none := by
  unfold hidElement
  split
  · rename_i same
    simp at same
  · rfl

theorem hidElement_report_desc (elements : List String) :
    hidElement (elements ++ ["report_desc"]) = none := by
  unfold hidElement
  split
  · rename_i name same
    have last := congrArg List.getLast? same
    obtain rfl : "report_desc" = name := by simpa using last
    decide
  · rfl

/-- The path is none of a HID function's directory if it is in the directory of
the configuration. -/
theorem hidFunctionName_config (elements : List String) :
    hidFunctionName kvmGadgetPath
        (joinPath (joinPath kvmGadgetPath ["configs", "c.1"]) elements) =
      none := by
  have same : joinPath (joinPath kvmGadgetPath ["configs", "c.1"]) elements =
      joinPath kvmGadgetPath ("configs" :: "c.1" :: elements) := by
    simp [joinPath]
  rw [same, hidFunctionName_joinPath, hidElement_configs]

theorem applyChange_of_not_renumbers {change : RequestedFileChange}
    (other : ¬ Renumbers kvmGadgetPath change) (kernel : HidKernel) :
    kernel.applyChange kvmGadgetPath change = some kernel := by
  unfold HidKernel.applyChange
  split
  · rfl
  · rename_i name found
    split
    · rename_i directory
      exact absurd ⟨.inl directory, by simp [found]⟩ other
    · rename_i absent
      exact absurd ⟨.inr absent, by simp [found]⟩ other
    · rfl

/-- The other changes leave the minors alone. -/
theorem applyChanges_renumbering (changes : List RequestedFileChange)
    (kernel : HidKernel) :
    kernel.applyChanges kvmGadgetPath (renumbering kvmGadgetPath changes) =
      kernel.applyChanges kvmGadgetPath changes := by
  induction changes generalizing kernel with
  | nil => rfl
  | cons change changes ih =>
      by_cases renumbers : Renumbers kvmGadgetPath change
      · have kept : renumbering kvmGadgetPath (change :: changes) =
            change :: renumbering kvmGadgetPath changes := by
          simp [renumbering, renumbers]
        rw [kept, HidKernel.applyChanges, HidKernel.applyChanges]
        simp only [ih]
      · have dropped : renumbering kvmGadgetPath (change :: changes) =
            renumbering kvmGadgetPath changes := by
          simp [renumbering, renumbers]
        rw [dropped, ih, HidKernel.applyChanges,
          applyChange_of_not_renumbers kvmGadgetPath renumbers]

/-- A list of changes that make the directories of these functions, each one
after those before it. -/
structure MakesDirectories (names : List String)
    (directories : List RequestedFileChange) : Prop where
  paths : directories.map RequestedFileChange.path =
    names.map fun name => joinPath kvmGadgetPath ["functions", name]
  hid : ∀ name ∈ names, "hid.".toList <+: name.toList
  directory : ∀ change ∈ directories, change.expectedState = .directory
  strict : ∀ change ∈ directories, change.ignoreErrors = false
  unconditional : ∀ change ∈ directories, change.when = ""
  chained : directories.Pairwise fun earlier later =>
    earlier.resolvedKey ∈ later.dependsOn

theorem MakesDirectories.cons {names : List String}
    {directories : List RequestedFileChange}
    (makes : MakesDirectories kvmGadgetPath names directories) {name : String}
    (hid : "hid.".toList <+: name.toList) (component description : String)
    (deps : List String)
    (after : ∀ change ∈ directories,
      pathText (joinPath kvmGadgetPath ["functions", name]) ∈ change.dependsOn) :
    MakesDirectories kvmGadgetPath (name :: names)
      (UsbGadgetTransaction.directoryChange component
        (joinPath kvmGadgetPath ["functions", name]) description deps ::
          directories) where
  paths := by
    rw [List.map_cons, List.map_cons, makes.paths]
    rfl
  hid := List.forall_mem_cons.mpr ⟨hid, makes.hid⟩
  directory := List.forall_mem_cons.mpr ⟨rfl, makes.directory⟩
  strict := List.forall_mem_cons.mpr ⟨rfl, makes.strict⟩
  unconditional := List.forall_mem_cons.mpr ⟨rfl, makes.unconditional⟩
  chained := List.pairwise_cons.mpr ⟨after, makes.chained⟩

theorem MakesDirectories.nodup {names : List String}
    {directories : List RequestedFileChange}
    (makes : MakesDirectories kvmGadgetPath names directories)
    (distinct : names.Nodup) : directories.Nodup := by
  apply List.Nodup.of_map RequestedFileChange.path
  rw [makes.paths]
  refine distinct.map fun first second same => ?_
  simpa [joinPath] using same

theorem MakesDirectories.applyChanges {names : List String}
    {directories : List RequestedFileChange}
    (makes : MakesDirectories kvmGadgetPath names directories)
    (kernel : HidKernel) :
    kernel.applyChanges kvmGadgetPath directories = kernel.createAll names := by
  obtain ⟨paths, hid, directory, strict, -, -⟩ := makes
  induction directories generalizing names kernel with
  | nil =>
      obtain rfl : names = [] := by simpa using paths.symm
      rfl
  | cons change changes ih =>
      obtain ⟨name, names, rfl, pathHere, pathsLater⟩ :
          ∃ name rest, names = name :: rest ∧
            change.path = joinPath kvmGadgetPath ["functions", name] ∧
            changes.map RequestedFileChange.path =
              rest.map fun name => joinPath kvmGadgetPath ["functions", name] := by
        cases names with
        | nil => simp at paths
        | cons name rest =>
            simp only [List.map_cons, List.cons.injEq] at paths
            exact ⟨name, rest, rfl, paths.1, paths.2⟩
      rw [List.forall_mem_cons] at hid directory strict
      have element : hidElement ["functions", name] = some name := if_pos hid.1
      have here : kernel.applyChange kvmGadgetPath change = kernel.create name := by
        simp [HidKernel.applyChange, pathHere, element, directory.1]
      rw [HidKernel.applyChanges, HidKernel.createAll, here]
      cases kernel.create name with
      | none => simp [strict.1]
      | some next => exact ih next pathsLater hid.2 directory.2 strict.2

theorem not_renumbers_of_state {change : RequestedFileChange}
    (directory : change.expectedState ≠ .directory)
    (absent : change.expectedState ≠ .absent) :
    ¬ Renumbers kvmGadgetPath change := by
  rintro ⟨state | state, -⟩
  · exact directory state
  · exact absent state

theorem not_renumbers_of_path {change : RequestedFileChange}
    (elsewhere : hidFunctionName kvmGadgetPath change.path = none) :
    ¬ Renumbers kvmGadgetPath change := by
  rintro ⟨-, found⟩
  simp [elsewhere] at found

end Directories

section Asked

variable (tx : UsbGadgetTransaction)

@[simp]
theorem renumbering_attrChanges (kvmGadgetPath basePath : Path)
    (attrs : GadgetAttributes) (component : String)
    (beforeChange : List String) :
    renumbering kvmGadgetPath
        (UsbGadgetTransaction.attrChanges basePath attrs component beforeChange) =
      [] := by
  apply renumbering_eq_nil
  intro change asked
  obtain ⟨attr, -, rfl⟩ := List.mem_map.mp asked
  apply not_renumbers_of_state <;> simp [UsbGadgetTransaction.attrChange,
    RequestedFileChange.ownedBy]

@[simp]
theorem renumbering_reportDescChange (item : GadgetConfigItem)
    (beforeChange files : List String) :
    renumbering tx.kvmGadgetPath
        [(tx.reportDescChange item beforeChange files).ownedBy item.device] =
      [] := by
  apply renumbering_eq_nil
  intro change asked
  obtain rfl := List.mem_singleton.mp asked
  apply not_renumbers_of_path
  have elements : joinPath (joinPath tx.kvmGadgetPath item.path) ["report_desc"] =
      joinPath tx.kvmGadgetPath (item.path ++ ["report_desc"]) := by
    simp [joinPath]
  have path : ((tx.reportDescChange item beforeChange files).ownedBy
      item.device).path =
        joinPath (joinPath tx.kvmGadgetPath item.path) ["report_desc"] := by
    unfold UsbGadgetTransaction.reportDescChange
    cases item.reportDesc <;> rfl
  rw [path, elements, hidFunctionName_joinPath, hidElement_report_desc]

theorem renumbering_configChanges (item : GadgetConfigItem)
    (beforeChange files : List String)
    (config : tx.configC1Path = joinPath tx.kvmGadgetPath ["configs", "c.1"]) :
    renumbering tx.kvmGadgetPath (tx.configChanges item beforeChange files) =
      [] := by
  unfold UsbGadgetTransaction.configChanges
  split
  · rw [renumbering_append, renumbering_attrChanges, List.append_nil]
    apply renumbering_eq_nil
    intro change asked
    unfold UsbGadgetTransaction.directoryBelow at asked
    split at asked
    · obtain rfl := List.mem_singleton.mp asked
      apply not_renumbers_of_path
      simp only [UsbGadgetTransaction.directoryChange, config]
      exact hidFunctionName_config tx.kvmGadgetPath _
    · cases asked
  · rfl

theorem renumbering_addFileChange {kvmGadgetPath : Path} (component : String)
    {change : RequestedFileChange} (other : ¬ Renumbers kvmGadgetPath change) :
    renumbering kvmGadgetPath (tx.addFileChange component change).1.c =
      renumbering kvmGadgetPath tx.c := by
  rw [UsbGadgetTransaction.addFileChange_eq, UsbGadgetTransaction.c_adding,
    renumbering_append, List.append_right_eq_self]
  apply renumbering_eq_nil
  intro asked member
  obtain rfl := List.mem_singleton.mp member
  exact other

/-- The directory of an item, when it is a HID function. -/
def hidDirectory (item : GadgetConfigItem) (deps : List String) :
    List RequestedFileChange :=
  if (hidElement item.path).isSome then
    [UsbGadgetTransaction.directoryChange item.device
      (joinPath tx.kvmGadgetPath item.path) "create gadget item directory" deps]
  else []

theorem renumbering_filesOf (item : GadgetConfigItem) (deps : List String)
    (config : tx.configC1Path = joinPath tx.kvmGadgetPath ["configs", "c.1"]) :
    renumbering tx.kvmGadgetPath (tx.filesOf item deps) =
      hidDirectory tx item deps := by
  have directory : renumbering tx.kvmGadgetPath
      (UsbGadgetTransaction.directoryBelow item tx.kvmGadgetPath
        (joinPath tx.kvmGadgetPath item.path) "create gadget item directory"
        deps) = hidDirectory tx item deps := by
    unfold UsbGadgetTransaction.directoryBelow hidDirectory
    by_cases hid : (hidElement item.path).isSome
    · have below : joinPath tx.kvmGadgetPath item.path ≠ tx.kvmGadgetPath := by
        intro own
        have empty : item.path = [] := by simpa [joinPath] using own
        simp [empty, hidElement] at hid
      simp [renumbering, Renumbers, UsbGadgetTransaction.directoryChange, below,
        hid]
    · split <;> simp [renumbering, Renumbers,
        UsbGadgetTransaction.directoryChange, hid]
  simp only [UsbGadgetTransaction.filesOf, UsbGadgetTransaction.itemChanges,
    renumbering_append, renumbering_attrChanges, renumbering_reportDescChange,
    renumbering_configChanges tx item _ _ config, directory, List.append_nil]

theorem hidElement_eq_some {elements : List String} {name : String}
    (hid : hidElement elements = some name) :
    elements = ["functions", name] ∧ "hid.".toList <+: name.toList := by
  unfold hidElement at hid
  split at hid
  · rename_i found
    split at hid
    · rename_i named
      cases hid
      exact ⟨rfl, named⟩
    · cases hid
  · cases hid

theorem not_renumbers_of_config
    (change : RequestedFileChange) (elements : List String)
    (config : tx.configC1Path = joinPath tx.kvmGadgetPath ["configs", "c.1"])
    (path : change.path = joinPath tx.configC1Path elements) :
    ¬ Renumbers tx.kvmGadgetPath change := by
  apply not_renumbers_of_path
  rw [path, config]
  exact hidFunctionName_config tx.kvmGadgetPath elements

theorem renumbering_disableGadgetItemConfig (item : GadgetConfigItem)
    (config : tx.configC1Path = joinPath tx.kvmGadgetPath ["configs", "c.1"]) :
    renumbering tx.kvmGadgetPath (tx.disableGadgetItemConfig item).c =
      renumbering tx.kvmGadgetPath tx.c := by
  unfold UsbGadgetTransaction.disableGadgetItemConfig
  split
  · rfl
  · rename_i configPath _
    exact renumbering_addFileChange tx _
      (not_renumbers_of_config tx _ configPath config rfl)

theorem renumbering_createSymlink (item : GadgetConfigItem)
    (files : List String)
    (config : tx.configC1Path = joinPath tx.kvmGadgetPath ["configs", "c.1"]) :
    renumbering tx.kvmGadgetPath (tx.createSymlink item files).c =
      renumbering tx.kvmGadgetPath tx.c := by
  unfold UsbGadgetTransaction.createSymlink
  split
  · rename_i configPath _ _
    exact renumbering_addFileChange tx _
      (not_renumbers_of_config tx _ configPath config rfl)
  · rfl

/-- The HID functions among the enabled items. -/
def hidNames (isEnabled : String → Bool) (items : List GadgetConfigItemWithKey) :
    List String :=
  (items.filter fun val => isEnabled val.key).filterMap fun val =>
    hidElement val.item.path

/-- The loop of `WriteGadgetConfig` asks for the directories of the enabled HID
functions, one after the other. -/
theorem exists_renumbering_foldl (deps : List String)
    (items : List GadgetConfigItemWithKey)
    (config : tx.configC1Path = joinPath tx.kvmGadgetPath ["configs", "c.1"]) :
    ∃ directories,
      renumbering tx.kvmGadgetPath
          (items.foldl UsbGadgetTransaction.writeOrDisable (tx, deps)).1.c =
        renumbering tx.kvmGadgetPath tx.c ++ directories ∧
      MakesDirectories tx.kvmGadgetPath
        (hidNames tx.isGadgetConfigItemEnabled items) directories ∧
      ∀ change ∈ directories, ∀ key ∈ deps, key ∈ change.dependsOn := by
  induction items generalizing tx deps with
  | nil =>
      refine ⟨[], by simp, ⟨rfl, ?_, ?_, ?_, ?_, List.Pairwise.nil⟩, ?_⟩ <;>
        simp [hidNames]
  | cons val items ih =>
      have same := tx.sameGadget_writeOrDisable deps val
      rw [List.foldl_cons]
      cases enabled : tx.isGadgetConfigItemEnabled val.key with
      | false =>
          have written : UsbGadgetTransaction.writeOrDisable (tx, deps) val =
              (tx.disableGadgetItemConfig val.item, deps) := by
            simp [UsbGadgetTransaction.writeOrDisable, enabled]
          have names : hidNames tx.isGadgetConfigItemEnabled (val :: items) =
              hidNames tx.isGadgetConfigItemEnabled items := by
            simp [hidNames, enabled]
          rw [written] at same ⊢
          obtain ⟨directories, asked, makes, after⟩ :=
            ih (tx.disableGadgetItemConfig val.item) deps
              (by rw [same.configC1Path, same.kvmGadgetPath, config])
          rw [same.kvmGadgetPath] at asked makes
          rw [renumbering_disableGadgetItemConfig tx val.item config] at asked
          rw [same.isGadgetConfigItemEnabled] at makes
          exact ⟨directories, asked, names ▸ makes, after⟩
      | true =>
          let added := tx.filesOf val.item deps
          let files := deps ++ added.map RequestedFileChange.resolvedKey
          have written : UsbGadgetTransaction.writeOrDisable (tx, deps) val =
              ((tx.adding added).createSymlink val.item files, files) := by
            simp [UsbGadgetTransaction.writeOrDisable, enabled,
              UsbGadgetTransaction.writeGadgetItemConfig_eq, added, files]
          have here : renumbering tx.kvmGadgetPath
              ((tx.adding added).createSymlink val.item files).c =
                renumbering tx.kvmGadgetPath tx.c ++
                  hidDirectory tx val.item deps := by
            rw [← renumbering_filesOf tx val.item deps config,
              ← renumbering_append, ← UsbGadgetTransaction.c_adding]
            exact renumbering_createSymlink (tx.adding added) val.item files config
          rw [written] at same ⊢
          obtain ⟨directories, asked, makes, after⟩ :=
            ih ((tx.adding added).createSymlink val.item files) files
              (by rw [same.configC1Path, same.kvmGadgetPath, config])
          rw [same.kvmGadgetPath] at asked makes
          rw [here, List.append_assoc] at asked
          rw [same.isGadgetConfigItemEnabled] at makes
          refine ⟨_, asked, ?_, ?_⟩
          · cases hid : hidElement val.item.path with
            | none => simpa [hidDirectory, hidNames, enabled, hid] using makes
            | some name =>
                obtain ⟨path, named⟩ := hidElement_eq_some hid
                have directory : hidDirectory tx val.item deps =
                    [UsbGadgetTransaction.directoryChange val.item.device
                      (joinPath tx.kvmGadgetPath ["functions", name])
                      "create gadget item directory" deps] := by
                  have isHid : (hidElement val.item.path).isSome := by simp [hid]
                  rw [hidDirectory, if_pos isHid, path]
                have names : hidNames tx.isGadgetConfigItemEnabled (val :: items) =
                    name :: hidNames tx.isGadgetConfigItemEnabled items := by
                  simp [hidNames, enabled, hid]
                have asked : UsbGadgetTransaction.directoryChange val.item.device
                    (joinPath tx.kvmGadgetPath ["functions", name])
                    "create gadget item directory" deps ∈ added := by
                  have found := renumbering_filesOf tx val.item deps config
                  rw [directory] at found
                  exact List.mem_of_mem_filter (found ▸ List.mem_cons_self)
                rw [names, directory, List.singleton_append]
                refine makes.cons _ named _ _ _ fun change later => ?_
                refine after change later _ ?_
                exact List.mem_append_right _ (List.mem_map_of_mem asked)
          · intro change member key known
            rcases List.mem_append.mp member with first | later
            · unfold hidDirectory at first
              split at first
              · obtain rfl := List.mem_singleton.mp first
                exact known
              · cases first
            · exact after change later key (List.mem_append_left _ known)

theorem not_renumbers_configFSPath (name : String)
    (change : RequestedFileChange) (path : change.path = configFSPath) :
    ¬ Renumbers (joinPath gadgetPath [name]) change := by
  apply not_renumbers_of_path
  rw [path, hidFunctionName, if_neg]
  intro within
  have := within.length_le
  simp [joinPath, gadgetPath, configFSPath] at this

/-- The whole transaction asks for the directories of the enabled HID functions,
in the order of the items. -/
theorem makesDirectories_commitChanges (name udc : String) (devices : Devices)
    (items : List GadgetConfigItemWithKey) {changes : List RequestedFileChange}
    (commits :
      (configuredTransaction name udc devices items).commitChanges =
        some changes) :
    MakesDirectories (joinPath gadgetPath [name])
      (hidNames (isGadgetConfigItemEnabled devices) items)
      (renumbering (joinPath gadgetPath [name]) changes) := by
  obtain ⟨reorder, collected, rfl⟩ := Option.map_eq_some_iff.mp commits
  let start : UsbGadgetTransaction :=
    { udc := udc
      kvmGadgetPath := joinPath gadgetPath [name]
      configC1Path := joinPath gadgetPath [name, "configs", "c.1"]
      orderedConfigItems := items
      isGadgetConfigItemEnabled := isGadgetConfigItemEnabled devices }
  let opened := (start.mountConfigFS).createConfigPath
  have reorders : opened.ReordersConfig := by
    intro change asked
    cases asked
  have config : opened.configC1Path =
      joinPath opened.kvmGadgetPath ["configs", "c.1"] := by
    rfl
  have final : configuredTransaction name udc devices items =
      (opened.writeGadgetConfig).rebindUsb true := rfl
  have kept : opened.writeGadgetConfig.reorderSymlinkChanges = some reorder :=
    collected
  have state := (reorders.writeGadgetConfig reorder kept).1
  let ready := (opened.mkdirAll "gadget" opened.kvmGadgetPath
    "create kvm gadget path" [pathText opened.configC1Path]).1
  have before : renumbering (joinPath gadgetPath [name]) ready.c = [] := by
    have gadget : ¬ Renumbers (joinPath gadgetPath [name])
        { path := joinPath gadgetPath [name]
          expectedState := .directory
          description := "create kvm gadget path"
          dependsOn := [pathText opened.configC1Path] } :=
      not_renumbers_of_path _
        (hidFunctionName_joinPath (joinPath gadgetPath [name]) [])
    have configuration : ¬ Renumbers (joinPath gadgetPath [name])
        { path := joinPath gadgetPath [name, "configs", "c.1"]
          expectedState := .directory
          description := "create config path"
          dependsOn := [pathText configFSPath] } :=
      not_renumbers_of_path _
        (hidFunctionName_joinPath (joinPath gadgetPath [name]) ["configs", "c.1"])
    have mount := not_renumbers_configFSPath name
      { path := configFSPath
        expectedState := .mountedConfigFS
        description := "mount configfs" } rfl
    calc renumbering (joinPath gadgetPath [name]) ready.c
      _ = renumbering (joinPath gadgetPath [name]) opened.c :=
          renumbering_addFileChange opened _ gadget
      _ = renumbering (joinPath gadgetPath [name]) start.mountConfigFS.c :=
          renumbering_addFileChange start.mountConfigFS _ configuration
      _ = [] := renumbering_addFileChange start _ mount
  obtain ⟨directories, asked, makes, -⟩ := exists_renumbering_foldl ready
    [pathText opened.kvmGadgetPath] items config
  let folded := (items.foldl UsbGadgetTransaction.writeOrDisable
    (ready, [pathText opened.kvmGadgetPath])).1
  have written : ∀ (tx : UsbGadgetTransaction) (component : String)
      (change : RequestedFileChange),
      change.expectedState ∉ [.directory, .absent] →
        renumbering (joinPath gadgetPath [name])
            (tx.addFileChange component change).1.c =
          renumbering (joinPath gadgetPath [name]) tx.c := by
    intro tx component change other
    simp only [List.mem_cons, List.not_mem_nil, or_false, not_or] at other
    exact renumbering_addFileChange tx component
      (not_renumbers_of_state _ other.1 other.2)
  have whole : renumbering (joinPath gadgetPath [name])
      ((configuredTransaction name udc devices items).addFileChange
        "gadget-finalize" reorder).1.c = directories := by
    rw [written _ _ _ (by simp [state]), final, UsbGadgetTransaction.rebindUsb]
    simp only
    rw [written _ _ _ (by simp), written _ _ _ (by simp)]
    calc renumbering (joinPath gadgetPath [name]) opened.writeGadgetConfig.c
      _ = renumbering (joinPath gadgetPath [name]) folded.c :=
          written folded _ _ (by simp)
      _ = renumbering (joinPath gadgetPath [name]) ready.c ++ directories := asked
      _ = directories := by rw [before, List.nil_append]
  rw [whole]
  exact makes

end Asked

/-- Every order in which the changes may be applied makes the directories in the
order in which they are asked for. -/
theorem renumbering_of_orderOf {kvmGadgetPath : Path} {names : List String}
    {changes order : List RequestedFileChange}
    (makes : MakesDirectories kvmGadgetPath names
      (renumbering kvmGadgetPath changes))
    (distinct : names.Nodup)
    (ordered : RequestedFileChange.OrderOf changes order) :
    renumbering kvmGadgetPath order = renumbering kvmGadgetPath changes := by
  obtain ⟨perm, within, first⟩ := ordered
  have unconditional : ∀ list : List RequestedFileChange,
      (∀ change ∈ list, change ∈ changes) →
        renumbering kvmGadgetPath (RequestedFileChange.unconditional list) =
          renumbering kvmGadgetPath list := by
    intro list within
    unfold renumbering RequestedFileChange.unconditional
    rw [List.filter_filter]
    refine List.filter_congr fun change member => ?_
    by_cases renumbers : Renumbers kvmGadgetPath change
    · have asked : change ∈ renumbering kvmGadgetPath changes :=
        List.mem_filter.mpr ⟨within change member, by simpa using renumbers⟩
      simp [makes.unconditional change asked]
    · simp [renumbers]
  have same : (renumbering kvmGadgetPath order).Perm
      (renumbering kvmGadgetPath changes) := by
    rw [← unconditional order within,
      ← unconditional changes fun change member => member]
    exact perm.filter _
  exact RequestedFileChange.eq_of_perm_of_chained
    (first.sublist List.filter_sublist) (makes.nodup _ distinct) makes.chained same

/-! ### The functions of a device set -/

def enabledFunctions (devices : Devices) : List HidFunction :=
  HidFunction.all.filter fun function =>
    isGadgetConfigItemEnabled devices function.key

theorem mem_enabledFunctions {devices : Devices} {function : HidFunction} :
    function ∈ enabledFunctions devices ↔
      isGadgetConfigItemEnabled devices function.key := by
  simp [enabledFunctions, function.mem_all]

theorem sorted_enabledFunctions (devices : Devices) :
    (enabledFunctions devices).Pairwise fun first second =>
      first.number < second.number := by
  have sorted : HidFunction.all.Pairwise fun first second =>
      first.number < second.number := by decide
  exact sorted.sublist List.filter_sublist

theorem nodup_names_enabledFunctions (devices : Devices) :
    ((enabledFunctions devices).map HidFunction.name).Nodup := by
  have distinct : (HidFunction.all.map HidFunction.name).Nodup := by
    decide +kernel
  exact distinct.sublist (List.filter_sublist.map _)

theorem hidElement_item (function : HidFunction) :
    hidElement function.item.path = some function.name := by
  have all : ∀ function ∈ HidFunction.all,
      hidElement function.item.path = some function.name := by decide +kernel
  exact all function function.mem_all

theorem hidNames_filter (isEnabled : String → Bool)
    (items : List GadgetConfigItemWithKey) :
    hidNames isEnabled
        (items.filter fun val => (hidElement val.item.path).isSome) =
      hidNames isEnabled items := by
  simp only [hidNames, List.filterMap_filter]
  refine List.filterMap_congr fun val _ => ?_
  cases hidElement val.item.path <;> simp

/-- However the configuration is ranged over, its HID functions come in the
order of their numbers. -/
theorem hidNames_getOrderedConfigItems
    {configMap : List GadgetConfigItemWithKey}
    (perm : configMap.Perm defaultGadgetConfig) (devices : Devices) :
    hidNames (isGadgetConfigItemEnabled devices)
        (getOrderedConfigItems configMap) =
      (enabledFunctions devices).map HidFunction.name := by
  let entry : HidFunction → GadgetConfigItemWithKey := fun function =>
    ⟨function.key, function.item⟩
  let isHid : GadgetConfigItemWithKey → Bool := fun val =>
    (hidElement val.item.path).isSome
  let notAfter : GadgetConfigItemWithKey → GadgetConfigItemWithKey → Prop :=
    fun first second => first.item.order ≤ second.item.order
  have inDefault : defaultGadgetConfig.filter isHid = HidFunction.all.map entry := by
    decide +kernel
  have samePerm : ((getOrderedConfigItems configMap).filter isHid).Perm
      (HidFunction.all.map entry) := by
    rw [← inDefault]
    exact ((List.mergeSort_perm _ _).trans perm).filter _
  have distinct : ∀ first ∈ HidFunction.all.map entry,
      ∀ second ∈ HidFunction.all.map entry,
        first.item.order ≤ second.item.order →
          second.item.order ≤ first.item.order → first = second := by
    decide +kernel
  have ordered : (getOrderedConfigItems configMap).Pairwise notAfter := by
    refine (List.pairwise_mergeSort ?_ ?_ configMap).imp ?_
    · intro first second third before after
      simp only [decide_eq_true_eq] at before after ⊢
      omega
    · intro first second
      simp only [Bool.or_eq_true, decide_eq_true_eq]
      omega
    · intro first second before
      simpa using before
  have inOrder : (getOrderedConfigItems configMap).filter isHid =
      HidFunction.all.map entry := by
    refine @List.Perm.eq_of_pairwise _ notAfter _ _ ?_
      (ordered.sublist List.filter_sublist) (by decide) samePerm
    intro first second firstIn secondIn
    exact distinct first (samePerm.mem_iff.mp firstIn) second secondIn
  rw [← hidNames_filter, inOrder, hidNames, List.filter_map, List.filterMap_map,
    enabledFunctions]
  rw [← List.filterMap_eq_map]
  exact List.filterMap_congr fun function _ => hidElement_item function

/-! ### Runs of updates -/

namespace HidGadget

open LabelledRuns

variable {name : String} {gadget next : HidGadget} {update : HidUpdate}

theorem step_isSome {changes : List RequestedFileChange}
    (perm : update.configMap.Perm defaultGadgetConfig)
    (commits : (configuredTransaction name update.udc update.devices
      (getOrderedConfigItems update.configMap)).commitChanges = some changes)
    (ordered : RequestedFileChange.OrderOf changes update.order) :
    (step name gadget update).isSome := by
  simp [step, perm, commits, ordered]

/-- An update makes the directories of the enabled functions, in the order of
their numbers. -/
theorem step_eq (taken : step name gadget update = some next) :
    next =
      { kernel := gadget.kernel.createAll
          ((enabledFunctions update.devices).map HidFunction.name)
        enabledDevices := update.devices } := by
  unfold step at taken
  split at taken
  · rename_i perm
    split at taken
    · cases taken
    · rename_i changes commits
      split at taken
      · rename_i ordered
        have makes := makesDirectories_commitChanges name update.udc
          update.devices _ commits
        rw [hidNames_getOrderedConfigItems perm] at makes
        have inOrder := renumbering_of_orderOf makes
          (nodup_names_enabledFunctions update.devices) ordered
        have applied : gadget.kernel.applyChanges (joinPath gadgetPath [name])
            update.order =
              gadget.kernel.createAll
                ((enabledFunctions update.devices).map HidFunction.name) := by
          rw [← applyChanges_renumbering, inOrder, makes.applyChanges]
        rw [applied] at taken
        exact (Option.some.inj taken).symm
      · cases taken
  · cases taken

theorem functionsFit_iff :
    gadget.FunctionsFit ↔
      ∀ function ∈ enabledFunctions gadget.enabledDevices,
        gadget.kernel.Fits function := by
  simp only [FunctionsFit, mem_enabledFunctions, HidKernel.Fits]

theorem inTurn_iff {count : Nat} (dense : gadget.kernel.Dense count) :
    gadget.InTurn update ↔
      HidKernel.InTurnAfter count (enabledFunctions update.devices) := by
  have known : ∀ function : HidFunction,
      (gadget.kernel.minorOf function.name).isSome ↔
        function.number < count := by
    intro function
    rw [dense.minorOf_name]
    split <;> simp [*]
  simp only [InTurn, HidKernel.InTurnAfter, mem_enabledFunctions, known]

/-- After every update of a run each enabled function has its directory and its
writer the right path, exactly when every update enables functions in turn. -/
theorem functionsFit_iff_inTurn (name : String) (updates : List HidUpdate) :
    AllStates (step name) FunctionsFit {} updates ↔
      AllSteps (step name) InTurn {} updates := by
  refine @allStates_iff_allSteps HidGadget HidUpdate (step name)
    (fun gadget => (∃ count, gadget.kernel.Dense count) ∧ gadget.FunctionsFit)
    FunctionsFit InTurn (fun both => both.2) ?_ ?_ {} ?_ updates
  · rintro gadget next update ⟨⟨count, dense⟩, -⟩ inTurn taken
    have sorted := sorted_enabledFunctions update.devices
    rw [inTurn_iff dense] at inTurn
    obtain rfl := step_eq taken
    refine ⟨dense.createAll sorted inTurn, functionsFit_iff.mpr ?_⟩
    exact (dense.fits_createAll_iff sorted).mpr inTurn
  · rintro gadget next update ⟨⟨count, dense⟩, -⟩ taken fit
    have sorted := sorted_enabledFunctions update.devices
    obtain rfl := step_eq taken
    rw [inTurn_iff dense]
    exact (dense.fits_createAll_iff sorted).mp (functionsFit_iff.mp fit)
  · refine ⟨⟨0, by decide, rfl⟩, ?_⟩
    have none : ∀ function ∈ HidFunction.all,
        isGadgetConfigItemEnabled {} function.key = false := by decide +kernel
    intro function enabled
    rw [none function function.mem_all] at enabled
    cases enabled

/-- With only the absolute mouse enabled its function gets the minor of the
keyboard. -/
theorem absoluteMouseOnly_not_functionsFit :
    ¬ ∀ (name : String) (updates : List HidUpdate),
      AllStates (step name) FunctionsFit {} updates := by
  intro always
  let items := defaultGadgetConfig.take 5 ++ defaultGadgetConfig.drop 9 ++
    (defaultGadgetConfig.drop 5).take 4
  let changes := ((configuredTransaction "jetkvm" "ffb00000.usb"
    { absoluteMouse := true } items).commitChanges).getD []
  let update : HidUpdate :=
    { devices := { absoluteMouse := true }
      udc := "ffb00000.usb"
      configMap := items
      order := changes.filter (fun change => change.component ≠ "udc") ++
        changes.filter fun change => change.component = "udc" }
  have inOrder : getOrderedConfigItems items = items :=
    List.mergeSort_of_pairwise (by decide)
  have commits : (configuredTransaction "jetkvm" update.udc update.devices
      (getOrderedConfigItems update.configMap)).commitChanges = some changes := by
    have isSome : ((configuredTransaction "jetkvm" update.udc update.devices
        items).commitChanges).isSome := by decide +kernel
    obtain ⟨found, commits⟩ := Option.isSome_iff_exists.mp isSome
    rw [inOrder, commits]
    exact congrArg some (congrArg (Option.getD · []) commits).symm
  have permuted : update.order.Perm changes := by
    simpa [update] using
      changes.filter_append_perm fun change => change.component ≠ "udc"
  have ordered : RequestedFileChange.OrderOf changes update.order :=
    ⟨permuted.filter _, fun change member => permuted.subset member,
      by decide +kernel⟩
  have taken : (step "jetkvm" {} update).isSome :=
    step_isSome (by decide +kernel) commits ordered
  obtain ⟨next, taken⟩ := Option.isSome_iff_exists.mp taken
  have fits := ((always "jetkvm" [update]).2 next taken).first
  obtain rfl := step_eq taken
  have minor : ((HidKernel.mk []).createAll
      ((enabledFunctions update.devices).map HidFunction.name)).minorOf
        HidFunction.absoluteMouse.name = some 0 := by decide +kernel
  obtain ⟨other, known, path⟩ := fits .absoluteMouse (by decide)
  obtain rfl : 0 = other := Option.some.inj (minor.symm.trans known)
  exact absurd path (by decide)

end HidGadget

end UsbGadget

end JetKvm
