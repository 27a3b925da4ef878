import JetKvm.FallibleCalls
import JetKvm.ImagesFolder
import JetKvm.LabelledRuns

/-!
# Virtual media

The calls of `usb_mass_storage.go` that mount and unmount an image: what is
recorded in `currentVirtualMediaState`, and what the `file` attribute of the
mass storage function holds.  Every operation outside may fail.
-/

namespace JetKvm

namespace VirtualMedia

open LabelledRuns

inductive VirtualMediaSource where
  | HTTP
  | Storage
  deriving DecidableEq, Repr

abbrev VirtualMediaMode := String

def CDROM : VirtualMediaMode := "CDROM"

def Disk : VirtualMediaMode := "Disk"

structure VirtualMediaState where
  source : VirtualMediaSource
  mode : VirtualMediaMode
  filename : String := ""
  url : String := ""
  size : Int
  deriving DecidableEq, Repr

structure NBDDevice where
  running : Bool := false
  deriving DecidableEq, Repr

/-- `lunFile` is the medium that the `file` attribute of the LUN names, if it is
not blank, and `cdrom` what the configuration map has for that LUN. -/
structure State where
  currentVirtualMediaState : Option VirtualMediaState := none
  lunFile : Option String := none
  cdrom : String := "1"
  nbdDevice : Option NBDDevice := none
  httpRangeReader : Option String := none
  deriving DecidableEq, Repr

abbrev Outcome := Except Failure Unit

open Fallible

/-- The medium after a write to the `file` attribute; `truncates` is whether
writing nothing ejects the medium, as truncating a regular file would. -/
def writeFile (truncates : Bool) (data : String) (medium : Option String) :
    Option String :=
  if data = "" then if truncates then none else medium
  else if data.toList.all Char.isWhitespace then none
  else some data

/-- What an unmount meets outside. -/
structure Ejection where
  write : Outcome := .ok ()
  rebind : Outcome := .ok ()
  retry : Outcome := .ok ()

/-- What a change of the mass storage mode meets outside; `lunWritten` is
whether `UpdateGadgetConfig` got to the `file` attribute of the LUN. -/
structure ModeChange where
  lunWritten : Bool := true
  update : Outcome := .ok ()
  openKeyboard : Outcome := .ok ()
  rebind : Outcome := .ok ()

/-- What `mountImage` meets outside. -/
structure ImageWrites where
  remove : Outcome := .ok ()
  set : Outcome := .ok ()
  setAgain : Outcome := .ok ()

/-- What `rpcMountBuiltInImage` meets outside; `stat` is whether the image is in
the images folder. -/
structure BuiltIn where
  folder : Outcome := .ok ()
  stat : Bool := true
  open' : Outcome := .ok ()
  create : Outcome := .ok ()
  copy : Outcome := .ok ()
  writes : ImageWrites := {}

section Calls

variable (truncates : Bool)

abbrev MediaCall := Fallible Failure State Unit

/-- `GetPath` always finds `mass_storage_lun0` in the configuration map. -/
def setMassStorageImage (imagePath : String) (write : Outcome) : MediaCall := do
  wrapping (.wrap "failed to set image path") (answer write)
  modify fun state =>
    { state with lunFile := writeFile truncates imagePath state.lunFile }

def rebindAndRecoverHID (context : String) (rebind : Outcome) : MediaCall :=
  wrapping (.wrap (context ++ ": corrective USB rebind failed")) (answer rebind)

/-- The configuration of the LUN has a newline for its `file`. -/
def updateGadgetConfig (change : ModeChange) : MediaCall := do
  modify fun state =>
    { state with
      lunFile :=
        if change.lunWritten then writeFile truncates "\n" state.lunFile
        else state.lunFile }
  answer change.update

def setMassStorageMode (cdrom : Bool) (change : ModeChange) : MediaCall := do
  let mode := if cdrom then "1" else "0"
  let state ← get
  if state.cdrom = mode then pure ()
  else
    modify fun state => { state with cdrom := mode }
    updateGadgetConfig truncates change
    match change.openKeyboard with
    | .ok _ => pure ()
    | .error _ => rebindAndRecoverHID "mass-storage-mode-change" change.rebind

def mountImage (imagePath : String) (writes : ImageWrites) : MediaCall := do
  wrapping (.wrap "remove mass storage image error")
    (setMassStorageImage truncates "" writes.remove)
  wrapping (.wrap "set mass storage image error")
    (setMassStorageImage truncates imagePath writes.set)
  wrapping (.wrap "set Mass Storage Image Error")
    (setMassStorageImage truncates imagePath writes.setAgain)

def rpcMountBuiltInImage (filename : String) (builtIn : BuiltIn) :
    MediaCall := do
  wrapping (.wrap "failed to create images folder") (answer builtIn.folder)
  let filename ←
    wrapping (.wrap "invalid filename") (answer (sanitizeFilename filename))
  if builtIn.stat then
    mountImage truncates (imagePath filename) builtIn.writes
  else
    wrapping (.wrap ("image " ++ filename ++ " not found in built-in resources"))
      (answer builtIn.open')
    wrapping (.wrap "failed to create image file") (answer builtIn.create)
    wrapping (.wrap "failed to write image file") (answer builtIn.copy)
    mountImage truncates (imagePath filename) builtIn.writes

/-- The rest of `unmountImageLocked` once the first write failed. -/
def forceEject (err : Failure) (ejection : Ejection) : MediaCall :=
  if err.busy = false then throw (err.wrap "failed to unmount image")
  else do
    wrapping (fun rebindErr =>
        { message := "failed to unmount image: " ++ err.message ++ ", " ++
            rebindErr.message
          busy := true })
      (rebindAndRecoverHID "ebusy-unmount" ejection.rebind)
    wrapping (.wrap "failed to unmount image after gadget rebind")
      (setMassStorageImage truncates "\n" ejection.retry)

/-- `rpcUnmountImage`, which adds a message to `unmountImageLocked` -/
def rpcUnmountImage (ejection : Ejection) : MediaCall := do
  let result ← attempt (setMassStorageImage truncates "\n" ejection.write)
  match result with
  | .ok _ => pure ()
  | .error err => forceEject truncates err ejection
  modify fun state =>
    { state with nbdDevice := none, currentVirtualMediaState := none }

def prepareHTTPMount (url : String) (mode : VirtualMediaMode)
    (size : Except Failure Int) (change : ModeChange) : MediaCall := do
  let state ← get
  if state.currentVirtualMediaState.isSome then
    throw { message := "another virtual media is already mounted" }
  else
    modify fun state => { state with httpRangeReader := some url }
    let n ← wrapping (.wrap "failed to use http url") (answer size)
    wrapping (.wrap "failed to set mass storage mode")
      (setMassStorageMode truncates (mode = CDROM) change)
    modify fun state =>
      { state with
        currentVirtualMediaState :=
          some { source := .HTTP, mode := mode, url := url, size := n } }

def nbdDevicePath : String := "/dev/nbd0"

def rpcMountWithHTTP (url : String) (mode : VirtualMediaMode)
    (size : Except Failure Int) (change : ModeChange) (start write : Outcome) :
    MediaCall := do
  prepareHTTPMount truncates url mode size change
  modify fun state => { state with nbdDevice := some {} }
  answer start
  modify fun state => { state with nbdDevice := some { running := true } }
  setMassStorageImage truncates nbdDevicePath write

def prepareStorageMount (filename : String) (mode : VirtualMediaMode)
    (size : Except Failure Int) (change : ModeChange) (write : Outcome) :
    MediaCall := do
  let state ← get
  if state.currentVirtualMediaState.isSome then
    throw { message := "another virtual media is already mounted" }
  else
    let n ← wrapping (.wrap "failed to get file info") (answer size)
    wrapping (.wrap "failed to set mass storage mode")
      (setMassStorageMode truncates (mode = CDROM) change)
    wrapping (.wrap "failed to set mass storage image")
      (setMassStorageImage truncates (imagePath filename) write)
    modify fun state =>
      { state with
        currentVirtualMediaState :=
          some { source := .Storage, mode := mode, filename := filename
                 size := n } }

def rpcMountWithStorage (filename : String) (mode : VirtualMediaMode)
    (size : Except Failure Int) (change : ModeChange) (write : Outcome) :
    MediaCall := do
  let filename ← answer (sanitizeFilename filename)
  prepareStorageMount truncates filename mode size change write

end Calls

/-- A call, with what it is going to meet -/
inductive Request where
  | unmountImage (ejection : Ejection)
  | mountWithHTTP (url : String) (mode : VirtualMediaMode)
      (size : Except Failure Int) (change : ModeChange) (start write : Outcome)
  | mountWithStorage (filename : String) (mode : VirtualMediaMode)
      (size : Except Failure Int) (change : ModeChange) (write : Outcome)
  | mountBuiltInImage (filename : String) (builtIn : BuiltIn)

/-- What the LUN names when this is the recorded state. -/
def VirtualMediaState.medium (media : VirtualMediaState) : String :=
  match media.source with
  | .HTTP => nbdDevicePath
  | .Storage => imagePath media.filename

/-- A state is recorded exactly when the LUN has a medium, and names it. -/
def Faithful (state : State) : Prop :=
  state.lunFile = state.currentVirtualMediaState.map VirtualMediaState.medium

/-- What a call that returns an error leaves. -/
structure Rejected (before after : State) : Prop where
  recorded : after.currentVirtualMediaState = before.currentVirtualMediaState
  medium : after.lunFile = before.lunFile
  unblocked : before.lunFile = none → after.currentVirtualMediaState = none

/-- What the configuration map has for a mode -/
def cdromAttr (mode : VirtualMediaMode) : String :=
  if mode = CDROM then "1" else "0"

/-- The mode is set already, or can be changed and the keyboard opened. -/
def ModeChange.Succeeds (change : ModeChange) (mode : VirtualMediaMode)
    (state : State) : Prop :=
  state.cdrom = cdromAttr mode ∨
    change.update = .ok () ∧
      (change.openKeyboard = .ok () ∨ change.rebind = .ok ())

/-- The image is in the images folder, or can be put there. -/
def BuiltIn.Provides (builtIn : BuiltIn) (filename image : String) : Prop :=
  builtIn.folder = .ok () ∧ sanitizeFilename filename = .ok image ∧
    (builtIn.stat = true ∨ builtIn.open' = .ok () ∧ builtIn.create = .ok () ∧
      builtIn.copy = .ok ())

section Runs

variable (truncates : Bool)

def Request.call : Request → MediaCall
  | .unmountImage ejection => rpcUnmountImage truncates ejection
  | .mountWithHTTP url mode size change start write =>
      rpcMountWithHTTP truncates url mode size change start write
  | .mountWithStorage filename mode size change write =>
      rpcMountWithStorage truncates filename mode size change write
  | .mountBuiltInImage filename builtIn =>
      rpcMountBuiltInImage truncates filename builtIn

def step (state : State) (request : Request) : Option State :=
  some ((request.call truncates).after state)

/-- The call leaves a faithful state if it returns, and what was there if it
fails. -/
def Honest (state : State) (request : Request) : Prop :=
  Ends (request.call truncates) state (fun _ => Faithful)
    fun _ => Rejected state

/-- A mount over HTTP that gets past its preparation does not fail, and a
built-in image is mounted only where it is the recorded medium. -/
def Completes (state : State) : Request → Prop
  | .mountWithHTTP _ mode size change start write =>
      state.currentVirtualMediaState = none → (∃ n, size = .ok n) →
        change.Succeeds mode state → start = .ok () ∧ write = .ok ()
  | .mountBuiltInImage filename builtIn =>
      ∀ image, builtIn.Provides filename image →
        builtIn.writes.remove = .ok () →
          if builtIn.writes.set = .ok () then
            state.currentVirtualMediaState.map VirtualMediaState.medium =
              some (imagePath image)
          else truncates = false ∨ state.lunFile = none
  | _ => True

end Runs

variable {truncates : Bool} {state : State}
variable {returned : Unit → State → Prop} {failed : Failure → State → Prop}

@[simp] theorem writeFile_newline (medium : Option String) :
    writeFile truncates "\n" medium = none := by
  rw [writeFile, if_neg (by decide), if_pos (by decide)]

theorem writeFile_of_isAbs {data : String} (rooted : Filepath.isAbs data = true)
    (medium : Option String) : writeFile truncates data medium = some data := by
  simp only [Filepath.isAbs, decide_eq_true_eq] at rooted
  obtain ⟨rest, whole⟩ := List.head?_eq_some_iff.mp rooted
  have nonempty : data ≠ "" := by
    rintro rfl
    cases whole
  have visible : data.toList.all Char.isWhitespace = false := by
    rw [whole]
    rfl
  rw [writeFile, if_neg nonempty, visible]
  rfl

@[simp] theorem writeFile_imagePath (filename : String)
    (medium : Option String) :
    writeFile truncates (imagePath filename) medium =
      some (imagePath filename) :=
  writeFile_of_isAbs (Filepath.isAbs_join (by decide) filename) medium

@[simp] theorem writeFile_nbdDevicePath (medium : Option String) :
    writeFile truncates nbdDevicePath medium = some nbdDevicePath :=
  writeFile_of_isAbs (by decide) medium

@[simp] theorem ends_setMassStorageImage {imagePath : String}
    {write : Outcome} :
    Ends (setMassStorageImage truncates imagePath write) state returned failed ↔
      match write with
      | .ok _ => returned () { state with
          lunFile := writeFile truncates imagePath state.lunFile }
      | .error err => failed (err.wrap "failed to set image path") state := by
  cases write with
  | ok => simp [setMassStorageImage]
  | error err => simp [setMassStorageImage]

theorem ends_updateGadgetConfig (blank : state.lunFile = none)
    {change : ModeChange} :
    Ends (updateGadgetConfig truncates change) state returned failed ↔
      match change.update with
      | .ok _ => returned () state
      | .error err => failed err state := by
  have kept : { state with
      lunFile :=
        if change.lunWritten then writeFile truncates "\n" state.lunFile
        else state.lunFile } = state := by
    cases state
    simp_all
  cases update : change.update with
  | ok => simp only [updateGadgetConfig, ends_bind, ends_modify, kept, update,
      answer_ok, ends_pure]
  | error err => simp only [updateGadgetConfig, ends_bind, ends_modify, kept,
      update, answer_error, ends_throw]

/-- With no medium in the LUN, a change of the mode touches nothing but the
configuration of the mode. -/
theorem ends_setMassStorageMode (blank : state.lunFile = none)
    (mode : VirtualMediaMode) (change : ModeChange) :
    (change.Succeeds mode state ∧ ∀ {returned failed},
      Ends (setMassStorageMode truncates (mode = CDROM) change) state
        returned failed ↔ returned () { state with cdrom := cdromAttr mode }) ∨
    (¬ change.Succeeds mode state ∧ ∃ err, ∀ {returned failed},
      Ends (setMassStorageMode truncates (mode = CDROM) change) state
        returned failed ↔ failed err { state with cdrom := cdromAttr mode }) := by
  have attr : (if decide (mode = CDROM) then "1" else "0") = cdromAttr mode := by
    simp [cdromAttr]
  simp only [setMassStorageMode, ends_bind, ends_get, ends_ite, attr,
    ModeChange.Succeeds]
  by_cases same : state.cdrom = cdromAttr mode
  · refine .inl ⟨.inl same, ?_⟩
    have kept : { state with cdrom := cdromAttr mode } = state := by rw [← same]
    simp [same, kept]
  · simp only [same, IsEmpty.forall_iff, true_and, not_false_eq_true, forall_const,
      ends_modify, false_or]
    have blank' : { state with cdrom := cdromAttr mode }.lunFile = none := blank
    simp only [ends_updateGadgetConfig blank']
    cases update : change.update with
    | error err => exact .inr ⟨by simp, err, Iff.rfl⟩
    | ok =>
        cases opened : change.openKeyboard with
        | ok => exact .inl ⟨by simp, by simp⟩
        | error _ =>
            cases rebound : change.rebind with
            | ok => exact .inl ⟨by simp, by simp [rebindAndRecoverHID]⟩
            | error err =>
                refine .inr ⟨by simp, ?_⟩
                simp only [rebindAndRecoverHID, answer_error, ends_wrapping,
                  ends_throw]
                exact ⟨_, Iff.rfl⟩

theorem Faithful.none_iff (faithful : Faithful state) :
    state.lunFile = none ↔ state.currentVirtualMediaState = none := by
  rw [show state.lunFile = _ from faithful, Option.map_eq_none_iff]

/-- A call that fails before it touches the medium -/
theorem Faithful.rejected (faithful : Faithful state) {next : State}
    (recorded : next.currentVirtualMediaState = state.currentVirtualMediaState)
    (medium : next.lunFile = state.lunFile) : Rejected state next :=
  ⟨recorded, medium, fun blank => recorded.trans (faithful.none_iff.mp blank)⟩

theorem Rejected.faithful {next : State} (faithful : Faithful state)
    (rejected : Rejected state next) : Faithful next := by
  rw [Faithful, rejected.medium, rejected.recorded]
  exact faithful

theorem honest_unmountImage (faithful : Faithful state) (ejection : Ejection) :
    Honest truncates state (.unmountImage ejection) := by
  have untouched : Rejected state state := faithful.rejected rfl rfl
  have ejected : Faithful { state with
      lunFile := none
      nbdDevice := none
      currentVirtualMediaState := none } := rfl
  simp only [Honest, Request.call, rpcUnmountImage, ends_bind, ends_attempt,
    ends_setMassStorageImage, writeFile_newline, ends_modify]
  cases ejection.write with
  | ok => simpa using ejected
  | error err =>
      simp only [forceEject]
      by_cases busy : err.busy = false
      · simpa [Failure.wrap, busy] using untouched
      · cases rebound : ejection.rebind with
        | error _ =>
            simpa [Failure.wrap, busy, rebindAndRecoverHID, rebound]
              using untouched
        | ok =>
            cases retried : ejection.retry with
            | ok =>
                simpa [Failure.wrap, busy, rebindAndRecoverHID, rebound,
                  retried] using ejected
            | error _ =>
                simpa [Failure.wrap, busy, rebindAndRecoverHID, rebound,
                  retried] using untouched

theorem honest_mountWithStorage (faithful : Faithful state) (filename : String)
    (mode : VirtualMediaMode) (size : Except Failure Int) (change : ModeChange)
    (write : Outcome) :
    Honest truncates state
      (.mountWithStorage filename mode size change write) := by
  have untouched : Rejected state state := faithful.rejected rfl rfl
  simp only [Honest, Request.call, rpcMountWithStorage, prepareStorageMount,
    ends_bind]
  cases sanitizeFilename filename with
  | error _ => simpa using untouched
  | ok image =>
      simp only [answer_ok, ends_pure, ends_get]
      cases recorded : state.currentVirtualMediaState with
      | some media => simpa using untouched
      | none =>
          have blank : state.lunFile = none := faithful.none_iff.mpr recorded
          cases size with
          | error _ => simpa using untouched
          | ok n =>
              simp only [Option.isSome_none, Bool.false_eq_true, if_false,
                answer_ok, ends_wrapping, ends_bind, ends_pure]
              rcases ends_setMassStorageMode blank mode change with
                ⟨-, ends⟩ | ⟨-, err, ends⟩
              · rw [ends]
                cases write with
                | ok => simp [Faithful, VirtualMediaState.medium]
                | error _ =>
                    simp only [ends_setMassStorageImage]
                    exact faithful.rejected rfl rfl
              · rw [ends]
                exact faithful.rejected rfl rfl

/-- `prepareHTTPMount` records the state before anything is mounted. -/
theorem ends_prepareHTTPMount (faithful : Faithful state) (url : String)
    (mode : VirtualMediaMode) (size : Except Failure Int) (change : ModeChange) :
    ((state.currentVirtualMediaState = none ∧ (∃ n, size = .ok n) ∧
        change.Succeeds mode state) ∧
      ∃ next media, next.lunFile = none ∧
        next.currentVirtualMediaState = some media ∧ media.source = .HTTP ∧
        ∀ {returned failed},
          Ends (prepareHTTPMount truncates url mode size change) state returned
            failed ↔ returned () next) ∨
    (¬ (state.currentVirtualMediaState = none ∧ (∃ n, size = .ok n) ∧
        change.Succeeds mode state) ∧
      ∃ err next, Rejected state next ∧ ∀ {returned failed},
        Ends (prepareHTTPMount truncates url mode size change) state returned
          failed ↔ failed err next) := by
  simp only [prepareHTTPMount, ends_bind, ends_get]
  cases recorded : state.currentVirtualMediaState with
  | some media =>
      exact .inr ⟨by simp, _, state, faithful.rejected rfl rfl, by simp; rfl⟩
  | none =>
      have blank : state.lunFile = none := faithful.none_iff.mpr recorded
      simp only [Option.isSome_none, Bool.false_eq_true, if_false, ends_bind,
        ends_modify, ends_wrapping]
      cases size with
      | error err =>
          exact .inr ⟨by simp, _, { state with httpRangeReader := some url },
            faithful.rejected rfl rfl, by simp; rfl⟩
      | ok n =>
          have modeChange := @ends_setMassStorageMode truncates
            { state with httpRangeReader := some url } blank mode change
          rcases modeChange with ⟨succeeds, ends⟩ | ⟨fails, err, ends⟩
          · let media : VirtualMediaState :=
              { source := .HTTP, mode := mode, url := url, size := n }
            refine .inl ⟨⟨trivial, ⟨n, rfl⟩, succeeds⟩,
              { state with
                httpRangeReader := some url
                cdrom := cdromAttr mode
                currentVirtualMediaState := some media },
              media, blank, rfl, rfl, ?_⟩
            intro returned failed
            simp only [answer_ok, ends_pure, ends]
            exact Iff.rfl
          · refine .inr ⟨fun all => fails all.2.2,
              err.wrap "failed to set mass storage mode",
              { state with
                httpRangeReader := some url
                cdrom := cdromAttr mode },
              faithful.rejected rfl rfl, ?_⟩
            intro returned failed
            simp only [answer_ok, ends_pure, ends]

theorem honest_mountWithHTTP_iff (faithful : Faithful state) (url : String)
    (mode : VirtualMediaMode) (size : Except Failure Int) (change : ModeChange)
    (start write : Outcome) :
    Honest truncates state
        (.mountWithHTTP url mode size change start write) ↔
      Completes truncates state
        (.mountWithHTTP url mode size change start write) := by
  simp only [Honest, Request.call, rpcMountWithHTTP, ends_bind, Completes]
  rcases @ends_prepareHTTPMount truncates state faithful url mode size change
    with ⟨⟨recorded, sized, succeeds⟩, next, media, blank, recordedNext, source,
      ends⟩ | ⟨refused, err, next, rejected, ends⟩
  · simp only [ends, recorded, sized, succeeds, forall_const]
    -- the state is recorded by now, so no failure is left that keeps it
    have spoiled : ∀ {after : State},
        after.currentVirtualMediaState = next.currentVirtualMediaState →
          ¬ Rejected state after := by
      intro after kept rejected
      have gone := rejected.recorded
      rw [kept, recordedNext, recorded] at gone
      cases gone
    cases start with
    | error err =>
        simp only [answer_error, ends_throw, reduceCtorEq, false_and, iff_false]
        exact spoiled rfl
    | ok =>
        cases write with
        | error err =>
            simp only [answer_ok, ends_pure, ends_setMassStorageImage,
              reduceCtorEq, and_false, iff_false]
            exact spoiled rfl
        | ok => simp [Faithful, recordedNext, VirtualMediaState.medium, source]
  · simp only [ends]
    exact iff_of_true rejected fun recorded sized succeeds =>
      absurd ⟨recorded, sized, succeeds⟩ refused

@[simp] theorem writeFile_empty (medium : Option String) :
    writeFile truncates "" medium = if truncates then none else medium :=
  if_pos rfl

theorem rejected_setMedium_iff (faithful : Faithful state)
    (medium : Option String) :
    Rejected state { state with lunFile := medium } ↔ medium = state.lunFile :=
  ⟨Rejected.medium, fun same => faithful.rejected rfl same⟩

/-- Whether `mountImage` keeps faith is up to what was recorded before. -/
theorem ends_mountImage_iff (faithful : Faithful state) (image : String)
    (writes : ImageWrites) :
    Ends (mountImage truncates (imagePath image) writes) state
        (fun _ => Faithful) (fun _ => Rejected state) ↔
      (writes.remove = .ok () →
        if writes.set = .ok () then
          state.currentVirtualMediaState.map VirtualMediaState.medium =
            some (imagePath image)
        else truncates = false ∨ state.lunFile = none) := by
  have named : state.lunFile = state.currentVirtualMediaState.map _ := faithful
  simp only [mountImage, ends_bind, ends_wrapping, ends_setMassStorageImage]
  cases writes.remove with
  | error _ => simpa using faithful.rejected rfl rfl
  | ok =>
      simp only [writeFile_empty, writeFile_imagePath, forall_const]
      cases writes.set with
      | error _ =>
          simp only [rejected_setMedium_iff faithful, reduceCtorEq, if_false]
          cases truncates with
          | true => simp [eq_comm]
          | false => simp
      | ok =>
          simp only [if_true]
          cases writes.setAgain with
          | error _ =>
              simp only [rejected_setMedium_iff faithful, ← named]
              exact eq_comm
          | ok =>
              simp only [Faithful]
              exact eq_comm

theorem honest_mountBuiltInImage_iff (faithful : Faithful state)
    (filename : String) (builtIn : BuiltIn) :
    Honest truncates state (.mountBuiltInImage filename builtIn) ↔
      Completes truncates state (.mountBuiltInImage filename builtIn) := by
  have untouched : Rejected state state := faithful.rejected rfl rfl
  simp only [Honest, Request.call, rpcMountBuiltInImage, ends_bind,
    ends_wrapping, Completes, BuiltIn.Provides]
  cases builtIn.folder with
  | error _ => simpa using untouched
  | ok =>
      simp only [answer_ok, ends_pure]
      cases sanitizeFilename filename with
      | error _ => simpa using untouched
      | ok image =>
          simp only [answer_ok, ends_pure]
          cases builtIn.stat with
          | true =>
              simpa using ends_mountImage_iff faithful image builtIn.writes
          | false =>
              cases builtIn.open' with
              | error _ => simpa using untouched
              | ok =>
                  cases builtIn.create with
                  | error _ => simpa using untouched
                  | ok =>
                      cases builtIn.copy with
                      | error _ => simpa using untouched
                      | ok =>
                          simpa using
                            ends_mountImage_iff faithful image builtIn.writes

theorem honest_iff_completes (faithful : Faithful state) (request : Request) :
    Honest truncates state request ↔ Completes truncates state request := by
  cases request with
  | unmountImage ejection =>
      exact iff_of_true (honest_unmountImage faithful ejection) trivial
  | mountWithHTTP url mode size change start write =>
      exact honest_mountWithHTTP_iff faithful url mode size change start write
  | mountWithStorage filename mode size change write =>
      exact iff_of_true
        (honest_mountWithStorage faithful filename mode size change write)
        trivial
  | mountBuiltInImage filename builtIn =>
      exact honest_mountBuiltInImage_iff faithful filename builtIn

theorem Faithful.step {request : Request} {next : State}
    (faithful : Faithful state) (completes : Completes truncates state request)
    (taken : VirtualMedia.step truncates state request = some next) :
    Faithful next := by
  cases taken
  have honest := (honest_iff_completes faithful request).mpr completes
  exact Ends.after (honest.imp (fun _ _ returned => returned)
    fun _ _ rejected => rejected.faithful faithful)

/-- From a state that records what is mounted, every call is honest and every
state faithful if and only if no mount over HTTP fails after its preparation
and no built-in image is mounted over something else. -/
theorem honest_and_faithful_iff_completes (truncates : Bool) {first : State}
    (faithful : Faithful first) (requests : List Request) :
    (AllSteps (step truncates) (Honest truncates) first requests ∧
        AllStates (step truncates) Faithful first requests) ↔
      AllSteps (step truncates) (Completes truncates) first requests :=
  allSteps_and_allStates_iff (fun holds => holds) Faithful.step
    (fun holds _ => (honest_iff_completes holds _).symm) faithful requests

/-- An image is mounted over HTTP, a second mount is refused, and the image is
unmounted by way of a rebind. -/
def mountAndUnmount : List Request :=
  [.mountWithHTTP "http://host/a.iso" CDROM (.ok 1024) {} (.ok ()) (.ok ()),
    .mountWithStorage "b.img" Disk (.ok 512) {} (.ok ()),
    .unmountImage { write := .error { message := "busy", busy := true } },
    .mountWithStorage "b.img" Disk (.ok 512) {} (.ok ())]

theorem mountAndUnmount_honest :
    AllSteps (step false) (Honest false) {} mountAndUnmount ∧
      AllStates (step false) Faithful {} mountAndUnmount := by
  have unmounted : Faithful {} := rfl
  refine (honest_and_faithful_iff_completes false unmounted _).mpr ?_
  intro next _
  refine ⟨fun _ _ _ => ⟨rfl, rfl⟩, ?_⟩
  intro next _
  refine ⟨trivial, ?_⟩
  intro next _
  refine ⟨trivial, ?_⟩
  intro next _
  exact ⟨trivial, trivial⟩

/-- The NBD device cannot be started. -/
def failedStart : List Request :=
  [.mountWithHTTP "http://host/a.iso" CDROM (.ok 1024) {}
    (.error { message := "NBD device does not exist" }) (.ok ())]

theorem failedStart_not_honest :
    ¬ ∀ (truncates : Bool) (first : State) (requests : List Request),
      Faithful first →
        AllSteps (step truncates) (Honest truncates) first requests ∧
          AllStates (step truncates) Faithful first requests := by
  intro claimed
  obtain ⟨-, -, faithful⟩ := claimed false {} failedStart rfl
  have last := (faithful _ rfl : Faithful _)
  cases last

end VirtualMedia

end JetKvm
