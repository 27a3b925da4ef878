import JetKvm.LabelledRuns
import JetKvm.OtaRunHistory
import Mathlib.Algebra.Order.Ring.Unbundled.Rat
import Mathlib.Logic.Function.Basic

/-!
# The status of an update as it is told

The update runs of `internal/ota` with the progress figures and the timestamps
of the components, and with every state that is pushed to `onStateUpdate`.  A
figure is kept with the number of the run that set it, and a timestamp is that
number alone; the course of the run tells which stage it has really reached.
-/

namespace JetKvm

namespace Ota

namespace Status

open LabelledRuns

/-! ### What is stored and what is told -/

/-- How far a run is with a component -/
inductive Stage where
  | idle
  | pending
  | downloading
  | downloaded
  | verified
  | installing
  | installed
  deriving DecidableEq, Repr

def Stage.number : Stage → Nat
  | .idle => 0
  | .pending => 1
  | .downloading => 2
  | .downloaded => 3
  | .verified => 4
  | .installing => 5
  | .installed => 6

/-- The fields of `componentUpdateStatus` that only the status shows; `pending`
tells which run set the flag of that name. -/
structure Figures where
  pending : Option Nat := none
  downloadProgress : Option (Nat × Rat) := none
  downloadFinishedAt : Option Nat := none
  verificationProgress : Option (Nat × Rat) := none
  verifiedAt : Option Nat := none
  updateProgress : Option (Nat × Rat) := none
  updatedAt : Option Nat := none
  deriving DecidableEq

/-- A `componentUpdateStatus` -/
structure Update where
  status : ComponentUpdateStatus
  figures : Figures

/-- The state of the updater.  The fields from `run` on tell what really goes
on: how many runs have started, and of the last one whether it is over, whether
it has failed, whether it has requested a reboot, and how far it is. -/
structure Device where
  state : State := {}
  figures : Component → Figures := fun _ => {}
  metadataFetchedAt : Option Nat := none
  run : Nat := 0
  isOver : Bool := true
  failed : Bool := false
  rebootRequested : Bool := false
  stage : Component → Stage := fun _ => .idle

def Device.update (device : Device) (component : Component) : Update where
  status := device.state.storedStatus component
  figures := device.figures component

def Device.reach (device : Device) (component : Component) (stage : Stage) :
    Device :=
  { device with stage := Function.update device.stage component stage }

/-- The part of `RPCState` about a component -/
structure RPCComponent where
  updatePending : Bool
  figures : Figures

structure RPCState where
  updating : Bool
  error : String
  metadataFetchedAt : Option Nat
  components : Component → RPCComponent

/-- `setFloat32IfNotZero` -/
def notZero (progress : Option (Nat × Rat)) : Option (Nat × Rat) :=
  progress.filter (·.2 ≠ 0)

def applyComponentStatusToRPCState (update : Update) : RPCComponent where
  updatePending := update.status.pending
  figures :=
    { update.figures with
      downloadProgress := notZero update.figures.downloadProgress
      verificationProgress := notZero update.figures.verificationProgress
      updateProgress := notZero update.figures.updateProgress }

def Device.toRPCState (device : Device) : RPCState where
  updating := device.state.updating
  error := device.state.error
  metadataFetchedAt := device.metadataFetchedAt
  components component :=
    applyComponentStatusToRPCState (device.update component)

/-! ### Runs -/

/-- What a step of a run leaves, with its events and the states it pushed -/
structure Told where
  device : Device
  pushed : List Device := []
  events : List Event := []
  err : Option String := none

def Told.andThen (told : Told) (next : Device → Told) : Told :=
  match told.err with
  | some _ => told
  | none =>
      let later := next told.device
      { later with
        pushed := told.pushed ++ later.pushed
        events := told.events ++ later.events }

/-- The step comes after the events. -/
def Told.noting (events : List Event) (told : Told) : Told :=
  { told with events := events ++ told.events }

def triggerStateUpdate (device : Device) : Told where
  device := device
  pushed := [device]

def store (device : Device) (component : Component) (update : Update) :
    Device :=
  { device with
    state := device.state.setStatus component update.status
    figures := Function.update device.figures component update.figures }

def triggerComponentUpdateState (device : Device) (component : Component)
    (update : Update) : Told :=
  triggerStateUpdate (store device component update)

/-- An error ends the run: what follows only reports it again. -/
def componentUpdateError (device : Device) (context error : String) : Told where
  device :=
    { device with
      state := (Ota.componentUpdateError device.state context error).state
      isOver := true
      failed := true }
  pushed :=
    [{ device with
      state := (Ota.componentUpdateError device.state context error).state
      isOver := true
      failed := true }]
  err := some error

/-- The sizes of what is read during a download and during a verification -/
structure Reads where
  download : List Nat := []
  contentLength : Nat := 0
  verify : List Nat := []
  fileSize : Nat := 0

/-- A call of `TryUpdate`, with what its downloads read and how often the ticker
of `updateSystem` fires -/
structure Attempt (semver : Semver) where
  run : Run semver
  reads : Component → Reads := fun _ => {}
  ticks : Nat := 0

/-- The states pushed during a download, with a copy of the component's status
from its beginning -/
def downloading (device : Device) (component : Component) (update : Update)
    (before : Rat) (contentLength written : Nat) : List Nat → Told
  | [] => { device := device }
  | 0 :: reads =>
      downloading device component update before contentLength written reads
  | read :: reads =>
      let progress : Rat := (written + read : Nat) / contentLength
      if 1 / 100 ≤ progress - before then
        let update :=
          { update with
            figures.downloadProgress := some (device.run, progress) }
        (triggerComponentUpdateState device component update).andThen
          fun device =>
            downloading device component update before contentLength
              (written + read) reads
      else
        downloading device component update before contentLength
          (written + read) reads

def downloadProgress (device : Device) (component : Component) (reads : Reads) :
    Told :=
  let update := device.update component
  downloading device component update
    ((update.figures.downloadProgress.map Prod.snd).getD 0)
    reads.contentLength 0 reads.download

/-- The states pushed during a verification, which leaves its progress in a
status that is not yet stored -/
def verifying (device : Device) (before : Rat) (fileSize verified : Nat) :
    List Nat → Told
  | [] => { device := device }
  | 0 :: reads => verifying device before fileSize verified reads
  | read :: reads =>
      let progress : Rat := (verified + read : Nat) / fileSize
      if 1 / 100 ≤ progress - before then
        (triggerStateUpdate device).andThen fun device =>
          verifying device progress fileSize (verified + read) reads
      else verifying device before fileSize (verified + read) reads

/-- The app is installed with its verification. -/
def verifiedStage : Component → Stage
  | .app => .installed
  | .system => .verified

/-- The status after the download -/
def downloadedUpdate (run : Nat) (update : Update) : Update :=
  { update with
    figures.downloadFinishedAt := some run
    figures.downloadProgress := some (run, 1) }

/-- The status after the verification -/
def verifiedUpdate (run : Nat) (update : Update) : Update :=
  { downloadedUpdate run update with
    figures.verifiedAt := some run
    figures.verificationProgress := some (run, 1)
    figures.updatedAt := some run
    figures.updateProgress := some (run, 1) }

/-- The signature, the download and the verification of a component -/
def fetch (component : Component) (device : Device) (update : Update)
    (bypassSignatureCheck : Bool) (transfer : Transfer) (reads : Reads) :
    Told :=
  Told.noting (began component bypassSignatureCheck) <|
  match downloadComponentSignature update.status bypassSignatureCheck
      transfer with
  | .error error =>
      componentUpdateError device
        ("Error with " ++ component.name ++ " signature") error
  | .ok signature =>
      (downloadProgress (device.reach component .downloading) component
        reads).andThen fun device =>
      match downloadFile device.state component transfer with
      | .error error =>
          componentUpdateError device
            ("Error downloading " ++ component.name ++ " update") error
      | .ok () =>
          (triggerComponentUpdateState (device.reach component .downloaded)
            component (downloadedUpdate device.run update)).andThen
            fun device =>
          (verifying device
            ((update.figures.verificationProgress.map Prod.snd).getD 0)
            reads.fileSize 0 reads.verify).andThen fun device =>
          match verifyFile update.status.hash signature transfer with
          | .error error =>
              componentUpdateError device
                ("Error verifying " ++ component.name ++ " update") error
          | .ok () =>
              { device := device
                events :=
                  (if signature.isSome then [.signatureVerified component]
                    else []) ++
                  [.fileVerified component] }

/-- What `updateApp` and `updateSystem` have in common -/
def fetchAndVerify (component : Component) (device : Device) (update : Update)
    (bypassSignatureCheck : Bool) (transfer : Transfer) (reads : Reads)
    (next : Device → Update → Told) : Told :=
  (fetch component device update bypassSignatureCheck transfer reads).andThen
    fun device =>
  let update := verifiedUpdate device.run update
  (triggerComponentUpdateState
    (device.reach component (verifiedStage component)) component
    update).andThen fun device => next device update

def updateApp (device : Device) (update : Update) (bypassSignatureCheck : Bool)
    (transfer : Transfer) (reads : Reads) : Told :=
  fetchAndVerify .app device update bypassSignatureCheck transfer reads
    fun device _ => { device := { device with state.rebootNeeded := true } }

/-- The ticker beside `rk_ota` stops once the progress is at 99 percent. -/
def ticker (device : Device) (update : Update) : Nat → Told
  | 0 => { device := device }
  | ticks + 1 =>
      let progress := (update.figures.updateProgress.map Prod.snd).getD 0
      if 99 / 100 ≤ progress then { device := device }
      else
        let update :=
          { update with
            figures.updateProgress :=
              some (device.run, min (progress + 1 / 100) (99 / 100)) }
        (triggerComponentUpdateState device .system update).andThen
          fun device => ticker device update ticks

def updateSystem (device : Device) (update : Update)
    (bypassSignatureCheck : Bool) (transfer : Transfer) (reads : Reads)
    (ticks : Nat) : Told :=
  fetchAndVerify .system device update bypassSignatureCheck transfer reads
    fun device update =>
      match transfer.rkOtaStart with
      | some error =>
          componentUpdateError device "Error starting rk_ota command" error
      | none =>
          (ticker (device.reach .system .installing) update ticks).andThen
            fun device =>
          match transfer.rkOtaWait with
          | some error =>
              componentUpdateError device "Error executing rk_ota command" error
          | none =>
              let update :=
                { update with
                  figures.updateProgress := some (device.run, 1)
                  figures.updatedAt := some device.run }
              (triggerComponentUpdateState
                ({ device with state.rebootNeeded := true }.reach .system
                  .installed) .system update).noting [.systemWritten]

def Told.reportError (told : Told) (context : String) : Told :=
  match told.err with
  | some error =>
      let again := componentUpdateError told.device context error
      { again with
        pushed := told.pushed ++ again.pushed
        events := told.events }
  | none => told

variable {semver : Semver}

def resetConfig (device : Device) (run : Run semver) (params : UpdateParams) :
    Told :=
  if params.resetConfig then
    match run.resetConfigError with
    | some error => componentUpdateError device "Error resetting config" error
    | none => { device := device, events := [.configReset] }
  else { device := device }

def reboot (device : Device) (run : Run semver) (redirectTo : String) : Told :=
  match run.rebootError with
  | some error => componentUpdateError device "Error requesting reboot" error
  | none =>
      { device := { device with rebootRequested := true, isOver := true }
        events := [.rebooting redirectTo] }

/-- The end of a run -/
def requestReboot (device : Device) (run : Run semver) (params : UpdateParams)
    (statuses : Statuses) : Told :=
  if device.state.rebootNeeded then
    ((resetConfig device run params).andThen fun device =>
      reboot device run
        (if params.resetConfig then "/welcome"
          else "/settings/general/update")).noting
      (disableAutoUpdate run statuses)
  else { device := { device with isOver := true } }

def updatePendingApp (device : Device) (attempt : Attempt semver)
    (params : UpdateParams) (app : Update) : Told :=
  if app.status.pending then
    (updateApp device app (bypasses semver params app.status)
      (attempt.run.transfer .app) (attempt.reads .app)).reportError
      "Error updating app"
  else { device := device }

def updatePendingSystem (device : Device) (attempt : Attempt semver)
    (params : UpdateParams) (system : Update) : Told :=
  if system.status.pending then
    (updateSystem device system (bypasses semver params system.status)
      (attempt.run.transfer .system) (attempt.reads .system)
      attempt.ticks).reportError "Error updating system"
  else { device := device }

def updatePending (device : Device) (attempt : Attempt semver)
    (params : UpdateParams) (app system : Update) : Told :=
  (updatePendingApp device attempt params app).andThen fun device =>
  (updatePendingSystem device attempt params system).andThen fun device =>
  requestReboot device attempt.run params (app.status, system.status)

def markPending (run : Nat) (shouldUpdate : Bool) (update : Update) : Update :=
  if shouldUpdate && update.status.available then
    { status := { update.status with pending := true }
      figures := { update.figures with pending := some run } }
  else update

def storePending (component : Component) (shouldUpdate : Bool) (device : Device)
    (update : Update) : Told :=
  if shouldUpdate && update.status.available then
    triggerComponentUpdateState
      ({ device with state.updating := true }.reach component .pending)
      component (markPending device.run shouldUpdate update)
  else { device := device }

def storeAllPending (device : Device) (params : UpdateParams)
    (app system : Update) : Told :=
  (storePending .app (params.constraint .app).isSome device app).andThen
    fun device =>
  storePending .system (params.constraint .system).isSome device system

def updateMarked (device : Device) (attempt : Attempt semver)
    (params : UpdateParams) (app system : Update) : Told :=
  if !app.status.pending && !system.status.pending then
    triggerStateUpdate { device with state.updating := false, isOver := true }
  else updatePending device attempt params app system

/-- The rest of a run after its check -/
def updateAvailable (device : Device) (attempt : Attempt semver)
    (params : UpdateParams) (statuses : Statuses) : Told :=
  let app : Update := ⟨statuses.1, device.figures .app⟩
  let system : Update := ⟨statuses.2, device.figures .system⟩
  (storeAllPending device params app system).andThen fun device =>
  updateMarked device attempt params
    (markPending device.run (params.constraint .app).isSome app)
    (markPending device.run (params.constraint .system).isSome system)

/-- The state as a run starts -/
def Device.start (device : Device) : Device :=
  { device with
    state.updating := true
    run := device.run + 1
    isOver := false
    failed := false
    rebootRequested := false
    stage := fun _ => .idle }

/-- The rest of a run that has started -/
def checkAndUpdate (device : Device) (attempt : Attempt semver) : Told :=
  let params := attempt.run.params.withDefaults
  let shouldUpdateApp := (params.constraint .app).isSome
  let shouldUpdateSystem := (params.constraint .system).isSome
  if !shouldUpdateApp && !shouldUpdateSystem then
    componentUpdateError device
      ("Update aborted: no components were specified to update. " ++
        "Requested components: ")
      (showComponents params.components)
  else
    match getUpdateStatus device.state attempt.run params with
    | .error error =>
        componentUpdateError device "Error checking for updates" error
    | .ok (state, statuses) =>
        (triggerStateUpdate { device with
          state := state
          metadataFetchedAt := some device.run }).andThen fun device =>
        updateAvailable device attempt params statuses

def doUpdate (device : Device) (attempt : Attempt semver) : Told :=
  (triggerStateUpdate device.start).andThen fun device =>
  checkAndUpdate device attempt

/-- The call starts a run. -/
def Starts (device : Device) (attempt : Attempt semver) : Prop :=
  attempt.run.locked = false ∧ device.state.updating = false

instance (device : Device) (attempt : Attempt semver) :
    Decidable (Starts device attempt) :=
  inferInstanceAs (Decidable (_ ∧ _))

def tryUpdate (device : Device) (attempt : Attempt semver) : Told :=
  if Starts device attempt then doUpdate device attempt
  else { device := device, err := some "update already in progress" }

def step (device : Device) (attempt : Attempt semver) : Option Device :=
  some (tryUpdate device attempt).device

/-! ### The runs are those of the updater -/

theorem andThen_err {told : Told} {next : Device → Told} :
    (told.andThen next).err = none ↔
      told.err = none ∧ (next told.device).err = none := by
  cases ended : told.err <;> simp [Told.andThen, ended]

theorem reportError_err {told : Told} {context : String} :
    (told.reportError context).err = none ↔ told.err = none := by
  cases ended : told.err <;>
    simp [Told.reportError, ended, componentUpdateError]

/-- No error ends the step, and it has no events. -/
structure Told.Passes (told : Told) : Prop where
  err : told.err = none
  events : told.events = []

theorem Told.Passes.andThen {told : Told} {next : Device → Told}
    (first : told.Passes) (later : (next told.device).Passes) :
    (told.andThen next).Passes := by
  rw [Told.andThen, first.err]
  exact ⟨later.err, by simp [first.events, later.events]⟩

theorem downloading_passes (device : Device) (component : Component)
    (update : Update) (before : Rat) (contentLength written : Nat)
    (reads : List Nat) :
    (downloading device component update before contentLength written
      reads).Passes := by
  induction reads generalizing device update written with
  | nil => exact ⟨rfl, rfl⟩
  | cons read reads ih =>
      cases read with
      | zero => exact ih _ _ _
      | succ read =>
          simp only [downloading]
          split_ifs
          · exact .andThen ⟨rfl, rfl⟩ (ih _ _ _)
          · exact ih _ _ _

theorem verifying_passes (device : Device) (before : Rat)
    (fileSize verified : Nat) (reads : List Nat) :
    (verifying device before fileSize verified reads).Passes := by
  induction reads generalizing before verified with
  | nil => exact ⟨rfl, rfl⟩
  | cons read reads ih =>
      cases read with
      | zero => exact ih _ _
      | succ read =>
          simp only [verifying]
          split_ifs
          · exact .andThen ⟨rfl, rfl⟩ (ih _ _)
          · exact ih _ _

theorem downloadFile_eq {state : State} {component : Component}
    {transfer : Transfer}
    (present : (state.componentUpdateStatuses component).isSome) :
    downloadFile state component transfer =
      match transfer.download with
      | some error => .error error
      | none => .ok () := by
  obtain ⟨status, found⟩ := Option.isSome_iff_exists.mp present
  rw [downloadFile, found]
  cases transfer.download <;> rfl

section Follows

variable {told : Told} {ran : Ran} {device : Device} {component : Component}

def Present (state : State) : Prop :=
  ∀ component, (state.componentUpdateStatuses component).isSome

/-- The step leaves the state, the events and the error that the updater's step
leaves. -/
structure Follows (told : Told) (ran : Ran) : Prop where
  state : told.device.state = ran.state
  err : told.err = ran.err
  events : told.events = ran.events
  present : Present told.device.state

theorem Follows.andThen {next : Device → Told} {goesOn : State → Ran}
    (first : Follows told ran)
    (later : ∀ device, Present device.state →
      Follows (next device) (goesOn device.state)) :
    Follows (told.andThen next) (ran.andThen goesOn) := by
  have err := first.err
  cases ended : told.err with
  | some error =>
      rw [Told.andThen, Ran.andThen, ← err, ended]
      exact first
  | none =>
      have follows := later told.device first.present
      rw [first.state] at follows
      rw [Told.andThen, Ran.andThen, ← err, ended]
      exact ⟨follows.state, follows.err,
        congrArg₂ _ first.events follows.events, follows.present⟩

theorem Follows.noting (follows : Follows told ran) (events : List Event) :
    Follows (told.noting events)
      { ran with events := events ++ ran.events } :=
  ⟨follows.state, follows.err, congrArg _ follows.events, follows.present⟩

theorem Follows.reportError (follows : Follows told ran) (context : String) :
    Follows (told.reportError context) (ran.reportError context) := by
  have err := follows.err
  have state := follows.state
  cases ended : told.err with
  | none =>
      rw [Told.reportError, Ran.reportError, ← err, ended]
      exact follows
  | some error =>
      rw [Told.reportError, Ran.reportError, ← err, ended, ← state]
      exact ⟨rfl, rfl, follows.events, follows.present⟩

theorem follows_error (present : Present device.state)
    (context error : String) :
    Follows (componentUpdateError device context error)
      (Ota.componentUpdateError device.state context error) :=
  ⟨rfl, rfl, rfl, present⟩

theorem Present.setStatus {state : State} (present : Present state)
    (component : Component) (status : ComponentUpdateStatus) :
    Present (state.setStatus component status) := by
  intro other
  simp only [State.setStatus]
  split_ifs
  · rfl
  · exact present other

theorem setStatus_setStatus (state : State) (component : Component)
    (status : ComponentUpdateStatus) :
    (state.setStatus component status).setStatus component status =
      state.setStatus component status := by
  simp only [State.setStatus, State.mk.injEq, true_and]
  funext other
  split_ifs <;> rfl

theorem setStatus_storedStatus {state : State} (present : Present state)
    (component : Component) :
    state.setStatus component (state.storedStatus component) = state := by
  obtain ⟨status, found⟩ := Option.isSome_iff_exists.mp (present component)
  have same : (fun other => if other = component then
      some (state.storedStatus component)
      else state.componentUpdateStatuses other) =
      state.componentUpdateStatuses := by
    funext other
    split_ifs with isComponent
    · rw [isComponent, State.storedStatus, found, Option.getD_some]
    · rfl
  rw [State.setStatus, same]

theorem downloading_state {update : Update}
    (stored : device.state.setStatus component update.status = device.state)
    (before : Rat) (contentLength written : Nat) (reads : List Nat) :
    (downloading device component update before contentLength written
      reads).device.state = device.state := by
  induction reads generalizing device update written with
  | nil => rfl
  | cons read reads ih =>
      cases read with
      | zero => exact ih stored _
      | succ read =>
          simp only [downloading]
          split_ifs
          · refine (ih ?_ _).trans stored
            exact congrArg (·.setStatus component update.status) stored
          · exact ih stored _

theorem verifying_device (before : Rat) (fileSize verified : Nat)
    (reads : List Nat) :
    (verifying device before fileSize verified reads).device = device := by
  induction reads generalizing before verified with
  | nil => rfl
  | cons read reads ih =>
      cases read with
      | zero => exact ih _ _
      | succ read =>
          simp only [verifying]
          split_ifs
          · exact ih _ _
          · exact ih _ _

variable {update : Update} {bypass : Bool} {transfer : Transfer}
variable {reads : Reads} {next : Device → Update → Told} {goesOn : State → Ran}

theorem andThen_assoc (told : Told) (first second : Device → Told) :
    (told.andThen first).andThen second =
      told.andThen fun device => (first device).andThen second := by
  cases ended : told.err with
  | some error => simp [Told.andThen, ended]
  | none =>
      cases next : (first told.device).err <;>
        simp [Told.andThen, ended, next, List.append_assoc]

theorem noting_andThen (events : List Event) (next : Device → Told) :
    (told.noting events).andThen next = (told.andThen next).noting events := by
  cases ended : told.err <;> simp [Told.andThen, Told.noting, ended]

theorem Follows.after_noting {events : List Event} {next : Device → Told}
    (passes : told.Passes)
    (later : Follows ((next told.device).noting events) ran) :
    Follows ((told.andThen next).noting events) ran := by
  rw [Told.andThen, passes.err]
  refine ⟨later.state, later.err, ?_, later.present⟩
  simpa [Told.noting, passes.events] using later.events

theorem Follows.after {next : Device → Told} (passes : told.Passes)
    (later : Follows (next told.device) ran) :
    Follows (told.andThen next) ran :=
  @Follows.after_noting told ran [] next passes later

theorem follows_fetchAndVerify (present : Present device.state)
    (later : ∀ after update', update'.status = update.status →
      Present after.state →
      after.state.setStatus component update.status = after.state →
      Follows (next after update') (goesOn after.state)) :
    Follows
      (fetchAndVerify component device update bypass transfer reads next)
      ((Ota.fetchAndVerify component device.state update.status bypass
        transfer).andThen goesOn) := by
  rw [fetchAndVerify, fetch, Ota.fetchAndVerify, noting_andThen]
  cases downloadComponentSignature update.status bypass transfer with
  | error error => exact ⟨rfl, rfl, List.append_nil _, present⟩
  | ok signature =>
      simp only [andThen_assoc]
      refine .after_noting (downloading_passes _ _ _ _ _ _ _) ?_
      have state : (downloadProgress (device.reach component .downloading)
          component reads).device.state = device.state :=
        downloading_state (setStatus_storedStatus present component) _ _ _ _
      generalize (downloadProgress (device.reach component .downloading)
        component reads).device = downloaded at state ⊢
      rw [← state] at present ⊢
      rw [downloadFile_eq (present component)]
      cases transfer.download with
      | some error => exact ⟨rfl, rfl, List.append_nil _, present⟩
      | none =>
          have stored := present.setStatus component update.status
          simp only [andThen_assoc]
          refine .after_noting ⟨rfl, rfl⟩
            (.after_noting (verifying_passes _ _ _ _ _) ?_)
          rw [verifying_device]
          cases verifyFile update.status.hash signature transfer with
          | error error => exact ⟨rfl, rfl, List.append_nil _, stored⟩
          | ok done =>
              have follows := later
                (store
                  ((store (downloaded.reach component .downloaded) component
                    (downloadedUpdate downloaded.run update)).reach component
                      (verifiedStage component)) component
                  (verifiedUpdate downloaded.run update))
                (verifiedUpdate downloaded.run update) rfl
                (stored.setStatus component update.status)
                (setStatus_setStatus _ _ _)
              refine ⟨follows.state, follows.err, ?_, follows.present⟩
              simp only [Ran.andThen]
              rw [List.append_assoc (began _ _), List.append_assoc (began _ _)]
              exact congrArg (fun events : List Event => _ ++ (_ ++ events))
                follows.events

theorem follows_updateApp (present : Present device.state) :
    Follows (updateApp device update bypass transfer reads)
      (Ota.updateApp device.state update.status bypass transfer) :=
  follows_fetchAndVerify present fun _ _ _ stored _ => ⟨rfl, rfl, rfl, stored⟩

theorem ticker_state (stored : device.state.setStatus .system update.status =
    device.state) (ticks : Nat) :
    (ticker device update ticks).device.state = device.state := by
  induction ticks generalizing device update with
  | zero => rfl
  | succ ticks ih =>
      simp only [ticker]
      split_ifs
      · rfl
      · refine (ih ?_).trans stored
        exact congrArg (·.setStatus .system update.status) stored

theorem ticker_passes (device : Device) (update : Update) (ticks : Nat) :
    (ticker device update ticks).Passes := by
  induction ticks generalizing device update with
  | zero => exact ⟨rfl, rfl⟩
  | succ ticks ih =>
      simp only [ticker]
      split_ifs
      · exact ⟨rfl, rfl⟩
      · exact .andThen ⟨rfl, rfl⟩ (ih _ _)

theorem follows_updateSystem (present : Present device.state) (ticks : Nat) :
    Follows (updateSystem device update bypass transfer reads ticks)
      (Ota.updateSystem device.state update.status bypass transfer) := by
  refine follows_fetchAndVerify present ?_
  intro after update' same stored kept
  cases transfer.rkOtaStart with
  | some error => exact follows_error stored _ _
  | none =>
      refine .after (ticker_passes _ _ _) ?_
      have state : (ticker (after.reach .system .installing) update'
          ticks).device.state = after.state :=
        ticker_state (by rw [same]; exact kept) _
      generalize (ticker (after.reach .system .installing) update'
        ticks).device = ticked at state ⊢
      rw [← state] at stored ⊢
      cases transfer.rkOtaWait with
      | some error => exact follows_error stored _ _
      | none =>
          rw [← same]
          exact ⟨rfl, rfl, rfl, stored.setStatus .system update'.status⟩

variable {attempt : Attempt semver} {params : UpdateParams}

theorem follows_resetConfig (present : Present device.state)
    (run : Run semver) :
    Follows (resetConfig device run params)
      (Ota.resetConfig device.state run params) := by
  rw [resetConfig, Ota.resetConfig]
  split_ifs
  · cases run.resetConfigError with
    | some error => exact follows_error present _ _
    | none => exact ⟨rfl, rfl, rfl, present⟩
  · exact ⟨rfl, rfl, rfl, present⟩

theorem follows_reboot (present : Present device.state) (run : Run semver)
    (redirectTo : String) :
    Follows (reboot device run redirectTo)
      (Ota.reboot device.state run redirectTo) := by
  rw [reboot, Ota.reboot]
  cases run.rebootError with
  | some error => exact follows_error present _ _
  | none => exact ⟨rfl, rfl, rfl, present⟩

theorem follows_requestReboot (present : Present device.state)
    (run : Run semver) (statuses : Statuses) :
    Follows (requestReboot device run params statuses)
      (Ota.requestReboot device.state run params statuses) := by
  rw [requestReboot, Ota.requestReboot]
  split_ifs
  · refine .noting (.andThen (follows_resetConfig present run) ?_) _
    exact fun _ stored => follows_reboot stored run _
  · refine .noting (.andThen (follows_resetConfig present run) ?_) _
    exact fun _ stored => follows_reboot stored run _
  · exact ⟨rfl, rfl, rfl, present⟩

theorem follows_updatePending (present : Present device.state)
    (app system : Update) :
    Follows (updatePending device attempt params app system)
      (Ota.updatePending device.state attempt.run params
        (app.status, system.status)) := by
  rw [updatePending, Ota.updatePending, ← andThen_assoc]
  refine .andThen (.andThen ?_ fun middle stored => ?_) fun after stored =>
    follows_requestReboot stored _ _
  · rw [updatePendingApp]
    split_ifs
    · exact (follows_updateApp present).reportError _
    · exact ⟨rfl, rfl, rfl, present⟩
  · rw [updatePendingSystem]
    split_ifs
    · exact (follows_updateSystem stored _).reportError _
    · exact ⟨rfl, rfl, rfl, stored⟩

theorem follows_storePending (present : Present device.state)
    (component : Component) (shouldUpdate : Bool) :
    Follows (storePending component shouldUpdate device update)
      { state :=
          Ota.storePending component shouldUpdate device.state
            update.status } := by
  rw [storePending, Ota.storePending]
  split_ifs with marks
  · rw [markPending, if_pos marks]
    have stored : Present { device.state with updating := true } := present
    exact ⟨rfl, rfl, rfl, stored.setStatus component _⟩
  · exact ⟨rfl, rfl, rfl, present⟩

theorem markPending_status (run : Nat) (shouldUpdate : Bool) :
    (markPending run shouldUpdate update).status =
      Ota.markPending shouldUpdate update.status := by
  rw [markPending, Ota.markPending]
  split_ifs <;> rfl

theorem follows_updateMarked (present : Present device.state)
    (app system : Update) :
    Follows (updateMarked device attempt params app system)
      (if !app.status.pending && !system.status.pending then
        { state := { device.state with updating := false } }
      else
        Ota.updatePending device.state attempt.run params
          (app.status, system.status)) := by
  rw [updateMarked]
  split_ifs
  · exact ⟨rfl, rfl, rfl, present⟩
  · exact follows_updatePending present app system

theorem follows_storeAllPending (present : Present device.state)
    (app system : Update) :
    Follows (storeAllPending device params app system)
      { state :=
          Ota.storePending .system (params.constraint .system).isSome
            (Ota.storePending .app (params.constraint .app).isSome device.state
              app.status) system.status } := by
  have first := @follows_storePending device app present .app
    (params.constraint .app).isSome
  have second := @follows_storePending _ system first.present .system
    (params.constraint .system).isSome
  rw [first.state] at second
  exact second.after ⟨first.err, first.events⟩

theorem follows_updateAvailable (present : Present device.state)
    (statuses : Statuses) :
    Follows (updateAvailable device attempt params statuses)
      (Ota.updateAvailable device.state attempt.run params statuses) := by
  have stores := @follows_storeAllPending device params present
    ⟨statuses.1, device.figures .app⟩ ⟨statuses.2, device.figures .system⟩
  rw [updateAvailable, Ota.updateAvailable]
  refine .after ⟨stores.err, stores.events⟩ ?_
  obtain ⟨state, -, -, stored⟩ := stores
  generalize (storeAllPending device params ⟨statuses.1, device.figures .app⟩
    ⟨statuses.2, device.figures .system⟩).device = after at state stored ⊢
  have follows := @follows_updateMarked _ after attempt params stored
    (markPending after.run (params.constraint .app).isSome
      ⟨statuses.1, device.figures .app⟩)
    (markPending after.run (params.constraint .system).isSome
      ⟨statuses.2, device.figures .system⟩)
  rw [markPending_status, markPending_status, state] at follows
  exact follows

/-- A call leaves the state, the events and the error that it leaves in the
updater. -/
theorem follows_tryUpdate (present : Present device.state) :
    Follows (tryUpdate device attempt)
      (Ota.tryUpdate device.state attempt.run) := by
  rw [tryUpdate, Ota.tryUpdate]
  by_cases locked : attempt.run.locked = true
  · rw [if_neg (by simp [Starts, locked]), if_pos locked]
    exact ⟨rfl, rfl, rfl, present⟩
  rw [if_neg locked, Ota.doUpdate]
  by_cases updating : device.state.updating = true
  · rw [if_neg (by simp [Starts, updating]), if_pos updating]
    exact ⟨rfl, rfl, rfl, present⟩
  rw [if_pos (by simp [Starts, locked, updating]), if_neg updating, doUpdate]
  refine .after ⟨rfl, rfl⟩ ?_
  rw [checkAndUpdate]
  dsimp only
  split_ifs
  · exact @follows_error device.start present _ _
  rw [getUpdateStatus, getUpdateStatus]
  have same : ∀ component,
      (triggerStateUpdate device.start).device.state.storedStatus component =
        State.storedStatus { device.state with updating := true } component :=
    fun _ => rfl
  rw [same, same]
  cases checkUpdateStatus attempt.run attempt.run.params.withDefaults _ with
  | error error => exact @follows_error device.start present _ _
  | ok statuses =>
      exact .after ⟨rfl, rfl⟩ (follows_updateAvailable
        ((present.setStatus _ _).setStatus _ _) statuses)

end Follows

/-- The states between the calls are those of the updater. -/
theorem exec_step_follows {device : Device} (present : Present device.state)
    (attempts : List (Attempt semver)) :
    (exec step device attempts).map Device.state =
        exec Ota.step device.state (attempts.map Attempt.run) ∧
      ∀ last ∈ exec step device attempts, Present last.state := by
  induction attempts generalizing device with
  | nil => exact ⟨rfl, by rintro last ⟨⟩; exact present⟩
  | cons attempt attempts ih =>
      have follows := @follows_tryUpdate _ device attempt present
      have taken : step device attempt =
          some (tryUpdate device attempt).device := rfl
      have alsoTaken : Ota.step device.state attempt.run =
          some (tryUpdate device attempt).device.state :=
        congrArg some follows.state.symm
      rw [List.map_cons, exec_cons_of_step _ taken,
        exec_cons_of_step _ alsoTaken]
      exact ih follows.present

/-- After any calls the state is that of the updater, and the next call has the
events that it has there and returns the same error. -/
theorem exec_step_follows_from_start (attempts : List (Attempt semver)) :
    (exec step {} attempts).map Device.state =
        exec Ota.step {} (attempts.map Attempt.run) ∧
      ∀ last ∈ exec step {} attempts, ∀ attempt : Attempt semver,
        (tryUpdate last attempt).err =
            (Ota.tryUpdate last.state attempt.run).err ∧
          (tryUpdate last attempt).events =
            (Ota.tryUpdate last.state attempt.run).events := by
  obtain ⟨states, presents⟩ := @exec_step_follows semver {}
    (fun component => by cases component <;> rfl) attempts
  refine ⟨states, fun last reached attempt => ?_⟩
  have follows := @follows_tryUpdate _ last attempt (presents last reached)
  exact ⟨follows.err, follows.events⟩

end Status

end Ota

end JetKvm
