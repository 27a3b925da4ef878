import JetKvm.LabelledRuns
import JetKvm.OtaStatus

/-!
# What the status of an update tells

The states that the update runs push, and those between the runs, compared with
what really goes on.
-/

namespace JetKvm

namespace Ota

namespace Status

open LabelledRuns

variable {semver : Semver}

/-! ### Truthful states -/

/-- The figures that are there: the run that set each, with the stage that it
tells of -/
def Figures.fields (figures : Figures) : List (Nat × Stage) :=
  (figures.downloadProgress.map fun set => (set.1, Stage.downloading)).toList ++
    (figures.downloadFinishedAt.map fun run =>
      (run, Stage.downloaded)).toList ++
    (figures.verificationProgress.map fun set =>
      (set.1, Stage.verified)).toList ++
    (figures.verifiedAt.map fun run => (run, Stage.verified)).toList ++
    (figures.updateProgress.map fun set => (set.1, Stage.installing)).toList ++
    (figures.updatedAt.map fun run => (run, Stage.installed)).toList

/-- What is told of a component was set by the run, and the run has reached the
stage that it tells of. -/
def RPCComponent.IsOf (told : RPCComponent) (run : Nat) (stage : Stage) :
    Prop :=
  (told.updatePending = true →
    told.figures.pending = some run ∧ Stage.pending.number ≤ stage.number) ∧
  ∀ field ∈ told.figures.fields,
    field.1 = run ∧ field.2.number ≤ stage.number

/-- What `ToRPCState` tells is so. -/
structure Truthful (device : Device) : Prop where
  updating : device.toRPCState.updating = true ↔
    device.isOver = false ∨ device.rebootRequested = true
  error : device.toRPCState.error ≠ "" → device.failed = true
  components : ∀ component,
    (device.toRPCState.components component).IsOf device.run
      (device.stage component)

/-- Every state that the call pushes is truthful. -/
def TellsTruth (device : Device) (attempt : Attempt semver) : Prop :=
  ∀ pushed ∈ (tryUpdate device attempt).pushed, Truthful pushed

/-- The component is to be updated after the check. -/
def Updates (params : UpdateParams) (statuses : Statuses)
    (component : Component) : Prop :=
  ((params.constraint component).isSome &&
    (statuses.get component).available) = true

/-- The transfer of the component succeeds. -/
def Fetches (run : Run semver) (statuses : Statuses) (component : Component) :
    Prop :=
  (run.transfer component).Succeeds (statuses.get component)
    (bypasses semver run.params.withDefaults (statuses.get component))

/-- A run with these statuses comes to hand a verified file to `rk_ota`. -/
def Verifies (run : Run semver) (statuses : Statuses) : Prop :=
  Updates run.params.withDefaults statuses .system ∧
    (Updates run.params.withDefaults statuses .app →
      Fetches run statuses .app) ∧
    Fetches run statuses .system

/-- The run gets past its check and comes to hand a verified file to
`rk_ota`. -/
def VerifiesSystem (state : State) (run : Run semver) : Prop :=
  ∃ statuses,
    checkUpdateStatus run run.params.withDefaults
      (state.storedStatus .app, state.storedStatus .system) = .ok statuses ∧
      Verifies run statuses

/-- A run that starts does so after none has failed, and it does not come to
hand a verified file to `rk_ota`. -/
def StartsAfresh (device : Device) (attempt : Attempt semver) : Prop :=
  Starts device attempt →
    device.state.error = "" ∧ ¬ VerifiesSystem device.state attempt.run

/-! ### States of a run -/

def Update.IsOf (update : Update) (run : Nat) (stage : Stage) : Prop :=
  (applyComponentStatusToRPCState update).IsOf run stage

/-- What the state tells of the components is of its run. -/
def Shown (device : Device) : Prop :=
  ∀ component,
    (device.update component).IsOf device.run (device.stage component)

/-- The run goes on, and nothing has gone wrong. -/
structure Going (device : Device) : Prop where
  updating : device.state.updating = true
  error : device.state.error = ""
  isOver : device.isOver = false
  rebootRequested : device.rebootRequested = false
  present : ∀ component, (device.state.componentUpdateStatuses component).isSome
  shown : Shown device

/-- The run has failed. -/
structure HasFailed (device : Device) : Prop where
  updating : device.state.updating = false
  error : device.state.error ≠ ""
  isOver : device.isOver = true
  failed : device.failed = true
  rebootRequested : device.rebootRequested = false
  present : ∀ component, (device.state.componentUpdateStatuses component).isSome
  shown : Shown device

section Devices

variable {device : Device} {component other : Component} {update : Update}
variable {run : Nat} {stage later : Stage}

theorem Going.truthful (going : Going device) : Truthful device where
  updating := iff_of_true going.updating (.inl going.isOver)
  error told := absurd going.error told
  components := going.shown

theorem HasFailed.truthful (failed : HasFailed device) : Truthful device where
  updating := by
    simp [Device.toRPCState, failed.updating, failed.isOver,
      failed.rebootRequested]
  error _ := failed.failed
  components := failed.shown

theorem Update.IsOf.mono (isOf : update.IsOf run stage)
    (further : stage.number ≤ later.number) : update.IsOf run later := by
  refine ⟨fun pending => ?_, fun field isField => ?_⟩
  · obtain ⟨set, reached⟩ := isOf.1 pending
    exact ⟨set, Nat.le_trans reached further⟩
  · obtain ⟨set, reached⟩ := isOf.2 field isField
    exact ⟨set, Nat.le_trans reached further⟩

@[simp] theorem update_store_self :
    (store device component update).update component = update := by
  simp [store, Device.update, State.storedStatus, State.setStatus]

theorem update_store_of_ne (differs : other ≠ component) :
    (store device component update).update other = device.update other := by
  simp [store, Device.update, State.storedStatus, State.setStatus, differs]

theorem Shown.store (shown : Shown device)
    (isOf : update.IsOf device.run (device.stage component)) :
    Shown (store device component update) := by
  intro other
  by_cases same : other = component
  · subst same
    rw [update_store_self]
    exact isOf
  · rw [update_store_of_ne same]
    exact shown other

theorem Shown.reach (shown : Shown device)
    (further : (device.stage component).number ≤ stage.number) :
    Shown (device.reach component stage) := by
  intro other
  by_cases same : other = component
  · subst same
    simp only [Device.reach, Function.update_self]
    exact (shown other).mono further
  · simp only [Device.reach, Function.update_of_ne same]
    exact shown other

theorem isSome_store
    (present : ∀ other, (device.state.componentUpdateStatuses other).isSome)
    (other : Component) :
    ((store device component update).state.componentUpdateStatuses
      other).isSome := by
  simp only [Status.store, State.setStatus]
  split_ifs
  · rfl
  · exact present other

theorem Going.store (going : Going device)
    (isOf : update.IsOf device.run (device.stage component)) :
    Going (store device component update) where
  updating := going.updating
  error := going.error
  isOver := going.isOver
  rebootRequested := going.rebootRequested
  present := isSome_store going.present
  shown := going.shown.store isOf

theorem Going.reach (going : Going device)
    (further : (device.stage component).number ≤ stage.number) :
    Going (device.reach component stage) where
  updating := going.updating
  error := going.error
  isOver := going.isOver
  rebootRequested := going.rebootRequested
  present := going.present
  shown := going.shown.reach further

end Devices

/-! ### What a step of a run tells -/

/-- The step pushes truthful states only, and leaves a run that has failed or a
state as it should be. -/
structure Tells (told : Told) (good : Device → Prop) : Prop where
  pushed : ∀ pushed ∈ told.pushed, Truthful pushed
  failed : told.err.isSome → HasFailed told.device
  good : told.err = none → good told.device

namespace Tells

variable {told : Told} {good middle : Device → Prop} {device : Device}

theorem pure {events : List Event} (holds : good device) :
    Tells { device := device, events := events } good where
  pushed := List.forall_mem_nil _
  failed := nofun
  good _ := holds

theorem andThen {next : Device → Told} (first : Tells told middle)
    (later : ∀ device, middle device → Tells (next device) good) :
    Tells (told.andThen next) good := by
  cases ended : told.err with
  | some error =>
      have stops : told.andThen next = told := by rw [Told.andThen, ended]
      rw [stops]
      exact ⟨first.pushed, first.failed, by simp [ended]⟩
  | none =>
      have goesOn := later told.device (first.good ended)
      simp only [Told.andThen, ended]
      exact ⟨List.forall_mem_append.mpr ⟨first.pushed, goesOn.pushed⟩,
        goesOn.failed, goesOn.good⟩

theorem noting (tells : Tells told good) (events : List Event) :
    Tells (told.noting events) good :=
  ⟨tells.pushed, tells.failed, tells.good⟩

theorem mono (tells : Tells told middle)
    (implies : ∀ device, middle device → good device) : Tells told good :=
  ⟨tells.pushed, tells.failed, fun ended => implies _ (tells.good ended)⟩

theorem trigger (truthful : Truthful device) (holds : good device) :
    Tells (triggerStateUpdate device) good where
  pushed := List.forall_mem_singleton.mpr truthful
  failed := nofun
  good _ := holds

theorem push {next : Device → Told} (truthful : Truthful device)
    (later : Tells (next device) good) :
    Tells ((triggerStateUpdate device).andThen next) good where
  pushed := List.forall_mem_cons.mpr ⟨truthful, later.pushed⟩
  failed := later.failed
  good := later.good

theorem error {context error : String} (shown : Shown device)
    (rebootRequested : device.rebootRequested = false)
    (present : ∀ component,
      (device.state.componentUpdateStatuses component).isSome) :
    Tells (componentUpdateError device context error) good := by
  have failed : HasFailed (componentUpdateError device context error).device :=
    { updating := rfl
      error := by
        simp [componentUpdateError, Ota.componentUpdateError]
      isOver := rfl
      failed := rfl
      rebootRequested := rebootRequested
      present := present
      shown := shown }
  exact ⟨List.forall_mem_singleton.mpr failed.truthful, fun _ => failed,
    fun ended => absurd ended (Option.some_ne_none _)⟩

theorem of_failed (tells : Tells told middle) (failed : told.err ≠ none) :
    Tells told good :=
  ⟨tells.pushed, tells.failed, fun ended => absurd ended failed⟩

theorem reportError (tells : Tells told good) (context : String) :
    Tells (told.reportError context) good := by
  cases ended : told.err with
  | none =>
      simp only [Told.reportError, ended]
      exact tells
  | some message =>
      have failed := tells.failed (by simp [ended])
      have again :
          Tells (componentUpdateError told.device context message) good :=
        error failed.shown failed.rebootRequested failed.present
      simp only [Told.reportError, ended]
      exact ⟨List.forall_mem_append.mpr ⟨tells.pushed, again.pushed⟩,
        again.failed, fun ended => absurd ended (Option.some_ne_none _)⟩

end Tells

section Figures

variable {update : Update} {run : Nat} {stage : Stage}

theorem forall_fields {Value : Type} {set : Option Value}
    {field : Value → Nat × Stage} {condition : Nat × Stage → Prop} :
    (∀ told ∈ (set.map field).toList, condition told) ↔
      ∀ value ∈ set, condition (field value) := by
  cases set <;> simp

theorem isOf_iff : update.IsOf run stage ↔
    (update.status.pending = true →
      update.figures.pending = some run ∧ 1 ≤ stage.number) ∧
    (∀ set ∈ notZero update.figures.downloadProgress,
      set.1 = run ∧ 2 ≤ stage.number) ∧
    (∀ set ∈ update.figures.downloadFinishedAt, set = run ∧ 3 ≤ stage.number) ∧
    (∀ set ∈ notZero update.figures.verificationProgress,
      set.1 = run ∧ 4 ≤ stage.number) ∧
    (∀ set ∈ update.figures.verifiedAt, set = run ∧ 4 ≤ stage.number) ∧
    (∀ set ∈ notZero update.figures.updateProgress,
      set.1 = run ∧ 5 ≤ stage.number) ∧
    ∀ set ∈ update.figures.updatedAt, set = run ∧ 6 ≤ stage.number := by
  simp only [Update.IsOf, RPCComponent.IsOf, applyComponentStatusToRPCState,
    Figures.fields, List.forall_mem_append, and_assoc, forall_fields,
    Stage.number]

theorem fst_of_mem_notZero {progress : Rat} {set : Nat × Rat}
    (shown : set ∈ notZero (some (run, progress))) : set.1 = run := by
  obtain ⟨same, -⟩ := Option.filter_eq_some_iff.mp shown
  rw [← Option.some.inj same]

theorem isOf_downloadProgress (isOf : update.IsOf run stage)
    (reached : 2 ≤ stage.number) (progress : Rat) :
    Update.IsOf
      { update with figures.downloadProgress := some (run, progress) } run
      stage := by
  obtain ⟨pending, -, rest⟩ := isOf_iff.mp isOf
  refine isOf_iff.mpr ⟨pending, fun set shown => ?_, rest⟩
  exact ⟨fst_of_mem_notZero shown, reached⟩

theorem isOf_downloadedUpdate (isOf : update.IsOf run stage)
    (reached : 3 ≤ stage.number) :
    (downloadedUpdate run update).IsOf run stage := by
  have progress := isOf_downloadProgress isOf (by omega) 1
  obtain ⟨pending, download, -, rest⟩ := isOf_iff.mp progress
  refine isOf_iff.mpr ⟨pending, download, fun set finished => ?_, rest⟩
  exact ⟨(Option.some.inj finished).symm, reached⟩

theorem isOf_verifiedUpdate (isOf : update.IsOf run stage)
    (reached : 6 ≤ stage.number) :
    (verifiedUpdate run update).IsOf run stage := by
  have downloaded := isOf_downloadedUpdate isOf (by omega)
  obtain ⟨pending, download, finished, -⟩ := isOf_iff.mp downloaded
  refine isOf_iff.mpr ⟨pending, download, finished, ?_, ?_, ?_, ?_⟩
  · intro set shown
    exact ⟨fst_of_mem_notZero shown, by omega⟩
  · intro set verified
    exact ⟨(Option.some.inj verified).symm, by omega⟩
  · intro set shown
    exact ⟨fst_of_mem_notZero shown, by omega⟩
  · intro set updated
    exact ⟨(Option.some.inj updated).symm, reached⟩

/-- A verified status tells that the component has been updated. -/
theorem installed_of_verifiedUpdate
    (isOf : (verifiedUpdate run update).IsOf run stage) : 6 ≤ stage.number := by
  obtain ⟨-, -, -, -, -, -, updated⟩ := isOf_iff.mp isOf
  exact (updated run rfl).2

end Figures

/-- The step pushes a state that is not truthful. -/
def Told.Lies (told : Told) : Prop :=
  ∃ pushed ∈ told.pushed, ¬ Truthful pushed

section Lies

variable {told : Told} {next : Device → Told}

theorem Told.Lies.andThen (lies : told.Lies) : (told.andThen next).Lies := by
  obtain ⟨pushed, isPushed, false⟩ := lies
  refine ⟨pushed, ?_, false⟩
  cases ended : told.err with
  | some error => simpa [Told.andThen, ended] using isPushed
  | none =>
      simp only [Told.andThen, ended]
      exact List.mem_append_left _ isPushed

theorem Told.Lies.later (ended : told.err = none)
    (lies : (next told.device).Lies) : (told.andThen next).Lies := by
  obtain ⟨pushed, isPushed, false⟩ := lies
  refine ⟨pushed, ?_, false⟩
  simp only [Told.andThen, ended]
  exact List.mem_append_right _ isPushed

theorem Told.Lies.reportError (lies : told.Lies) (context : String) :
    (told.reportError context).Lies := by
  obtain ⟨pushed, isPushed, false⟩ := lies
  refine ⟨pushed, ?_, false⟩
  cases ended : told.err with
  | none => simpa [Told.reportError, ended] using isPushed
  | some error =>
      simp only [Told.reportError, ended]
      exact List.mem_append_left _ isPushed

end Lies

/-! ### The transfer of a component -/

/-- The run is the same, and only this component has moved on. -/
structure Along (component : Component) (before after : Device) : Prop where
  run : after.run = before.run
  others : ∀ other, other ≠ component → after.stage other = before.stage other

theorem downloading_tells {device : Device} {component : Component}
    {update : Update} (going : Going device)
    (isOf : update.IsOf device.run (device.stage component))
    (reached : 2 ≤ (device.stage component).number) (before : Rat)
    (contentLength written : Nat) (reads : List Nat) :
    Tells
      (downloading device component update before contentLength written reads)
      fun after => Going after ∧ after.run = device.run ∧
        after.stage = device.stage := by
  induction reads generalizing device update written with
  | nil => exact .pure ⟨going, rfl, rfl⟩
  | cons read reads ih =>
      cases read with
      | zero => exact ih going isOf reached written
      | succ read =>
          simp only [downloading]
          split_ifs
          · have isOfNow := isOf_downloadProgress isOf reached
              ((written + (read + 1) : Nat) / contentLength)
            have stored := going.store isOfNow
            exact .push stored.truthful (ih stored isOfNow reached _)
          · exact ih going isOf reached _

theorem verifying_tells {device : Device} (going : Going device)
    (before : Rat) (fileSize verified : Nat) (reads : List Nat) :
    Tells (verifying device before fileSize verified reads) (· = device) := by
  induction reads generalizing before verified with
  | nil => exact .pure rfl
  | cons read reads ih =>
      cases read with
      | zero => exact ih before verified
      | succ read =>
          simp only [verifying]
          split_ifs
          · exact .push going.truthful (ih _ _)
          · exact ih before _

section Fetch

variable {device : Device} {component : Component} {update : Update}
variable {bypass : Bool} {transfer : Transfer} {reads : Reads}

theorem downloadProgress_tells (going : Going device)
    (isPending : device.stage component = .pending) :
    Tells
      (downloadProgress (device.reach component .downloading) component reads)
      fun after => Going after ∧ after.run = device.run ∧
        after.stage = (device.reach component .downloading).stage := by
  have begun : Going (device.reach component .downloading) :=
    going.reach (by rw [isPending]; decide)
  exact downloading_tells begun (begun.shown component)
    (by simp [Device.reach, Stage.number]) _ _ _ _

theorem fetch_tells (going : Going device)
    (isPending : device.stage component = .pending)
    (isOf : update.IsOf device.run .pending) :
    Tells (fetch component device update bypass transfer reads) fun after =>
      Going after ∧ Along component device after := by
  rw [fetch]
  refine Tells.noting ?_ _
  cases downloadComponentSignature update.status bypass transfer with
  | error error => exact .error going.shown going.rebootRequested going.present
  | ok signature =>
      refine (downloadProgress_tells going isPending).andThen ?_
      rintro after ⟨goes, run, stages⟩
      rw [downloadFile_eq (goes.present component)]
      cases transfer.download with
      | some error => exact .error goes.shown goes.rebootRequested goes.present
      | none =>
          have stage : after.stage component = .downloading := by
            rw [stages]
            exact Function.update_self _ _ _
          have moved : Going (after.reach component .downloaded) :=
            goes.reach (by rw [stage]; decide)
          have isOfNow : (downloadedUpdate after.run update).IsOf after.run
              .downloaded := by
            rw [show after.run = device.run from run]
            exact isOf_downloadedUpdate (isOf.mono (by decide)) (by decide)
          have stored : Going (store (after.reach component .downloaded)
              component (downloadedUpdate after.run update)) := by
            refine moved.store ?_
            simp only [Device.reach, Function.update_self]
            exact isOfNow
          have along : Along component device (store
              (after.reach component .downloaded) component
              (downloadedUpdate after.run update)) := by
            refine ⟨run, fun other differs => ?_⟩
            simp only [Status.store, Device.reach, stages,
              Function.update_of_ne differs]
          refine .push stored.truthful
            ((verifying_tells stored _ _ _ _).andThen ?_)
          rintro _ rfl
          cases verifyFile update.status.hash signature transfer with
          | error error =>
              exact .error stored.shown stored.rebootRequested stored.present
          | ok done => exact .pure ⟨stored, along⟩

/-- The transfer comes to its end exactly if it succeeds. -/
theorem fetch_err (going : Going device)
    (isPending : device.stage component = .pending) :
    (fetch component device update bypass transfer reads).err = none ↔
      transfer.Succeeds update.status bypass := by
  rw [fetch, Told.noting, Transfer.Succeeds]
  cases downloadComponentSignature update.status bypass transfer with
  | error error => simp [componentUpdateError]
  | ok signature =>
      have downloads : (downloadProgress (device.reach component .downloading)
          component reads).err = none :=
        (downloading_passes _ _ _ _ _ _ _).err
      have present := ((downloadProgress_tells going isPending).good
        downloads).1.present component
      rw [andThen_err, downloadFile_eq present]
      cases transfer.download with
      | some error => simp [componentUpdateError]
      | none =>
          simp only [andThen_err, (verifying_passes _ _ _ _ _).err, true_and]
          cases verified : verifyFile update.status.hash signature transfer with
          | error error => simp [componentUpdateError, verified]
          | ok done =>
              simp [verified, downloads, triggerComponentUpdateState,
                triggerStateUpdate]

theorem updateApp_tells (going : Going device)
    (isPending : device.stage .app = .pending)
    (isOf : update.IsOf device.run .pending) :
    Tells (updateApp device update bypass transfer reads) fun after =>
      Going after ∧ Along .app device after ∧
        after.state.rebootNeeded = true := by
  rw [updateApp, fetchAndVerify]
  refine (fetch_tells going isPending isOf).andThen ?_
  rintro after ⟨goes, along⟩
  have isOfNow :
      (verifiedUpdate after.run update).IsOf after.run .installed := by
    rw [along.run]
    exact isOf_verifiedUpdate (isOf.mono (by decide)) (by decide)
  have installed : Going (after.reach .app .installed) :=
    goes.reach (by cases after.stage .app <;> decide)
  have stored : Going (store (after.reach .app .installed) .app
      (verifiedUpdate after.run update)) := by
    refine installed.store ?_
    simp only [Device.reach, Function.update_self]
    exact isOfNow
  refine .push stored.truthful (.pure ⟨?_, ?_, rfl⟩)
  · exact ⟨stored.updating, stored.error, stored.isOver, stored.rebootRequested,
      stored.present, stored.shown⟩
  · refine ⟨along.run, fun other differs => ?_⟩
    simp only [Status.store, Device.reach, Function.update_of_ne differs]
    exact along.others other differs

theorem updateApp_err (going : Going device)
    (isPending : device.stage .app = .pending) :
    (updateApp device update bypass transfer reads).err = none ↔
      transfer.Succeeds update.status bypass := by
  rw [updateApp, fetchAndVerify, andThen_err, fetch_err going isPending]
  exact and_iff_left (andThen_err.mpr ⟨rfl, rfl⟩)

variable {ticks : Nat}

/-- The update of the system is truthful as long as its file is not verified. -/
theorem updateSystem_tells {good : Device → Prop} (going : Going device)
    (isPending : device.stage .system = .pending)
    (isOf : update.IsOf device.run .pending)
    (fails : ¬ transfer.Succeeds update.status bypass) :
    Tells (updateSystem device update bypass transfer reads ticks) good := by
  have stops : Tells (fetch .system device update bypass transfer reads)
      fun _ => False :=
    (fetch_tells going isPending isOf).of_failed
      (mt (fetch_err going isPending).mp fails)
  rw [updateSystem, fetchAndVerify]
  exact stops.andThen fun _ impossible => impossible.elim

/-- Once the file is verified the status tells that the system was updated. -/
theorem updateSystem_lies (going : Going device)
    (isPending : device.stage .system = .pending)
    (succeeds : transfer.Succeeds update.status bypass) :
    (updateSystem device update bypass transfer reads ticks).Lies := by
  rw [updateSystem, fetchAndVerify]
  refine .later ((fetch_err going isPending).mpr succeeds) (.andThen ?_)
  refine ⟨_, List.mem_singleton_self _, fun truthful => ?_⟩
  have told := truthful.components .system
  simp only [Device.toRPCState, update_store_self] at told
  have reached := installed_of_verifiedUpdate told
  simp [Status.store, Device.reach, verifiedStage, Stage.number] at reached

end Fetch

/-! ### A run after its check -/

/-- No component is pending, and no figure is there. -/
structure Clean (device : Device) : Prop where
  pending : ∀ component, (device.state.storedStatus component).pending = false
  figures : ∀ component, device.figures component = {}

/-- A state between two runs; those that are over without having failed have
left no figure. -/
structure Settled (device : Device) : Prop where
  truthful : Truthful device
  present : ∀ component, (device.state.componentUpdateStatuses component).isSome
  clean : device.state.updating = false → device.state.error = "" → Clean device

theorem HasFailed.settled {device : Device} (failed : HasFailed device) :
    Settled device where
  truthful := failed.truthful
  present := failed.present
  clean _ noError := absurd noError failed.error

theorem isOf_of_clean {status : ComponentUpdateStatus}
    (notPending : status.pending = false) (run : Nat) (stage : Stage) :
    Update.IsOf ⟨status, {}⟩ run stage := by
  refine isOf_iff.mpr ⟨fun pending => ?_, ?_⟩
  · simp [notPending] at pending
  · simp [notZero]

theorem isOf_pending (status : ComponentUpdateStatus) (run : Nat) :
    Update.IsOf ⟨status, { pending := some run }⟩ run .pending := by
  refine isOf_iff.mpr ⟨fun _ => ⟨rfl, by decide⟩, ?_⟩
  simp [notZero]

theorem requestReboot_tells {device : Device} (run : Run semver)
    (params : UpdateParams) (statuses : Statuses) (going : Going device)
    (needed : device.state.rebootNeeded = true) :
    Tells (requestReboot device run params statuses) Settled := by
  rw [requestReboot, if_pos needed]
  have resets : Tells (resetConfig device run params) (device = ·) := by
    rw [resetConfig]
    split_ifs
    · cases run.resetConfigError with
      | some error =>
          exact .error going.shown going.rebootRequested going.present
      | none => exact .pure rfl
    · exact .pure rfl
  refine (resets.andThen ?_).noting _
  rintro _ rfl
  rw [reboot]
  cases run.rebootError with
  | some error => exact .error going.shown going.rebootRequested going.present
  | none =>
      refine .pure ⟨⟨?_, ?_, going.shown⟩, going.present, ?_⟩
      · exact iff_of_true going.updating (.inr rfl)
      · exact fun told => absurd going.error told
      · intro ended
        exact absurd (going.updating.symm.trans ended) (by decide)

section Pending

variable {device : Device} {attempt : Attempt semver} {params : UpdateParams}
variable {app system : Update}

/-- The update of the component comes to its end. -/
def Fetched (attempt : Attempt semver) (params : UpdateParams)
    (component : Component) (update : Update) : Prop :=
  (attempt.run.transfer component).Succeeds update.status
    (bypasses semver params update.status)

/-- The verified file of the system is handed to `rk_ota`. -/
def HandsOver (attempt : Attempt semver) (params : UpdateParams)
    (app system : Update) : Prop :=
  (app.status.pending = true → Fetched attempt params .app app) ∧
    system.status.pending = true ∧ Fetched attempt params .system system

/-- The run has marked the component as pending. -/
structure Marked (device : Device) (component : Component) (update : Update) :
    Prop where
  stage : device.stage component = .pending
  isOf : update.IsOf device.run .pending

theorem updatePendingApp_tells (going : Going device)
    (marked : app.status.pending = true → Marked device .app app) :
    Tells (updatePendingApp device attempt params app) fun after =>
      Going after ∧ Along .app device after ∧
        (app.status.pending = true → after.state.rebootNeeded = true) := by
  rw [updatePendingApp]
  split_ifs with pending
  · have here := marked pending
    refine ((updateApp_tells going here.stage here.isOf).mono ?_).reportError _
    rintro after ⟨goes, along, needed⟩
    exact ⟨goes, along, fun _ => needed⟩
  · exact .pure ⟨going, ⟨rfl, fun _ _ => rfl⟩, fun impossible =>
      absurd impossible pending⟩

theorem updatePendingApp_err (going : Going device)
    (marked : app.status.pending = true → Marked device .app app) :
    (updatePendingApp device attempt params app).err = none ↔
      (app.status.pending = true → Fetched attempt params .app app) := by
  rw [updatePendingApp]
  split_ifs with pending
  · rw [reportError_err, updateApp_err going (marked pending).stage]
    exact ⟨fun fetched _ => fetched, fun fetched => fetched pending⟩
  · exact iff_of_true rfl fun impossible => absurd impossible pending

theorem Marked.along {after : Device} (marked : Marked device .system system)
    (along : Along .app device after) : Marked after .system system where
  stage := (along.others .system (by decide)).trans marked.stage
  isOf := by
    rw [along.run]
    exact marked.isOf

theorem updateMarked_tells (going : Going device)
    (appMarked : app.status.pending = true → Marked device .app app)
    (systemMarked : system.status.pending = true → Marked device .system system)
    (somePending : app.status.pending = true ∨ system.status.pending = true)
    (fails : ¬ HandsOver attempt params app system) :
    Tells (updateMarked device attempt params app system) Settled := by
  have goesOn : ¬ (!app.status.pending && !system.status.pending) = true := by
    rcases somePending with pending | pending <;> simp [pending]
  rw [updateMarked, if_neg goesOn, updatePending]
  have appTells : Tells (updatePendingApp device attempt params app) _ :=
    updatePendingApp_tells going appMarked
  by_cases fetched : app.status.pending = true → Fetched attempt params .app app
  case neg =>
    have failed := mt (updatePendingApp_err going appMarked).mp fetched
    have stops : Tells (updatePendingApp device attempt params app)
        fun _ => False := appTells.of_failed failed
    exact stops.andThen fun _ impossible => impossible.elim
  refine appTells.andThen ?_
  rintro after ⟨goes, along, needed⟩
  rw [updatePendingSystem]
  split_ifs with pending
  · have here := (systemMarked pending).along along
    have stops : Tells (updateSystem after system
        (bypasses semver params system.status) (attempt.run.transfer .system)
        (attempt.reads .system) attempt.ticks) fun _ => False :=
      updateSystem_tells goes here.stage here.isOf fun verified =>
        fails ⟨fetched, pending, verified⟩
    exact (stops.reportError _).andThen fun _ impossible => impossible.elim
  · have appPending := somePending.resolve_right pending
    have ends : Tells { device := after } (· = after) := .pure rfl
    refine ends.andThen ?_
    rintro _ rfl
    exact requestReboot_tells attempt.run params _ goes (needed appPending)

theorem updateMarked_lies (going : Going device)
    (appMarked : app.status.pending = true → Marked device .app app)
    (systemMarked : system.status.pending = true → Marked device .system system)
    (handsOver : HandsOver attempt params app system) :
    (updateMarked device attempt params app system).Lies := by
  obtain ⟨fetched, pending, verified⟩ := handsOver
  have goesOn : ¬ (!app.status.pending && !system.status.pending) = true := by
    simp [pending]
  have ended := (updatePendingApp_err going appMarked).mpr fetched
  obtain ⟨goes, along, -⟩ := (updatePendingApp_tells going appMarked).good ended
  have here := (systemMarked pending).along along
  rw [updateMarked, if_neg goesOn, updatePending]
  refine .later ended (.andThen ?_)
  rw [updatePendingSystem, if_pos pending]
  exact (updateSystem_lies goes here.stage verified).reportError _

theorem updateMarked_upToDate (going : Going device) (clean : Clean device)
    (appIdle : app.status.pending = false)
    (systemIdle : system.status.pending = false) :
    Tells (updateMarked device attempt params app system) Settled := by
  have stops : (!app.status.pending && !system.status.pending) = true := by
    simp [appIdle, systemIdle]
  have truthful : Truthful
      { device with state.updating := false, isOver := true } :=
    { updating := by simp [Device.toRPCState, going.rebootRequested]
      error := fun told => absurd going.error told
      components := going.shown }
  rw [updateMarked, if_pos stops]
  exact .trigger truthful
    ⟨truthful, going.present, fun _ _ => ⟨clean.pending, clean.figures⟩⟩

end Pending

section Available

variable {device : Device} {component : Component} {update : Update}
variable {shouldUpdate : Bool} {run : Nat}

theorem markPending_pending (notPending : update.status.pending = false) :
    (markPending run shouldUpdate update).status.pending =
      (shouldUpdate && update.status.available) := by
  rw [markPending]
  split_ifs with marks
  · exact marks.symm
  · exact notPending.trans (Bool.eq_false_iff.mpr marks).symm

theorem storePending_eq_of_not
    (marks : (shouldUpdate && update.status.available) = false) :
    storePending component shouldUpdate device update =
      { device := device } := by
  simp [storePending, marks]

theorem storePending_err :
    (storePending component shouldUpdate device update).err = none := by
  rw [storePending]
  split_ifs <;> rfl

/-- Only the component that the run marks moves on. -/
theorem storePending_tells (going : Going device)
    (idle : device.stage component = .idle) (noFigures : update.figures = {}) :
    Tells (storePending component shouldUpdate device update) fun after =>
      Going after ∧ Along component device after ∧
        ((shouldUpdate && update.status.available) = true →
          Marked after component
            (markPending device.run shouldUpdate update)) := by
  rw [storePending]
  split_ifs with marks
  · have isOf : (markPending device.run shouldUpdate update).IsOf device.run
        .pending := by
      rw [markPending, if_pos marks, noFigures]
      exact isOf_pending _ _
    have moved : Going
        ({ device with state.updating := true }.reach component .pending) :=
      Going.reach ⟨rfl, going.error, going.isOver, going.rebootRequested,
        going.present, going.shown⟩ (by rw [idle]; decide)
    have stored : Going (store
        ({ device with state.updating := true }.reach component .pending)
        component (markPending device.run shouldUpdate update)) := by
      refine moved.store ?_
      simp only [Device.reach, Function.update_self]
      exact isOf
    refine .trigger stored.truthful ⟨stored, ⟨rfl, fun other differs => ?_⟩, ?_⟩
    · exact Function.update_of_ne differs _ _
    · exact fun _ => ⟨Function.update_self _ _ _, isOf⟩
  · exact .pure ⟨going, ⟨rfl, fun _ _ => rfl⟩, fun impossible =>
      absurd impossible marks⟩

end Available

/-! ### A run from its check -/

/-- The check has stored what it found, and nothing else is there. -/
structure JustChecked (device : Device) (statuses : Statuses) : Prop where
  going : Going device
  idle : ∀ component, device.stage component = .idle
  clean : Clean device
  stored : ∀ component,
    device.state.storedStatus component = statuses.get component

/-- The status of the component as the run marks it -/
def marked (run : Nat) (params : UpdateParams) (statuses : Statuses)
    (component : Component) : Update :=
  markPending run (params.constraint component).isSome
    ⟨statuses.get component, {}⟩

section Checked

variable {device : Device} {attempt : Attempt semver} {params : UpdateParams}
variable {statuses : Statuses}

theorem JustChecked.marked_pending (checked : JustChecked device statuses)
    (run : Nat) (component : Component) :
    (marked run params statuses component).status.pending = true ↔
      Updates params statuses component := by
  have notPending : (statuses.get component).pending = false :=
    checked.stored component ▸ checked.clean.pending component
  rw [marked, markPending_pending notPending, Updates]

theorem storeAllPending_tells (checked : JustChecked device statuses) :
    Tells (storeAllPending device params ⟨statuses.1, {}⟩ ⟨statuses.2, {}⟩)
      fun after => Going after ∧ ∀ component,
        Updates params statuses component →
          Marked after component
            (marked after.run params statuses component) := by
  rw [storeAllPending]
  refine (storePending_tells checked.going (checked.idle .app) rfl).andThen ?_
  rintro middle ⟨goes, along, appMarked⟩
  have idle := (along.others .system (by decide)).trans (checked.idle .system)
  refine (storePending_tells goes idle rfl).mono ?_
  rintro after ⟨going, alongSystem, systemMarked⟩
  refine ⟨going, fun component updates => ?_⟩
  cases component with
  | app =>
      have here := appMarked updates
      refine ⟨(alongSystem.others .app (by decide)).trans here.stage, ?_⟩
      have isOf := here.isOf
      rw [along.run] at isOf
      rw [alongSystem.run, along.run]
      exact isOf
  | system =>
      have here := systemMarked updates
      rw [alongSystem.run]
      exact here

theorem storeAllPending_err (app system : Update) :
    (storeAllPending device params app system).err = none :=
  andThen_err.mpr ⟨storePending_err, storePending_err⟩

theorem storeAllPending_eq_of_not
    (none_updates : ∀ component, ¬ Updates params statuses component) :
    storeAllPending device params ⟨statuses.1, {}⟩ ⟨statuses.2, {}⟩ =
      { device := device } := by
  have app := Bool.eq_false_iff.mpr (none_updates .app)
  have system := Bool.eq_false_iff.mpr (none_updates .system)
  rw [storeAllPending, storePending_eq_of_not app]
  simp only [Told.andThen]
  rw [storePending_eq_of_not system]
  rfl

theorem fetched_marked_iff (run : Nat) (component : Component) :
    Fetched attempt attempt.run.params.withDefaults component
        (marked run attempt.run.params.withDefaults statuses component) ↔
      Fetches attempt.run statuses component := by
  rw [marked, markPending]
  split_ifs <;> rfl

theorem JustChecked.handsOver_iff (checked : JustChecked device statuses)
    (run : Nat) :
    HandsOver attempt attempt.run.params.withDefaults
        (marked run attempt.run.params.withDefaults statuses .app)
        (marked run attempt.run.params.withDefaults statuses .system) ↔
      Verifies attempt.run statuses := by
  rw [HandsOver, Verifies, checked.marked_pending, checked.marked_pending,
    fetched_marked_iff, fetched_marked_iff]
  exact and_left_comm

theorem updateAvailable_tells (checked : JustChecked device statuses)
    (fails : ¬ Verifies attempt.run statuses) :
    Tells (updateAvailable device attempt attempt.run.params.withDefaults
      statuses) Settled := by
  simp only [updateAvailable, checked.clean.figures]
  by_cases updates : ∃ component,
      Updates attempt.run.params.withDefaults statuses component
  · obtain ⟨component, updates⟩ := updates
    refine (storeAllPending_tells checked).andThen ?_
    rintro after ⟨going, marks⟩
    have pending := (checked.marked_pending after.run component).mpr updates
    exact updateMarked_tells going
      (fun pending => marks .app ((checked.marked_pending _ _).mp pending))
      (fun pending => marks .system ((checked.marked_pending _ _).mp pending))
      (by
        cases component with
        | app => exact .inl pending
        | system => exact .inr pending)
      (mt (checked.handsOver_iff after.run).mp fails)
  · have upToDate := not_exists.mp updates
    have idle : ∀ component,
        (marked device.run attempt.run.params.withDefaults statuses
          component).status.pending = false := fun component =>
      Bool.eq_false_iff.mpr
        (mt (checked.marked_pending _ component).mp (upToDate component))
    rw [storeAllPending_eq_of_not upToDate]
    have begins : Tells { device := device } (device = ·) := .pure rfl
    refine begins.andThen ?_
    rintro _ rfl
    exact updateMarked_upToDate checked.going checked.clean (idle .app)
      (idle .system)

theorem updateAvailable_lies (checked : JustChecked device statuses)
    (verifies : Verifies attempt.run statuses) :
    (updateAvailable device attempt attempt.run.params.withDefaults
      statuses).Lies := by
  simp only [updateAvailable, checked.clean.figures]
  refine .later (storeAllPending_err _ _) ?_
  obtain ⟨going, marks⟩ :=
    (storeAllPending_tells checked).good (storeAllPending_err _ _)
  exact updateMarked_lies going
    (fun pending => marks .app ((checked.marked_pending _ _).mp pending))
    (fun pending => marks .system ((checked.marked_pending _ _).mp pending))
    ((checked.handsOver_iff _).mpr verifies)

end Checked

/-! ### Whole runs -/

section Runs

variable {device : Device} {attempt : Attempt semver}

/-- A run that starts after one that has failed tells of that failure. -/
theorem not_truthful_start (error : device.state.error ≠ "") :
    ¬ Truthful device.start := fun truthful =>
  absurd (truthful.error error) (by simp [Device.start])

theorem Clean.shown (clean : Clean device) : Shown device := by
  intro component
  rw [Device.update, clean.figures]
  exact isOf_of_clean (clean.pending component) _ _

theorem Settled.start (settled : Settled device)
    (idle : device.state.updating = false) (noError : device.state.error = "") :
    Going device.start ∧ Clean device.start := by
  have clean : Clean device.start :=
    ⟨(settled.clean idle noError).pending, (settled.clean idle noError).figures⟩
  exact ⟨⟨rfl, noError, rfl, rfl, settled.present, clean.shown⟩, clean⟩

theorem storedStatus_setStatus (state : State)
    (app system : ComponentUpdateStatus) (component : Component) :
    ((state.setStatus .app app).setStatus .system system).storedStatus
        component =
      Statuses.get (app, system) component := by
  cases component <;> rfl

/-- A check keeps the flags of pending components, and stores what it found. -/
theorem Going.justChecked {statuses : Statuses} (going : Going device)
    (idle : ∀ component, device.stage component = .idle) (clean : Clean device)
    (checks : checkUpdateStatus attempt.run attempt.run.params.withDefaults
      (device.state.storedStatus .app, device.state.storedStatus .system) =
        .ok statuses) :
    JustChecked { device with
      state := (device.state.setStatus .app statuses.1).setStatus .system
        statuses.2
      metadataFetchedAt := some device.run } statuses := by
  rw [checkUpdateStatus_eq_carry] at checks
  cases found : offered attempt.run with
  | error error => simp [found, Except.map] at checks
  | ok fresh =>
      simp only [found, Except.map, Except.ok.injEq] at checks
      subst checks
      have cleanAfter : Clean { device with
          state := (device.state.setStatus .app
              ((device.state.storedStatus .app).carry fresh.1)).setStatus
            .system ((device.state.storedStatus .system).carry fresh.2)
          metadataFetchedAt := some device.run } := by
        refine ⟨fun component => ?_, clean.figures⟩
        rw [storedStatus_setStatus]
        cases component
        · exact clean.pending .app
        · exact clean.pending .system
      exact
        { going :=
            { updating := going.updating
              error := going.error
              isOver := going.isOver
              rebootRequested := going.rebootRequested
              present := fun component => by cases component <;> rfl
              shown := cleanAfter.shown }
          idle := idle
          clean := cleanAfter
          stored := storedStatus_setStatus _ _ _ }

theorem checkAndUpdate_tells (going : Going device)
    (idle : ∀ component, device.stage component = .idle) (clean : Clean device)
    (fails : ¬ VerifiesSystem device.state attempt.run) :
    Tells (checkAndUpdate device attempt) Settled := by
  have stops : ∀ context error,
      Tells (componentUpdateError device context error) Settled := fun _ _ =>
    .error going.shown going.rebootRequested going.present
  rw [checkAndUpdate]
  split_ifs
  · exact stops _ _
  rw [getUpdateStatus]
  cases checks : checkUpdateStatus attempt.run attempt.run.params.withDefaults
      (device.state.storedStatus .app, device.state.storedStatus .system) with
  | error error => exact stops _ _
  | ok statuses =>
      have checked := going.justChecked idle clean checks
      exact .push checked.going.truthful (updateAvailable_tells checked
        fun verifies => fails ⟨statuses, checks, verifies⟩)

theorem checkAndUpdate_lies (going : Going device)
    (idle : ∀ component, device.stage component = .idle) (clean : Clean device)
    (verifies : VerifiesSystem device.state attempt.run) :
    (checkAndUpdate device attempt).Lies := by
  obtain ⟨statuses, checks, verifies⟩ := verifies
  have requested :
      (attempt.run.params.withDefaults.constraint .system).isSome = true := by
    have updates := verifies.1
    simp only [Updates, Bool.and_eq_true] at updates
    exact updates.1
  have goesOn : ¬ (!(attempt.run.params.withDefaults.constraint .app).isSome &&
      !(attempt.run.params.withDefaults.constraint .system).isSome) = true := by
    simp [requested]
  have checked := going.justChecked idle clean checks
  rw [checkAndUpdate, if_neg goesOn, getUpdateStatus, checks]
  exact .later rfl (updateAvailable_lies checked verifies)

theorem Settled.tryUpdate (settled : Settled device)
    (afresh : StartsAfresh device attempt) :
    (∀ pushed ∈ (tryUpdate device attempt).pushed, Truthful pushed) ∧
      Settled (tryUpdate device attempt).device := by
  rw [Status.tryUpdate]
  split_ifs with starts
  · obtain ⟨noError, fails⟩ := afresh starts
    obtain ⟨going, clean⟩ := settled.start starts.2 noError
    have tells : Tells (doUpdate device attempt) Settled :=
      .push going.truthful
        (checkAndUpdate_tells going (fun _ => rfl) clean fails)
    refine ⟨tells.pushed, ?_⟩
    cases ended : (doUpdate device attempt).err with
    | some error => exact (tells.failed (by simp [ended])).settled
    | none => exact tells.good ended
  · exact ⟨List.forall_mem_nil _, settled⟩

/-- From a settled state a call tells the truth exactly if it starts afresh. -/
theorem startsAfresh_iff (settled : Settled device) :
    StartsAfresh device attempt ↔ TellsTruth device attempt := by
  refine ⟨fun afresh => (settled.tryUpdate afresh).1, fun tells starts => ?_⟩
  rw [TellsTruth, tryUpdate, if_pos starts, doUpdate] at tells
  have noError : device.state.error = "" := by
    by_contra error
    exact not_truthful_start error (tells _ (List.mem_cons_self ..))
  refine ⟨noError, fun verifies => ?_⟩
  obtain ⟨going, clean⟩ := settled.start starts.2 noError
  obtain ⟨pushed, isPushed, false⟩ :=
    checkAndUpdate_lies going (fun _ => rfl) clean verifies
  exact false (tells pushed (List.mem_cons_of_mem _ isPushed))

theorem settled_initial : Settled {} where
  truthful :=
    { updating := by simp [Device.toRPCState]
      error := fun told => absurd rfl told
      components := fun component => isOf_of_clean rfl _ _ }
  present _ := rfl
  clean _ _ := ⟨fun _ => rfl, fun _ => rfl⟩

/-- Every state that is told, by a run or between runs, is truthful exactly if
each run starts after none has failed and none hands a system to `rk_ota`. -/
theorem tellsTruth_and_truthful_iff_startsAfresh
    (attempts : List (Attempt semver)) :
    (AllSteps step TellsTruth {} attempts ∧
        AllStates step Truthful {} attempts) ↔
      AllSteps step StartsAfresh {} attempts := by
  refine @allSteps_and_allStates_iff Device (Attempt semver) step Settled
    Truthful StartsAfresh TellsTruth Settled.truthful ?_ ?_ {} settled_initial
    attempts
  · intro device next attempt settled afresh taken
    obtain rfl := Option.some.inj taken
    exact (settled.tryUpdate afresh).2
  · intro device next attempt settled _
    exact startsAfresh_iff settled

/-- A run for a release without a signature -/
def unsignedAttempt : Attempt releases where
  run := failingRun [] "0.4.9"

/-- A run that starts after one without a signature still tells of its error. -/
theorem secondRun_not_tellsTruth :
    ¬ (AllSteps step TellsTruth {} [unsignedAttempt, unsignedAttempt] ∧
        AllStates step Truthful {} [unsignedAttempt, unsignedAttempt]) := by
  rintro ⟨tells, -⟩
  have second : TellsTruth (tryUpdate {} unsignedAttempt).device
      unsignedAttempt := ((tells _ rfl).2 _ rfl).1
  have starts : Starts (tryUpdate {} unsignedAttempt).device
      unsignedAttempt := by decide
  have error : (tryUpdate {} unsignedAttempt).device.state.error ≠ "" := by
    decide
  rw [TellsTruth, tryUpdate, if_pos starts] at second
  exact not_truthful_start error (second _ (List.mem_cons_self ..))

end Runs

end Status

end Ota

end JetKvm
