import JetKvm.LabelledRuns
import JetKvm.OtaUpdateRun
import Mathlib.Tactic.ByContra

/-!
# What survives from one update run to the next

The statuses of the components stay in the updater's state when a run fails.
A check overwrites most of a stored status, but two flags survive it:
`pending` and `customVersionUpdate`.  A history is a sequence of runs on one
state; the results say which histories install only what their runs ask for,
and which skip a signature check only when the run itself allows it.
-/

namespace JetKvm

namespace Ota

open LabelledRuns

/-- A stored status after a check that would turn a blank status into the
fresh one. -/
def ComponentUpdateStatus.carry (stored fresh : ComponentUpdateStatus) :
    ComponentUpdateStatus :=
  { fresh with
    pending := stored.pending
    customVersionUpdate := stored.customVersionUpdate || fresh.customVersionUpdate }

variable {semver : Semver}

theorem remoteMetadataToComponentStatus_eq_carry (remote : UpdateMetadata)
    (component : Component) (stored : ComponentUpdateStatus)
    (localVersion : String) (params : UpdateParams) :
    remoteMetadataToComponentStatus semver remote component
        { stored with localVersion := localVersion } params =
      (remoteMetadataToComponentStatus semver remote component
        { localVersion := localVersion } params).map stored.carry := by
  unfold remoteMetadataToComponentStatus
  dsimp only
  cases semver.newVersion localVersion with
  | error error => rfl
  | ok version =>
      dsimp only
      cases semver.newVersion (remote.fields component).version with
      | error error => rfl
      | ok remoteVersion =>
          dsimp only
          cases params.constraint component with
          | none => simp [Except.map, ComponentUpdateStatus.carry]
          | some constraint =>
              dsimp only
              split_ifs <;> simp [Except.map, ComponentUpdateStatus.carry]

/-- What the run's own check finds, starting from blank statuses, as
`GetUpdateStatus` reports it. -/
def offered (run : Run semver) : Except String Statuses :=
  checkUpdateStatus run run.params.withDefaults ({}, {})

/-- A check reads the stored statuses only through the two flags it keeps. -/
theorem checkUpdateStatus_eq_carry (run : Run semver)
    (app system : ComponentUpdateStatus) :
    checkUpdateStatus run run.params.withDefaults (app, system) =
      (offered run).map fun fresh =>
        (app.carry fresh.1, system.carry fresh.2) := by
  unfold offered checkUpdateStatus
  cases run.localVersion with
  | error error => rfl
  | ok versions =>
      obtain ⟨systemVersion, appVersion⟩ := versions
      cases fetchUpdateMetadata run run.params.withDefaults with
      | error error => rfl
      | ok remote =>
          simp only [Except.mapError, bind, Except.bind]
          rw [remoteMetadataToComponentStatus_eq_carry remote .app app,
            remoteMetadataToComponentStatus_eq_carry remote .system system]
          cases remoteMetadataToComponentStatus semver remote .app
              { localVersion := semver.toString appVersion }
              run.params.withDefaults with
          | error error => rfl
          | ok fresh =>
              cases remoteMetadataToComponentStatus semver remote .system
                  { localVersion := semver.toString systemVersion }
                  run.params.withDefaults with
              | error error => rfl
              | ok freshSystem => rfl

/-- The run asks for the component, by name or by naming none. -/
def Requested (run : Run semver) (component : Component) : Prop :=
  run.params.components = [] ∨ (run.params.constraint component).isSome

/-- The run names a non-empty custom version of the component. -/
def NamesCustomVersion (run : Run semver) (component : Component) : Prop :=
  ∃ constraint, run.params.constraint component = some constraint ∧
    constraint ≠ ""

theorem constraint_withDefaults_of_empty {params : UpdateParams}
    (empty : params.components = []) (component : Component) :
    params.withDefaults.constraint component = some "" := by
  have defaults : params.withDefaults =
      { params with components := [("app", ""), ("system", "")] } := by
    simp [UpdateParams.withDefaults, empty]
  rw [defaults]
  cases component <;> rfl

theorem withDefaults_of_nonempty {params : UpdateParams}
    (nonempty : params.components ≠ []) : params.withDefaults = params := by
  simp [UpdateParams.withDefaults, nonempty]

theorem requested_iff_constraint_withDefaults (run : Run semver)
    (component : Component) :
    Requested run component ↔
      (run.params.withDefaults.constraint component).isSome := by
  unfold Requested
  by_cases empty : run.params.components = []
  · simp [constraint_withDefaults_of_empty empty, empty]
  · simp [withDefaults_of_nonempty empty, empty]

theorem namesCustomVersion_of_withDefaults {run : Run semver}
    {component : Component} {constraint : String}
    (named : run.params.withDefaults.constraint component = some constraint)
    (nonempty : constraint ≠ "") : NamesCustomVersion run component := by
  by_cases empty : run.params.components = []
  · rw [constraint_withDefaults_of_empty empty] at named
    exact absurd (Option.some.inj named).symm nonempty
  · rw [withDefaults_of_nonempty empty] at named
    exact ⟨constraint, named, nonempty⟩

theorem exists_metadata_of_offered {run : Run semver} {offer : Statuses}
    (found : offered run = .ok offer) (component : Component) :
    ∃ remote localVersion,
      remoteMetadataToComponentStatus semver remote component
        { localVersion := localVersion } run.params.withDefaults =
          .ok (offer.get component) := by
  unfold offered checkUpdateStatus at found
  cases versions : run.localVersion with
  | error error => simp [versions, Except.mapError, bind, Except.bind] at found
  | ok versions' =>
      cases fetched : fetchUpdateMetadata run run.params.withDefaults with
      | error error =>
          simp [versions, fetched, Except.mapError, bind, Except.bind] at found
      | ok remote =>
          simp only [versions, fetched, Except.mapError, bind, Except.bind] at found
          cases app : remoteMetadataToComponentStatus semver remote .app
              { localVersion := semver.toString versions'.2 }
              run.params.withDefaults with
          | error error => simp [app] at found
          | ok fresh =>
              cases system : remoteMetadataToComponentStatus semver remote
                  .system { localVersion := semver.toString versions'.1 }
                  run.params.withDefaults with
              | error error => simp [app, system] at found
              | ok freshSystem =>
                  simp [app, system, pure, Except.pure] at found
                  subst found
                  cases component
                  · exact ⟨remote, _, app⟩
                  · exact ⟨remote, _, system⟩

/-- A component is offered only to a run that requests it, and as a custom
version only to a run that names one. -/
theorem requested_of_status {remote : UpdateMetadata} {component : Component}
    {localVersion : String} {params : UpdateParams}
    {status : ComponentUpdateStatus}
    (checked : remoteMetadataToComponentStatus semver remote component
      { localVersion := localVersion } params = .ok status) :
    status.pending = false ∧
      (status.available = true → (params.constraint component).isSome) ∧
      (status.customVersionUpdate = true →
        ∃ constraint, params.constraint component = some constraint ∧
          constraint ≠ "") := by
  unfold remoteMetadataToComponentStatus at checked
  dsimp only at checked
  split at checked
  · cases checked
  split at checked
  · cases checked
  split at checked
  case h_1 constraint named =>
    split_ifs at checked with custom
    all_goals
      obtain rfl := Except.ok.inj checked
      simp [named]
    exact custom
  case h_2 =>
    obtain rfl := Except.ok.inj checked
    simp

section Events

variable {state : State} {component : Component}
  {status : ComponentUpdateStatus} {bypass : Bool} {transfer : Transfer}

/-- The events with which the update of some component begins. -/
def Event.Begins (event : Event) : Prop :=
  ∃ component, event ∈ began component true

theorem Event.Begins.eq_or {event : Event} (begins : event.Begins) :
    ∃ component,
      event = .updating component ∨ event = .signatureBypassed component := by
  obtain ⟨component, member⟩ := begins
  exact ⟨component, by simpa [began] using member⟩

theorem mem_andThen_iff {event : Event} {ran : Ran} {next : State → Ran} :
    event ∈ (ran.andThen next).events ↔
      event ∈ ran.events ∨
        ran.err = none ∧ event ∈ (next ran.state).events := by
  unfold Ran.andThen
  cases failed : ran.err with
  | none => simp
  | some error => simp

theorem andThen_err_eq_none_iff {ran : Ran} {next : State → Ran} :
    (ran.andThen next).err = none ↔
      ran.err = none ∧ (next ran.state).err = none := by
  unfold Ran.andThen
  cases failed : ran.err with
  | none => simp
  | some error => simp [failed]

@[simp]
theorem reportError_events (ran : Ran) (context : String) :
    (ran.reportError context).events = ran.events := by
  unfold Ran.reportError
  cases ran.err <;> rfl

theorem reportError_err_eq_none_iff {ran : Ran} {context : String} :
    (ran.reportError context).err = none ↔ ran.err = none := by
  unfold Ran.reportError
  cases failed : ran.err with
  | none => simp [failed]
  | some error => simp [componentUpdateError]

theorem mem_fetchAndVerify_iff {event : Event} (begins : event.Begins) :
    event ∈ (fetchAndVerify component state status bypass transfer).events ↔
      event ∈ began component bypass := by
  unfold fetchAndVerify
  dsimp only
  split
  · rfl
  split
  · rfl
  split
  · rfl
  · have notVerified : ∀ other, event ≠ .signatureVerified other ∧
        event ≠ .fileVerified other := by
      obtain ⟨about, rfl | rfl⟩ := begins.eq_or <;> simp
    split_ifs <;> simp [notVerified]

/-- The transfer succeeds: the signature is there unless it is bypassed, and
the file is downloaded and verified. -/
def Transfer.Succeeds (transfer : Transfer) (status : ComponentUpdateStatus)
    (bypass : Bool) : Prop :=
  transfer.download = none ∧
    ∃ signature,
      downloadComponentSignature status bypass transfer = .ok signature ∧
        verifyFile status.hash signature transfer = .ok ()

theorem fetchAndVerify_err_eq_none_iff
    (present : (state.componentUpdateStatuses component).isSome) :
    (fetchAndVerify component state status bypass transfer).err = none ↔
      transfer.Succeeds status bypass := by
  obtain ⟨stored, present⟩ := Option.isSome_iff_exists.mp present
  unfold fetchAndVerify Transfer.Succeeds downloadFile
  rw [present]
  dsimp only
  cases downloadComponentSignature status bypass transfer with
  | error error => simp [componentUpdateError]
  | ok signature =>
      cases downloaded : transfer.download with
      | some error => simp [componentUpdateError]
      | none =>
          dsimp only
          cases verified : verifyFile status.hash signature transfer with
          | error error => simp [componentUpdateError, verified]
          | ok done => simp [verified]

theorem updateApp_err_eq_none_iff
    (present : (state.componentUpdateStatuses .app).isSome) :
    (updateApp state status bypass transfer).err = none ↔
      transfer.Succeeds status bypass := by
  unfold updateApp
  rw [andThen_err_eq_none_iff, fetchAndVerify_err_eq_none_iff present]
  exact and_iff_left rfl

theorem mem_updateApp_iff {event : Event} (begins : event.Begins) :
    event ∈ (updateApp state status bypass transfer).events ↔
      event ∈ began .app bypass := by
  unfold updateApp
  rw [mem_andThen_iff, mem_fetchAndVerify_iff begins]
  simp

theorem mem_updateSystem_iff {event : Event} (begins : event.Begins) :
    event ∈ (updateSystem state status bypass transfer).events ↔
      event ∈ began .system bypass := by
  unfold updateSystem
  rw [mem_andThen_iff, mem_fetchAndVerify_iff begins]
  apply or_iff_left
  rintro ⟨-, written⟩
  obtain ⟨about, rfl | rfl⟩ := begins.eq_or
  all_goals
    split at written <;> simp [componentUpdateError] at written

theorem not_mem_disableAutoUpdate {event : Event} (begins : event.Begins)
    (run : Run semver) (statuses : Statuses) :
    event ∉ disableAutoUpdate run statuses := by
  obtain ⟨about, rfl | rfl⟩ := begins.eq_or
  all_goals
    unfold disableAutoUpdate
    cases run.autoUpdateError <;> simp

theorem not_mem_resetConfig {event : Event} (begins : event.Begins)
    (run : Run semver) (params : UpdateParams) :
    event ∉ (resetConfig state run params).events := by
  obtain ⟨about, rfl | rfl⟩ := begins.eq_or
  all_goals
    unfold resetConfig
    cases run.resetConfigError <;> split_ifs <;> simp [componentUpdateError]

theorem not_mem_reboot {event : Event} (begins : event.Begins)
    (run : Run semver) (redirectTo : String) :
    event ∉ (reboot state run redirectTo).events := by
  obtain ⟨about, rfl | rfl⟩ := begins.eq_or
  all_goals
    unfold reboot
    cases run.rebootError <;> simp [componentUpdateError]

theorem not_mem_requestReboot {event : Event} (begins : event.Begins)
    (run : Run semver) (params : UpdateParams) (statuses : Statuses) :
    event ∉ (requestReboot state run params statuses).events := by
  by_cases needed : state.rebootNeeded = true
  · rw [requestReboot, if_pos needed]
    simp only [List.mem_append, mem_andThen_iff, not_or, not_and]
    exact ⟨not_mem_disableAutoUpdate begins run statuses,
      not_mem_resetConfig begins run params,
      fun _ => not_mem_reboot begins run _⟩
  · rw [requestReboot, if_neg needed]
    exact List.not_mem_nil

theorem setStatus_isSome (other : Component)
    (present : (state.componentUpdateStatuses other).isSome) :
    ((state.setStatus component status).componentUpdateStatuses other).isSome := by
  unfold State.setStatus
  dsimp only
  split_ifs
  · rfl
  · exact present

/-- The components a run updates: the pending ones, the system only after the
app has been updated or need not be. -/
theorem mem_updatePending_iff {event : Event} (begins : event.Begins)
    (present : (state.componentUpdateStatuses .app).isSome)
    (run : Run semver) (params : UpdateParams) (statuses : Statuses) :
    event ∈ (updatePending state run params statuses).events ↔
      statuses.1.pending = true ∧
        event ∈ began .app (bypasses semver params statuses.1) ∨
      statuses.2.pending = true ∧
        (statuses.1.pending = true →
          (run.transfer .app).Succeeds statuses.1
            (bypasses semver params statuses.1)) ∧
        event ∈ began .system (bypasses semver params statuses.2) := by
  unfold updatePending
  simp only [mem_andThen_iff, not_mem_requestReboot begins, and_false,
    or_false]
  by_cases app : statuses.1.pending = true
  · rw [if_pos app, reportError_events, mem_updateApp_iff begins,
      reportError_err_eq_none_iff, updateApp_err_eq_none_iff present]
    by_cases system : statuses.2.pending = true
    · simp [app, system, mem_updateSystem_iff begins]
    · simp [app, system]
  · rw [if_neg app]
    by_cases system : statuses.2.pending = true
    · simp [app, system, mem_updateSystem_iff begins]
    · simp [app, system]

end Events

/-- The run gets past its check, which offers the given statuses: no other run
holds the mutex or is still updating, a known component is requested, and the
versions and the metadata can be read. -/
structure Checked (state : State) (run : Run semver) (offer : Statuses) :
    Prop where
  unlocked : run.locked = false
  idle : state.updating = false
  requests : Requested run .app ∨ Requested run .system
  offers : offered run = .ok offer

/-- The component is pending once the run has passed its check. -/
def PendingAfter (state : State) (offer : Statuses) (component : Component) :
    Prop :=
  (state.storedStatus component).pending = true ∨
    (offer.get component).available = true

/-- The status with which the run goes on to a component. -/
def checkedStatus (state : State) (offer : Statuses) (component : Component) :
    ComponentUpdateStatus :=
  let status :=
    (state.storedStatus component).carry (offer.get component)
  { status with pending := status.pending || status.available }

theorem checkedStatus_pending_iff {state : State} {offer : Statuses}
    {component : Component} :
    (checkedStatus state offer component).pending = true ↔
      PendingAfter state offer component := by
  simp [checkedStatus, ComponentUpdateStatus.carry, PendingAfter]

theorem requested_of_available {run : Run semver} {offer : Statuses}
    (found : offered run = .ok offer) {component : Component}
    (available : (offer.get component).available = true) :
    Requested run component := by
  obtain ⟨remote, localVersion, checked⟩ := exists_metadata_of_offered found component
  rw [requested_iff_constraint_withDefaults]
  exact (requested_of_status checked).2.1 available

theorem namesCustomVersion_of_offered {run : Run semver} {offer : Statuses}
    (found : offered run = .ok offer) {component : Component}
    (custom : (offer.get component).customVersionUpdate = true) :
    NamesCustomVersion run component := by
  obtain ⟨remote, localVersion, checked⟩ := exists_metadata_of_offered found component
  obtain ⟨constraint, named, nonempty⟩ := (requested_of_status checked).2.2 custom
  exact namesCustomVersion_of_withDefaults named nonempty

theorem markPending_carry {run : Run semver} {offer : Statuses}
    (found : offered run = .ok offer) (state : State) (component : Component) :
    markPending (run.params.withDefaults.constraint component).isSome
        ((state.storedStatus component).carry (offer.get component)) =
      checkedStatus state offer component := by
  unfold markPending checkedStatus
  cases available : (offer.get component).available with
  | false => simp [ComponentUpdateStatus.carry, available]
  | true =>
      have requested := (requested_iff_constraint_withDefaults run component).mp
        (requested_of_available found available)
      simp [ComponentUpdateStatus.carry, available, requested]

theorem storePending_isSome {component other : Component}
    {shouldUpdate : Bool} {state : State} {status : ComponentUpdateStatus}
    (present : (state.componentUpdateStatuses other).isSome) :
    ((storePending component shouldUpdate state
      status).componentUpdateStatuses other).isSome := by
  unfold storePending
  split_ifs
  · exact setStatus_isSome other present
  · exact present

/-- The events of a run after a check that left the given statuses. -/
theorem mem_updateAvailable_iff {state before : State} {run : Run semver}
    {offer : Statuses} (found : offered run = .ok offer)
    (present : (state.componentUpdateStatuses .app).isSome) {event : Event}
    (begins : event.Begins) :
    event ∈ (updateAvailable state run run.params.withDefaults
        ((before.storedStatus .app).carry offer.1,
          (before.storedStatus .system).carry offer.2)).events ↔
      PendingAfter before offer .app ∧
        event ∈ began .app (bypasses semver run.params.withDefaults
          (checkedStatus before offer .app)) ∨
      PendingAfter before offer .system ∧
        (PendingAfter before offer .app →
          (run.transfer .app).Succeeds (checkedStatus before offer .app)
            (bypasses semver run.params.withDefaults
              (checkedStatus before offer .app))) ∧
        event ∈ began .system (bypasses semver run.params.withDefaults
          (checkedStatus before offer .system)) := by
  have app := markPending_carry found before .app
  have system := markPending_carry found before .system
  simp only [Statuses.get] at app system
  rw [updateAvailable]
  dsimp only
  rw [app, system, ← checkedStatus_pending_iff, ← checkedStatus_pending_iff]
  by_cases nothing : (!(checkedStatus before offer .app).pending &&
      !(checkedStatus before offer .system).pending) = true
  · rw [if_pos nothing]
    rw [Bool.and_eq_true, Bool.not_eq_true', Bool.not_eq_true'] at nothing
    simp [nothing.1, nothing.2]
  · rw [if_neg nothing, mem_updatePending_iff begins
      (storePending_isSome (storePending_isSome present))]

/-- A run that does not get past its check changes nothing outside itself. -/
theorem tryUpdate_events_of_not_checked {state : State} {run : Run semver}
    (unchecked : ∀ offer, ¬ Checked state run offer) :
    (tryUpdate state run).events = [] := by
  unfold tryUpdate
  by_cases locked : run.locked = true
  · rw [if_pos locked]
  · rw [if_neg locked, doUpdate]
    by_cases updating : state.updating = true
    · rw [if_pos updating]
    · rw [if_neg updating]
      dsimp only
      split_ifs with noneRequested
      · rfl
      · rw [getUpdateStatus, checkUpdateStatus_eq_carry]
        cases found : offered run with
        | error error => rfl
        | ok offer =>
            have requests : Requested run .app ∨ Requested run .system := by
              simp only [Bool.and_eq_true, Bool.not_eq_true', not_and_or,
                Bool.not_eq_false] at noneRequested
              rwa [requested_iff_constraint_withDefaults,
                requested_iff_constraint_withDefaults]
            exact absurd ⟨by simpa using locked, by simpa using updating,
              requests, found⟩ (unchecked offer)

/-- A run that gets past its check updates the components that are pending
then, the system only after the app has been updated or need not be. -/
theorem mem_tryUpdate_iff_of_checked {state : State} {run : Run semver}
    {offer : Statuses} (checked : Checked state run offer) {event : Event}
    (begins : event.Begins) :
    event ∈ (tryUpdate state run).events ↔
      PendingAfter state offer .app ∧
        event ∈ began .app (bypasses semver run.params.withDefaults
          (checkedStatus state offer .app)) ∨
      PendingAfter state offer .system ∧
        (PendingAfter state offer .app →
          (run.transfer .app).Succeeds (checkedStatus state offer .app)
            (bypasses semver run.params.withDefaults
              (checkedStatus state offer .app))) ∧
        event ∈ began .system (bypasses semver run.params.withDefaults
          (checkedStatus state offer .system)) := by
  have someRequested :
      ¬ ((!(run.params.withDefaults.constraint .app).isSome &&
        !(run.params.withDefaults.constraint .system).isSome) = true) := by
    simp only [Bool.and_eq_true, Bool.not_eq_true', not_and_or,
      Bool.not_eq_false]
    rw [← requested_iff_constraint_withDefaults,
      ← requested_iff_constraint_withDefaults]
    exact checked.requests
  rw [tryUpdate, if_neg (by simp [checked.unlocked]), doUpdate,
    if_neg (by simp [checked.idle])]
  dsimp only
  rw [if_neg someRequested, getUpdateStatus, checkUpdateStatus_eq_carry,
    checked.offers]
  exact mem_updateAvailable_iff checked.offers rfl begins

/-- A run that gets past its check goes on to update the component. -/
def Reaches (state : State) (run : Run semver) (offer : Statuses) :
    Component → Prop
  | .app => PendingAfter state offer .app
  | .system =>
      PendingAfter state offer .system ∧
        (PendingAfter state offer .app →
          (run.transfer .app).Succeeds (checkedStatus state offer .app)
            (bypasses semver run.params.withDefaults
              (checkedStatus state offer .app)))

/-- The component updates a run begins. -/
theorem mem_tryUpdate_iff {state : State} {run : Run semver} {event : Event}
    (begins : event.Begins) :
    event ∈ (tryUpdate state run).events ↔
      ∃ offer, Checked state run offer ∧
        ∃ component, Reaches state run offer component ∧
          event ∈ began component (bypasses semver run.params.withDefaults
            (checkedStatus state offer component)) := by
  constructor
  · intro member
    by_cases passes : ∃ offer, Checked state run offer
    · obtain ⟨offer, checked⟩ := passes
      refine ⟨offer, checked, ?_⟩
      rw [mem_tryUpdate_iff_of_checked checked begins] at member
      rcases member with ⟨app, event⟩ | ⟨system, afterApp, event⟩
      · exact ⟨.app, app, event⟩
      · exact ⟨.system, ⟨system, afterApp⟩, event⟩
    · rw [tryUpdate_events_of_not_checked (not_exists.mp passes)] at member
      exact absurd member List.not_mem_nil
  · rintro ⟨offer, checked, component, reaches, event⟩
    rw [mem_tryUpdate_iff_of_checked checked begins]
    cases component with
    | app => exact Or.inl ⟨reaches, event⟩
    | system => exact Or.inr ⟨reaches.1, reaches.2, event⟩

theorem updating_mem_iff {state : State} {run : Run semver}
    {component : Component} :
    .updating component ∈ (tryUpdate state run).events ↔
      ∃ offer, Checked state run offer ∧
        Reaches state run offer component := by
  rw [mem_tryUpdate_iff ⟨component, List.mem_cons_self⟩]
  simp [began]

theorem signatureBypassed_mem_iff {state : State} {run : Run semver}
    {component : Component} :
    .signatureBypassed component ∈ (tryUpdate state run).events ↔
      ∃ offer, Checked state run offer ∧
        Reaches state run offer component ∧
        bypasses semver run.params.withDefaults
          (checkedStatus state offer component) = true := by
  rw [mem_tryUpdate_iff
    ⟨component, List.mem_cons_of_mem _ List.mem_cons_self⟩]
  simp [began]

/-- The version parses as a pre-release. -/
def IsPrerelease (semver : Semver) (version : String) : Prop :=
  ∃ parsed, semver.newVersion version = .ok parsed ∧
    semver.prerelease parsed ≠ ""

theorem shouldBypassSignatureCheck_iff {version : String}
    {customVersionUpdate includePreRelease : Bool} :
    shouldBypassSignatureCheck semver version customVersionUpdate
        includePreRelease = true ↔
      customVersionUpdate = true ∨
        IsPrerelease semver version ∧ includePreRelease = true := by
  unfold shouldBypassSignatureCheck IsPrerelease
  cases customVersionUpdate with
  | true => simp
  | false =>
      cases semver.newVersion version with
      | error error => simp
      | ok parsed => simp

/-- The remote version is a pre-release and the run includes pre-releases. -/
def OptsIntoPrerelease (run : Run semver) (offer : Statuses)
    (component : Component) : Prop :=
  IsPrerelease semver (offer.get component).version ∧
    run.params.includePreRelease = true

/-- Each run is a step of the history. -/
def step (state : State) (run : Run semver) : Option State :=
  some (tryUpdate state run).state

/-- The run skips the signature check of a component only with leave from its
own parameters. -/
def BypassesWithLeave (state : State) (run : Run semver) : Prop :=
  ∀ component, .signatureBypassed component ∈ (tryUpdate state run).events →
    NamesCustomVersion run component ∨
      ∃ offer, offered run = .ok offer ∧ OptsIntoPrerelease run offer component

/-- The run does not go on to a component whose stored custom-version flag is
left from an earlier run, unless its own parameters allow the bypass too. -/
def CustomFlagFresh (state : State) (run : Run semver) : Prop :=
  ∀ offer, Checked state run offer → ∀ component,
    (state.storedStatus component).customVersionUpdate = true →
    Reaches state run offer component →
    NamesCustomVersion run component ∨ OptsIntoPrerelease run offer component

theorem withDefaults_includePreRelease (params : UpdateParams) :
    params.withDefaults.includePreRelease = params.includePreRelease := by
  unfold UpdateParams.withDefaults
  split_ifs <;> rfl

theorem bypasses_checkedStatus_iff {state : State} {run : Run semver}
    {offer : Statuses} {component : Component} :
    bypasses semver run.params.withDefaults
        (checkedStatus state offer component) = true ↔
      ((state.storedStatus component).customVersionUpdate = true ∨
        (offer.get component).customVersionUpdate = true) ∨
      OptsIntoPrerelease run offer component := by
  rw [bypasses, shouldBypassSignatureCheck_iff, withDefaults_includePreRelease]
  simp [checkedStatus, ComponentUpdateStatus.carry, OptsIntoPrerelease]

theorem bypassesWithLeave_iff {state : State} {run : Run semver} :
    BypassesWithLeave state run ↔ CustomFlagFresh state run := by
  constructor
  · intro withLeave offer checked component stored reaches
    have bypassed := signatureBypassed_mem_iff.mpr
      ⟨offer, checked, reaches,
        bypasses_checkedStatus_iff.mpr (Or.inl (Or.inl stored))⟩
    rcases withLeave component bypassed with named | ⟨other, found, optsIn⟩
    · exact Or.inl named
    · rw [checked.offers] at found
      exact Or.inr (Except.ok.inj found ▸ optsIn)
  · intro fresh component bypassed
    obtain ⟨offer, checked, reaches, bypass⟩ :=
      signatureBypassed_mem_iff.mp bypassed
    rcases bypasses_checkedStatus_iff.mp bypass with
      (stored | custom) | optsIn
    · exact (fresh offer checked component stored reaches).imp_right
        fun optsIn => ⟨offer, checked.offers, optsIn⟩
    · exact Or.inl (namesCustomVersion_of_offered checked.offers custom)
    · exact Or.inr ⟨offer, checked.offers, optsIn⟩

/-- From every state, the histories whose runs skip signature checks only with
leave from their own parameters are exactly those in which no run goes on to a
component whose stored custom-version flag is left from an earlier run. -/
theorem signature_bypass_history_iff (state : State)
    (runs : List (Run semver)) :
    AllSteps step BypassesWithLeave state runs ↔
      AllSteps step CustomFlagFresh state runs :=
  allSteps_congr (fun _ _ _ => trivial)
    (fun _ _ => bypassesWithLeave_iff) trivial runs

/-- The run updates a component only if it requests the component and its own
metadata makes the component available. -/
def UpdatesOnlyOffered (state : State) (run : Run semver) : Prop :=
  ∀ component, .updating component ∈ (tryUpdate state run).events →
    Requested run component ∧
      ∃ offer, offered run = .ok offer ∧
        (offer.get component).available = true

/-- The component is stored as pending but not available to the run. -/
def Stale (state : State) (offer : Statuses) (component : Component) : Prop :=
  (state.storedStatus component).pending = true ∧
    (offer.get component).available = false

/-- If the run gets past its check the app is not stale, and if the system is,
the update of the app fails. -/
def StopsBeforeStale (state : State) (run : Run semver) : Prop :=
  ∀ offer, Checked state run offer →
    ¬ Stale state offer .app ∧
      (Stale state offer .system →
        PendingAfter state offer .app ∧
          ¬ (run.transfer .app).Succeeds (checkedStatus state offer .app)
            (bypasses semver run.params.withDefaults
              (checkedStatus state offer .app)))

theorem updatesOnlyOffered_iff {state : State} {run : Run semver} :
    UpdatesOnlyOffered state run ↔ StopsBeforeStale state run := by
  constructor
  · intro onlyOffered offer checked
    have notStale : ∀ component, Reaches state run offer component →
        ¬ Stale state offer component := by
      intro component reaches stale
      obtain ⟨-, other, found, available⟩ := onlyOffered component
        (updating_mem_iff.mpr ⟨offer, checked, reaches⟩)
      rw [checked.offers] at found
      rw [← Except.ok.inj found, stale.2] at available
      cases available
    refine ⟨fun stale => notStale .app (Or.inl stale.1) stale, fun stale => ?_⟩
    by_contra reached
    refine notStale .system ⟨Or.inl stale.1, fun app => ?_⟩ stale
    by_contra fails
    exact reached ⟨app, fails⟩
  · intro stops component updating
    obtain ⟨offer, checked, reaches⟩ := updating_mem_iff.mp updating
    obtain ⟨appFresh, systemStops⟩ := stops offer checked
    have available : (offer.get component).available = true := by
      by_contra unavailable
      have unavailable := (Bool.not_eq_true _).mp unavailable
      cases component with
      | app =>
          have pending := reaches.resolve_right (by simp [unavailable])
          exact appFresh ⟨pending, unavailable⟩
      | system =>
          have pending := reaches.1.resolve_right (by simp [unavailable])
          obtain ⟨app, fails⟩ := systemStops ⟨pending, unavailable⟩
          exact fails (reaches.2 app)
    exact ⟨requested_of_available checked.offers available,
      offer, checked.offers, available⟩

/-- From every state, the histories whose runs update only what they request
and are offered are exactly those in which each run stops before a component
that is stored as pending but not available to it. -/
theorem update_history_iff (state : State) (runs : List (Run semver)) :
    AllSteps step UpdatesOnlyOffered state runs ↔
      AllSteps step StopsBeforeStale state runs :=
  allSteps_congr (fun _ _ _ => trivial)
    (fun _ _ => updatesOnlyOffered_iff) trivial runs

/-- A library that knows the releases below. -/
def releases : Semver where
  Version := Nat × Nat × Nat
  newVersion text :=
    if text = "0.2.5" then .ok (0, 2, 5)
    else if text = "0.4.7" then .ok (0, 4, 7)
    else if text = "0.4.8" then .ok (0, 4, 8)
    else if text = "0.4.9" then .ok (0, 4, 9)
    else .error "Invalid Semantic Version"
  greaterThan first second :=
    first.1 > second.1 || first.1 == second.1 &&
      (first.2.1 > second.2.1 || first.2.1 == second.2.1 &&
        first.2.2 > second.2.2)
  prerelease _ := ""
  toString version :=
    if version = (0, 2, 5) then "0.2.5"
    else if version = (0, 4, 7) then "0.4.7"
    else if version = (0, 4, 8) then "0.4.8"
    else "0.4.9"

/-- A run on a device with app 0.4.8 and system 0.2.5 against a server that
offers an app release without a signature and the same system; every download
fails. -/
def failingRun (components : List (String × String)) (appVersion : String) :
    Run releases where
  params := { components := components }
  localVersion := .ok ((0, 2, 5), (0, 4, 8))
  metadata _ := .response 200 (.ok
    { app := { version := appVersion }, system := { version := "0.2.5" } })
  transfer _ := { download := some "connection reset" }

/-- A failed run for a custom version, then an ordinary run. -/
theorem bypass_after_failed_custom_version :
    ¬ AllSteps step BypassesWithLeave {}
      [failingRun [("app", "0.4.7")] "0.4.7", failingRun [] "0.4.9"] := by
  intro withLeave
  have second := ((withLeave _ rfl).2 _ rfl).1 .app (by decide)
  rcases second with ⟨constraint, named, -⟩ | ⟨offer, -, -, optsIn⟩
  · cases named
  · cases optsIn

/-- A failed run for the app, then a run for the system only. -/
theorem app_updated_by_system_run :
    ¬ AllSteps step UpdatesOnlyOffered {}
      [failingRun [("app", "0.4.7")] "0.4.7",
        failingRun [("system", "")] "0.4.9"] := by
  intro onlyOffered
  have second := ((onlyOffered _ rfl).2 _ rfl).1 .app (by decide)
  rcases second.1 with none | named
  · cases none
  · cases named

end Ota

end JetKvm
