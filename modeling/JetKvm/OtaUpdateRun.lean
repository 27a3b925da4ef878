import Mathlib.Logic.Basic
import Mathlib.Tactic.SplitIfs

/-!
# Over-the-air update runs

Translation of `internal/ota`: one `State` lives as long as the process, and
each `TryUpdate` checks the release server and downloads, verifies and
installs the pending components.  What the outside world answers (the local
versions, the server's replies, the downloads, the GPG verifier, `rk_ota`, the
reboot) is an input of the run; what the run does to a component is recorded
as events.  Progress figures and timestamps are left out: nothing decides on
them.

The semantic-version library is a parameter.
-/

namespace JetKvm

namespace Ota

/-- The operations of the semantic-version library the updater uses. -/
structure Semver where
  Version : Type
  newVersion : String → Except String Version
  greaterThan : Version → Version → Bool
  prerelease : Version → String
  toString : Version → String

/-- The components in `availableComponents`. -/
inductive Component where
  | app
  | system
  deriving DecidableEq, Repr

def Component.name : Component → String
  | .app => "app"
  | .system => "system"

/-- `Components` is a map from component names to version constraints, here as
the list of its entries; any name can be requested. -/
structure UpdateParams where
  deviceID : String := ""
  sku : String := ""
  components : List (String × String) := []
  includePreRelease : Bool := false
  resetConfig : Bool := false
  deriving DecidableEq, Repr

/-- The constraint requested for a component, if the component is requested. -/
def UpdateParams.constraint (params : UpdateParams) (component : Component) :
    Option String :=
  params.components.lookup component.name

structure ComponentMetadata where
  version : String := ""
  url : String := ""
  hash : String := ""
  sigURL : String := ""
  deriving DecidableEq, Repr

structure UpdateMetadata where
  app : ComponentMetadata
  system : ComponentMetadata
  deriving DecidableEq, Repr

/-- The fields with the prefix of the component in `componentFieldMap`. -/
def UpdateMetadata.fields (remote : UpdateMetadata) :
    Component → ComponentMetadata
  | .app => remote.app
  | .system => remote.system

structure ComponentUpdateStatus where
  pending : Bool := false
  available : Bool := false
  availableReason : String := ""
  customVersionUpdate : Bool := false
  version : String := ""
  localVersion : String := ""
  url : String := ""
  hash : String := ""
  sigUrl : String := ""
  deriving DecidableEq, Repr

structure State where
  updating : Bool := false
  error : String := ""
  rebootNeeded : Bool := false
  componentUpdateStatuses : Component → Option ComponentUpdateStatus :=
    fun _ => some {}

/-- A request of the HTTP client: it fails, or the server answers with a
status code and a body that may turn out to be unreadable. -/
inductive Reply (Body : Type) where
  | failed (error : String)
  | response (statusCode : Nat) (body : Except String Body)

/-- How fetching and verifying one component goes.  `digest` is the hash of
the downloaded file. -/
structure Transfer where
  signature : Reply (List UInt8) := .response 404 (.ok [])
  download : Option String := none
  digest : Except String String := .error "no file"
  gpg : Option String := none
  rename : Option String := none
  rkOtaStart : Option String := none
  rkOtaWait : Option String := none

/-- One call of `TryUpdate`: its parameters, whether another call holds the
mutex, and everything the outside world answers. -/
structure Run (semver : Semver) where
  params : UpdateParams
  locked : Bool := false
  endpointError : Option String := none
  localVersion : Except String (semver.Version × semver.Version)
  metadata : List (String × String) → Reply UpdateMetadata
  transfer : Component → Transfer
  autoUpdateError : Option String := none
  resetConfigError : Option String := none
  rebootError : Option String := none

/-- What a run does that outlives it. -/
inductive Event where
  | updating (component : Component)
  | signatureBypassed (component : Component)
  | signatureVerified (component : Component)
  | fileVerified (component : Component)
  | systemWritten
  | autoUpdateDisabled
  | configReset
  | rebooting (redirectTo : String)
  deriving DecidableEq, Repr

/-- The state a step leaves, the events it adds, and its error. -/
structure Ran where
  state : State
  events : List Event := []
  err : Option String := none

/-- Continue after a step that succeeded. -/
def Ran.andThen (ran : Ran) (next : State → Ran) : Ran :=
  match ran.err with
  | some _ => ran
  | none =>
      let later := next ran.state
      { later with events := ran.events ++ later.events }

variable {semver : Semver}

def errVersionNotFound : String := "specified version not found"

/-- The query of the update URL, and whether a custom version is requested. -/
def getUpdateURL (params : UpdateParams) : List (String × String) × Bool :=
  let custom := params.components.filter fun entry => entry.2 ≠ ""
  let query :=
    [("deviceId", params.deviceID),
        ("prerelease", if params.includePreRelease then "true" else "false")] ++
      (if params.sku ≠ "" then [("sku", params.sku)] else []) ++
      custom.map fun entry => (entry.1 ++ "Version", entry.2)
  (query, !custom.isEmpty)

def fetchUpdateMetadata (run : Run semver) (params : UpdateParams) :
    Except String UpdateMetadata :=
  match run.endpointError with
  | some error => .error s!"error getting update URL: {error}"
  | none =>
      let (query, isCustomVersion) := getUpdateURL params
      match run.metadata query with
      | .failed error => .error s!"error sending request: {error}"
      | .response statusCode body =>
          if isCustomVersion ∧ statusCode = 404 then
            .error errVersionNotFound
          else if statusCode ≠ 200 then
            .error s!"unexpected status code: {statusCode}"
          else
            match body with
            | .error error => .error s!"error decoding response: {error}"
            | .ok metadata => .ok metadata

/-- Copy the remote metadata of a component into its status and decide whether
the update is available.  The flags `pending` and `customVersionUpdate` are
kept unless a custom version is available. -/
def remoteMetadataToComponentStatus (semver : Semver)
    (remote : UpdateMetadata) (component : Component)
    (status : ComponentUpdateStatus) (params : UpdateParams) :
    Except String ComponentUpdateStatus :=
  let fields := remote.fields component
  let status :=
    { status with
      url := fields.url
      hash := fields.hash
      version := fields.version
      sigUrl := fields.sigURL }
  match semver.newVersion status.localVersion with
  | .error error => .error s!"error parsing local version: {error}"
  | .ok localVersion =>
      match semver.newVersion status.version with
      | .error error => .error s!"error parsing remote version: {error}"
      | .ok remoteVersion =>
          let available := semver.greaterThan remoteVersion localVersion
          let reason :=
            "remote version " ++ semver.toString remoteVersion ++
              " is greater than local version " ++
              semver.toString localVersion
          let reason :=
            if semver.prerelease remoteVersion ≠ "" ∧
                params.includePreRelease ∧ available then
              reason ++ " (pre-release)"
            else reason
          match params.constraint component with
          | some constraint =>
              if constraint ≠ "" then
                if status.version ≠ status.localVersion then
                  .ok { status with
                    available := true
                    availableReason :=
                      "custom version " ++ constraint ++
                        " is not equal to local version " ++
                        status.localVersion
                    customVersionUpdate := true }
                else
                  .ok { status with available := false, availableReason := reason }
              else
                .ok { status with
                  available := available, availableReason := reason }
          | none =>
              .ok { status with
                available := false
                availableReason :=
                  "component not specified in update parameters" }

/-- The statuses of the app and the system. -/
abbrev Statuses := ComponentUpdateStatus × ComponentUpdateStatus

def Statuses.get (statuses : Statuses) : Component → ComponentUpdateStatus
  | .app => statuses.1
  | .system => statuses.2

def checkUpdateStatus (run : Run semver) (params : UpdateParams)
    (statuses : Statuses) : Except String Statuses := do
  let (systemVersionLocal, appVersionLocal) ←
    run.localVersion.mapError fun error =>
      s!"error getting local version: {error}"
  let app :=
    { statuses.1 with localVersion := semver.toString appVersionLocal }
  let system :=
    { statuses.2 with localVersion := semver.toString systemVersionLocal }
  let remote ← (fetchUpdateMetadata run params).mapError fun error =>
    if error = errVersionNotFound then error
    else s!"error checking for updates: {error}"
  let app ←
    (remoteMetadataToComponentStatus semver remote .app app params).mapError
      fun error => s!"error parsing remote app version: {error}"
  let system ←
    (remoteMetadataToComponentStatus semver remote .system system
      params).mapError
      fun error => s!"error parsing remote system version: {error}"
  return (app, system)

def State.setStatus (state : State) (component : Component)
    (status : ComponentUpdateStatus) : State :=
  { state with
    componentUpdateStatuses := fun other =>
      if other = component then some status
      else state.componentUpdateStatuses other }

/-- The stored status of a component, or a blank one. -/
def State.storedStatus (state : State) (component : Component) :
    ComponentUpdateStatus :=
  (state.componentUpdateStatuses component).getD {}

/-- The statuses are written back only when the check succeeds. -/
def getUpdateStatus (state : State) (run : Run semver)
    (params : UpdateParams) : Except String (State × Statuses) := do
  let (app, system) ← checkUpdateStatus run params
    (state.storedStatus .app, state.storedStatus .system)
  return ((state.setStatus .app app).setStatus .system system, (app, system))

def componentUpdateError (state : State) (context error : String) : Ran where
  state := { state with error := context ++ ": " ++ error, updating := false }
  err := some error

def shouldBypassSignatureCheck (semver : Semver) (version : String)
    (customVersionUpdate includePreRelease : Bool) : Bool :=
  if customVersionUpdate then true
  else
    match semver.newVersion version with
    | .error _ => false
    | .ok remoteVersion =>
        semver.prerelease remoteVersion ≠ "" && includePreRelease

def downloadSignature (reply : Reply (List UInt8)) :
    Except String (List UInt8) :=
  match reply with
  | .failed error => .error s!"error downloading signature: {error}"
  | .response statusCode body =>
      if statusCode ≠ 200 then
        .error s!"signature download failed with status {statusCode}"
      else
        match body with
        | .error error => .error s!"error reading signature: {error}"
        | .ok signature =>
            if signature.isEmpty then .error "signature file is empty"
            else .ok signature

/-- The signature of a component; none when the check is bypassed. -/
def downloadComponentSignature (status : ComponentUpdateStatus)
    (bypassSignatureCheck : Bool) (transfer : Transfer) :
    Except String (Option (List UInt8)) :=
  if bypassSignatureCheck then .ok none
  else if status.sigUrl = "" then
    .error ("version " ++ status.version ++
      " requires GPG signature but API returned no signature URL")
  else (downloadSignature transfer.signature).map some

/-- `verifyFile`: the hash, then the GPG signature if there is one, then the
move of the file into place. -/
def verifyFile (expectedHash : String) (signature : Option (List UInt8))
    (transfer : Transfer) : Except String Unit := do
  let digest ← transfer.digest
  if digest ≠ expectedHash then
    throw ("hash mismatch: " ++ digest ++ " != " ++ expectedHash)
  if signature.isSome then
    match transfer.gpg with
    | some error => throw ("GPG signature verification failed: " ++ error)
    | none => pure ()
  match transfer.rename with
  | some error => throw error
  | none => pure ()

def downloadFile (state : State) (component : Component)
    (transfer : Transfer) : Except String Unit :=
  match state.componentUpdateStatuses component, transfer.download with
  | none, _ => .error ("component " ++ component.name ++ " not found")
  | some _, some error => .error error
  | some _, none => .ok ()

/-- The events with which the update of a component begins. -/
def began (component : Component) (bypassSignatureCheck : Bool) : List Event :=
  .updating component ::
    if bypassSignatureCheck then [.signatureBypassed component] else []

/-- What `updateApp` and `updateSystem` have in common: fetch the signature
unless it is bypassed, download the file, and verify it. -/
def fetchAndVerify (component : Component) (state : State)
    (status : ComponentUpdateStatus) (bypassSignatureCheck : Bool)
    (transfer : Transfer) : Ran :=
  let began := began component bypassSignatureCheck
  let stop (state : State) (context error : String) : Ran :=
    { componentUpdateError state context error with events := began }
  match downloadComponentSignature status bypassSignatureCheck transfer with
  | .error error =>
      stop state ("Error with " ++ component.name ++ " signature") error
  | .ok signature =>
      match downloadFile state component transfer with
      | .error error =>
          stop state ("Error downloading " ++ component.name ++ " update") error
      | .ok () =>
          let state := state.setStatus component status
          match verifyFile status.hash signature transfer with
          | .error error =>
              stop state ("Error verifying " ++ component.name ++ " update")
                error
          | .ok () =>
              { state := state.setStatus component status
                events := began ++
                  (if signature.isSome then [.signatureVerified component]
                    else []) ++
                  [.fileVerified component] }

def updateApp (state : State) (status : ComponentUpdateStatus)
    (bypassSignatureCheck : Bool) (transfer : Transfer) : Ran :=
  (fetchAndVerify .app state status bypassSignatureCheck transfer).andThen
    fun state => { state := { state with rebootNeeded := true } }

/-- `updateSystem` hands the verified file to `rk_ota`. -/
def updateSystem (state : State) (status : ComponentUpdateStatus)
    (bypassSignatureCheck : Bool) (transfer : Transfer) : Ran :=
  (fetchAndVerify .system state status bypassSignatureCheck transfer).andThen
    fun state =>
      match transfer.rkOtaStart, transfer.rkOtaWait with
      | some error, _ =>
          componentUpdateError state "Error starting rk_ota command" error
      | none, some error =>
          componentUpdateError state "Error executing rk_ota command" error
      | none, none =>
          { state := { state with rebootNeeded := true }.setStatus .system status
            events := [.systemWritten] }

/-- Report an error of one stage of the run as an error of the run. -/
def Ran.reportError (ran : Ran) (context : String) : Ran :=
  match ran.err with
  | some error =>
      { componentUpdateError ran.state context error with events := ran.events }
  | none => ran

/-- A custom version disables the automatic updates; that this fails is only
logged. -/
def disableAutoUpdate (run : Run semver) (statuses : Statuses) : List Event :=
  if statuses.1.customVersionUpdate || statuses.2.customVersionUpdate then
    match run.autoUpdateError with
    | some _ => []
    | none => [.autoUpdateDisabled]
  else []

def resetConfig (state : State) (run : Run semver) (params : UpdateParams) :
    Ran :=
  if params.resetConfig then
    match run.resetConfigError with
    | some error => componentUpdateError state "Error resetting config" error
    | none => { state := state, events := [.configReset] }
  else { state := state }

def reboot (state : State) (run : Run semver) (redirectTo : String) : Ran :=
  match run.rebootError with
  | some error => componentUpdateError state "Error requesting reboot" error
  | none => { state := state, events := [.rebooting redirectTo] }

/-- The end of a run: reboot if some component asks for it. -/
def requestReboot (state : State) (run : Run semver) (params : UpdateParams)
    (statuses : Statuses) : Ran :=
  if state.rebootNeeded then
    let redirectUrl :=
      if params.resetConfig then "/welcome" else "/settings/general/update"
    let rebooted := (resetConfig state run params).andThen fun state =>
      reboot state run redirectUrl
    { rebooted with events := disableAutoUpdate run statuses ++ rebooted.events }
  else { state := state }

/-- `bypassSignatureCheck` for a component with the given status. -/
def bypasses (semver : Semver) (params : UpdateParams)
    (status : ComponentUpdateStatus) : Bool :=
  shouldBypassSignatureCheck semver status.version status.customVersionUpdate
    params.includePreRelease

/-- Update the pending components, the app first. -/
def updatePending (state : State) (run : Run semver) (params : UpdateParams)
    (statuses : Statuses) : Ran :=
  let app : Ran :=
    if statuses.1.pending then
      (updateApp state statuses.1 (bypasses semver params statuses.1)
        (run.transfer .app)).reportError "Error updating app"
    else { state := state }
  let both := app.andThen fun state =>
    if statuses.2.pending then
      (updateSystem state statuses.2 (bypasses semver params statuses.2)
        (run.transfer .system)).reportError "Error updating system"
    else { state := state }
  both.andThen fun state => requestReboot state run params statuses

/-- The parameters with the default components filled in. -/
def UpdateParams.withDefaults (params : UpdateParams) : UpdateParams :=
  if params.components.isEmpty then
    { params with components := [("app", ""), ("system", "")] }
  else params

/-- The text of the requested components in an error. -/
def showComponents (components : List (String × String)) : String :=
  let entries := components.mergeSort fun first second => first.1 ≤ second.1
  "map[" ++
    String.intercalate " " (entries.map fun entry => entry.1 ++ ":" ++ entry.2) ++
    "]"

/-- An available component becomes pending if it is to be updated. -/
def markPending (shouldUpdate : Bool) (status : ComponentUpdateStatus) :
    ComponentUpdateStatus :=
  if shouldUpdate && status.available then { status with pending := true }
  else status

def storePending (component : Component) (shouldUpdate : Bool) (state : State)
    (status : ComponentUpdateStatus) : State :=
  if shouldUpdate && status.available then
    { state with updating := true }.setStatus component
      { status with pending := true }
  else state

/-- The rest of a run after its check. -/
def updateAvailable (state : State) (run : Run semver) (params : UpdateParams)
    (statuses : Statuses) : Ran :=
  let shouldUpdateApp := (params.constraint .app).isSome
  let shouldUpdateSystem := (params.constraint .system).isSome
  let state := storePending .app shouldUpdateApp state statuses.1
  let app := markPending shouldUpdateApp statuses.1
  let state := storePending .system shouldUpdateSystem state statuses.2
  let system := markPending shouldUpdateSystem statuses.2
  if !app.pending && !system.pending then
    { state := { state with updating := false } }
  else updatePending state run params (app, system)

def doUpdate (state : State) (run : Run semver) : Ran :=
  if state.updating then
    { state := state, err := some "update already in progress" }
  else
    let state := { state with updating := true }
    let params := run.params.withDefaults
    let shouldUpdateApp := (params.constraint .app).isSome
    let shouldUpdateSystem := (params.constraint .system).isSome
    if !shouldUpdateApp && !shouldUpdateSystem then
      componentUpdateError state
        ("Update aborted: no components were specified to update. " ++
          "Requested components: ")
        (showComponents params.components)
    else
      match getUpdateStatus state run params with
      | .error error =>
          componentUpdateError state "Error checking for updates" error
      | .ok (state, statuses) => updateAvailable state run params statuses

/-- `TryUpdate` refuses to run while another call holds the mutex. -/
def tryUpdate (state : State) (run : Run semver) : Ran :=
  if run.locked then
    { state := state, err := some "update already in progress" }
  else doUpdate state run

end Ota

end JetKvm
