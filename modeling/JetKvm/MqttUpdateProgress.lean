import JetKvm.LabelledRuns

/-!
# The progress of an update over MQTT

Translation of `publishUpdateState`, of `handleUpdateInstallCommand` and of the
callback of `initOta` in `ota.go`, beside the runs of `TryUpdate`.  An install
command leaves a goroutine that gets to `TryUpdate` later.  A call of
`publishUpdateState` is one step, and so is a change of the OTA state with the
callback that follows it; the percentage is left out, as nothing decides on it.
-/

namespace JetKvm

namespace UpdateProgress

open LabelledRuns

/-- `mqttUpdateState` -/
structure Payload where
  installedVersion : String := ""
  latestVersion : String := ""
  inProgress : Bool := false
  deriving DecidableEq, Repr

/-- The time of the last check is zero until there is one. -/
structure MQTTManager where
  updateRequested : Bool := false
  lastUpdatePayload : Option Payload := none
  lastUpdateCheck : Option Nat := none
  lastKnownLatestVersion : String := ""
  deriving DecidableEq, Repr

/-- What is told of the OTA state -/
structure RPCState where
  updating : Bool := false
  error : String := ""
  deriving DecidableEq, Repr

structure UpdateStatus where
  localVersion : Option String
  remoteVersion : Option String
  appUpdateAvailable : Bool
  deriving DecidableEq, Repr

/-- What a call finds: whether the client is connected, the clock, the versions of
`GetLocalVersion` and the answer of the update API, if it is asked -/
structure Answers where
  connected : Bool := true
  now : Nat := 0
  appVer : Option String := none
  versionError : Bool := false
  updateStatus : Option UpdateStatus := none
  deriving DecidableEq, Repr

/-- Ten minutes in nanoseconds -/
def updateCheckInterval : Nat := 600000000000

/-- What was published, and whether the update API was asked for it -/
structure Published where
  payload : Payload
  queried : Bool
  now : Nat
  deriving DecidableEq, Repr

/-- `getInstalledVersion` -/
def getInstalledVersion (answers : Answers) : String :=
  if answers.versionError then "unknown" else answers.appVer.getD "unknown"

def localPayload (answers : Answers) : Payload :=
  match answers.appVer with
  | some appVer =>
      if answers.versionError then {}
      else { installedVersion := appVer, latestVersion := appVer }
  | none => {}

namespace MQTTManager

/-- An error ends a request for which no update is going on. -/
def clearOnError (rpc : RPCState) (m : MQTTManager) : MQTTManager :=
  if m.updateRequested ∧ ¬ rpc.updating ∧ rpc.error ≠ "" then
    { m with updateRequested := false }
  else m

def cached (answers : Answers) (m : MQTTManager) : Option Payload :=
  match m.lastUpdatePayload, m.lastUpdateCheck with
  | some payload, some check =>
      if answers.now < check + updateCheckInterval then some payload else none
  | _, _ => none

/-- The update API is asked, and the result is cached. -/
def query (answers : Answers) (m : MQTTManager) : MQTTManager × Payload :=
  let updatePayload := localPayload answers
  let (updatePayload, latest) :=
    match answers.updateStatus with
    | none => (updatePayload, m.lastKnownLatestVersion)
    | some status =>
        let updatePayload :=
          match status.localVersion with
          | some version => { updatePayload with installedVersion := version }
          | none => updatePayload
        match status.remoteVersion with
        | some version =>
            if status.appUpdateAvailable then
              ({ updatePayload with latestVersion := version }, version)
            else (updatePayload, m.lastKnownLatestVersion)
        | none => (updatePayload, m.lastKnownLatestVersion)
  let updatePayload := { updatePayload with inProgress := false }
  ({ m with
      lastUpdatePayload := some updatePayload
      lastUpdateCheck := some answers.now
      lastKnownLatestVersion := latest },
    updatePayload)

/-- The calls of a client that is not connected publish nothing. -/
def publishUpdateState (answers : Answers) (rpc : RPCState) (m : MQTTManager) :
    MQTTManager × Option Published :=
  if answers.connected = false then (m, none)
  else
    let m := m.clearOnError rpc
    if rpc.updating ∨ m.updateRequested then
      let updatePayload := localPayload answers
      let updatePayload :=
        if m.lastKnownLatestVersion ≠ "" then
          { updatePayload with latestVersion := m.lastKnownLatestVersion }
        else updatePayload
      ({ m with lastUpdateCheck := none },
        some ⟨{ updatePayload with inProgress := true }, false, answers.now⟩)
    else
      match m.cached answers with
      | some payload =>
          let payload :=
            match answers.appVer with
            | some appVer => { payload with installedVersion := appVer }
            | none => payload
          (m, some ⟨payload, false, answers.now⟩)
      | none =>
          let (m, payload) := m.query answers
          (m, some ⟨payload, true, answers.now⟩)

/-- `OnStateUpdate` -/
def onStateUpdate (answers : Answers) (rpc : RPCState) (m : MQTTManager) :
    MQTTManager × Option Published :=
  let m :=
    if rpc.updating = false ∧ m.updateRequested then
      { m with updateRequested := false }
    else m
  m.publishUpdateState answers rpc

end MQTTManager

/-- `waiting` counts the goroutines of install commands that have not got to
`TryUpdate`.  `run` is the one that has the mutex, with whether a command
started it; `ticking` says that the goroutine beside `rk_ota` has not ended.
`published` is what the last step published, `lastQuery` when the update API was
asked last, and `shown` whether the last call published an update in progress. -/
structure State where
  manager : MQTTManager := {}
  rpc : RPCState := {}
  waiting : Nat := 0
  run : Option Bool := none
  ticking : Bool := false
  published : Option Published := none
  lastQuery : Option Nat := none
  shown : Bool := false
  deriving DecidableEq, Repr

/-- An install command, `TryUpdate` of its goroutine or of another caller, what a
run does, and a call of `publishUpdateState` -/
inductive Label where
  | handleUpdateInstallCommand (answers : Answers)
  | tryUpdate (requested : Bool) (answers : Answers)
  | stateUpdate (answers : Answers)
  | startRkOta
  | tickerEnds
  | componentUpdateError (context err : String) (answers : Answers)
  | noUpdatesAvailable (answers : Answers)
  | returns
  | reboots
  | publishUpdateState (answers : Answers)
  deriving DecidableEq, Repr

namespace State

/-- What a call leaves behind -/
def after (state : State) (outcome : MQTTManager × Option Published) : State :=
  { state with
    manager := outcome.1
    published := outcome.2
    lastQuery :=
      match outcome.2 with
      | some published =>
          if published.queried then some published.now else state.lastQuery
      | none => state.lastQuery
    shown :=
      match outcome.2 with
      | some published => published.payload.inProgress
      | none => state.shown }

def triggerStateUpdate (answers : Answers) (state : State) : State :=
  state.after (state.manager.onStateUpdate answers state.rpc)

/-- The state that is published does not wait for the run. -/
def handleUpdateInstallCommand (answers : Answers) (state : State) : State :=
  let latestVer :=
    if state.manager.lastKnownLatestVersion = "" then getInstalledVersion answers
    else state.manager.lastKnownLatestVersion
  { state with
    manager := { state.manager with updateRequested := true }
    waiting := state.waiting + 1
    published := some
      ⟨⟨getInstalledVersion answers, latestVer, true⟩, false, answers.now⟩ }

/-- The run is refused while another has the mutex or is said to be going on. -/
def tryUpdate (requested : Bool) (answers : Answers) (state : State) : State :=
  if state.run.isSome ∨ state.rpc.updating then
    { state with published := none }
  else
    { state with
      run := some requested
      rpc := { state.rpc with updating := true } }.triggerStateUpdate answers

def endUpdate (error : String) (answers : Answers) (state : State) : State :=
  { state with rpc := ⟨false, error⟩ }.triggerStateUpdate answers

end State

def step (state : State) : Label → Option State
  | .handleUpdateInstallCommand answers =>
      some (state.handleUpdateInstallCommand answers)
  | .tryUpdate true answers =>
      if 0 < state.waiting then
        some ({ state with waiting := state.waiting - 1 }.tryUpdate true answers)
      else none
  | .tryUpdate false answers => some (state.tryUpdate false answers)
  | .stateUpdate answers =>
      if state.run.isSome ∧ state.rpc.updating ∨ state.ticking then
        some (state.triggerStateUpdate answers)
      else none
  | .startRkOta =>
      if state.run.isSome ∧ state.rpc.updating then
        some { state with ticking := true, published := none }
      else none
  | .tickerEnds =>
      if state.ticking then some { state with ticking := false, published := none }
      else none
  | .componentUpdateError context err answers =>
      if state.run.isSome then
        some (state.endUpdate (context ++ ": " ++ err) answers)
      else none
  | .noUpdatesAvailable answers =>
      if state.run.isSome ∧ state.rpc.updating then
        some (state.endUpdate state.rpc.error answers)
      else none
  | .returns =>
      if state.run.isSome ∧ ¬ state.rpc.updating then
        some { state with run := none, published := none }
      else none
  | .reboots =>
      if state.run.isSome ∧ state.rpc.updating then
        some { state with run := none, published := none }
      else none
  | .publishUpdateState answers =>
      some (state.after (state.manager.publishUpdateState answers state.rpc))

/-- What is published says that an update is in progress while a requested run
waits to start or is going on, and where none does and no other is going on it
says that none is.  Then the update API is asked, unless that was done less than
ten minutes before and no update was shown since. -/
def Right (before state : State) : Prop :=
  ∀ published, state.published = some published →
    (0 < state.waiting ∨ state.run = some true ∧ state.rpc.updating →
      published.payload.inProgress = true) ∧
    (state.waiting = 0 → state.rpc.updating = false →
      published.payload.inProgress = false ∧
        (published.queried ∨
          before.shown = false ∧ ∃ asked, before.lastQuery = some asked ∧
            published.now < asked + updateCheckInterval))

def Behaves (state : State) (label : Label) : Prop :=
  ∀ next, step state label = some next → Right state next

/-- While a requested run waits and none is going on, no call finds an error and
nothing tells that a run has ended.  The last one that waits is not refused by a run
that has told so already, unless that left an error. -/
def Fits (state : State) : Label → Prop
  | .publishUpdateState answers =>
      answers.connected = true → 0 < state.waiting →
        state.rpc.updating = false → state.rpc.error = ""
  | .stateUpdate _ => state.rpc.updating = false → state.waiting = 0
  | .componentUpdateError _ _ _ | .noUpdatesAvailable _ => state.waiting = 0
  | .tryUpdate true _ =>
      state.run.isSome → state.rpc.updating = false → state.waiting = 1 →
        state.rpc.error ≠ ""
  | _ => True

instance (state : State) : ∀ label, Decidable (Fits state label)
  | .publishUpdateState answers =>
      inferInstanceAs (Decidable (answers.connected = true → 0 < state.waiting →
        state.rpc.updating = false → state.rpc.error = ""))
  | .stateUpdate _ =>
      inferInstanceAs (Decidable
        (state.rpc.updating = false → state.waiting = 0))
  | .componentUpdateError _ _ _ | .noUpdatesAvailable _ =>
      inferInstanceAs (Decidable (state.waiting = 0))
  | .tryUpdate true _ =>
      inferInstanceAs (Decidable (state.run.isSome →
        state.rpc.updating = false → state.waiting = 1 → state.rpc.error ≠ ""))
  | .tryUpdate false _ | .handleUpdateInstallCommand _ | .startRkOta
  | .tickerEnds | .returns | .reboots => isTrue trivial

/-! ### One call -/

section Calls

variable {state : State} {answers : Answers}

/-- The cached state is not one of an update in progress, and as long as it is
fresh no update was shown since it was asked for. -/
structure Caches (state : State) : Prop where
  payload : ∀ payload, state.manager.lastUpdatePayload = some payload →
    payload.inProgress = false
  check : ∀ check, state.manager.lastUpdateCheck = some check →
    state.shown = false ∧ state.lastQuery = some check

/-- The flag is set while a requested run waits, and where none does and no run is
going on an error is left to clear it. -/
structure Flagged (state : State) : Prop where
  requested : 0 < state.waiting → state.manager.updateRequested = true
  cleared : state.waiting = 0 → state.rpc.updating = false →
    state.manager.updateRequested = true → state.rpc.error ≠ ""

structure Sound (state : State) : Prop extends Caches state, Flagged state

theorem clearOnError_eq (m : MQTTManager) (rpc : RPCState) :
    ∃ requested, m.clearOnError rpc = { m with updateRequested := requested } := by
  unfold MQTTManager.clearOnError
  split
  · exact ⟨_, rfl⟩
  · exact ⟨m.updateRequested, rfl⟩

/-- In the right state the flag says that a requested run waits, if none is going
on. -/
theorem Sound.clearOnError_updateRequested_iff (sound : Sound state)
    (idle : state.rpc.updating = false)
    (fits : 0 < state.waiting → state.rpc.error = "") :
    (state.manager.clearOnError state.rpc).updateRequested = true ↔
      0 < state.waiting := by
  unfold MQTTManager.clearOnError
  by_cases waits : 0 < state.waiting
  · rw [if_neg fun both => both.2.2 (fits waits)]
    exact iff_of_true (sound.requested waits) waits
  · refine iff_of_false ?_ waits
    split
    · exact nofun
    · rename_i kept
      intro requested
      have error := sound.cleared (by omega) idle requested
      exact kept ⟨requested, by simp [idle], error⟩

theorem cached_eq_some {m : MQTTManager} {payload : Payload}
    (found : m.cached answers = some payload) :
    m.lastUpdatePayload = some payload ∧
      ∃ check, m.lastUpdateCheck = some check ∧
        answers.now < check + updateCheckInterval := by
  unfold MQTTManager.cached at found
  split at found
  · rename_i last check present checked
    split at found
    · rename_i fresh
      exact ⟨present.trans found, check, checked, fresh⟩
    · cases found
  · cases found

theorem query_eq (m : MQTTManager) :
    ∃ payload latest, payload.inProgress = false ∧
      m.query answers =
        ({ m with
            lastUpdatePayload := some payload
            lastUpdateCheck := some answers.now
            lastKnownLatestVersion := latest }, payload) :=
  ⟨_, _, rfl, rfl⟩

theorem Sound.clearOnError (sound : Sound state)
    (fits : 0 < state.waiting → state.rpc.updating = false →
      state.rpc.error = "") :
    Sound { state with manager := state.manager.clearOnError state.rpc } := by
  have caches :
      Caches { state with manager := state.manager.clearOnError state.rpc } := by
    obtain ⟨requested, equal⟩ := clearOnError_eq state.manager state.rpc
    rw [equal]
    exact ⟨sound.payload, sound.check⟩
  cases idle : state.rpc.updating with
  | true =>
      have kept : ¬ (state.manager.updateRequested ∧ ¬ state.rpc.updating ∧
          state.rpc.error ≠ "") := by simp [idle]
      refine ⟨caches, ⟨?_, ?_⟩⟩
      · intro waits
        rw [MQTTManager.clearOnError, if_neg kept]
        exact sound.requested waits
      · intro _ ended
        exact absurd (idle.symm.trans ended) nofun
  | false =>
      have flag := sound.clearOnError_updateRequested_iff idle
        fun waits => fits waits idle
      refine ⟨caches, ⟨flag.mpr, ?_⟩⟩
      intro none _ requested
      exact absurd none (Nat.pos_iff_ne_zero.mp (flag.mp requested))

/-- An update in progress is published where one is waited for or going on. -/
theorem Sound.after_inProgress (sound : Sound state) {payload : Payload}
    (busy : state.rpc.updating = true ∨ 0 < state.waiting)
    (inProgress : payload.inProgress = true) (now : Nat) :
    Sound (state.after ({ state.manager with lastUpdateCheck := none },
        some ⟨payload, false, now⟩)) ∧
      Right state (state.after ({ state.manager with lastUpdateCheck := none },
        some ⟨payload, false, now⟩)) := by
  refine ⟨⟨⟨sound.payload, nofun⟩, ⟨sound.requested, sound.cleared⟩⟩, ?_⟩
  rintro published ⟨rfl⟩
  refine ⟨fun _ => inProgress, fun none idle => ?_⟩
  rcases busy with going | waits
  · exact absurd (going.symm.trans idle) nofun
  · exact absurd none (Nat.pos_iff_ne_zero.mp waits)

theorem right_of_idle {before : State} {published : Published}
    (shows : state.published = some published)
    (idle : state.rpc.updating = false) (none : state.waiting = 0)
    (quiet : published.payload.inProgress = false)
    (asked : published.queried ∨
      before.shown = false ∧ ∃ asked, before.lastQuery = some asked ∧
        published.now < asked + updateCheckInterval) :
    Right before state := by
  intro other alsoShows
  obtain rfl := Option.some.inj (shows.symm.trans alsoShows)
  refine ⟨?_, fun _ _ => ⟨quiet, asked⟩⟩
  rintro (waits | ⟨-, going⟩)
  · exact absurd none (Nat.pos_iff_ne_zero.mp waits)
  · exact absurd (going.symm.trans idle) nofun

theorem Sound.after_cached (sound : Sound state) {last payload : Payload}
    {check now : Nat} (idle : state.rpc.updating = false)
    (none : state.waiting = 0)
    (present : state.manager.lastUpdatePayload = some last)
    (same : payload.inProgress = last.inProgress)
    (checked : state.manager.lastUpdateCheck = some check)
    (fresh : now < check + updateCheckInterval) :
    Sound (state.after (state.manager, some ⟨payload, false, now⟩)) ∧
      Right state (state.after (state.manager, some ⟨payload, false, now⟩)) := by
  have quiet := same.trans (sound.payload last present)
  have since := sound.check check checked
  refine ⟨⟨⟨sound.payload, ?_⟩, ⟨sound.requested, sound.cleared⟩⟩, ?_⟩
  · intro other alsoChecked
    exact ⟨quiet, (sound.check other alsoChecked).2⟩
  · exact right_of_idle rfl idle none quiet
      (.inr ⟨since.1, check, since.2, fresh⟩)

theorem Sound.after_query (sound : Sound state) {payload : Payload} {now : Nat}
    (idle : state.rpc.updating = false) (none : state.waiting = 0)
    (quiet : payload.inProgress = false) (latest : String) :
    Sound (state.after
        ({ state.manager with
            lastUpdatePayload := some payload
            lastUpdateCheck := some now
            lastKnownLatestVersion := latest },
          some ⟨payload, true, now⟩)) ∧
      Right state (state.after
        ({ state.manager with
            lastUpdatePayload := some payload
            lastUpdateCheck := some now
            lastKnownLatestVersion := latest },
          some ⟨payload, true, now⟩)) := by
  refine ⟨⟨⟨?_, ?_⟩, ⟨sound.requested, sound.cleared⟩⟩, ?_⟩
  · rintro other ⟨rfl⟩
    exact quiet
  · rintro check ⟨rfl⟩
    exact ⟨quiet, rfl⟩
  · exact right_of_idle rfl idle none quiet (.inl rfl)

/-- A sound state stays so, and what is published is right. -/
theorem Sound.publishUpdateState (sound : Sound state)
    (fits : answers.connected = true → 0 < state.waiting →
      state.rpc.updating = false → state.rpc.error = "") :
    Sound (state.after (state.manager.publishUpdateState answers state.rpc)) ∧
      Right state
        (state.after (state.manager.publishUpdateState answers state.rpc)) := by
  unfold MQTTManager.publishUpdateState
  by_cases offline : answers.connected = false
  · rw [if_pos offline]
    exact ⟨⟨⟨sound.payload, sound.check⟩, ⟨sound.requested, sound.cleared⟩⟩, nofun⟩
  rw [if_neg offline]
  have online := fits (by simpa using offline)
  have cleared := sound.clearOnError online
  dsimp only
  by_cases busy : state.rpc.updating ∨
      (state.manager.clearOnError state.rpc).updateRequested
  · rw [if_pos busy]
    refine cleared.after_inProgress ?_ rfl answers.now
    rcases busy with going | requested
    · exact .inl going
    · by_cases idle : state.rpc.updating = false
      · exact .inr ((sound.clearOnError_updateRequested_iff idle
          fun waits => online waits idle).mp requested)
      · exact .inl (by simpa using idle)
  · rw [if_neg busy]
    have idle : state.rpc.updating = false := by
      simpa using fun going => busy (.inl going)
    have none : state.waiting = 0 := by
      rw [idle, sound.clearOnError_updateRequested_iff idle
        fun waits => online waits idle] at busy
      simpa using busy
    cases found : (state.manager.clearOnError state.rpc).cached answers with
    | some payload =>
        obtain ⟨last, check, checked, fresh⟩ := cached_eq_some found
        refine cleared.after_cached idle none last ?_ checked fresh
        split
        · rfl
        · rfl
    | none =>
        obtain ⟨payload, latest, quiet, asked⟩ :=
          @query_eq answers (state.manager.clearOnError state.rpc)
        simp only [asked]
        exact cleared.after_query idle none quiet latest

/-- So it does where the OTA state has changed, if no requested run waits when it
tells that none is going on. -/
theorem Caches.triggerStateUpdate (caches : Caches state)
    (requested : 0 < state.waiting → state.manager.updateRequested = true)
    (fits : state.rpc.updating = false → state.waiting = 0) :
    Sound (state.triggerStateUpdate answers) ∧
      Right state (state.triggerStateUpdate answers) := by
  unfold State.triggerStateUpdate MQTTManager.onStateUpdate
  by_cases ends : state.rpc.updating = false ∧ state.manager.updateRequested
  · rw [if_pos ends]
    have sound : Sound { state with
        manager := { state.manager with updateRequested := false } } := by
      refine ⟨⟨caches.payload, caches.check⟩, ⟨fun waits => ?_, nofun⟩⟩
      exact absurd (fits ends.1) (Nat.pos_iff_ne_zero.mp waits)
    refine sound.publishUpdateState fun _ waits _ => ?_
    exact absurd (fits ends.1) (Nat.pos_iff_ne_zero.mp waits)
  · rw [if_neg ends]
    have sound : Sound state :=
      ⟨caches, ⟨requested, fun _ idle flag => absurd ⟨idle, flag⟩ ends⟩⟩
    refine sound.publishUpdateState fun _ waits idle => ?_
    exact absurd (fits idle) (Nat.pos_iff_ne_zero.mp waits)

end Calls

/-! ### Runs of steps -/

section Steps

variable {state next : State} {label : Label}

/-- Nothing is published by the steps that leave the flag and the OTA state. -/
theorem Sound.quiet (sound : Sound state) (run : Option Bool) (ticking : Bool) :
    Sound { state with run := run, ticking := ticking, published := none } ∧
      Right state
        { state with run := run, ticking := ticking, published := none } :=
  ⟨⟨⟨sound.payload, sound.check⟩, ⟨sound.requested, sound.cleared⟩⟩, nofun⟩

theorem Sound.handleUpdateInstallCommand (sound : Sound state)
    (answers : Answers) :
    Sound (state.handleUpdateInstallCommand answers) ∧
      Right state (state.handleUpdateInstallCommand answers) := by
  refine ⟨⟨⟨sound.payload, sound.check⟩, ⟨fun _ => rfl, nofun⟩⟩, ?_⟩
  rintro published ⟨rfl⟩
  exact ⟨fun _ => rfl, nofun⟩

/-- A run starts, and nothing changes where it is refused. -/
theorem Caches.tryUpdate (caches : Caches state)
    (requested : 0 < state.waiting → state.manager.updateRequested = true)
    (cleared : state.run.isSome → state.waiting = 0 →
      state.rpc.updating = false → state.manager.updateRequested = true →
        state.rpc.error ≠ "") (ofCommand : Bool) (answers : Answers) :
    Sound (state.tryUpdate ofCommand answers) ∧
      Right state (state.tryUpdate ofCommand answers) := by
  unfold State.tryUpdate
  by_cases refused : state.run.isSome ∨ state.rpc.updating
  · rw [if_pos refused]
    refine ⟨⟨⟨caches.payload, caches.check⟩, ⟨requested, ?_⟩⟩, nofun⟩
    intro none idle flag
    have idle : state.rpc.updating = false := idle
    rcases refused with going | updating
    · exact cleared going none idle flag
    · exact absurd (updating.symm.trans idle) nofun
  · rw [if_neg refused]
    exact @Caches.triggerStateUpdate
      { state with
        run := some ofCommand
        rpc := { state.rpc with updating := true } }
      answers ⟨caches.payload, caches.check⟩ requested nofun

theorem Sound.endUpdate (sound : Sound state) (none : state.waiting = 0)
    (error : String) (answers : Answers) :
    Sound (state.endUpdate error answers) ∧
      Right state (state.endUpdate error answers) :=
  @Caches.triggerStateUpdate { state with rpc := ⟨false, error⟩ } answers
    ⟨sound.payload, sound.check⟩ sound.requested fun _ => none

/-- The goroutine of a command gets to `TryUpdate`. -/
theorem Sound.leave (sound : Sound state) (waits : 0 < state.waiting)
    (fits : state.run.isSome → state.rpc.updating = false → state.waiting = 1 →
      state.rpc.error ≠ "") (answers : Answers) :
    Sound ({ state with waiting := state.waiting - 1 }.tryUpdate true answers) ∧
      Right state
        ({ state with waiting := state.waiting - 1 }.tryUpdate true answers) := by
  apply @Caches.tryUpdate { state with waiting := state.waiting - 1 }
    ⟨sound.payload, sound.check⟩
  · exact fun _ => sound.requested waits
  · intro going none idle _
    have last : state.waiting - 1 = 0 := none
    exact fits going idle (by omega)

theorem Sound.step (sound : Sound state) (fits : Fits state label)
    (taken : step state label = some next) : Sound next ∧ Right state next := by
  cases label with
  | handleUpdateInstallCommand answers =>
      obtain rfl := Option.some.inj taken
      exact sound.handleUpdateInstallCommand answers
  | tryUpdate requested answers =>
      cases requested with
      | true =>
          obtain ⟨waits, moved⟩ := Option.ite_none_right_eq_some.mp taken
          obtain rfl := Option.some.inj moved
          exact sound.leave waits fits answers
      | false =>
          obtain rfl := Option.some.inj taken
          exact sound.toCaches.tryUpdate sound.requested (fun _ => sound.cleared)
            false answers
  | stateUpdate answers =>
      obtain ⟨-, moved⟩ := Option.ite_none_right_eq_some.mp taken
      obtain rfl := Option.some.inj moved
      exact sound.toCaches.triggerStateUpdate sound.requested fits
  | startRkOta =>
      obtain ⟨-, moved⟩ := Option.ite_none_right_eq_some.mp taken
      obtain rfl := Option.some.inj moved
      exact sound.quiet state.run true
  | tickerEnds =>
      obtain ⟨-, moved⟩ := Option.ite_none_right_eq_some.mp taken
      obtain rfl := Option.some.inj moved
      exact sound.quiet state.run false
  | componentUpdateError _ _ answers | noUpdatesAvailable answers =>
      obtain ⟨-, moved⟩ := Option.ite_none_right_eq_some.mp taken
      obtain rfl := Option.some.inj moved
      exact sound.endUpdate fits _ answers
  | returns | reboots =>
      obtain ⟨-, moved⟩ := Option.ite_none_right_eq_some.mp taken
      obtain rfl := Option.some.inj moved
      exact sound.quiet none state.ticking
  | publishUpdateState answers =>
      obtain rfl := Option.some.inj taken
      exact sound.publishUpdateState fits

theorem publishUpdateState_updateRequested {answers : Answers}
    (online : answers.connected = true) (rpc : RPCState) (m : MQTTManager) :
    (m.publishUpdateState answers rpc).1.updateRequested =
      (m.clearOnError rpc).updateRequested := by
  rw [MQTTManager.publishUpdateState, if_neg (by simp [online])]
  dsimp only
  split
  · rfl
  · split
    · rfl
    · rfl

/-- Whoever tells that no run is going on clears the flag. -/
theorem triggerStateUpdate_updateRequested {answers : Answers}
    (idle : state.rpc.updating = false) :
    (state.triggerStateUpdate answers).manager.updateRequested = false := by
  have cleared : ∀ m : MQTTManager, m.updateRequested = false →
      (m.publishUpdateState answers state.rpc).1.updateRequested = false := by
    intro m clear
    by_cases online : answers.connected = true
    · have kept : ¬ (m.updateRequested ∧ ¬ state.rpc.updating ∧
          state.rpc.error ≠ "") := by simp [clear]
      rw [publishUpdateState_updateRequested online, MQTTManager.clearOnError,
        if_neg kept, clear]
    · rw [MQTTManager.publishUpdateState, if_pos (by simpa using online)]
      exact clear
  unfold State.triggerStateUpdate MQTTManager.onStateUpdate
  split
  · exact cleared _ rfl
  · rename_i kept
    exact cleared _ (by simpa [idle] using kept)

theorem Flagged.waiting_eq_zero (flagged : Flagged state)
    (clear : state.manager.updateRequested = false) : state.waiting = 0 := by
  by_contra waits
  have flag := flagged.requested (Nat.pos_iff_ne_zero.mpr waits)
  exact absurd (flag.symm.trans clear) nofun

/-- A step that does not fit leaves the flag wrong. -/
theorem fits_of_flagged (sound : Sound state)
    (taken : step state label = some next) (flagged : Flagged next) :
    Fits state label := by
  cases label with
  | publishUpdateState answers =>
      intro online waits idle
      obtain rfl := Option.some.inj taken
      by_contra error
      have clears : state.manager.updateRequested ∧ ¬ state.rpc.updating ∧
          state.rpc.error ≠ "" := ⟨sound.requested waits, by simp [idle], error⟩
      have clear := publishUpdateState_updateRequested online state.rpc
        state.manager
      rw [MQTTManager.clearOnError, if_pos clears] at clear
      exact absurd (flagged.waiting_eq_zero clear) (Nat.pos_iff_ne_zero.mp waits)
  | stateUpdate answers =>
      intro idle
      obtain ⟨-, moved⟩ := Option.ite_none_right_eq_some.mp taken
      obtain rfl := Option.some.inj moved
      exact flagged.waiting_eq_zero (triggerStateUpdate_updateRequested idle)
  | componentUpdateError context err answers =>
      obtain ⟨-, moved⟩ := Option.ite_none_right_eq_some.mp taken
      obtain rfl := Option.some.inj moved
      exact flagged.waiting_eq_zero (@triggerStateUpdate_updateRequested
        { state with rpc := ⟨false, context ++ ": " ++ err⟩ } answers rfl)
  | noUpdatesAvailable answers =>
      obtain ⟨-, moved⟩ := Option.ite_none_right_eq_some.mp taken
      obtain rfl := Option.some.inj moved
      exact flagged.waiting_eq_zero (@triggerStateUpdate_updateRequested
        { state with rpc := ⟨false, state.rpc.error⟩ } answers rfl)
  | tryUpdate requested answers =>
      cases requested with
      | false => trivial
      | true =>
          intro going idle last
          obtain ⟨waits, moved⟩ := Option.ite_none_right_eq_some.mp taken
          rw [State.tryUpdate, if_pos (.inl going)] at moved
          obtain rfl := Option.some.inj moved
          have none : state.waiting - 1 = 0 := by omega
          exact flagged.cleared none idle (sound.requested waits)
  | handleUpdateInstallCommand _ | startRkOta | tickerEnds | returns | reboots =>
      trivial

end Steps

theorem sound_initial : Sound {} :=
  ⟨⟨nofun, nofun⟩, ⟨nofun, nofun⟩⟩

/-- In every run whose steps all fit, everything that is published is right. -/
theorem behaves_of_fits {labels : List Label}
    (fits : AllSteps step Fits {} labels) : AllSteps step Behaves {} labels := by
  apply allSteps_of_allSteps _ _ sound_initial fits
  · intro state next label sound fits taken
    exact (Sound.step sound fits taken).1
  · intro state next label sound fits taken other again
    exact (Sound.step sound fits again).2

/-- The flag tells in every state whether a requested run waits exactly in the
runs whose steps all fit. -/
theorem flagged_iff_fits (labels : List Label) :
    AllStates step Flagged {} labels ↔ AllSteps step Fits {} labels := by
  apply allStates_iff_allSteps _ _ _ sound_initial
  · intro state sound
    exact sound.toFlagged
  · intro state next label sound fits taken
    exact (Sound.step sound fits taken).1
  · intro state next label sound taken flagged
    exact fits_of_flagged sound taken flagged

/-- A requested update is shown to be in progress until there is none available,
and then no longer. -/
theorem behaves_of_noUpdatesAvailable :
    AllSteps step Behaves {}
      [.handleUpdateInstallCommand {}, .publishUpdateState {}, .tryUpdate true {},
        .noUpdatesAvailable {}, .returns, .publishUpdateState {}] :=
  behaves_of_fits (by decide)

/-- The error of an earlier run ends a requested update before it starts. -/
theorem not_behaves_afterError :
    ¬ AllSteps step Behaves {}
      [.tryUpdate false {},
        .componentUpdateError "Error checking for updates"
          "error checking for updates: unexpected status code: 503" {},
        .returns, .handleUpdateInstallCommand {}, .publishUpdateState {}] := by
  intro behaves
  have fifth := ((((behaves _ rfl).2 _ rfl).2 _ rfl).2 _ rfl).2 _ rfl
  have fifth := fifth.1 _ rfl _ rfl
  exact absurd (fifth.1 (.inl (by decide))) (by decide)

end UpdateProgress

end JetKvm
