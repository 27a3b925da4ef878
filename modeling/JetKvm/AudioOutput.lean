import JetKvm.LabelledRuns
import JetKvm.PendingStages

/-!
# Audio output

Translation of `audio.go` and of the handlers of the first and the last session
in `webrtc.go`, as far as they start and stop the output relay.  The number of
connections, the setting and the relay are changed under no common lock: a
handler decides from one and acts on another.
-/

namespace JetKvm

namespace AudioOutput

open LabelledRuns PendingStages

/-- What a handler or a call of `SetAudioOutputEnabled` does next.  The test of
a count is of the one that the update returned. -/
inductive Stage where
  | incrActiveSessions
  | decrActiveSessions
  | addConnection
  | removeConnection
  | testConnected (count : Int)
  | testDisconnected (count : Int)
  | swapEnabled (enabled : Bool)
  | loadConnections
  | startAudio
  | loadEnabled
  | startOutput
  | stopOutput
  deriving DecidableEq, Repr

/-- What `audioMutex` guards: whether the pointers are set, and the relays whose
loop runs -/
structure Output where
  audioMutex : Bool := false
  outputSource : Bool := false
  outputRelay : Bool := false
  relaysRunning : Nat := 0
  deriving DecidableEq, Repr

namespace Output

def stopOutputLocked (output : Output) : Output :=
  { output with
    outputRelay := false
    outputSource := false
    relaysRunning :=
      if output.outputRelay then output.relaysRunning - 1
      else output.relaysRunning }

def startOutputLocked (output : Output) : Output :=
  { output with
    outputSource := true
    outputRelay := true
    relaysRunning := output.relaysRunning + 1 }

def lock (output : Output) : Output :=
  { output with audioMutex := true }

def unlock (output : Output) : Output :=
  { output with audioMutex := false }

end Output

structure Shared where
  connected : Nat := 0
  actionSessions : Int := 0
  activeConnections : Int := 0
  audioOutputEnabled : Bool
  output : Output := {}
  deriving DecidableEq, Repr

namespace Shared

/-- A stage that takes `audioMutex` waits until it is free. -/
def run (shared : Shared) : Stage → Option (Shared × List Stage)
  | .incrActiveSessions =>
      let actionSessions := shared.actionSessions + 1
      some ({ shared with actionSessions := actionSessions },
        if actionSessions = 1 then [.addConnection] else [])
  | .decrActiveSessions =>
      let actionSessions := shared.actionSessions - 1
      some ({ shared with actionSessions := actionSessions },
        if actionSessions = 0 then [.removeConnection] else [])
  | .addConnection =>
      let count := shared.activeConnections + 1
      some ({ shared with activeConnections := count }, [.testConnected count])
  | .removeConnection =>
      let count := shared.activeConnections - 1
      some ({ shared with activeConnections := count },
        [.testDisconnected count])
  | .testConnected count =>
      some (shared, if count = 1 then [.startAudio] else [])
  | .testDisconnected count =>
      some (shared, if count = 0 then [.stopOutput] else [])
  | .swapEnabled enabled =>
      some ({ shared with audioOutputEnabled := enabled },
        if shared.audioOutputEnabled = enabled then []
        else if enabled then [.loadConnections]
        else [.stopOutput])
  | .loadConnections =>
      some (shared, if 0 < shared.activeConnections then [.startAudio] else [])
  | .startAudio =>
      if shared.output.audioMutex then none
      else if shared.output.outputSource then some (shared, [])
      else some ({ shared with output := shared.output.lock }, [.loadEnabled])
  | .loadEnabled =>
      if shared.audioOutputEnabled then some (shared, [.startOutput])
      else some ({ shared with output := shared.output.unlock }, [])
  | .startOutput =>
      some ({ shared with
        output := shared.output.startOutputLocked.unlock }, [])
  | .stopOutput =>
      if shared.output.audioMutex then none
      else some ({ shared with output := shared.output.stopOutputLocked }, [])

/-- A session is connected, and the setting is on. -/
def Wanted (shared : Shared) : Prop :=
  0 < shared.activeConnections ∧ shared.audioOutputEnabled = true
  deriving Decidable

/-- The relay runs when it is wanted, and only then. -/
def Suits (shared : Shared) : Prop :=
  0 < shared.output.relaysRunning ↔ shared.Wanted
  deriving Decidable

end Shared

abbrev State := Pool Shared Stage

/-- The first steps of the three operations, and any stage in progress -/
inductive Label where
  | connect
  | disconnect
  | setAudioOutputEnabled (enabled : Bool)
  | stage (stage : Stage)
  deriving DecidableEq, Repr

def step (state : State) : Label → Option State
  | .connect =>
      some (Pool.start { state with
        shared := { state.shared with
          connected := state.shared.connected + 1 } } [.incrActiveSessions])
  | .disconnect =>
      if state.shared.connected = 0 then none
      else
        some (Pool.start { state with
          shared := { state.shared with
            connected := state.shared.connected - 1 } } [.decrActiveSessions])
  | .setAudioOutputEnabled enabled => some (state.start [.swapEnabled enabled])
  | .stage stage => state.proceed Shared.run stage

/-- The state `initAudio` leaves, with the setting of the configuration -/
def initial (audioOutputEnabled : Bool) : State :=
  ⟨{ audioOutputEnabled := audioOutputEnabled }, []⟩

/-- When no operation is in progress, the relay runs exactly if a session is
connected and the setting is on; there is never more than one. -/
def RunsWhenWanted (state : State) : Prop :=
  (state.running = [] → state.shared.Suits) ∧
    state.shared.output.relaysRunning ≤ 1
  deriving Decidable

/-- The stages that start or stop the relay, or go on to do so; one that is to
load the count does while there are connections. -/
def Stage.acts (activeConnections : Int) : Stage → Bool
  | .testConnected count => count = 1
  | .testDisconnected count => count = 0
  | .loadConnections => 0 < activeConnections
  | .startAudio => true
  | .loadEnabled => true
  | .startOutput => true
  | .stopOutput => true
  | _ => false

/-- How many stages are going to start or stop the relay -/
def outstanding (state : State) : Nat :=
  state.count (Stage.acts state.shared.activeConnections)

/-- A start that is the last action outstanding finds the relay wanted, also
when it finds it running; a stop that is the last finds it not wanted. -/
def LastActionInTurn (state : State) : Label → Prop
  | .stage .startAudio =>
      state.shared.output.outputSource = true → outstanding state = 1 →
        state.shared.Wanted
  | .stage .startOutput => outstanding state = 1 → state.shared.Wanted
  | .stage .stopOutput => outstanding state = 1 → ¬ state.shared.Wanted
  | _ => True

/-- Once every action was taken, the relay is as it is wanted. -/
def RelaySettled (state : State) : Prop :=
  outstanding state = 0 → state.shared.Suits

/-! ### The lock and the relay -/

/-- The stages between the locking of `audioMutex` and its release -/
def Stage.holdsMutex : Stage → Bool
  | .loadEnabled => true
  | .startOutput => true
  | _ => false

/-- The stages that leave the relay and its lock alone -/
def Stage.decides : Stage → Bool
  | .startAudio => false
  | .loadEnabled => false
  | .startOutput => false
  | .stopOutput => false
  | _ => true

/-- The lock is free or some stage holds it, and then nothing runs; the pointers
tell how many relays run. -/
structure Output.Consistent (output : Output) (holders : Nat) : Prop where
  mutex : holders = if output.audioMutex then 1 else 0
  locked : output.audioMutex = true → output.outputSource = false
  relay : output.outputRelay = output.outputSource
  one : output.relaysRunning = if output.outputSource then 1 else 0

/-- What holds in every reachable state -/
def Invariant (state : State) : Prop :=
  state.shared.output.Consistent (state.count Stage.holdsMutex)

theorem Invariant.initial (audioOutputEnabled : Bool) :
    Invariant (initial audioOutputEnabled) :=
  ⟨rfl, fun _ => rfl, rfl, rfl⟩

theorem Output.Consistent.running_iff {output : Output} {holders : Nat}
    (consistent : output.Consistent holders) :
    0 < output.relaysRunning ↔ output.outputSource = true := by
  rw [consistent.one]
  cases output.outputSource with
  | false => simp
  | true => simp

section Steps

variable {shared after : Shared} {stage : Stage} {more : List Stage}

/-- A decision is kept apart from what it leads to. -/
theorem Shared.run_decides (decides : stage.decides = true)
    (ran : shared.run stage = some (after, more)) :
    after.output = shared.output ∧ more.countP Stage.holdsMutex = 0 ∧
      stage.holdsMutex = false := by
  cases stage with
  | startAudio | loadEnabled | startOutput | stopOutput => cases decides
  | incrActiveSessions =>
      cases ran
      exact ⟨rfl, by split_ifs <;> rfl, rfl⟩
  | decrActiveSessions =>
      cases ran
      exact ⟨rfl, by split_ifs <;> rfl, rfl⟩
  | addConnection =>
      cases ran
      exact ⟨rfl, rfl, rfl⟩
  | removeConnection =>
      cases ran
      exact ⟨rfl, rfl, rfl⟩
  | testConnected count =>
      cases ran
      exact ⟨rfl, by split_ifs <;> rfl, rfl⟩
  | testDisconnected count =>
      cases ran
      exact ⟨rfl, by split_ifs <;> rfl, rfl⟩
  | swapEnabled enabled =>
      cases ran
      exact ⟨rfl, by split_ifs <;> rfl, rfl⟩
  | loadConnections =>
      cases ran
      exact ⟨rfl, by split_ifs <;> rfl, rfl⟩

variable {state next : State}

theorem Invariant.start (invariant : Invariant state) (stage : Stage)
    (decides : stage.holdsMutex = false) : Invariant (state.start [stage]) := by
  rw [Invariant, Pool.count_start, Pool.shared_start, List.countP_singleton,
    decides]
  exact invariant

theorem Invariant.proceed (invariant : Invariant state)
    (proceeded : Pool.Proceeded Shared.run state stage next more) :
    Invariant next := by
  have count := proceeded.count Stage.holdsMutex
  have ran := proceeded.ran
  have counted : stage.holdsMutex = true → 0 < state.count Stage.holdsMutex :=
    proceeded.counted
  obtain ⟨after, running⟩ := next
  rw [Invariant] at invariant ⊢
  generalize Pool.count ⟨after, running⟩ Stage.holdsMutex = holders at count ⊢
  cases decides : stage.decides with
  | true =>
      obtain ⟨same, none, free⟩ := Shared.run_decides decides ran
      simp only [none, free, Bool.false_eq_true, if_false, Nat.add_zero] at count
      rw [same, count]
      exact invariant
  | false =>
      obtain ⟨mutex, locked, relay, one⟩ := invariant
      cases stage with
      | startAudio =>
          simp only [Shared.run] at ran
          split_ifs at ran with held present
          · cases ran
            exact ⟨count.trans mutex, locked, relay, one⟩
          · cases ran
            rw [if_neg held] at mutex
            refine ⟨?_, fun _ => Bool.eq_false_iff.mpr present, relay, one⟩
            rw [mutex] at count
            exact count
      | loadEnabled =>
          simp only [Shared.run] at ran
          split_ifs at ran with enabled
          · cases ran
            refine ⟨?_, locked, relay, one⟩
            rw [← mutex]
            exact Nat.add_right_cancel count
          · cases ran
            refine ⟨?_, (fun held => nomatch held), relay, one⟩
            split_ifs at mutex
            · rw [mutex] at count
              exact Nat.add_right_cancel count
            · have held := counted rfl
              omega
      | startOutput =>
          cases ran
          have held := counted rfl
          split_ifs at mutex with isHeld
          · rw [locked isHeld] at one
            refine ⟨?_, (fun held => nomatch held), rfl, ?_⟩
            · rw [mutex] at count
              exact Nat.add_right_cancel count
            · change state.shared.output.relaysRunning + 1 = 1
              rw [one]
              rfl
          · omega
      | stopOutput =>
          simp only [Shared.run] at ran
          split_ifs at ran with held
          cases ran
          refine ⟨?_, fun _ => rfl, rfl, ?_⟩
          · exact count.trans mutex
          · change (if state.shared.output.outputRelay then _ else _) = 0
            rw [relay, one]
            cases state.shared.output.outputSource with
            | false => rfl
            | true => rfl
      | _ => cases decides

theorem Invariant.step (invariant : Invariant state) {label : Label}
    (taken : AudioOutput.step state label = some next) : Invariant next := by
  cases label with
  | connect =>
      cases taken
      exact Invariant.start invariant .incrActiveSessions rfl
  | disconnect =>
      rw [AudioOutput.step, Option.ite_none_left_eq_some] at taken
      obtain ⟨-, same⟩ := taken
      cases same
      exact Invariant.start invariant .decrActiveSessions rfl
  | setAudioOutputEnabled enabled =>
      cases taken
      exact invariant.start (.swapEnabled enabled) rfl
  | stage stage =>
      obtain ⟨more, proceeded⟩ := Pool.proceeded_of_proceed taken
      exact invariant.proceed proceeded

/-! ### Actions outstanding -/

theorem Stage.acts_congr {before after : Int} (same : 0 < after ↔ 0 < before) :
    Stage.acts after = Stage.acts before := by
  funext stage
  cases stage with
  | loadConnections => exact decide_eq_decide.mpr same
  | _ => rfl

theorem outstanding_proceeded
    (proceeded : Pool.Proceeded Shared.run state stage next more)
    (same : 0 < next.shared.activeConnections ↔
      0 < state.shared.activeConnections) :
    outstanding next +
        (if stage.acts state.shared.activeConnections then 1 else 0) =
      outstanding state +
        more.countP (Stage.acts state.shared.activeConnections) := by
  rw [outstanding, Stage.acts_congr same]
  exact proceeded.count (Stage.acts state.shared.activeConnections)

/-- A step that leads to an action -/
theorem relaySettled_of_leads
    (proceeded : Pool.Proceeded Shared.run state stage next more)
    (leads : 0 < more.countP (Stage.acts next.shared.activeConnections)) :
    RelaySettled next := by
  intro none
  rw [outstanding, Pool.count, proceeded.running, List.countP_append] at none
  omega

/-- A step that takes and adds no action, and leaves the relay as it was and as
it was wanted -/
theorem RelaySettled.of_silent (settled : RelaySettled state)
    (proceeded : Pool.Proceeded Shared.run state stage next more)
    (same : 0 < next.shared.activeConnections ↔
      0 < state.shared.activeConnections)
    (silent : stage.acts state.shared.activeConnections = false)
    (noMore : more.countP (Stage.acts state.shared.activeConnections) = 0)
    (sameOutput : next.shared.output = state.shared.output)
    (sameWanted : next.shared.Wanted ↔ state.shared.Wanted) :
    RelaySettled next := by
  have counts := outstanding_proceeded proceeded same
  rw [silent, noMore] at counts
  intro none
  rw [none] at counts
  rw [Shared.Suits, sameOutput, sameWanted]
  exact settled counts.symm

/-- The decisions -/
theorem RelaySettled.proceed_decides (settled : RelaySettled state)
    (proceeded : Pool.Proceeded Shared.run state stage next more)
    (decides : stage.decides = true) : RelaySettled next := by
  have ran := proceeded.ran
  obtain ⟨after, running⟩ := next
  cases stage with
  | startAudio | loadEnabled | startOutput | stopOutput => cases decides
  | incrActiveSessions | decrActiveSessions =>
      cases ran
      apply settled.of_silent proceeded Iff.rfl rfl _ rfl Iff.rfl
      split_ifs <;> rfl
  | addConnection =>
      cases ran
      by_cases first : state.shared.activeConnections + 1 = 1
      · apply relaySettled_of_leads proceeded
        simp [Stage.acts, first]
      · have same : 0 < state.shared.activeConnections + 1 ↔
            0 < state.shared.activeConnections := by omega
        apply settled.of_silent proceeded same rfl _ rfl
          (and_congr_left fun _ => same)
        simp [Stage.acts, first]
  | removeConnection =>
      cases ran
      by_cases last : state.shared.activeConnections - 1 = 0
      · apply relaySettled_of_leads proceeded
        simp [Stage.acts, last]
      · have same : 0 < state.shared.activeConnections - 1 ↔
            0 < state.shared.activeConnections := by omega
        apply settled.of_silent proceeded same rfl _ rfl
          (and_congr_left fun _ => same)
        simp [Stage.acts, last]
  | testConnected count =>
      cases ran
      by_cases first : count = 1
      · apply relaySettled_of_leads proceeded
        rw [if_pos first]
        exact Nat.one_pos
      · apply settled.of_silent proceeded Iff.rfl (decide_eq_false first) _ rfl
          Iff.rfl
        rw [if_neg first, List.countP_nil]
  | testDisconnected count =>
      cases ran
      by_cases last : count = 0
      · apply relaySettled_of_leads proceeded
        rw [if_pos last]
        exact Nat.one_pos
      · apply settled.of_silent proceeded Iff.rfl (decide_eq_false last) _ rfl
          Iff.rfl
        rw [if_neg last, List.countP_nil]
  | swapEnabled enabled =>
      cases ran
      by_cases same : state.shared.audioOutputEnabled = enabled
      · apply settled.of_silent proceeded Iff.rfl rfl _ rfl
        · rw [Shared.Wanted, Shared.Wanted, same]
        · rw [if_pos same, List.countP_nil]
      · cases enabled with
        | false =>
            apply relaySettled_of_leads proceeded
            rw [if_neg same]
            exact Nat.one_pos
        | true =>
            by_cases connected : 0 < state.shared.activeConnections
            · apply relaySettled_of_leads proceeded
              rw [if_neg same, if_pos rfl]
              simp [Stage.acts, connected]
            · apply settled.of_silent proceeded Iff.rfl rfl _ rfl
              · exact iff_of_false (fun wanted => connected wanted.1)
                  fun wanted => connected wanted.1
              · rw [if_neg same, if_pos rfl]
                simp [Stage.acts, connected]
  | loadConnections =>
      cases ran
      by_cases connected : 0 < state.shared.activeConnections
      · apply relaySettled_of_leads proceeded
        rw [if_pos connected]
        exact Nat.one_pos
      · apply settled.of_silent proceeded Iff.rfl (decide_eq_false connected) _
          rfl Iff.rfl
        rw [if_neg connected, List.countP_nil]

theorem RelaySettled.start (settled : RelaySettled state) (stage : Stage)
    (silent : stage.acts state.shared.activeConnections = false) :
    RelaySettled (state.start [stage]) := by
  intro none
  rw [outstanding, Pool.count_start, Pool.shared_start,
    List.countP_singleton, silent] at none
  exact settled none

/-- An action that leads to no other -/
theorem relaySettled_iff_of_acts {wants : Prop}
    (proceeded : Pool.Proceeded Shared.run state stage next [])
    (same : next.shared.activeConnections = state.shared.activeConnections)
    (acts : stage.acts state.shared.activeConnections = true)
    (suits : next.shared.Suits ↔ wants) :
    RelaySettled next ↔ (outstanding state = 1 → wants) := by
  have counts := outstanding_proceeded proceeded (by rw [same])
  rw [acts, if_pos rfl, List.countP_nil, Nat.add_zero] at counts
  apply imp_congr _ suits
  omega

/-- Starting the relay or finding it running settles it where it is wanted, and
stopping it where it is not. -/
theorem Invariant.relaySettled_proceed_iff (invariant : Invariant state)
    (settled : RelaySettled state)
    (proceeded : Pool.Proceeded Shared.run state stage next more) :
    RelaySettled next ↔ LastActionInTurn state (.stage stage) := by
  have ran := proceeded.ran
  have held : stage.holdsMutex = true → 0 < state.count Stage.holdsMutex :=
    proceeded.counted
  cases decides : stage.decides with
  | true =>
      refine iff_of_true (settled.proceed_decides proceeded decides) ?_
      cases stage with
      | startAudio => cases decides
      | startOutput => cases decides
      | stopOutput => cases decides
      | _ => trivial
  | false =>
      obtain ⟨after, running⟩ := next
      cases stage with
      | startAudio =>
          simp only [Shared.run] at ran
          split_ifs at ran with isHeld present
          · cases ran
            have runs := invariant.running_iff.mpr present
            rw [relaySettled_iff_of_acts proceeded rfl rfl (iff_true_left runs)]
            exact ⟨fun wanted _ => wanted, fun wanted => wanted present⟩
          · cases ran
            refine iff_of_true (relaySettled_of_leads proceeded Nat.one_pos) ?_
            intro itIs
            exact absurd itIs present
      | loadEnabled =>
          simp only [Shared.run] at ran
          split_ifs at ran with enabled
          · cases ran
            exact iff_of_true (relaySettled_of_leads proceeded Nat.one_pos)
              trivial
          · cases ran
            refine iff_of_true ?_ trivial
            intro _
            have locked : state.shared.output.audioMutex = true := by
              by_contra free
              have mutex := invariant.mutex
              rw [if_neg free] at mutex
              have counted := held rfl
              omega
            have stopped := mt invariant.running_iff.mp
              (Bool.eq_false_iff.mp (invariant.locked locked))
            exact iff_of_false stopped fun wanted => enabled wanted.2
      | startOutput =>
          cases ran
          exact relaySettled_iff_of_acts proceeded rfl rfl
            (iff_true_left (Nat.succ_pos state.shared.output.relaysRunning))
      | stopOutput =>
          simp only [Shared.run] at ran
          split_ifs at ran with isHeld
          cases ran
          have stopped :
              ¬ 0 < state.shared.output.stopOutputLocked.relaysRunning := by
            have one := invariant.one
            simp only [Output.stopOutputLocked, invariant.relay]
            split_ifs at one ⊢
            · omega
            · omega
          exact relaySettled_iff_of_acts proceeded rfl rfl (iff_false_left stopped)
      | _ => cases decides

theorem Invariant.relaySettled_iff (invariant : Invariant state)
    (settled : RelaySettled state) {label : Label}
    (taken : AudioOutput.step state label = some next) :
    RelaySettled next ↔ LastActionInTurn state label := by
  cases label with
  | connect =>
      cases taken
      exact iff_of_true (RelaySettled.start settled .incrActiveSessions rfl)
        trivial
  | disconnect =>
      rw [AudioOutput.step, Option.ite_none_left_eq_some] at taken
      obtain ⟨-, same⟩ := taken
      cases same
      exact iff_of_true (RelaySettled.start settled .decrActiveSessions rfl)
        trivial
  | setAudioOutputEnabled enabled =>
      cases taken
      exact iff_of_true (settled.start (.swapEnabled enabled) rfl) trivial
  | stage stage =>
      obtain ⟨more, proceeded⟩ := Pool.proceeded_of_proceed taken
      exact invariant.relaySettled_proceed_iff settled proceeded

theorem outstanding_of_idle (idle : state.running = []) :
    outstanding state = 0 :=
  Pool.count_of_idle idle _

theorem Invariant.runsWhenWanted (invariant : Invariant state)
    (settled : RelaySettled state) : RunsWhenWanted state := by
  refine ⟨fun idle => settled (outstanding_of_idle idle), ?_⟩
  rw [invariant.one]
  split_ifs
  · exact Nat.le_refl 1
  · exact Nat.zero_le 1

/-! ### The connections -/

def Stage.isIncr (stage : Stage) : Bool := stage = .incrActiveSessions
def Stage.isDecr (stage : Stage) : Bool := stage = .decrActiveSessions
def Stage.isAdd (stage : Stage) : Bool := stage = .addConnection
def Stage.isRemove (stage : Stage) : Bool := stage = .removeConnection

/-- The one connection that the handlers of the first and the last session
count -/
def Shared.firstConnected (shared : Shared) : Int :=
  if 0 < shared.actionSessions then 1 else 0

/-- What the counters lack is in progress. -/
structure Counted (state : State) : Prop where
  sessions : state.shared.actionSessions + state.count Stage.isIncr =
    state.shared.connected + state.count Stage.isDecr
  connections : state.shared.activeConnections + state.count Stage.isAdd =
    state.shared.firstConnected + state.count Stage.isRemove

/-- Each stage hands on what it does not count. -/
theorem Shared.run_balanced (ran : shared.run stage = some (after, more)) :
    after.connected = shared.connected ∧
    after.actionSessions + more.countP Stage.isIncr +
        (if stage.isDecr then 1 else 0 : Nat) =
      shared.actionSessions + more.countP Stage.isDecr +
        (if stage.isIncr then 1 else 0 : Nat) ∧
    after.activeConnections + more.countP Stage.isAdd +
        (if stage.isRemove then 1 else 0 : Nat) + shared.firstConnected =
      shared.activeConnections + more.countP Stage.isRemove +
        (if stage.isAdd then 1 else 0 : Nat) + after.firstConnected := by
  cases stage with
  | incrActiveSessions =>
      cases ran
      by_cases first : shared.actionSessions + 1 = 1
      · simp [Stage.isIncr, Stage.isDecr, Stage.isAdd, Stage.isRemove,
          Shared.firstConnected, first]
        omega
      · simp [Stage.isIncr, Stage.isDecr, Stage.isAdd, Stage.isRemove,
          Shared.firstConnected, first]
        omega
  | decrActiveSessions =>
      cases ran
      by_cases last : shared.actionSessions - 1 = 0
      · simp [Stage.isIncr, Stage.isDecr, Stage.isAdd, Stage.isRemove,
          Shared.firstConnected, last]
        omega
      · simp [Stage.isIncr, Stage.isDecr, Stage.isAdd, Stage.isRemove,
          Shared.firstConnected, last]
        omega
  | addConnection | removeConnection =>
      cases ran
      simp [Stage.isIncr, Stage.isDecr, Stage.isAdd, Stage.isRemove,
        Shared.firstConnected]
  | startOutput =>
      cases ran
      exact ⟨rfl, rfl, rfl⟩
  | testConnected _ | testDisconnected _ | swapEnabled _ | loadConnections =>
      cases ran
      split_ifs <;>
        simp_all [Stage.isIncr, Stage.isDecr, Stage.isAdd, Stage.isRemove,
          Shared.firstConnected]
  | startAudio | loadEnabled | stopOutput =>
      simp only [Shared.run] at ran
      split_ifs at ran <;> cases ran <;> exact ⟨rfl, rfl, rfl⟩

theorem Counted.initial (audioOutputEnabled : Bool) :
    Counted (initial audioOutputEnabled) :=
  ⟨rfl, rfl⟩

theorem Counted.proceed (counted : Counted state)
    (proceeded : Pool.Proceeded Shared.run state stage next more) :
    Counted next := by
  have ran := proceeded.ran
  have incrs := proceeded.count Stage.isIncr
  have decrs := proceeded.count Stage.isDecr
  have adds := proceeded.count Stage.isAdd
  have removes := proceeded.count Stage.isRemove
  obtain ⟨sessions, connections⟩ := counted
  obtain ⟨same, actions, firsts⟩ := Shared.run_balanced ran
  constructor
  · omega
  · omega

theorem Counted.start (counted : Counted state) (enabled : Bool) :
    Counted (state.start [.swapEnabled enabled]) := by
  obtain ⟨sessions, connections⟩ := counted
  constructor
  · rw [Pool.count_start, Pool.count_start]
    exact sessions
  · rw [Pool.count_start, Pool.count_start]
    exact connections

theorem Counted.step (counted : Counted state) {label : Label}
    (taken : AudioOutput.step state label = some next) : Counted next := by
  cases label with
  | connect =>
      cases taken
      obtain ⟨sessions, connections⟩ := counted
      constructor
      · simp only [Pool.count_start]
        change state.shared.actionSessions + ↑(state.count Stage.isIncr + 1) =
          ↑(state.shared.connected + 1) + ↑(state.count Stage.isDecr + 0)
        omega
      · simp only [Pool.count_start]
        exact connections
  | disconnect =>
      rw [AudioOutput.step, Option.ite_none_left_eq_some] at taken
      obtain ⟨some, same⟩ := taken
      cases same
      obtain ⟨sessions, connections⟩ := counted
      constructor
      · simp only [Pool.count_start]
        change state.shared.actionSessions + ↑(state.count Stage.isIncr + 0) =
          ↑(state.shared.connected - 1) + ↑(state.count Stage.isDecr + 1)
        omega
      · simp only [Pool.count_start]
        exact connections
  | setAudioOutputEnabled enabled =>
      cases taken
      exact Counted.start counted enabled
  | stage stage =>
      obtain ⟨more, proceeded⟩ := Pool.proceeded_of_proceed taken
      exact counted.proceed proceeded

/-- At rest there is a connection exactly if there is a session. -/
theorem Counted.connected_iff (counted : Counted state)
    (idle : state.running = []) :
    0 < state.shared.activeConnections ↔ 0 < state.shared.connected := by
  obtain ⟨sessions, connections⟩ := counted
  rw [Pool.count_of_idle idle, Pool.count_of_idle idle] at sessions connections
  rw [Shared.firstConnected] at connections
  split_ifs at connections
  · omega
  · omega

end Steps

/-! ### Runs -/

/-- The connections of a state at rest are those of the sessions. -/
theorem connected_iff_of_idle (audioOutputEnabled : Bool) (labels : List Label) :
    AllStates step (fun state => state.running = [] →
        (0 < state.shared.activeConnections ↔ 0 < state.shared.connected))
      (initial audioOutputEnabled) labels := by
  have everywhere : AllStates step Counted (initial audioOutputEnabled) labels :=
    allStates_of_invariant (fun counted taken => counted.step taken)
      (Counted.initial audioOutputEnabled) labels
  exact everywhere.mono fun state counted => counted.connected_iff

/-- An action that is the last outstanding settles the relay exactly when it
comes in turn, and in runs where each does the relay runs when it is wanted. -/
theorem runsWhenWanted_of_lastActionInTurn (audioOutputEnabled : Bool)
    (labels : List Label) :
    (AllStates step RelaySettled (initial audioOutputEnabled) labels ↔
      AllSteps step LastActionInTurn (initial audioOutputEnabled) labels) ∧
    (AllSteps step LastActionInTurn (initial audioOutputEnabled) labels →
      AllStates step RunsWhenWanted (initial audioOutputEnabled) labels) := by
  have atStart := Invariant.initial audioOutputEnabled
  have settledAtStart : RelaySettled (initial audioOutputEnabled) := by
    intro _
    exact iff_of_false (Nat.lt_irrefl 0) fun wanted => Int.lt_irrefl 0 wanted.1
  constructor
  · apply allStates_iff_allSteps_of_invariant _ _ atStart settledAtStart labels
    · intro state next label invariant taken
      exact invariant.step taken
    · intro state next label invariant settled taken
      exact invariant.relaySettled_iff settled taken
  · intro inTurn
    have everywhere : AllStates step
        (fun state => Invariant state ∧ RelaySettled state)
        (initial audioOutputEnabled) labels := by
      apply allStates_of_allSteps _ ⟨atStart, settledAtStart⟩ inTurn
      rintro state next label ⟨invariant, settled⟩ here taken
      exact ⟨invariant.step taken,
        (invariant.relaySettled_iff settled taken).mpr here⟩
    exact everywhere.mono fun state both => both.1.runsWhenWanted both.2

/-- The stages of the handler of a first session, with audio output enabled -/
def firstSession : List Label :=
  [.connect, .stage .incrActiveSessions, .stage .addConnection,
    .stage (.testConnected 1), .stage .startAudio, .stage .loadEnabled,
    .stage .startOutput]

theorem firstSession_runsWhenWanted :
    AllStates step RunsWhenWanted (initial true) firstSession := by
  apply (runsWhenWanted_of_lastActionInTurn true firstSession).2
  apply allSteps_cons_of_step rfl trivial
  apply allSteps_cons_of_step rfl trivial
  apply allSteps_cons_of_step rfl trivial
  apply allSteps_cons_of_step rfl trivial
  apply allSteps_cons_of_step rfl
  · intro present
    exact nomatch present
  apply allSteps_cons_of_step rfl trivial
  apply allSteps_cons_of_step rfl
  · intro _
    decide
  · trivial

/-- The last session leaves; before its handler stops the relay, the next one
finds it running. -/
def lateStop : List Label :=
  firstSession ++
    [.disconnect, .stage .decrActiveSessions, .stage .removeConnection,
      .stage (.testDisconnected 0), .connect, .stage .incrActiveSessions,
      .stage .addConnection, .stage (.testConnected 1), .stage .startAudio,
      .stage .stopOutput]

/-- The next session is left without sound. -/
theorem lateStop_not_runsWhenWanted :
    ¬ ∀ (audioOutputEnabled : Bool) (labels : List Label),
      AllStates step RunsWhenWanted (initial audioOutputEnabled) labels := by
  intro all
  exact absurd (all true lateStop) (by decide)

end AudioOutput

end JetKvm
