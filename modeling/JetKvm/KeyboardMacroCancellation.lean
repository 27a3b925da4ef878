import JetKvm.HidRpcMessage
import JetKvm.LabelledRuns
import JetKvm.UsbKeyboardKeysDown

/-!
# Execution and cancellation of keyboard macros

`rpcExecuteKeyboardMacro` cancels the macro in progress, installs its own
cancel function in `keyboardMacroCancel`, types the macro, and stores nil
there, each under its own hold of `keyboardMacroLock`.  Sessions execute and
cancel macros concurrently; a step of the model is one of these critical
sections, one report of a macro, or the end of one sleep.

An execution is named by its position in the list of executions.
-/

namespace JetKvm

namespace KeyboardMacro

open HidRpc LabelledRuns UsbGadget

/-- How far an execution has come, with the steps it has still to type. -/
inductive Phase where
  | starting (steps : List KeyboardMacroStep)
  | typing (steps : List KeyboardMacroStep)
  | sleeping (steps : List KeyboardMacroStep)
  | returning
  | returned
  deriving DecidableEq, Repr

structure Execution where
  phase : Phase
  cancelled : Bool := false
  deriving DecidableEq, Repr

structure Macros where
  executions : List Execution := []
  keyboardMacroCancel : Option Nat := none
  keysDownState : KeysDownState := {}
  deriving DecidableEq, Repr

/-- How a call of `rpcHidReport` goes: a gadget that is not ready skips the
report, and errors while it is unavailable for a moment are swallowed. -/
structure HidReport where
  ready : Bool := true
  write : HidWrite := .delivered
  unavailable : Bool := false
  deriving DecidableEq, Repr

def rpcKeyboardReport (tracked : KeysDownState) (modifier : UInt8)
    (keys : List UInt8) (report : HidReport) : KeysDownState × Option String :=
  if report.ready then
    let reported := keyboardReport tracked modifier keys report.write
    (reported.tracked, if report.unavailable then none else reported.err)
  else (tracked, none)

def keyboardClearStateKeys : List UInt8 :=
  List.replicate HidRpc.hidKeyBufferSize 0

def isClearKeyStep (step : KeyboardMacroStep) : Bool :=
  step.modifier == 0 && step.keys == keyboardClearStateKeys

namespace Macros

/-- One critical section of a session, one report of a macro, or the end of
one sleep.  `cancelKeyboardMacro` is what `rpcCancelKeyboardMacro` and the
disconnect of the last session do. -/
inductive Label where
  | execute (steps : List KeyboardMacroStep)
  | install (id : Nat)
  | report (id : Nat) (report : HidReport)
  | sleepCompleted (id : Nat)
  | sleepCancelled (id : Nat) (report : HidReport)
  | stepsDone (id : Nat)
  | uninstall (id : Nat)
  | cancelKeyboardMacro
  deriving DecidableEq, Repr

def setPhase (state : Macros) (id : Nat) (phase : Phase) : Macros :=
  { state with
    executions := state.executions.modify id fun execution =>
      { execution with phase := phase } }

def cancelKeyboardMacro (state : Macros) : Macros :=
  match state.keyboardMacroCancel with
  | none => state
  | some id =>
      { state with
        executions := state.executions.modify id fun execution =>
          { execution with cancelled := true }
        keyboardMacroCancel := none }

def setKeyboardMacroCancel (state : Macros) (cancel : Option Nat) : Macros :=
  { state with keyboardMacroCancel := cancel }

/-- A new execution with a context of its own. -/
def begin (state : Macros) (steps : List KeyboardMacroStep) : Macros :=
  { state with executions := state.executions ++ [⟨.starting steps, false⟩] }

/-- The body of the loop of `rpcDoExecuteKeyboardMacro`, up to the sleep. -/
def typeStep (state : Macros) (id : Nat) (step : KeyboardMacroStep)
    (rest : List KeyboardMacroStep) (report : HidReport) : Macros :=
  let (tracked, err) :=
    rpcKeyboardReport state.keysDownState step.modifier step.keys report
  if err.isSome then
    { state.setPhase id .returning with keysDownState := tracked }
  else
    -- notify the device that the keyboard state is being cleared
    let tracked :=
      if isClearKeyStep step then
        (updateKeysDown tracked 0 keyboardClearStateKeys).tracked
      else tracked
    { state.setPhase id (.sleeping rest) with keysDownState := tracked }

/-- A cancelled sleep makes sure the keyboard state is reset. -/
def typeClear (state : Macros) (id : Nat) (report : HidReport) : Macros :=
  let (tracked, _) :=
    rpcKeyboardReport state.keysDownState 0 keyboardClearStateKeys report
  { state.setPhase id .returning with keysDownState := tracked }

def step (state : Macros) : Label → Option Macros
  | .execute steps => some (state.cancelKeyboardMacro.begin steps)
  | .install id =>
      match state.executions[id]? with
      | some ⟨.starting steps, _⟩ =>
          some ((state.setPhase id (.typing steps)).setKeyboardMacroCancel
            (some id))
      | _ => none
  | .report id report =>
      match state.executions[id]? with
      | some ⟨.typing (step :: rest), _⟩ =>
          some (state.typeStep id step rest report)
      | _ => none
  | .sleepCompleted id =>
      match state.executions[id]? with
      | some ⟨.sleeping rest, _⟩ => some (state.setPhase id (.typing rest))
      | _ => none
  | .sleepCancelled id report =>
      match state.executions[id]? with
      | some ⟨.sleeping _, true⟩ => some (state.typeClear id report)
      | _ => none
  | .stepsDone id =>
      match state.executions[id]? with
      | some ⟨.typing [], _⟩ => some (state.setPhase id .returning)
      | _ => none
  | .uninstall id =>
      match state.executions[id]? with
      | some ⟨.returning, _⟩ =>
          some ((state.setPhase id .returned).setKeyboardMacroCancel none)
      | _ => none
  | .cancelKeyboardMacro => some state.cancelKeyboardMacro

end Macros

/-- The execution is between its cancel of the others and the installation of
its own cancel function. -/
def Phase.IsStarting : Phase → Prop
  | .starting _ => True
  | _ => False

/-- The execution is typing its macro. -/
def Phase.IsRunning : Phase → Prop
  | .typing _ => True
  | .sleeping _ => True
  | _ => False

namespace Macros

/-- The named execution exists and satisfies the property. -/
def Has (state : Macros) (property : Execution → Prop) (id : Nat) : Prop :=
  ∃ execution, state.executions[id]? = some execution ∧ property execution

/-- The execution is starting and un-cancelled. -/
def Starting (state : Macros) : Nat → Prop :=
  state.Has fun execution =>
    execution.cancelled = false ∧ execution.phase.IsStarting

/-- The execution is running and un-cancelled. -/
def Running (state : Macros) : Nat → Prop :=
  state.Has fun execution =>
    execution.cancelled = false ∧ execution.phase.IsRunning

@[simp]
theorem length_cancelKeyboardMacro (state : Macros) :
    state.cancelKeyboardMacro.executions.length = state.executions.length := by
  unfold cancelKeyboardMacro
  split
  · rfl
  · exact List.length_modify ..

/-- At most one execution is un-cancelled, and one that is running can be
cancelled. -/
structure Controlled (state : Macros) : Prop where
  atMostOne : ∀ {id other},
    (state.Starting id ∨ state.Running id) →
    (state.Starting other ∨ state.Running other) → id = other
  cancellable : ∀ {id}, state.Running id →
    state.keyboardMacroCancel = some id

/-- No execution starts while another one is starting, and none stores nil
while another one is running un-cancelled. -/
def Undisturbed (state : Macros) : Label → Prop
  | .execute _ => ∀ id, ¬ state.Starting id
  | .uninstall _ => ∀ id, ¬ state.Running id
  | _ => True

/-- What a step can do.  While an execution types its macro its own steps only
move it from one phase to a later one. -/
inductive Effect (state : Macros) : Label → Macros → Prop
  | execute (steps : List KeyboardMacroStep) :
      Effect state (.execute steps) (state.cancelKeyboardMacro.begin steps)
  | install {id : Nat} {steps : List KeyboardMacroStep} {cancelled : Bool}
      (found : state.executions[id]? = some ⟨.starting steps, cancelled⟩) :
      Effect state (.install id)
        ((state.setPhase id (.typing steps)).setKeyboardMacroCancel (some id))
  | progress {id : Nat} {execution : Execution} {label : Label}
      (phase : Phase) (tracked : KeysDownState)
      (found : state.executions[id]? = some execution)
      (running : execution.phase.IsRunning) (later : ¬ phase.IsStarting)
      (free : ∀ other : Macros, other.Undisturbed label) :
      Effect state label
        { state.setPhase id phase with keysDownState := tracked }
  | uninstall {id : Nat} {cancelled : Bool}
      (found : state.executions[id]? = some ⟨.returning, cancelled⟩) :
      Effect state (.uninstall id)
        ((state.setPhase id .returned).setKeyboardMacroCancel none)
  | cancel : Effect state .cancelKeyboardMacro state.cancelKeyboardMacro

theorem typeStep_effect {state : Macros} {id : Nat} {execution : Execution}
    (found : state.executions[id]? = some execution)
    (running : execution.phase.IsRunning) (step : KeyboardMacroStep)
    (rest : List KeyboardMacroStep) (report : HidReport) :
    Effect state (.report id report) (state.typeStep id step rest report) := by
  unfold typeStep
  dsimp only
  split_ifs
  · exact .progress .returning _ found running not_false fun _ => trivial
  · exact .progress (.sleeping rest) _ found running not_false fun _ => trivial
  · exact .progress (.sleeping rest) _ found running not_false fun _ => trivial

/-- What each step finds and leaves. -/
inductive Taken (state : Macros) : Label → Macros → Prop
  | execute (steps : List KeyboardMacroStep) :
      Taken state (.execute steps) (state.cancelKeyboardMacro.begin steps)
  | install {id : Nat} {steps : List KeyboardMacroStep} {cancelled : Bool}
      (found : state.executions[id]? = some ⟨.starting steps, cancelled⟩) :
      Taken state (.install id)
        ((state.setPhase id (.typing steps)).setKeyboardMacroCancel (some id))
  | report {id : Nat} {step : KeyboardMacroStep}
      {rest : List KeyboardMacroStep} {cancelled : Bool}
      (found : state.executions[id]? = some ⟨.typing (step :: rest), cancelled⟩)
      (report : HidReport) :
      Taken state (.report id report) (state.typeStep id step rest report)
  | sleepCompleted {id : Nat} {rest : List KeyboardMacroStep} {cancelled : Bool}
      (found : state.executions[id]? = some ⟨.sleeping rest, cancelled⟩) :
      Taken state (.sleepCompleted id) (state.setPhase id (.typing rest))
  | sleepCancelled {id : Nat} {rest : List KeyboardMacroStep}
      (found : state.executions[id]? = some ⟨.sleeping rest, true⟩)
      (report : HidReport) :
      Taken state (.sleepCancelled id report) (state.typeClear id report)
  | stepsDone {id : Nat} {cancelled : Bool}
      (found : state.executions[id]? = some ⟨.typing [], cancelled⟩) :
      Taken state (.stepsDone id) (state.setPhase id .returning)
  | uninstall {id : Nat} {cancelled : Bool}
      (found : state.executions[id]? = some ⟨.returning, cancelled⟩) :
      Taken state (.uninstall id)
        ((state.setPhase id .returned).setKeyboardMacroCancel none)
  | cancelKeyboardMacro :
      Taken state .cancelKeyboardMacro state.cancelKeyboardMacro

theorem taken_of_step {state next : Macros} {label : Label}
    (taken : state.step label = some next) : Taken state label next := by
  cases label with
  | execute steps =>
      obtain rfl := Option.some.inj taken
      exact .execute steps
  | install id =>
      simp only [step] at taken
      split at taken
      case h_1 steps cancelled found =>
        obtain rfl := Option.some.inj taken
        exact .install found
      case h_2 => cases taken
  | report id report =>
      simp only [step] at taken
      split at taken
      case h_1 step rest cancelled found =>
        obtain rfl := Option.some.inj taken
        exact .report found report
      case h_2 => cases taken
  | sleepCompleted id =>
      simp only [step] at taken
      split at taken
      case h_1 rest cancelled found =>
        obtain rfl := Option.some.inj taken
        exact .sleepCompleted found
      case h_2 => cases taken
  | sleepCancelled id report =>
      simp only [step] at taken
      split at taken
      case h_1 rest found =>
        obtain rfl := Option.some.inj taken
        exact .sleepCancelled found report
      case h_2 => cases taken
  | stepsDone id =>
      simp only [step] at taken
      split at taken
      case h_1 cancelled found =>
        obtain rfl := Option.some.inj taken
        exact .stepsDone found
      case h_2 => cases taken
  | uninstall id =>
      simp only [step] at taken
      split at taken
      case h_1 cancelled found =>
        obtain rfl := Option.some.inj taken
        exact .uninstall found
      case h_2 => cases taken
  | cancelKeyboardMacro =>
      obtain rfl := Option.some.inj taken
      exact .cancelKeyboardMacro

theorem effect_of_step {state next : Macros} {label : Label}
    (taken : state.step label = some next) : Effect state label next := by
  cases taken_of_step taken with
  | execute steps => exact .execute steps
  | install found => exact .install found
  | report found report => exact typeStep_effect found trivial _ _ report
  | sleepCompleted found =>
      exact .progress _ _ found trivial not_false fun _ => trivial
  | sleepCancelled found report =>
      exact .progress .returning _ found trivial not_false fun _ => trivial
  | stepsDone found =>
      exact .progress .returning _ found trivial not_false fun _ => trivial
  | uninstall found => exact .uninstall found
  | cancelKeyboardMacro => exact .cancel

variable {state : Macros} {id other : Nat} {property : Execution → Prop}

theorem has_setPhase_iff {execution : Execution} {phase : Phase}
    (found : state.executions[id]? = some execution) :
    (state.setPhase id phase).Has property other ↔
      if id = other then property { execution with phase := phase }
      else state.Has property other := by
  unfold Has setPhase
  simp only [List.getElem?_modify]
  by_cases same : id = other
  · subst same
    simp [found]
  · simp [same]

theorem has_cancelKeyboardMacro_iff :
    state.cancelKeyboardMacro.Has property other ↔
      if state.keyboardMacroCancel = some other then
        state.Has (fun execution =>
          property { execution with cancelled := true }) other
      else state.Has property other := by
  unfold Has cancelKeyboardMacro
  cases installed : state.keyboardMacroCancel with
  | none => simp
  | some id =>
      simp only [List.getElem?_modify, Option.some.injEq]
      by_cases same : id = other
      · simp [same]
      · simp [same]

theorem has_begin_iff {steps : List KeyboardMacroStep} :
    (state.begin steps).Has property other ↔
      state.Has property other ∨
        other = state.executions.length ∧ property ⟨.starting steps, false⟩ := by
  unfold Has begin
  simp only
  rcases Nat.lt_trichotomy other state.executions.length with
    below | same | above
  · simp [List.getElem?_append_left below, Nat.ne_of_lt below]
  · simp [same]
  · have outside : state.executions.length ≤ other := Nat.le_of_lt above
    have last : other - state.executions.length ≠ 0 := by omega
    simp [List.getElem?_append_right outside, List.getElem?_eq_none outside,
      last, Nat.ne_of_gt above]

theorem Has.lt_length (has : state.Has property id) :
    id < state.executions.length := by
  obtain ⟨execution, found, -⟩ := has
  exact (List.getElem?_eq_some_iff.mp found).1

@[simp]
theorem cancelKeyboardMacro_keyboardMacroCancel :
    state.cancelKeyboardMacro.keyboardMacroCancel = none := by
  unfold cancelKeyboardMacro
  cases installed : state.keyboardMacroCancel with
  | none => exact installed
  | some id => rfl

/-- Cancelling leaves the starting executions as they are, and of the running
ones those that were not installed. -/
theorem running_cancelKeyboardMacro_iff :
    state.cancelKeyboardMacro.Running other ↔
      state.keyboardMacroCancel ≠ some other ∧ state.Running other := by
  unfold Running
  rw [has_cancelKeyboardMacro_iff]
  split_ifs with installed
  · simp [installed, Has]
  · simp [installed]

theorem starting_cancelKeyboardMacro_iff :
    state.cancelKeyboardMacro.Starting other ↔
      state.keyboardMacroCancel ≠ some other ∧ state.Starting other := by
  unfold Starting
  rw [has_cancelKeyboardMacro_iff]
  split_ifs with installed
  · simp [installed, Has]
  · simp [installed]

theorem starting_begin_iff {steps : List KeyboardMacroStep} :
    (state.begin steps).Starting other ↔
      state.Starting other ∨ other = state.executions.length := by
  unfold Starting
  rw [has_begin_iff]
  simp [Phase.IsStarting]

theorem running_begin_iff {steps : List KeyboardMacroStep} :
    (state.begin steps).Running other ↔ state.Running other := by
  unfold Running
  rw [has_begin_iff]
  simp [Phase.IsRunning]

theorem hasStarting (starting : state.Starting id) :
    state.Has (·.phase.IsStarting) id :=
  starting.imp fun _ has => ⟨has.1, has.2.2⟩

theorem hasStarting_of_cancel
    (has : state.cancelKeyboardMacro.Has (·.phase.IsStarting) id) :
    state.Has (·.phase.IsStarting) id := by
  have has := has_cancelKeyboardMacro_iff.mp has
  split_ifs at has <;> exact has

/-- While the executions are controlled a cancellation leaves none running
un-cancelled. -/
theorem Controlled.not_running_after_cancel (controlled : state.Controlled)
    (id : Nat) : ¬ state.cancelKeyboardMacro.Running id := by
  intro running
  obtain ⟨notInstalled, running⟩ := running_cancelKeyboardMacro_iff.mp running
  exact notInstalled (controlled.cancellable running)

/-- Controlled executions, of which a starting one has not been cancelled and
cannot be: its cancel function is not installed yet. -/
structure Invariant (state : Macros) : Prop where
  controlled : state.Controlled
  starting : ∀ {id}, state.Has (·.phase.IsStarting) id →
    state.Starting id ∧ state.keyboardMacroCancel ≠ some id
  installed : ∀ {id}, state.keyboardMacroCancel = some id →
    id < state.executions.length

theorem not_has_initial : ¬ ({} : Macros).Has property id := by
  rintro ⟨execution, found, -⟩
  cases found

theorem Invariant.initial : Invariant {} where
  controlled :=
    { atMostOne := fun live => (live.elim not_has_initial not_has_initial).elim
      cancellable := fun running => (not_has_initial running).elim }
  starting := fun has => (not_has_initial has).elim
  installed := nofun

namespace Invariant

variable (invariant : state.Invariant)
include invariant

/-- Once a new execution has cancelled the others only it is un-cancelled,
provided no other one is starting. -/
theorem execute (alone : ∀ id, ¬ state.Starting id)
    (steps : List KeyboardMacroStep) :
    (state.cancelKeyboardMacro.begin steps).Invariant := by
  have noneRunning := invariant.controlled.not_running_after_cancel
  have noneStarting : ∀ id, ¬ state.cancelKeyboardMacro.Starting id :=
    fun id starting => alone id (starting_cancelKeyboardMacro_iff.mp starting).2
  have onlyNew : ∀ id,
      ((state.cancelKeyboardMacro.begin steps).Starting id ∨
        (state.cancelKeyboardMacro.begin steps).Running id) →
      id = state.cancelKeyboardMacro.executions.length := by
    rintro id (starting | running)
    · exact (starting_begin_iff.mp starting).resolve_left (noneStarting id)
    · exact absurd (running_begin_iff.mp running) (noneRunning id)
  refine ⟨⟨?_, ?_⟩, ?_, ?_⟩
  · intro id other live otherLive
    rw [onlyNew id live, onlyNew other otherLive]
  · intro id running
    exact absurd (running_begin_iff.mp running) (noneRunning id)
  · intro id has
    refine ⟨starting_begin_iff.mpr ?_, ?_⟩
    · rcases has_begin_iff.mp has with old | ⟨new, -⟩
      · exact absurd (invariant.starting (hasStarting_of_cancel old)).1 (alone id)
      · exact Or.inr new
    · simp [begin]
  · intro id installed
    simp [begin] at installed

/-- With every other execution cancelled, the installed one is the only one. -/
theorem install {steps : List KeyboardMacroStep} {cancelled : Bool}
    (found : state.executions[id]? = some ⟨.starting steps, cancelled⟩) :
    ((state.setPhase id (.typing steps)).setKeyboardMacroCancel
      (some id)).Invariant := by
  have starting := (invariant.starting ⟨_, found, trivial⟩).1
  have onlyThis : ∀ other, state.Starting other ∨ state.Running other →
      other = id :=
    fun other live => invariant.controlled.atMostOne live (Or.inl starting)
  have wasLive : ∀ other,
      ((state.setPhase id (.typing steps)).Starting other ∨
        (state.setPhase id (.typing steps)).Running other) →
      other = id := by
    intro other live
    by_cases same : id = other
    · exact same.symm
    · unfold Starting Running at live
      rw [has_setPhase_iff found, has_setPhase_iff found, if_neg same,
        if_neg same] at live
      exact onlyThis other live
  refine ⟨⟨?_, ?_⟩, ?_, ?_⟩
  · intro one other live otherLive
    exact (wasLive one live).trans (wasLive other otherLive).symm
  · intro other running
    rw [wasLive other (Or.inr running)]
    rfl
  · intro other has
    by_cases same : id = other
    · have has := (has_setPhase_iff found).mp has
      rw [if_pos same] at has
      exact has.elim
    · have has := (has_setPhase_iff found).mp has
      rw [if_neg same] at has
      exact absurd (onlyThis other (Or.inl (invariant.starting has).1)).symm same
  · rintro other ⟨rfl⟩
    simpa [setKeyboardMacroCancel, setPhase] using starting.lt_length

theorem progress {execution : Execution} {phase : Phase}
    (tracked : KeysDownState)
    (found : state.executions[id]? = some execution)
    (running : execution.phase.IsRunning) (later : ¬ phase.IsStarting) :
    Invariant { state.setPhase id phase with keysDownState := tracked } := by
  have wasRunning : ∀ other,
      (state.setPhase id phase).Running other → state.Running other := by
    intro other isRunning
    have has := (has_setPhase_iff found).mp isRunning
    split_ifs at has with same
    · exact same ▸ ⟨execution, found, has.1, running⟩
    · exact has
  have wasStarting : ∀ other,
      (state.setPhase id phase).Starting other → state.Starting other := by
    intro other isStarting
    have has := (has_setPhase_iff found).mp isStarting
    split_ifs at has with same
    · exact absurd has.2 later
    · exact has
  refine ⟨⟨?_, ?_⟩, ?_, ?_⟩
  · intro one other live otherLive
    exact invariant.controlled.atMostOne
      (live.imp (wasStarting one) (wasRunning one))
      (otherLive.imp (wasStarting other) (wasRunning other))
  · intro other isRunning
    exact invariant.controlled.cancellable (wasRunning other isRunning)
  · intro other has
    have has := (has_setPhase_iff found).mp has
    split_ifs at has with same
    · exact absurd has later
    · refine (invariant.starting has).imp_left fun isStarting => ?_
      apply (has_setPhase_iff found).mpr
      rw [if_neg same]
      exact isStarting
  · intro other installed
    simpa [setPhase] using invariant.installed installed

/-- Storing nil is harmless while no execution is running. -/
theorem uninstall {cancelled : Bool}
    (found : state.executions[id]? = some ⟨.returning, cancelled⟩)
    (noneRunning : ∀ other, ¬ state.Running other) :
    ((state.setPhase id .returned).setKeyboardMacroCancel none).Invariant := by
  have notRunning : ∀ other, ¬ (state.setPhase id .returned).Running other := by
    intro other isRunning
    have has := (has_setPhase_iff found).mp isRunning
    split_ifs at has with same
    · exact has.2
    · exact noneRunning other has
  have wasStarting : ∀ other,
      (state.setPhase id .returned).Starting other → state.Starting other := by
    intro other isStarting
    have has := (has_setPhase_iff found).mp isStarting
    split_ifs at has with same
    · exact has.2.elim
    · exact has
  refine ⟨⟨?_, ?_⟩, ?_, nofun⟩
  · intro one other live otherLive
    have live := live.resolve_right (notRunning one)
    have otherLive := otherLive.resolve_right (notRunning other)
    exact invariant.controlled.atMostOne (Or.inl (wasStarting one live))
      (Or.inl (wasStarting other otherLive))
  · exact fun running => absurd running (notRunning _)
  · intro other has
    have has := (has_setPhase_iff found).mp has
    split_ifs at has with same
    · exact has.elim
    · refine ⟨(has_setPhase_iff found).mpr ?_, nofun⟩
      rw [if_neg same]
      exact (invariant.starting has).1

theorem cancel : state.cancelKeyboardMacro.Invariant := by
  have notRunning := invariant.controlled.not_running_after_cancel
  refine ⟨⟨?_, ?_⟩, ?_, ?_⟩
  · intro one other live otherLive
    have live := live.resolve_right (notRunning one)
    have otherLive := otherLive.resolve_right (notRunning other)
    exact invariant.controlled.atMostOne
      (Or.inl (starting_cancelKeyboardMacro_iff.mp live).2)
      (Or.inl (starting_cancelKeyboardMacro_iff.mp otherLive).2)
  · exact fun running => absurd running (notRunning _)
  · intro other has
    obtain ⟨starting, notInstalled⟩ :=
      invariant.starting (hasStarting_of_cancel has)
    refine ⟨starting_cancelKeyboardMacro_iff.mpr ⟨notInstalled, starting⟩, ?_⟩
    simp
  · intro other installed
    simp at installed

/-- An undisturbed step keeps the executions controlled. -/
theorem step {next : Macros} {label : Label}
    (undisturbed : state.Undisturbed label)
    (taken : Macros.step state label = some next) : next.Invariant := by
  cases effect_of_step taken with
  | execute steps => exact invariant.execute undisturbed steps
  | install found => exact invariant.install found
  | progress phase tracked found running later =>
      exact invariant.progress tracked found running later
  | uninstall found => exact invariant.uninstall found undisturbed
  | cancel => exact invariant.cancel

/-- A step that leaves the executions controlled was undisturbed. -/
theorem undisturbed_of_controlled {next : Macros} {label : Label}
    (taken : Macros.step state label = some next)
    (controlled : next.Controlled) : state.Undisturbed label := by
  cases effect_of_step taken with
  | execute steps =>
      intro id starting
      have notInstalled := (invariant.starting (hasStarting starting)).2
      have stillStarting :
          (state.cancelKeyboardMacro.begin steps).Starting id :=
        starting_begin_iff.mpr (Or.inl
          (starting_cancelKeyboardMacro_iff.mpr ⟨notInstalled, starting⟩))
      have newStarting : (state.cancelKeyboardMacro.begin steps).Starting
          state.cancelKeyboardMacro.executions.length :=
        starting_begin_iff.mpr (Or.inr rfl)
      have same := controlled.atMostOne (Or.inl stillStarting)
        (Or.inl newStarting)
      have inside := (starting_cancelKeyboardMacro_iff.mpr
        ⟨notInstalled, starting⟩).lt_length
      exact absurd same (Nat.ne_of_lt inside)
  | install found => trivial
  | progress phase tracked found running later free => exact free state
  | @uninstall current cancelled found =>
      intro other running
      have distinct : current ≠ other := by
        rintro rfl
        obtain ⟨execution, sameFound, -, isRunning⟩ := running
        rw [found] at sameFound
        cases sameFound
        exact isRunning
      have stillRunning : ((state.setPhase current
          .returned).setKeyboardMacroCancel none).Running other := by
        apply (has_setPhase_iff found).mpr
        rw [if_neg distinct]
        exact running
      cases controlled.cancellable stillRunning
  | cancel => trivial

end Invariant

/-- Of the runs of macros and cancellations, the executions are controlled
throughout exactly those in which no execution starts while another one is
starting and none stores nil while another one is running un-cancelled. -/
theorem controlled_iff_undisturbed (labels : List Label) :
    AllStates step Controlled {} labels ↔
      AllSteps step Undisturbed {} labels :=
  allStates_iff_allSteps Invariant.controlled
    (fun invariant => invariant.step)
    (fun invariant => invariant.undisturbed_of_controlled)
    Invariant.initial labels

/-- A macro is cancelled by the next one and stores nil only after that one has
started to type. -/
def lateUninstall : List Label :=
  [.execute [⟨0, [4], 1000⟩], .install 0, .report 0 {},
    .execute [⟨0, [5], 1000⟩], .install 1, .report 1 {},
    .sleepCancelled 0 {}, .uninstall 0]

theorem not_controlled_lateUninstall :
    ¬ AllStates step Controlled {} lateUninstall := by
  intro controlled
  have last := controlled.last rfl
  have installed := @Controlled.cancellable _ last 1
    ⟨⟨.sleeping [], false⟩, rfl, rfl, trivial⟩
  cases installed

end Macros

end KeyboardMacro

end JetKvm
