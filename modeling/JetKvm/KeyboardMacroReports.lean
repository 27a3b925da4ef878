import JetKvm.KeyboardMacroCancellation

/-!
# The reports of keyboard macros

The executions of `KeyboardMacroCancellation`, with the keyboard reports that
they write.  A report is logged with the execution that writes it and the error
that `rpcKeyboardReport` returns.
-/

namespace JetKvm

namespace KeyboardMacro

open HidRpc LabelledRuns UsbGadget

namespace Reports

open Macros (Label)

structure TypedReport where
  id : Nat
  modifier : UInt8
  keys : List UInt8
  err : Option String
  deriving DecidableEq, Repr

/-- The macro of an execution, and how many reports had been written when
`rpcExecuteKeyboardMacro` was called -/
structure Origin where
  steps : List KeyboardMacroStep
  start : Nat
  deriving DecidableEq, Repr

/-- `stopped` lists the executions that a failed step or a cancelled sleep has
ended. -/
structure State where
  macros : Macros := {}
  origins : List Origin := []
  log : List TypedReport := []
  stopped : List Nat := []
  deriving DecidableEq, Repr

/-- The execution that writes a report in this step -/
def reporter : Label → Option Nat
  | .report id _ | .sleepCancelled id _ => some id
  | _ => none

/-- The report of this step -/
def written (macros : Macros) : Label → List TypedReport
  | .report id report =>
      match macros.executions[id]? with
      | some ⟨.typing (step :: _), _⟩ =>
          [⟨id, step.modifier, step.keys,
            (rpcKeyboardReport macros.keysDownState step.modifier step.keys
              report).2⟩]
      | _ => []
  | .sleepCancelled id report =>
      [⟨id, 0, keyboardClearStateKeys,
        (rpcKeyboardReport macros.keysDownState 0 keyboardClearStateKeys
          report).2⟩]
  | _ => []

/-- The execution that stops early in this step -/
def stops (macros : Macros) (label : Label) : List Nat :=
  match label with
  | .report id _ =>
      if (written macros label).any fun typed => typed.err.isSome then [id]
      else []
  | .sleepCancelled id _ => [id]
  | _ => []

/-- The macro that starts in this step -/
def starts (log : List TypedReport) : Label → List Origin
  | .execute steps => [⟨steps, log.length⟩]
  | _ => []

def step (state : State) (label : Label) : Option State :=
  (state.macros.step label).map fun next =>
    { macros := next
      origins := state.origins ++ starts state.log label
      log := state.log ++ written state.macros label
      stopped := state.stopped ++ stops state.macros label }

/-- The steps that an execution under way has still to type -/
def rest : Phase → Option (List KeyboardMacroStep)
  | .starting steps | .typing steps | .sleeping steps => some steps
  | _ => none

/-- The execution has been called, has not come to its end and is not
cancelled. -/
def State.Live (state : State) (id : Nat) : Prop :=
  ∃ execution, state.macros.executions[id]? = some execution ∧
    execution.cancelled = false ∧ (rest execution.phase).isSome

/-- The execution has written a report. -/
def State.HasWritten (state : State) (id : Nat) : Prop :=
  ∃ typed ∈ state.log, typed.id = id ∧ typed.err = none

/-- The report of a step, without how it went -/
def reportOf (id : Nat) (step : KeyboardMacroStep) : Nat × UInt8 × List UInt8 :=
  (id, step.modifier, step.keys)

def TypedReport.report (typed : TypedReport) : Nat × UInt8 × List UInt8 :=
  (typed.id, typed.modifier, typed.keys)

/-- The last report that the execution attempted has all keys up. -/
def State.Cleared (state : State) (id : Nat) : Prop :=
  ∃ last, (state.log.filter (·.id = id)).getLast? = some last ∧
    last.modifier = 0 ∧ last.keys = keyboardClearStateKeys

/-- What the execution has written since it was called -/
def State.own (state : State) (id : Nat) (origin : Origin) :
    List TypedReport :=
  (state.log.drop origin.start).filter (·.id = id)

/-- While a macro is live all that is typed are its steps but those it has
still to type; one that has ended without being stopped has typed all its
steps; and one that was stopped after it had written a report has released its
keys. -/
structure Exact (state : State) : Prop where
  exactly : ∀ id origin execution steps,
    state.macros.executions[id]? = some execution →
      execution.cancelled = false → rest execution.phase = some steps →
        state.origins[id]? = some origin →
          ∃ typed, origin.steps = typed ++ steps ∧
            (state.log.drop origin.start).map TypedReport.report =
              typed.map (reportOf id)
  complete : ∀ id origin execution,
    state.macros.executions[id]? = some execution →
      rest execution.phase = none → id ∉ state.stopped →
        state.origins[id]? = some origin →
          (state.own id origin).map TypedReport.report =
            origin.steps.map (reportOf id)
  released : ∀ id ∈ state.stopped, state.HasWritten id → state.Cleared id

/-- No report is written while another macro is live, and none fails after the
macro has written a report, unless it has all keys up. -/
structure InTurn (state : State) (label : Label) : Prop where
  alone : ∀ id, reporter label = some id →
    ∀ other, other ≠ id → ¬ state.Live other
  succeeds : ∀ id report step rest cancelled, label = .report id report →
    state.macros.executions[id]? = some ⟨.typing (step :: rest), cancelled⟩ →
      (rpcKeyboardReport state.macros.keysDownState step.modifier step.keys
        report).2.isSome → state.HasWritten id → isClearKeyStep step = true

/-! ### What a step does to one execution -/

/-- How the phase of an execution changes in a step: it ends in silence only
when all steps are typed. -/
inductive Move (tracked : KeysDownState) (id : Nat) :
    Label → Phase → Phase → Prop
  | quiet {label : Label} {before after : Phase}
      (silent : reporter label ≠ some id)
      (same : rest after = rest before ∨
        rest before = some [] ∧ rest after = none) :
      Move tracked id label before after
  | typed {report : HidReport} {step : KeyboardMacroStep}
      {steps : List KeyboardMacroStep}
      (succeeds : (rpcKeyboardReport tracked step.modifier step.keys
        report).2 = none) :
      Move tracked id (.report id report) (.typing (step :: steps))
        (.sleeping steps)
  | failed {report : HidReport} {step : KeyboardMacroStep}
      {steps : List KeyboardMacroStep}
      (fails : (rpcKeyboardReport tracked step.modifier step.keys
        report).2.isSome) :
      Move tracked id (.report id report) (.typing (step :: steps)) .returning
  | cleared {report : HidReport} {steps : List KeyboardMacroStep} :
      Move tracked id (.sleepCancelled id report) (.sleeping steps) .returning

section Moves

variable {macros next : Macros} {label : Label} {id other : Nat}

theorem executions_setPhase {found : Execution} {phase : Phase}
    (isFound : (macros.setPhase id phase).executions[other]? = some found) :
    ∃ before, macros.executions[other]? = some before ∧
      found.cancelled = before.cancelled ∧
      (other = id ∧ found.phase = phase ∨
        other ≠ id ∧ found.phase = before.phase) := by
  simp only [Macros.setPhase, List.getElem?_modify, Option.map_eq_map,
    Option.map_eq_some_iff] at isFound
  obtain ⟨before, wasFound, rfl⟩ := isFound
  refine ⟨before, wasFound, ?_⟩
  by_cases same : id = other
  · subst same
    simp
  · simp [same, Ne.symm same]

theorem executions_cancel {found : Execution}
    (isFound : macros.cancelKeyboardMacro.executions[other]? = some found) :
    ∃ before, macros.executions[other]? = some before ∧
      (before.cancelled = true → found.cancelled = true) ∧
      found.phase = before.phase := by
  unfold Macros.cancelKeyboardMacro at isFound
  cases installed : macros.keyboardMacroCancel with
  | none =>
      simp only [installed] at isFound
      exact ⟨found, isFound, fun cancelled => cancelled, rfl⟩
  | some id =>
      simp only [installed, List.getElem?_modify, Option.map_eq_map,
        Option.map_eq_some_iff] at isFound
      obtain ⟨before, wasFound, rfl⟩ := isFound
      refine ⟨before, wasFound, ?_⟩
      by_cases same : id = other
      · simp [same]
      · simp [same]

/-- A step of one execution moves that one and leaves the others. -/
theorem move_setPhase {execution after : Execution} {phase : Phase}
    (found : macros.executions[id]? = some execution)
    (silent : ∀ other, other ≠ id → reporter label ≠ some other)
    (moves : Move macros.keysDownState id label execution.phase phase)
    (isFound : (macros.setPhase id phase).executions[other]? = some after) :
    ∃ before, macros.executions[other]? = some before ∧
      (before.cancelled = true → after.cancelled = true) ∧
        Move macros.keysDownState other label before.phase after.phase := by
  obtain ⟨before, wasFound, flag, phases⟩ := executions_setPhase isFound
  refine ⟨before, wasFound, fun cancelled => flag.trans cancelled, ?_⟩
  rcases phases with ⟨rfl, isPhase⟩ | ⟨differs, isPhase⟩
  · obtain rfl := Option.some.inj (found.symm.trans wasFound)
    rw [isPhase]
    exact moves
  · rw [isPhase]
    exact .quiet (silent other differs) (.inl rfl)

theorem reporter_ne_some (silent : reporter label = none) (id : Nat) :
    reporter label ≠ some id := fun reports =>
  Option.some_ne_none id (reports.symm.trans silent)

/-- An execution is new, or moves as the step says; none is un-cancelled. -/
theorem move_of_step (taken : macros.step label = some next)
    {after : Execution} (isFound : next.executions[other]? = some after) :
    (∃ steps, label = .execute steps ∧ other = macros.executions.length ∧
      after = ⟨.starting steps, false⟩) ∨
    ∃ before, macros.executions[other]? = some before ∧
      (before.cancelled = true → after.cancelled = true) ∧
        Move macros.keysDownState other label before.phase after.phase := by
  cases Macros.taken_of_step taken with
  | execute steps =>
      simp only [Macros.begin, List.getElem?_append,
        Macros.length_cancelKeyboardMacro] at isFound
      split_ifs at isFound with old
      · obtain ⟨before, wasFound, flag, phase⟩ := executions_cancel isFound
        refine .inr ⟨before, wasFound, flag,
          .quiet (reporter_ne_some rfl _) (.inl ?_)⟩
        rw [phase]
      · rw [List.getElem?_singleton, Option.ite_none_right_eq_some] at isFound
        obtain ⟨last, same⟩ := isFound
        exact .inl ⟨steps, rfl, by omega, (Option.some.inj same).symm⟩
  | @install id steps _ found =>
      have moves : Move macros.keysDownState id (.install id)
          (.starting steps) (.typing steps) :=
        .quiet (reporter_ne_some rfl _) (.inl rfl)
      exact .inr (move_setPhase found
        (fun other _ => reporter_ne_some rfl other) moves isFound)
  | @report id _ _ _ found report =>
      have silent (other : Nat) (differs : other ≠ id) :
          reporter (.report id report) ≠ some other := by
        rintro ⟨rfl⟩
        exact differs rfl
      refine .inr ?_
      unfold Macros.typeStep at isFound
      dsimp only at isFound
      split_ifs at isFound with fails cleared
      · exact move_setPhase found silent (.failed fails) isFound
      · exact move_setPhase found silent
          (.typed (Option.not_isSome_iff_eq_none.mp fails)) isFound
      · exact move_setPhase found silent
          (.typed (Option.not_isSome_iff_eq_none.mp fails)) isFound
  | @sleepCompleted id steps _ found =>
      have moves : Move macros.keysDownState id (.sleepCompleted id)
          (.sleeping steps) (.typing steps) :=
        .quiet (reporter_ne_some rfl _) (.inl rfl)
      exact .inr (move_setPhase found
        (fun other _ => reporter_ne_some rfl other) moves isFound)
  | @sleepCancelled id _ found report =>
      have silent (other : Nat) (differs : other ≠ id) :
          reporter (.sleepCancelled id report) ≠ some other := by
        rintro ⟨rfl⟩
        exact differs rfl
      exact .inr (move_setPhase found silent .cleared isFound)
  | stepsDone found =>
      exact .inr (move_setPhase found (fun other _ => reporter_ne_some rfl other)
        (.quiet (reporter_ne_some rfl _) (.inr ⟨rfl, rfl⟩)) isFound)
  | uninstall found =>
      refine .inr (move_setPhase found
        (fun other _ => reporter_ne_some rfl other)
        (.quiet (reporter_ne_some rfl _) ?_) isFound)
      exact .inl rfl
  | cancelKeyboardMacro =>
      obtain ⟨before, wasFound, flag, phase⟩ := executions_cancel isFound
      refine .inr ⟨before, wasFound, flag, .quiet (reporter_ne_some rfl _) (.inl ?_)⟩
      rw [phase]

/-- What a step writes is written by its reporter. -/
theorem id_of_written {typed : TypedReport}
    (isWritten : typed ∈ written macros label) :
    reporter label = some typed.id := by
  cases label with
  | report id report =>
      simp only [written] at isWritten
      split at isWritten
      · obtain rfl := List.mem_singleton.mp isWritten
        rfl
      · cases isWritten
  | sleepCancelled id report =>
      obtain rfl := List.mem_singleton.mp isWritten
      rfl
  | _ => cases isWritten

@[simp] theorem length_setPhase {phase : Phase} :
    (macros.setPhase id phase).executions.length =
      macros.executions.length := by
  simp [Macros.setPhase]

/-- As many executions are added as macros start. -/
theorem length_of_step (taken : macros.step label = some next)
    (log : List TypedReport) :
    next.executions.length =
      macros.executions.length + (starts log label).length := by
  cases Macros.taken_of_step taken with
  | execute steps => simp [Macros.begin, starts]
  | report found report =>
      unfold Macros.typeStep
      dsimp only
      split_ifs <;> simp [starts]
  | _ => simp [starts, Macros.setKeyboardMacroCancel, Macros.typeClear]

/-- Who writes a report has still steps to type or was cancelled before that,
and writes one. -/
theorem written_of_reporter (taken : macros.step label = some next)
    (reports : reporter label = some id) :
    (∃ execution, macros.executions[id]? = some execution ∧
      (rest execution.phase).isSome) ∧
    ∃ typed, written macros label = [typed] ∧ typed.id = id := by
  cases Macros.taken_of_step taken with
  | report found report =>
      obtain rfl := Option.some.inj reports
      refine ⟨⟨_, found, rfl⟩, ?_⟩
      simp only [written, found]
      exact ⟨_, rfl, rfl⟩
  | sleepCancelled found report =>
      obtain rfl := Option.some.inj reports
      exact ⟨⟨_, found, rfl⟩, _, rfl, rfl⟩
  | _ => cases reports

/-- A report leaves the other executions as they are. -/
theorem executions_of_reporter (taken : macros.step label = some next)
    (reports : reporter label = some id) (differs : other ≠ id) :
    next.executions[other]? = macros.executions[other]? := by
  have kept (phase : Phase) :
      (macros.setPhase id phase).executions[other]? =
        macros.executions[other]? := by
    simp [Macros.setPhase, Ne.symm differs]
  cases Macros.taken_of_step taken with
  | report found report =>
      obtain rfl := Option.some.inj reports
      unfold Macros.typeStep
      dsimp only
      split_ifs
      · exact kept _
      · exact kept _
      · exact kept _
  | sleepCancelled found report =>
      obtain rfl := Option.some.inj reports
      exact kept _
  | _ => cases reports

/-- An execution that comes to nothing stays so. -/
theorem Move.rest_eq_none {tracked : KeysDownState} {before after : Phase}
    (moves : Move tracked id label before after) (isOver : rest before = none) :
    rest after = none := by
  cases moves with
  | quiet silent same =>
      rcases same with same | ended
      · exact same.trans isOver
      · exact ended.2
  | typed => cases isOver
  | failed => cases isOver
  | cleared => cases isOver

theorem mem_stops (stopped : id ∈ stops macros label) :
    reporter label = some id ∧
      ((∃ report, label = .sleepCancelled id report) ∨
        ∃ report typed, label = .report id report ∧
          written macros label = [typed] ∧ typed.err.isSome) := by
  cases label with
  | report actor report =>
      simp only [stops] at stopped
      split_ifs at stopped with fails
      · obtain rfl := List.mem_singleton.mp stopped
        obtain ⟨typed, isWritten, err⟩ := List.any_eq_true.mp fails
        have single : written macros (.report id report) = [typed] := by
          simp only [written] at isWritten ⊢
          split at isWritten
          · rw [List.mem_singleton.mp isWritten]
          · cases isWritten
        exact ⟨rfl, .inr ⟨report, typed, rfl, single, err⟩⟩
      · cases stopped
  | sleepCancelled actor report =>
      obtain rfl := List.mem_singleton.mp stopped
      exact ⟨rfl, .inl ⟨report, rfl⟩⟩
  | _ => cases stopped

end Moves

/-- What an execution has written are the steps that are no longer left, unless
it was stopped, and then it has nothing left; while it is live nothing else is
written. -/
structure Invariant (state : State) : Prop where
  aligned : state.origins.length = state.macros.executions.length
  own : ∀ id origin execution,
    state.macros.executions[id]? = some execution → id ∉ state.stopped →
      state.origins[id]? = some origin →
        origin.start ≤ state.log.length ∧
          ∃ typed, origin.steps = typed ++ (rest execution.phase).getD [] ∧
            (state.own id origin).map TypedReport.report =
              typed.map (reportOf id)
  alone : ∀ id origin, state.Live id → state.origins[id]? = some origin →
    ∀ typed ∈ state.log.drop origin.start, typed.id = id
  isOver : ∀ id ∈ state.stopped, ∃ execution,
    state.macros.executions[id]? = some execution ∧ rest execution.phase = none
  released : ∀ id ∈ state.stopped, state.HasWritten id → state.Cleared id

theorem invariant_initial : Invariant {} where
  aligned := rfl
  own _ _ _ found := by cases found
  alone _ _ live := by
    obtain ⟨_, found, -⟩ := live
    cases found
  isOver _ stopped := by cases stopped
  released _ stopped := by cases stopped

namespace Invariant

variable {state next : State} {label : Label} {id other : Nat}

/-- An execution under way was not stopped. -/
theorem not_stopped (invariant : Invariant state) {execution : Execution}
    (found : state.macros.executions[id]? = some execution)
    (underWay : (rest execution.phase).isSome) : id ∉ state.stopped := by
  intro stopped
  obtain ⟨same, isFound, isOver⟩ := invariant.isOver id stopped
  obtain rfl := Option.some.inj (found.symm.trans isFound)
  rw [isOver] at underWay
  cases underWay

theorem exact (invariant : Invariant state) : Exact state where
  exactly id origin execution steps found flag isRest isOrigin := by
    have underWay : (rest execution.phase).isSome := by simp [isRest]
    obtain ⟨-, typed, whole, same⟩ := invariant.own id origin execution found
      (invariant.not_stopped found underWay) isOrigin
    have alone := invariant.alone id origin ⟨execution, found, flag, underWay⟩
      isOrigin
    have all : state.own id origin = state.log.drop origin.start :=
      List.filter_eq_self.mpr (by simpa using alone)
    rw [all] at same
    exact ⟨typed, by simpa [isRest] using whole, same⟩
  complete id origin execution found isOver notStopped isOrigin := by
    obtain ⟨-, typed, whole, same⟩ :=
      invariant.own id origin execution found notStopped isOrigin
    rw [isOver, Option.getD_none, List.append_nil] at whole
    rw [whole, same]
  released := invariant.released

/-- An execution that is not stopped writes its next step, or nothing. -/
theorem own_step (invariant : Invariant state) {macros : Macros}
    (moved : state.macros.step label = some macros)
    {origin : Origin} {after : Execution}
    (isFound : macros.executions[id]? = some after)
    (notStopped : id ∉ state.stopped ++ stops state.macros label)
    (isOrigin : (state.origins ++ starts state.log label)[id]? = some origin) :
    origin.start ≤ (state.log ++ written state.macros label).length ∧
      ∃ typed, origin.steps = typed ++ (rest after.phase).getD [] ∧
        (((state.log ++ written state.macros label).drop origin.start).filter
          (·.id = id)).map TypedReport.report = typed.map (reportOf id) := by
  rw [List.mem_append, not_or] at notStopped
  rcases move_of_step moved isFound with new | old
  · obtain ⟨macro', rfl, rfl, rfl⟩ := new
    rw [← invariant.aligned, List.getElem?_append_right (Nat.le_refl _),
      Nat.sub_self] at isOrigin
    obtain rfl := Option.some.inj isOrigin
    refine ⟨by simp, [], rfl, ?_⟩
    simp [written]
  · obtain ⟨before, wasFound, -, moves⟩ := old
    have inside : id < state.origins.length := by
      rw [invariant.aligned]
      exact (List.getElem?_eq_some_iff.mp wasFound).1
    rw [List.getElem?_append_left inside] at isOrigin
    obtain ⟨start, done, whole, same⟩ :=
      invariant.own id origin before wasFound notStopped.1 isOrigin
    refine ⟨by simp; omega, ?_⟩
    rw [List.drop_append_of_le_length start, List.filter_append, List.map_append]
    generalize phaseBefore : before.phase = phase at moves whole
    generalize after.phase = phase' at moves ⊢
    cases moves with
    | quiet silent rests =>
        have nothing : (written state.macros label).filter (·.id = id) = [] := by
          refine List.filter_eq_nil_iff.mpr fun typed member => ?_
          have differs : typed.id ≠ id := by
            rintro rfl
            exact silent (id_of_written member)
          simpa using differs
        rw [nothing, List.map_nil, List.append_nil]
        refine ⟨done, whole.trans ?_, same⟩
        rcases rests with rests | ⟨noneLeft, isOver⟩
        · rw [rests]
        · rw [noneLeft, isOver]
          rfl
    | @typed report step left succeeds =>
        have entry : written state.macros (.report id report) =
            [⟨id, step.modifier, step.keys, none⟩] := by
          cases before
          simp only at phaseBefore
          subst phaseBefore
          simp only [written, wasFound, succeeds]
        refine ⟨done ++ [step], by simp [whole, rest], ?_⟩
        change (state.own id origin).map TypedReport.report ++ _ = _
        rw [same, entry, List.map_append]
        simp [TypedReport.report, reportOf]
    | @failed report step left fails =>
        refine absurd ?_ notStopped.2
        cases before
        simp only at phaseBefore
        subst phaseBefore
        simp [stops, written, wasFound, fails]
    | cleared => exact absurd (List.mem_singleton_self _) notStopped.2

/-- While an execution is live, a step in turn writes nothing else. -/
theorem alone_step (invariant : Invariant state) (inTurn : InTurn state label)
    {macros : Macros} (moved : state.macros.step label = some macros)
    {origin : Origin} {after : Execution}
    (isFound : macros.executions[id]? = some after)
    (flag : after.cancelled = false) (underWay : (rest after.phase).isSome)
    (isOrigin : (state.origins ++ starts state.log label)[id]? = some origin)
    {typed : TypedReport}
    (member : typed ∈
      (state.log ++ written state.macros label).drop origin.start) :
    typed.id = id := by
  rcases move_of_step moved isFound with new | old
  · obtain ⟨macro', rfl, rfl, rfl⟩ := new
    rw [← invariant.aligned, List.getElem?_append_right (Nat.le_refl _),
      Nat.sub_self] at isOrigin
    obtain rfl := Option.some.inj isOrigin
    simp [written] at member
  · obtain ⟨before, wasFound, flags, moves⟩ := old
    have wasFlag : before.cancelled = false := by
      cases was : before.cancelled with
      | false => rfl
      | true => exact (flags was).symm.trans flag
    have inside : id < state.origins.length := by
      rw [invariant.aligned]
      exact (List.getElem?_eq_some_iff.mp wasFound).1
    rw [List.getElem?_append_left inside] at isOrigin
    have wasUnderWay : (rest before.phase).isSome := by
      rw [Option.isSome_iff_ne_none] at underWay ⊢
      exact fun isOver => underWay (moves.rest_eq_none isOver)
    have live : state.Live id := ⟨before, wasFound, wasFlag, wasUnderWay⟩
    obtain ⟨start, -⟩ := invariant.own id origin before wasFound
      (invariant.not_stopped wasFound wasUnderWay) isOrigin
    rw [List.drop_append_of_le_length start] at member
    rcases List.mem_append.mp member with old | new
    · exact invariant.alone id origin live isOrigin typed old
    · by_contra differs
      exact inTurn.alone typed.id (id_of_written new) id (Ne.symm differs) live

/-- An execution that was stopped stays stopped, and one that stops now has
nothing left. -/
theorem over_step (invariant : Invariant state) {macros : Macros}
    (moved : state.macros.step label = some macros)
    (stopped : id ∈ state.stopped ++ stops state.macros label) :
    ∃ execution, macros.executions[id]? = some execution ∧
      rest execution.phase = none := by
  have before : ∃ execution, state.macros.executions[id]? = some execution ∧
      (rest execution.phase = none ∨ id ∈ stops state.macros label) := by
    rcases List.mem_append.mp stopped with old | new
    · obtain ⟨execution, found, isOver⟩ := invariant.isOver id old
      exact ⟨execution, found, .inl isOver⟩
    · obtain ⟨⟨execution, found, -⟩, -⟩ :=
        written_of_reporter moved (mem_stops new).1
      exact ⟨execution, found, .inr new⟩
  obtain ⟨execution, found, ends⟩ := before
  have inside : id < state.macros.executions.length :=
    (List.getElem?_eq_some_iff.mp found).1
  have longer := length_of_step moved state.log
  have remains : id < macros.executions.length := by omega
  refine ⟨_, List.getElem?_eq_getElem remains, ?_⟩
  rcases move_of_step moved (List.getElem?_eq_getElem remains) with new | old
  · obtain ⟨-, -, rfl, -⟩ := new
    omega
  · obtain ⟨was, wasFound, -, moves⟩ := old
    obtain rfl := Option.some.inj (found.symm.trans wasFound)
    rcases ends with isOver | stops
    · exact moves.rest_eq_none isOver
    · obtain ⟨reports, how⟩ := mem_stops stops
      generalize phaseBefore : execution.phase = phase at moves
      generalize (macros.executions[id]).phase = phase' at moves ⊢
      cases moves with
      | quiet silent => exact absurd reports silent
      | failed => rfl
      | cleared => rfl
      | @typed report step left succeeds =>
          rcases how with ⟨_, isCancel⟩ | ⟨_, typed, -, single, err⟩
          · cases isCancel
          · cases execution
            simp only at phaseBefore
            subst phaseBefore
            simp only [written, found, succeeds] at single
            obtain rfl := List.singleton_inj.mp single
            cases err

/-- The last report of the log decides. -/
theorem cleared_of_last {log : List TypedReport} {typed : TypedReport}
    (isId : typed.id = id) (modifier : typed.modifier = 0)
    (keys : typed.keys = keyboardClearStateKeys) :
    ∃ last, ((log ++ [typed]).filter (·.id = id)).getLast? = some last ∧
      last.modifier = 0 ∧ last.keys = keyboardClearStateKeys := by
  refine ⟨typed, ?_, modifier, keys⟩
  simp [List.filter_append, isId]

/-- A stopped execution writes nothing more, and one that stops in turn has
released its keys if it has written a report. -/
theorem released_step (invariant : Invariant state)
    (inTurn : InTurn state label) {macros : Macros}
    (moved : state.macros.step label = some macros)
    (stopped : id ∈ state.stopped ++ stops state.macros label)
    (hasWritten : ∃ typed ∈ state.log ++ written state.macros label,
      typed.id = id ∧ typed.err = none) :
    ∃ last, ((state.log ++ written state.macros label).filter
        (·.id = id)).getLast? = some last ∧
      last.modifier = 0 ∧ last.keys = keyboardClearStateKeys := by
  by_cases reports : reporter label = some id
  · obtain ⟨⟨execution, found, left⟩, typed, single, isId⟩ :=
      written_of_reporter moved reports
    have new : id ∈ stops state.macros label := by
      refine (List.mem_append.mp stopped).resolve_left fun old => ?_
      obtain ⟨execution', found', isOver⟩ := invariant.isOver id old
      obtain rfl := Option.some.inj (found.symm.trans found')
      rw [isOver] at left
      cases left
    rw [single] at hasWritten ⊢
    rcases (mem_stops new).2 with ⟨report, rfl⟩ | ⟨report, last, rfl, same, err⟩
    · obtain rfl := List.singleton_inj.mp single
      exact cleared_of_last isId rfl rfl
    · obtain rfl : last = typed :=
        List.singleton_inj.mp (same.symm.trans single)
      have wasWritten : state.HasWritten id := by
        obtain ⟨other, member, isOther, succeeded⟩ := hasWritten
        rcases List.mem_append.mp member with old | last'
        · exact ⟨other, old, isOther, succeeded⟩
        · obtain rfl := List.mem_singleton.mp last'
          rw [succeeded] at err
          cases err
      cases Macros.taken_of_step moved with
      | report isTyping _ =>
          simp only [written, isTyping] at single
          obtain rfl := List.singleton_inj.mp single
          have clear := inTurn.succeeds id report _ _ _ rfl isTyping err
            wasWritten
          simp only [isClearKeyStep, Bool.and_eq_true, beq_iff_eq] at clear
          exact cleared_of_last rfl clear.1 clear.2
  · have others : ∀ typed ∈ written state.macros label, typed.id ≠ id := by
      rintro typed member rfl
      exact reports (id_of_written member)
    have old : id ∈ state.stopped := by
      refine (List.mem_append.mp stopped).resolve_right fun new => ?_
      exact reports (mem_stops new).1
    have wasWritten : state.HasWritten id := by
      obtain ⟨typed, member, isId, succeeded⟩ := hasWritten
      refine ⟨typed, ?_, isId, succeeded⟩
      refine (List.mem_append.mp member).resolve_right fun new => ?_
      exact others typed new isId
    have nothing : (written state.macros label).filter (·.id = id) = [] := by
      refine List.filter_eq_nil_iff.mpr fun typed member => ?_
      simpa using others typed member
    rw [List.filter_append, nothing, List.append_nil]
    exact invariant.released id old wasWritten

theorem step (invariant : Invariant state) (inTurn : InTurn state label)
    (taken : Reports.step state label = some next) : Invariant next := by
  obtain ⟨macros, moved, rfl⟩ := Option.map_eq_some_iff.mp taken
  exact {
    aligned := by
      rw [List.length_append, invariant.aligned,
        length_of_step moved state.log]
    own := fun _ _ _ => invariant.own_step moved
    alone := fun _ _ live isOrigin _ => by
      obtain ⟨after, isFound, flag, underWay⟩ := live
      exact invariant.alone_step inTurn moved isFound flag underWay isOrigin
    isOver := fun _ => invariant.over_step moved
    released := fun _ => invariant.released_step inTurn moved }

/-- A step that leaves the log exact was in turn. -/
theorem inTurn (invariant : Invariant state)
    (taken : Reports.step state label = some next) (exact : Exact next) :
    InTurn state label := by
  obtain ⟨macros, moved, rfl⟩ := Option.map_eq_some_iff.mp taken
  constructor
  · intro id reports other differs live
    obtain ⟨execution, found, flag, underWay⟩ := live
    obtain ⟨steps, isRest⟩ := Option.isSome_iff_exists.mp underWay
    have inside : other < state.origins.length := by
      rw [invariant.aligned]
      exact (List.getElem?_eq_some_iff.mp found).1
    have isOrigin := List.getElem?_eq_getElem inside
    obtain ⟨start, -⟩ := invariant.own other _ execution found
      (invariant.not_stopped found underWay) isOrigin
    obtain ⟨typed, -, same⟩ := exact.exactly other (state.origins[other])
      execution steps
      ((executions_of_reporter moved reports differs).trans found) flag isRest
      ((List.getElem?_append_left inside).trans isOrigin)
    obtain ⟨-, entry, single, isId⟩ := written_of_reporter moved reports
    have member : entry.report ∈ typed.map (reportOf other) := by
      rw [← same, single, List.drop_append_of_le_length start]
      simp
    obtain ⟨step, -, isEntry⟩ := List.mem_map.mp member
    have isOther : other = entry.id := congrArg Prod.fst isEntry
    exact differs (isOther.trans isId)
  · rintro id report step steps cancelled rfl found fails hasWritten
    have stopped : id ∈ stops state.macros (.report id report) := by
      simp [stops, written, found, fails]
    have wasWritten : ∃ typed ∈ state.log ++
        written state.macros (.report id report),
          typed.id = id ∧ typed.err = none := by
      obtain ⟨typed, member, isTyped⟩ := hasWritten
      exact ⟨typed, List.mem_append_left _ member, isTyped⟩
    obtain ⟨last, isLast, modifier, keys⟩ := exact.released id
      (List.mem_append_right _ stopped) wasWritten
    simp only [written, found, List.filter_append] at isLast
    simp at isLast
    obtain rfl := isLast
    simp only at modifier keys
    simp [isClearKeyStep, modifier, keys]

end Invariant

/-- Of the runs of macros and cancellations, those in which every macro types
exactly its steps and releases its keys when it is stopped are those in which
every report is in turn. -/
theorem exact_iff_inTurn (labels : List Label) :
    AllStates step Exact {} labels ↔ AllSteps step InTurn {} labels :=
  @allStates_iff_allSteps State Label step Invariant Exact InTurn
    Invariant.exact Invariant.step Invariant.inTurn {} invariant_initial labels

/-- The second report of a macro fails. -/
def failedStep : List Label :=
  [.execute [⟨0, [4, 0, 0, 0, 0, 0], 10⟩, ⟨0, [5, 0, 0, 0, 0, 0], 10⟩],
    .install 0, .report 0 {}, .sleepCompleted 0,
    .report 0 { write := .failed "input/output error" }]

theorem failedStep_not_exact : ¬ ∀ labels, AllStates step Exact {} labels := by
  intro everywhere
  have atEnd := (everywhere failedStep).last rfl
  obtain ⟨last, isLast, -, keys⟩ := atEnd.released 0 (by decide)
    ⟨_, List.mem_cons_self, rfl, rfl⟩
  cases isLast
  cases keys

end Reports

end KeyboardMacro

end JetKvm
