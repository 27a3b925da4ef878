import JetKvm.LabelledRuns

/-!
# Noninterference by unwinding

One part of a labelled system is watched: `concerns` picks the labels that are
its own, `view` is what it sees of a state, and `output` what one step hands
to it.  If the other labels change neither its view nor its output, and its own
labels lead from equal views to equal views and equal outputs, then the outputs
of a whole run depend on its own labels only.
-/

namespace JetKvm

namespace LabelledRuns

variable {State Label View Output : Type*}

/-- What the steps of a run hand to the watched part, in order. -/
def outputs (step : State → Label → Option State)
    (output : State → State → List Output) : State → List Label → List Output
  | _, [] => []
  | state, label :: labels =>
      match step state label with
      | none => []
      | some next => output state next ++ outputs step output next labels

/-- The unwinding conditions, for the steps that meet `condition` between
states that satisfy `invariant`. -/
structure Unwinding (step : State → Label → Option State)
    (invariant : State → Prop) (condition : State → Label → Prop)
    (concerns : Label → Bool) (view : State → View)
    (output : State → State → List Output) : Prop where
  keeps : ∀ {state next label}, invariant state → condition state label →
    step state label = some next → invariant next
  unconcerned : ∀ {state next label}, invariant state →
    condition state label → step state label = some next →
      concerns label = false → view next = view state ∧ output state next = []
  concerned : ∀ {state next state' next' label}, invariant state →
    invariant state' → condition state label → condition state' label →
      step state label = some next → step state' label = some next' →
        concerns label = true → view state = view state' →
          view next = view next' ∧ output state next = output state' next'

namespace Unwinding

variable {step : State → Label → Option State}
variable {invariant : State → Prop} {condition : State → Label → Prop}
variable {concerns : Label → Bool} {view : State → View}
variable {output : State → State → List Output}
variable {state state' last last' : State} {label : Label}
variable {labels labels' rest : List Label}

theorem outputs_cons_of_step {next : State}
    (taken : step state label = some next) :
    outputs step output state (label :: labels) =
      output state next ++ outputs step output next labels := by
  simp [outputs, taken]

/-- A run with none of its own labels hands nothing to the watched part. -/
theorem outputs_of_filter_eq_nil
    (unwinding : Unwinding step invariant condition concerns view output)
    (holds : invariant state) (meets : AllSteps step condition state labels)
    (reaches : exec step state labels = some last)
    (none : labels.filter concerns = []) :
    outputs step output state labels = [] := by
  induction labels generalizing state with
  | nil => rfl
  | cons label labels ih =>
      obtain ⟨next, taken, later⟩ := exists_first_step reaches
      obtain ⟨here, after⟩ := meets next taken
      have foreign : concerns label = false := by
        simpa using List.filter_eq_nil_iff.mp none label List.mem_cons_self
      rw [List.filter_cons_of_neg (by simp [foreign])] at none
      have silent := (unwinding.unconcerned holds here taken foreign).2
      rw [outputs_cons_of_step taken, silent, List.nil_append]
      exact ih (unwinding.keeps holds here taken) after later none

/-- A run with an own label reaches a state with the view of the first, takes
the own step there, and hands over nothing before it. -/
theorem exists_own_step
    (unwinding : Unwinding step invariant condition concerns view output)
    (holds : invariant state) (meets : AllSteps step condition state labels)
    (reaches : exec step state labels = some last)
    (own : labels.filter concerns = label :: rest) :
    ∃ before next remaining, invariant before ∧ view before = view state ∧
      concerns label = true ∧ condition before label ∧
      step before label = some next ∧
      AllSteps step condition next remaining ∧
      exec step next remaining = some last ∧
      remaining.filter concerns = rest ∧
      outputs step output state labels =
        output before next ++ outputs step output next remaining := by
  induction labels generalizing state with
  | nil => cases own
  | cons first labels ih =>
      obtain ⟨next, taken, later⟩ := exists_first_step reaches
      obtain ⟨here, after⟩ := meets next taken
      cases ownLabel : concerns first with
      | true =>
          rw [List.filter_cons_of_pos ownLabel] at own
          obtain ⟨rfl, rfl⟩ := List.cons.inj own
          exact ⟨state, next, labels, holds, rfl, ownLabel, here, taken, after,
            later, rfl, outputs_cons_of_step taken⟩
      | false =>
          rw [List.filter_cons_of_neg (by simp [ownLabel])] at own
          obtain ⟨same, silent⟩ := unwinding.unconcerned holds here taken ownLabel
          obtain ⟨before, reached, remaining, found, sees, found'⟩ :=
            ih (unwinding.keeps holds here taken) after later own
          refine ⟨before, reached, remaining, found, sees.trans same, ?_⟩
          rwa [outputs_cons_of_step taken, silent, List.nil_append]

/-- Two runs with the same own labels, from states with the same view, hand the
watched part the same outputs. -/
theorem outputs_eq
    (unwinding : Unwinding step invariant condition concerns view output)
    (holds : invariant state) (holds' : invariant state')
    (sameView : view state = view state')
    (meets : AllSteps step condition state labels)
    (meets' : AllSteps step condition state' labels')
    (reaches : exec step state labels = some last)
    (reaches' : exec step state' labels' = some last')
    (sameOwn : labels.filter concerns = labels'.filter concerns) :
    outputs step output state labels = outputs step output state' labels' := by
  -- induction on the own labels the two runs share
  generalize own : labels.filter concerns = shared at sameOwn
  induction shared generalizing state state' labels labels' with
  | nil =>
      rw [unwinding.outputs_of_filter_eq_nil holds meets reaches own,
        unwinding.outputs_of_filter_eq_nil holds' meets' reaches' sameOwn.symm]
  | cons label rest ih =>
      obtain ⟨before, next, remaining, holdsBefore, sees, ownLabel, here, taken,
        after, later, left, split⟩ :=
        unwinding.exists_own_step holds meets reaches own
      obtain ⟨before', next', remaining', holdsBefore', sees', -, here', taken',
        after', later', left', split'⟩ :=
        unwinding.exists_own_step holds' meets' reaches' sameOwn.symm
      obtain ⟨sameNext, sameOutput⟩ := unwinding.concerned holdsBefore
        holdsBefore' here here' taken taken' ownLabel
        (sees.trans (sameView.trans sees'.symm))
      have sameLater := ih (unwinding.keeps holdsBefore here taken)
        (unwinding.keeps holdsBefore' here' taken') sameNext after after' later
        later' left left'.symm
      rw [split, split', sameOutput, sameLater]

end Unwinding

end LabelledRuns

end JetKvm
