import Mathlib.Logic.Basic
import Mathlib.Tactic.ByContra

/-!
# Runs of labelled step functions

A system is given by a partial step function: `step state label` is the next
state, or `none` when the label is not enabled.  Every nondeterministic choice
(which party moves, what the outside world answers) is part of the label, so
a run is a list of labels and can be evaluated.

Two predicates range over a whole run: `AllStates` speaks about every state
the run visits, `AllSteps` about every enabled step together with the state it
is taken from.  The rules below turn step lemmas into statements about them.
-/

namespace JetKvm

namespace LabelledRuns

variable {State Label : Type*}

/-- Take the labelled steps in order, stopping with `none` at the first label
that is not enabled. -/
def exec (step : State → Label → Option State) :
    State → List Label → Option State
  | state, [] => some state
  | state, label :: labels =>
      match step state label with
      | none => none
      | some next => exec step next labels

/-- Every state visited by the run satisfies the property. -/
def AllStates (step : State → Label → Option State) (property : State → Prop) :
    State → List Label → Prop
  | state, [] => property state
  | state, label :: labels =>
      property state ∧
        ∀ next, step state label = some next →
          AllStates step property next labels

/-- Every enabled step of the run meets the condition at the state it is taken
from. -/
def AllSteps (step : State → Label → Option State)
    (condition : State → Label → Prop) : State → List Label → Prop
  | _, [] => True
  | state, label :: labels =>
      ∀ next, step state label = some next →
        condition state label ∧ AllSteps step condition next labels

variable {step : State → Label → Option State}
variable {invariant property : State → Prop}
variable {condition : State → Label → Prop}

theorem exec_cons_of_step {state next : State} {label : Label}
    (labels : List Label) (taken : step state label = some next) :
    exec step state (label :: labels) = exec step next labels := by
  simp [exec, taken]

/-- A completed run takes its first step. -/
theorem exists_first_step {state last : State} {label : Label}
    {labels : List Label}
    (reaches : exec step state (label :: labels) = some last) :
    ∃ next, step state label = some next ∧ exec step next labels = some last := by
  cases taken : step state label with
  | none => simp [exec, taken] at reaches
  | some next =>
      rw [exec_cons_of_step labels taken] at reaches
      exact ⟨next, rfl, reaches⟩

theorem exec_append (first : State) (labels more : List Label) :
    exec step first (labels ++ more) =
      (exec step first labels).bind fun last => exec step last more := by
  induction labels generalizing first with
  | nil => rfl
  | cons label labels ih =>
      simp only [List.cons_append, exec]
      cases step first label with
      | none => rfl
      | some next => exact ih next

/-- A step leads to one state. -/
theorem forall_next_iff {holds : State → Prop} {state next : State}
    {label : Label} (taken : step state label = some next) :
    (∀ other, step state label = some other → holds other) ↔ holds next := by
  constructor
  · intro every
    exact every next taken
  · intro here other otherTaken
    obtain rfl := Option.some.inj (taken.symm.trans otherTaken)
    exact here

theorem allStates_cons_iff_of_step {state next : State} {label : Label}
    {labels : List Label} (taken : step state label = some next) :
    AllStates step property state (label :: labels) ↔
      property state ∧ AllStates step property next labels :=
  and_congr_right fun _ => forall_next_iff taken

theorem allSteps_cons_iff_of_step {state next : State} {label : Label}
    {labels : List Label} (taken : step state label = some next) :
    AllSteps step condition state (label :: labels) ↔
      condition state label ∧ AllSteps step condition next labels :=
  forall_next_iff taken

theorem allSteps_cons_of_step {state next : State} {label : Label}
    {labels : List Label} (taken : step state label = some next)
    (here : condition state label) (later : AllSteps step condition next labels) :
    AllSteps step condition state (label :: labels) :=
  (allSteps_cons_iff_of_step taken).mpr ⟨here, later⟩

instance decidableAllStates [∀ state, Decidable (property state)] :
    ∀ (first : State) (labels : List Label),
      Decidable (AllStates step property first labels)
  | first, [] => inferInstanceAs (Decidable (property first))
  | first, label :: labels =>
      match taken : step first label with
      | none => decidable_of_iff (property first)
          ⟨fun holds => ⟨holds, fun next other => by simp [taken] at other⟩,
            fun both => both.1⟩
      | some next =>
          have later := decidableAllStates next labels
          decidable_of_iff _ (allStates_cons_iff_of_step taken).symm

instance decidableAllSteps [∀ state label, Decidable (condition state label)] :
    ∀ (first : State) (labels : List Label),
      Decidable (AllSteps step condition first labels)
  | _, [] => isTrue trivial
  | first, label :: labels =>
      match taken : step first label with
      | none => isTrue fun next other => by simp [taken] at other
      | some next =>
          have later := decidableAllSteps next labels
          decidable_of_iff _ (allSteps_cons_iff_of_step taken).symm

theorem AllStates.first {first : State} {labels : List Label}
    (everywhere : AllStates step property first labels) : property first := by
  cases labels with
  | nil => exact everywhere
  | cons => exact everywhere.1

/-- A run that satisfies the property everywhere satisfies it at its end. -/
theorem AllStates.last {first last : State} {labels : List Label}
    (everywhere : AllStates step property first labels)
    (reaches : exec step first labels = some last) : property last := by
  induction labels generalizing first with
  | nil =>
      cases reaches
      exact everywhere
  | cons label labels ih =>
      obtain ⟨next, taken, reaches⟩ := exists_first_step reaches
      exact ih (everywhere.2 next taken) reaches

/-- A property that no step regains once it is lost holds throughout a run
exactly when it holds at its end. -/
theorem allStates_iff_last
    (stays : ∀ {state next label}, ¬ property state →
      step state label = some next → ¬ property next)
    {first last : State} {labels : List Label}
    (reaches : exec step first labels = some last) :
    AllStates step property first labels ↔ property last := by
  refine ⟨fun everywhere => everywhere.last reaches, fun atEnd => ?_⟩
  induction labels generalizing first with
  | nil =>
      cases reaches
      exact atEnd
  | cons label labels ih =>
      obtain ⟨next, taken, reaches⟩ := exists_first_step reaches
      have later := ih reaches
      rw [allStates_cons_iff_of_step taken]
      refine ⟨?_, later⟩
      by_contra lost
      exact stays lost taken later.first

/-- The invariant rule: an invariant kept by every step that meets the
condition holds in every state of a run whose steps all meet it. -/
theorem allStates_of_allSteps
    (keeps : ∀ {state next label}, invariant state → condition state label →
      step state label = some next → invariant next)
    {first : State} {labels : List Label} (initial : invariant first)
    (meets : AllSteps step condition first labels) :
    AllStates step invariant first labels := by
  induction labels generalizing first with
  | nil => exact initial
  | cons label labels ih =>
      refine ⟨initial, fun next taken => ?_⟩
      obtain ⟨here, later⟩ := meets next taken
      exact ih (keeps initial here taken) later

theorem AllStates.mono {weaker : State → Prop}
    (implies : ∀ state, property state → weaker state)
    {first : State} {labels : List Label}
    (everywhere : AllStates step property first labels) :
    AllStates step weaker first labels := by
  induction labels generalizing first with
  | nil => exact implies first everywhere
  | cons label labels ih =>
      exact ⟨implies first everywhere.1,
        fun next taken => ih (everywhere.2 next taken)⟩

/-- An invariant of every step holds in every state of every run. -/
theorem allStates_of_invariant
    (keeps : ∀ {state next label}, invariant state →
      step state label = some next → invariant next)
    {first : State} (initial : invariant first) (labels : List Label) :
    AllStates step invariant first labels := by
  induction labels generalizing first with
  | nil => exact initial
  | cons label labels ih =>
      exact ⟨initial, fun next taken => ih (keeps initial taken)⟩

/-- The exactness rule: when a step that meets the condition keeps an
invariant implying the property, and a step that fails it breaks the property
at once, the runs that satisfy the property everywhere are exactly the runs
whose steps all meet the condition. -/
theorem allStates_iff_allSteps
    (safe : ∀ {state}, invariant state → property state)
    (keeps : ∀ {state next label}, invariant state → condition state label →
      step state label = some next → invariant next)
    (breaks : ∀ {state next label}, invariant state →
      step state label = some next → property next → condition state label)
    {first : State} (initial : invariant first) (labels : List Label) :
    AllStates step property first labels ↔
      AllSteps step condition first labels := by
  constructor
  · intro everywhere
    induction labels generalizing first with
    | nil => trivial
    | cons label labels ih =>
        intro next taken
        have later := everywhere.2 next taken
        have here := breaks initial taken later.first
        exact ⟨here, ih (keeps initial here taken) later⟩
  · intro meets
    exact (allStates_of_allSteps keeps initial meets).mono fun _ => safe

/-- The exactness rule within an assumption about the steps: only in the runs
whose steps all meet it need the condition be exact. -/
theorem allStates_iff_allSteps_within {assumed : State → Label → Prop}
    (safe : ∀ {state}, invariant state → property state)
    (keeps : ∀ {state next label}, invariant state → assumed state label →
      condition state label → step state label = some next → invariant next)
    (breaks : ∀ {state next label}, invariant state → assumed state label →
      step state label = some next → property next → condition state label)
    {first : State} {labels : List Label} (initial : invariant first)
    (within : AllSteps step assumed first labels) :
    AllStates step property first labels ↔
      AllSteps step condition first labels := by
  induction labels generalizing first with
  | nil => exact iff_of_true (safe initial) trivial
  | cons label labels ih =>
      cases taken : step first label with
      | none => simp [AllSteps, AllStates, taken, safe initial]
      | some next =>
          obtain ⟨here, later⟩ := within next taken
          rw [allStates_cons_iff_of_step taken, allSteps_cons_iff_of_step taken]
          constructor
          · rintro ⟨-, everywhere⟩
            have meets := breaks initial here taken everywhere.first
            have kept := keeps initial here meets taken
            exact ⟨meets, (ih kept later).mp everywhere⟩
          · rintro ⟨meets, rest⟩
            have kept := keeps initial here meets taken
            exact ⟨safe initial, (ih kept later).mpr rest⟩

/-- The exactness rule beside an invariant that every step keeps: there the
property has to be kept by exactly the steps that meet the condition. -/
theorem allStates_iff_allSteps_of_invariant
    (keeps : ∀ {state next label}, invariant state →
      step state label = some next → invariant next)
    (decides : ∀ {state next label}, invariant state → property state →
      step state label = some next → (property next ↔ condition state label))
    {first : State} (initial : invariant first) (holds : property first)
    (labels : List Label) :
    AllStates step property first labels ↔
      AllSteps step condition first labels := by
  refine @allStates_iff_allSteps State Label step
    (fun state => invariant state ∧ property state) property condition
    (fun both => both.2) ?_ ?_ first ⟨initial, holds⟩ labels
  · intro state next label both meets taken
    exact ⟨keeps both.1 taken, (decides both.1 both.2 taken).mpr meets⟩
  · intro state next label both taken kept
    exact (decides both.1 both.2 taken).mp kept

/-- The exactness rule for a property of the end of a run: beside an invariant,
a step leaves the property standing exactly when it meets the condition. -/
theorem last_iff_allSteps
    (keeps : ∀ {state next label}, invariant state →
      step state label = some next → invariant next)
    (decides : ∀ {state next label}, invariant state →
      step state label = some next →
        (property next ↔ property state ∧ condition state label))
    {first last : State} {labels : List Label} (initial : invariant first)
    (reaches : exec step first labels = some last) :
    property last ↔ property first ∧ AllSteps step condition first labels := by
  induction labels generalizing first with
  | nil =>
      cases reaches
      simp [AllSteps]
  | cons label labels ih =>
      obtain ⟨next, taken, reaches⟩ := exists_first_step reaches
      rw [ih (keeps initial taken) reaches, decides initial taken,
        allSteps_cons_iff_of_step taken, and_assoc]

/-- The exactness rule for damage that shows only where something ends: a step
that fails the condition dooms the run, which then cannot end well. -/
theorem allStates_iff_allSteps_of_ends {doomed ends : State → Prop}
    (safe : ∀ {state}, invariant state → property state)
    (keeps : ∀ {state next label}, invariant state → condition state label →
      step state label = some next → invariant next)
    (breaks : ∀ {state next label}, invariant state → ¬ condition state label →
      step state label = some next → doomed next)
    (stays : ∀ {state next label}, doomed state → property state →
      step state label = some next → doomed next)
    (ruins : ∀ {state}, doomed state → property state → ¬ ends state)
    {first last : State} {labels : List Label} (initial : invariant first)
    (reaches : exec step first labels = some last) (ended : ends last) :
    AllStates step property first labels ↔
      AllSteps step condition first labels := by
  have spoiled : ∀ {labels : List Label} {first : State}, doomed first →
      exec step first labels = some last →
      ¬ AllStates step property first labels := by
    intro labels
    induction labels with
    | nil =>
        intro first bad reaches everywhere
        cases reaches
        exact ruins bad everywhere ended
    | cons label labels ih =>
        intro first bad reaches everywhere
        obtain ⟨next, taken, reaches⟩ := exists_first_step reaches
        exact ih (stays bad everywhere.1 taken) reaches
          (everywhere.2 next taken)
  constructor
  · intro everywhere
    induction labels generalizing first with
    | nil => trivial
    | cons label labels ih =>
        intro next taken
        rw [exec_cons_of_step labels taken] at reaches
        have later := everywhere.2 next taken
        have here : condition first label := by
          by_contra failed
          exact spoiled (breaks initial failed taken) reaches later
        exact ⟨here, ih (keeps initial here taken) reaches later⟩
  · intro meets
    exact (allStates_of_allSteps keeps initial meets).mono fun _ => safe

/-- What steps that meet the condition do in an invariant state, they do all
along a run whose steps all meet it. -/
theorem allSteps_of_allSteps {other : State → Label → Prop}
    (keeps : ∀ {state next label}, invariant state → condition state label →
      step state label = some next → invariant next)
    (gives : ∀ {state next label}, invariant state → condition state label →
      step state label = some next → other state label)
    {first : State} {labels : List Label} (initial : invariant first)
    (meets : AllSteps step condition first labels) :
    AllSteps step other first labels := by
  induction labels generalizing first with
  | nil => trivial
  | cons label labels ih =>
      intro next taken
      obtain ⟨here, later⟩ := meets next taken
      exact ⟨gives initial here taken, ih (keeps initial here taken) later⟩

/-- What every step from an invariant state does, it does all along a run. -/
theorem allSteps_of_invariant
    (keeps : ∀ {state next label}, invariant state →
      step state label = some next → invariant next)
    (gives : ∀ {state next label}, invariant state →
      step state label = some next → condition state label)
    {first : State} (initial : invariant first) (labels : List Label) :
    AllSteps step condition first labels := by
  induction labels generalizing first with
  | nil => trivial
  | cons label labels ih =>
      intro next taken
      exact ⟨gives initial taken, ih (keeps initial taken)⟩

/-- The potential rule: when every counted label is paid for by the potential of
the state, to which an excused label adds a fixed amount, a run has no more
counted labels than the potential at its start and those amounts. -/
theorem countP_le_of_potential {potential : State → Nat}
    {counted excused : Label → Bool} {extra : Nat}
    (pays : ∀ {state next label}, step state label = some next →
      potential next + (if counted label then 1 else 0) ≤
        potential state + (if excused label then extra else 0))
    {first last : State} {labels : List Label}
    (reaches : exec step first labels = some last) :
    labels.countP counted + potential last ≤
      potential first + extra * labels.countP excused := by
  induction labels generalizing first with
  | nil =>
      cases reaches
      simp
  | cons label labels ih =>
      obtain ⟨next, taken, reaches⟩ := exists_first_step reaches
      have here := pays taken
      have later := ih reaches
      rw [List.countP_cons, List.countP_cons, Nat.mul_add]
      by_cases excuse : excused label
      · rw [if_pos excuse] at here ⊢
        omega
      · rw [if_neg excuse] at here ⊢
        omega

/-- Two conditions that agree on every step taken from an invariant state
select the same runs, if the steps that meet the first keep the invariant. -/
theorem allSteps_congr {other : State → Label → Prop}
    (keeps : ∀ {state next label}, invariant state → condition state label →
      step state label = some next → invariant next)
    (agrees : ∀ {state next label}, invariant state →
      step state label = some next →
        (condition state label ↔ other state label))
    {first : State} (initial : invariant first) (labels : List Label) :
    AllSteps step condition first labels ↔
      AllSteps step other first labels := by
  induction labels generalizing first with
  | nil => exact Iff.rfl
  | cons label labels ih =>
      refine forall₂_congr fun next taken => ?_
      rw [← agrees initial taken]
      exact and_congr_right fun here => ih (keeps initial here taken)

/-- When the steps that meet the condition keep an invariant implying the
property, and they alone behave as the other condition says, the runs that do
so everywhere are those whose steps all meet the condition. -/
theorem allSteps_and_allStates_iff {other : State → Label → Prop}
    (safe : ∀ {state}, invariant state → property state)
    (keeps : ∀ {state next label}, invariant state → condition state label →
      step state label = some next → invariant next)
    (agrees : ∀ {state next label}, invariant state →
      step state label = some next →
        (condition state label ↔ other state label))
    {first : State} (initial : invariant first) (labels : List Label) :
    (AllSteps step other first labels ∧ AllStates step property first labels) ↔
      AllSteps step condition first labels := by
  have sameSteps : AllSteps step condition first labels ↔
      AllSteps step other first labels :=
    allSteps_congr keeps agrees initial labels
  constructor
  · rintro ⟨others, -⟩
    exact sameSteps.mpr others
  · intro meets
    have everywhere : AllStates step invariant first labels :=
      allStates_of_allSteps keeps initial meets
    exact ⟨sameSteps.mp meets, everywhere.mono fun _ => safe⟩

/-- The exactness rule for a property of states and one of steps: from a state
with the first, a step has both exactly when it meets the condition. -/
theorem allSteps_and_allStates_iff_of_decides {other : State → Label → Prop}
    (decides : ∀ {state next label}, property state →
      step state label = some next →
        (other state label ∧ property next ↔ condition state label))
    {first : State} (initial : property first) (labels : List Label) :
    (AllSteps step other first labels ∧ AllStates step property first labels) ↔
      AllSteps step condition first labels := by
  induction labels generalizing first with
  | nil => exact iff_of_true ⟨trivial, initial⟩ trivial
  | cons label labels ih =>
      cases taken : step first label with
      | none => simp [AllSteps, AllStates, taken, initial]
      | some next =>
          rw [allSteps_cons_iff_of_step taken, allSteps_cons_iff_of_step taken,
            allStates_cons_iff_of_step taken, ← decides initial taken]
          constructor
          · rintro ⟨⟨here, others⟩, -, everywhere⟩
            exact ⟨⟨here, everywhere.first⟩,
              (ih everywhere.first).mp ⟨others, everywhere⟩⟩
          · rintro ⟨⟨here, holds⟩, later⟩
            obtain ⟨others, everywhere⟩ := (ih holds).mpr later
            exact ⟨⟨here, others⟩, initial, everywhere⟩

end LabelledRuns

end JetKvm
