import Mathlib.Logic.Basic

/-!
# Calls that may fail

A call acts on a state and returns a value or fails; a call that fails keeps
what it has done to the state.  `Ends` says what a call leaves on either way
out.  Its rules are equivalences, so that what a call guarantees can be
computed from what its parts do.
-/

namespace JetKvm

/-- A call on a state -/
abbrev Fallible (Failure State Value : Type) := EStateM Failure State Value

namespace Fallible

variable {Failure State Value Other : Type}
variable {state : State}
variable {returned : Value → State → Prop} {failed : Failure → State → Prop}

/-- The state after the call, whichever way it ends. -/
def after (call : Fallible Failure State Value) (state : State) : State :=
  match call state with
  | .ok _ next => next
  | .error _ next => next

/-- The call returns what `returned` allows or fails as `failed` allows. -/
def Ends (call : Fallible Failure State Value) (state : State)
    (returned : Value → State → Prop) (failed : Failure → State → Prop) : Prop :=
  match call state with
  | .ok value next => returned value next
  | .error failure next => failed failure next

/-- An answer from outside, which may be a failure. -/
def answer (outcome : Except Failure Value) : Fallible Failure State Value :=
  match outcome with
  | .ok value => pure value
  | .error failure => throw failure

/-- Report a failure of the call in other words. -/
def wrapping (context : Failure → Failure)
    (call : Fallible Failure State Value) : Fallible Failure State Value :=
  fun state =>
  match call state with
  | .ok value next => .ok value next
  | .error failure next => .error (context failure) next

/-- Call, and look at the failure instead of failing. -/
def attempt (call : Fallible Failure State Value) :
    Fallible Failure State (Except Failure Value) := fun state =>
  match call state with
  | .ok value next => .ok (.ok value) next
  | .error failure next => .ok (.error failure) next

/-- A call on a part of a state -/
def within {Part : Type} (part : State → Part) (put : Part → State → State)
    (call : Fallible Failure Part Value) : Fallible Failure State Value :=
  fun state =>
  match call (part state) with
  | .ok value next => .ok value (put next state)
  | .error failure next => .error failure (put next state)

/-- A call that is only made if it is asked for -/
def onlyIf (asked : Bool) (call : Fallible Failure State Unit) :
    Fallible Failure State Unit :=
  if asked then call else pure ()

@[simp] theorem ends_pure {value : Value} :
    Ends (pure value : Fallible Failure State Value) state returned failed ↔
      returned value state := Iff.rfl

@[simp] theorem ends_throw {failure : Failure} :
    Ends (throw failure : Fallible Failure State Value) state returned failed ↔
      failed failure state := Iff.rfl

@[simp] theorem ends_get {returned : State → State → Prop} :
    Ends (get : Fallible Failure State State) state returned failed ↔
      returned state state := Iff.rfl

@[simp] theorem ends_modify {change : State → State}
    {returned : Unit → State → Prop} :
    Ends (modify change : Fallible Failure State Unit) state returned failed ↔
      returned () (change state) := Iff.rfl

@[simp] theorem ends_bind {call : Fallible Failure State Value}
    {next : Value → Fallible Failure State Other}
    {returned : Other → State → Prop} :
    Ends (call >>= next) state returned failed ↔
      Ends call state (fun value between => Ends (next value) between returned
        failed) failed := by
  simp only [Ends, bind, EStateM.bind]
  cases call state with
  | ok => exact Iff.rfl
  | error => exact Iff.rfl

@[simp] theorem answer_ok {value : Value} :
    (answer (.ok value) : Fallible Failure State Value) = pure value := rfl

@[simp] theorem answer_error {failure : Failure} :
    (answer (.error failure) : Fallible Failure State Value) =
      throw failure := rfl

@[simp] theorem ends_wrapping {context : Failure → Failure}
    {call : Fallible Failure State Value} :
    Ends (wrapping context call) state returned failed ↔
      Ends call state returned fun failure => failed (context failure) := by
  simp only [Ends, wrapping]
  cases call state with
  | ok => exact Iff.rfl
  | error => exact Iff.rfl

@[simp] theorem ends_attempt {call : Fallible Failure State Value}
    {returned : Except Failure Value → State → Prop} :
    Ends (attempt call) state returned failed ↔
      Ends call state (fun value => returned (.ok value))
        fun failure => returned (.error failure) := by
  simp only [Ends, attempt]
  cases call state with
  | ok => exact Iff.rfl
  | error => exact Iff.rfl

theorem ends_onlyIf {asked : Bool} {call : Fallible Failure State Unit}
    {returned : Unit → State → Prop} :
    Ends (onlyIf asked call) state returned failed ↔
      (asked = true → Ends call state returned failed) ∧
        (asked = false → returned () state) := by
  cases asked with
  | true => simp [onlyIf]
  | false => simp [onlyIf]

theorem ends_within {Part : Type} {part : State → Part}
    {put : Part → State → State} {call : Fallible Failure Part Value} :
    Ends (within part put call) state returned failed ↔
      Ends call (part state) (fun value next => returned value (put next state))
        fun failure next => failed failure (put next state) := by
  simp only [Ends, within]
  cases call (part state) with
  | ok => exact Iff.rfl
  | error => exact Iff.rfl

theorem ends_of_ok {call : Fallible Failure State Value} {value : Value}
    {next : State} (returns : call state = .ok value next) :
    Ends call state returned failed ↔ returned value next := by
  rw [Ends, returns]

theorem ends_of_error {call : Fallible Failure State Value} {failure : Failure}
    {next : State} (fails : call state = .error failure next) :
    Ends call state returned failed ↔ failed failure next := by
  rw [Ends, fails]

theorem ends_ite {condition : Prop} [Decidable condition]
    {call other : Fallible Failure State Value} :
    Ends (if condition then call else other) state returned failed ↔
      (condition → Ends call state returned failed) ∧
        (¬ condition → Ends other state returned failed) := by
  split <;> simp [*]

/-- What holds on both ways out holds of the state after the call. -/
theorem Ends.after {call : Fallible Failure State Value} {holds : State → Prop}
    (ends : Ends call state (fun _ => holds) fun _ => holds) :
    holds (call.after state) := by
  simp only [Ends] at ends
  rw [Fallible.after]
  cases result : call state with
  | ok value next => simpa [result] using ends
  | error failure next => simpa [result] using ends

theorem Ends.imp {call : Fallible Failure State Value}
    {weaker : Value → State → Prop} {weakerFailed : Failure → State → Prop}
    (ends : Ends call state returned failed)
    (returns : ∀ value next, returned value next → weaker value next)
    (fails : ∀ failure next, failed failure next → weakerFailed failure next) :
    Ends call state weaker weakerFailed := by
  simp only [Ends] at ends ⊢
  cases result : call state with
  | ok value next => exact returns value next (by simpa [result] using ends)
  | error failure next => exact fails failure next (by simpa [result] using ends)

/-! ## Calls that fail without a trace -/

/-- If the call fails, it leaves the state as it was. -/
def Atomic (call : Fallible Failure State Value) (state : State) : Prop :=
  Ends call state (fun _ _ => True) fun _ next => next = state

theorem atomic_of_ok {call : Fallible Failure State Value} {value : Value}
    {next : State} (returns : call state = .ok value next) : Atomic call state :=
  (ends_of_ok returns).mpr trivial

theorem atomic_iff_of_error {call : Fallible Failure State Value}
    {failure : Failure} {next : State}
    (fails : call state = .error failure next) :
    Atomic call state ↔ next = state :=
  ends_of_error fails

theorem after_of_ok {call : Fallible Failure State Value} {value : Value}
    {next : State} (returns : call state = .ok value next) :
    call.after state = next := by
  rw [Fallible.after, returns]

theorem after_of_error {call : Fallible Failure State Value} {failure : Failure}
    {next : State} (fails : call state = .error failure next) :
    call.after state = next := by
  rw [Fallible.after, fails]

/-! ## What a call keeps -/

/-- What holds before the call holds after it, whichever way it ends. -/
def Keeps (holds : State → Prop) (call : Fallible Failure State Value) : Prop :=
  ∀ state, holds state → Ends call state (fun _ => holds) fun _ => holds

section Keeps

variable {holds : State → Prop} {call : Fallible Failure State Value}

theorem keeps_pure (value : Value) :
    Keeps holds (pure value : Fallible Failure State Value) :=
  fun _ held => held

theorem keeps_throw (failure : Failure) :
    Keeps holds (throw failure : Fallible Failure State Value) :=
  fun _ held => held

theorem keeps_answer (outcome : Except Failure Value) :
    Keeps holds (answer outcome : Fallible Failure State Value) := by
  cases outcome with
  | ok value => exact keeps_pure value
  | error failure => exact keeps_throw failure

theorem keeps_modify {change : State → State}
    (kept : ∀ state, holds state → holds (change state)) :
    Keeps holds (modify change : Fallible Failure State Unit) := kept

theorem Keeps.bind {next : Value → Fallible Failure State Other}
    (first : Keeps holds call) (second : ∀ value, Keeps holds (next value)) :
    Keeps holds (call >>= next) := fun state held =>
  ends_bind.mpr ((first state held).imp (fun value => second value)
    fun _ _ => id)

theorem keeps_get_bind {next : State → Fallible Failure State Other}
    (second : ∀ state, Keeps holds (next state)) :
    Keeps holds (get >>= next) := fun state held =>
  ends_bind.mpr (ends_get.mpr (second state state held))

theorem Keeps.wrapping (kept : Keeps holds call) (context : Failure → Failure) :
    Keeps holds (wrapping context call) := fun state held =>
  ends_wrapping.mpr (kept state held)

theorem Keeps.attempt (kept : Keeps holds call) : Keeps holds (attempt call) :=
  fun state held => ends_attempt.mpr (kept state held)

theorem Keeps.ite {condition : Prop} [Decidable condition]
    {other : Fallible Failure State Value} (first : Keeps holds call)
    (second : Keeps holds other) :
    Keeps holds (if condition then call else other) := by
  split
  · exact first
  · exact second

/-- A call on a part that `holds` does not look at -/
theorem keeps_within {Part : Type} {part : State → Part}
    {put : Part → State → State} (inner : Fallible Failure Part Value)
    (kept : ∀ next state, holds state → holds (put next state)) :
    Keeps holds (within part put inner) := by
  intro state held
  rw [ends_within, Ends]
  split
  · exact kept _ state held
  · exact kept _ state held

end Keeps

end Fallible

end JetKvm
