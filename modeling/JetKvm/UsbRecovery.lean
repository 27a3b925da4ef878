import JetKvm.LabelledRuns
import Mathlib.Algebra.GroupWithZero.Nat
import Mathlib.Tactic.SplitIfs

/-!
# USB recovery

Translation of `checkUSBState` and `attemptUSBRecovery` in `usb.go` and of
`rpcSetUsbEmulationState`, which say when the UDC is bound again.  A step is a
section guarded by `usbStateLock`, a rebind, bind or unbind, a reading of the
clock or of the state, or time that passes; times are in nanoseconds.
-/

namespace JetKvm

namespace UsbRecovery

open LabelledRuns

/-- `attached` are the other states of the kernel, such as `configured`. -/
inductive UsbState where
  | notAttached
  | unknown
  | attached (name : String)
  deriving DecidableEq, Repr

def UsbState.isAttached : UsbState → Bool
  | .attached _ => true
  | _ => false

def second : Nat := 1000000000

def usbRecoveryRetryInterval : Nat := 5 * second

/-- The zero time is `none`. -/
def shouldAttemptUSBRecovery (usbState : UsbState) (desired : Bool)
    (lastAttempt : Option Nat) (now : Nat) : Bool :=
  if usbState ≠ .notAttached ∨ desired = false then false
  else
    match lastAttempt with
    | none => true
    | some lastAttempt => usbRecoveryRetryInterval ≤ now - lastAttempt

/-- What the loop does next.  `reopen` sleeps until `wake` and tries to open the
keyboard; the delays of the tries left follow. -/
inductive Stage where
  | sleep (wake : Nat)
  | readState
  | readClock
  | decide (now : Nat)
  | rebind
  | reopen (reconfigured : Bool) (wake : Nat) (delays : List Nat)
  | updateGadgetConfig
  | readStateAgain
  | record (newState : UsbState)
  | correctiveRebind
  | recordCorrected (wake : Nat)
  deriving DecidableEq, Repr

/-- What the kernel answers: the state that is read, whether the call succeeds,
whether the UDC was bound in it, and whether a reconfiguration got as far as its
rebind. -/
structure Answer where
  usbState : UsbState := .notAttached
  ok : Bool := true
  bound : Bool := true
  rebound : Bool := true
  deriving DecidableEq, Repr

/-- The loop has decided on a rebind that may still come. -/
def Stage.Rebinding : Stage → Prop
  | .rebind | .reopen false _ _ | .updateGadgetConfig | .correctiveRebind => True
  | _ => False

/-- `calls` are the calls that are still to bind or to unbind the UDC.
`disabled` and `lastRebind` are what a user sees: whether a disabling call has
returned since the last enabling one, and when the UDC was last rebound
automatically, unless the gadget was seen attached since; `decidedAt` is the
clock reading on which a rebind was last decided. -/
structure State where
  now : Nat
  usbState : UsbState := .unknown
  usbEmulationDesired : Bool := true
  lastUSBRecoveryTry : Option Nat
  loop : Stage := .readState
  calls : List Bool := []
  disabled : Bool := false
  lastRebind : Option Nat := none
  decidedAt : Nat := 0
  deriving DecidableEq, Repr

def retryDelays : List Nat :=
  [1 * second, 1 * second, 2 * second, 2 * second, 3 * second, 3 * second,
    4 * second, 4 * second]

namespace State

def goto (state : State) (stage : Stage) : State :=
  { state with loop := stage }

/-- The end of `checkUSBState` -/
def rest (state : State) : State :=
  state.goto (.sleep (state.now + second / 2))

/-- `tryReopenKeyboard`, from its next delay -/
def tryReopenKeyboard (state : State) (reconfigured : Bool) :
    List Nat → State
  | delay :: delays =>
      state.goto (.reopen reconfigured (state.now + delay) delays)
  | [] =>
      if reconfigured then state.goto .readStateAgain
      else state.goto .updateGadgetConfig

def see (state : State) (usbState : UsbState) : State :=
  if usbState.isAttached then { state with lastRebind := none } else state

def rebindNow (state : State) : State :=
  { state with lastRebind := some state.now }

/-- The last section of `checkUSBState`, up to a corrective rebind -/
def record (state : State) (newState : UsbState) (openOk : Bool) : State :=
  let detached := decide (newState = .notAttached)
  let cleared := { state with
    lastUSBRecoveryTry :=
      if detached then state.lastUSBRecoveryTry else none }
  if newState = state.usbState then cleared.rest
  else if detached = false ∧ openOk = false then
    { state with
      usbState := newState
      lastUSBRecoveryTry := some state.now
      decidedAt := state.now
      loop := .correctiveRebind }
  else { cleared with usbState := newState }.rest

/-- One step of the loop; one that sleeps waits until it wakes. -/
def proceed (state : State) (answer : Answer) : Option State :=
  match state.loop with
  | .sleep wake => if wake ≤ state.now then some (state.goto .readState) else none
  | .readState =>
      some ((state.see answer.usbState).goto
        (if answer.usbState = .notAttached then .readClock
          else .record answer.usbState))
  | .readClock => some (state.goto (.decide state.now))
  | .decide now =>
      if shouldAttemptUSBRecovery .notAttached state.usbEmulationDesired
          state.lastUSBRecoveryTry now then
        some { state with
          lastUSBRecoveryTry := some now, decidedAt := now, loop := .rebind }
      else some (state.goto (.record .notAttached))
  | .rebind =>
      if answer.ok then
        some (state.rebindNow.tryReopenKeyboard false retryDelays)
      else some (state.rebindNow.goto (.record .notAttached))
  | .reopen reconfigured wake delays =>
      if state.now < wake then none
      else if answer.ok then some (state.goto .readStateAgain)
      else some (state.tryReopenKeyboard reconfigured delays)
  | .updateGadgetConfig =>
      let state := if answer.rebound then state.rebindNow else state
      if answer.ok then some (state.tryReopenKeyboard true retryDelays)
      else some (state.goto .readStateAgain)
  | .readStateAgain =>
      some ((state.see answer.usbState).goto (.record answer.usbState))
  | .record newState => some (state.record newState answer.ok)
  | .correctiveRebind =>
      some (state.rebindNow.goto (.recordCorrected
        (if answer.ok then state.now + second else state.now)))
  | .recordCorrected wake =>
      if state.now < wake then none
      else
        some ({ state.see answer.usbState with
          usbState := answer.usbState
          lastUSBRecoveryTry := some state.now }.rest)

end State

/-- A call is its section under the lock, and returns when it has bound or
unbound the UDC. -/
inductive Label where
  | call (enabled : Bool)
  | finish (enabled ok : Bool)
  | loop (answer : Answer)
  | pass (duration : Nat)
  deriving DecidableEq, Repr

def step (state : State) : Label → Option State
  | .call enabled =>
      some { state with
        usbEmulationDesired := enabled
        calls := enabled :: state.calls
        disabled := state.disabled && !enabled }
  | .finish enabled _ =>
      if enabled ∈ state.calls then
        some { state with
          calls := state.calls.erase enabled
          disabled := state.disabled || !enabled }
      else none
  | .loop answer => state.proceed answer
  | .pass duration => some { state with now := state.now + duration }

/-- `initUsbGadget` sets the timer. -/
def initial (now : Nat) : State :=
  { now := now, lastUSBRecoveryTry := some now }

/-- The UDC is bound in the step. -/
def binds (state : State) : Label → Bool
  | .finish enabled ok => enabled && ok
  | .loop answer =>
      match state.loop with
      | .rebind => answer.ok || answer.bound
      | .updateGadgetConfig => answer.rebound && answer.bound
      | .correctiveRebind => answer.ok || answer.bound
      | _ => false
  | _ => false

/-- The loop rebinds the UDC in the step, successfully or not. -/
def rebinds (state : State) : Label → Bool
  | .loop answer =>
      match state.loop with
      | .rebind => true
      | .updateGadgetConfig => answer.rebound
      | .correctiveRebind => true
      | _ => false
  | _ => false

/-- Five seconds have passed since the last automatic rebind, or the gadget was
seen attached. -/
def Rested (lastRebind : Option Nat) (now : Nat) : Prop :=
  ∀ last ∈ lastRebind, last + usbRecoveryRetryInterval ≤ now
  deriving Decidable

/-- The user's last word stands, and automatic rebinds keep their distance. -/
def Respects (state : State) (label : Label) : Prop :=
  (binds state label = true → state.disabled = false) ∧
    (rebinds state label = true → Rested state.lastRebind state.now)

/-- A disabling call returns while the flag is as it left it, no enabling call
is to bind and the loop is not about to rebind; a user who has disabled the
gadget meets no new state in which the keyboard cannot be opened; and before the
last rebind is five seconds old, the state is not read as unknown, nor the clock
when the reading that decided on that rebind is. -/
def Timely (state : State) : Label → Prop
  | .finish enabled _ => enabled = false →
      state.usbEmulationDesired = false ∧ true ∉ state.calls ∧
        ¬ state.loop.Rebinding
  | .loop answer =>
      match state.loop with
      | .readState | .readStateAgain =>
          answer.usbState = .unknown → Rested state.lastRebind state.now
      | .readClock =>
          state.decidedAt + usbRecoveryRetryInterval ≤ state.now →
            Rested state.lastRebind state.now
      | .record newState =>
          newState ≠ .notAttached → newState ≠ state.usbState →
            answer.ok = false → state.disabled = false
      | _ => True
  | _ => True

/-! ### The timer -/

theorem Rested.mono {lastRebind : Option Nat} {now later : Nat}
    (rested : Rested lastRebind now) (after : now ≤ later) :
    Rested lastRebind later := by
  intro last member
  have here := rested last member
  omega

/-- A recovery is for a user who wants the gadget, and waits for the timer. -/
theorem of_shouldAttemptUSBRecovery {usbState : UsbState} {desired : Bool}
    {lastAttempt : Option Nat} {now : Nat}
    (recover : shouldAttemptUSBRecovery usbState desired lastAttempt now = true) :
    desired = true ∧
      ∀ last ∈ lastAttempt, usbRecoveryRetryInterval ≤ now - last := by
  simp only [shouldAttemptUSBRecovery] at recover
  split_ifs at recover with declined
  have wanted := (not_or.mp declined).2
  cases lastAttempt with
  | none => exact ⟨by simpa using wanted, nofun⟩
  | some last =>
      refine ⟨by simpa using wanted, ?_⟩
      rintro _ ⟨⟩
      exact of_decide_eq_true recover

theorem rested_none (now : Nat) : Rested none now :=
  fun _ member => nomatch member

/-- The timer is not behind the decision on the last rebind. -/
def Timed (state : State) : Prop :=
  ∃ time ∈ state.lastUSBRecoveryTry, state.decidedAt ≤ time

/-- What a stage of the loop has waited for -/
def Ready (state : State) : Prop :=
  match state.loop with
  | .decide now => now ≤ state.now ∧
      (state.decidedAt + usbRecoveryRetryInterval ≤ now →
        Rested state.lastRebind now)
  | .rebind | .updateGadgetConfig | .correctiveRebind =>
      Rested state.lastRebind state.now ∧ Timed state
  | .reopen false wake delays =>
      Rested state.lastRebind (wake + delays.sum) ∧ Timed state
  | .record (.attached _) => state.lastRebind = none
  | .record .unknown => Rested state.lastRebind state.now
  | _ => True

/-- The timer counts from the decision on the last rebind, unless that is old
enough. -/
structure Counting (state : State) : Prop where
  past : state.decidedAt ≤ state.now
  timer : Rested state.lastRebind state.now ∨ Timed state
  ready : Ready state

theorem Ready.pass {state : State} (ready : Ready state) (duration : Nat) :
    Ready { state with now := state.now + duration } := by
  have later : state.now ≤ state.now + duration := Nat.le_add_right _ _
  unfold Ready at ready ⊢
  dsimp only
  split at ready
  · exact ⟨Nat.le_trans ready.1 later, ready.2⟩
  · exact ⟨ready.1.mono later, ready.2⟩
  · exact ⟨ready.1.mono later, ready.2⟩
  · exact ⟨ready.1.mono later, ready.2⟩
  · exact ready
  · exact ready
  · exact ready.mono later
  · trivial

theorem Counting.pass {state : State} (counting : Counting state)
    (duration : Nat) : Counting { state with now := state.now + duration } where
  past := Nat.le_trans counting.past (Nat.le_add_right _ _)
  timer := counting.timer.imp_left fun rested =>
    rested.mono (Nat.le_add_right _ _)
  ready := counting.ready.pass duration

/-- A stage that has waited for nothing -/
theorem Counting.goto {state : State} (counting : Counting state)
    {stage : Stage} (ready : Ready (state.goto stage)) :
    Counting (state.goto stage) :=
  ⟨counting.past, counting.timer, ready⟩

/-- After a failed try the next one is no nearer to the end of the delays. -/
theorem counting_tryReopenKeyboard {state : State} (reconfigured : Bool)
    {delays : List Nat} (past : state.decidedAt ≤ state.now)
    (timed : Timed state)
    (rested : reconfigured = false →
      Rested state.lastRebind (state.now + delays.sum)) :
    Counting (state.tryReopenKeyboard reconfigured delays) := by
  cases delays with
  | nil =>
      cases reconfigured with
      | true => exact ⟨past, .inr timed, trivial⟩
      | false => exact ⟨past, .inr timed, rested rfl, timed⟩
  | cons delay delays =>
      cases reconfigured with
      | true => exact ⟨past, .inr timed, trivial⟩
      | false =>
          have sum : state.now + delay + delays.sum =
              state.now + (delay :: delays).sum := by
            rw [List.sum_cons, Nat.add_assoc]
          have here := rested rfl
          rw [← sum] at here
          exact ⟨past, .inr timed, here, timed⟩

theorem rested_rebindNow (state : State) :
    Rested state.rebindNow.lastRebind (state.rebindNow.now + retryDelays.sum) := by
  rintro last ⟨⟩
  have delays : usbRecoveryRetryInterval ≤ retryDelays.sum := by decide
  exact Nat.add_le_add_left delays state.now

/-- A state that was read and is attached clears the last rebind. -/
theorem Counting.record_see {state : State} (counting : Counting state)
    {usbState : UsbState}
    (unknown : usbState = .unknown → Rested state.lastRebind state.now) :
    Counting ((state.see usbState).goto (.record usbState)) := by
  cases usbState with
  | notAttached => exact counting.goto trivial
  | unknown => exact counting.goto (unknown rfl)
  | attached name => exact ⟨counting.past, .inl (rested_none _), rfl⟩

/-- The timer is cleared only once the last rebind is old enough. -/
theorem Counting.record {state : State} {newState : UsbState} {openOk : Bool}
    (counting : Counting state) (stage : state.loop = .record newState) :
    Counting (state.record newState openOk) := by
  obtain ⟨past, timer, ready⟩ := counting
  have rested : newState ≠ .notAttached →
      Rested state.lastRebind state.now := by
    intro present
    rw [Ready, stage] at ready
    cases newState with
    | notAttached => exact absurd rfl present
    | unknown => exact ready
    | attached name =>
        have none : state.lastRebind = none := ready
        exact none ▸ rested_none state.now
  have cleared : Rested state.lastRebind state.now ∨
      Timed { state with
        lastUSBRecoveryTry :=
          if decide (newState = .notAttached) then state.lastUSBRecoveryTry
          else none } := by
    by_cases detached : newState = .notAttached
    · rw [decide_eq_true detached, if_pos rfl]
      exact timer
    · exact .inl (rested detached)
  simp only [State.record]
  by_cases same : newState = state.usbState
  · rw [if_pos same]
    exact ⟨past, cleared, trivial⟩
  rw [if_neg same]
  by_cases broken : decide (newState = .notAttached) = false ∧ openOk = false
  · rw [if_pos broken]
    have timed : Timed { state with
        usbState := newState, lastUSBRecoveryTry := some state.now
        decidedAt := state.now, loop := .correctiveRebind } :=
      ⟨state.now, rfl, Nat.le_refl _⟩
    exact ⟨Nat.le_refl _, .inr timed,
      rested (of_decide_eq_false broken.1), timed⟩
  · rw [if_neg broken]
    exact ⟨past, cleared, trivial⟩

/-- A recovery that the timer allows comes late enough. -/
theorem Counting.rested_of_shouldAttempt {state : State} {now : Nat}
    (counting : Counting state) (stage : state.loop = .decide now)
    (recover : shouldAttemptUSBRecovery .notAttached state.usbEmulationDesired
      state.lastUSBRecoveryTry now = true) :
    Rested state.lastRebind state.now := by
  have ready := counting.ready
  rw [Ready, stage] at ready
  rcases counting.timer with rested | ⟨time, isTime, after⟩
  · exact rested
  · have allowed := (of_shouldAttemptUSBRecovery recover).2 time isTime
    have positive : 0 < usbRecoveryRetryInterval := by decide
    exact (ready.2 (by omega)).mono ready.1

/-- The loop, stage by stage -/
theorem Counting.proceed {state next : State} {answer : Answer}
    (counting : Counting state) (timely : Timely state (.loop answer))
    (taken : state.proceed answer = some next) : Counting next := by
  have ready := counting.ready
  have past := counting.past
  cases stage : state.loop with
  | sleep wake =>
      simp only [State.proceed, stage] at taken
      split_ifs at taken
      cases taken
      exact counting.goto trivial
  | readState =>
      simp only [State.proceed, stage] at taken
      simp only [Timely, stage] at timely
      cases taken
      by_cases detached : answer.usbState = .notAttached
      · rw [if_pos detached, detached]
        exact counting.goto trivial
      · rw [if_neg detached]
        exact counting.record_see timely
  | readClock =>
      simp only [State.proceed, stage] at taken
      simp only [Timely, stage] at timely
      cases taken
      exact counting.goto ⟨Nat.le_refl state.now, timely⟩
  | decide now =>
      simp only [State.proceed, stage] at taken
      split_ifs at taken with recover
      · have rested := counting.rested_of_shouldAttempt stage recover
        rw [Ready, stage] at ready
        cases taken
        have timed : Timed { state with
            lastUSBRecoveryTry := some now, decidedAt := now
            loop := .rebind } := ⟨now, rfl, Nat.le_refl _⟩
        exact ⟨ready.1, .inr timed, rested, timed⟩
      · cases taken
        exact counting.goto trivial
  | rebind =>
      simp only [State.proceed, stage] at taken
      rw [Ready, stage] at ready
      split_ifs at taken
      · cases taken
        exact counting_tryReopenKeyboard false past ready.2
          fun _ => rested_rebindNow state
      · cases taken
        exact ⟨past, .inr ready.2, trivial⟩
  | reopen reconfigured wake delays =>
      simp only [State.proceed, stage] at taken
      rw [Ready, stage] at ready
      split_ifs at taken with asleep
      · cases taken
        exact counting.goto trivial
      · cases taken
        cases reconfigured with
        | false =>
            exact counting_tryReopenKeyboard false past ready.2
              fun _ => ready.1.mono (by omega)
        | true =>
            cases delays with
            | nil => exact counting.goto trivial
            | cons delay delays => exact counting.goto trivial
  | updateGadgetConfig =>
      simp only [State.proceed, stage] at taken
      rw [Ready, stage] at ready
      split_ifs at taken
      · cases taken
        exact counting_tryReopenKeyboard true past ready.2 nofun
      · cases taken
        exact counting_tryReopenKeyboard true past ready.2 nofun
      · cases taken
        exact ⟨past, .inr ready.2, trivial⟩
      · cases taken
        exact ⟨past, .inr ready.2, trivial⟩
  | readStateAgain =>
      simp only [State.proceed, stage] at taken
      simp only [Timely, stage] at timely
      cases taken
      exact counting.record_see timely
  | record newState =>
      simp only [State.proceed, stage] at taken
      cases taken
      exact counting.record stage
  | correctiveRebind =>
      simp only [State.proceed, stage] at taken
      rw [Ready, stage] at ready
      cases taken
      exact ⟨past, .inr ready.2, trivial⟩
  | recordCorrected wake =>
      simp only [State.proceed, stage] at taken
      split_ifs at taken
      cases taken
      have timed : ∃ time ∈ some state.now, state.decidedAt ≤ time :=
        ⟨state.now, rfl, past⟩
      cases answer.usbState with
      | notAttached => exact ⟨past, .inr timed, trivial⟩
      | unknown => exact ⟨past, .inr timed, trivial⟩
      | attached name => exact ⟨past, .inr timed, trivial⟩

/-! ### The user -/

/-- The loop leaves to the calls what they alone change, and decides on a rebind
only for a user who has not disabled the gadget. -/
structure SameUser (state next : State) : Prop where
  disabled : next.disabled = state.disabled
  desired : next.usbEmulationDesired = state.usbEmulationDesired
  calls : next.calls = state.calls
  rebinding : next.loop.Rebinding → state.loop.Rebinding ∨
    state.usbEmulationDesired = true ∨ state.disabled = false

theorem sameUser_goto {state : State} {stage : Stage}
    (quiet : ¬ stage.Rebinding) : SameUser state (state.goto stage) :=
  ⟨rfl, rfl, rfl, fun rebinding => absurd rebinding quiet⟩

theorem sameUser_tryReopenKeyboard {state : State} {reconfigured : Bool}
    (rebinding : reconfigured = false → state.loop.Rebinding)
    (delays : List Nat) :
    SameUser state (state.tryReopenKeyboard reconfigured delays) := by
  cases reconfigured with
  | false =>
      cases delays with
      | nil => exact ⟨rfl, rfl, rfl, fun _ => .inl (rebinding rfl)⟩
      | cons delay delays => exact ⟨rfl, rfl, rfl, fun _ => .inl (rebinding rfl)⟩
  | true =>
      cases delays with
      | nil => exact sameUser_goto nofun
      | cons delay delays => exact sameUser_goto nofun

theorem sameUser_see {state : State} (usbState : UsbState) {stage : Stage}
    (quiet : ¬ stage.Rebinding) :
    SameUser state ((state.see usbState).goto stage) := by
  cases usbState with
  | notAttached => exact sameUser_goto quiet
  | unknown => exact sameUser_goto quiet
  | attached name =>
      exact ⟨rfl, rfl, rfl, fun rebinding => absurd rebinding quiet⟩

theorem sameUser_record {state : State} {newState : UsbState} {openOk : Bool}
    (opens : newState ≠ .notAttached → newState ≠ state.usbState →
      openOk = false → state.disabled = false) :
    SameUser state (state.record newState openOk) := by
  simp only [State.record]
  by_cases same : newState = state.usbState
  · rw [if_pos same]
    exact ⟨rfl, rfl, rfl, nofun⟩
  rw [if_neg same]
  by_cases broken : decide (newState = .notAttached) = false ∧ openOk = false
  · rw [if_pos broken]
    have enabled := opens (of_decide_eq_false broken.1) same broken.2
    exact ⟨rfl, rfl, rfl, fun _ => .inr (.inr enabled)⟩
  · rw [if_neg broken]
    exact ⟨rfl, rfl, rfl, nofun⟩

/-- The rebind itself changes nothing of the user. -/
theorem SameUser.of_rebindNow {state next : State}
    (same : SameUser state.rebindNow next) : SameUser state next :=
  ⟨same.disabled, same.desired, same.calls, same.rebinding⟩

theorem sameUser_proceed {state next : State} {answer : Answer}
    (timely : Timely state (.loop answer))
    (taken : state.proceed answer = some next) : SameUser state next := by
  cases stage : state.loop with
  | sleep wake =>
      simp only [State.proceed, stage] at taken
      split_ifs at taken
      cases taken
      exact sameUser_goto nofun
  | readState =>
      simp only [State.proceed, stage] at taken
      cases taken
      split_ifs
      · exact sameUser_see answer.usbState nofun
      · exact sameUser_see answer.usbState nofun
  | readClock =>
      simp only [State.proceed, stage] at taken
      cases taken
      exact sameUser_goto nofun
  | decide now =>
      simp only [State.proceed, stage] at taken
      split_ifs at taken with recover
      · cases taken
        have desired := (of_shouldAttemptUSBRecovery recover).1
        exact ⟨rfl, rfl, rfl, fun _ => .inr (.inl desired)⟩
      · cases taken
        exact sameUser_goto nofun
  | rebind =>
      simp only [State.proceed, stage] at taken
      have rebinding : state.loop.Rebinding := stage ▸ trivial
      split_ifs at taken
      · cases taken
        exact (@sameUser_tryReopenKeyboard state.rebindNow false
          (fun _ => rebinding) retryDelays).of_rebindNow
      · cases taken
        exact ⟨rfl, rfl, rfl, nofun⟩
  | reopen reconfigured wake delays =>
      simp only [State.proceed, stage] at taken
      split_ifs at taken
      · cases taken
        exact sameUser_goto nofun
      · cases taken
        refine sameUser_tryReopenKeyboard ?_ delays
        rintro rfl
        exact stage ▸ trivial
  | updateGadgetConfig =>
      simp only [State.proceed, stage] at taken
      split_ifs at taken
      · cases taken
        exact (@sameUser_tryReopenKeyboard state.rebindNow true nofun
          retryDelays).of_rebindNow
      · cases taken
        exact @sameUser_tryReopenKeyboard state true nofun retryDelays
      · cases taken
        exact ⟨rfl, rfl, rfl, nofun⟩
      · cases taken
        exact sameUser_goto nofun
  | readStateAgain =>
      simp only [State.proceed, stage] at taken
      cases taken
      exact sameUser_see answer.usbState nofun
  | record newState =>
      simp only [State.proceed, stage] at taken
      simp only [Timely, stage] at timely
      cases taken
      exact sameUser_record timely
  | correctiveRebind =>
      simp only [State.proceed, stage] at taken
      cases taken
      exact ⟨rfl, rfl, rfl, nofun⟩
  | recordCorrected wake =>
      simp only [State.proceed, stage] at taken
      split_ifs at taken
      cases taken
      cases answer.usbState with
      | notAttached | unknown | attached => exact ⟨rfl, rfl, rfl, nofun⟩

/-- Nobody is left who would bind for a user who has disabled the gadget. -/
structure Invariant (state : State) : Prop where
  user : state.disabled = true → state.usbEmulationDesired = false ∧
    true ∉ state.calls ∧ ¬ state.loop.Rebinding
  counting : Counting state

theorem Invariant.initial (now : Nat) : Invariant (initial now) :=
  ⟨nofun, Nat.zero_le now, .inl (rested_none now), trivial⟩

theorem Invariant.step {state next : State} {label : Label}
    (invariant : Invariant state) (timely : Timely state label)
    (taken : UsbRecovery.step state label = some next) : Invariant next := by
  obtain ⟨user, counting⟩ := invariant
  cases label with
  | call enabled =>
      cases taken
      refine ⟨fun disabled => ?_, counting.past, counting.timer, counting.ready⟩
      rw [Bool.and_eq_true, Bool.not_eq_true'] at disabled
      obtain ⟨was, rfl⟩ := disabled
      obtain ⟨-, noCalls, quiet⟩ := user was
      exact ⟨rfl, by simpa using noCalls, quiet⟩
  | finish enabled ok =>
      rw [UsbRecovery.step] at taken
      split_ifs at taken
      cases taken
      refine ⟨fun disabled => ?_, counting.past, counting.timer, counting.ready⟩
      rw [Bool.or_eq_true, Bool.not_eq_true'] at disabled
      obtain ⟨desired, noCalls, quiet⟩ := disabled.elim user timely
      exact ⟨desired, fun binds => noCalls (List.mem_of_mem_erase binds), quiet⟩
  | loop answer =>
      have same := sameUser_proceed timely taken
      refine ⟨fun disabled => ?_, counting.proceed timely taken⟩
      rw [same.disabled] at disabled
      obtain ⟨desired, noCalls, quiet⟩ := user disabled
      rw [same.desired, same.calls]
      refine ⟨desired, noCalls, fun rebinding => ?_⟩
      rcases same.rebinding rebinding with before | isDesired | enabled
      · exact quiet before
      · exact Bool.false_ne_true (desired.symm.trans isDesired)
      · exact Bool.false_ne_true (enabled.symm.trans disabled)
  | pass duration =>
      cases taken
      exact ⟨user, counting.pass duration⟩

theorem Invariant.respects {state next : State} {label : Label}
    (invariant : Invariant state)
    (taken : UsbRecovery.step state label = some next) :
    Respects state label := by
  obtain ⟨user, counting⟩ := invariant
  have ready := counting.ready
  constructor
  · intro binding
    refine Bool.eq_false_iff.mpr fun disabled => ?_
    obtain ⟨-, noCalls, quiet⟩ := user disabled
    cases label with
    | finish enabled ok =>
        rw [UsbRecovery.step] at taken
        split_ifs at taken with pending
        obtain ⟨rfl, -⟩ := (Bool.and_eq_true _ _).mp binding
        exact noCalls pending
    | loop answer =>
        cases stage : state.loop with
        | rebind => exact quiet (stage ▸ trivial)
        | updateGadgetConfig => exact quiet (stage ▸ trivial)
        | correctiveRebind => exact quiet (stage ▸ trivial)
        | _ =>
            rw [binds, stage] at binding
            cases binding
    | call enabled => cases binding
    | pass duration => cases binding
  · intro rebinding
    cases label with
    | loop answer =>
        rw [Ready] at ready
        cases stage : state.loop with
        | rebind =>
            rw [stage] at ready
            exact ready.1
        | updateGadgetConfig =>
            rw [stage] at ready
            exact ready.1
        | correctiveRebind =>
            rw [stage] at ready
            exact ready.1
        | _ =>
            rw [rebinds, stage] at rebinding
            cases rebinding
    | call enabled => cases rebinding
    | finish enabled ok => cases rebinding
    | pass duration => cases rebinding

/-! ### Runs -/

theorem respects_of_timely (start : Nat) (labels : List Label)
    (timely : AllSteps step Timely (initial start) labels) :
    AllSteps step Respects (initial start) labels := by
  apply allSteps_of_allSteps _ _ (Invariant.initial start) timely
  · intro state next label invariant here taken
    exact invariant.step here taken
  · intro state next label invariant here taken
    exact invariant.respects taken

/-- A gadget that is found detached is rebound, in vain; then the user disables
it. -/
def recovery : List Label :=
  [.pass (5 * second), .loop {}, .loop {}, .loop {}, .loop { ok := false },
    .loop {}, .call false, .finish false true]

theorem recovery_respects :
    AllSteps step Respects (initial 0) recovery := by
  apply respects_of_timely
  apply allSteps_cons_of_step rfl trivial
  apply allSteps_cons_of_step rfl nofun
  apply allSteps_cons_of_step rfl fun _ => rested_none _
  apply allSteps_cons_of_step rfl trivial
  apply allSteps_cons_of_step rfl trivial
  apply allSteps_cons_of_step rfl fun present => absurd rfl present
  apply allSteps_cons_of_step rfl trivial
  apply allSteps_cons_of_step rfl fun _ => ⟨rfl, nofun, nofun⟩
  trivial

/-- The user disables the emulation between the decision and the rebind. -/
def lateRebind : List Label :=
  [.pass (5 * second), .loop {}, .loop {}, .loop {}, .call false,
    .finish false true, .loop {}]

/-- A state that cannot be read clears the timer: the second rebind comes one and
a half seconds after the first. -/
def rebindAgain : List Label :=
  [.pass (5 * second), .loop {}, .loop {}, .loop {}, .loop {},
    .pass second, .loop {}, .loop { usbState := .unknown }, .loop {},
    .pass (second / 2), .loop {}, .loop {}, .loop {}, .loop {}, .loop {}]

/-- Neither part of what is asked for holds of every run. -/
theorem not_respects :
    (¬ ∀ (start : Nat) (labels : List Label),
      AllSteps step (fun state label => binds state label = true →
        state.disabled = false) (initial start) labels) ∧
    (¬ ∀ (start : Nat) (labels : List Label),
      AllSteps step (fun state label => rebinds state label = true →
        Rested state.lastRebind state.now) (initial start) labels) := by
  constructor
  · intro all
    exact absurd (all 0 lateRebind) (by decide)
  · intro all
    exact absurd (all 0 rebindAgain) (by decide)

end UsbRecovery

end JetKvm
