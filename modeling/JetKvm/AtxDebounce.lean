import JetKvm.LabelledRuns
import Mathlib.Algebra.Group.Nat.Defs

/-!
# The debounce of the ATX state

Translation of `publishATXState` in `mqtt_publish.go` and of its timer.  A timer
that is stopped after it has fired still runs its callback once it gets
`atxDebounceMu`, and publishes the state that it captured.
-/

namespace JetKvm

namespace AtxDebounce

open LabelledRuns

@[ext] structure ATXState where
  power : Bool
  hdd : Bool
  deriving DecidableEq, Repr

/-- A state as it was passed to `publishATXState`: the how manieth it is, and
when, in nanoseconds -/
structure Frame where
  number : Nat
  time : Int
  state : ATXState
  deriving DecidableEq, Repr

/-- A timer is known by the state that its callback captured. -/
structure MQTTManager where
  connected : Bool
  debounceMs : Int
  atxDebounceTimer : Option Frame := none
  atxLastPublished : Option Frame := none
  deriving DecidableEq, Repr

/-- The manager and the timers: those that have not fired, and those whose
callback waits for `atxDebounceMu`.  The states received and published, and
those whose publishing was delayed, are listed with the latest first. -/
structure State where
  manager : MQTTManager
  now : Int := 0
  armed : List Frame := []
  waiting : List Frame := []
  received : List Frame := []
  delayed : List Frame := []
  published : List Frame := []
  deriving DecidableEq, Repr

/-- `time.Duration(m.debounceMs)*time.Millisecond`, an `int64` -/
def MQTTManager.window (m : MQTTManager) : Int :=
  (m.debounceMs * 1000000).bmod (2 ^ 64)

namespace State

def publish (s : State) (frame : Frame) : State :=
  { s with published := frame :: s.published }

def publishATXStateLocked (s : State) (frame : Frame) : State :=
  { s with manager := { s.manager with atxLastPublished := some frame } }.publish
    frame

/-- `Stop` does nothing to a timer that has fired. -/
def cancelATXDebounceTimerLocked (s : State) : State :=
  match s.manager.atxDebounceTimer with
  | none => s
  | some timer =>
      { s with
        armed := s.armed.erase timer
        manager := { s.manager with atxDebounceTimer := none } }

/-- `time.AfterFunc` -/
def afterFunc (s : State) (debounceState : Frame) : State :=
  { s with
    armed := debounceState :: s.armed
    delayed := debounceState :: s.delayed
    manager := { s.manager with atxDebounceTimer := some debounceState } }

def publishATXState (s : State) (frame : Frame) : State :=
  if s.manager.connected = false then s
  else if s.manager.debounceMs ≤ 0 then s.publish frame
  else
    match s.manager.atxLastPublished with
    | none => s.publishATXStateLocked frame
    | some lastState =>
        if frame.state.power ≠ lastState.state.power then
          s.cancelATXDebounceTimerLocked.publishATXStateLocked frame
        else if frame.state.hdd then
          if lastState.state.hdd then s.cancelATXDebounceTimerLocked
          else s.cancelATXDebounceTimerLocked.publishATXStateLocked frame
        else if ¬ lastState.state.hdd then s
        else if s.manager.atxDebounceTimer.isSome then s
        else s.afterFunc frame

/-- The callback, with the lock -/
def callback (s : State) (debounceState : Frame) : State :=
  { s with
    waiting := s.waiting.erase debounceState
    manager := { s.manager with atxDebounceTimer := none }
  }.publishATXStateLocked debounceState

/-- The next state passed to `publishATXState` -/
def next (s : State) (state : ATXState) : Frame :=
  ⟨s.received.length, s.now, state⟩

@[simp] theorem next_state (s : State) (state : ATXState) :
    (s.next state).state = state := rfl

def receive (s : State) (frame : Frame) : State :=
  { s with received := frame :: s.received }

end State

inductive Label where
  | pass (duration : Nat)
  | receive (state : ATXState)
  | fire (timer : Frame)
  | callback (timer : Frame)
  deriving DecidableEq, Repr

/-- A timer fires when its window has passed, or later. -/
def step (s : State) : Label → Option State
  | .pass duration => some { s with now := s.now + duration }
  | .receive state =>
      some ((s.receive (s.next state)).publishATXState (s.next state))
  | .fire timer =>
      if timer ∈ s.armed ∧ timer.time + s.manager.window ≤ s.now then
        some { s with
          armed := s.armed.erase timer
          waiting := timer :: s.waiting }
      else none
  | .callback timer =>
      if timer ∈ s.waiting then some (s.callback timer) else none

/-- A manager that is connected and has published nothing -/
def initial (debounceMs : Int) : State :=
  { manager := { connected := true, debounceMs := debounceMs } }

/-! ### What the debounce should do -/

structure Debounced (s : State) : Prop where
  suppressed : ∀ off ∈ s.delayed, ∀ on ∈ s.received, off.number < on.number →
    on.state.hdd = true → on.time < off.time + s.manager.window →
      off ∉ s.published
  settled : s.armed = [] → s.waiting = [] →
    s.published.head?.map Frame.state = s.received.head?.map Frame.state
  ordered : s.published.Pairwise fun later earlier =>
    earlier.number ≤ later.number

/-- The state is right, and so is the one that any callback that waits for the
lock leaves. -/
def Settles (s : State) : Prop :=
  Debounced s ∧ ∀ timer after, step s (.callback timer) = some after →
    Debounced after

/-- No state that cancels the timer is handled when the timer has fired and its
callback waits for the lock. -/
def InTime (s : State) : Label → Prop
  | .receive state =>
      ∀ timer ∈ s.manager.atxDebounceTimer, timer ∈ s.waiting →
        ∀ lastState ∈ s.manager.atxLastPublished,
          state.power = lastState.state.power ∧ state.hdd = false
  | _ => True

instance (s : State) : (label : Label) → Decidable (InTime s label)
  | .receive state => inferInstanceAs (Decidable
      (∀ timer ∈ s.manager.atxDebounceTimer, timer ∈ s.waiting →
        ∀ lastState ∈ s.manager.atxLastPublished,
          state.power = lastState.state.power ∧ state.hdd = false))
  | .pass _ | .fire _ | .callback _ => isTrue trivial

/-! ### The invariant -/

/-- No timer is pending, and what was received is shown. -/
structure Idle (s : State) : Prop where
  armed : s.armed = []
  waiting : s.waiting = []
  shown : s.published.head?.map Frame.state = s.received.head?.map Frame.state

/-- The only timer is that of a state that turned the LED off; nothing else was
received since, and the LED is shown as on. -/
structure Pending (s : State) (off : Frame) : Prop where
  one : s.armed = [off] ∧ s.waiting = [] ∨
    s.armed = [] ∧ s.waiting = [off] ∧ off.time + s.manager.window ≤ s.now
  isOff : off.state.hdd = false
  shown : s.published.head?.map Frame.state =
    some { off.state with hdd := true }
  last : s.received.head?.map Frame.state = some off.state
  since : ∀ frame ∈ s.received, off.number < frame.number →
    frame.state = off.state
  before : ∀ frame ∈ s.published, frame.number < off.number

/-- The LED was off for the whole window before that was published. -/
def Elapsed (s : State) (off : Frame) : Prop :=
  off.time + s.manager.window ≤ s.now ∧
    ∀ on ∈ s.received, off.number < on.number → on.state.hdd = true →
      off.time + s.manager.window ≤ on.time

/-- The frames are among those received, which are counted. -/
def Known (s : State) (frames : List Frame) : Prop :=
  ∀ frame ∈ frames, frame.number < s.received.length

structure Good (s : State) : Prop where
  connected : s.manager.connected = true
  positive : 0 < s.manager.debounceMs
  timer : match s.manager.atxDebounceTimer with
    | none => Idle s
    | some off => off.number < s.received.length ∧ Pending s off
  shown : s.manager.atxLastPublished = s.published.head?
  received : Known s s.received
  delayed : Known s s.delayed
  published : Known s s.published
  elapsed : ∀ off ∈ s.delayed, off ∈ s.published → Elapsed s off
  ordered : s.published.Pairwise fun later earlier =>
    earlier.number ≤ later.number

theorem good_initial {debounceMs : Int} (positive : 0 < debounceMs) :
    Good (initial debounceMs) where
  connected := rfl
  positive := positive
  timer := ⟨rfl, rfl, rfl⟩
  shown := rfl
  received := List.forall_mem_nil _
  delayed := List.forall_mem_nil _
  published := List.forall_mem_nil _
  elapsed := List.forall_mem_nil _
  ordered := .nil

variable {s after : State}

namespace Good

theorem idle (good : Good s) (none : s.manager.atxDebounceTimer = none) :
    Idle s := by
  have timer := good.timer
  rwa [none] at timer

theorem pending (good : Good s) {off : Frame}
    (some : s.manager.atxDebounceTimer = some off) : Pending s off := by
  have timer := good.timer
  rw [some] at timer
  exact timer.2

theorem debounced (good : Good s) : Debounced s where
  suppressed := by
    intro off delayed on received later lit early published
    have window := (good.elapsed off delayed published).2 on received later lit
    omega
  settled := by
    intro armed waiting
    cases timer : s.manager.atxDebounceTimer with
    | none => exact (good.idle timer).shown
    | some off =>
        rcases (good.pending timer).one with ⟨here, -⟩ | ⟨-, here, -⟩
        · rw [armed] at here
          cases here
        · rw [waiting] at here
          cases here
  ordered := good.ordered

end Good

/-- Without timers -/
def State.still (s : State) : State :=
  { s with
    armed := []
    waiting := []
    manager := { s.manager with atxDebounceTimer := none } }

theorem Elapsed.receive {off : Frame} (elapsed : Elapsed s off)
    (state : ATXState) : Elapsed (s.receive (s.next state)) off :=
  ⟨elapsed.1, List.forall_mem_cons.mpr ⟨fun _ _ => elapsed.1, elapsed.2⟩⟩

theorem Known.receive {frames : List Frame} (known : Known s frames)
    (state : ATXState) : Known (s.receive (s.next state)) frames :=
  fun frame present => Nat.lt_succ_of_lt (known frame present)

theorem Known.next {frames : List Frame} (known : Known s frames)
    (state : ATXState) :
    Known (s.receive (s.next state)) (s.next state :: frames) :=
  List.forall_mem_cons.mpr ⟨Nat.lt_succ_self _, known.receive state⟩

namespace Good

/-- Stopping a timer that has not fired leaves none. -/
theorem cancel_eq (good : Good s)
    (unfired : ∀ timer ∈ s.manager.atxDebounceTimer, timer ∉ s.waiting) :
    s.cancelATXDebounceTimerLocked = s.still := by
  unfold State.cancelATXDebounceTimerLocked State.still
  cases timer : s.manager.atxDebounceTimer with
  | none =>
      obtain ⟨armed, waiting, -⟩ := good.idle timer
      obtain ⟨⟨_, _, _, _⟩, _, _, _, _, _, _⟩ := s
      cases timer
      cases armed
      cases waiting
      rfl
  | some off =>
      rcases (good.pending timer).one with ⟨armed, waiting⟩ | ⟨-, waiting, -⟩
      · dsimp only
        rw [armed, waiting, List.erase_cons_head]
      · refine absurd ?_ (unfired off timer)
        rw [waiting]
        exact List.mem_singleton_self off

theorem publishes (good : Good s) (state : ATXState) :
    Good ((s.still.receive (s.next state)).publishATXStateLocked
      (s.next state)) where
  connected := good.connected
  positive := good.positive
  timer := ⟨rfl, rfl, rfl⟩
  shown := rfl
  received := good.received.next state
  delayed := good.delayed.receive state
  published := good.published.next state
  elapsed := by
    intro off delayed published
    rcases List.mem_cons.mp published with rfl | before
    · exact absurd (good.delayed _ delayed) (Nat.lt_irrefl _)
    · exact (good.elapsed off delayed before).receive state
  ordered := List.pairwise_cons.mpr
    ⟨fun frame present => Nat.le_of_lt (good.published frame present),
      good.ordered⟩

/-- A state that is shown already is not published. -/
theorem ignores (good : Good s) {state : ATXState}
    (same : s.published.head?.map Frame.state = some state) :
    Good (s.still.receive (s.next state)) where
  connected := good.connected
  positive := good.positive
  timer := ⟨rfl, rfl, same⟩
  shown := good.shown
  received := good.received.next state
  delayed := good.delayed.receive state
  published := good.published.receive state
  elapsed := fun off delayed published =>
    (good.elapsed off delayed published).receive state
  ordered := good.ordered

theorem waits (good : Good s) {off : Frame}
    (timer : s.manager.atxDebounceTimer = some off) :
    Good (s.receive (s.next off.state)) where
  connected := good.connected
  positive := good.positive
  timer := by
    have pending := good.pending timer
    have known := good.timer
    rw [timer] at known
    change match s.manager.atxDebounceTimer with | none => _ | some off => _
    rw [timer]
    exact ⟨Nat.lt_succ_of_lt known.1, pending.one, pending.isOff, pending.shown,
      rfl, List.forall_mem_cons.mpr ⟨fun _ => rfl, pending.since⟩,
      pending.before⟩
  shown := good.shown
  received := good.received.next off.state
  delayed := good.delayed.receive off.state
  published := good.published.receive off.state
  elapsed := fun off delayed published =>
    (good.elapsed off delayed published).receive _
  ordered := good.ordered

theorem delays (good : Good s) (none : s.manager.atxDebounceTimer = none)
    {state : ATXState} (isOff : state.hdd = false)
    (shown : s.published.head?.map Frame.state =
      some { state with hdd := true }) :
    Good ((s.receive (s.next state)).afterFunc (s.next state)) where
  connected := good.connected
  positive := good.positive
  timer := by
    refine ⟨Nat.lt_succ_self _, .inl ⟨?_, (good.idle none).waiting⟩, isOff,
      shown, rfl, ?_, good.published⟩
    · exact congrArg (s.next state :: ·) (good.idle none).armed
    · refine List.forall_mem_cons.mpr ⟨fun _ => rfl, fun frame present later => ?_⟩
      have earlier := good.received frame present
      exact absurd later (Nat.not_lt.mpr (Nat.le_of_lt earlier))
  shown := good.shown
  received := good.received.next state
  delayed := good.delayed.next state
  published := good.published.receive state
  elapsed := by
    intro off delayed published
    rcases List.mem_cons.mp delayed with rfl | before
    · exact absurd (good.published _ published) (Nat.lt_irrefl _)
    · exact (good.elapsed off before published).receive state
  ordered := good.ordered

/-- The manager remembers what it published last. -/
theorem shown_of_last (good : Good s) {lastState : Frame}
    (last : s.manager.atxLastPublished = some lastState) :
    s.published.head?.map Frame.state = some lastState.state := by
  rw [← good.shown, last]
  rfl

theorem timer_of_unpublished (good : Good s)
    (none : s.manager.atxLastPublished = none) :
    s.manager.atxDebounceTimer = Option.none := by
  cases timer : s.manager.atxDebounceTimer with
  | none => rfl
  | some off =>
      have shown := (good.pending timer).shown
      rw [← good.shown, none] at shown
      cases shown

/-- A pending timer is for turning off the LED that is shown as on. -/
theorem timer_of_shown_off (good : Good s) {lastState : Frame}
    (last : s.manager.atxLastPublished = some lastState)
    (isOff : lastState.state.hdd = false) : s.manager.atxDebounceTimer = none := by
  cases timer : s.manager.atxDebounceTimer with
  | none => rfl
  | some off =>
      have shown := (good.pending timer).shown
      rw [good.shown_of_last last] at shown
      rw [Option.some.inj shown] at isOff
      cases isOff

theorem still_eq (good : Good s) (none : s.manager.atxDebounceTimer = none) :
    s.still = s := by
  rw [← good.cancel_eq (by simp [none])]
  unfold State.cancelATXDebounceTimerLocked
  rw [none]

theorem cancel_receive (frame : Frame) :
    (s.receive frame).cancelATXDebounceTimerLocked =
      s.cancelATXDebounceTimerLocked.receive frame := by
  unfold State.cancelATXDebounceTimerLocked State.receive
  dsimp only
  cases s.manager.atxDebounceTimer with
  | none => rfl
  | some timer => rfl

/-- What is done with a state, as long as the debounce is on -/
theorem publishATXState_eq (good : Good s) (frame : Frame) :
    (s.receive frame).publishATXState frame =
      match s.manager.atxLastPublished with
      | none => (s.receive frame).publishATXStateLocked frame
      | some lastState =>
          if frame.state.power ≠ lastState.state.power then
            (s.cancelATXDebounceTimerLocked.receive
              frame).publishATXStateLocked frame
          else if frame.state.hdd then
            if lastState.state.hdd then
              s.cancelATXDebounceTimerLocked.receive frame
            else
              (s.cancelATXDebounceTimerLocked.receive
                frame).publishATXStateLocked frame
          else if ¬ lastState.state.hdd then s.receive frame
          else if s.manager.atxDebounceTimer.isSome then s.receive frame
          else (s.receive frame).afterFunc frame := by
  have connected : (s.receive frame).manager.connected = true :=
    good.connected
  have positive : 0 < (s.receive frame).manager.debounceMs := good.positive
  unfold State.publishATXState
  rw [connected, if_neg (by decide), if_neg (Int.not_le.mpr positive),
    cancel_receive]
  rfl

theorem receive (good : Good s) {state : ATXState}
    (inTime : InTime s (.receive state)) :
    Good ((s.receive (s.next state)).publishATXState (s.next state)) := by
  rw [good.publishATXState_eq]
  cases last : s.manager.atxLastPublished with
  | none =>
      have first := good.publishes state
      rwa [good.still_eq (good.timer_of_unpublished last)] at first
  | some lastState =>
      have shown := good.shown_of_last last
      have cancelled (cancels : ¬ (state.power = lastState.state.power ∧
          state.hdd = false)) :
          s.cancelATXDebounceTimerLocked = s.still := by
        refine good.cancel_eq fun timer armed fired => ?_
        exact cancels (inTime timer armed fired lastState last)
      dsimp only
      split
      · rename_i powerChanged
        rw [cancelled fun same => powerChanged same.1]
        exact good.publishes state
      rename_i samePower
      have samePower : state.power = lastState.state.power := not_not.mp samePower
      split
      · rename_i lit
        have lit : state.hdd = true := lit
        rw [cancelled fun same => by simp [lit] at same]
        split
        · rename_i lastLit
          exact good.ignores (shown.trans (congrArg some
            (ATXState.ext samePower.symm (lastLit.trans lit.symm))))
        · exact good.publishes state
      rename_i isOff
      have isOff : state.hdd = false := Bool.not_eq_true _ ▸ isOff
      split
      · rename_i lastOff
        have lastOff : lastState.state.hdd = false :=
          Bool.not_eq_true _ ▸ lastOff
        have ignored := good.ignores (shown.trans (congrArg some
          (ATXState.ext samePower.symm (lastOff.trans isOff.symm))))
        rwa [good.still_eq (good.timer_of_shown_off last lastOff)] at ignored
      rename_i lastLit
      have lastLit : lastState.state.hdd = true := not_not.mp lastLit
      have lit : lastState.state = { state with hdd := true } := by
        rw [samePower, ← lastLit]
      rw [lit] at shown
      cases timer : s.manager.atxDebounceTimer with
      | none => exact good.delays timer isOff shown
      | some off =>
          have pending := good.pending timer
          have alike := Option.some.inj (pending.shown.symm.trans shown)
          have power : off.state.power = state.power :=
            (ATXState.mk.inj alike).1
          have same : off.state = state :=
            ATXState.ext power (pending.isOff.trans isOff.symm)
          have waited := good.waits timer
          rwa [same] at waited

theorem pass (good : Good s) (duration : Nat) :
    Good { s with now := s.now + duration } where
  connected := good.connected
  positive := good.positive
  timer := by
    have timer := good.timer
    change match s.manager.atxDebounceTimer with | none => _ | some off => _
    cases here : s.manager.atxDebounceTimer with
    | none =>
        rw [here] at timer
        exact ⟨timer.armed, timer.waiting, timer.shown⟩
    | some off =>
        rw [here] at timer
        obtain ⟨known, one, isOff, shown, last, since, before⟩ := timer
        refine ⟨known, one.imp id fun fired => ?_, isOff, shown, last, since, before⟩
        exact ⟨fired.1, fired.2.1, Int.le_trans fired.2.2 (by dsimp only; omega)⟩
  shown := good.shown
  received := good.received
  delayed := good.delayed
  published := good.published
  elapsed := fun off delayed published =>
    have elapsed := good.elapsed off delayed published
    ⟨Int.le_trans elapsed.1 (by dsimp only; omega), elapsed.2⟩
  ordered := good.ordered

/-- A timer that is armed or whose callback waits is the one pending. -/
theorem timer_eq (good : Good s) {timer : Frame}
    (present : timer ∈ s.armed ++ s.waiting) :
    s.manager.atxDebounceTimer = some timer := by
  cases here : s.manager.atxDebounceTimer with
  | none =>
      have idle := good.idle here
      rw [idle.armed, idle.waiting] at present
      cases present
  | some off =>
      rcases (good.pending here).one with ⟨armed, waiting⟩ | ⟨armed, waiting, -⟩
      · rw [armed, waiting] at present
        rw [List.mem_singleton.mp present]
      · rw [armed, waiting] at present
        rw [List.mem_singleton.mp present]

/-- A callback that waits is the only one, and its window has passed. -/
theorem fired (good : Good s) {off : Frame} (waits : off ∈ s.waiting) :
    s.armed = [] ∧ s.waiting = [off] ∧ off.time + s.manager.window ≤ s.now := by
  have timer := good.timer_eq (List.mem_append_right s.armed waits)
  rcases (good.pending timer).one with ⟨-, none⟩ | fired
  · rw [none] at waits
    cases waits
  · exact fired

theorem fire (good : Good s) {off : Frame} (armed : off ∈ s.armed)
    (due : off.time + s.manager.window ≤ s.now) :
    Good { s with armed := s.armed.erase off, waiting := off :: s.waiting } where
  connected := good.connected
  positive := good.positive
  timer := by
    have timer := good.timer_eq (List.mem_append_left s.waiting armed)
    have known := good.timer
    have pending := good.pending timer
    rw [timer] at known
    change match s.manager.atxDebounceTimer with | none => _ | some off => _
    rw [timer]
    refine ⟨known.1, .inr ?_, pending.isOff, pending.shown, pending.last,
      pending.since, pending.before⟩
    rcases pending.one with ⟨here, none⟩ | ⟨none, -⟩
    · refine ⟨?_, congrArg (off :: ·) none, due⟩
      rw [here]
      exact List.erase_cons_head off []
    · rw [none] at armed
      cases armed
  shown := good.shown
  received := good.received
  delayed := good.delayed
  published := good.published
  elapsed := good.elapsed
  ordered := good.ordered

theorem callback (good : Good s) {off : Frame} (waits : off ∈ s.waiting) :
    Good (s.callback off) := by
  have timer := good.timer_eq (List.mem_append_right s.armed waits)
  have known := good.timer
  have pending := good.pending timer
  rw [timer] at known
  obtain ⟨noneArmed, alone, passed⟩ := good.fired waits
  have elapsed : Elapsed s off := by
    refine ⟨passed, fun on received later lit => ?_⟩
    rw [pending.since on received later, pending.isOff] at lit
    cases lit
  exact
    { connected := good.connected
      positive := good.positive
      timer := by
        refine ⟨noneArmed, ?_, pending.last.symm⟩
        change s.waiting.erase off = []
        rw [alone]
        exact List.erase_cons_head off []
      shown := rfl
      received := good.received
      delayed := good.delayed
      published := List.forall_mem_cons.mpr ⟨known.1, good.published⟩
      elapsed := by
        intro other delayed published
        rcases List.mem_cons.mp published with rfl | before
        · exact elapsed
        · exact good.elapsed other delayed before
      ordered := List.pairwise_cons.mpr
        ⟨fun frame present => Nat.le_of_lt (pending.before frame present),
          good.ordered⟩ }

theorem step (good : Good s) {label : Label} (inTime : InTime s label)
    (taken : step s label = some after) : Good after := by
  cases label with
  | pass duration =>
      cases taken
      exact good.pass duration
  | receive state =>
      cases taken
      exact good.receive inTime
  | fire timer =>
      simp only [AtxDebounce.step] at taken
      split at taken
      · rename_i enabled
        cases taken
        exact good.fire enabled.1 enabled.2
      · cases taken
  | callback timer =>
      simp only [AtxDebounce.step] at taken
      split at taken
      · rename_i waits
        cases taken
        exact good.callback waits
      · cases taken

theorem settles (good : Good s) : Settles s :=
  ⟨good.debounced, fun timer _ taken =>
    (good.step (show InTime s (.callback timer) from trivial) taken).debounced⟩

/-- A state that cancels the timer after it fired: the callback then publishes
what was received before, or what is not so any more. -/
theorem not_settles_receive (good : Good s) {state : ATXState}
    (late : ¬ InTime s (.receive state)) :
    ¬ Settles ((s.receive (s.next state)).publishATXState (s.next state)) := by
  unfold InTime at late
  push Not at late
  obtain ⟨off, timer, waits, lastState, last, cancels⟩ := late
  have timer : s.manager.atxDebounceTimer = some off := timer
  have last : s.manager.atxLastPublished = some lastState := last
  obtain ⟨noneArmed, alone, -⟩ := good.fired waits
  have pending := good.pending timer
  have known := good.timer
  rw [timer] at known
  have shown := pending.shown
  rw [good.shown_of_last last] at shown
  have lastLit : lastState.state.hdd = true := by rw [Option.some.inj shown]
  have cancelled : s.cancelATXDebounceTimerLocked =
      { s with manager := { s.manager with atxDebounceTimer := none } } := by
    unfold State.cancelATXDebounceTimerLocked
    rw [timer]
    dsimp only
    rw [noneArmed]
    rfl
  have runs {after : State} (waits : off ∈ after.waiting) :
      AtxDebounce.step after (.callback off) = some (after.callback off) :=
    if_pos waits
  rintro ⟨-, callbacks⟩
  rw [good.publishATXState_eq, last, cancelled] at callbacks
  simp only [State.next_state] at callbacks
  by_cases samePower : state.power = lastState.state.power
  · have lit : state.hdd = true := Bool.not_eq_false _ ▸ cancels samePower
    rw [if_neg (not_not.mpr samePower), if_pos lit, if_pos lastLit] at callbacks
    have settled := (callbacks off _ (runs waits)).settled noneArmed (by
      change s.waiting.erase off = []
      rw [alone]
      exact List.erase_cons_head off [])
    have same : off.state = state := Option.some.inj settled
    rw [← same, pending.isOff] at lit
    cases lit
  · rw [if_pos samePower] at callbacks
    have ordered := (callbacks off _ (runs waits)).ordered
    have earlier := (List.pairwise_cons.mp ordered).1 (s.next state)
      (List.mem_cons_self ..)
    exact absurd earlier (Nat.not_le.mpr known.1)

end Good

/-- In a run, the debounce holds in every state and after every callback that
waits if and only if no state cancels a timer that has fired. -/
theorem allStates_settles_iff_inTime (debounceMs : Int)
    (positive : 0 < debounceMs) (labels : List Label) :
    AllStates step Settles (initial debounceMs) labels ↔
      AllSteps step InTime (initial debounceMs) labels := by
  refine allStates_iff_allSteps Good.settles (fun good => good.step) ?_
    (good_initial positive) labels
  intro s after label good taken settles
  by_contra late
  cases label with
  | receive state =>
      cases taken
      exact good.not_settles_receive late settles
  | _ => exact late trivial

/-- The LED goes off and stays off, which is published after half a second. -/
theorem allStates_settles_iff_inTime_off :
    AllStates step Settles (initial 500)
      [.receive ⟨true, true⟩, .receive ⟨true, false⟩, .pass 500000000,
        .fire ⟨1, 0, true, false⟩, .callback ⟨1, 0, true, false⟩] :=
  (allStates_settles_iff_inTime 500 (by decide) _).mpr (by decide)

/-- The LED goes on again when the callback waits for the lock: then it is
published as off, and stays so. -/
theorem not_debounced_late :
    ¬ ∀ (debounceMs : Int), 0 < debounceMs → ∀ labels : List Label,
      AllStates step Debounced (initial debounceMs) labels := by
  intro claimed
  have everywhere := claimed 500 (by decide)
    [.receive ⟨true, true⟩, .receive ⟨true, false⟩, .pass 500000000,
      .fire ⟨1, 0, true, false⟩, .receive ⟨true, true⟩,
      .callback ⟨1, 0, true, false⟩]
  have last := everywhere.last rfl
  exact absurd (last.settled rfl rfl) (by decide)

end AtxDebounce

end JetKvm
