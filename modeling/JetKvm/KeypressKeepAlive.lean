import JetKvm.LabelledRuns
import JetKvm.UsbKeyboardKeysDown
import Mathlib.Logic.Function.Basic

/-!
# Keepalives of held keys

A pressed key is released after 100 ms unless a keepalive delays its
auto-release timer.  Each session times its own keepalives and rejects one that
is too late; a change of the keys that are down resets the times of
`currentSession`.  A step is the handling of one message, the firing of one
timer, or the passing of time.

Times are in nanoseconds on the monotonic clock.
-/

namespace JetKvm

namespace KeepAlive

open LabelledRuns UsbGadget

def millisecond : Nat := 1000000

def expectedRate : Nat := 50 * millisecond
def maxLateness : Nat := 50 * millisecond
def baseExtension : Nat := expectedRate + maxLateness
def maxStaleness : Nat := 225 * millisecond

/-- The duration `scheduleAutoRelease` gives a timer. -/
def autoReleaseDuration : Nat := 100 * millisecond

/-- The times a session keeps; nothing stands for the zero time. -/
structure Times where
  lastKeepAliveArrivalTime : Option Nat := none
  lastTimerResetTime : Option Nat := none
  deriving DecidableEq, Repr

/-- The last reset of the auto-release timers is too long ago. -/
def Times.IsStale (times : Times) (now : Nat) : Prop :=
  ∃ reset, times.lastTimerResetTime = some reset ∧ now - reset > maxStaleness

instance (times : Times) (now : Nat) : Decidable (times.IsStale now) :=
  match h : times.lastTimerResetTime with
  | none => isFalse (by simp [Times.IsStale, h])
  | some reset => decidable_of_iff (now - reset > maxStaleness)
      (by simp [Times.IsStale, h])

/-- The times after a keepalive and the extension of the timers, if it is
accepted. -/
def handleHidRPCKeypressKeepAlive (now : Nat) (times : Times) :
    Times × Option Nat :=
  if times.IsStale now then (times, none)
  else
    match times.lastKeepAliveArrivalTime with
    | none => (⟨some now, some now⟩, some baseExtension)
    | some last =>
        let timeSinceLastTick := now - last
        if timeSinceLastTick > expectedRate then
          let lateness := timeSinceLastTick - expectedRate
          if lateness ≤ maxLateness then
            (⟨some now, some now⟩, some (baseExtension - lateness))
          else (times, none)
        else (⟨some now, some now⟩, some baseExtension)

/-- A key that a session has pressed, the time of the press or of the last of
the keepalives that have followed it on time, and whether the key has been down
ever since. -/
structure Hold where
  key : UInt8
  last : Nat
  down : Bool := true
  deriving DecidableEq, Repr

/-- `holds`, `lastAccepted` and `wasReset` record what has happened: the keys
held, the time of the last accepted keepalive, and whether the times have been
reset since. -/
structure Session where
  times : Times := {}
  holds : List Hold := []
  lastAccepted : Option Nat := none
  wasReset : Bool := false
  deriving DecidableEq, Repr

/-- The time of the last accepted keepalive, unless the times have been reset
since -/
def Session.previous (session : Session) : Option Nat :=
  if session.wasReset then none else session.lastAccepted

/-- The arrival of a message that sets timers: a press, or a keepalive of a
session that accepted its previous one at the given time. -/
inductive Arrival where
  | press (time : Nat)
  | keepAlive (time : Nat) (previous : Option Nat)
  deriving DecidableEq, Repr

/-- A key is held for 100 ms after the message, but not for longer than 150 ms
after the keepalive before it. -/
def Arrival.limit : Arrival → Nat
  | .press time => time + baseExtension
  | .keepAlive time none => time + baseExtension
  | .keepAlive time (some previous) =>
      min (time + baseExtension) (previous + expectedRate + baseExtension)

/-- `arrivals` records the last message that has set the timer of a key. -/
structure State where
  now : Nat := 0
  currentSession : Option String := none
  keysDownState : KeysDownState := {}
  kbdAutoReleaseTimers : UInt8 → Option Nat := fun _ => none
  sessions : String → Option Session := fun _ => none
  arrivals : UInt8 → Arrival := fun _ => .press 0

/-- `ready` is `usbReadyForHidReports()`. -/
inductive Label where
  | wait (duration : Nat)
  | newSession (id : String)
  | setCurrentSession (id : Option String)
  | keypressReport (id : String) (key : UInt8) (press ready : Bool)
      (write : HidWrite)
  | keypressKeepAlive (id : String)
  | performAutoRelease (key : UInt8) (write : HidWrite)
  deriving DecidableEq, Repr

def Session.resetKeepAliveTime (session : Session) : Session :=
  { session with times := {}, wasReset := true }

/-- Holds end when their keys are no longer down. -/
def Session.noteKeys (keys : List UInt8) (session : Session) : Session :=
  { session with
    holds := session.holds.map fun hold =>
      { hold with down := hold.down && decide (hold.key ∈ keys) } }

/-- The callback of `SetOnKeysDownChange` resets the times of the current
session. -/
def State.applyReport (state : State) (reported : Reported) : State :=
  { state with
    keysDownState := reported.tracked
    sessions := fun id => (state.sessions id).map fun session =>
      if reported.notified.isSome ∧ state.currentSession = some id then
        session.resetKeepAliveTime.noteKeys reported.tracked.keys
      else session.noteKeys reported.tracked.keys }

/-- The timer of the key after a keypress; modifiers have none. -/
def State.updateTimer (state : State) (key : UInt8) (press : Bool)
    (newState : KeysDownState) : State :=
  let isRolledOver := newState.keys.head? = some hidErrorRollOver
  if IsModifier key then state
  else
    { state with
      kbdAutoReleaseTimers := Function.update state.kbdAutoReleaseTimers key
        (if isRolledOver ∨ press = false then none
        else some (state.now + autoReleaseDuration)) }

def State.notePress (state : State) (key : UInt8) (press : Bool) : State :=
  if IsModifier key ∨ press = false then state
  else
    { state with
      arrivals := Function.update state.arrivals key (.press state.now) }

def State.setSession (state : State) (id : String) (session : Session) : State :=
  { state with sessions := Function.update state.sessions id (some session) }

/-- `timer.Reset` on every timer in the map. -/
def State.delayAutoReleaseWithDuration (state : State) (duration : Nat) : State :=
  { state with
    kbdAutoReleaseTimers := fun key =>
      (state.kbdAutoReleaseTimers key).map fun _ => state.now + duration }

/-- A hold on a key that is newly down begins. -/
def Session.beginHold (session : Session) (now : Nat) (key : UInt8)
    (before after : List UInt8) : Session :=
  if ¬ IsModifier key ∧ key ≠ 0 ∧ key ∉ before ∧ key ∈ after then
    { session with holds := ⟨key, now, true⟩ :: session.holds }
  else session

/-- A keepalive comes 50 to 100 ms after the last event of the hold. -/
def Hold.OnTime (hold : Hold) (now : Nat) : Prop :=
  hold.last + expectedRate ≤ now ∧ now ≤ hold.last + baseExtension

instance (hold : Hold) (now : Nat) : Decidable (hold.OnTime now) :=
  inferInstanceAs (Decidable (_ ∧ _))

/-- The holds go on that are kept alive on time. -/
def Session.continueHolds (session : Session) (now : Nat) : Session :=
  { session with
    holds := (session.holds.filter fun hold => hold.OnTime now).map fun hold =>
      { hold with last := now } }

/-- A keepalive of the session is accepted or rejected. -/
def State.keepAlive (state : State) (id : String) (session : Session) : State :=
  let session := session.continueHolds state.now
  match handleHidRPCKeypressKeepAlive state.now session.times with
  | (times, some duration) =>
      { (state.setSession id
          { session with
            times := times
            lastAccepted := some state.now
            wasReset := false }).delayAutoReleaseWithDuration duration with
        arrivals := fun _ => .keepAlive state.now session.previous }
  | (times, none) => state.setSession id { session with times := times }

def step (state : State) : Label → Option State
  | .wait duration => some { state with now := state.now + duration }
  | .newSession id =>
      if (state.sessions id).isSome then none else some (state.setSession id {})
  | .setCurrentSession id => some { state with currentSession := id }
  | .keypressReport id key press ready write => do
      let _ ← state.sessions id
      if ready then
        let reported := UsbGadget.keypressReport state.keysDownState key press write
        let after := state.applyReport reported
        let session ← after.sessions id
        let held :=
          if press then
            session.beginHold state.now key state.keysDownState.keys
              reported.tracked.keys
          else session
        return ((after.setSession id held).updateTimer key press
          reported.newState).notePress key press
      else return state
  | .keypressKeepAlive id => do
      return state.keepAlive id (← state.sessions id)
  | .performAutoRelease key write =>
      match state.kbdAutoReleaseTimers key with
      | none => none
      | some deadline =>
          if deadline ≤ state.now then
            let deleted :=
              { state with
                kbdAutoReleaseTimers :=
                  Function.update state.kbdAutoReleaseTimers key none }
            if key ∈ state.keysDownState.keys then
              some (deleted.applyReport
                (UsbGadget.keypressReport state.keysDownState key false write))
            else some deleted
          else none

/-- No key that is held on time is due for its auto-release. -/
def NoneDue (state : State) : Prop :=
  ∀ id session, state.sessions id = some session → ∀ hold ∈ session.holds,
    hold.down = true → state.now ≤ hold.last + baseExtension →
      ∀ deadline, state.kbdAutoReleaseTimers hold.key = some deadline →
        state.now < deadline

/-- A keepalive of the session would be on time for one of its holds. -/
def Session.KeptOnTime (session : Session) (now : Nat) : Prop :=
  ∃ hold ∈ session.holds, hold.OnTime now

/-- The keepalive is accepted: it delays the timers. -/
def Accepts (state next : State) (session : Session) : Prop :=
  ∃ duration,
    (handleHidRPCKeypressKeepAlive state.now session.times).2 = some duration ∧
    ∀ key, next.kbdAutoReleaseTimers key =
      (state.kbdAutoReleaseTimers key).map fun _ => state.now + duration

/-- A keepalive that is on time is accepted, and after the step no key that is
held on time is due for its auto-release. -/
def HoldsKept (state : State) (label : Label) : Prop :=
  ∀ next, step state label = some next →
    (∀ id session, label = .keypressKeepAlive id →
      state.sessions id = some session → session.KeptOnTime state.now →
        Accepts state next session) ∧
    NoneDue next

/-- A keepalive that is on time is the first of its session, or the session has
been the current one at a change of the keys since its last accepted keepalive,
or that was at most 100 ms ago; and a key with a timer that is held on time
waits less than 100 ms after the last press of the key or, if later, the last
accepted keepalive of any session, and less than 150 ms after the keepalive
before that one. -/
def InTime (state : State) : Label → Prop
  | .keypressKeepAlive id =>
      ∀ session, state.sessions id = some session →
        session.KeptOnTime state.now → session.wasReset = false →
          ∀ last, session.lastAccepted = some last →
            state.now ≤ last + baseExtension
  | .wait duration =>
      ∀ id session, state.sessions id = some session →
        ∀ hold ∈ session.holds, hold.down = true →
          state.now + duration ≤ hold.last + baseExtension →
            (state.kbdAutoReleaseTimers hold.key).isSome →
              state.now + duration < (state.arrivals hold.key).limit
  | _ => True

/-! ## One keepalive -/

section Timing

variable {now last duration : Nat} {times after : Times}

/-- A session that keeps one time, or none, accepts a keepalive exactly when it
comes at most 100 ms after that time. -/
theorem accepted_iff (kept : Option Nat) :
    (handleHidRPCKeypressKeepAlive now ⟨kept, kept⟩).2.isSome ↔
      ∀ last, kept = some last → now ≤ last + baseExtension := by
  unfold handleHidRPCKeypressKeepAlive
  cases kept with
  | none => simp [Times.IsStale]
  | some last =>
      simp only [Times.IsStale, Option.some.injEq, exists_eq_left', forall_eq']
      split_ifs with stale late small
      · simp only [Option.isSome_none, Bool.false_eq_true, false_iff]
        simp only [maxStaleness, baseExtension, expectedRate, maxLateness,
          millisecond] at stale ⊢
        omega
      · simp only [Option.isSome_some, true_iff]
        simp only [baseExtension] at small ⊢
        omega
      · simp only [Option.isSome_none, Bool.false_eq_true, false_iff]
        simp only [baseExtension] at small ⊢
        omega
      · simp only [Option.isSome_some, true_iff]
        simp only [baseExtension] at late ⊢
        omega

/-- An accepted keepalive sets both times and gives the timers some time. -/
theorem of_accepted (accepted :
    handleHidRPCKeypressKeepAlive now times = (after, some duration)) :
    after = ⟨some now, some now⟩ ∧ 0 < duration := by
  have isPositive : 0 < baseExtension := by decide
  unfold handleHidRPCKeypressKeepAlive at accepted
  split at accepted
  · cases accepted
  · split at accepted
    · obtain ⟨rfl, same⟩ := Prod.mk.inj accepted
      exact ⟨rfl, Option.some.inj same ▸ isPositive⟩
    · dsimp only at accepted
      split_ifs at accepted with late small
      · obtain ⟨rfl, same⟩ := Prod.mk.inj accepted
        refine ⟨rfl, Option.some.inj same ▸ ?_⟩
        have rate : 0 < expectedRate := by decide
        simp only [baseExtension]
        omega
      · cases accepted
      · obtain ⟨rfl, same⟩ := Prod.mk.inj accepted
        exact ⟨rfl, Option.some.inj same ▸ isPositive⟩

/-- An accepted keepalive sets the timers to its limit. -/
theorem limit_of_accepted {kept : Option Nat} (accepted :
    handleHidRPCKeypressKeepAlive now ⟨kept, kept⟩ = (after, some duration)) :
    now + duration = (Arrival.keepAlive now kept).limit := by
  have rate : expectedRate + maxLateness = baseExtension := rfl
  unfold handleHidRPCKeypressKeepAlive at accepted
  cases kept with
  | none =>
      simp only [Times.IsStale, reduceCtorEq, false_and, exists_false,
        if_false] at accepted
      obtain rfl := Option.some.inj (Prod.mk.inj accepted).2
      rfl
  | some last =>
      simp only [Times.IsStale, Option.some.injEq, exists_eq_left'] at accepted
      simp only [Arrival.limit]
      split_ifs at accepted with stale late small
      · cases accepted
      · obtain rfl := Option.some.inj (Prod.mk.inj accepted).2
        omega
      · cases accepted
      · obtain rfl := Option.some.inj (Prod.mk.inj accepted).2
        omega

theorem of_rejected (rejected :
    handleHidRPCKeypressKeepAlive now times = (after, none)) : after = times := by
  unfold handleHidRPCKeypressKeepAlive at rejected
  split at rejected
  · exact (Prod.mk.inj rejected).1.symm
  · split at rejected
    · cases rejected
    · dsimp only at rejected
      split_ifs at rejected
      · cases rejected
      · exact (Prod.mk.inj rejected).1.symm
      · cases rejected

end Timing

/-! ## What the times of a session are -/

/-- The times are those of the last accepted keepalive, unless they have been
reset since. -/
def Session.Timed (session : Session) : Prop :=
  session.times = ⟨session.previous, session.previous⟩

def State.Timed (state : State) : Prop :=
  ∀ id session, state.sessions id = some session → session.Timed

theorem Session.Timed.accepted_iff {session : Session} (timed : session.Timed)
    (now : Nat) :
    (handleHidRPCKeypressKeepAlive now session.times).2.isSome ↔
      (session.wasReset = false → ∀ last, session.lastAccepted = some last →
        now ≤ last + baseExtension) := by
  rw [timed]
  unfold Session.previous
  cases session.wasReset with
  | true =>
      have fresh := @KeepAlive.accepted_iff now none
      simpa using fresh
  | false =>
      have same := @KeepAlive.accepted_iff now session.lastAccepted
      simpa using same

variable {state next : State} {label : Label}

theorem sessions_setSession_cases {id other : String}
    {session found : Session}
    (isSession : (state.setSession id session).sessions other = some found) :
    (other = id ∧ found = session) ∨
      (other ≠ id ∧ state.sessions other = some found) := by
  by_cases same : other = id
  · subst same
    refine .inl ⟨rfl, ?_⟩
    simpa [State.setSession, eq_comm] using isSession
  · exact .inr ⟨same, (Function.update_of_ne same _ _).symm.trans isSession⟩

/-- What a report does to a session: its times may be reset, and holds on keys
that are no longer down end. -/
theorem sessions_applyReport {reported : Reported} {id : String}
    {after : Session}
    (found : (state.applyReport reported).sessions id = some after) :
    ∃ session, state.sessions id = some session ∧
      (after = session.resetKeepAliveTime.noteKeys reported.tracked.keys ∨
        after = session.noteKeys reported.tracked.keys) := by
  simp only [State.applyReport, Option.map_eq_some_iff] at found
  obtain ⟨session, before, same⟩ := found
  refine ⟨session, before, ?_⟩
  split_ifs at same
  · exact .inl same.symm
  · exact .inr same.symm

@[simp]
theorem sessions_updateTimer {key : UInt8} {press : Bool}
    {newState : KeysDownState} :
    (state.updateTimer key press newState).sessions = state.sessions := by
  simp only [State.updateTimer]
  split_ifs <;> rfl

@[simp]
theorem now_updateTimer {key : UInt8} {press : Bool}
    {newState : KeysDownState} :
    (state.updateTimer key press newState).now = state.now := by
  simp only [State.updateTimer]
  split_ifs <;> rfl

theorem sessions_notePress {key : UInt8} {press : Bool} :
    (state.notePress key press).sessions = state.sessions ∧
      (state.notePress key press).now = state.now ∧
      (state.notePress key press).kbdAutoReleaseTimers =
        state.kbdAutoReleaseTimers := by
  unfold State.notePress
  split_ifs <;> exact ⟨rfl, rfl, rfl⟩

@[simp]
theorem beginHold_times (session : Session) (now : Nat) (key : UInt8)
    (before after : List UInt8) :
    (session.beginHold now key before after).Timed ↔ session.Timed := by
  unfold Session.beginHold
  split_ifs <;> exact Iff.rfl

theorem State.Timed.setSession (timed : state.Timed) {id : String}
    {session : Session} (isTimed : session.Timed) :
    (state.setSession id session).Timed := by
  intro other found isSession
  rcases sessions_setSession_cases isSession with ⟨-, rfl⟩ | ⟨-, before⟩
  · exact isTimed
  · exact timed other found before

theorem State.Timed.applyReport (timed : state.Timed) (reported : Reported) :
    (state.applyReport reported).Timed := by
  intro id after found
  obtain ⟨session, before, rfl | rfl⟩ := sessions_applyReport found
  · exact rfl
  · exact timed id session before

theorem State.Timed.keepAlive (timed : state.Timed) {id : String}
    {session : Session} (found : state.sessions id = some session) :
    (state.keepAlive id session).Timed := by
  have before := timed id session found
  simp only [State.keepAlive]
  split
  · rename_i times duration accepted
    obtain ⟨rfl, -⟩ := of_accepted accepted
    have after : State.Timed (state.setSession id
        { session.continueHolds state.now with
          times := ⟨some state.now, some state.now⟩
          lastAccepted := some state.now
          wasReset := false }) := timed.setSession rfl
    exact after
  · rename_i times rejected
    obtain rfl := of_rejected rejected
    exact timed.setSession before

theorem step_keypressReport {id : String} {key : UInt8} {press : Bool}
    {write : HidWrite}
    (taken : step state (.keypressReport id key press true write) = some next) :
    ∃ session held,
      (state.applyReport (UsbGadget.keypressReport state.keysDownState key press
        write)).sessions id = some session ∧
      (held = session ∨ ∃ before after,
        held = session.beginHold state.now key before after) ∧
      next = (((state.applyReport (UsbGadget.keypressReport state.keysDownState
        key press write)).setSession id held).updateTimer key press
          (UsbGadget.keypressReport state.keysDownState key press
            write).newState).notePress key press := by
  simp only [step, if_true, Option.bind_eq_bind, Option.bind_eq_some_iff] at taken
  obtain ⟨-, -, session, found, same⟩ := taken
  refine ⟨session, _, found, ?_, (Option.some.inj same).symm⟩
  cases press with
  | true => exact .inr ⟨_, _, rfl⟩
  | false => exact .inl rfl

theorem State.Timed.step (timed : state.Timed)
    (taken : KeepAlive.step state label = some next) : next.Timed := by
  cases label with
  | wait duration =>
      obtain rfl := Option.some.inj taken
      exact timed
  | newSession id =>
      simp only [KeepAlive.step] at taken
      split_ifs at taken
      obtain rfl := Option.some.inj taken
      exact timed.setSession rfl
  | setCurrentSession id =>
      obtain rfl := Option.some.inj taken
      exact timed
  | keypressReport id key press ready write =>
      cases ready with
      | false =>
          simp only [KeepAlive.step, Option.bind_eq_bind,
            Option.bind_eq_some_iff] at taken
          obtain ⟨-, -, same⟩ := taken
          cases same
          exact timed
      | true =>
          obtain ⟨session, held, found, isHeld, rfl⟩ := step_keypressReport taken
          have after := timed.applyReport
            (UsbGadget.keypressReport state.keysDownState key press write)
          have heldTimed : held.Timed := by
            rcases isHeld with rfl | ⟨_, _, rfl⟩
            · exact after id held found
            · exact (beginHold_times _ _ _ _ _).mpr (after id session found)
          unfold State.Timed
          rw [sessions_notePress.1, sessions_updateTimer]
          exact after.setSession heldTimed
  | keypressKeepAlive id =>
      simp only [KeepAlive.step, Option.bind_eq_bind,
        Option.bind_eq_some_iff] at taken
      obtain ⟨session, found, same⟩ := taken
      obtain rfl := Option.some.inj same
      exact timed.keepAlive found
  | performAutoRelease key write =>
      simp only [KeepAlive.step] at taken
      split at taken
      · cases taken
      · split_ifs at taken
        · obtain rfl := Option.some.inj taken
          have deleted : State.Timed { state with
              kbdAutoReleaseTimers :=
                Function.update state.kbdAutoReleaseTimers key none } := timed
          exact deleted.applyReport _
        · obtain rfl := Option.some.inj taken
          exact timed

/-! ## What the timers are set to -/

/-- Every timer is set to the limit of the last message that has set it. -/
def Scheduled (state : State) : Prop :=
  ∀ key deadline, state.kbdAutoReleaseTimers key = some deadline →
    deadline = (state.arrivals key).limit

theorem Scheduled.keypress (scheduled : Scheduled state) (key : UInt8)
    (press : Bool) (newState : KeysDownState) :
    Scheduled ((state.updateTimer key press newState).notePress key press) := by
  intro other deadline armed
  by_cases modifier : IsModifier key
  · simp only [State.notePress, State.updateTimer, modifier, true_or,
      if_true] at armed ⊢
    exact scheduled other deadline armed
  by_cases same : other = key
  · subst same
    cases press with
    | false => simp [State.notePress, State.updateTimer, modifier] at armed
    | true =>
        simp only [State.notePress, State.updateTimer, modifier, or_false,
          Bool.true_eq_false, if_false, Function.update_self] at armed ⊢
        split_ifs at armed
        exact (Option.some.inj armed).symm
  · have unchanged : state.kbdAutoReleaseTimers other = some deadline := by
      rw [sessions_notePress.2.2] at armed
      simpa only [State.updateTimer, modifier, if_false,
        Function.update_of_ne same] using armed
    rw [scheduled other deadline unchanged]
    cases press with
    | false => simp only [State.notePress, State.updateTimer, modifier,
        or_true, if_true, if_false]
    | true => simp only [State.notePress, State.updateTimer, modifier,
        Bool.true_eq_false, or_self, if_false, Function.update_of_ne same]

theorem Scheduled.keepAlive (scheduled : Scheduled state) (timed : state.Timed)
    {id : String} {session : Session}
    (found : state.sessions id = some session) :
    Scheduled (state.keepAlive id session) := by
  simp only [State.keepAlive]
  split
  · rename_i after duration accepted
    intro key deadline armed
    simp only [State.delayAutoReleaseWithDuration,
      Option.map_eq_some_iff] at armed
    obtain ⟨-, -, rfl⟩ := armed
    rw [show (session.continueHolds state.now).times = session.times from rfl,
      timed id session found] at accepted
    exact limit_of_accepted accepted
  · exact scheduled

theorem Scheduled.deleteTimer (scheduled : Scheduled state) (key : UInt8) :
    Scheduled { state with
      kbdAutoReleaseTimers :=
        Function.update state.kbdAutoReleaseTimers key none } := by
  intro other deadline armed
  by_cases same : other = key
  · simp [same] at armed
  · simp only [Function.update_of_ne same] at armed
    exact scheduled other deadline armed

theorem Scheduled.step (scheduled : Scheduled state) (timed : state.Timed)
    (taken : KeepAlive.step state label = some next) : Scheduled next := by
  cases label with
  | wait duration =>
      obtain rfl := Option.some.inj taken
      exact scheduled
  | newSession id =>
      simp only [KeepAlive.step] at taken
      split_ifs at taken
      obtain rfl := Option.some.inj taken
      exact scheduled
  | setCurrentSession id =>
      obtain rfl := Option.some.inj taken
      exact scheduled
  | keypressReport id key press ready write =>
      cases ready with
      | false =>
          simp only [KeepAlive.step, Option.bind_eq_bind,
            Option.bind_eq_some_iff] at taken
          obtain ⟨-, -, same⟩ := taken
          cases same
          exact scheduled
      | true =>
          obtain ⟨session, held, -, -, rfl⟩ := step_keypressReport taken
          refine Scheduled.keypress ?_ key press _
          exact scheduled
  | keypressKeepAlive id =>
      simp only [KeepAlive.step, Option.bind_eq_bind,
        Option.bind_eq_some_iff] at taken
      obtain ⟨session, found, same⟩ := taken
      obtain rfl := Option.some.inj same
      exact scheduled.keepAlive timed found
  | performAutoRelease key write =>
      simp only [KeepAlive.step] at taken
      split at taken
      · cases taken
      · split_ifs at taken
        · obtain rfl := Option.some.inj taken
          exact scheduled.deleteTimer key
        · obtain rfl := Option.some.inj taken
          exact scheduled.deleteTimer key

/-! ## Which steps make a held key due -/

/-- The timers decide how long a key may be held. -/
theorem noneDue_wait_iff (scheduled : Scheduled state) (duration : Nat) :
    NoneDue { state with now := state.now + duration } ↔
      InTime state (.wait duration) := by
  constructor
  · intro noneDue id session found hold member down onTime armed
    obtain ⟨deadline, isDeadline⟩ := Option.isSome_iff_exists.mp armed
    rw [← scheduled _ _ isDeadline]
    exact noneDue id session found hold member down onTime _ isDeadline
  · intro inTime id session found hold member down onTime deadline isDeadline
    rw [scheduled _ _ isDeadline]
    exact inTime id session found hold member down onTime
      (by rw [isDeadline]; rfl)

namespace NoneDue

theorem setSession (noneDue : NoneDue state) {id : String} {session : Session}
    (noHolds : session.holds = []) : NoneDue (state.setSession id session) := by
  intro other found isSession hold member
  rcases sessions_setSession_cases isSession with ⟨-, rfl⟩ | ⟨-, before⟩
  · rw [noHolds] at member
    cases member
  · exact noneDue other found before hold member

theorem applyReport (noneDue : NoneDue state) (reported : Reported) :
    NoneDue (state.applyReport reported) := by
  intro id after found hold member down onTime deadline armed
  obtain ⟨session, before, isAfter⟩ := sessions_applyReport found
  have holds : after.holds = (session.noteKeys reported.tracked.keys).holds := by
    rcases isAfter with rfl | rfl <;> rfl
  rw [holds] at member
  obtain ⟨old, oldMember, rfl⟩ := List.mem_map.mp member
  have wasDown : old.down = true := by
    simp only [Bool.and_eq_true] at down
    exact down.1
  exact noneDue id session before old oldMember wasDown onTime deadline armed

/-- A keypress sets the timer of its key anew. -/
theorem keypress (noneDue : NoneDue state) {id : String} {session held : Session}
    {key : UInt8} {press : Bool} {newState : KeysDownState}
    (found : state.sessions id = some session)
    (isHeld : held = session ∨ ∃ before after,
      held = session.beginHold state.now key before after) :
    NoneDue ((state.setSession id held).updateTimer key press newState) := by
  intro other otherSession isSession hold member down onTime deadline armed
  rw [sessions_updateTimer] at isSession
  rw [now_updateTimer] at onTime ⊢
  -- the hold is an old one, or the new one on the key
  have origin : (∃ before, state.sessions other = some before ∧
      hold ∈ before.holds) ∨ hold.key = key ∧ ¬ IsModifier key := by
    rcases sessions_setSession_cases isSession with ⟨rfl, rfl⟩ | ⟨-, before⟩
    · rcases isHeld with rfl | ⟨_, _, rfl⟩
      · exact .inl ⟨_, found, member⟩
      · unfold Session.beginHold at member
        split_ifs at member with begins
        · rcases List.mem_cons.mp member with rfl | old
          · exact .inr ⟨rfl, begins.1⟩
          · exact .inl ⟨_, found, old⟩
        · exact .inl ⟨_, found, member⟩
    · exact .inl ⟨_, before, member⟩
  simp only [State.updateTimer] at armed
  split_ifs at armed with modifier cancels
  · rcases origin with ⟨before, wasFound, old⟩ | ⟨-, notModifier⟩
    · exact noneDue other before wasFound hold old down onTime deadline armed
    · exact absurd modifier notModifier
  · by_cases same : hold.key = key
    · simp [same] at armed
    · rcases origin with ⟨before, wasFound, old⟩ | ⟨isKey, -⟩
      · simp only [Function.update_of_ne same] at armed
        exact noneDue other before wasFound hold old down onTime deadline armed
      · exact absurd isKey same
  · by_cases same : hold.key = key
    · simp only [same, Function.update_self] at armed
      obtain rfl := Option.some.inj armed
      have positive : 0 < autoReleaseDuration := by decide
      exact Nat.lt_add_of_pos_right positive
    · rcases origin with ⟨before, wasFound, old⟩ | ⟨isKey, -⟩
      · simp only [Function.update_of_ne same] at armed
        exact noneDue other before wasFound hold old down onTime deadline armed
      · exact absurd isKey same

/-- After an accepted keepalive every timer has some time left. -/
theorem keepAlive (noneDue : NoneDue state) (id : String) {session : Session}
    (accepts : session.KeptOnTime state.now →
      (handleHidRPCKeypressKeepAlive state.now session.times).2.isSome) :
    NoneDue (state.keepAlive id session) := by
  simp only [State.keepAlive]
  split
  · rename_i times duration accepted
    obtain ⟨-, positive⟩ := of_accepted accepted
    intro other otherSession isSession hold member down onTime deadline armed
    simp only [State.delayAutoReleaseWithDuration, Option.map_eq_some_iff] at armed
    obtain ⟨-, -, rfl⟩ := armed
    exact Nat.lt_add_of_pos_right positive
  · rename_i times rejected
    refine noneDue.setSession ?_
    -- the rejected keepalive was on time for none of the holds
    simp only [Session.continueHolds, List.map_eq_nil_iff,
      List.filter_eq_nil_iff, decide_eq_true_eq]
    intro hold member onTime
    have isAccepted := accepts ⟨hold, member, onTime⟩
    have sameTimes : (session.continueHolds state.now).times = session.times := rfl
    rw [← sameTimes, rejected] at isAccepted
    cases isAccepted

theorem deleteTimer (noneDue : NoneDue state) (key : UInt8) :
    NoneDue { state with
      kbdAutoReleaseTimers :=
        Function.update state.kbdAutoReleaseTimers key none } := by
  intro id session found hold member down onTime deadline armed
  by_cases same : hold.key = key
  · simp [same] at armed
  · simp only [Function.update_of_ne same] at armed
    exact noneDue id session found hold member down onTime deadline armed

/-- A step in time keeps all keys that are held on time from being due. -/
theorem step (noneDue : NoneDue state) (timed : state.Timed)
    (scheduled : Scheduled state) (inTime : InTime state label)
    (taken : KeepAlive.step state label = some next) : NoneDue next := by
  cases label with
  | wait duration =>
      obtain rfl := Option.some.inj taken
      exact (noneDue_wait_iff scheduled duration).mpr inTime
  | newSession id =>
      simp only [KeepAlive.step] at taken
      split_ifs at taken
      obtain rfl := Option.some.inj taken
      exact noneDue.setSession rfl
  | setCurrentSession id =>
      obtain rfl := Option.some.inj taken
      exact noneDue
  | keypressReport id key press ready write =>
      cases ready with
      | false =>
          simp only [KeepAlive.step, Option.bind_eq_bind,
            Option.bind_eq_some_iff] at taken
          obtain ⟨-, -, same⟩ := taken
          cases same
          exact noneDue
      | true =>
          obtain ⟨session, held, found, isHeld, rfl⟩ := step_keypressReport taken
          unfold NoneDue
          rw [sessions_notePress.1, sessions_notePress.2.1,
            sessions_notePress.2.2]
          exact (noneDue.applyReport _).keypress found isHeld
  | keypressKeepAlive id =>
      simp only [KeepAlive.step, Option.bind_eq_bind,
        Option.bind_eq_some_iff] at taken
      obtain ⟨session, found, same⟩ := taken
      obtain rfl := Option.some.inj same
      refine noneDue.keepAlive id fun onTime => ?_
      rw [(timed id session found).accepted_iff]
      exact inTime session found onTime
  | performAutoRelease key write =>
      simp only [KeepAlive.step] at taken
      split at taken
      · cases taken
      · split_ifs at taken
        · obtain rfl := Option.some.inj taken
          exact (noneDue.deleteTimer key).applyReport _
        · obtain rfl := Option.some.inj taken
          exact noneDue.deleteTimer key

end NoneDue

/-- An accepted keepalive delays the timers. -/
theorem accepts_keepAlive_iff {id : String} {session : Session}
    (timed : session.Timed) :
    Accepts state (state.keepAlive id session) session ↔
      (session.wasReset = false → ∀ last, session.lastAccepted = some last →
        state.now ≤ last + baseExtension) := by
  have same : (session.continueHolds state.now).times = session.times := rfl
  rw [← timed.accepted_iff]
  unfold Accepts State.keepAlive
  simp only [same]
  cases handleHidRPCKeypressKeepAlive state.now session.times with
  | mk times result =>
      cases result with
      | none => simp
      | some duration =>
          exact iff_of_true ⟨duration, rfl, fun _ => rfl⟩ rfl

theorem holdsKept_iff (timed : state.Timed) (scheduled : Scheduled state)
    (noneDue : NoneDue state) (enabled : step state label = some next) :
    HoldsKept state label ↔ InTime state label := by
  have keepAlive {id : String} {session : Session} {next : State}
      (isKeepAlive : label = .keypressKeepAlive id)
      (found : state.sessions id = some session)
      (taken : step state label = some next) :
      next = state.keepAlive id session := by
    subst isKeepAlive
    simp only [step, found] at taken
    exact (Option.some.inj taken).symm
  constructor
  · intro kept
    obtain ⟨accepts, after⟩ := kept next enabled
    unfold InTime
    split
    · rename_i id
      intro session found onTime
      rw [← accepts_keepAlive_iff (timed id session found),
        ← keepAlive rfl found enabled]
      exact accepts id session rfl found onTime
    · obtain rfl := Option.some.inj enabled
      exact (noneDue_wait_iff scheduled _).mp after
    · trivial
  · intro inTime other taken
    refine ⟨?_, noneDue.step timed scheduled inTime taken⟩
    intro id session isKeepAlive found onTime
    rw [keepAlive isKeepAlive found taken,
      accepts_keepAlive_iff (timed id session found)]
    subst isKeepAlive
    exact inTime session found onTime

/-- Of the runs of any number of sessions, those in which every keepalive that
is on time is accepted and no key that is held on time is ever due for its
auto-release are exactly those whose steps are all in time. -/
theorem holdsKept_iff_inTime (labels : List Label) :
    AllSteps step HoldsKept {} labels ↔ AllSteps step InTime {} labels :=
  @allSteps_congr State Label step
    (fun state => state.Timed ∧ Scheduled state ∧ NoneDue state) HoldsKept
    InTime
    (fun holds kept taken =>
      ⟨holds.1.step taken, holds.2.1.step holds.1 taken, (kept _ taken).2⟩)
    (fun holds taken => holdsKept_iff holds.1 holds.2.1 holds.2.2 taken) {}
    ⟨nofun, nofun, nofun⟩ labels

/-- The guest holds a key for one keepalive and releases it; the host connects
and becomes the current session; the guest presses the key again, and its first
keepalive comes 50 ms later. -/
def secondHold : List Label :=
  [.newSession "guest", .setCurrentSession (some "guest"),
    .keypressReport "guest" 4 true true .delivered, .wait expectedRate,
    .keypressKeepAlive "guest", .newSession "host",
    .setCurrentSession (some "host"),
    .keypressReport "guest" 4 false true .delivered, .wait baseExtension,
    .keypressReport "guest" 4 true true .delivered, .wait expectedRate,
    .keypressKeepAlive "guest"]

/-- The guest's keepalive is rejected: only the times of the host have been
reset. -/
theorem second_hold_is_not_kept : ¬ ∀ labels, AllSteps step HoldsKept {} labels := by
  intro kept
  have run := kept secondHold
  have firstHold := (((((run _ rfl).2 _ rfl).2 _ rfl).2 _ rfl).2 _ rfl).2
  have released := (((firstHold _ rfl).2 _ rfl).2 _ rfl).2
  have last := ((((released _ rfl).2 _ rfl).2 _ rfl).2 _ rfl).1
  obtain ⟨duration, accepted, -⟩ := (last _ rfl).1 "guest" _ rfl rfl
    ⟨_, List.mem_cons_self, by decide⟩
  have rejected : Option.isSome (some duration) = false := by
    rw [← accepted]
    decide
  cases rejected

end KeepAlive

end JetKvm
