import JetKvm.VideoCapture
import Mathlib.Logic.Function.Basic

/-!
# Starting and stopping the streaming thread

Translation of `video_start_streaming`, `video_stop_streaming` and
`video_restart_streaming` of `internal/native/cgo/video.c`.  Two callers make
these calls: the control side, whose calls exclude one another, and the thread
that detects the format.  A step is one test, one flag update, one join or one
change of `streaming_thread`.
-/

namespace JetKvm

namespace StreamingThread

open LabelledRuns
open VideoCapture (Thread)

inductive Caller where
  | control
  | formatDetection
  deriving DecidableEq, Repr

def Caller.other : Caller → Caller
  | .control => .formatDetection
  | .formatDetection => .control

inductive Call where
  | start
  | stop
  | restart
  deriving DecidableEq, Repr

/-- Where a caller is.  A stop may be part of a restart, and the two loops of
`wait_for_streaming_stopped` count their attempts. -/
inductive Point where
  | idle
  | startTest
  | startAllocate
  | startFlag
  | startCreate
  | startFailed
  | stopTest (restarts : Bool)
  | stopFlag (restarts : Bool)
  | stopWait (restarts : Bool) (attempts : Nat)
  | stopJoin (restarts : Bool)
  | stopFree (restarts : Bool)
  | restartFlag
  | restartStopped
  | restartWait (attempts : Nat)
  deriving DecidableEq, Repr

/-- A created thread, with how often its handle was joined and freed. -/
structure Handle where
  thread : Thread := {}
  joined : Nat := 0
  freed : Nat := 0
  deriving DecidableEq, Repr

/-- `streamingThread` is the number of the thread whose handle it points to.
`badHandle` records that a null or freed handle was joined or a freed one freed
again. -/
structure State where
  streamingFlag : Bool := false
  streamingStopped : Bool := true
  streamingThread : Option Nat := none
  threads : List Handle := []
  points : Caller → Point := fun _ => .idle
  badHandle : Bool := false

/-- `advance` is the next step of a caller, with the outcome of an allocation
or of a thread creation; `run` is the next step of a thread. -/
inductive Label where
  | call (caller : Caller) (call : Call)
  | advance (caller : Caller) (succeeds : Bool)
  | run (i : Nat) (outcome : VideoCapture.Outcome)
  deriving DecidableEq, Repr

def maxAttempts : Nat := 30

namespace State

variable (state : State) (caller : Caller)

def goTo (point : Point) : State :=
  { state with points := Function.update state.points caller point }

/-- What comes after `video_stop_streaming`. -/
def afterStop (restarts : Bool) : Point :=
  if restarts then .restartWait 0 else .idle

/-- The tests of the loops of a thread read the streaming flag. -/
def flagAllows (thread : Thread) (outcome : VideoCapture.Outcome) : Prop :=
  match thread.point with
  | .loop | .capture =>
      outcome = if state.streamingFlag then .succeeds else .fails
  | _ => True

theorem flagAllows_iff {thread : Thread} {outcome : VideoCapture.Outcome} :
    state.flagAllows thread outcome ↔
      (thread.point = .loop ∨ thread.point = .capture →
        outcome = if state.streamingFlag then .succeeds else .fails) := by
  unfold flagAllows
  cases thread.point <;> simp

instance (thread : Thread) (outcome : VideoCapture.Outcome) :
    Decidable (state.flagAllows thread outcome) :=
  decidable_of_iff _ (state.flagAllows_iff).symm

/-- `streaming_stopped` after the step of a thread -/
def stoppedAfter (thread : Thread) : Bool :=
  match thread.point with
  | .setStopped => false
  | .finish => true
  | _ => state.streamingStopped

def runThread (i : Nat) (outcome : VideoCapture.Outcome) : Option State :=
  match state.threads[i]? with
  | none => none
  | some handle =>
      if state.flagAllows handle.thread outcome then
        match handle.thread.step outcome with
        | none => none
        | some later => some { state with
            streamingStopped := state.stoppedAfter handle.thread
            threads := state.threads.set i { handle with thread := later } }
      else none

def hasExited (thread : Thread) : Bool :=
  match thread.point with
  | .exited _ => true
  | _ => false

/-- `pthread_join(*streaming_thread, NULL)` returns when the thread has
exited. -/
def join (restarts : Bool) : Option State :=
  match state.streamingThread with
  | none => some ({ state with badHandle := true }.goTo caller .idle)
  | some i =>
      match state.threads[i]? with
      | none => none
      | some handle =>
          if hasExited handle.thread then
            some ({ state with
              threads := state.threads.set i
                { handle with joined := handle.joined + 1 }
              badHandle := state.badHandle || handle.freed ≠ 0 }.goTo caller
                (.stopFree restarts))
          else none

/-- `free(streaming_thread)` and the assignment of null -/
def free (restarts : Bool) : Option State :=
  match state.streamingThread with
  | none => some (state.goTo caller (afterStop restarts))
  | some i =>
      match state.threads[i]? with
      | none => none
      | some handle =>
          some ({ state with
            streamingThread := none
            threads := state.threads.set i
              { handle with freed := handle.freed + 1 }
            badHandle := state.badHandle || handle.freed ≠ 0 }.goTo caller
              (afterStop restarts))

def advance (succeeds : Bool) : Option State :=
  match state.points caller with
  | .idle => none
  -- `video_start_streaming`
  | .startTest =>
      match state.streamingThread with
      | some _ => some (state.goTo caller .idle)
      | none => some (state.goTo caller .startAllocate)
  | .startAllocate =>
      some (state.goTo caller (if succeeds then .startFlag else .idle))
  | .startFlag =>
      some ({ state with streamingFlag := true }.goTo caller .startCreate)
  | .startCreate =>
      if succeeds then
        some ({ state with
          streamingThread := some state.threads.length
          threads := state.threads ++ [({} : Handle)] }.goTo caller .idle)
      else some (state.goTo caller .startFailed)
  | .startFailed =>
      some ({ state with streamingFlag := false }.goTo caller .idle)
  -- `video_stop_streaming`
  | .stopTest restarts =>
      match state.streamingThread with
      | none => some (state.goTo caller (afterStop restarts))
      | some _ => some (state.goTo caller (.stopFlag restarts))
  | .stopFlag restarts =>
      some ({ state with streamingFlag := false }.goTo caller
        (.stopWait restarts 0))
  | .stopWait restarts attempts =>
      if attempts < maxAttempts ∧ state.streamingStopped = false then
        some (state.goTo caller (.stopWait restarts (attempts + 1)))
      else some (state.goTo caller (.stopJoin restarts))
  | .stopJoin restarts => state.join caller restarts
  | .stopFree restarts => state.free caller restarts
  -- `video_restart_streaming`
  | .restartFlag =>
      some (state.goTo caller
        (if state.streamingFlag then .stopTest true else .restartStopped))
  | .restartStopped =>
      some (state.goTo caller
        (if state.streamingStopped then .idle else .stopTest true))
  | .restartWait attempts =>
      if attempts < maxAttempts then
        some (state.goTo caller
          (if state.streamingStopped then .startTest
          else .restartWait (attempts + 1)))
      else some (state.goTo caller .idle)

end State

def firstPoint : Call → Point
  | .start => .startTest
  | .stop => .stopTest false
  | .restart => .restartFlag

def step (state : State) : Label → Option State
  | .call caller call =>
      if state.points caller = .idle then
        some (state.goTo caller (firstPoint call))
      else none
  | .advance caller succeeds => state.advance caller succeeds
  | .run i outcome => state.runThread i outcome

/-! ### One thread -/

/-- At most one thread is alive, no thread is joined twice, each one that
`streaming_thread` no longer points to was joined, and no handle is used after
it was freed. -/
structure OneThread (state : State) : Prop where
  alive : ∀ (i j : Nat) (one other : Handle), state.threads[i]? = some one →
    state.threads[j]? = some other → State.hasExited one.thread = false →
      State.hasExited other.thread = false → i = j
  once : ∀ handle ∈ state.threads, handle.joined ≤ 1
  joined : ∀ i handle, state.threads[i]? = some handle →
    state.streamingThread ≠ some i → handle.joined = 1
  goodHandle : state.badHandle = false ∧ ∀ handle ∈ state.threads, handle.freed ≤ 1

/-- The caller has found a thread and not yet freed its handle. -/
def Point.inStop : Point → Prop
  | .stopFlag _ | .stopWait _ _ | .stopJoin _ | .stopFree _ => True
  | _ => False

instance (point : Point) : Decidable point.inStop := by
  cases point <;> unfold Point.inStop <;> infer_instance

/-- No thread was created between the test of a caller that creates one and
its creation, and a caller that finds a thread to stop is the only one that is
stopping it. -/
def InTurn (state : State) : Label → Prop
  | .advance caller succeeds =>
      match state.points caller with
      | .startCreate => succeeds = true → state.streamingThread = none
      | .stopTest _ =>
          state.streamingThread ≠ none → ¬ (state.points caller.other).inStop
      | _ => True
  | _ => True

instance (state : State) (label : Label) : Decidable (InTurn state label) := by
  unfold InTurn
  split
  · split <;> infer_instance
  · infer_instance

/-! ### What a step keeps -/

/-- The handle of a stopped thread is still to be freed. -/
def AtFree (state : State) : Prop :=
  ∃ caller restarts, state.points caller = .stopFree restarts

/-- A handle that `streaming_thread` points to, seen from its callers. -/
structure Handle.Current (handle : Handle) (atFree : Prop) : Prop where
  notFreed : handle.freed = 0
  once : handle.joined ≤ 1
  exited : handle.joined = 1 → State.hasExited handle.thread = true
  joined : handle.joined = 1 ↔ atFree

/-- A handle that it no longer points to. -/
structure Handle.Past (handle : Handle) : Prop where
  freed : handle.freed = 1
  joined : handle.joined = 1
  exited : State.hasExited handle.thread = true

/-- Only one caller at a time is stopping the thread. -/
structure Exclusive (state : State) : Prop where
  stops : ∀ caller, (state.points caller).inStop →
    state.streamingThread ≠ none ∧ ¬ (state.points caller.other).inStop
  past : ∀ i handle, state.threads[i]? = some handle →
    state.streamingThread ≠ some i → handle.Past
  current : ∀ i, state.streamingThread = some i →
    ∃ handle, state.threads[i]? = some handle ∧ handle.Current (AtFree state)
  goodHandle : state.badHandle = false

variable {state next : State} {caller : Caller}

theorem Exclusive.oneThread (exclusive : Exclusive state) : OneThread state := by
  have known : ∀ handle ∈ state.threads, handle.joined ≤ 1 ∧ handle.freed ≤ 1 := by
    intro handle member
    obtain ⟨i, found⟩ := List.mem_iff_getElem?.mp member
    by_cases current : state.streamingThread = some i
    · obtain ⟨other, otherFound, here⟩ := exclusive.current i current
      obtain rfl := Option.some.inj (found.symm.trans otherFound)
      exact ⟨here.once, by simp [here.notFreed]⟩
    · have past := exclusive.past i handle found current
      exact ⟨Nat.le_of_eq past.joined, Nat.le_of_eq past.freed⟩
  refine ⟨?_, fun handle member => (known handle member).1, ?_,
    exclusive.goodHandle, fun handle member => (known handle member).2⟩
  · intro i j one other oneFound otherFound oneAlive otherAlive
    have isCurrent : ∀ k handle, state.threads[k]? = some handle →
        State.hasExited handle.thread = false → state.streamingThread = some k := by
      intro k handle found alive
      by_contra notCurrent
      have past := exclusive.past k handle found notCurrent
      rw [past.exited] at alive
      cases alive
    have first := isCurrent i one oneFound oneAlive
    have second := isCurrent j other otherFound otherAlive
    exact Option.some.inj (first.symm.trans second)
  · intro i handle found notCurrent
    exact (exclusive.past i handle found notCurrent).joined

theorem eq_or_eq_other (one caller : Caller) : one = caller ∨ one = caller.other := by
  cases one <;> cases caller <;> simp [Caller.other]

theorem other_other (caller : Caller) : caller.other.other = caller := by
  cases caller <;> rfl

variable {point : Point}

@[simp]
theorem points_goTo_self : (state.goTo caller point).points caller = point :=
  Function.update_self ..

@[simp]
theorem points_goTo_other :
    (state.goTo caller point).points caller.other = state.points caller.other := by
  refine Function.update_of_ne ?_ ..
  cases caller <;> simp [Caller.other]

@[simp]
theorem streamingFlag_goTo :
    (state.goTo caller point).streamingFlag = state.streamingFlag := rfl

@[simp]
theorem streamingStopped_goTo :
    (state.goTo caller point).streamingStopped = state.streamingStopped := rfl

@[simp]
theorem streamingThread_goTo :
    (state.goTo caller point).streamingThread = state.streamingThread := rfl

@[simp]
theorem threads_goTo : (state.goTo caller point).threads = state.threads := rfl

@[simp]
theorem goTo_goTo (later : Point) :
    (state.goTo caller point).goTo caller later = state.goTo caller later := by
  simp [State.goTo]

theorem goTo_self (here : state.points caller = point) :
    state.goTo caller point = state := by
  simp [State.goTo, ← here]

theorem atFree_goTo_iff (stays : ∀ restarts, point ≠ .stopFree restarts)
    (was : ∀ restarts, state.points caller ≠ .stopFree restarts) :
    AtFree (state.goTo caller point) ↔ AtFree state := by
  unfold AtFree
  constructor
  · rintro ⟨one, restarts, here⟩
    rcases eq_or_eq_other one caller with rfl | rfl
    · rw [points_goTo_self] at here
      exact absurd here (stays restarts)
    · rw [points_goTo_other] at here
      exact ⟨caller.other, restarts, here⟩
  · rintro ⟨one, restarts, here⟩
    rcases eq_or_eq_other one caller with rfl | rfl
    · exact absurd here (was restarts)
    · exact ⟨caller.other, restarts, by rwa [points_goTo_other]⟩

theorem not_atFree (self : ∀ restarts, state.points caller ≠ .stopFree restarts)
    (other : ¬ (state.points caller.other).inStop) : ¬ AtFree state := by
  rintro ⟨one, restarts, here⟩
  rcases eq_or_eq_other one caller with rfl | rfl
  · exact self restarts here
  · rw [here] at other
    exact other trivial

/-- A caller goes on, whether it is stopping the thread or not. -/
theorem Exclusive.goTo (exclusive : Exclusive state) (flag : Bool)
    (stops : point.inStop → state.streamingThread ≠ none ∧
      ¬ (state.points caller.other).inStop)
    (stays : ∀ restarts, point ≠ .stopFree restarts)
    (was : ∀ restarts, state.points caller ≠ .stopFree restarts) :
    Exclusive ({ state with streamingFlag := flag }.goTo caller point) where
  stops := by
    intro one inStop
    rcases eq_or_eq_other one caller with rfl | rfl
    · rw [points_goTo_self] at inStop
      rw [points_goTo_other]
      exact stops inStop
    · rw [points_goTo_other] at inStop
      rw [other_other, points_goTo_self]
      exact ⟨(exclusive.stops _ inStop).1, fun here => (stops here).2 inStop⟩
  past := exclusive.past
  current := by
    intro i current
    obtain ⟨handle, found, here⟩ := exclusive.current i current
    have same : AtFree ({ state with streamingFlag := flag }.goTo caller point) ↔
        AtFree state := atFree_goTo_iff stays was
    exact ⟨handle, found, here.notFreed, here.once, here.exited,
      here.joined.trans same.symm⟩
  goodHandle := exclusive.goodHandle

theorem not_exited_of_step {thread later : Thread} {outcome : VideoCapture.Outcome}
    (taken : thread.step outcome = some later) : State.hasExited thread = false := by
  unfold State.hasExited
  cases point : thread.point with
  | exited early =>
      unfold Thread.step at taken
      rw [point] at taken
      cases outcome <;> cases taken
  | _ => rfl

theorem Exclusive.runThread (exclusive : Exclusive state) {i : Nat}
    {outcome : VideoCapture.Outcome} (taken : state.runThread i outcome = some next) :
    Exclusive next := by
  unfold State.runThread at taken
  cases found : state.threads[i]? with
  | none => simp [found] at taken
  | some handle =>
      simp only [found] at taken
      split at taken
      · cases stepped : handle.thread.step outcome with
        | none => simp [stepped] at taken
        | some later =>
            simp only [stepped, Option.some.injEq] at taken
            subst taken
            have alive := not_exited_of_step stepped
            have isCurrent : state.streamingThread = some i := by
              by_contra notCurrent
              have past := exclusive.past i handle found notCurrent
              rw [past.exited] at alive
              cases alive
            have small : i < state.threads.length :=
              (List.getElem?_eq_some_iff.mp found).1
            refine ⟨exclusive.stops, ?_, ?_, exclusive.goodHandle⟩
            · intro j other otherFound notCurrent
              have different : i ≠ j := by
                rintro rfl
                exact notCurrent isCurrent
              rw [List.getElem?_set_ne different] at otherFound
              exact exclusive.past j other otherFound notCurrent
            · intro j current
              obtain rfl := Option.some.inj (isCurrent.symm.trans current)
              obtain ⟨other, otherFound, here⟩ := exclusive.current i isCurrent
              obtain rfl := Option.some.inj (found.symm.trans otherFound)
              have notJoined : handle.joined ≠ 1 := by
                intro joined
                rw [here.exited joined] at alive
                cases alive
              exact ⟨_, List.getElem?_set_self small, here.notFreed, here.once,
                fun joined => absurd joined notJoined, here.joined⟩
      · cases taken

theorem Exclusive.create (exclusive : Exclusive state)
    (none : state.streamingThread = none) :
    Exclusive ({ state with
      streamingThread := some state.threads.length
      threads := state.threads ++ [({} : Handle)] }.goTo caller .idle) := by
  have notStopping : ¬ (state.points caller.other).inStop :=
    fun inStop => (exclusive.stops _ inStop).1 none
  refine ⟨?_, ?_, ?_, exclusive.goodHandle⟩
  · intro one inStop
    rcases eq_or_eq_other one caller with rfl | rfl
    · rw [points_goTo_self] at inStop
      cases inStop
    · rw [points_goTo_other] at inStop
      exact absurd inStop notStopping
  · intro i handle found notCurrent
    have before : i < state.threads.length := by
      have small := (List.getElem?_eq_some_iff.mp found).1
      have different : i ≠ state.threads.length := by
        rintro rfl
        exact notCurrent rfl
      simp only [State.goTo, List.length_append, List.length_singleton] at small
      omega
    refine exclusive.past i handle ?_ (by simp [none])
    rwa [State.goTo, List.getElem?_append_left before] at found
  · intro i current
    obtain rfl := Option.some.inj current
    have notFree : ¬ AtFree (({ state with
        streamingThread := some state.threads.length
        threads := state.threads ++ [({} : Handle)] } : State).goTo caller .idle) := by
      refine @not_atFree _ caller ?_ ?_
      · simp
      · simpa using notStopping
    refine ⟨{}, by simp [State.goTo], rfl, Nat.zero_le 1, nofun, ?_⟩
    exact iff_of_false (by decide) notFree

theorem Exclusive.join (exclusive : Exclusive state) {restarts : Bool}
    (here : state.points caller = .stopJoin restarts)
    (taken : state.join caller restarts = some next) : Exclusive next := by
  have inStop : (state.points caller).inStop := by
    rw [here]
    trivial
  obtain ⟨pointed, alone⟩ := exclusive.stops caller inStop
  obtain ⟨i, current⟩ := Option.ne_none_iff_exists'.mp pointed
  obtain ⟨handle, found, known⟩ := exclusive.current i current
  have small : i < state.threads.length := (List.getElem?_eq_some_iff.mp found).1
  have notFree : ¬ AtFree state := not_atFree (by simp [here]) alone
  have notJoined : handle.joined = 0 := by
    have once := known.once
    have not := mt known.joined.mp notFree
    omega
  unfold State.join at taken
  simp only [current, found] at taken
  split at taken
  · rename_i exited
    cases taken
    refine ⟨?_, ?_, ?_, by simp [State.goTo, exclusive.goodHandle, known.notFreed]⟩
    · intro one inStop
      rcases eq_or_eq_other one caller with rfl | rfl
      · rw [points_goTo_other]
        exact ⟨by simp [State.goTo], alone⟩
      · rw [points_goTo_other] at inStop
        exact absurd inStop alone
    · intro j other otherFound notCurrent
      have different : i ≠ j := by
        rintro rfl
        exact notCurrent rfl
      rw [State.goTo, List.getElem?_set_ne different] at otherFound
      refine exclusive.past j other otherFound ?_
      rw [current]
      exact fun no => different (Option.some.inj no)
    · intro j otherCurrent
      obtain rfl := Option.some.inj otherCurrent
      refine ⟨_, List.getElem?_set_self small, known.notFreed, ?_, fun _ => exited, ?_⟩
      · simp [notJoined]
      · refine iff_of_true (by simp [notJoined]) ⟨caller, restarts, ?_⟩
        exact points_goTo_self
  · cases taken

theorem Exclusive.free (exclusive : Exclusive state) {restarts : Bool}
    (here : state.points caller = .stopFree restarts)
    (taken : state.free caller restarts = some next) : Exclusive next := by
  have inStop : (state.points caller).inStop := by
    rw [here]
    trivial
  obtain ⟨pointed, alone⟩ := exclusive.stops caller inStop
  obtain ⟨i, current⟩ := Option.ne_none_iff_exists'.mp pointed
  obtain ⟨handle, found, known⟩ := exclusive.current i current
  have joined : handle.joined = 1 := known.joined.mpr ⟨caller, restarts, here⟩
  have small : i < state.threads.length := (List.getElem?_eq_some_iff.mp found).1
  have outside : ¬ (State.afterStop restarts).inStop := by
    cases restarts <;> exact id
  unfold State.free at taken
  simp only [current, found, Option.some.injEq] at taken
  subst taken
  refine ⟨?_, ?_, nofun, by simp [State.goTo, exclusive.goodHandle, known.notFreed]⟩
  · intro one inStop
    rcases eq_or_eq_other one caller with rfl | rfl
    · rw [points_goTo_self] at inStop
      exact absurd inStop outside
    · rw [points_goTo_other] at inStop
      exact absurd inStop alone
  · intro j other otherFound _
    by_cases same : i = j
    · subst same
      rw [State.goTo, List.getElem?_set_self small] at otherFound
      obtain rfl := Option.some.inj otherFound
      exact ⟨by simp [known.notFreed], joined, known.exited joined⟩
    · rw [State.goTo, List.getElem?_set_ne same] at otherFound
      refine exclusive.past j other otherFound ?_
      rw [current]
      exact fun no => same (Option.some.inj no)

theorem Exclusive.advance (exclusive : Exclusive state) {succeeds : Bool}
    (inTurn : InTurn state (.advance caller succeeds))
    (taken : state.advance caller succeeds = some next) : Exclusive next := by
  unfold InTurn at inTurn
  unfold State.advance at taken
  have stops := exclusive.stops caller
  have goesOn : ∀ (flag : Bool) (point : Point),
      (point.inStop → (state.points caller).inStop) →
      (∀ restarts, point ≠ .stopFree restarts) →
      (∀ restarts, state.points caller ≠ .stopFree restarts) →
      Exclusive ({ state with streamingFlag := flag }.goTo caller point) :=
    fun flag point stop => exclusive.goTo flag fun here => stops (stop here)
  cases here : state.points caller <;> simp only [here] at inTurn taken goesOn
  case idle => cases taken
  case startTest =>
    cases pointed : state.streamingThread with
    | some _ | none =>
        simp only [pointed, Option.some.injEq] at taken
        subst taken
        exact goesOn state.streamingFlag _ nofun nofun nofun
  case startAllocate =>
    cases succeeds <;> cases taken
    · exact goesOn state.streamingFlag _ nofun nofun nofun
    · exact goesOn state.streamingFlag _ nofun nofun nofun
  case startFlag =>
    cases taken
    exact goesOn true _ nofun nofun nofun
  case startCreate =>
    cases succeeds <;> cases taken
    · exact goesOn state.streamingFlag _ nofun nofun nofun
    · exact exclusive.create (inTurn rfl)
  case startFailed =>
    cases taken
    exact goesOn false _ nofun nofun nofun
  case stopTest restarts =>
    cases pointed : state.streamingThread with
    | none =>
        simp only [pointed, Option.some.injEq] at taken
        subst taken
        cases restarts
        · exact goesOn state.streamingFlag _ nofun nofun nofun
        · exact goesOn state.streamingFlag _ nofun nofun nofun
    | some i =>
        simp only [pointed, Option.some.injEq] at taken
        subst taken
        exact exclusive.goTo state.streamingFlag
          (fun _ => ⟨by simp [pointed], inTurn (by simp [pointed])⟩) nofun
          (by simp [here])
  case stopFlag restarts =>
    cases taken
    exact goesOn false _ (fun _ => trivial) nofun nofun
  case stopWait restarts attempts =>
    split at taken <;> cases taken
    · exact goesOn state.streamingFlag _ (fun _ => trivial) nofun nofun
    · exact goesOn state.streamingFlag _ (fun _ => trivial) nofun nofun
  case stopJoin restarts => exact exclusive.join here taken
  case stopFree restarts => exact exclusive.free here taken
  case restartFlag | restartStopped =>
    split at taken <;> cases taken
    · exact goesOn state.streamingFlag _ nofun nofun nofun
    · exact goesOn state.streamingFlag _ nofun nofun nofun
  case restartWait attempts =>
    split at taken
    · split at taken <;> cases taken
      · exact goesOn state.streamingFlag _ nofun nofun nofun
      · exact goesOn state.streamingFlag _ nofun nofun nofun
    · cases taken
      exact goesOn state.streamingFlag _ nofun nofun nofun

theorem Exclusive.step (exclusive : Exclusive state) {label : Label}
    (inTurn : InTurn state label) (taken : step state label = some next) :
    Exclusive next := by
  cases label with
  | call caller call =>
      simp only [StreamingThread.step] at taken
      split at taken
      · rename_i idle
        cases taken
        refine exclusive.goTo state.streamingFlag ?_ ?_ (by simp [idle])
        all_goals cases call <;> nofun
      · cases taken
  | advance caller succeeds => exact exclusive.advance inTurn taken
  | run i outcome => exact exclusive.runThread taken

theorem exclusive_initial : Exclusive {} where
  stops := nofun
  past := nofun
  current := nofun
  goodHandle := rfl

/-- In a run in which the callers take their turns there is at most one
streaming thread, and each is joined exactly once. -/
theorem oneThread_of_inTurn (labels : List Label)
    (inTurn : AllSteps step InTurn {} labels) :
    AllStates step OneThread {} labels := by
  have exclusive : AllStates step Exclusive {} labels :=
    allStates_of_allSteps (fun here meets taken => here.step meets taken)
      exclusive_initial inTurn
  exact exclusive.mono fun _ here => here.oneThread

def startControl : List Label :=
  .call .control .start :: List.replicate 4 (.advance .control true)

/-- The thread finds no signal, then the streaming flag cleared. -/
def finishThread : List Label :=
  [.run 0 .fails, .run 0 .fails, .run 0 .succeeds]

/-- The resolution changes while the video is streaming. -/
def formatChange : List Label :=
  startControl ++ [.run 0 .succeeds, .run 0 .succeeds] ++
    .call .formatDetection .restart ::
      List.replicate 3 (.advance .formatDetection true) ++ finishThread ++
    List.replicate 8 (.advance .formatDetection true)

theorem formatChange_oneThread : AllStates step OneThread {} formatChange :=
  oneThread_of_inTurn formatChange (by decide)

/-- The resolution changes while the quality is changed. -/
def overlappingRestarts : List Label :=
  startControl ++ [.run 0 .succeeds, .run 0 .succeeds] ++
    [.call .control .restart, .advance .control true, .advance .control true,
      .call .formatDetection .restart, .advance .formatDetection true,
      .advance .formatDetection true, .advance .formatDetection true,
      .advance .control true] ++ finishThread ++
    List.replicate 3 (.advance .control true) ++
    List.replicate 2 (.advance .formatDetection true)

/-- The second of two restarts joins a handle that the first has freed. -/
theorem overlappingRestarts_not_oneThread :
    ¬ ∀ labels : List Label, AllStates step OneThread {} labels := by
  intro claimed
  have ends : (exec step {} overlappingRestarts).map State.badHandle =
      some true := by decide
  obtain ⟨last, reaches, bad⟩ := Option.map_eq_some_iff.mp ends
  have good := ((claimed overlappingRestarts).last reaches).goodHandle.1
  rw [bad] at good
  cases good

end StreamingThread

end JetKvm
