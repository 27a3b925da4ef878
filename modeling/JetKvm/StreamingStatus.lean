import JetKvm.StreamingThread

/-!
# The streaming status

What `video_get_streaming_status` says once the streaming thread is gone, when
the calls that start and stop it are made one at a time.
-/

namespace JetKvm

namespace StreamingThread

open LabelledRuns
open VideoCapture (Thread)

/-- `video_get_streaming_status`: 0 is inactive, 1 active and 2 stopping. -/
def State.streamingStatus (state : State) : UInt8 :=
  if state.streamingFlag then 1
  else if state.streamingStopped then 0
  else 2

/-- `shouldWait` of `setSleepMode` in `internal/native/video.go` -/
def shouldWait (enabled : Bool) (status : UInt8) : Bool :=
  enabled && (status = 1 || status = 2)

/-- A call is made once the other caller is done. -/
def soloStep (state : State) : Label → Option State
  | .call caller call =>
      if state.points caller.other = .idle then step state (.call caller call)
      else none
  | label => step state label

/-- No streaming thread is alive or pointed to. -/
def Gone (state : State) : Prop :=
  state.streamingThread = none ∧
    ∀ handle ∈ state.threads, State.hasExited handle.thread = true

/-- The streaming flag is set for a thread that is about to be created. -/
def Point.starting : Point → Prop
  | .startCreate | .startFailed => True
  | _ => False

def Resting (state : State) : Prop :=
  ∀ caller, state.points caller = .idle

/-- A streaming thread that is gone is told to be, so that no restart and no
change of the sleep mode waits for it and a start creates another. -/
structure Truthful (state : State) : Prop where
  inactive : Gone state → (∀ caller, ¬ (state.points caller).starting) →
    state.streamingStatus = 0 ∧
      ∀ enabled, shouldWait enabled state.streamingStatus = false
  restarts : Gone state → Resting state → ∀ caller,
    exec soloStep state
        [.call caller .restart, .advance caller true, .advance caller true] =
      some state
  starts : Gone state → Resting state → ∀ caller, ∃ next,
    exec soloStep state
        (.call caller .start :: List.replicate 4 (.advance caller true)) =
      some next ∧ next.streamingThread = some state.threads.length ∧
      next.threads = state.threads ++ [({} : Handle)]

/-- A thread that is stopped has left its loop, and not by an early return. -/
def LeftItsLoop (state : State) : Label → Prop
  | .advance caller _ =>
      match state.points caller with
      | .stopFree _ => ∀ i handle, state.streamingThread = some i →
          state.threads[i]? = some handle → handle.thread.point = .exited false
      | _ => True
  | _ => True

/-- The caller has found no thread and not yet created one. -/
def Point.inStart : Point → Prop
  | .startAllocate | .startFlag | .startCreate | .startFailed => True
  | _ => False

/-- The caller has cleared the streaming flag for a thread it stops. -/
def Point.afterFlag : Point → Prop
  | .stopWait _ _ | .stopJoin _ | .stopFree _ => True
  | _ => False

/-- The flags agree with the thread, as long as no thread returned early. -/
structure Settled (state : State) : Prop where
  exclusive : Exclusive state
  solo : ∃ caller : Caller, state.points caller.other = .idle
  starts : ∀ caller, (state.points caller).inStart → state.streamingThread = none
  flag : state.streamingThread = none → state.streamingFlag = true →
    ∃ caller, (state.points caller).starting
  stops : ∀ caller, (state.points caller).afterFlag → state.streamingFlag = false
  stopped : state.streamingThread = none → state.streamingStopped = true
  follows : ∀ i handle, state.streamingThread = some i →
    state.threads[i]? = some handle →
      (state.streamingStopped = true ↔
        handle.thread.point = .setStopped ∨ handle.thread.point = .exited false)

variable {state next : State} {caller : Caller}

theorem Settled.streamingStatus (settled : Settled state) (gone : Gone state)
    (notStarting : ∀ caller, ¬ (state.points caller).starting) :
    state.streamingStatus = 0 := by
  have off : state.streamingFlag = false := by
    rw [← Bool.not_eq_true]
    intro on
    obtain ⟨caller, starting⟩ := settled.flag gone.1 on
    exact notStarting caller starting
  have stopped := settled.stopped gone.1
  simp [State.streamingStatus, off, stopped]

/-- A status of 0 tells both flags. -/
theorem flags_of_inactive (inactive : state.streamingStatus = 0) :
    state.streamingFlag = false ∧ state.streamingStopped = true := by
  unfold State.streamingStatus at inactive
  cases flag : state.streamingFlag <;> cases stopped : state.streamingStopped <;>
    simp_all

theorem exec_restart_of_inactive (resting : Resting state)
    (inactive : state.streamingStatus = 0) (caller : Caller) :
    exec soloStep state
        [.call caller .restart, .advance caller true, .advance caller true] =
      some state := by
  obtain ⟨flag, stopped⟩ := flags_of_inactive inactive
  have called : soloStep state (.call caller .restart) =
      some (state.goTo caller .restartFlag) := by
    simp [soloStep, step, resting caller, resting caller.other, firstPoint]
  have first : soloStep (state.goTo caller .restartFlag) (.advance caller true) =
      some (state.goTo caller .restartStopped) := by
    simp [soloStep, step, State.advance, flag]
  have second : soloStep (state.goTo caller .restartStopped)
      (.advance caller true) = some state := by
    simp [soloStep, step, State.advance, stopped, goTo_self (resting caller)]
  rw [exec_cons_of_step _ called, exec_cons_of_step _ first,
    exec_cons_of_step _ second]
  rfl

theorem exec_start_of_none (resting : Resting state)
    (none : state.streamingThread = none) (caller : Caller) :
    exec soloStep state
        (.call caller .start :: List.replicate 4 (.advance caller true)) =
      some ({ state with
        streamingFlag := true
        streamingThread := some state.threads.length
        threads := state.threads ++ [({} : Handle)] }.goTo caller .idle) := by
  have called : soloStep state (.call caller .start) =
      some (state.goTo caller .startTest) := by
    simp [soloStep, step, resting caller, resting caller.other, firstPoint]
  have tested : soloStep (state.goTo caller .startTest) (.advance caller true) =
      some (state.goTo caller .startAllocate) := by
    simp [soloStep, step, State.advance, none]
  have allocated : soloStep (state.goTo caller .startAllocate)
      (.advance caller true) = some (state.goTo caller .startFlag) := by
    simp [soloStep, step, State.advance]
  have flagged : soloStep (state.goTo caller .startFlag) (.advance caller true) =
      some ({ state with streamingFlag := true }.goTo caller .startCreate) := by
    simp [soloStep, step, State.advance, State.goTo]
  have created : soloStep ({ state with streamingFlag := true }.goTo caller
      .startCreate) (.advance caller true) =
      some ({ state with
        streamingFlag := true
        streamingThread := some state.threads.length
        threads := state.threads ++ [({} : Handle)] }.goTo caller .idle) := by
    simp [soloStep, step, State.advance, State.goTo]
  simp only [List.replicate]
  rw [exec_cons_of_step _ called, exec_cons_of_step _ tested,
    exec_cons_of_step _ allocated, exec_cons_of_step _ flagged,
    exec_cons_of_step _ created]
  rfl

theorem not_starting_of_resting (resting : Resting state) (caller : Caller) :
    ¬ (state.points caller).starting := by
  rw [resting caller]
  exact id

theorem Settled.truthful (settled : Settled state) : Truthful state where
  inactive := by
    intro gone notStarting
    have status := settled.streamingStatus gone notStarting
    exact ⟨status, fun enabled => by simp [status, shouldWait]⟩
  restarts := by
    intro gone resting
    exact exec_restart_of_inactive resting
      (settled.streamingStatus gone (not_starting_of_resting resting))
  starts := by
    intro gone resting caller
    exact ⟨_, exec_start_of_none resting gone.1 caller, rfl, rfl⟩

/-! ### What a step keeps -/

/-- Only its first and its last step change what a thread says of itself. -/
theorem point_cases {thread later : Thread} {outcome : VideoCapture.Outcome}
    (taken : thread.step outcome = some later) :
    (thread.point = .setStopped ∧ later.point = .loop) ∨
      (thread.point = .finish ∧ later.point = .exited false) ∨
      ((∀ state : State, state.stoppedAfter thread = state.streamingStopped) ∧
        thread.point ≠ .setStopped ∧ thread.point ≠ .exited false ∧
        later.point ≠ .setStopped ∧ later.point ≠ .exited false) := by
  have alive := not_exited_of_step taken
  by_cases first : thread.point = .setStopped
  · left
    unfold Thread.step at taken
    rw [first] at taken
    cases outcome <;> cases taken
    exact ⟨first, rfl⟩
  by_cases last : thread.point = .finish
  · right; left
    unfold Thread.step at taken
    rw [last] at taken
    cases outcome <;> cases taken
    exact ⟨last, rfl⟩
  · right; right
    have between := Thread.between_of_step taken first last
    refine ⟨fun state => ?_, first, ?_, between⟩
    · unfold State.stoppedAfter
      split <;> simp_all
    · intro exited
      simp [State.hasExited, exited] at alive

/-- The other caller is resting while one moves. -/
theorem Settled.goTo (settled : Settled state) {flag : Bool} {point : Point}
    (exclusive : Exclusive ({ state with streamingFlag := flag }.goTo caller point))
    (alone : state.points caller.other = .idle)
    (starts : point.inStart → state.streamingThread = none)
    (starting : state.streamingThread = none → flag = true → point.starting)
    (stops : point.afterFlag → flag = false) :
    Settled ({ state with streamingFlag := flag }.goTo caller point) where
  exclusive := exclusive
  solo := ⟨caller, by simpa using alone⟩
  starts := by
    intro one inStart
    rcases eq_or_eq_other one caller with rfl | rfl
    · rw [points_goTo_self] at inStart
      exact starts inStart
    · rw [points_goTo_other, alone] at inStart
      cases inStart
  flag := by
    intro none on
    exact ⟨caller, by simpa using starting none on⟩
  stops := by
    intro one afterFlag
    rcases eq_or_eq_other one caller with rfl | rfl
    · rw [points_goTo_self] at afterFlag
      exact stops afterFlag
    · rw [points_goTo_other, alone] at afterFlag
      cases afterFlag
  stopped := settled.stopped
  follows := settled.follows

theorem Settled.runThread (settled : Settled state) {i : Nat}
    {outcome : VideoCapture.Outcome}
    (taken : state.runThread i outcome = some next) : Settled next := by
  have exclusive := settled.exclusive.runThread taken
  unfold State.runThread at taken
  cases found : state.threads[i]? with
  | none => simp [found] at taken
  | some handle =>
      simp only [found] at taken
      split at taken
      · cases stepped : handle.thread.step outcome with
        | none => simp [stepped] at taken
        | some later =>
            simp only [stepped, Option.some.injEq] at taken
            subst taken
            have isCurrent : state.streamingThread = some i := by
              by_contra notCurrent
              have past := settled.exclusive.past i handle found notCurrent
              have alive := not_exited_of_step stepped
              rw [past.exited] at alive
              cases alive
            have small : i < state.threads.length :=
              (List.getElem?_eq_some_iff.mp found).1
            have some : ∀ {property : Prop},
                state.streamingThread = none → property := by
              intro property none
              rw [isCurrent] at none
              cases none
            refine ⟨exclusive, settled.solo, settled.starts, some, settled.stops,
              some, ?_⟩
            intro j other current otherFound
            obtain rfl := Option.some.inj (isCurrent.symm.trans current)
            rw [List.getElem?_set_self small] at otherFound
            obtain rfl := Option.some.inj otherFound
            have before := settled.follows i handle isCurrent found
            rcases point_cases stepped with ⟨was, is⟩ | ⟨was, is⟩ | ⟨same, was⟩
            · simp [State.stoppedAfter, was, is]
            · simp [State.stoppedAfter, was, is]
            · simpa [same, was] using before
      · cases taken

/-- Whoever makes a step, the other caller is resting. -/
theorem Settled.alone (settled : Settled state)
    (busy : state.points caller ≠ .idle) : state.points caller.other = .idle := by
  obtain ⟨one, idle⟩ := settled.solo
  rcases eq_or_eq_other one caller with rfl | rfl
  · exact idle
  · rw [other_other] at idle
    exact absurd idle busy

theorem Settled.inTurn (settled : Settled state) (succeeds : Bool) :
    InTurn state (.advance caller succeeds) := by
  simp only [InTurn]
  split
  · rename_i here
    exact fun _ => settled.starts caller (by rw [here]; trivial)
  · rename_i here
    rw [settled.alone (by simp [here])]
    exact fun _ => id
  · trivial

/-- A caller that has not set the flag for a new thread goes on. -/
theorem Settled.move (settled : Settled state) {point : Point}
    (exclusive : Exclusive (state.goTo caller point))
    (busy : state.points caller ≠ .idle)
    (notStarting : ¬ (state.points caller).starting)
    (starts : point.inStart → state.streamingThread = none)
    (stops : point.afterFlag → state.streamingFlag = false) :
    Settled (state.goTo caller point) := by
  have alone := settled.alone busy
  refine @Settled.goTo state caller settled state.streamingFlag point exclusive
    alone starts ?_ stops
  intro none on
  obtain ⟨one, starting⟩ := settled.flag none on
  rcases eq_or_eq_other one caller with rfl | rfl
  · exact absurd starting notStarting
  · rw [alone] at starting
    cases starting

theorem Settled.create (settled : Settled state)
    (none : state.streamingThread = none)
    (alone : state.points caller.other = .idle)
    (exclusive : Exclusive ({ state with
      streamingThread := some state.threads.length
      threads := state.threads ++ [({} : Handle)] }.goTo caller .idle)) :
    Settled ({ state with
      streamingThread := some state.threads.length
      threads := state.threads ++ [({} : Handle)] }.goTo caller .idle) := by
  have resting : ∀ one, ({ state with
      streamingThread := some state.threads.length
      threads := state.threads ++ [({} : Handle)] }.goTo caller .idle).points one =
        .idle := by
    intro one
    rcases eq_or_eq_other one caller with rfl | rfl
    · rw [points_goTo_self]
    · rw [points_goTo_other]
      exact alone
  refine ⟨exclusive, ⟨caller, resting _⟩, ?_, nofun, ?_, nofun, ?_⟩
  · intro one inStart
    rw [resting one] at inStart
    cases inStart
  · intro one afterFlag
    rw [resting one] at afterFlag
    cases afterFlag
  · intro i handle current found
    obtain rfl := Option.some.inj current
    obtain rfl : ({} : Handle) = handle := by simpa [State.goTo] using found
    exact iff_of_true (settled.stopped none) (Or.inl rfl)

theorem Settled.join (settled : Settled state) {restarts : Bool}
    (here : state.points caller = .stopJoin restarts)
    (taken : state.join caller restarts = some next) : Settled next := by
  have exclusive := settled.exclusive.join here taken
  have alone := settled.alone (show state.points caller ≠ .idle by simp [here])
  have off := settled.stops caller (by rw [here]; trivial)
  have pointed := (settled.exclusive.stops caller (by rw [here]; trivial)).1
  obtain ⟨i, current⟩ := Option.ne_none_iff_exists'.mp pointed
  obtain ⟨handle, found, known⟩ := settled.exclusive.current i current
  have small : i < state.threads.length := (List.getElem?_eq_some_iff.mp found).1
  unfold State.join at taken
  simp only [current, found] at taken
  split at taken
  · cases taken
    refine ⟨exclusive, ⟨caller, by simpa using alone⟩, ?_, nofun, ?_, nofun, ?_⟩
    · intro one inStart
      rcases eq_or_eq_other one caller with rfl | rfl
      · rw [points_goTo_self] at inStart
        cases inStart
      · rw [points_goTo_other] at inStart
        exact absurd (settled.starts _ inStart) pointed
    · exact fun _ _ => off
    · intro j other otherCurrent otherFound
      obtain rfl := Option.some.inj otherCurrent
      rw [State.goTo, List.getElem?_set_self small] at otherFound
      obtain rfl := Option.some.inj otherFound
      exact settled.follows i handle current found
  · cases taken

/-- The handle that is freed, and the thread it was of. -/
theorem Settled.free_cases (settled : Settled state) {restarts : Bool}
    (here : state.points caller = .stopFree restarts)
    (taken : state.free caller restarts = some next) :
    ∃ i handle, state.streamingThread = some i ∧
      state.threads[i]? = some handle ∧
      State.hasExited handle.thread = true ∧
      next = { state with
        streamingThread := none
        threads := state.threads.set i { handle with freed := handle.freed + 1 }
        badHandle := state.badHandle || handle.freed ≠ 0 }.goTo caller
          (State.afterStop restarts) := by
  have pointed := (settled.exclusive.stops caller (by rw [here]; trivial)).1
  obtain ⟨i, current⟩ := Option.ne_none_iff_exists'.mp pointed
  obtain ⟨handle, found, known⟩ := settled.exclusive.current i current
  have joined : handle.joined = 1 := known.joined.mpr ⟨caller, restarts, here⟩
  unfold State.free at taken
  simp only [current, found, Option.some.injEq] at taken
  exact ⟨i, handle, current, found, known.exited joined, taken.symm⟩

theorem Settled.free (settled : Settled state) {restarts : Bool}
    (here : state.points caller = .stopFree restarts)
    (left : LeftItsLoop state (.advance caller true))
    (taken : state.free caller restarts = some next) : Settled next := by
  have exclusive := settled.exclusive.free here taken
  have alone := settled.alone (show state.points caller ≠ .idle by simp [here])
  have off := settled.stops caller (by rw [here]; trivial)
  obtain ⟨i, handle, current, found, -, rfl⟩ := settled.free_cases here taken
  simp only [LeftItsLoop, here] at left
  have stopped := (settled.follows i handle current found).mpr
    (Or.inr (left i handle current found))
  refine ⟨exclusive, ⟨caller, by simpa using alone⟩, ?_, ?_, ?_, fun _ => stopped,
    fun i _ started => absurd started (Option.some_ne_none i).symm⟩
  · intro one inStart
    rcases eq_or_eq_other one caller with rfl | rfl
    · rw [points_goTo_self] at inStart
      cases restarts <;> cases inStart
    · rw [points_goTo_other, alone] at inStart
      cases inStart
  · intro _ on
    exact absurd (off.symm.trans on) (by decide)
  · exact fun _ _ => off

theorem Settled.advance (settled : Settled state) {succeeds : Bool}
    (left : LeftItsLoop state (.advance caller succeeds))
    (taken : state.advance caller succeeds = some next) : Settled next := by
  have exclusive := settled.exclusive.advance (settled.inTurn succeeds) taken
  have alone : state.points caller ≠ .idle → state.points caller.other = .idle :=
    settled.alone
  have starts := settled.starts caller
  have stops := settled.stops caller
  have move : ∀ point, Exclusive (state.goTo caller point) →
      state.points caller ≠ .idle → ¬ (state.points caller).starting →
      (point.inStart → state.streamingThread = none) →
      (point.afterFlag → state.streamingFlag = false) →
      Settled (state.goTo caller point) :=
    fun point exclusive => settled.move exclusive
  unfold State.advance at taken
  cases here : state.points caller <;> simp only [here] at taken starts stops move alone
  case idle => cases taken
  case startTest =>
    cases pointed : state.streamingThread with
    | some i =>
        simp only [pointed, Option.some.injEq] at taken
        subst taken
        exact move _ exclusive nofun id nofun nofun
    | none =>
        simp only [pointed, Option.some.injEq] at taken
        subst taken
        exact move _ exclusive nofun id (fun _ => pointed) nofun
  case startAllocate =>
    cases succeeds <;> cases taken
    · exact move _ exclusive nofun id nofun nofun
    · exact move _ exclusive nofun id starts nofun
  case startFlag =>
    cases taken
    exact settled.goTo exclusive (alone nofun) (fun _ => starts trivial)
      (fun _ _ => trivial) nofun
  case startCreate =>
    cases succeeds <;> cases taken
    · exact settled.goTo exclusive (alone nofun) (fun _ => starts trivial)
        (fun _ _ => trivial) nofun
    · exact settled.create (starts trivial) (alone nofun) exclusive
  case startFailed =>
    cases taken
    exact settled.goTo exclusive (alone nofun) nofun nofun nofun
  case stopTest restarts =>
    cases pointed : state.streamingThread with
    | none =>
        simp only [pointed, Option.some.injEq] at taken
        subst taken
        cases restarts
        · exact move _ exclusive nofun id nofun nofun
        · exact move _ exclusive nofun id nofun nofun
    | some i =>
        simp only [pointed, Option.some.injEq] at taken
        subst taken
        exact move _ exclusive nofun id nofun nofun
  case stopFlag restarts =>
    cases taken
    exact settled.goTo exclusive (alone nofun) nofun nofun (fun _ => rfl)
  case stopWait restarts attempts =>
    split at taken <;> cases taken
    · exact move _ exclusive nofun id nofun stops
    · exact move _ exclusive nofun id nofun stops
  case stopJoin restarts => exact settled.join here taken
  case stopFree restarts => exact settled.free here left taken
  case restartFlag | restartStopped =>
    split at taken <;> cases taken
    · exact move _ exclusive nofun id nofun nofun
    · exact move _ exclusive nofun id nofun nofun
  case restartWait attempts =>
    split at taken
    · split at taken <;> cases taken
      · exact move _ exclusive nofun id nofun nofun
      · exact move _ exclusive nofun id nofun nofun
    · cases taken
      exact move _ exclusive nofun id nofun nofun

theorem Settled.step (settled : Settled state) {label : Label}
    (left : LeftItsLoop state label) (taken : soloStep state label = some next) :
    Settled next := by
  cases label with
  | call caller call =>
      simp only [soloStep, StreamingThread.step] at taken
      split at taken
      · rename_i alone
        split at taken
        · rename_i idle
          cases taken
          have exclusive : Exclusive (state.goTo caller (firstPoint call)) := by
            refine settled.exclusive.goTo state.streamingFlag ?_ ?_ (by simp [idle])
            · cases call <;> rintro ⟨⟩
            · intro restarts same
              cases call <;> cases same
          refine @Settled.goTo state caller settled state.streamingFlag _ exclusive
            alone ?_ ?_ ?_
          · cases call <;> rintro ⟨⟩
          · intro none on
            obtain ⟨one, starting⟩ := settled.flag none on
            rcases eq_or_eq_other one caller with rfl | rfl
            · rw [idle] at starting
              cases starting
            · rw [alone] at starting
              cases starting
          · cases call <;> rintro ⟨⟩
        · cases taken
      · cases taken
  | advance caller succeeds => exact settled.advance left taken
  | run i outcome => exact settled.runThread taken

theorem exists_exited {thread : Thread} (exited : State.hasExited thread = true) :
    ∃ early, thread.point = .exited early := by
  unfold State.hasExited at exited
  split at exited
  · exact ⟨_, ‹_›⟩
  · cases exited

/-- A thread that returned early leaves the status at stopping. -/
theorem Settled.leftItsLoop (settled : Settled state) {label : Label}
    (taken : soloStep state label = some next) (truthful : Truthful next) :
    LeftItsLoop state label := by
  unfold LeftItsLoop
  split
  swap
  · trivial
  rename_i caller succeeds
  split
  swap
  · trivial
  rename_i restarts here
  have alone := settled.alone (show state.points caller ≠ .idle by simp [here])
  have off := settled.stops caller (by rw [here]; trivial)
  have freed : state.free caller restarts = some next := by
    simpa [soloStep, StreamingThread.step, State.advance, here] using taken
  obtain ⟨i, handle, current, found, exited, rfl⟩ := settled.free_cases here freed
  intro j other otherCurrent otherFound
  obtain rfl := Option.some.inj (current.symm.trans otherCurrent)
  obtain rfl := Option.some.inj (found.symm.trans otherFound)
  have follows := settled.follows i handle current found
  obtain ⟨early, point⟩ := exists_exited exited
  by_contra notLeft
  have notStopped : state.streamingStopped = false := by
    rw [← Bool.not_eq_true, follows, point]
    simpa [point] using notLeft
  have small : i < state.threads.length := (List.getElem?_eq_some_iff.mp found).1
  have status := (truthful.inactive ⟨rfl, ?_⟩ ?_).1
  · simp [State.streamingStatus, State.goTo, off, notStopped] at status
  · intro other member
    obtain ⟨k, otherFound⟩ := List.mem_iff_getElem?.mp member
    by_cases same : i = k
    · subst same
      rw [State.goTo, List.getElem?_set_self small] at otherFound
      obtain rfl := Option.some.inj otherFound
      exact exited
    · rw [State.goTo, List.getElem?_set_ne same] at otherFound
      refine (settled.exclusive.past k other otherFound ?_).exited
      rw [current]
      exact fun no => same (Option.some.inj no)
  · intro one
    rcases eq_or_eq_other one caller with rfl | rfl
    · rw [points_goTo_self]
      cases restarts <;> exact id
    · rw [points_goTo_other, alone]
      exact id

theorem settled_initial : Settled {} where
  exclusive := exclusive_initial
  solo := ⟨.control, rfl⟩
  starts := nofun
  flag := nofun
  stops := nofun
  stopped := fun _ => rfl
  follows := nofun

/-- With calls made one at a time, the status tells whenever no streaming thread
is left if and only if no thread that is stopped has returned early. -/
theorem truthful_iff_leftItsLoop (labels : List Label) :
    AllStates soloStep Truthful {} labels ↔
      AllSteps soloStep LeftItsLoop {} labels :=
  allStates_iff_allSteps (fun settled => settled.truthful)
    (fun settled left taken => settled.step left taken)
    (fun settled taken truthful => settled.leftItsLoop taken truthful)
    settled_initial labels

/-- The buffers cannot be requested; then the streaming is stopped, which waits
for all its attempts. -/
def requestBuffersFails : List Label :=
  startControl ++ List.replicate 5 (.run 0 .succeeds) ++ [.run 0 .fails] ++
    .call .control .stop :: List.replicate (maxAttempts + 5) (.advance .control true)

/-- The thread is gone and its status is that it is stopping. -/
theorem requestBuffersFails_not_truthful :
    ¬ ∀ labels : List Label, AllStates soloStep Truthful {} labels := by
  intro claimed
  have ends : (exec soloStep {} requestBuffersFails).map (fun state =>
      (state.streamingStatus, state.streamingThread,
        state.threads.all fun handle => State.hasExited handle.thread,
        state.points .control, state.points .formatDetection)) =
      some (2, none, true, .idle, .idle) := by decide
  obtain ⟨last, reaches, known⟩ := Option.map_eq_some_iff.mp ends
  simp only [Prod.mk.injEq, List.all_eq_true] at known
  obtain ⟨status, none, exited, control, formatDetection⟩ := known
  have truthful := (claimed requestBuffersFails).last reaches
  have inactive := (truthful.inactive ⟨none, exited⟩ ?_).1
  · rw [status] at inactive
    cases inactive
  · intro caller
    cases caller
    · rw [control]
      exact id
    · rw [formatDetection]
      exact id

end StreamingThread

end JetKvm
