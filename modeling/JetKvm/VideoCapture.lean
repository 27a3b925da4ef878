import JetKvm.LabelledRuns
import Mathlib.Data.List.Range

/-!
# The capture loop of the video thread

Translation of `run_video_stream` of `internal/native/cgo/video.c`, with
`venc_start` and `venc_stop`: one step for each call whose outcome matters, and
what the thread has taken and not yet given back.
-/

namespace JetKvm

namespace VideoCapture

open LabelledRuns

/-- `input_buffer_count` -/
def inputBufferCount : Nat := 3

/-- What the thread does next.  An early exit is one of the returns in the
middle of the outer loop. -/
inductive Point where
  | setStopped
  | loop
  | detect
  | openDevice
  | setFormat
  | requestBuffers
  | queryBuffer (i : Nat)
  | getBlock (i : Nat)
  | blockFd (i : Nat)
  | queueBuffer (i : Nat)
  | streamOn
  | createChannel
  | startReceiving
  | createReader
  | capture
  | select
  | dequeue
  | findBlock
  | sendFrame (retried : Bool)
  | requeue
  | streamOff
  | freeBuffers
  | stopReceiving
  | joinReader
  | destroyChannel
  | releaseBlock (i : Nat)
  | closeDevice
  | finish
  | exited (early : Bool)
  deriving DecidableEq, Repr

/-- How a call ends; a test that holds succeeds.  Only `select` knows the other
two. -/
inductive Outcome where
  | succeeds
  | fails
  | timesOut
  | interrupted
  deriving DecidableEq, Repr

/-- `blocks` are the buffers of this iteration whose block was not released,
`leaked` counts the blocks that no buffer refers to any more.  `vencReadThread`
tells of an allocated handle whether the thread was created. -/
structure Thread where
  point : Point := .setStopped
  deviceOpen : Bool := false
  blocks : List Nat := []
  leaked : Nat := 0
  channel : Bool := false
  vencReadThread : Option Bool := none
  deriving DecidableEq, Repr

namespace Thread

/-- `close(video_dev_fd)` at the end of an iteration, with the buffers going
out of scope -/
def close (thread : Thread) (point : Point) : Thread :=
  { thread with
    point := point
    deviceOpen := false
    blocks := []
    leaked := thread.leaked + thread.blocks.length }

/-- `return (void *)errno` -/
def giveUp (thread : Thread) : Thread :=
  thread.close (.exited true)

def goTo (thread : Thread) (point : Point) : Thread :=
  { thread with point := point }

/-- The next round of a loop over the buffers, or what comes after it. -/
def nextBuffer (round : Nat → Point) (i : Nat) (after : Point) : Point :=
  if i + 1 < inputBufferCount then round (i + 1) else after

/-- A failed assertion and a join of a thread that was never created have no
next step. -/
def step (thread : Thread) (outcome : Outcome) : Option Thread :=
  match thread.point, outcome with
  | .setStopped, .succeeds => some (thread.goTo .loop)
  | .loop, .succeeds => some (thread.goTo .detect)
  | .loop, .fails => some (thread.goTo .finish)
  | .detect, .succeeds => some (thread.goTo .openDevice)
  | .detect, .fails => some (thread.goTo .loop)
  | .openDevice, .succeeds =>
      some { thread with point := .setFormat, deviceOpen := true }
  | .openDevice, .fails => some (thread.goTo .loop)
  | .setFormat, .succeeds => some (thread.goTo .requestBuffers)
  | .setFormat, .fails => some (thread.close .loop)
  | .requestBuffers, .succeeds => some (thread.goTo (.queryBuffer 0))
  | .requestBuffers, .fails => some thread.giveUp
  | .queryBuffer i, .succeeds => some (thread.goTo (.getBlock i))
  | .queryBuffer _, .fails => some thread.giveUp
  | .getBlock i, .succeeds =>
      some { thread with point := .blockFd i, blocks := thread.blocks ++ [i] }
  | .getBlock _, .fails => some thread.giveUp
  | .blockFd i, .succeeds =>
      some (thread.goTo (nextBuffer .queryBuffer i (.queueBuffer 0)))
  | .blockFd _, .fails => some thread.giveUp
  | .queueBuffer i, .succeeds =>
      some (thread.goTo (nextBuffer .queueBuffer i .streamOn))
  | .queueBuffer _, .fails => some thread.giveUp
  | .streamOn, .succeeds => some (thread.goTo .createChannel)
  | .streamOn, .fails => some thread.giveUp
  -- `venc_start`
  | .createChannel, .succeeds =>
      some { thread with point := .startReceiving, channel := true }
  | .createChannel, .fails => some (thread.goTo .streamOff)
  | .startReceiving, .succeeds => some (thread.goTo .createReader)
  | .startReceiving, .fails => some (thread.goTo .streamOff)
  | .createReader, .succeeds =>
      some { thread with point := .capture, vencReadThread := some true }
  | .createReader, .fails =>
      some { thread with point := .streamOff, vencReadThread := some false }
  -- `while (streaming_flag)`, for each frame
  | .capture, .succeeds => some (thread.goTo .select)
  | .capture, .fails => some (thread.goTo .streamOff)
  | .select, .succeeds => some (thread.goTo .dequeue)
  | .select, .interrupted => some (thread.goTo .capture)
  | .select, .timesOut => some (thread.goTo .streamOff)
  | .select, .fails => some (thread.goTo .streamOff)
  | .dequeue, .succeeds => some (thread.goTo .findBlock)
  | .dequeue, .fails => some (thread.goTo .streamOff)
  | .findBlock, .succeeds => some (thread.goTo (.sendFrame false))
  | .sendFrame _, .succeeds => some (thread.goTo .requeue)
  | .sendFrame false, .fails => some (thread.goTo (.sendFrame true))
  | .sendFrame true, .fails => some (thread.goTo .requeue)
  | .requeue, .succeeds => some (thread.goTo .capture)
  | .requeue, .fails => some (thread.goTo .capture)
  -- `cleanup`
  | .streamOff, .succeeds => some (thread.goTo .freeBuffers)
  | .streamOff, .fails => some (thread.goTo .freeBuffers)
  | .freeBuffers, .succeeds => some (thread.goTo .stopReceiving)
  | .freeBuffers, .fails => some (thread.goTo .stopReceiving)
  -- `venc_stop`
  | .stopReceiving, .succeeds => some (thread.goTo .joinReader)
  | .stopReceiving, .fails => some (thread.goTo (.releaseBlock 0))
  | .joinReader, .succeeds =>
      if thread.vencReadThread = some false then none
      else some
        { thread with point := .destroyChannel, vencReadThread := none }
  | .destroyChannel, .succeeds =>
      some { thread with point := .releaseBlock 0, channel := false }
  | .destroyChannel, .fails => some (thread.goTo (.releaseBlock 0))
  | .releaseBlock i, .succeeds =>
      some { thread with
        point := nextBuffer .releaseBlock i .closeDevice
        blocks := thread.blocks.erase i }
  | .releaseBlock i, .fails =>
      some (thread.goTo (nextBuffer .releaseBlock i .closeDevice))
  | .closeDevice, .succeeds => some (thread.close .loop)
  | .finish, .succeeds => some (thread.goTo (.exited false))
  | _, _ => none

/-- The iteration before or the thread has ended. -/
def Ended (thread : Thread) : Prop :=
  match thread.point with
  | .loop | .finish | .exited _ => True
  | _ => False

instance (thread : Thread) : Decidable thread.Ended := by
  unfold Ended
  split <;> infer_instance

/-- What was taken is given back. -/
structure Released (thread : Thread) : Prop where
  closed : thread.deviceOpen = false
  noBlocks : thread.blocks = [] ∧ thread.leaked = 0
  noChannel : thread.channel = false

theorem released_iff {thread : Thread} : thread.Released ↔ thread.deviceOpen = false ∧
    (thread.blocks = [] ∧ thread.leaked = 0) ∧ thread.channel = false :=
  ⟨fun ⟨closed, noBlocks, noChannel⟩ => ⟨closed, noBlocks, noChannel⟩,
    fun ⟨closed, noBlocks, noChannel⟩ => ⟨closed, noBlocks, noChannel⟩⟩

instance (thread : Thread) : Decidable thread.Released :=
  decidable_of_iff _ released_iff.symm

/-- A failed call after which something stays taken. -/
def Leaks (thread : Thread) (outcome : Outcome) : Prop :=
  match thread.point, outcome with
  | .queryBuffer _, .fails | .getBlock _, .fails | .blockFd _, .fails
  | .queueBuffer _, .fails | .streamOn, .fails => thread.blocks ≠ []
  | .stopReceiving, .fails | .destroyChannel, .fails => thread.channel = true
  | .releaseBlock i, .fails => i ∈ thread.blocks
  | _, _ => False

instance (thread : Thread) (outcome : Outcome) :
    Decidable (thread.Leaks outcome) := by
  unfold Leaks
  split <;> infer_instance

/-- What is taken at each point, if everything that went before was given
back. -/
def Tidy (thread : Thread) : Prop :=
  thread.leaked = 0 ∧
    match thread.point with
    | .setFormat | .requestBuffers =>
        thread.blocks = [] ∧ thread.channel = false
    | .queryBuffer i | .getBlock i =>
        i < inputBufferCount ∧ thread.blocks = List.range i ∧
          thread.channel = false
    | .blockFd i =>
        i < inputBufferCount ∧ thread.blocks = List.range (i + 1) ∧
          thread.channel = false
    | .queueBuffer _ | .streamOn | .createChannel =>
        thread.blocks = List.range inputBufferCount ∧ thread.channel = false
    | .startReceiving | .createReader | .capture | .select | .dequeue
    | .findBlock | .sendFrame _ | .requeue | .streamOff | .freeBuffers
    | .stopReceiving | .joinReader | .destroyChannel =>
        thread.blocks = List.range inputBufferCount
    | .releaseBlock i =>
        i < inputBufferCount ∧
          thread.blocks = (List.range inputBufferCount).drop i ∧
          thread.channel = false
    | .closeDevice => thread.blocks = [] ∧ thread.channel = false
    | _ => thread.Released

/-- Something stays taken although the call that gives it back has gone by. -/
def Doomed (thread : Thread) : Prop :=
  thread.leaked ≠ 0 ∨
    match thread.point with
    | .releaseBlock i => thread.channel = true ∨ ∃ j ∈ thread.blocks, j < i
    | .closeDevice => thread.channel = true ∨ thread.blocks ≠ []
    | .loop | .exited _ => thread.channel = true
    | _ => False

variable {thread next : Thread} {outcome : Outcome}

theorem erase_drop_range {i : Nat} (small : i < inputBufferCount) :
    ((List.range inputBufferCount).drop i).erase i =
      (List.range inputBufferCount).drop (i + 1) := by
  rw [List.drop_eq_getElem_cons (by simpa using small)]
  simp

theorem nextBuffer_cases (round : Nat → Point) (i : Nat) (after : Point) :
    (i + 1 < inputBufferCount ∧ nextBuffer round i after = round (i + 1)) ∨
      (¬ i + 1 < inputBufferCount ∧ nextBuffer round i after = after) := by
  unfold nextBuffer
  split <;> simp [*]

theorem Tidy.released (tidy : thread.Tidy) (ended : thread.Ended) :
    thread.Released := by
  obtain ⟨leaked, here⟩ := tidy
  unfold Ended at ended
  cases point : thread.point <;> simp_all

/-- A step after which nothing stays taken. -/
theorem tidy_step (tidy : thread.Tidy) (fine : ¬ thread.Leaks outcome)
    (taken : thread.step outcome = some next) : next.Tidy := by
  obtain ⟨leaked, here⟩ := tidy
  obtain ⟨point, deviceOpen, blocks, leakedBlocks, channel, reader⟩ := thread
  cases point <;> cases outcome
  case sendFrame.fails retried =>
    cases retried <;> cases taken <;> exact ⟨leaked, here⟩
  case joinReader.succeeds =>
    unfold step at taken
    dsimp only at taken
    split at taken
    · cases taken
    · cases taken
      exact ⟨leaked, here⟩
  all_goals cases taken
  all_goals simp only [Leaks] at fine
  all_goals simp only [Tidy, released_iff, goTo, giveUp, close]
    at leaked here ⊢
  case getBlock.succeeds i =>
    obtain ⟨small, same, noChannel⟩ := here
    exact ⟨leaked, small, by rw [same, List.range_succ], noChannel⟩
  case blockFd.succeeds i =>
    obtain ⟨small, same, noChannel⟩ := here
    refine ⟨leaked, ?_⟩
    rcases nextBuffer_cases .queryBuffer i (.queueBuffer 0) with
      ⟨more, goes⟩ | ⟨last, goes⟩
    · rw [goes]
      exact ⟨more, same, noChannel⟩
    · have all : i + 1 = inputBufferCount := by omega
      rw [goes, ← all]
      exact ⟨same, noChannel⟩
  case queueBuffer.succeeds i =>
    refine ⟨leaked, ?_⟩
    rcases nextBuffer_cases .queueBuffer i .streamOn with
      ⟨more, goes⟩ | ⟨last, goes⟩
    · rw [goes]
      exact here
    · rw [goes]
      exact here
  case releaseBlock.succeeds i =>
    obtain ⟨small, same, noChannel⟩ := here
    refine ⟨leaked, ?_⟩
    rw [same, erase_drop_range small]
    rcases nextBuffer_cases .releaseBlock i .closeDevice with
      ⟨more, goes⟩ | ⟨last, goes⟩
    · rw [goes]
      exact ⟨more, rfl, noChannel⟩
    · rw [goes]
      exact ⟨List.drop_eq_nil_of_le (by simpa using last), noChannel⟩
  case releaseBlock.fails i =>
    -- The block of each buffer is there to be released.
    obtain ⟨small, same, noChannel⟩ := here
    refine absurd ?_ fine
    rw [same, List.drop_eq_getElem_cons (by simpa using small)]
    simp
  all_goals simp_all [inputBufferCount]

theorem doomed_of_leaks (leaks : thread.Leaks outcome)
    (taken : thread.step outcome = some next) : next.Doomed := by
  obtain ⟨point, deviceOpen, blocks, leakedBlocks, channel, reader⟩ := thread
  cases point <;> cases outcome <;> simp only [Leaks] at leaks
  all_goals cases taken
  case releaseBlock.fails i =>
    right
    simp only [goTo]
    rcases nextBuffer_cases .releaseBlock i .closeDevice with
      ⟨more, goes⟩ | ⟨last, goes⟩
    · rw [goes]
      exact Or.inr ⟨i, leaks, Nat.lt_succ_self i⟩
    · rw [goes]
      exact Or.inr (List.ne_nil_of_mem leaks)
  case stopReceiving.fails => exact Or.inr (Or.inl leaks)
  case destroyChannel.fails => exact Or.inr (Or.inl leaks)
  -- The other failures give up with the blocks that were taken so far.
  all_goals
    left
    simpa [giveUp, close, List.length_eq_zero_iff] using fun _ => leaks

theorem leaked_le (taken : thread.step outcome = some next) :
    thread.leaked ≤ next.leaked := by
  obtain ⟨point, deviceOpen, blocks, leakedBlocks, channel, reader⟩ := thread
  cases point <;> cases outcome
  case sendFrame.fails retried => cases retried <;> cases taken <;> rfl
  case joinReader.succeeds =>
    unfold step at taken
    dsimp only at taken
    split at taken
    · cases taken
    · cases taken
      rfl
  all_goals cases taken
  all_goals first | rfl | exact Nat.le_add_right _ _

/-- Only the first and the last step are about `streaming_stopped`. -/
theorem between_of_step (taken : thread.step outcome = some next)
    (first : thread.point ≠ .setStopped) (last : thread.point ≠ .finish) :
    next.point ≠ .setStopped ∧ next.point ≠ .exited false := by
  obtain ⟨point, deviceOpen, blocks, leakedBlocks, channel, reader⟩ := thread
  cases point <;> cases outcome
  case setStopped.succeeds => exact absurd rfl first
  case finish.succeeds => exact absurd rfl last
  case sendFrame.fails retried =>
    cases retried <;> cases taken <;> exact ⟨nofun, nofun⟩
  case joinReader.succeeds =>
    unfold step at taken
    dsimp only at taken
    split at taken
    · cases taken
    · cases taken
      exact ⟨nofun, nofun⟩
  case blockFd.succeeds i =>
    cases taken
    rcases nextBuffer_cases .queryBuffer i (.queueBuffer 0) with
      ⟨-, goes⟩ | ⟨-, goes⟩ <;> simp [goTo, goes]
  case queueBuffer.succeeds i =>
    cases taken
    rcases nextBuffer_cases .queueBuffer i .streamOn with
      ⟨-, goes⟩ | ⟨-, goes⟩ <;> simp [goTo, goes]
  case releaseBlock.succeeds i =>
    cases taken
    rcases nextBuffer_cases .releaseBlock i .closeDevice with
      ⟨-, goes⟩ | ⟨-, goes⟩ <;> simp [goes]
  case releaseBlock.fails i =>
    cases taken
    rcases nextBuffer_cases .releaseBlock i .closeDevice with
      ⟨-, goes⟩ | ⟨-, goes⟩ <;> simp [goTo, goes]
  all_goals cases taken
  all_goals exact ⟨nofun, nofun⟩

/-- The blocks whose turn has gone by stay where they are. -/
theorem doomed_releaseBlock {i : Nat} (point : thread.point = .releaseBlock i)
    (doomed : thread.channel = true ∨ ∃ j ∈ thread.blocks, j < i)
    (taken : thread.step outcome = some next) : next.Doomed := by
  have kept : next.point = nextBuffer .releaseBlock i .closeDevice ∧
      next.channel = thread.channel ∧
      ∀ j ∈ thread.blocks, j < i → j ∈ next.blocks := by
    unfold step at taken
    rw [point] at taken
    cases outcome with
    | succeeds =>
        cases taken
        refine ⟨rfl, rfl, fun j member before => ?_⟩
        exact (List.mem_erase_of_ne (Nat.ne_of_lt before)).mpr member
    | fails =>
        cases taken
        exact ⟨rfl, rfl, fun j member _ => member⟩
    | timesOut => cases taken
    | interrupted => cases taken
  obtain ⟨goes, sameChannel, stay⟩ := kept
  right
  rcases nextBuffer_cases .releaseBlock i .closeDevice with
    ⟨more, goesTo⟩ | ⟨last, goesTo⟩
  · rw [goes, goesTo]
    rcases doomed with channel | ⟨j, member, before⟩
    · exact Or.inl (sameChannel.trans channel)
    · exact Or.inr ⟨j, stay j member before, Nat.lt_succ_of_lt before⟩
  · rw [goes, goesTo]
    rcases doomed with channel | ⟨j, member, before⟩
    · exact Or.inl (sameChannel.trans channel)
    · exact Or.inr (List.ne_nil_of_mem (stay j member before))

theorem doomed_closeDevice (point : thread.point = .closeDevice)
    (doomed : thread.channel = true ∨ thread.blocks ≠ [])
    (taken : thread.step outcome = some next) : next.Doomed := by
  unfold step at taken
  rw [point] at taken
  cases outcome with
  | succeeds =>
      cases taken
      rcases doomed with channel | blocks
      · exact Or.inr channel
      · left
        have some := List.length_pos_iff.mpr blocks
        exact Nat.ne_of_gt (Nat.lt_of_lt_of_le some (Nat.le_add_left _ _))
  | fails => cases taken
  | timesOut => cases taken
  | interrupted => cases taken

/-- What stays taken is found at the end of the iteration. -/
theorem doomed_step (doomed : thread.Doomed)
    (fine : thread.Ended → thread.Released)
    (taken : thread.step outcome = some next) : next.Doomed := by
  rcases doomed with leaked | here
  · have more := leaked_le taken
    exact Or.inl (by omega)
  · cases point : thread.point <;> simp only [point] at here
    case releaseBlock i => exact doomed_releaseBlock point here taken
    case closeDevice => exact doomed_closeDevice point here taken
    all_goals
      have released := fine (by simp [Ended, point])
      exact absurd here (by simp [released.noChannel])

theorem not_ended_of_doomed (doomed : thread.Doomed)
    (fine : thread.Ended → thread.Released) : ¬ thread.Ended := by
  intro ended
  have released := fine ended
  rcases doomed with leaked | here
  · exact leaked released.noBlocks.2
  · unfold Ended at ended
    cases point : thread.point <;> simp_all [released.noChannel]

/-- Every iteration, and the thread, ends with everything given back if and only
if no call fails after which something stays taken. -/
theorem releases_iff_leaksNothing (outcomes : List Outcome) (last : Thread)
    (ran : exec step {} outcomes = some last) (ended : last.Ended) :
    AllStates step (fun thread => thread.Ended → thread.Released) {} outcomes ↔
      AllSteps step (fun thread outcome => ¬ thread.Leaks outcome) {}
        outcomes := by
  have initial : Tidy {} := ⟨rfl, rfl, ⟨rfl, rfl⟩, rfl⟩
  refine allStates_iff_allSteps_of_ends (fun tidy => tidy.released)
    tidy_step ?_ doomed_step not_ended_of_doomed initial ran ended
  intro thread next outcome _ leaks taken
  exact doomed_of_leaks (not_not.mp leaks) taken

/-- The three buffers are set up. -/
def buffersReady : List Outcome :=
  List.replicate 6 .succeeds ++ List.replicate 9 .succeeds

/-- One frame is encoded, then the source goes away. -/
def oneFrame : List Outcome :=
  buffersReady ++ List.replicate 3 .succeeds ++
    [.succeeds, .succeeds, .succeeds, .succeeds] ++
    [.succeeds, .succeeds, .succeeds, .succeeds, .fails, .succeeds, .succeeds] ++
    [.succeeds, .timesOut] ++ List.replicate 9 .succeeds

theorem oneFrame_released :
    AllStates step (fun thread => thread.Ended → thread.Released) {} oneFrame :=
  (releases_iff_leaksNothing oneFrame { point := .loop } (by decide)
    trivial).mpr (by decide)

/-- The streaming does not start. -/
def streamOnFails : List Outcome :=
  buffersReady ++ List.replicate 3 .succeeds ++ [.fails]

/-- The thread returns with three memory blocks that nothing refers to. -/
theorem streamOnFails_not_released :
    ¬ ∀ (outcomes : List Outcome) (last : Thread),
      exec step {} outcomes = some last → last.Ended →
        AllStates step (fun thread => thread.Ended → thread.Released) {}
          outcomes := by
  intro claimed
  have released := claimed streamOnFails
    { point := .exited true, leaked := 3 } (by decide) trivial
  exact absurd released (by decide)

end Thread

end VideoCapture

end JetKvm
