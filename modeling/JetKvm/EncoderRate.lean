import JetKvm.VideoCapture

/-!
# The encoder and the detected format

Translation of `run_detect_format` of `internal/native/cgo/video.c`, beside the
capture loop that reads what it detects.  A restart that it asks for takes
effect at once: the old thread and its encoder are gone, and a new thread
begins.  The frames per second are rounded as the source rounds them; its
counters are 32 bits wide.
-/

namespace JetKvm

namespace EncoderRate

open LabelledRuns
open VideoCapture (Thread Point)

structure Format where
  width : UInt32
  height : UInt32
  fps : UInt32
  deriving DecidableEq, Repr

/-- How `VIDIOC_QUERY_DV_TIMINGS` ends.  `fps` is rounded to the nearest
integer. -/
inductive Query where
  | noLink
  | noLock
  | outOfRange
  | failed
  | timings (width height fps : UInt32)
  deriving DecidableEq, Repr

/-- `params` are what the thread has read of the detected format, and `encoder`
is what the encoder that receives frames was started with.  The last three are
the source's: its format after the last change, if it had one, the one it had
when the thread read the detected one, and that of the thread which started the
encoder. -/
structure State where
  detectedWidth : UInt32 := 0
  detectedHeight : UInt32 := 0
  detectedFps : UInt32 := 60
  detectedSignal : Bool := false
  thread : Option Thread := none
  params : Format := ⟨0, 0, 0⟩
  encoder : Option Format := none
  source : Option Format := none
  read : Option Format := none
  started : Option Format := none
  deriving DecidableEq, Repr

/-- The control side starts and stops the stream and sets its quality; the
detection handles an event; the thread takes a step. -/
inductive Label where
  | start
  | stop
  | setQualityFactor
  | detect (query : Query)
  | run (outcome : VideoCapture.Outcome)
  deriving DecidableEq, Repr

namespace State

variable (state : State)

/-- `video_restart_streaming` -/
def restartStreaming : State :=
  match state.thread with
  | none => state
  | some _ => { state with thread := some {}, encoder := none }

/-- `if (fps_int < 1) fps_int = 1` -/
def fpsInt (fps : UInt32) : UInt32 := if fps < 1 then 1 else fps

def fpsChanged (fpsInt : UInt32) : Bool :=
  fpsInt > state.detectedFps + 1 || fpsInt + 1 < state.detectedFps

def shouldRestart (width height fpsInt : UInt32) : Bool :=
  width ≠ state.detectedWidth || height ≠ state.detectedHeight ||
    state.fpsChanged fpsInt || !state.detectedSignal

/-- One round of the loop of `run_detect_format`. -/
def runDetectFormat : Query → State
  | .timings width height fps =>
      let detected :=
        { state with
          detectedWidth := width
          detectedHeight := height
          detectedFps := fpsInt fps
          detectedSignal := true }
      if state.shouldRestart width height (fpsInt fps) then
        detected.restartStreaming
      else detected
  | _ => { state with detectedSignal := false }

/-- The tests of the loops read the streaming flag, which is set as long as
there is a thread, and whether there is a signal. -/
def sees (thread : Thread) (outcome : VideoCapture.Outcome) : Prop :=
  match thread.point with
  | .loop | .capture => outcome = .succeeds
  | .detect => outcome = if state.detectedSignal then .succeeds else .fails
  | _ => True

theorem sees_iff {thread : Thread} {outcome : VideoCapture.Outcome} :
    state.sees thread outcome ↔
      (thread.point = .loop ∨ thread.point = .capture → outcome = .succeeds) ∧
      (thread.point = .detect →
        outcome = if state.detectedSignal then .succeeds else .fails) := by
  unfold sees
  cases thread.point <;> simp

instance (thread : Thread) (outcome : VideoCapture.Outcome) :
    Decidable (state.sees thread outcome) :=
  decidable_of_iff _ (state.sees_iff).symm

/-- What a step of the thread reads of the detected format. -/
def paramsAfter (thread : Thread) (outcome : VideoCapture.Outcome) : Format :=
  if thread.point = .openDevice ∧ outcome = .succeeds then
    ⟨state.detectedWidth, state.detectedHeight, state.detectedFps⟩
  else state.params

/-- The encoder after a step of the thread. -/
def encoderAfter (thread : Thread) (outcome : VideoCapture.Outcome) : Option Format :=
  if thread.point = .startReceiving ∧ outcome = .succeeds then
    some state.params
  else if thread.point = .stopReceiving ∧ outcome = .succeeds then none
  else state.encoder

def runThread (outcome : VideoCapture.Outcome) : Option State :=
  match state.thread with
  | none => none
  | some thread =>
      if state.sees thread outcome then
        (thread.step outcome).map fun later =>
          { state with
            thread := some later
            params := state.paramsAfter thread outcome
            encoder := state.encoderAfter thread outcome
            read :=
              if thread.point = .openDevice ∧ outcome = .succeeds then
                state.source
              else state.read
            started :=
              if thread.point = .startReceiving ∧ outcome = .succeeds then
                state.read
              else state.started }
      else none

end State

/-- The rounded rate of a source is at least one. -/
def rate (fps : UInt32) : UInt32 := if fps = 0 then 1 else fps

def Query.format : Query → Option Format
  | .timings width height fps => some ⟨width, height, rate fps⟩
  | _ => none

def step (state : State) : Label → Option State
  | .start =>
      match state.thread with
      | none => some { state with thread := some {} }
      | some _ => some state
  | .stop => some { state with thread := none, encoder := none }
  | .setQualityFactor => some state.restartStreaming
  | .detect query =>
      some { state.runDetectFormat query with source := query.format }
  | .run outcome => state.runThread outcome

/-- The numbers are at most one apart. -/
def Within (one other : UInt32) : Prop :=
  one.toNat ≤ other.toNat + 1 ∧ other.toNat ≤ one.toNat + 1

instance (one other : UInt32) : Decidable (Within one other) :=
  inferInstanceAs (Decidable (_ ∧ _))

/-- The format has the resolution that was detected. -/
def State.Sized (state : State) (format : Format) : Prop :=
  format.width = state.detectedWidth ∧ format.height = state.detectedHeight

instance (state : State) (format : Format) : Decidable (state.Sized format) :=
  inferInstanceAs (Decidable (_ ∧ _))

/-- While there is a signal, the running encoder was started with the detected
resolution and about the rate of the source. -/
def Follows (state : State) : Prop :=
  state.detectedSignal = true → ∀ encoder ∈ state.encoder,
    state.Sized encoder ∧ ∃ source ∈ state.source,
      Within encoder.fps source.fps

instance (state : State) : Decidable (Follows state) :=
  inferInstanceAs (Decidable (_ → ∀ encoder ∈ state.encoder, _ ∧
    ∃ source ∈ state.source, _))

/-- A change from one rate to another that the detection tolerates, in numbers
of 32 bits -/
def Tolerated (last now : UInt32) : Prop :=
  now ≤ last + 1 ∧ last ≤ now + 1

/-- A change of the source to which it has come in steps that are tolerated is
within one of the rate that the thread of the running encoder has read, and a
source is as near to that rate when the encoder is started. -/
def InTolerance (state : State) : Label → Prop
  | .detect (.timings width height fps) =>
      ∀ last ∈ state.source, last.width = width → last.height = height →
        Tolerated last.fps (rate fps) → state.encoder.isSome = true →
          ∀ started ∈ state.started, Within started.fps (rate fps)
  | .run .succeeds =>
      ∀ thread ∈ state.thread, thread.point = .startReceiving →
        ∀ read ∈ state.read, ∀ last ∈ state.source, Within read.fps last.fps
  | _ => True

/-! ### The resolution -/

/-- The thread has read the detected format and not yet started the encoder. -/
def Reads : Point → Prop
  | .setFormat | .requestBuffers | .queryBuffer _ | .getBlock _ | .blockFd _
  | .queueBuffer _ | .streamOn | .createChannel | .startReceiving => True
  | _ => False

/-- The thread comes to hold a format only by reading it. -/
theorem reads_of_step {thread later : Thread} {outcome : VideoCapture.Outcome}
    (taken : thread.step outcome = some later) (reads : Reads later.point) :
    Reads thread.point ∨ thread.point = .openDevice ∧ outcome = .succeeds := by
  obtain ⟨point, deviceOpen, blocks, leakedBlocks, channel, reader⟩ := thread
  cases point <;> cases outcome
  case openDevice.succeeds => exact Or.inr ⟨rfl, rfl⟩
  case sendFrame.fails retried =>
    cases retried <;> cases taken <;> exact absurd reads id
  case joinReader.succeeds =>
    unfold Thread.step at taken
    dsimp only at taken
    split at taken
    · cases taken
    · cases taken
      exact absurd reads id
  case releaseBlock.succeeds i =>
    cases taken
    rcases Thread.nextBuffer_cases .releaseBlock i .closeDevice with
      ⟨-, goes⟩ | ⟨-, goes⟩ <;> simp [goes, Reads] at reads
  case releaseBlock.fails i =>
    cases taken
    rcases Thread.nextBuffer_cases .releaseBlock i .closeDevice with
      ⟨-, goes⟩ | ⟨-, goes⟩ <;> simp [Thread.goTo, goes, Reads] at reads
  all_goals first
    | exact Or.inl trivial
    | cases taken
  all_goals exact absurd reads id

/-- The encoder, and the thread that is about to start one, have read the
resolution that is detected, and while there is a signal what the source had at
the time. -/
structure Sound (state : State) : Prop where
  encoder : ∀ encoder ∈ state.encoder, state.Sized encoder
  params : ∀ thread ∈ state.thread, Reads thread.point →
    state.Sized state.params
  off : state.thread = none → state.encoder = none
  source : state.source =
    if state.detectedSignal then
      some ⟨state.detectedWidth, state.detectedHeight, state.detectedFps⟩
    else none
  read : state.detectedSignal = true → ∀ thread ∈ state.thread,
    Reads thread.point → state.read = some state.params
  started : state.detectedSignal = true → ∀ encoder ∈ state.encoder,
    state.started = some encoder

theorem sound_initial : Sound {} :=
  ⟨nofun, nofun, fun _ => rfl, rfl, nofun, nofun⟩

/-- A thread that begins has read nothing, and there is no encoder. -/
theorem Sound.restartStreaming {state : State} {source : Option Format}
    (off : state.thread = none → state.encoder = none)
    (sourced : source =
      if state.detectedSignal then
        some ⟨state.detectedWidth, state.detectedHeight, state.detectedFps⟩
      else none) :
    Sound { state.restartStreaming with source := source } := by
  unfold State.restartStreaming
  cases running : state.thread with
  | none =>
      have stopped := off running
      refine ⟨?_, ?_, off, sourced, fun _ => ?_, fun _ => ?_⟩
      · rintro encoder held
        cases stopped.symm.trans held
      · rintro thread held
        cases running.symm.trans held
      · rintro thread held
        cases running.symm.trans held
      · rintro encoder held
        cases stopped.symm.trans held
  | some thread =>
      refine ⟨nofun, ?_, nofun, sourced, fun _ => ?_, fun _ => nofun⟩
      · rintro thread ⟨⟩ ⟨⟩
      · rintro thread ⟨⟩ ⟨⟩

theorem encoder_restartStreaming {state : State}
    (off : state.thread = none → state.encoder = none) :
    state.restartStreaming.encoder = none := by
  unfold State.restartStreaming
  cases running : state.thread with
  | none => exact off running
  | some thread => rfl

theorem fpsInt_eq_rate (fps : UInt32) : State.fpsInt fps = rate fps := by
  unfold State.fpsInt rate
  have zero : fps < 1 ↔ fps = 0 := by
    rw [UInt32.lt_iff_toNat_lt, ← UInt32.toNat_inj]
    simp
  simp only [zero]

/-- A change is let pass where the source keeps its signal and resolution and
its rate is tolerated. -/
theorem not_shouldRestart_iff {state : State} {width height fps : UInt32}
    (sourced : state.source =
      if state.detectedSignal then
        some ⟨state.detectedWidth, state.detectedHeight, state.detectedFps⟩
      else none) :
    state.shouldRestart width height fps = false ↔
      state.detectedSignal = true ∧ ∃ last ∈ state.source,
        last.width = width ∧ last.height = height ∧ Tolerated last.fps fps := by
  unfold State.shouldRestart State.fpsChanged Tolerated
  rw [sourced]
  cases state.detectedSignal with
  | false => simp
  | true =>
      simp only [Bool.or_eq_false_iff, decide_eq_false_iff_not, not_not,
        Bool.not_true, and_true, if_true, Option.mem_def, Option.some.injEq,
        exists_eq_left', true_and, UInt32.not_lt, gt_iff_lt]
      rw [and_assoc, eq_comm, @eq_comm _ height]

theorem Sound.runDetectFormat {state : State} (sound : Sound state)
    (query : Query) :
    Sound { state.runDetectFormat query with source := query.format } := by
  cases query with
  | timings width height fps =>
      dsimp only [State.runDetectFormat, Query.format]
      rw [fpsInt_eq_rate]
      cases restarts : state.shouldRestart width height (rate fps) with
      | true =>
          rw [if_pos rfl]
          exact Sound.restartStreaming sound.off rfl
      | false =>
          rw [if_neg Bool.false_ne_true]
          obtain ⟨signal, last, isLast, rfl, rfl, -⟩ :=
            (not_shouldRestart_iff sound.source).mp restarts
          rw [sound.source, if_pos signal] at isLast
          cases isLast
          exact ⟨sound.encoder, sound.params, sound.off, rfl,
            fun _ => sound.read signal, fun _ => sound.started signal⟩
  | noLink => exact ⟨sound.encoder, sound.params, sound.off, rfl, nofun, nofun⟩
  | noLock => exact ⟨sound.encoder, sound.params, sound.off, rfl, nofun, nofun⟩
  | outOfRange =>
      exact ⟨sound.encoder, sound.params, sound.off, rfl, nofun, nofun⟩
  | failed => exact ⟨sound.encoder, sound.params, sound.off, rfl, nofun, nofun⟩

/-- A step of the thread, which reads what is detected or starts an encoder with
what it has read. -/
theorem runThread_cases {state next : State} {outcome : VideoCapture.Outcome}
    (taken : state.runThread outcome = some next) :
    ∃ thread later, state.thread = some thread ∧
      thread.step outcome = some later ∧
      next =
        { state with
          thread := some later
          params := state.paramsAfter thread outcome
          encoder := state.encoderAfter thread outcome
          read :=
            if thread.point = .openDevice ∧ outcome = .succeeds then
              state.source
            else state.read
          started :=
            if thread.point = .startReceiving ∧ outcome = .succeeds then
              state.read
            else state.started } := by
  unfold State.runThread at taken
  cases running : state.thread with
  | none => simp [running] at taken
  | some thread =>
      simp only [running] at taken
      by_cases sees : state.sees thread outcome
      · rw [if_pos sees] at taken
        obtain ⟨later, stepped, rfl⟩ := Option.map_eq_some_iff.mp taken
        exact ⟨thread, later, rfl, stepped, rfl⟩
      · rw [if_neg sees] at taken
        cases taken

theorem encoderAfter_cases {state : State} {thread : Thread}
    {outcome : VideoCapture.Outcome} {encoder : Format}
    (held : encoder ∈ state.encoderAfter thread outcome) :
    (thread.point = .startReceiving ∧ outcome = .succeeds) ∧
        encoder = state.params ∨
      ¬(thread.point = .startReceiving ∧ outcome = .succeeds) ∧
        encoder ∈ state.encoder := by
  unfold State.encoderAfter at held
  split at held
  · rename_i starts
    exact Or.inl ⟨starts, (Option.some.inj held).symm⟩
  · rename_i others
    split at held
    · cases held
    · exact Or.inr ⟨others, held⟩

theorem Sound.step {state next : State} {label : Label} (sound : Sound state)
    (taken : EncoderRate.step state label = some next) : Sound next := by
  cases label with
  | start =>
      unfold EncoderRate.step at taken
      cases running : state.thread with
      | some thread =>
          rw [running] at taken
          obtain rfl := Option.some.inj taken
          exact sound
      | none =>
          rw [running] at taken
          obtain rfl := Option.some.inj taken
          refine ⟨sound.encoder, ?_, nofun, sound.source, fun _ => ?_,
            sound.started⟩
          · rintro thread ⟨⟩ ⟨⟩
          · rintro thread ⟨⟩ ⟨⟩
  | stop =>
      obtain rfl := Option.some.inj taken
      exact ⟨nofun, nofun, fun _ => rfl, sound.source, fun _ => nofun,
        fun _ => nofun⟩
  | setQualityFactor =>
      obtain rfl := Option.some.inj taken
      have same : state.restartStreaming =
          { state.restartStreaming with source := state.source } := by
        unfold State.restartStreaming
        cases state.thread with
        | none => rfl
        | some _ => rfl
      rw [same]
      exact Sound.restartStreaming sound.off sound.source
  | detect query =>
      obtain rfl := Option.some.inj taken
      exact sound.runDetectFormat query
  | run outcome =>
      obtain ⟨thread, later, running, stepped, rfl⟩ := runThread_cases taken
      refine ⟨?_, ?_, nofun, sound.source, fun signal => ?_, fun signal => ?_⟩
      · intro encoder held
        rcases encoderAfter_cases held with ⟨starts, rfl⟩ | ⟨-, before⟩
        · exact sound.params thread running (starts.1 ▸ trivial)
        · exact sound.encoder encoder before
      · intro other held reads
        cases held
        unfold State.paramsAfter
        by_cases opens : thread.point = .openDevice ∧ outcome = .succeeds
        · dsimp only
          rw [if_pos opens]
          exact ⟨rfl, rfl⟩
        · dsimp only
          rw [if_neg opens]
          exact sound.params thread running
            ((reads_of_step stepped reads).resolve_right opens)
      · intro other held reads
        cases held
        unfold State.paramsAfter
        by_cases opens : thread.point = .openDevice ∧ outcome = .succeeds
        · dsimp only
          rw [if_pos opens, if_pos opens, sound.source, if_pos signal]
        · dsimp only
          rw [if_neg opens, if_neg opens]
          exact sound.read signal thread running
            ((reads_of_step stepped reads).resolve_right opens)
      · intro encoder held
        rcases encoderAfter_cases held with ⟨starts, rfl⟩ | ⟨others, before⟩
        · exact (if_pos starts).trans
            (sound.read signal thread running (starts.1 ▸ trivial))
        · exact (if_neg others).trans (sound.started signal encoder before)

/-! ### The rate -/

theorem follows_of_none {state : State} (stopped : state.encoder = none) :
    Follows state := by
  intro _ encoder held
  rw [stopped] at held
  cases held

theorem follows_runDetectFormat_iff {state : State} (sound : Sound state)
    (query : Query) :
    Follows { state.runDetectFormat query with source := query.format } ↔
      InTolerance state (.detect query) := by
  cases query with
  | timings width height fps =>
      have passes := @not_shouldRestart_iff state width height (rate fps)
        sound.source
      dsimp only [State.runDetectFormat, InTolerance, Query.format]
      rw [fpsInt_eq_rate]
      cases restarts : state.shouldRestart width height (rate fps) with
      | true =>
          rw [if_pos rfl]
          refine iff_of_true (follows_of_none (encoder_restartStreaming sound.off))
            fun last isLast width height tolerated => ?_
          have signal : state.detectedSignal = true := by
            by_contra off
            rw [sound.source, if_neg off] at isLast
            cases isLast
          have kept := passes.mpr
            ⟨signal, last, isLast, width, height, tolerated⟩
          rw [restarts] at kept
          cases kept
      | false =>
          rw [if_neg Bool.false_ne_true]
          obtain ⟨signal, last, isLast, rfl, rfl, tolerated⟩ :=
            passes.mp restarts
          constructor
          · intro follows other isOther _ _ _ running started isStarted
            obtain ⟨encoder, held⟩ := Option.isSome_iff_exists.mp running
            obtain rfl := Option.some.inj
              (isStarted.symm.trans (sound.started signal encoder held))
            obtain ⟨-, source, same, within⟩ := follows rfl started held
            cases same
            exact within
          · intro within _ encoder held
            have near := within last isLast rfl rfl tolerated
              (Option.isSome_of_mem held) encoder
              (sound.started signal encoder held)
            rw [sound.source, if_pos signal] at isLast
            cases isLast
            exact ⟨sound.encoder encoder held, _, rfl, near⟩
  | noLink => exact iff_of_true (fun signal => (nomatch signal)) trivial
  | noLock => exact iff_of_true (fun signal => (nomatch signal)) trivial
  | outOfRange => exact iff_of_true (fun signal => (nomatch signal)) trivial
  | failed => exact iff_of_true (fun signal => (nomatch signal)) trivial

theorem inTolerance_run_iff {state : State} {thread : Thread}
    {outcome : VideoCapture.Outcome} (running : state.thread = some thread) :
    InTolerance state (.run outcome) ↔
      (thread.point = .startReceiving → outcome = .succeeds →
        ∀ read ∈ state.read, ∀ last ∈ state.source,
          Within read.fps last.fps) := by
  cases outcome with
  | succeeds =>
      constructor
      · intro within starts _
        exact within thread running starts
      · intro within other there starts
        obtain rfl := Option.some.inj (running.symm.trans there)
        exact within starts rfl
  | fails => exact iff_of_true trivial fun _ other => (nomatch other)
  | timesOut => exact iff_of_true trivial fun _ other => (nomatch other)
  | interrupted => exact iff_of_true trivial fun _ other => (nomatch other)

theorem follows_step_iff {state next : State} {label : Label}
    (sound : Sound state) (follows : Follows state)
    (taken : step state label = some next) :
    Follows next ↔ InTolerance state label := by
  cases label with
  | start =>
      refine iff_of_true ?_ trivial
      unfold step at taken
      cases running : state.thread with
      | none =>
          rw [running] at taken
          obtain rfl := Option.some.inj taken
          exact follows
      | some thread =>
          rw [running] at taken
          obtain rfl := Option.some.inj taken
          exact follows
  | stop =>
      obtain rfl := Option.some.inj taken
      exact iff_of_true (follows_of_none rfl) trivial
  | setQualityFactor =>
      obtain rfl := Option.some.inj taken
      exact iff_of_true (follows_of_none (encoder_restartStreaming sound.off))
        trivial
  | detect query =>
      obtain rfl := Option.some.inj taken
      exact follows_runDetectFormat_iff sound query
  | run outcome =>
      obtain ⟨thread, later, running, stepped, rfl⟩ := runThread_cases taken
      rw [inTolerance_run_iff running]
      have current : state.source = if state.detectedSignal then _ else none :=
        sound.source
      constructor
      · intro later point succeeds read isRead last isLast
        have signal : state.detectedSignal = true := by
          by_contra off
          rw [current, if_neg off] at isLast
          cases isLast
        have started : state.params ∈ state.encoderAfter thread outcome := by
          rw [State.encoderAfter, if_pos ⟨point, succeeds⟩]
          rfl
        obtain ⟨-, source, isSource, within⟩ := later signal _ started
        obtain rfl := Option.some.inj (isSource.symm.trans isLast)
        obtain rfl := Option.some.inj (isRead.symm.trans
          (sound.read signal thread running (point ▸ trivial)))
        exact within
      · intro within signal encoder held
        rcases encoderAfter_cases held with ⟨starts, rfl⟩ | ⟨-, before⟩
        · have reads : Reads thread.point := starts.1 ▸ trivial
          rw [if_pos signal] at current
          exact ⟨sound.params thread running reads, _, current,
            within starts.1 starts.2 _ (sound.read signal thread running reads)
              _ current⟩
        · exact follows signal encoder before

/-- From a device that has seen no source, the encoder follows it in every state
of exactly those runs in which what is let pass, and what is read before an
encoder is started, stays within the tolerance. -/
theorem follows_iff_inTolerance (labels : List Label) :
    AllStates step Follows {} labels ↔ AllSteps step InTolerance {} labels :=
  allStates_iff_allSteps_of_invariant Sound.step follows_step_iff sound_initial
    (follows_of_none rfl) labels

/-- A source at 60 frames per second, and the thread up to its first frame. -/
def streamingAt60 : List Label :=
  [Label.detect (.timings 1920 1080 60), .start] ++
    List.replicate 22 (Label.run .succeeds)

/-- The source drifts by one frame per second at a time. -/
theorem drift_is_let_pass :
    ¬ ∀ labels, AllStates step Follows {} labels := by
  intro always
  have all := always (streamingAt60 ++
    [Label.detect (.timings 1920 1080 61), .detect (.timings 1920 1080 62)])
  revert all
  decide +kernel

end EncoderRate

end JetKvm
