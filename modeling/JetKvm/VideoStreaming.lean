import JetKvm.SessionRegistry
import Mathlib.Data.Finset.Card

/-!
# Starting and stopping the video encoder

Translation of the active-session count and of the handlers of connected and
closed ICE connections in `webrtc.go`, of the sleep-mode ticker in `video.go`,
and of what the native calls do to the encoder.  The count is changed under a
lock, but the encoder is started, stopped and put to sleep after the lock is
released, so the calls of different handlers reach it in any order.

A step is one access to shared state: a handler in progress is the list of the
stages it has still to run, and the stages of any number of handlers
interleave.
-/

namespace JetKvm

namespace Video

open LabelledRuns Signaling

/-- The encoder of the native process and the sleep mode of the capture chip. -/
structure Encoder where
  streaming : Bool := false
  sleepMode : Bool := false
  codecType : Nat := 0
  deriving DecidableEq, Repr

namespace Encoder

/-- `setSleepMode`: going to sleep stops the stream first. -/
def setSleepMode (supported : Bool) (encoder : Encoder) (enabled : Bool) :
    Encoder :=
  if supported = false then encoder
  else if enabled then { encoder with streaming := false, sleepMode := true }
  else { encoder with sleepMode := false }

/-- `VideoStart` disables the sleep mode before it starts the stream. -/
def videoStart (supported : Bool) (encoder : Encoder) : Encoder :=
  { encoder.setSleepMode supported false with streaming := true }

def videoStop (encoder : Encoder) : Encoder :=
  { encoder with streaming := false }

def videoSetCodecType (encoder : Encoder) (codecType : Nat) : Encoder :=
  { encoder with codecType }

end Encoder

/-- What a handler in progress does next. -/
inductive Stage where
  | incrActiveSessions
  | readPrimary
  | videoSetCodecType (codecType : Nat)
  | videoStart
  | stopVideoSleepModeTicker
  | clearConnected (id : String)
  | decrActiveSessions
  | videoStop
  | startVideoSleepModeTicker
  deriving DecidableEq, Repr

/-- A ticker waits for its timer; when the timer has fired with no active
session it goes on to enter sleep mode.  The timer is not set again. -/
inductive TickerPhase where
  | waiting
  | enteringSleepMode
  | done
  deriving DecidableEq, Repr

structure Ticker where
  phase : TickerPhase := .waiting
  cancelled : Bool := false
  deriving DecidableEq, Repr

structure State where
  videoSleepModeSupported : Bool
  registry : SessionRegistry := {}
  codecMimeType : String → Option String := fun _ => none
  isConnected : Finset String := ∅
  actionSessions : Int := 0
  running : List Stage := []
  encoder : Encoder := {}
  tickers : List Ticker := []
  videoSleepModeCancel : Option Nat := none
  videoSleepAfterSec : Int := 0

namespace State

def continueWith (state : State) (stages : List Stage) : State :=
  { state with running := state.running ++ stages }

def setTicker (state : State) (index : Nat) (ticker : Ticker) : State :=
  { state with tickers := state.tickers.set index ticker }

def setEncoder (state : State) (encoder : Encoder) : State :=
  { state with encoder }

/-- The context of the current ticker is cancelled; the goroutine is not waited
for. -/
def stopVideoSleepModeTicker (state : State) : State :=
  match state.videoSleepModeCancel with
  | none => state
  | some current =>
      { state with
        tickers := state.tickers.modify current fun ticker =>
          { ticker with cancelled := true }
        videoSleepModeCancel := none }

def startVideoSleepModeTicker (state : State) : State :=
  if state.videoSleepModeSupported = false then state
  else if state.videoSleepAfterSec < 0 then state.stopVideoSleepModeTicker
  else
    let stopped := state.stopVideoSleepModeTicker
    { stopped with
      tickers := stopped.tickers ++ [{}]
      videoSleepModeCancel := some stopped.tickers.length }

/-- The codec type `onFirstSessionConnected` chooses for the primary session. -/
def primaryCodecType (state : State) : Nat :=
  match state.registry.primary with
  | some primary =>
      if state.codecMimeType primary = some mimeTypeH265 then 1 else 0
  | none => 0

/-- One stage of a handler, and the stages it leads to. -/
def proceed (state : State) : Stage → State
  | .incrActiveSessions =>
      let actionSessions := state.actionSessions + 1
      { state with actionSessions }.continueWith
        (if actionSessions = 1 then [.readPrimary] else [])
  | .readPrimary =>
      state.continueWith [.videoSetCodecType state.primaryCodecType]
  | .videoSetCodecType codecType =>
      (state.setEncoder (state.encoder.videoSetCodecType codecType)).continueWith
        [.videoStart]
  | .videoStart =>
      (state.setEncoder (state.encoder.videoStart
        state.videoSleepModeSupported)).continueWith
          [.stopVideoSleepModeTicker]
  | .stopVideoSleepModeTicker => state.stopVideoSleepModeTicker
  | .clearConnected id =>
      if id ∈ state.isConnected then
        { state with isConnected := state.isConnected.erase id }.continueWith
          [.decrActiveSessions]
      else state
  | .decrActiveSessions =>
      let actionSessions := state.actionSessions - 1
      { state with actionSessions }.continueWith
        (if actionSessions = 0 then [.videoStop] else [])
  | .videoStop =>
      (state.setEncoder state.encoder.videoStop).continueWith
        [.startVideoSleepModeTicker]
  | .startVideoSleepModeTicker => state.startVideoSleepModeTicker

/-- The timer of a ticker fires: the ticker checks the active sessions. -/
def timerFires (state : State) (index : Nat) (ticker : Ticker) : State :=
  state.setTicker index
    { ticker with
      phase :=
        if state.actionSessions > 0 then .done else .enteringSleepMode }

/-- A ticker past its check enters sleep mode. -/
def enterSleepMode (state : State) (index : Nat) (ticker : Ticker) : State :=
  (state.setEncoder
    (state.encoder.setSleepMode state.videoSleepModeSupported true)).setTicker
      index { ticker with phase := .done }

end State

/-- `ExchangeOffer` up to the registration of the session, the two ICE
callbacks, a stage of a handler in progress, the two steps of a sleep tick, the
end of a cancelled ticker, and the change of the setting. -/
inductive Label where
  | exchangeOffer (id videoCodecPreference offerSDP : String)
  | iceConnected (id : String)
  | iceClosed (id : String) (visited : Nat)
  | stage (stage : Stage)
  | timerFires (ticker : Nat)
  | enterSleepMode (ticker : Nat)
  | tickerStopped (ticker : Nat)
  | rpcSetVideoSleepMode (duration : Int)
  deriving DecidableEq, Repr

def step (state : State) : Label → Option State
  | .exchangeOffer id videoCodecPreference offerSDP =>
      match state.codecMimeType id with
      | some _ => none
      | none =>
          some { state with
            codecMimeType := fun other =>
              if other = id then
                some (resolveCodec videoCodecPreference offerSDP)
              else state.codecMimeType other
            registry := state.registry.add id }
  | .iceConnected id =>
      if state.codecMimeType id = none ∨ id ∈ state.isConnected then none
      else
        some ({ state with
          isConnected := insert id state.isConnected }.continueWith
            [.incrActiveSessions])
  | .iceClosed id visited =>
      some ({ state with
        registry := state.registry.remove id visited }.continueWith
          [.clearConnected id])
  | .stage stage =>
      if stage ∈ state.running then
        some ({ state with
          running := state.running.erase stage }.proceed stage)
      else none
  | .timerFires index =>
      match state.tickers[index]? with
      | some ticker =>
          if ticker.phase = .waiting then
            some (state.timerFires index ticker)
          else none
      | none => none
  | .enterSleepMode index =>
      match state.tickers[index]? with
      | some ticker =>
          if ticker.phase = .enteringSleepMode then
            some (state.enterSleepMode index ticker)
          else none
      | none => none
  | .tickerStopped index =>
      match state.tickers[index]? with
      | some ticker =>
          if ticker.phase = .waiting ∧ ticker.cancelled then
            some (state.setTicker index { ticker with phase := .done })
          else none
      | none => none
  | .rpcSetVideoSleepMode duration =>
      some { state with
        videoSleepAfterSec := if duration < 0 then -1 else duration }

/-- The state `main` leaves after it has started the first ticker. -/
def initial (videoSleepModeSupported : Bool) (videoSleepAfterSec : Int) :
    State :=
  ({ videoSleepModeSupported, videoSleepAfterSec } : State).startVideoSleepModeTicker

/-- A ticker is past its check. -/
def EnteringSleepMode (state : State) : Prop :=
  ∃ ticker ∈ state.tickers, ticker.phase = .enteringSleepMode

/-- A connect handler, a close handler or a sleep tick is in progress. -/
def InProgress (state : State) : Prop :=
  state.running ≠ [] ∨ EnteringSleepMode state

/-- When nothing is in progress, the encoder runs awake exactly if there is an
active session, and the active sessions are the connected ones. -/
def StreamsToViewers (state : State) : Prop :=
  ¬ InProgress state →
    (0 < state.actionSessions →
      state.encoder.streaming = true ∧ state.encoder.sleepMode = false) ∧
    (state.actionSessions = 0 → state.encoder.streaming = false) ∧
    state.actionSessions = state.isConnected.card

/-- Stages of a handler that is going to start or to stop the encoder. -/
def Stage.callsEncoder : Stage → Bool
  | .readPrimary => true
  | .videoSetCodecType _ => true
  | .videoStart => true
  | .videoStop => true
  | _ => false

/-- Some handler is going to start or stop the encoder, or some ticker to put
it to sleep. -/
def CallOutstanding (state : State) : Prop :=
  (∃ stage ∈ state.running, stage.callsEncoder = true) ∨
    EnteringSleepMode state

/-- The encoder is as the number of active sessions asks for. -/
def Suits (encoder : Encoder) (actionSessions : Int) : Prop :=
  (0 < actionSessions →
    encoder.streaming = true ∧ encoder.sleepMode = false) ∧
  (actionSessions ≤ 0 → encoder.streaming = false)

/-- Once every call has reached the encoder, it suits the active sessions. -/
def EncoderSettled (state : State) : Prop :=
  ¬ CallOutstanding state → Suits state.encoder state.actionSessions

/-- The last call outstanding finds the active sessions it was decided for: a
start some, a stop or a sleep tick none. -/
def LastCallInTurn (state : State) : Label → Prop
  | .stage .videoStart =>
      ¬ CallOutstanding { state with running := state.running.erase .videoStart } →
        0 < state.actionSessions
  | .stage .videoStop =>
      ¬ CallOutstanding { state with running := state.running.erase .videoStop } →
        state.actionSessions ≤ 0
  | .enterSleepMode index =>
      ¬ CallOutstanding (state.setTicker index { phase := .done }) →
        state.actionSessions ≤ 0
  | _ => True

instance (state : State) : Decidable (CallOutstanding state) :=
  inferInstanceAs (Decidable
    ((∃ stage ∈ state.running, stage.callsEncoder = true) ∨
      ∃ ticker ∈ state.tickers, ticker.phase = .enteringSleepMode))

instance (state : State) : DecidablePred (LastCallInTurn state)
  | .stage .videoStart => inferInstanceAs (Decidable (_ → 0 < _))
  | .stage .videoStop => inferInstanceAs (Decidable (_ → _ ≤ _))
  | .enterSleepMode _ => inferInstanceAs (Decidable (_ → _ ≤ _))
  | .stage .incrActiveSessions => .isTrue trivial
  | .stage .readPrimary => .isTrue trivial
  | .stage (.videoSetCodecType _) => .isTrue trivial
  | .stage .stopVideoSleepModeTicker => .isTrue trivial
  | .stage (.clearConnected _) => .isTrue trivial
  | .stage .decrActiveSessions => .isTrue trivial
  | .stage .startVideoSleepModeTicker => .isTrue trivial
  | .exchangeOffer _ _ _ => .isTrue trivial
  | .iceConnected _ => .isTrue trivial
  | .iceClosed _ _ => .isTrue trivial
  | .timerFires _ => .isTrue trivial
  | .tickerStopped _ => .isTrue trivial
  | .rpcSetVideoSleepMode _ => .isTrue trivial

/-! ## Tickers -/

section Tickers

variable {state : State}

theorem enteringSleepMode_iff :
    EnteringSleepMode state ↔
      ∃ index : Nat, (state.tickers[index]?).map Ticker.phase =
        some .enteringSleepMode := by
  simp only [EnteringSleepMode, List.mem_iff_getElem?, Option.map_eq_some_iff]
  grind

theorem enteringSleepMode_stop :
    EnteringSleepMode state.stopVideoSleepModeTicker ↔
      EnteringSleepMode state := by
  simp only [enteringSleepMode_iff]
  refine exists_congr fun index => ?_
  have samePhase : (state.stopVideoSleepModeTicker.tickers[index]?).map
      Ticker.phase = (state.tickers[index]?).map Ticker.phase := by
    unfold State.stopVideoSleepModeTicker
    cases state.videoSleepModeCancel with
    | none => rfl
    | some current =>
        rw [List.getElem?_modify]
        cases state.tickers[index]? with
        | none => rfl
        | some ticker =>
            simp only [Option.map_eq_map, Option.map_some]
            split_ifs <;> rfl
  rw [samePhase]

theorem enteringSleepMode_start :
    EnteringSleepMode state.startVideoSleepModeTicker ↔
      EnteringSleepMode state := by
  unfold State.startVideoSleepModeTicker
  split_ifs
  · exact Iff.rfl
  · exact enteringSleepMode_stop
  · refine Iff.trans ?_ enteringSleepMode_stop
    simp [EnteringSleepMode, or_and_right, exists_or]

theorem tickers_stop_eq_nil :
    state.stopVideoSleepModeTicker.tickers = [] ↔ state.tickers = [] := by
  unfold State.stopVideoSleepModeTicker
  split
  · exact Iff.rfl
  · exact List.modify_eq_nil_iff

/-- Stopping and starting tickers changes nothing but the tickers. -/
theorem exists_stop_eq (state : State) :
    ∃ tickers cancel, state.stopVideoSleepModeTicker =
      { state with tickers := tickers, videoSleepModeCancel := cancel } := by
  unfold State.stopVideoSleepModeTicker
  split
  · exact ⟨_, _, rfl⟩
  · exact ⟨_, _, rfl⟩

theorem exists_start_eq (state : State) :
    ∃ tickers cancel, state.startVideoSleepModeTicker =
      { state with tickers := tickers, videoSleepModeCancel := cancel } := by
  obtain ⟨stoppedTickers, stoppedCancel, stopped⟩ := exists_stop_eq state
  unfold State.startVideoSleepModeTicker
  split_ifs
  · exact ⟨_, _, rfl⟩
  · exact ⟨_, _, stopped⟩
  · simp only [stopped]
    exact ⟨_, _, rfl⟩

theorem tickers_start_of_unsupported
    (unsupported : state.videoSleepModeSupported = false) :
    state.startVideoSleepModeTicker.tickers = state.tickers := by
  rw [State.startVideoSleepModeTicker, if_pos unsupported]

end Tickers

/-! ## The count -/

/-- What holds in every reachable state. -/
structure Invariant (state : State) : Prop where
  counted : state.actionSessions = state.isConnected.card -
    state.running.count .incrActiveSessions +
      state.running.count .decrActiveSessions
  unsupported : state.videoSleepModeSupported = false →
    state.tickers = [] ∧ state.encoder.sleepMode = false

theorem Invariant.initial (videoSleepModeSupported : Bool)
    (videoSleepAfterSec : Int) :
    Invariant (initial videoSleepModeSupported videoSleepAfterSec) := by
  unfold Video.initial
  obtain ⟨tickers, cancel, started⟩ :=
    exists_start_eq { videoSleepModeSupported, videoSleepAfterSec }
  refine ⟨?_, ?_⟩
  · rw [started]
    rfl
  · intro unsupported
    rw [started] at unsupported
    refine ⟨tickers_start_of_unsupported unsupported, ?_⟩
    rw [started]

section Step

variable {state next : State}

/-- The stages that leave the count alone. -/
def Stage.Uncounted (stage : Stage) : Prop :=
  stage ≠ .incrActiveSessions ∧ stage ≠ .decrActiveSessions

theorem Invariant.finish (invariant : Invariant state) (stage : Stage)
    (uncounted : stage.Uncounted) :
    Invariant { state with running := state.running.erase stage } := by
  refine ⟨?_, invariant.unsupported⟩
  rw [List.count_erase_of_ne uncounted.1.symm,
    List.count_erase_of_ne uncounted.2.symm]
  exact invariant.counted

theorem Invariant.continueWith (invariant : Invariant state)
    (stages : List Stage) (uncounted : ∀ stage ∈ stages, stage.Uncounted) :
    Invariant (state.continueWith stages) := by
  have noIncr : stages.count .incrActiveSessions = 0 :=
    List.count_eq_zero.mpr fun member => (uncounted _ member).1 rfl
  have noDecr : stages.count .decrActiveSessions = 0 :=
    List.count_eq_zero.mpr fun member => (uncounted _ member).2 rfl
  refine ⟨?_, invariant.unsupported⟩
  rw [State.continueWith, List.count_append, List.count_append, noIncr, noDecr]
  exact invariant.counted

theorem Invariant.incr (invariant : Invariant state)
    (running : .incrActiveSessions ∈ state.running) :
    Invariant { state with
      running := state.running.erase .incrActiveSessions
      actionSessions := state.actionSessions + 1 } := by
  have once := List.count_pos_iff.mpr running
  have counted := invariant.counted
  refine ⟨?_, invariant.unsupported⟩
  rw [List.count_erase_self, List.count_erase_of_ne (by decide)]
  dsimp only
  omega

theorem Invariant.decr (invariant : Invariant state)
    (running : .decrActiveSessions ∈ state.running) :
    Invariant { state with
      running := state.running.erase .decrActiveSessions
      actionSessions := state.actionSessions - 1 } := by
  have once := List.count_pos_iff.mpr running
  have counted := invariant.counted
  refine ⟨?_, invariant.unsupported⟩
  rw [List.count_erase_self, List.count_erase_of_ne (by decide)]
  dsimp only
  omega

theorem Invariant.setEncoder (invariant : Invariant state) {encoder : Encoder}
    (asleep : state.videoSleepModeSupported = false →
      encoder.sleepMode = state.encoder.sleepMode) :
    Invariant (state.setEncoder encoder) := by
  refine ⟨invariant.counted, fun unavailable => ?_⟩
  obtain ⟨noTickers, awake⟩ := invariant.unsupported unavailable
  exact ⟨noTickers, (asleep unavailable).trans awake⟩

/-- A connected session waits to be counted. -/
theorem Invariant.connect (invariant : Invariant state) {id : String}
    (fresh : id ∉ state.isConnected) :
    Invariant ({ state with
      isConnected := insert id state.isConnected }.continueWith
        [.incrActiveSessions]) := by
  have counted := invariant.counted
  refine ⟨?_, invariant.unsupported⟩
  simp only [State.continueWith, List.count_append,
    Finset.card_insert_of_notMem fresh]
  simp
  omega

/-- A closed session waits to be counted out. -/
theorem Invariant.disconnect (invariant : Invariant state) {id : String}
    (connected : id ∈ state.isConnected) :
    Invariant ({ state with
      isConnected := state.isConnected.erase id }.continueWith
        [.decrActiveSessions]) := by
  have counted := invariant.counted
  have positive := Finset.card_pos.mpr ⟨id, connected⟩
  refine ⟨?_, invariant.unsupported⟩
  simp only [State.continueWith, List.count_append,
    Finset.card_erase_of_mem connected]
  simp
  omega

theorem Invariant.stopVideoSleepModeTicker (invariant : Invariant state) :
    Invariant state.stopVideoSleepModeTicker := by
  obtain ⟨tickers, cancel, stopped⟩ := exists_stop_eq state
  refine ⟨?_, fun unavailable => ?_⟩
  · rw [stopped]
    exact invariant.counted
  · rw [tickers_stop_eq_nil]
    rw [stopped] at unavailable ⊢
    exact invariant.unsupported unavailable

theorem Invariant.startVideoSleepModeTicker (invariant : Invariant state) :
    Invariant state.startVideoSleepModeTicker := by
  obtain ⟨tickers, cancel, started⟩ := exists_start_eq state
  refine ⟨?_, fun unavailable => ?_⟩
  · rw [started]
    exact invariant.counted
  · rw [started] at unavailable
    have disabled : state.videoSleepModeSupported = false := unavailable
    refine ⟨?_, ?_⟩
    · rw [tickers_start_of_unsupported disabled]
      exact (invariant.unsupported disabled).1
    · rw [started]
      exact (invariant.unsupported disabled).2

theorem Invariant.proceed (invariant : Invariant state) {stage : Stage}
    (running : stage ∈ state.running) :
    Invariant ({ state with running := state.running.erase stage }.proceed
      stage) := by
  cases stage with
  | incrActiveSessions =>
      refine (invariant.incr running).continueWith _ ?_
      split_ifs <;> simp [Stage.Uncounted]
  | readPrimary =>
      have finished := invariant.finish .readPrimary (by simp [Stage.Uncounted])
      exact finished.continueWith _ (by simp [Stage.Uncounted])
  | videoSetCodecType codecType =>
      have finished := invariant.finish (.videoSetCodecType codecType)
        (by simp [Stage.Uncounted])
      have awake : state.videoSleepModeSupported = false →
          (state.encoder.videoSetCodecType codecType).sleepMode =
            state.encoder.sleepMode := fun _ => rfl
      exact (finished.setEncoder awake).continueWith [.videoStart]
        (by simp [Stage.Uncounted])
  | videoStart =>
      have finished := invariant.finish .videoStart (by simp [Stage.Uncounted])
      have awake : state.videoSleepModeSupported = false →
          (state.encoder.videoStart state.videoSleepModeSupported).sleepMode =
            state.encoder.sleepMode := by
        intro disabled
        simp [Encoder.videoStart, Encoder.setSleepMode, disabled]
      exact (finished.setEncoder awake).continueWith [.stopVideoSleepModeTicker]
        (by simp [Stage.Uncounted])
  | stopVideoSleepModeTicker =>
      have finished := invariant.finish .stopVideoSleepModeTicker
        (by simp [Stage.Uncounted])
      exact finished.stopVideoSleepModeTicker
  | clearConnected id =>
      have finished := invariant.finish (.clearConnected id)
        (by simp [Stage.Uncounted])
      unfold State.proceed
      dsimp only
      split_ifs with connected
      · exact finished.disconnect connected
      · exact finished
  | decrActiveSessions =>
      refine (invariant.decr running).continueWith _ ?_
      split_ifs <;> simp [Stage.Uncounted]
  | videoStop =>
      have finished := invariant.finish .videoStop (by simp [Stage.Uncounted])
      have awake : state.videoSleepModeSupported = false →
          state.encoder.videoStop.sleepMode = state.encoder.sleepMode :=
        fun _ => rfl
      exact (finished.setEncoder awake).continueWith
        [.startVideoSleepModeTicker] (by simp [Stage.Uncounted])
  | startVideoSleepModeTicker =>
      have finished := invariant.finish .startVideoSleepModeTicker
        (by simp [Stage.Uncounted])
      exact finished.startVideoSleepModeTicker

/-- A ticker exists only where the sleep mode is supported. -/
theorem Invariant.setTicker (invariant : Invariant state) {index : Nat}
    {ticker : Ticker} : Invariant (state.setTicker index ticker) := by
  refine ⟨invariant.counted, fun unavailable => ?_⟩
  obtain ⟨noTickers, awake⟩ := invariant.unsupported unavailable
  refine ⟨?_, awake⟩
  rw [State.setTicker, noTickers, List.set_nil]

/-- What a step needs to be taken, and the state it leads to. -/
theorem step_eq_some_iff {label : Label} :
    step state label = some next ↔
      match label with
      | .exchangeOffer id videoCodecPreference offerSDP =>
          state.codecMimeType id = none ∧
            { state with
              codecMimeType := fun other =>
                if other = id then
                  some (resolveCodec videoCodecPreference offerSDP)
                else state.codecMimeType other
              registry := state.registry.add id } = next
      | .iceConnected id =>
          (state.codecMimeType id ≠ none ∧ id ∉ state.isConnected) ∧
            { state with
              isConnected := insert id state.isConnected }.continueWith
                [.incrActiveSessions] = next
      | .iceClosed id visited =>
          { state with
            registry := state.registry.remove id visited }.continueWith
              [.clearConnected id] = next
      | .stage stage =>
          stage ∈ state.running ∧
            { state with
              running := state.running.erase stage }.proceed stage = next
      | .timerFires index =>
          ∃ ticker, (state.tickers[index]? = some ticker ∧
            ticker.phase = .waiting) ∧ state.timerFires index ticker = next
      | .enterSleepMode index =>
          ∃ ticker, (state.tickers[index]? = some ticker ∧
            ticker.phase = .enteringSleepMode) ∧
              state.enterSleepMode index ticker = next
      | .tickerStopped index =>
          ∃ ticker, (state.tickers[index]? = some ticker ∧
            ticker.phase = .waiting ∧ ticker.cancelled) ∧
              state.setTicker index { ticker with phase := .done } = next
      | .rpcSetVideoSleepMode duration =>
          { state with
            videoSleepAfterSec := if duration < 0 then -1 else duration } =
              next := by
  cases label with
  | exchangeOffer id videoCodecPreference offerSDP =>
      cases unknown : state.codecMimeType id <;> simp [step, unknown]
  | iceConnected id =>
      by_cases known : state.codecMimeType id = none ∨ id ∈ state.isConnected
      · simp only [step, if_pos known, reduceCtorEq, false_iff]
        rintro ⟨⟨created, fresh⟩, -⟩
        exact known.elim created fresh
      · simp [step, not_or.mp known]
  | iceClosed id visited => simp [step]
  | stage stage => simp [step]
  | timerFires index =>
      cases found : state.tickers[index]? <;> simp [step, found]
  | enterSleepMode index =>
      cases found : state.tickers[index]? <;> simp [step, found]
  | tickerStopped index =>
      cases found : state.tickers[index]? <;> simp [step, found]
  | rpcSetVideoSleepMode duration => simp [step]

theorem Invariant.step (invariant : Invariant state) {label : Label}
    (taken : step state label = some next) : Invariant next := by
  rw [step_eq_some_iff] at taken
  cases label with
  | exchangeOffer id videoCodecPreference offerSDP =>
      obtain ⟨-, rfl⟩ := taken
      exact ⟨invariant.counted, invariant.unsupported⟩
  | iceConnected id =>
      obtain ⟨⟨-, fresh⟩, rfl⟩ := taken
      exact invariant.connect fresh
  | iceClosed id visited =>
      subst taken
      have removed : Invariant { state with
          registry := state.registry.remove id visited } :=
        ⟨invariant.counted, invariant.unsupported⟩
      exact removed.continueWith _ (by simp [Stage.Uncounted])
  | stage stage =>
      obtain ⟨running, rfl⟩ := taken
      exact invariant.proceed running
  | timerFires index =>
      obtain ⟨ticker, -, rfl⟩ := taken
      exact invariant.setTicker
  | enterSleepMode index =>
      obtain ⟨ticker, -, rfl⟩ := taken
      refine Invariant.setTicker (invariant.setEncoder fun disabled => ?_)
      rw [Encoder.setSleepMode, if_pos disabled]
  | tickerStopped index =>
      obtain ⟨ticker, -, rfl⟩ := taken
      exact invariant.setTicker
  | rpcSetVideoSleepMode duration =>
      subst taken
      exact ⟨invariant.counted, invariant.unsupported⟩

/-! ## Outstanding calls -/

@[simp]
theorem callOutstanding_continueWith {stages : List Stage} :
    CallOutstanding (state.continueWith stages) ↔
      CallOutstanding state ∨ ∃ stage ∈ stages, stage.callsEncoder = true := by
  simp only [CallOutstanding, State.continueWith, List.mem_append, or_and_right,
    exists_or]
  exact or_right_comm

theorem callOutstanding_continueWith_of_silent {stages : List Stage}
    (silent : ∀ stage ∈ stages, stage.callsEncoder = false) :
    CallOutstanding (state.continueWith stages) ↔ CallOutstanding state := by
  rw [callOutstanding_continueWith, or_iff_left]
  rintro ⟨stage, member, calls⟩
  exact Bool.false_ne_true ((silent stage member).symm.trans calls)

theorem callOutstanding_finish (stage : Stage)
    (silent : stage.callsEncoder = false) :
    CallOutstanding { state with running := state.running.erase stage } ↔
      CallOutstanding state := by
  refine or_congr (exists_congr fun other => and_congr_left fun calls => ?_)
    Iff.rfl
  have different : other ≠ stage := by
    rintro rfl
    exact Bool.false_ne_true (silent.symm.trans calls)
  exact List.mem_erase_of_ne different

theorem callOutstanding_stop :
    CallOutstanding state.stopVideoSleepModeTicker ↔ CallOutstanding state := by
  obtain ⟨tickers, cancel, stopped⟩ := exists_stop_eq state
  refine or_congr ?_ enteringSleepMode_stop
  rw [stopped]

theorem callOutstanding_start :
    CallOutstanding state.startVideoSleepModeTicker ↔
      CallOutstanding state := by
  obtain ⟨tickers, cancel, started⟩ := exists_start_eq state
  refine or_congr ?_ enteringSleepMode_start
  rw [started]

/-- A ticker that does not enter sleep mode counts for nothing. -/
theorem enteringSleepMode_setTicker {index : Nat} {ticker : Ticker}
    (other : ticker.phase ≠ .enteringSleepMode) :
    EnteringSleepMode (state.setTicker index ticker) ↔
      ∃ position, position ≠ index ∧ (state.tickers[position]?).map Ticker.phase =
        some .enteringSleepMode := by
  rw [enteringSleepMode_iff]
  refine exists_congr fun position => ?_
  rw [State.setTicker, List.getElem?_set]
  split_ifs with same inside
  · simp [same, other]
  · simp [same]
  · simp [Ne.symm same]

/-- A ticker that waits counts for nothing either. -/
theorem enteringSleepMode_setTicker_iff {index : Nat} {before after : Ticker}
    (found : state.tickers[index]? = some before)
    (notBefore : before.phase ≠ .enteringSleepMode)
    (notAfter : after.phase ≠ .enteringSleepMode) :
    EnteringSleepMode (state.setTicker index after) ↔
      EnteringSleepMode state := by
  rw [enteringSleepMode_setTicker notAfter, enteringSleepMode_iff]
  refine exists_congr fun position => and_iff_right_of_imp ?_
  rintro entering rfl
  rw [found] at entering
  exact notBefore (Option.some.inj entering)

/-- A step that makes no call and leaves the same question whether there are
active sessions. -/
theorem EncoderSettled.of_count (settled : EncoderSettled state)
    (outstanding : CallOutstanding next ↔ CallOutstanding state)
    (sameEncoder : next.encoder = state.encoder)
    (sameCount : 0 < next.actionSessions ↔ 0 < state.actionSessions) :
    EncoderSettled next := by
  unfold EncoderSettled Suits
  rw [outstanding, sameEncoder, ← not_lt, sameCount, not_lt]
  exact settled

theorem encoderSettled_of_outstanding (outstanding : CallOutstanding next) :
    EncoderSettled next :=
  fun nothing => absurd outstanding nothing

theorem suits_videoStart_iff (invariant : Invariant state) :
    Suits (state.encoder.videoStart state.videoSleepModeSupported)
        state.actionSessions ↔ 0 < state.actionSessions := by
  have awake : (state.encoder.videoStart
      state.videoSleepModeSupported).sleepMode = false := by
    cases supported : state.videoSleepModeSupported with
    | true => rfl
    | false => exact (invariant.unsupported supported).2
  have started : (state.encoder.videoStart
      state.videoSleepModeSupported).streaming = true := rfl
  simp [Suits, awake, started]

theorem suits_of_stopped {encoder : Encoder}
    (stopped : encoder.streaming = false) (actionSessions : Int) :
    Suits encoder actionSessions ↔ actionSessions ≤ 0 := by
  simp [Suits, stopped]

/-- The stages, each with what it does to the calls outstanding. -/
theorem Invariant.encoderSettled_proceed_iff (invariant : Invariant state)
    (settled : EncoderSettled state) {stage : Stage} :
    EncoderSettled ({ state with
        running := state.running.erase stage }.proceed stage) ↔
      LastCallInTurn state (.stage stage) := by
  cases stage with
  | incrActiveSessions =>
      refine iff_of_true ?_ trivial
      by_cases first : state.actionSessions + 1 = 1
      · apply encoderSettled_of_outstanding
        simp [State.proceed, first, Stage.callsEncoder]
      · apply settled.of_count
        · simp only [State.proceed, if_neg first]
          exact (callOutstanding_continueWith_of_silent (by simp)).trans
            (callOutstanding_finish .incrActiveSessions rfl)
        · rfl
        · change 0 < state.actionSessions + 1 ↔ 0 < state.actionSessions
          omega
  | readPrimary | videoSetCodecType _ =>
      refine iff_of_true (encoderSettled_of_outstanding ?_) trivial
      simp [State.proceed, Stage.callsEncoder]
  | videoStart =>
      refine imp_congr (not_congr ?_) (suits_videoStart_iff
        (invariant.finish .videoStart (by simp [Stage.Uncounted])))
      exact callOutstanding_continueWith_of_silent (by simp [Stage.callsEncoder])
  | stopVideoSleepModeTicker =>
      refine iff_of_true ?_ trivial
      obtain ⟨tickers, cancel, stopped⟩ := exists_stop_eq { state with
        running := state.running.erase .stopVideoSleepModeTicker }
      refine settled.of_count (callOutstanding_stop.trans
        (callOutstanding_finish _ rfl)) ?_ ?_
      · simp only [State.proceed, stopped]
      · simp only [State.proceed, stopped]
  | clearConnected id =>
      refine iff_of_true ?_ trivial
      have finished : CallOutstanding { state with
          running := state.running.erase (.clearConnected id) } ↔
            CallOutstanding state := callOutstanding_finish _ rfl
      unfold State.proceed
      dsimp only
      split_ifs with connected
      · refine settled.of_count ?_ rfl Iff.rfl
        exact (callOutstanding_continueWith_of_silent
          (by simp [Stage.callsEncoder])).trans finished
      · exact settled.of_count finished rfl Iff.rfl
  | decrActiveSessions =>
      refine iff_of_true ?_ trivial
      by_cases last : state.actionSessions - 1 = 0
      · apply encoderSettled_of_outstanding
        simp [State.proceed, last, Stage.callsEncoder]
      · apply settled.of_count
        · simp only [State.proceed, if_neg last]
          exact (callOutstanding_continueWith_of_silent (by simp)).trans
            (callOutstanding_finish .decrActiveSessions rfl)
        · rfl
        · change 0 < state.actionSessions - 1 ↔ 0 < state.actionSessions
          omega
  | videoStop =>
      refine imp_congr (not_congr ?_) (suits_of_stopped rfl _)
      exact callOutstanding_continueWith_of_silent (by simp [Stage.callsEncoder])
  | startVideoSleepModeTicker =>
      refine iff_of_true ?_ trivial
      obtain ⟨tickers, cancel, started⟩ := exists_start_eq { state with
        running := state.running.erase .startVideoSleepModeTicker }
      refine settled.of_count (callOutstanding_start.trans
        (callOutstanding_finish _ rfl)) ?_ ?_
      · simp only [State.proceed, started]
      · simp only [State.proceed, started]

/-- A step keeps the encoder settled exactly when it is not the last call
outstanding and out of turn. -/
theorem Invariant.encoderSettled_iff (invariant : Invariant state)
    (settled : EncoderSettled state) {label : Label}
    (taken : Video.step state label = some next) :
    EncoderSettled next ↔ LastCallInTurn state label := by
  rw [step_eq_some_iff] at taken
  cases label with
  | exchangeOffer id videoCodecPreference offerSDP =>
      obtain ⟨-, rfl⟩ := taken
      exact iff_of_true settled trivial
  | iceConnected id =>
      obtain ⟨-, rfl⟩ := taken
      refine iff_of_true (settled.of_count ?_ rfl Iff.rfl) trivial
      exact callOutstanding_continueWith_of_silent (by simp [Stage.callsEncoder])
  | iceClosed id visited =>
      subst taken
      refine iff_of_true (settled.of_count ?_ rfl Iff.rfl) trivial
      exact callOutstanding_continueWith_of_silent (by simp [Stage.callsEncoder])
  | stage stage =>
      obtain ⟨-, rfl⟩ := taken
      exact invariant.encoderSettled_proceed_iff settled
  | timerFires index =>
      obtain ⟨ticker, ⟨found, waiting⟩, rfl⟩ := taken
      refine iff_of_true ?_ trivial
      unfold State.timerFires
      split_ifs with active
      · refine settled.of_count (or_congr Iff.rfl ?_) rfl Iff.rfl
        exact enteringSleepMode_setTicker_iff found (by simp [waiting])
          (by simp)
      · apply encoderSettled_of_outstanding
        right
        have inside : index < state.tickers.length :=
          (List.getElem?_eq_some_iff.mp found).1
        exact ⟨_, List.mem_set inside _, rfl⟩
  | enterSleepMode index =>
      obtain ⟨ticker, ⟨found, entering⟩, rfl⟩ := taken
      have supported : state.videoSleepModeSupported = true := by
        by_contra unavailable
        have noTickers :=
          (invariant.unsupported (Bool.eq_false_iff.mpr unavailable)).1
        simp [noTickers] at found
      have stopped : (state.encoder.setSleepMode
          state.videoSleepModeSupported true).streaming = false := by
        simp [Encoder.setSleepMode, supported]
      refine imp_congr (not_congr (or_congr Iff.rfl ?_))
        (suits_of_stopped stopped _)
      exact (enteringSleepMode_setTicker (by simp)).trans
        (enteringSleepMode_setTicker (by simp)).symm
  | tickerStopped index =>
      obtain ⟨ticker, ⟨found, waiting, -⟩, rfl⟩ := taken
      refine iff_of_true
        (settled.of_count (or_congr Iff.rfl ?_) rfl Iff.rfl) trivial
      exact enteringSleepMode_setTicker_iff found (by simp [waiting]) (by simp)
  | rpcSetVideoSleepMode duration =>
      subst taken
      exact iff_of_true settled trivial

theorem Invariant.streamsToViewers (invariant : Invariant state)
    (settled : EncoderSettled state) : StreamsToViewers state := by
  intro idle
  have noStage : state.running = [] := by
    by_contra running
    exact idle (Or.inl running)
  have noCall : ¬ CallOutstanding state := by
    rintro (⟨stage, member, -⟩ | entering)
    · exact List.not_mem_nil (noStage ▸ member)
    · exact idle (Or.inr entering)
  obtain ⟨runs, stopped⟩ := settled noCall
  have counted := invariant.counted
  rw [noStage] at counted
  refine ⟨runs, fun none => stopped none.le, ?_⟩
  simpa using counted

end Step

theorem encoderSettled_initial (videoSleepModeSupported : Bool)
    (videoSleepAfterSec : Int) :
    EncoderSettled (initial videoSleepModeSupported videoSleepAfterSec) := by
  unfold initial
  obtain ⟨tickers, cancel, started⟩ :=
    exists_start_eq { videoSleepModeSupported, videoSleepAfterSec }
  rw [started]
  intro _
  simp [Suits]

/-- In a run whose last calls come in turn the encoder follows the viewers; and
these are exactly the runs in which it is settled throughout. -/
theorem streamsToViewers_of_lastCallInTurn (videoSleepModeSupported : Bool)
    (videoSleepAfterSec : Int) (labels : List Label) :
    (AllStates step EncoderSettled
        (initial videoSleepModeSupported videoSleepAfterSec) labels ↔
      AllSteps step LastCallInTurn
        (initial videoSleepModeSupported videoSleepAfterSec) labels) ∧
    (AllSteps step LastCallInTurn
        (initial videoSleepModeSupported videoSleepAfterSec) labels →
      AllStates step StreamsToViewers
        (initial videoSleepModeSupported videoSleepAfterSec) labels) := by
  have atStart :=
    Invariant.initial videoSleepModeSupported videoSleepAfterSec
  have settledAtStart :=
    encoderSettled_initial videoSleepModeSupported videoSleepAfterSec
  refine ⟨allStates_iff_allSteps_of_invariant ?_ ?_ atStart settledAtStart
    labels, fun inTurn => ?_⟩
  · intro state next label invariant taken
    exact invariant.step taken
  · intro state next label invariant settled taken
    exact invariant.encoderSettled_iff settled taken
  have everywhere : AllStates step
      (fun state => Invariant state ∧ EncoderSettled state)
      (initial videoSleepModeSupported videoSleepAfterSec) labels := by
    refine allStates_of_allSteps ?_ ⟨atStart, settledAtStart⟩ inTurn
    rintro state next label ⟨invariant, settled⟩ here taken
    exact ⟨invariant.step taken,
      (invariant.encoderSettled_iff settled taken).mpr here⟩
  exact everywhere.mono fun state both => both.1.streamsToViewers both.2

/-- The stages of the handler of a first session. -/
def firstSession : List Label :=
  [.stage .incrActiveSessions, .stage .readPrimary,
    .stage (.videoSetCodecType 0), .stage .videoStart,
    .stage .stopVideoSleepModeTicker]

/-- The stages of the handler of a last session. -/
def lastSession : List Label :=
  [.stage (.clearConnected "a"), .stage .decrActiveSessions, .stage .videoStop,
    .stage .startVideoSleepModeTicker]

/-- A viewer comes and goes; then a ticker puts the idle encoder to sleep. -/
theorem streamsToViewers_of_lastCallInTurn_idle :
    AllStates step StreamsToViewers (initial true 0)
      ([.exchangeOffer "a" "auto" "", .iceConnected "a"] ++ firstSession ++
        [.iceClosed "a" 0] ++ lastSession ++
        [.timerFires 1, .enterSleepMode 1]) := by
  apply (streamsToViewers_of_lastCallInTurn true 0 _).2
  decide +kernel

/-- The first viewer leaves; before its handler stops the encoder, a second one
connects and starts it. -/
def lateStop : List Label :=
  [.exchangeOffer "a" "auto" "", .exchangeOffer "b" "auto" "",
    .iceConnected "a"] ++ firstSession ++
  [.iceClosed "a" 0, .stage (.clearConnected "a"), .stage .decrActiveSessions,
    .iceConnected "b"] ++ firstSession ++
  [.stage .videoStop, .stage .startVideoSleepModeTicker]

/-- The second viewer is left with a stopped encoder. -/
theorem lateStop_not_streamsToViewers :
    ¬ AllStates step StreamsToViewers (initial true 0) lateStop := by
  intro everywhere
  have reaches : (exec step (initial true 0) lateStop).map (fun last =>
      (last.running, last.tickers.map Ticker.phase, last.actionSessions,
        last.encoder.streaming)) = some ([], [.waiting, .waiting], 1, false) := by
    decide +kernel
  obtain ⟨last, taken, atEnd⟩ := Option.map_eq_some_iff.mp reaches
  simp only [Prod.mk.injEq] at atEnd
  obtain ⟨noStage, waiting, one, stopped⟩ := atEnd
  have streams := everywhere.last taken
  have idle : ¬ InProgress last := by
    rintro (running | ⟨ticker, member, entering⟩)
    · exact running noStage
    · have phase : ticker.phase ∈ last.tickers.map Ticker.phase :=
        List.mem_map.mpr ⟨ticker, member, rfl⟩
      rw [waiting, entering] at phase
      simp at phase
  have runs := (streams idle).1 (by omega)
  exact Bool.false_ne_true (stopped.symm.trans runs.1)

end Video

end JetKvm
