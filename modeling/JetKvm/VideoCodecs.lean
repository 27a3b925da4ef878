import JetKvm.VideoStreaming

/-!
# One encoder for all viewers

Every sample of the encoder is written to the video track of every registered
session, but the codec of a track is negotiated for its session alone, and the
encoder is set to the codec of whichever session is the primary one when the
first session connects.
-/

namespace JetKvm

namespace Video

open LabelledRuns Signaling

/-- The codec `onFirstSessionConnected` means by a codec type. -/
def mimeTypeOf (codecType : Nat) : String :=
  if codecType = 1 then mimeTypeH265 else mimeTypeH264

/-- Every registered session has a track of the codec. -/
def AllTracks (state : State) (codecType : Nat) : Prop :=
  ∀ id ∈ state.registry.byID,
    state.codecMimeType id = some (mimeTypeOf codecType)

/-- While the encoder streams, the tracks it is broadcast to have its codec. -/
def ViewersDecode (state : State) : Prop :=
  state.encoder.streaming = true → AllTracks state state.encoder.codecType

/-- The encoder streams with the codec type, or a handler is about to set it or
to start the stream with it. -/
def StreamsWith (state : State) (codecType : Nat) : Prop :=
  (state.encoder.streaming = true ∨ .videoStart ∈ state.running) ∧
      state.encoder.codecType = codecType ∨
    .videoSetCodecType codecType ∈ state.running

/-- When the handler of a first session reads the primary one, all registered
sessions have offered the codec of that session, and so does every session that
registers until the stream ends. -/
def SharesCodec (state : State) : Label → Prop
  | .exchangeOffer id videoCodecPreference offerSDP =>
      id ≠ "" → ∀ codecType, StreamsWith state codecType →
        resolveCodec videoCodecPreference offerSDP = mimeTypeOf codecType
  | .stage .readPrimary =>
      ∀ primary, state.registry.primary = some primary →
        ∀ id ∈ state.registry.byID,
          state.codecMimeType id = state.codecMimeType primary
  | _ => True

/-- The primary session is a registered one, and the tracks have the codecs
with which the encoder streams or is about to. -/
structure Shared (state : State) : Prop where
  primary : ∀ primary, state.registry.primary = some primary →
    primary ∈ state.registry.byID
  noPrimary : state.registry.primary = none → state.registry.byID = []
  codecs : ∀ id ∈ state.registry.byID,
    state.codecMimeType id = some mimeTypeH264 ∨
      state.codecMimeType id = some mimeTypeH265
  tracks : ∀ codecType, StreamsWith state codecType → AllTracks state codecType

theorem Shared.viewersDecode {state : State} (shared : Shared state) :
    ViewersDecode state :=
  fun streams => shared.tracks _ (.inl ⟨.inl streams, rfl⟩)

theorem resolveCodec_cases (videoCodecPreference offerSDP : String) :
    resolveCodec videoCodecPreference offerSDP = mimeTypeH264 ∨
      resolveCodec videoCodecPreference offerSDP = mimeTypeH265 := by
  unfold resolveCodec
  dsimp only
  split_ifs <;> simp

section Step

variable {state next : State}

/-- A step that leaves the sessions alone -/
theorem Shared.of_streamsWith (shared : Shared state)
    (registry : next.registry = state.registry)
    (codecMimeType : next.codecMimeType = state.codecMimeType)
    (tracks : ∀ codecType, StreamsWith next codecType →
      StreamsWith state codecType ∨ AllTracks state codecType) :
    Shared next := by
  refine ⟨?_, ?_, ?_, fun codecType streams => ?_⟩
  · rw [registry]
    exact shared.primary
  · rw [registry]
    exact shared.noPrimary
  · rw [registry, codecMimeType]
    exact shared.codecs
  · unfold AllTracks
    rw [registry, codecMimeType]
    exact (tracks codecType streams).elim (shared.tracks codecType) id

/-- Sessions that share the codec of the primary one have the codec type that
is chosen for it. -/
theorem Shared.allTracks_primary (shared : Shared state)
    (shares : SharesCodec state (.stage .readPrimary)) :
    AllTracks state state.primaryCodecType := by
  intro id registered
  unfold State.primaryCodecType
  cases isPrimary : state.registry.primary with
  | none =>
      rw [shared.noPrimary isPrimary] at registered
      cases registered
  | some primary =>
      rw [shares primary isPrimary id registered]
      have distinct : mimeTypeH264 ≠ mimeTypeH265 := by decide
      rcases shared.codecs primary (shared.primary primary isPrimary) with
        codec | codec
      · simp [codec, mimeTypeOf, distinct]
      · simp [codec, mimeTypeOf]

/-- The session that registers is the only one whose track is new. -/
theorem Shared.exchangeOffer (shared : Shared state)
    {id videoCodecPreference offerSDP : String}
    (unknown : state.codecMimeType id = none)
    (shares : SharesCodec state
      (.exchangeOffer id videoCodecPreference offerSDP)) :
    Shared { state with
      codecMimeType := fun other =>
        if other = id then some (resolveCodec videoCodecPreference offerSDP)
        else state.codecMimeType other
      registry := state.registry.add id } := by
  have unregistered : id ∉ state.registry.byID := by
    intro registered
    rcases shared.codecs id registered with track | track <;>
      exact Option.some_ne_none _ (track.symm.trans unknown)
  have registered_cases : ∀ other ∈ (state.registry.add id).byID,
      other = id ∧ id ≠ "" ∨ other ≠ id ∧ other ∈ state.registry.byID := by
    intro other registered
    unfold SessionRegistry.add at registered
    split_ifs at registered with unnamed
    · exact .inr ⟨fun same => unregistered (same ▸ registered), registered⟩
    · rcases List.mem_cons.mp registered with same | old
      · exact .inl ⟨same, unnamed⟩
      · exact .inr (by simpa [and_comm] using old)
  refine ⟨?_, ?_, ?_, ?_⟩
  · intro primary isPrimary
    unfold SessionRegistry.add at isPrimary ⊢
    split_ifs at isPrimary ⊢
    · exact shared.primary primary isPrimary
    · obtain rfl := Option.some.inj isPrimary
      exact List.mem_cons_self ..
  · intro none
    unfold SessionRegistry.add at none ⊢
    split_ifs at none ⊢
    exact shared.noPrimary none
  · intro other registered
    rcases registered_cases other registered with ⟨rfl, -⟩ | ⟨different, old⟩
    · simpa using resolveCodec_cases videoCodecPreference offerSDP
    · simpa [different] using shared.codecs other old
  · intro codecType streams other registered
    rcases registered_cases other registered with
      ⟨rfl, named⟩ | ⟨different, old⟩
    · simpa using shares named codecType streams
    · simpa [different] using shared.tracks codecType streams other old

theorem Shared.iceClosed (shared : Shared state) (id : String) (visited : Nat) :
    Shared { state with registry := state.registry.remove id visited } where
  primary _ isPrimary :=
    SessionRegistry.mem_of_primary_remove (shared.primary _) isPrimary
  noPrimary none := by
    simp only [SessionRegistry.remove] at none ⊢
    split_ifs at none
    · rw [List.getElem?_eq_none_iff] at none
      by_contra left
      exact absurd (Nat.mod_lt visited (List.length_pos_of_ne_nil left))
        (Nat.not_lt.mpr none)
    · rw [shared.noPrimary none]
      rfl
  codecs other registered :=
    shared.codecs other (SessionRegistry.mem_byID_remove.mp registered).1
  tracks codecType streams other registered :=
    shared.tracks codecType streams other
      (SessionRegistry.mem_byID_remove.mp registered).1

theorem codecType_videoStart (supported : Bool) (encoder : Encoder) :
    (encoder.videoStart supported).codecType = encoder.codecType := by
  unfold Encoder.videoStart Encoder.setSleepMode
  split_ifs <;> rfl

theorem sessions_proceed (state : State) (stage : Stage) :
    (state.proceed stage).registry = state.registry ∧
      (state.proceed stage).codecMimeType = state.codecMimeType := by
  cases stage with
  | stopVideoSleepModeTicker =>
      obtain ⟨tickers, cancel, stopped⟩ := exists_stop_eq state
      rw [State.proceed, stopped]
      exact ⟨rfl, rfl⟩
  | startVideoSleepModeTicker =>
      obtain ⟨tickers, cancel, started⟩ := exists_start_eq state
      rw [State.proceed, started]
      exact ⟨rfl, rfl⟩
  | clearConnected id =>
      unfold State.proceed
      dsimp only
      split_ifs <;> exact ⟨rfl, rfl⟩
  | _ => exact ⟨rfl, rfl⟩

/-- Only the handler that reads the primary session brings a new codec type. -/
theorem streamsWith_proceed {stage : Stage} (running : stage ∈ state.running)
    {codecType : Nat}
    (streams : StreamsWith ({ state with
      running := state.running.erase stage }.proceed stage) codecType) :
    StreamsWith state codecType ∨
      stage = .readPrimary ∧ codecType = state.primaryCodecType := by
  have before {other : Stage} (still : other ∈ state.running.erase stage) :
      other ∈ state.running := List.mem_of_mem_erase still
  cases stage with
  | videoStart =>
      simp only [StreamsWith, State.proceed, State.setEncoder,
        State.continueWith, codecType_videoStart] at streams ⊢
      grind
  | stopVideoSleepModeTicker =>
      obtain ⟨tickers, cancel, stopped⟩ := exists_stop_eq { state with
        running := state.running.erase .stopVideoSleepModeTicker }
      simp only [State.proceed, stopped, StreamsWith] at streams ⊢
      grind
  | startVideoSleepModeTicker =>
      obtain ⟨tickers, cancel, started⟩ := exists_start_eq { state with
        running := state.running.erase .startVideoSleepModeTicker }
      simp only [State.proceed, started, StreamsWith] at streams ⊢
      grind
  | clearConnected id =>
      simp only [State.proceed] at streams
      split at streams <;>
        simp only [StreamsWith, State.continueWith] at streams ⊢ <;> grind
  | _ =>
      simp only [StreamsWith, State.proceed, State.setEncoder,
        State.continueWith, Encoder.videoSetCodecType,
        Encoder.videoStop] at streams ⊢
      grind [State.primaryCodecType]

theorem Shared.step (shared : Shared state) {label : Label}
    (shares : SharesCodec state label)
    (taken : Video.step state label = some next) : Shared next := by
  rw [step_eq_some_iff] at taken
  cases label with
  | exchangeOffer id videoCodecPreference offerSDP =>
      obtain ⟨unknown, rfl⟩ := taken
      exact shared.exchangeOffer unknown shares
  | iceConnected id =>
      obtain ⟨-, rfl⟩ := taken
      refine shared.of_streamsWith rfl rfl fun codecType streams => .inl ?_
      simpa [StreamsWith, State.continueWith] using streams
  | iceClosed id visited =>
      subst taken
      refine (shared.iceClosed id visited).of_streamsWith rfl rfl
        fun codecType streams => .inl ?_
      simpa [StreamsWith, State.continueWith] using streams
  | stage stage =>
      obtain ⟨running, rfl⟩ := taken
      obtain ⟨registry, codecMimeType⟩ := sessions_proceed { state with
        running := state.running.erase stage } stage
      refine shared.of_streamsWith registry codecMimeType
        fun codecType streams => ?_
      refine (streamsWith_proceed running streams).imp_right ?_
      rintro ⟨rfl, rfl⟩
      exact shared.allTracks_primary shares
  | timerFires index =>
      obtain ⟨ticker, -, rfl⟩ := taken
      exact shared.of_streamsWith rfl rfl fun _ => .inl
  | enterSleepMode index =>
      obtain ⟨ticker, -, rfl⟩ := taken
      refine shared.of_streamsWith rfl rfl fun codecType streams => .inl ?_
      simp only [StreamsWith, State.enterSleepMode, State.setTicker,
        State.setEncoder, Encoder.setSleepMode] at streams ⊢
      split_ifs at streams <;> grind
  | tickerStopped index =>
      obtain ⟨ticker, -, rfl⟩ := taken
      exact shared.of_streamsWith rfl rfl fun _ => .inl
  | rpcSetVideoSleepMode duration =>
      subst taken
      exact shared.of_streamsWith rfl rfl fun _ => .inl

end Step

theorem shared_initial (videoSleepModeSupported : Bool)
    (videoSleepAfterSec : Int) :
    Shared (initial videoSleepModeSupported videoSleepAfterSec) := by
  unfold initial
  obtain ⟨tickers, cancel, started⟩ :=
    exists_start_eq { videoSleepModeSupported, videoSleepAfterSec }
  rw [started]
  refine ⟨nofun, fun _ => rfl, nofun, fun codecType streams => ?_⟩
  simp [StreamsWith] at streams

/-- Every viewer has the codec of the stream throughout a run in which the
viewers share one whenever a handler starts the encoder, and those that come
later offer it too. -/
theorem viewersDecode_of_sharesCodec (videoSleepModeSupported : Bool)
    (videoSleepAfterSec : Int) (labels : List Label)
    (shares : AllSteps step SharesCodec
      (initial videoSleepModeSupported videoSleepAfterSec) labels) :
    AllStates step ViewersDecode
      (initial videoSleepModeSupported videoSleepAfterSec) labels := by
  have everywhere := allStates_of_allSteps
    (fun shared here taken => Shared.step shared here taken)
    (shared_initial videoSleepModeSupported videoSleepAfterSec) shares
  exact everywhere.mono fun _ => Shared.viewersDecode

/-- With the preference for H.264 a second viewer is answered with it while the
encoder streams it to the first. -/
def sameCodec : List Label :=
  [.exchangeOffer "a" "h264" "H264", .iceConnected "a",
    .stage .incrActiveSessions, .stage .readPrimary,
    .stage (.videoSetCodecType 0), .stage .videoStart,
    .exchangeOffer "b" "h264" "H264 H265", .iceConnected "b"]

theorem viewersDecode_sameCodec :
    AllStates step ViewersDecode (initial true 0) sameCodec := by
  refine viewersDecode_of_sharesCodec _ _ _ ?_
  refine allSteps_cons_of_step rfl (fun _ codecType streams => ?_) ?_
  · simp [StreamsWith, initial, State.startVideoSleepModeTicker,
      State.stopVideoSleepModeTicker] at streams
  refine allSteps_cons_of_step rfl trivial ?_
  refine allSteps_cons_of_step rfl trivial ?_
  refine allSteps_cons_of_step rfl ?_ ?_
  · intro primary isPrimary id registered
    obtain rfl := Option.some.inj isPrimary
    rw [List.mem_singleton.mp registered]
  refine allSteps_cons_of_step rfl trivial ?_
  refine allSteps_cons_of_step rfl trivial ?_
  refine allSteps_cons_of_step rfl (fun _ codecType streams => ?_)
    (allSteps_cons_of_step rfl trivial trivial)
  rcases streams with ⟨-, rfl⟩ | pending
  · rfl
  · have left : Stage.videoSetCodecType codecType ∈
        [Stage.stopVideoSleepModeTicker] := pending
    simp at left

/-- A viewer that supports H.265 starts the stream; then another one offers
H.264 alone. -/
def mixedCodecs : List Label :=
  [.exchangeOffer "a" "auto" "H265", .iceConnected "a",
    .stage .incrActiveSessions, .stage .readPrimary,
    .stage (.videoSetCodecType 1), .stage .videoStart,
    .exchangeOffer "b" "auto" "H264"]

/-- The second viewer is sent H.265 on a track of H.264. -/
theorem mixedCodecs_not_viewersDecode :
    ¬ AllStates step ViewersDecode (initial true 0) mixedCodecs := by
  intro everywhere
  have reaches : (exec step (initial true 0) mixedCodecs).map (fun last =>
      (last.encoder.streaming, last.encoder.codecType, last.registry.byID,
        last.codecMimeType "b")) =
      some (true, 1, ["b", "a"], some mimeTypeH264) := by
    decide +kernel
  obtain ⟨last, taken, atEnd⟩ := Option.map_eq_some_iff.mp reaches
  simp only [Prod.mk.injEq] at atEnd
  obtain ⟨streams, codec, registered, track⟩ := atEnd
  have decodes := everywhere.last taken streams "b" (by simp [registered])
  rw [track, codec] at decodes
  revert decodes
  decide

end Video

end JetKvm
