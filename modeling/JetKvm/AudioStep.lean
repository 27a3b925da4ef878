import JetKvm.AudioRecovery
import JetKvm.BufferStores
import JetKvm.GoSlices
import JetKvm.LabelledRuns
import Mathlib.Data.Set.Basic

/-!
# One step of the audio

Translation of `jetkvm_audio_read_encode`, `jetkvm_audio_decode_write` and
`simd_clear_samples_s16` in `internal/audio/c/audio.c`, and of `ReadMessage` in
`internal/audio/cgo_source.go`.  What ALSA and Opus return is a label of a run.
The encoder may return more than `ReadMessage` has room for.
-/

namespace JetKvm

namespace AudioStep

open AudioRecovery BufferStores LabelledRuns

/-! ### What `Connect` sets -/

def frameSize : Nat := 960
def channels : Nat := 2
def maxPacketSize : Nat := 1500

def ipcMaxFrameSize : Nat := 1024
def ipcMsgTypeOpus : UInt8 := 0

/-! ### Clearing samples -/

/-- `vst1q_s16` with zero -/
def storeZeros (position : Nat) (buffer : List Int16) : Option (List Int16) :=
  store buffer position (List.replicate 8 0)

/-- The loop that clears sixteen samples at a time -/
def clearBlocks : Nat → Nat → List Int16 → Option (List Int16)
  | 0, _, buffer => some buffer
  | blocks + 1, position, buffer =>
      ((storeZeros position buffer).bind (storeZeros (position + 8))).bind
        (clearBlocks blocks (position + 16))

/-- The samples are cleared from `start` on. -/
def simdClearSamplesS16 (start samples : Nat) (buffer : List Int16) :
    Option (List Int16) :=
  let simdSamples := samples - samples % 16
  (clearBlocks (simdSamples / 16) start buffer).bind fun buffer =>
    if simdSamples + 8 ≤ samples then
      (storeZeros (start + simdSamples) buffer).bind
        (fill 0 (samples - (simdSamples + 8)) (start + (simdSamples + 8)))
    else fill 0 (samples - simdSamples) (start + simdSamples) buffer

/-- What is missing after a short read -/
def zeroPad (pcmRc : Int) (pcmBuffer : List Int16) : Option (List Int16) :=
  if pcmRc < frameSize then
    simdClearSamplesS16 (pcmRc.toNat * channels)
      ((frameSize - pcmRc.toNat) * channels) pcmBuffer
  else some pcmBuffer

/-! ### Capturing -/

/-- A buffer is `none` once it was written past its end.  Besides the two buffers
and where the code stands: the samples of the last read that returned some, and
the frames that were encoded, each with the result. -/
structure Capturing where
  control : Control
  pcmBuffer : Option (List Int16)
  opusBuf : Option (List UInt8)
  samples : List Int16 := []
  encoded : List (Option (List Int16) × Int) := []
  deriving DecidableEq, Repr

inductive CaptureLabel where
  | read (pcmRc : Int) (samples : List Int16)
  | recover (call : AlsaCall) (rc : Int)
  | encode (nbBytes : Int) (packet : List UInt8)
  deriving DecidableEq, Repr

/-- At most a frame is read, and a packet is at most as long as the encoder was
told; an error delivers nothing. -/
def captureStep (s : Capturing) (label : CaptureLabel) : Option Capturing :=
  match s.control, label with
  | .calling .transfer recoveryAttempts, .read pcmRc samples =>
      if samples.length = pcmRc.toNat * channels ∧ pcmRc ≤ frameSize then
        some { s with
          control := proceedRead .transfer recoveryAttempts pcmRc
          pcmBuffer := s.pcmBuffer.bind (store · 0 samples)
          samples := samples }
      else none
  | .calling point recoveryAttempts, .recover call rc =>
      if point ≠ .transfer ∧ call = point.call then
        some { s with control := proceedRead point recoveryAttempts rc }
      else none
  | .transferred pcmRc, .encode nbBytes packet =>
      if packet.length = nbBytes.toNat ∧ nbBytes ≤ maxPacketSize then
        let frame := s.pcmBuffer.bind (zeroPad pcmRc)
        some { s with
          control := .returned nbBytes
          pcmBuffer := frame
          opusBuf := s.opusBuf.bind (store · 0 packet)
          encoded := (frame, nbBytes) :: s.encoded }
      else none
  | _, _ => none

/-- `initialized` if the capture and the encoder are there -/
def startCapture (initialized : Bool) (pcmBuffer : List Int16)
    (opusBuf : List UInt8) : Capturing where
  control := if initialized then .calling .transfer 0 else .returned (-1)
  pcmBuffer := some pcmBuffer
  opusBuf := some opusBuf

structure CgoSource where
  direction : String
  connected : Bool
  opusBuf : Slice UInt8
  deriving DecidableEq, Repr

/-- What `ReadMessage` makes of the result of the capture: the type, the payload
and the error -/
def CgoSource.readMessage (c : CgoSource) (opusSize : Int) :
    Outcome (UInt8 × Option (Slice UInt8) × Option String) :=
  if c.connected = false then .ok (0, none, some "not connected")
  else if c.direction ≠ "output" then
    .ok (0, none, some "ReadMessage only supported for output direction")
  else if opusSize < 0 then
    .ok (0, none,
      some ("jetkvm_audio_read_encode failed: " ++ toString opusSize))
  else if opusSize = 0 then .ok (0, none, none)
  else do
    let payload ← c.opusBuf.between 0 opusSize.toNat
    pure (ipcMsgTypeOpus, some payload, none)

/-- A capture that `ReadMessage` calls, as far as it got -/
structure Capture where
  source : CgoSource
  initialized : Bool
  pcmBuffer : List Int16
  labels : List CaptureLabel
  last : Capturing
  output : source.direction = "output"
  connected : source.connected = true
  made : source.opusBuf.elements.length = ipcMaxFrameSize ∧
    source.opusBuf.spare = []
  declared : pcmBuffer.length = frameSize * channels
  reaches : exec captureStep
    (startCapture initialized pcmBuffer source.opusBuf.elements) labels = some last

/-! ### Playing -/

/-- Where `jetkvm_audio_decode_write` stands; `pcmFrames` is what it decoded. -/
inductive Playing where
  | decoding
  | concealing
  | writing (pcmFrames : Int) (point : Point) (recoveryAttempts : Nat)
  | returned (rc : Int)
  deriving DecidableEq, Repr

inductive PlaybackLabel where
  | decode (pcmFrames : Int)
  | conceal (pcmFrames : Int)
  | alsa (call : AlsaCall) (rc : Int)
  deriving DecidableEq, Repr

/-- A write that succeeds ends the call with the frames that were decoded. -/
def playingOf (pcmFrames : Int) : Control → Playing
  | .calling point recoveryAttempts => .writing pcmFrames point recoveryAttempts
  | .transferred _ => .returned pcmFrames
  | .returned rc => .returned rc

def playbackStep (s : Playing) (label : PlaybackLabel) : Option Playing :=
  match s, label with
  | .decoding, .decode pcmFrames =>
      some (if pcmFrames < 0 then .concealing else .writing pcmFrames .transfer 0)
  | .concealing, .conceal pcmFrames =>
      some (if pcmFrames < 0 then .returned (-1)
        else .writing pcmFrames .transfer 0)
  | .writing pcmFrames point recoveryAttempts, .alsa call rc =>
      if call = point.call then
        some (playingOf pcmFrames (proceedWrite point recoveryAttempts rc))
      else none
  | _, _ => none

/-- `initialized` if the playback, the decoder and the packet are there -/
def startPlayback (initialized : Bool) (opusSize : Int) : Playing :=
  if initialized = false ∨ opusSize ≤ 0 then .returned (-1)
  else if opusSize > maxPacketSize then .returned (-1)
  else .decoding

structure Playback where
  initialized : Bool
  opusSize : Int
  labels : List PlaybackLabel
  last : Playing
  reaches : exec playbackStep (startPlayback initialized opusSize) labels = some last

/-! ### Safe and bounded -/

def CaptureLabel.isAlsa : CaptureLabel → Bool
  | .read _ _ | .recover _ _ => true
  | .encode _ _ => false

def PlaybackLabel.isAlsa : PlaybackLabel → Bool
  | .alsa _ _ => true
  | .decode _ | .conceal _ => false

def Capture.alsaCalls (capture : Capture) : Nat :=
  capture.labels.countP CaptureLabel.isAlsa

def Playback.alsaCalls (playback : Playback) : Nat :=
  playback.labels.countP PlaybackLabel.isAlsa

/-- An error or 0 with nothing encoded, or the result of encoding one frame: the
samples that were read, and zeros -/
structure Returns (s : Capturing) (rc : Int) : Prop where
  result : (rc < 0 ∨ rc = 0) ∧ s.encoded = [] ∨
    s.encoded =
      [(some (s.samples ++
        List.replicate (frameSize * channels - s.samples.length) 0), rc)]
  fits : s.samples.length ≤ frameSize * channels

/-- The packet was written, and is sliced, within the buffer. -/
structure Within (capture : Capture) (rc : Int) : Prop where
  written : capture.last.opusBuf.isSome
  sliced : (capture.source.readMessage rc).Returns

/-- What holds of the captures that are made, and of all playbacks -/
structure SafeAndBounded (captures : Set Capture) : Prop where
  captureCalls : ∃ bound, ∀ capture ∈ captures, capture.alsaCalls ≤ bound
  playbackCalls : ∃ bound, ∀ playback : Playback, playback.alsaCalls ≤ bound
  returns : ∀ capture ∈ captures, ∀ rc, capture.last.control = .returned rc →
    Returns capture.last rc
  within : ∀ capture ∈ captures, ∀ rc, capture.last.control = .returned rc →
    Within capture rc

/-- A read for which there is nothing yet -/
def CaptureLabel.isEagain : CaptureLabel → Bool
  | .read pcmRc _ => pcmRc = -eagain
  | _ => false

def Capture.eagains (capture : Capture) : Nat :=
  capture.labels.countP CaptureLabel.isEagain

def CaptureLabel.nbBytes : CaptureLabel → Option Int
  | .encode nbBytes _ => some nbBytes
  | _ => none

/-- The results of `opus_encode` -/
def Capture.results (capture : Capture) : List Int :=
  capture.labels.filterMap CaptureLabel.nbBytes

/-! ### The frame that is encoded -/

section Clearing

variable {buffer : List Int16} {start : Nat}

theorem clearBlocks_eq_store {blocks : Nat} (inside : start ≤ buffer.length) :
    clearBlocks blocks start buffer =
      store buffer start (List.replicate (16 * blocks) 0) := by
  induction blocks generalizing start buffer with
  | zero => exact (store_nil inside).symm
  | succ blocks ih =>
      have block : (storeZeros start buffer).bind (storeZeros (start + 8)) =
          store buffer start (List.replicate 16 0) :=
        store_bind fun next fits => rfl
      rw [clearBlocks, block, Nat.mul_succ, Nat.add_comm (16 * blocks) 16,
        ← List.replicate_append_replicate]
      refine store_bind fun next fits => ?_
      rw [List.length_replicate] at fits ⊢
      exact ih fits

theorem simdClearSamplesS16_eq_store (samples : Nat)
    (inside : start ≤ buffer.length) :
    simdClearSamplesS16 start samples buffer =
      store buffer start (List.replicate samples 0) := by
  obtain ⟨simd, rest, rfl, aligned, blocks⟩ : ∃ simd rest, samples = simd + rest ∧
      simd + rest - (simd + rest) % 16 = simd ∧ 16 * (simd / 16) = simd :=
    ⟨samples - samples % 16, samples % 16, by omega, by omega, by omega⟩
  dsimp only [simdClearSamplesS16]
  rw [aligned, clearBlocks_eq_store inside, blocks, ← List.replicate_append_replicate]
  refine store_bind fun next fits => ?_
  rw [List.length_replicate] at fits ⊢
  split_ifs with eight
  · obtain ⟨more, rfl⟩ : ∃ more, rest = 8 + more := ⟨rest - 8, by omega⟩
    have left : simd + (8 + more) - (simd + 8) = more := by omega
    rw [left, ← List.replicate_append_replicate, ← Nat.add_assoc]
    exact store_bind fun next fits => fill_eq_store 0 fits
  · rw [Nat.add_sub_cancel_left]
    exact fill_eq_store 0 fits

end Clearing

theorem zeroPad_eq {pcmRc : Int} {samples rest : List Int16}
    (read : samples.length = pcmRc.toNat * channels)
    (short : pcmRc ≤ frameSize)
    (declared : (samples ++ rest).length = frameSize * channels) :
    zeroPad pcmRc (samples ++ rest) =
      some (samples ++
        List.replicate (frameSize * channels - samples.length) 0) := by
  have missing : frameSize * channels - samples.length = rest.length := by
    rw [List.length_append] at declared
    omega
  unfold zeroPad
  split_ifs with less
  · have cleared : (frameSize - pcmRc.toNat) * channels = rest.length := by
      rw [Nat.sub_mul, ← read, missing]
    rw [simdClearSamplesS16_eq_store _ (by rw [← read]; simp), ← read, cleared,
      missing]
    exact store_length_append List.length_replicate
  · have full : pcmRc.toNat = frameSize := by omega
    rw [full] at read
    have none : rest.length = 0 := by omega
    rw [missing, none, List.length_eq_zero_iff.mp none]
    rfl

/-! ### What a capture does -/

/-- What one step can do -/
inductive CaptureStepped (s : Capturing) : CaptureLabel → Capturing → Prop
  | read (recoveryAttempts : Nat) (pcmRc : Int) (samples : List Int16) :
      s.control = .calling .transfer recoveryAttempts →
      samples.length = pcmRc.toNat * channels → pcmRc ≤ frameSize →
      CaptureStepped s (.read pcmRc samples)
        { s with
          control := proceedRead .transfer recoveryAttempts pcmRc
          pcmBuffer := s.pcmBuffer.bind (store · 0 samples)
          samples := samples }
  | recover (point : Point) (recoveryAttempts : Nat) (rc : Int) :
      s.control = .calling point recoveryAttempts → point ≠ .transfer →
      CaptureStepped s (.recover point.call rc)
        { s with control := proceedRead point recoveryAttempts rc }
  | encode (pcmRc nbBytes : Int) (packet : List UInt8) :
      s.control = .transferred pcmRc →
      packet.length = nbBytes.toNat → nbBytes ≤ maxPacketSize →
      CaptureStepped s (.encode nbBytes packet)
        { s with
          control := .returned nbBytes
          pcmBuffer := s.pcmBuffer.bind (zeroPad pcmRc)
          opusBuf := s.opusBuf.bind (store · 0 packet)
          encoded := (s.pcmBuffer.bind (zeroPad pcmRc), nbBytes) :: s.encoded }

variable {s next first last : Capturing} {label : CaptureLabel}
variable {labels : List CaptureLabel}

theorem stepped_of_captureStep (taken : captureStep s label = some next) :
    CaptureStepped s label next := by
  unfold captureStep at taken
  split at taken
  · rename_i recoveryAttempts pcmRc samples control
    rw [Option.ite_none_right_eq_some] at taken
    obtain ⟨⟨length, short⟩, taken⟩ := taken
    cases taken
    exact .read recoveryAttempts pcmRc samples control length short
  · rename_i point recoveryAttempts call rc control
    rw [Option.ite_none_right_eq_some] at taken
    obtain ⟨⟨recovers, rfl⟩, taken⟩ := taken
    cases taken
    exact .recover point recoveryAttempts rc control recovers
  · rename_i pcmRc nbBytes packet control
    rw [Option.ite_none_right_eq_some] at taken
    obtain ⟨⟨length, short⟩, taken⟩ := taken
    cases taken
    exact .encode pcmRc nbBytes packet control length short
  · cases taken

/-- Nothing is encoded yet, and the packet buffer is as it was made. -/
structure Unencoded (s : Capturing) : Prop where
  encoded : s.encoded = []
  opusBuf : ∃ opusBuf, s.opusBuf = some opusBuf ∧ opusBuf.length = ipcMaxFrameSize

/-- What is known where the code stands -/
def Known (s : Capturing) : Control → Prop
  | .calling _ _ => Unencoded s ∧
      ∃ pcmBuffer, s.pcmBuffer = some pcmBuffer ∧
        pcmBuffer.length = frameSize * channels
  | .transferred pcmRc => Unencoded s ∧
      s.samples.length = pcmRc.toNat * channels ∧ pcmRc ≤ frameSize ∧
        ∃ rest, s.pcmBuffer = some (s.samples ++ rest) ∧
          (s.samples ++ rest).length = frameSize * channels
  | .returned rc => (rc < 0 ∨ rc = 0) ∧ Unencoded s ∨
      s.encoded = [(some (s.samples ++
        List.replicate (frameSize * channels - s.samples.length) 0), rc)] ∧
        (s.opusBuf.isSome ↔ rc ≤ ipcMaxFrameSize)

structure Good (s : Capturing) : Prop where
  samples : s.samples.length ≤ frameSize * channels
  known : Known s s.control

theorem good_startCapture (initialized : Bool) {pcmBuffer : List Int16}
    {opusBuf : List UInt8} (declared : pcmBuffer.length = frameSize * channels)
    (made : opusBuf.length = ipcMaxFrameSize) :
    Good (startCapture initialized pcmBuffer opusBuf) := by
  have unencoded : Unencoded (startCapture initialized pcmBuffer opusBuf) :=
    ⟨rfl, opusBuf, rfl, made⟩
  refine ⟨Nat.zero_le _, ?_⟩
  cases initialized
  · exact .inl ⟨.inl (by decide), unencoded⟩
  · exact ⟨unencoded, pcmBuffer, rfl, declared⟩

theorem known_of_proceeded {point : Point} {rc : Int} {control : Control}
    (proceeded : Proceeded point rc control) (unencoded : Unencoded s)
    (pcmBuffer : ∃ pcmBuffer, s.pcmBuffer = some pcmBuffer ∧
      pcmBuffer.length = frameSize * channels)
    (transferred : point = .transfer → 0 ≤ rc → Known s (.transferred rc)) :
    Known s control := by
  cases proceeded with
  | calling point recoveryAttempts => exact ⟨unencoded, pcmBuffer⟩
  | failed => exact .inl ⟨.inl (by decide), unencoded⟩
  | skipped => exact .inl ⟨.inr rfl, unencoded⟩
  | transferred transfers succeeded => exact transferred transfers succeeded

theorem good_of_stepped (good : Good s) (stepped : CaptureStepped s label next) :
    Good next := by
  obtain ⟨samples, known⟩ := good
  cases stepped with
  | read recoveryAttempts pcmRc read control length short =>
      rw [control] at known
      obtain ⟨⟨encoded, opusBuf⟩, pcmBuffer, isBuffer, declared⟩ := known
      have fits : read.length ≤ frameSize * channels := by
        unfold frameSize channels at *
        omega
      have stored : s.pcmBuffer.bind (store · 0 read) =
          some (read ++ pcmBuffer.drop read.length) := by
        rw [isBuffer, Option.bind_some]
        exact store_zero (by rwa [declared])
      have same : (read ++ pcmBuffer.drop read.length).length =
          frameSize * channels := by
        rw [List.length_append, List.length_drop]
        omega
      refine ⟨fits, ?_⟩
      refine known_of_proceeded
        (proceeded_proceedRead .transfer recoveryAttempts pcmRc)
        ⟨encoded, opusBuf⟩ ⟨_, stored, same⟩ fun _ succeeded => ?_
      exact ⟨⟨encoded, opusBuf⟩, length, short, _, stored, same⟩
  | recover point recoveryAttempts rc control recovers =>
      rw [control] at known
      obtain ⟨⟨encoded, opusBuf⟩, pcmBuffer⟩ := known
      refine ⟨samples, ?_⟩
      exact known_of_proceeded (proceeded_proceedRead point recoveryAttempts rc)
        ⟨encoded, opusBuf⟩ pcmBuffer fun transfers => absurd transfers recovers
  | encode pcmRc nbBytes packet control length limited =>
      rw [control] at known
      obtain ⟨⟨encoded, opusBuf, isBuffer, made⟩, read, short, rest, isRead,
        declared⟩ := known
      have padded : s.pcmBuffer.bind (zeroPad pcmRc) = some (s.samples ++
          List.replicate (frameSize * channels - s.samples.length) 0) := by
        rw [isRead, Option.bind_some]
        exact zeroPad_eq read short declared
      refine ⟨samples, .inr ⟨?_, ?_⟩⟩
      · dsimp only
        rw [padded, encoded]
      · dsimp only
        rw [isBuffer, Option.bind_some, isSome_store_iff, made, length]
        omega

theorem good_of_exec (good : Good first)
    (reaches : exec captureStep first labels = some last) : Good last :=
  (allStates_of_invariant
    (fun good taken => good_of_stepped good (stepped_of_captureStep taken))
    good labels).last reaches

/-- The results of the encoder, the latest first -/
theorem encoded_of_exec (reaches : exec captureStep first labels = some last) :
    last.encoded.map Prod.snd =
      (labels.filterMap CaptureLabel.nbBytes).reverse ++
        first.encoded.map Prod.snd := by
  induction labels generalizing first with
  | nil =>
      cases reaches
      rfl
  | cons label labels ih =>
      obtain ⟨next, taken, reaches⟩ := exists_first_step reaches
      rw [ih reaches]
      cases stepped_of_captureStep taken with
      | read => rfl
      | recover => rfl
      | encode => simp [CaptureLabel.nbBytes]

/-! ### The number of calls -/

theorem capture_pays (taken : captureStep s label = some next) :
    next.control.calls + (if label.isAlsa then 1 else 0) ≤
      s.control.calls + if label.isEagain then 2 else 0 := by
  cases stepped_of_captureStep taken with
  | read recoveryAttempts pcmRc samples control length short =>
      have pays : (proceedRead .transfer recoveryAttempts pcmRc).calls + 1 ≤
          Point.transfer.calls recoveryAttempts +
            if Point.transfer.call = .transfer then if pcmRc = -eagain then 2 else 0
            else 0 :=
        calls_proceed (calls_readFailed recoveryAttempts) pcmRc
      rw [if_pos (show Point.transfer.call = .transfer from rfl)] at pays
      rw [control]
      change (proceedRead .transfer recoveryAttempts pcmRc).calls + 1 ≤
        Point.transfer.calls recoveryAttempts +
          if decide (pcmRc = -eagain) = true then 2 else 0
      simpa only [decide_eq_true_eq] using pays
  | recover point recoveryAttempts rc control recovers =>
      rw [control]
      exact calls_recovery recovers rc
  | encode pcmRc nbBytes packet control length limited =>
      rw [control]
      exact Nat.le_refl 0

/-- The calls that are left -/
def Playing.calls : Playing → Nat
  | .decoding | .concealing => callsFrom 0
  | .writing _ point recoveryAttempts => point.calls recoveryAttempts
  | .returned _ => 0

theorem calls_playingOf (pcmFrames : Int) (control : Control) :
    (playingOf pcmFrames control).calls = control.calls := by
  cases control <;> rfl

theorem playback_pays {s next : Playing} {label : PlaybackLabel}
    (taken : playbackStep s label = some next) :
    next.calls + (if label.isAlsa then 1 else 0) ≤ s.calls := by
  unfold playbackStep at taken
  split at taken
  · cases taken
    split_ifs <;> simp [Playing.calls, Point.calls, PlaybackLabel.isAlsa] at *
  · cases taken
    split_ifs <;> simp [Playing.calls, Point.calls, PlaybackLabel.isAlsa] at *
  · rename_i pcmFrames point recoveryAttempts call rc
    rw [Option.ite_none_right_eq_some] at taken
    obtain ⟨-, taken⟩ := taken
    cases taken
    have pays := @calls_proceed recoveryAttempts point writeFailed (-2) (fun _ => 0)
      (calls_writeFailed recoveryAttempts) rc
    rw [calls_playingOf]
    rwa [ite_self] at pays
  · cases taken

theorem alsaCalls_capture_le (capture : Capture) :
    capture.alsaCalls ≤ 31 + 2 * capture.eagains := by
  have counted := @countP_le_of_potential _ _ captureStep
    (fun s => s.control.calls) CaptureLabel.isAlsa CaptureLabel.isEagain 2
    capture_pays _ _ _ capture.reaches
  have start : (startCapture capture.initialized capture.pcmBuffer
      capture.source.opusBuf.elements).control.calls ≤ 31 := by
    cases capture.initialized
    · exact Nat.zero_le 31
    · exact Nat.le_refl 31
  unfold Capture.alsaCalls Capture.eagains
  omega

theorem eagains_le_alsaCalls (capture : Capture) :
    capture.eagains ≤ capture.alsaCalls := by
  refine List.countP_mono_left fun label _ isEagain => ?_
  cases label with
  | read => rfl
  | recover => rfl
  | encode => cases isEagain

theorem alsaCalls_playback_le (playback : Playback) : playback.alsaCalls ≤ 31 := by
  have counted := @countP_le_of_potential _ _ playbackStep Playing.calls
    PlaybackLabel.isAlsa (fun _ => false) 0
    (fun taken => (playback_pays taken).trans (Nat.le_add_right _ _)) _ _ _
    playback.reaches
  have start : (startPlayback playback.initialized playback.opusSize).calls ≤ 31 := by
    unfold startPlayback
    split_ifs <;> decide
  unfold Playback.alsaCalls
  omega

/-! ### What a capture returns -/

theorem good_last (capture : Capture) : Good capture.last :=
  good_of_exec (good_startCapture capture.initialized capture.declared capture.made.1)
    capture.reaches

theorem results_eq (capture : Capture) :
    capture.results = (capture.last.encoded.map Prod.snd).reverse := by
  have encoded := encoded_of_exec capture.reaches
  rw [encoded]
  simp [startCapture, Capture.results]

theorem returns_of_good {rc : Int} (good : Good s)
    (returned : s.control = .returned rc) : Returns s rc := by
  obtain ⟨samples, known⟩ := good
  rw [returned] at known
  obtain ⟨result, unencoded⟩ | ⟨encoded, -⟩ := known
  · exact ⟨.inl ⟨result, unencoded.encoded⟩, samples⟩
  · exact ⟨.inr encoded, samples⟩

theorem returns_readMessage_iff (capture : Capture) (opusSize : Int) :
    (capture.source.readMessage opusSize).Returns ↔ opusSize ≤ ipcMaxFrameSize := by
  have capacity : capture.source.opusBuf.capacity = ipcMaxFrameSize := by
    rw [Slice.capacity, Slice.backing, capture.made.2, List.append_nil,
      capture.made.1]
  unfold CgoSource.readMessage
  rw [if_neg (by simp [capture.connected]), if_neg (by simp [capture.output])]
  split_ifs with negative zero
  · exact iff_of_true (Outcome.returns_ok _) (by omega)
  · exact iff_of_true (Outcome.returns_ok _) (by omega)
  · rw [Outcome.returns_bind_iff]
    simp only [Outcome.returns_pure, and_true, Slice.exists_between_eq_ok, capacity]
    omega

/-- The buffer has room exactly if what was encoded is no longer. -/
theorem within_iff (capture : Capture) :
    (∀ rc, capture.last.control = .returned rc → Within capture rc) ↔
      ∀ nbBytes ∈ capture.results, nbBytes ≤ ipcMaxFrameSize := by
  have known := (good_last capture).known
  rw [results_eq]
  have nothing (unencoded : Unencoded capture.last) :
      ∀ nbBytes ∈ (capture.last.encoded.map Prod.snd).reverse,
        nbBytes ≤ ipcMaxFrameSize := by
    rw [unencoded.encoded]
    exact nofun
  cases control : capture.last.control with
  | calling point recoveryAttempts =>
      rw [control] at known
      exact iff_of_true nofun (nothing known.1)
  | transferred pcmRc =>
      rw [control] at known
      exact iff_of_true nofun (nothing known.1)
  | returned rc =>
      rw [control] at known
      obtain ⟨result, unencoded⟩ | ⟨encoded, room⟩ := known
      · refine iff_of_true ?_ (nothing unencoded)
        intro other same
        cases same
        obtain ⟨opusBuf, isBuffer, -⟩ := unencoded.opusBuf
        exact ⟨by rw [isBuffer]; rfl,
          (returns_readMessage_iff capture rc).mpr (by omega)⟩
      · rw [encoded]
        constructor
        · intro within nbBytes inResults
          obtain rfl := List.mem_singleton.mp inResults
          exact room.mp (within nbBytes rfl).written
        · intro limited other same
          cases same
          have fits := limited rc (List.mem_singleton_self rc)
          exact ⟨room.mpr fits, (returns_readMessage_iff capture rc).mpr fits⟩

/-- Captures are safe and bounded exactly if the reads for which there is nothing
yet are, and the packets fit the buffer that is there for them. -/
theorem safeAndBounded_iff (captures : Set Capture) :
    SafeAndBounded captures ↔
      (∃ bound, ∀ capture ∈ captures, capture.eagains ≤ bound) ∧
        ∀ capture ∈ captures, ∀ nbBytes ∈ capture.results,
          nbBytes ≤ ipcMaxFrameSize := by
  constructor
  · rintro ⟨⟨bound, calls⟩, -, -, within⟩
    refine ⟨⟨bound, fun capture inCaptures => ?_⟩, fun capture inCaptures => ?_⟩
    · exact (eagains_le_alsaCalls capture).trans (calls capture inCaptures)
    · exact (within_iff capture).mp (within capture inCaptures)
  · rintro ⟨⟨bound, eagains⟩, results⟩
    refine ⟨⟨31 + 2 * bound, fun capture inCaptures => ?_⟩,
      ⟨31, alsaCalls_playback_le⟩, fun capture _ rc returned => ?_,
      fun capture inCaptures => ?_⟩
    · have calls := alsaCalls_capture_le capture
      have waits := eagains capture inCaptures
      omega
    · exact returns_of_good (good_last capture) returned
    · exact (within_iff capture).mpr (results capture inCaptures)

/-! ### A long packet, and a device without data -/

def outputSource : CgoSource where
  direction := "output"
  connected := true
  opusBuf := ⟨List.replicate ipcMaxFrameSize 0, []⟩

def silence : List Int16 :=
  List.replicate (frameSize * channels) 0

section Frame

variable {pcmBuffer frame : List Int16} {opusBuf packet : List UInt8} {nbBytes : Int}

/-- After a full frame was read and encoded -/
def frameEncoded (pcmBuffer frame : List Int16) (opusBuf packet : List UInt8)
    (nbBytes : Int) : Capturing where
  control := .returned nbBytes
  pcmBuffer := (store pcmBuffer 0 frame).bind (zeroPad frameSize)
  opusBuf := store opusBuf 0 packet
  samples := frame
  encoded := [((store pcmBuffer 0 frame).bind (zeroPad frameSize), nbBytes)]

theorem exec_frame (full : frame.length = frameSize * channels)
    (length : packet.length = nbBytes.toNat) (limited : nbBytes ≤ maxPacketSize) :
    exec captureStep (startCapture true pcmBuffer opusBuf)
        [.read frameSize frame, .encode nbBytes packet] =
      some (frameEncoded pcmBuffer frame opusBuf packet nbBytes) := by
  have read : captureStep (startCapture true pcmBuffer opusBuf)
      (.read frameSize frame) =
        some ⟨.transferred frameSize, store pcmBuffer 0 frame, some opusBuf, frame,
          []⟩ :=
    if_pos ⟨full, Int.le_refl _⟩
  rw [exec_cons_of_step _ read]
  exact exec_cons_of_step [] (if_pos ⟨length, limited⟩)

end Frame

/-- The encoder returns 1100 bytes, within the limit that it was given. -/
def longPacket : Capture where
  source := outputSource
  initialized := true
  pcmBuffer := silence
  labels := [.read frameSize silence, .encode 1100 (List.replicate 1100 0)]
  last := frameEncoded silence silence outputSource.opusBuf.elements
    (List.replicate 1100 0) 1100
  output := rfl
  connected := rfl
  made := ⟨List.length_replicate, rfl⟩
  declared := List.length_replicate
  reaches := exec_frame List.length_replicate List.length_replicate (by decide)

/-- No data arrives while the capture is watched. -/
def waitingLabels : Nat → List CaptureLabel
  | 0 => []
  | reads + 1 => .read (-eagain) [] :: .recover .wait 0 :: waitingLabels reads

theorem exec_waitingLabels (reads : Nat) (s : Capturing)
    (reading : s.control = .calling .transfer 0)
    (buffer : ∃ pcmBuffer, s.pcmBuffer = some pcmBuffer) (samples : s.samples = []) :
    exec captureStep s (waitingLabels reads) = some s := by
  induction reads with
  | zero => rfl
  | succ reads ih =>
      obtain ⟨control, pcmBuffer, opusBuf, old, encoded⟩ := s
      obtain ⟨elements, rfl⟩ := buffer
      subst reading samples
      simpa [waitingLabels, exec, captureStep, proceedRead, proceed, readFailed,
        eagain, epipe, Point.call, store] using ih

def waiting (reads : Nat) : Capture where
  source := outputSource
  initialized := true
  pcmBuffer := silence
  labels := waitingLabels reads
  last := startCapture true silence outputSource.opusBuf.elements
  output := rfl
  connected := rfl
  made := ⟨List.length_replicate, rfl⟩
  declared := List.length_replicate
  reaches := exec_waitingLabels reads _ rfl ⟨silence, rfl⟩ rfl

theorem eagains_waiting (reads : Nat) : (waiting reads).eagains = reads := by
  unfold Capture.eagains waiting
  induction reads with
  | zero => rfl
  | succ reads ih =>
      simpa [waitingLabels, CaptureLabel.isEagain] using ih

theorem not_safeAndBounded :
    ¬ SafeAndBounded {longPacket} ∧ ¬ SafeAndBounded (Set.range waiting) := by
  constructor
  · intro safe
    have fits := (within_iff longPacket).mp (safe.within longPacket rfl) 1100
      (List.mem_singleton_self 1100)
    exact absurd fits (by decide)
  · rintro ⟨⟨bound, calls⟩, -⟩
    have within := calls (waiting (bound + 1)) ⟨bound + 1, rfl⟩
    have many := eagains_le_alsaCalls (waiting (bound + 1))
    rw [eagains_waiting] at many
    omega

end AudioStep

end JetKvm
