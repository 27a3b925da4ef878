import JetKvm.FramedStream
import JetKvm.GoSlices

/-!
# The video stream of the native process

The native process writes each encoded frame to a socket behind its length, and
`handleVideoFrame` of `internal/native/proxy.go` reads them back in the process
that serves the viewers.  Each side has its own bound on the size of a frame.
-/

namespace JetKvm

namespace VideoFrames

open FramedStream

def maxFrameSize : Nat := 1920 * 1080 / 2

/-- `binary.LittleEndian.PutUint32` -/
def putUint32 (n : UInt32) : List UInt8 :=
  [n.toUInt8, (n >>> 8).toUInt8, (n >>> 16).toUInt8, (n >>> 24).toUInt8]

/-- `binary.LittleEndian.Uint32`, on four bytes -/
def uint32 : List UInt8 → UInt32
  | [b0, b1, b2, b3] =>
      b0.toUInt32 ||| b1.toUInt32 <<< 8 ||| b2.toUInt32 <<< 16 |||
        b3.toUInt32 <<< 24
  | _ => 0

theorem uint32_putUint32 (n : UInt32) : uint32 (putUint32 n) = n :=
  or_bytes n

/-- `frameSizeBuffer`, as it is written for a frame of this length -/
def frameSizeBuffer (frameLength : Nat) : List UInt8 :=
  putUint32 (UInt32.ofNat frameLength)

/-- The check of `handleVideoFrame` before the frame is read. -/
def validFrameSize (frameSize : Nat) : Bool :=
  !(frameSize = 0 || maxFrameSize < frameSize)

/-- How the native process writes frames and `handleVideoFrame` reads them. -/
def videoFrames : Framing UInt8 where
  headerSize := 4
  header := frameSizeBuffer
  frameSize := fun buffer => (uint32 buffer).toNat
  accepts := validFrameSize
  bound := 2 ^ 32
  headerSize_pos := by decide
  length_header := fun _ => rfl
  frameSize_header := by
    intro size small
    rw [frameSizeBuffer, uint32_putUint32, UInt32.toNat_ofNat_of_lt' small]
  pos_of_accepts := by
    intro size valid
    simp only [validFrameSize, Bool.not_eq_true', Bool.or_eq_false_iff,
      decide_eq_false_iff_not] at valid
    omega

/-- `u32BufSize` of `populate_venc_attr` -/
def bufSize (width height : Nat) : Nat :=
  width * height * 3 / 2

/-- What the encoder may hand over at a resolution the device supports. -/
def Encoded (frame : List UInt8) : Prop :=
  frame ≠ [] ∧ ∃ width ≤ 1920, ∃ height ≤ 1080,
    frame.length ≤ bufSize width height

variable {frame : List UInt8} {frames : List (List UInt8)}

theorem Encoded.length_le (encoded : Encoded frame) :
    frame.length ≤ bufSize 1920 1080 := by
  obtain ⟨-, width, wide, height, high, small⟩ := encoded
  refine Nat.le_trans small (Nat.div_le_div_right ?_)
  exact Nat.mul_le_mul_right 3 (Nat.mul_le_mul wide high)

theorem Encoded.lt_bound (encoded : Encoded frame) :
    frame.length < videoFrames.bound := by
  have small := encoded.length_le
  have buffer : bufSize 1920 1080 = 3110400 := rfl
  have bound : videoFrames.bound = 4294967296 := rfl
  omega

theorem accepts_iff (encoded : Encoded frame) :
    videoFrames.accepts frame.length = true ↔ frame.length ≤ maxFrameSize := by
  have positive : 0 < frame.length := List.length_pos_iff.mpr encoded.1
  change validFrameSize frame.length = true ↔ _
  simp only [validFrameSize, Bool.not_eq_true', Bool.or_eq_false_iff,
    decide_eq_false_iff_not]
  omega

/-- Encoded frames arrive, in order and however the socket splits them, if and
only if none is longer than the buffer of the reader. -/
theorem carries_iff_noneTooLong (frames : List (List UInt8))
    (encoded : ∀ frame ∈ frames, Encoded frame) :
    videoFrames.Carries frames ↔
      ∀ frame ∈ frames, frame.length ≤ maxFrameSize := by
  rw [Framing.carries_iff fun frame member => (encoded frame member).lt_bound]
  exact forall₂_congr fun frame member => accepts_iff (encoded frame member)

theorem carries_smallFrames :
    videoFrames.Carries [[0, 0, 0, 1], [7]] := by
  refine (carries_iff_noneTooLong [[0, 0, 0, 1], [7]] ?_).mpr (by decide)
  intro frame member
  refine ⟨?_, 640, by decide, 480, by decide, ?_⟩
  all_goals
    rcases List.mem_cons.mp member with rfl | member
    · decide
    · obtain rfl := List.mem_singleton.mp member
      decide

/-- A frame that fills the buffer of the encoder at the highest resolution. -/
def largeFrame : List UInt8 := List.replicate (bufSize 1920 1080) 0

theorem largeFrame_not_carried :
    ¬ ∀ frames : List (List UInt8), (∀ frame ∈ frames, Encoded frame) →
      videoFrames.Carries frames := by
  intro claimed
  have length : largeFrame.length = 3110400 := List.length_replicate
  have encoded : ∀ frame ∈ [largeFrame], Encoded frame := by
    intro frame member
    obtain rfl := List.mem_singleton.mp member
    refine ⟨?_, 1920, Nat.le_refl _, 1080, Nat.le_refl _,
      Nat.le_of_eq length⟩
    rw [← List.length_pos_iff, length]
    decide
  have small := (encoded largeFrame (by simp)).lt_bound
  have taken := (Framing.carries_iff (by simpa using small)).mp
    (claimed [largeFrame] encoded) largeFrame (by simp)
  rw [length] at taken
  cases taken

end VideoFrames

end JetKvm
