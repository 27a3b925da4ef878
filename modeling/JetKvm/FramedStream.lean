import JetKvm.LabelledRuns
import Mathlib.Data.List.Basic

/-!
# Frames on a byte stream

A sender writes frames one after another, each behind a header of fixed length
that tells its size.  A receiver reads a header and then a frame, each with an
exact read, and gives up at a size it does not accept.  The stream takes and
gives any number of bytes at a time.
-/

namespace JetKvm

namespace FramedStream

open LabelledRuns

/-- The headers of a stream.  Sizes below the bound can be told by a header. -/
structure Framing (Byte : Type*) where
  headerSize : Nat
  header : Nat → List Byte
  frameSize : List Byte → Nat
  accepts : Nat → Bool
  bound : Nat
  headerSize_pos : 0 < headerSize
  length_header : ∀ size, (header size).length = headerSize
  frameSize_header : ∀ size < bound, frameSize (header size) = size
  pos_of_accepts : ∀ size, accepts size = true → 0 < size

inductive Stage where
  | header
  | frame (size : Nat)
  deriving DecidableEq, Repr

/-- `buffer` is what the exact read under way has read so far. -/
structure Receiver (Byte : Type*) where
  stage : Stage := .header
  buffer : List Byte := []
  delivered : List (List Byte) := []
  closed : Bool := false
  deriving DecidableEq, Repr

structure State (Byte : Type*) where
  unsent : List (List Byte)
  unwritten : List Byte := []
  inFlight : List Byte := []
  receiver : Receiver Byte := {}
  deriving DecidableEq, Repr

/-- Each write and each read moves so many bytes. -/
inductive Label where
  | send
  | write (count : Nat)
  | read (count : Nat)
  deriving DecidableEq, Repr

variable {Byte : Type*} (framing : Framing Byte)

namespace Framing

def encode (frame : List Byte) : List Byte :=
  framing.header frame.length ++ frame

/-- The bytes of the frames, one after another. -/
def stream (frames : List (List Byte)) : List Byte :=
  frames.flatMap framing.encode

/-- How many bytes the exact read still wants. -/
def wanted (receiver : Receiver Byte) : Nat :=
  match receiver.stage with
  | .header => framing.headerSize - receiver.buffer.length
  | .frame size => size - receiver.buffer.length

/-- An exact read goes on until nothing more is wanted. -/
def receive (receiver : Receiver Byte) (bytes : List Byte) : Receiver Byte :=
  let receiver := { receiver with buffer := receiver.buffer ++ bytes }
  if framing.wanted receiver ≠ 0 then receiver
  else
    match receiver.stage with
    | .header =>
        let size := framing.frameSize receiver.buffer
        if framing.accepts size then
          { receiver with stage := .frame size, buffer := [] }
        else { receiver with closed := true }
    | .frame _ =>
        { receiver with
          stage := .header
          buffer := []
          delivered := receiver.delivered ++ [receiver.buffer] }

/-- The next frame is sent once the one before is written.  Nothing moves on a
stream that the receiver has closed. -/
def step (state : State Byte) : Label → Option (State Byte)
  | .send =>
      match state.unwritten, state.unsent with
      | [], frame :: rest =>
          some { state with unsent := rest, unwritten := framing.encode frame }
      | _, _ => none
  | .write count =>
      if state.receiver.closed = false ∧
          0 < count ∧ count ≤ state.unwritten.length then
        some { state with
          unwritten := state.unwritten.drop count
          inFlight := state.inFlight ++ state.unwritten.take count }
      else none
  | .read count =>
      if state.receiver.closed = false ∧ 0 < count ∧
          count ≤ state.inFlight.length ∧
          count ≤ framing.wanted state.receiver then
        some { state with
          inFlight := state.inFlight.drop count
          receiver :=
            framing.receive state.receiver (state.inFlight.take count) }
      else none

end Framing

/-- Everything was sent, written and read. -/
def State.Drained (state : State Byte) : Prop :=
  state.unsent = [] ∧ state.unwritten = [] ∧ state.inFlight = []

/-- The receiver is open and has delivered the first of the frames, all of them
once the stream is drained; until then something can move. -/
structure Framing.Intact (frames : List (List Byte)) (state : State Byte) :
    Prop where
  opened : state.receiver.closed = false
  inOrder : state.receiver.delivered <+: frames
  complete : state.Drained → state.receiver.delivered = frames
  goesOn : ¬ state.Drained → ∃ label next, framing.step state label = some next

/-- However the stream splits the bytes, the frames stay intact. -/
def Framing.Carries (frames : List (List Byte)) : Prop :=
  ∀ labels : List Label,
    AllStates framing.step (framing.Intact frames) { unsent := frames } labels

namespace Framing

variable {framing} {frames : List (List Byte)} {state next : State Byte}

/-- What was read of the frame that comes next. -/
def consumed (framing : Framing Byte) (receiver : Receiver Byte) : List Byte :=
  match receiver.stage with
  | .header => receiver.buffer
  | .frame size => framing.header size ++ receiver.buffer

/-- How far an exact read is before the frames that were not delivered. -/
def ReadsInto (framing : Framing Byte) (receiver : Receiver Byte)
    (undelivered : List (List Byte)) : Prop :=
  match receiver.stage with
  | .header => receiver.buffer.length < framing.headerSize
  | .frame size => receiver.buffer.length < size ∧
      ∃ frame rest, undelivered = frame :: rest ∧ frame.length = size

/-- The bytes of the frames that were not delivered are on their way. -/
structure Follows (framing : Framing Byte) (frames : List (List Byte))
    (state : State Byte) : Prop where
  opened : state.receiver.closed = false
  accounts : ∃ undelivered, state.receiver.delivered ++ undelivered = frames ∧
    framing.stream undelivered = framing.consumed state.receiver ++
      (state.inFlight ++ (state.unwritten ++ framing.stream state.unsent)) ∧
    framing.ReadsInto state.receiver undelivered

@[simp]
theorem stream_nil : framing.stream ([] : List (List Byte)) = [] := rfl

@[simp]
theorem stream_cons (frame : List Byte) (frames : List (List Byte)) :
    framing.stream (frame :: frames) =
      framing.header frame.length ++ (frame ++ framing.stream frames) := by
  simp [stream, encode]

theorem wanted_pos {receiver : Receiver Byte} {undelivered : List (List Byte)}
    (reads : framing.ReadsInto receiver undelivered) :
    0 < framing.wanted receiver := by
  unfold ReadsInto at reads
  unfold wanted
  cases stage : receiver.stage <;> simp only [stage] at reads ⊢ <;> omega

/-- A frame can be told by its header and is taken. -/
def Fits (framing : Framing Byte) (frame : List Byte) : Prop :=
  frame.length < framing.bound ∧ framing.accepts frame.length = true

/-! ### One read -/

variable {receiver : Receiver Byte} {bytes rest : List Byte}
variable {undelivered : List (List Byte)}

theorem receive_of_wanted
    (more : framing.wanted { receiver with buffer := receiver.buffer ++ bytes } ≠ 0) :
    framing.receive receiver bytes =
      { receiver with buffer := receiver.buffer ++ bytes } := by
  simp only [receive, if_pos more]

/-- A complete header is that of the next frame. -/
theorem head_of_header (stage : receiver.stage = .header)
    (complete : (receiver.buffer ++ bytes).length = framing.headerSize)
    (stream : framing.stream undelivered =
      framing.consumed receiver ++ (bytes ++ rest)) :
    ∃ frame later, undelivered = frame :: later ∧
      receiver.buffer ++ bytes = framing.header frame.length ∧
      frame ++ framing.stream later = rest := by
  simp only [consumed, stage] at stream
  rw [← List.append_assoc] at stream
  cases undelivered with
  | nil =>
      have none := (List.append_eq_nil_iff.mp stream.symm).1
      rw [none, List.length_nil] at complete
      exact absurd complete.symm (Nat.ne_of_gt framing.headerSize_pos)
  | cons frame later =>
      rw [stream_cons] at stream
      obtain ⟨same, sameRest⟩ := List.append_inj stream
        ((framing.length_header _).trans complete.symm)
      exact ⟨frame, later, rfl, same.symm, sameRest⟩

theorem receive_follows (fits : ∀ frame ∈ undelivered, framing.Fits frame)
    (opened : receiver.closed = false)
    (reads : framing.ReadsInto receiver undelivered)
    (enough : bytes.length ≤ framing.wanted receiver)
    (stream : framing.stream undelivered =
      framing.consumed receiver ++ (bytes ++ rest)) :
    (framing.receive receiver bytes).closed = false ∧
      ∃ later, (framing.receive receiver bytes).delivered ++ later =
          receiver.delivered ++ undelivered ∧
        framing.stream later =
          framing.consumed (framing.receive receiver bytes) ++ rest ∧
        framing.ReadsInto (framing.receive receiver bytes) later := by
  by_cases more :
      framing.wanted { receiver with buffer := receiver.buffer ++ bytes } ≠ 0
  · rw [receive_of_wanted more]
    refine ⟨opened, undelivered, rfl, ?_, ?_⟩
    · rw [stream]
      unfold consumed
      cases receiver.stage <;> simp
    · unfold ReadsInto at reads ⊢
      unfold wanted at more enough
      cases stage : receiver.stage with
      | header =>
          simp only [stage] at more enough reads ⊢
          omega
      | frame size =>
          simp only [stage] at more enough reads ⊢
          exact ⟨by omega, reads.2⟩
  rw [not_not] at more
  cases stage : receiver.stage with
  | header =>
      simp only [wanted, stage] at more enough
      simp only [ReadsInto, stage] at reads
      have complete : (receiver.buffer ++ bytes).length = framing.headerSize := by
        rw [List.length_append] at more ⊢
        omega
      obtain ⟨frame, later, rfl, header, frameBytes⟩ :=
        head_of_header stage complete stream
      obtain ⟨small, accepted⟩ := fits frame (by simp)
      have size : framing.frameSize (receiver.buffer ++ bytes) = frame.length := by
        rw [header, framing.frameSize_header _ small]
      have result : framing.receive receiver bytes =
          { receiver with stage := .frame frame.length, buffer := [] } := by
        simp only [receive, wanted, stage, more, size, accepted]
        simp
      rw [result]
      refine ⟨opened, frame :: later, rfl, ?_, ?_⟩
      · simp [consumed, frameBytes]
      · exact ⟨framing.pos_of_accepts _ accepted, frame, later, rfl, rfl⟩
  | frame size =>
      simp only [wanted, stage] at more enough
      simp only [ReadsInto, stage] at reads
      obtain ⟨short, frame, later, rfl, sameSize⟩ := reads
      have complete : frame.length = (receiver.buffer ++ bytes).length := by
        rw [List.length_append] at more ⊢
        omega
      have frameBytes : frame = receiver.buffer ++ bytes ∧
          framing.stream later = rest := by
        simp only [consumed, stage, stream_cons, sameSize, List.append_assoc,
          List.append_cancel_left_eq] at stream
        rw [← List.append_assoc] at stream
        exact List.append_inj stream complete
      have result : framing.receive receiver bytes =
          { receiver with
            stage := .header
            buffer := []
            delivered := receiver.delivered ++ [receiver.buffer ++ bytes] } := by
        simp only [receive, wanted, stage, more]
        simp
      rw [result]
      refine ⟨opened, later, ?_, ?_, ?_⟩
      · simp [frameBytes.1]
      · simp [consumed, frameBytes.2]
      · exact framing.headerSize_pos

/-! ### Runs -/

theorem follows_step (fits : ∀ frame ∈ frames, framing.Fits frame)
    (follows : framing.Follows frames state) {label : Label}
    (taken : framing.step state label = some next) :
    framing.Follows frames next := by
  obtain ⟨opened, undelivered, whole, stream, reads⟩ := follows
  cases label with
  | send =>
      simp only [step] at taken
      split at taken
      · rename_i frame rest unwritten unsent
        cases taken
        refine ⟨opened, undelivered, whole, ?_, reads⟩
        rw [stream, unwritten, unsent]
        simp [encode]
      · cases taken
  | write count =>
      simp only [step] at taken
      split at taken
      · cases taken
        refine ⟨opened, undelivered, whole, ?_, reads⟩
        have parts := List.take_append_drop count state.unwritten
        rw [stream, List.append_assoc, ← List.append_assoc (state.unwritten.take _),
          parts]
      · cases taken
  | read count =>
      simp only [step] at taken
      split at taken
      · rename_i enabled
        cases taken
        have parts := List.take_append_drop count state.inFlight
        rw [← parts, List.append_assoc] at stream
        have few : (state.inFlight.take count).length ≤
            framing.wanted state.receiver :=
          Nat.le_trans (List.length_take_le _ _) enabled.2.2.2
        have fitsRest : ∀ frame ∈ undelivered, framing.Fits frame := by
          intro frame member
          exact fits frame (whole ▸ List.mem_append_right _ member)
        obtain ⟨stillOpen, later, laterWhole, laterStream, laterReads⟩ :=
          receive_follows fitsRest opened reads few stream
        exact ⟨stillOpen, later, laterWhole.trans whole, laterStream, laterReads⟩
      · cases taken

theorem Follows.goesOn (follows : framing.Follows frames state)
    (more : ¬ state.Drained) :
    ∃ label next, framing.step state label = some next := by
  obtain ⟨opened, undelivered, -, -, reads⟩ := follows
  cases inFlight : state.inFlight with
  | cons byte bytes =>
      have positive := wanted_pos reads
      refine ⟨.read 1, _, if_pos ⟨opened, Nat.one_pos, ?_, positive⟩⟩
      simp [inFlight]
  | nil =>
      cases unwritten : state.unwritten with
      | cons byte bytes =>
          refine ⟨.write 1, _, if_pos ⟨opened, Nat.one_pos, ?_⟩⟩
          simp [unwritten]
      | nil =>
          cases unsent : state.unsent with
          | cons frame rest =>
              refine ⟨.send, { state with
                unsent := rest, unwritten := framing.encode frame }, ?_⟩
              simp only [step, unwritten, unsent]
          | nil => exact absurd ⟨unsent, unwritten, inFlight⟩ more

theorem Follows.intact (follows : framing.Follows frames state) :
    framing.Intact frames state where
  opened := follows.opened
  inOrder := by
    obtain ⟨-, undelivered, whole, -, -⟩ := follows
    exact ⟨undelivered, whole⟩
  complete := by
    rintro ⟨unsent, unwritten, inFlight⟩
    obtain ⟨-, undelivered, whole, stream, reads⟩ := follows
    rw [unsent, unwritten, inFlight] at stream
    cases undelivered with
    | nil => simpa using whole
    | cons frame rest =>
        -- Less was read than the next frame has bytes.
        have lengths := congrArg List.length stream
        have headers := framing.length_header
        unfold ReadsInto at reads
        unfold consumed at lengths
        cases stage : state.receiver.stage with
        | header =>
            simp only [stage] at reads lengths
            simp [headers] at lengths
            omega
        | frame size =>
            simp only [stage] at reads lengths
            obtain ⟨short, next, later, same, sizeIs⟩ := reads
            rw [(List.cons.inj same).1] at lengths
            simp [headers] at lengths
            omega
  goesOn := follows.goesOn

theorem carries_of_fits (fits : ∀ frame ∈ frames, framing.Fits frame) :
    framing.Carries frames := by
  intro labels
  have initial : framing.Follows frames { unsent := frames } :=
    ⟨rfl, frames, rfl, rfl, framing.headerSize_pos⟩
  have follows : AllStates framing.step (framing.Follows frames) _ labels :=
    allStates_of_invariant (fun here taken => follows_step fits here taken)
      initial labels
  exact follows.mono fun _ => Follows.intact

/-! ### A frame that is not taken -/

/-- Send a frame into an empty stream and read its header. -/
def announcement (framing : Framing Byte) (frame : List Byte) : List Label :=
  [.send, .write (framing.encode frame).length, .read framing.headerSize]

variable {delivered : List (List Byte)} {frame : List Byte}

theorem exec_header (small : frame.length < framing.bound)
    (unsent : List (List Byte)) :
    exec framing.step
        { unsent := frame :: unsent, receiver := { delivered := delivered } }
        (framing.announcement frame) =
      some
        { unsent := unsent
          inFlight := frame
          receiver :=
            if framing.accepts frame.length then
              { stage := .frame frame.length, delivered := delivered }
            else
              { buffer := framing.header frame.length
                delivered := delivered
                closed := true } } := by
  have positive := framing.headerSize_pos
  have header := framing.length_header frame.length
  have size := framing.frameSize_header _ small
  have some : framing.encode frame ≠ [] := by
    intro empty
    rw [encode, List.append_eq_nil_iff] at empty
    rw [empty.1, List.length_nil] at header
    omega
  have lengths : 0 < (framing.encode frame).length := List.length_pos_iff.mpr some
  have taken : (framing.encode frame).take framing.headerSize =
      framing.header frame.length := by
    rw [encode, ← header, List.take_left]
  have dropped : (framing.encode frame).drop framing.headerSize = frame := by
    rw [encode, ← header, List.drop_left]
  have long : framing.headerSize ≤ (framing.encode frame).length := by
    rw [encode, List.length_append, header]
    omega
  simp [announcement, exec, step, wanted, receive, lengths, taken, dropped, long,
    positive, header, size]

theorem exec_frame (fits : framing.Fits frame)
    (unsent : List (List Byte)) :
    exec framing.step
        { unsent := frame :: unsent, receiver := { delivered := delivered } }
        (framing.announcement frame ++ [.read frame.length]) =
      some
        { unsent := unsent
          receiver := { delivered := delivered ++ [frame] } } := by
  obtain ⟨small, accepted⟩ := fits
  have positive := framing.pos_of_accepts _ accepted
  have lengths : 0 < frame.length := positive
  rw [exec_append, exec_header small, if_pos accepted]
  simp [exec, step, wanted, receive, positive]

/-- The first frame that is not taken closes the stream. -/
theorem exists_closed (small : ∀ frame ∈ frames, frame.length < framing.bound)
    (refused : ∃ frame ∈ frames, framing.accepts frame.length = false) :
    ∃ labels last, exec framing.step
        { unsent := frames, receiver := { delivered := delivered } } labels =
          some last ∧ last.receiver.closed = true := by
  induction frames generalizing delivered with
  | nil => simp at refused
  | cons frame frames ih =>
      have smallHere := small frame (by simp)
      cases accepted : framing.accepts frame.length with
      | false =>
          refine ⟨_, _, exec_header smallHere frames, ?_⟩
          rw [accepted]
          rfl
      | true =>
          have later : ∃ frame ∈ frames, framing.accepts frame.length = false := by
            obtain ⟨other, member, refused⟩ := refused
            rcases List.mem_cons.mp member with rfl | member
            · rw [accepted] at refused
              cases refused
            · exact ⟨other, member, refused⟩
          obtain ⟨labels, last, ran, closed⟩ :=
            @ih (delivered ++ [frame])
              (fun other member => small other (by simp [member])) later
          refine ⟨(framing.announcement frame ++ [.read frame.length]) ++ labels,
            last, ?_, closed⟩
          rw [exec_append, exec_frame ⟨smallHere, accepted⟩]
          exact ran

theorem carries_iff (small : ∀ frame ∈ frames, frame.length < framing.bound) :
    framing.Carries frames ↔
      ∀ frame ∈ frames, framing.accepts frame.length = true := by
  constructor
  · intro carries
    by_contra! refused
    simp only [ne_eq, Bool.not_eq_true] at refused
    obtain ⟨labels, last, ran, closed⟩ :=
      @exists_closed _ framing frames [] small refused
    have intact := (carries labels).last ran
    rw [intact.opened] at closed
    cases closed
  · intro accepted
    exact carries_of_fits fun frame member =>
      ⟨small frame member, accepted frame member⟩

end Framing

end FramedStream

end JetKvm
