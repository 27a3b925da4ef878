import JetKvm.ConsoleText
import JetKvm.LabelledRuns
import Mathlib.Algebra.Group.Nat.Defs
import Mathlib.Algebra.GroupWithZero.Nat

/-!
# The console broker

Translation of the loop of `ConsoleBroker` in `serial_console_helpers.go`, with
a sink set and the options left alone.  What the handlers emit is kept apart
from what becomes of it in a paused terminal.
-/

namespace JetKvm

namespace Console

open LabelledRuns

/-! ### What is emitted -/

/-- Whose text it is; a separator is a line ending of the broker's own. -/
inductive Source where
  | rx
  | tx
  | separator
  deriving DecidableEq, Repr

inductive LineLabel where
  | rx
  | tx
  | system
  deriving DecidableEq, Repr

def LineLabel.text : LineLabel → Bytes
  | .rx => ascii "RX: "
  | .tx => ascii "TX: "
  | .system => ascii "TX[System]: "

/-- What is handed to `emitToTerminal` at once. -/
structure Piece where
  label : Option LineLabel
  source : Source
  text : Bytes
  deriving DecidableEq, Repr

def Piece.bytes (piece : Piece) : Bytes :=
  (piece.label.map LineLabel.text).getD [] ++ piece.text

inductive TXOrigin where
  | user
  | system
  deriving DecidableEq, Repr

def TXOrigin.label : TXOrigin → LineLabel
  | .user => .tx
  | .system => .system

/-- A `consoleEvent` of the kind `evTX` -/
structure TX where
  data : Bytes
  origin : TXOrigin
  deriving DecidableEq, Repr

/-- The state of the line-aware echo; `quietTimer` tells that the timer is yet
to be heard of. -/
structure Echo where
  rxAtLineEnd : Bool := true
  txLineActive : Bool := false
  pendingTX : Option TX := none
  quietTimer : Bool := false
  deriving DecidableEq, Repr

section Handlers

variable (norm : NormalizationOptions)

def separator : Piece := ⟨none, .separator, lineSep norm.lineEnding⟩

namespace Echo

def emitTX (b : Echo) (data : Bytes) (origin : TXOrigin) :
    Echo × List Piece :=
  if data = [] then (b, [])
  else
    let text := normalize norm data
    if text = [] then (b, [])
    else
      -- RX is in the middle of a line
      let breaks := !b.rxAtLineEnd && !b.txLineActive
      let label := if b.txLineActive then none else some origin.label
      let ended := endsWithEOL norm.lineEnding text
      -- a system message does not leave the cursor in the middle of a line
      let closes := origin = .system && !ended
      ({ b with
          rxAtLineEnd := b.rxAtLineEnd || breaks
          txLineActive := !(ended || closes) },
        (if breaks then [separator norm] else []) ++
          [⟨label, .tx, text⟩] ++
          (if closes then [separator norm] else []))

def flushPendingTX (b : Echo) : Echo × List Piece :=
  match b.pendingTX with
  | none => (b, [])
  | some tx =>
      let (flushed, pieces) := b.emitTX norm tx.data tx.origin
      ({ flushed with pendingTX := none, txLineActive := false }, pieces)

/-- The loop of `handleRX` over the lines: whether RX is at a line end after
them, and what is emitted for them. -/
def emitRX : (atLineEnd : Bool) → List Bytes → Bool × List Piece
  | atLineEnd, [] => (atLineEnd, [])
  | atLineEnd, line :: lines =>
      if line = [] then emitRX atLineEnd lines
      else
        let label := if atLineEnd then some .rx else none
        let (last, pieces) := emitRX (endsWithEOL norm.lineEnding line) lines
        (last, ⟨label, .rx, line⟩ :: pieces)

def handleRX (b : Echo) (data : Bytes) : Echo × List Piece :=
  if data = [] then (b, [])
  else
    let ends := if b.txLineActive then [separator norm] else []
    let b := { b with txLineActive := false }
    let text := normalize norm data
    if text = [] then (b, ends)
    else
      let (atLineEnd, pieces) := emitRX norm b.rxAtLineEnd
        (splitAfterAnyEOL norm.lineEnding text)
      let b := { b with rxAtLineEnd := atLineEnd }
      if b.pendingTX.isSome && b.rxAtLineEnd then
        let (flushed, more) := b.flushPendingTX norm
        ({ flushed with quietTimer := false }, ends ++ pieces ++ more)
      else (b, ends ++ pieces)

def handleTX (b : Echo) (data : Bytes) (origin : TXOrigin) :
    Echo × List Piece :=
  if data = [] then (b, [])
  else if b.rxAtLineEnd && b.pendingTX.isNone then b.emitTX norm data origin
  else ({ b with pendingTX := some ⟨data, origin⟩, quietTimer := true }, [])

/-- The case of the loop for the quiet timer -/
def quiet (b : Echo) : Echo × List Piece :=
  let b := { b with quietTimer := false }
  match b.pendingTX with
  | none => (b, [])
  | some _ =>
      let (flushed, pieces) := b.flushPendingTX norm
      ({ flushed with rxAtLineEnd := true, txLineActive := false },
        separator norm :: pieces)

end Echo

/-! ### The loop -/

inductive Event where
  | rx (data : Bytes)
  | tx (data : Bytes) (origin : TXOrigin)
  | quiet
  deriving DecidableEq, Repr

/-- A timer that was not started does not fire. -/
def Echo.handle (b : Echo) : Event → Option (Echo × List Piece)
  | .rx data => some (b.handleRX norm data)
  | .tx data origin => some (b.handleTX norm data origin)
  | .quiet => if b.quietTimer then some (b.quiet norm) else none

/-- The text of a TX event -/
def Event.echo : Event → List Bytes
  | .tx data _ => if data = [] then [] else [normalize norm data]
  | _ => []

end Handlers

/-- `sent` is what the sink was sent, and `echoes` are the texts of the TX
events so far. -/
structure ConsoleBroker where
  echo : Echo := {}
  terminalPaused : Bool := false
  bufLines : List Piece := []
  sent : List Piece := []
  echoes : List Bytes := []
  deriving DecidableEq, Repr

def maxBufLines : Nat := 5000

def maxBufBytes : Nat := 2 ^ 20

def bufBytes (lines : List Piece) : Nat :=
  (lines.map fun line => line.bytes.length).sum

def withinLimits (lines : List Piece) : Bool :=
  bufBytes lines ≤ maxBufBytes && lines.length ≤ maxBufLines

/-- The oldest lines are dropped until the limits are kept. -/
def trim : List Piece → List Piece
  | [] => []
  | line :: lines =>
      if withinLimits (line :: lines) then line :: lines else trim lines

namespace ConsoleBroker

def emitToTerminal (b : ConsoleBroker) (piece : Piece) : ConsoleBroker :=
  if piece.bytes = [] then b
  else if b.terminalPaused then
    { b with bufLines := trim (b.bufLines ++ [piece]) }
  else { b with sent := b.sent ++ [piece] }

def pause (b : ConsoleBroker) (paused : Bool) : ConsoleBroker :=
  if b.terminalPaused && !paused then
    { b with
      terminalPaused := paused
      sent := b.sent ++ b.bufLines
      bufLines := [] }
  else { b with terminalPaused := paused }

end ConsoleBroker

inductive Label where
  | event (event : Event)
  | pause (paused : Bool)
  deriving DecidableEq, Repr

section Steps

variable (norm : NormalizationOptions)

def stepEvent (b : ConsoleBroker) (event : Event) : Option ConsoleBroker :=
  (b.echo.handle norm event).map fun (echo, pieces) =>
    pieces.foldl ConsoleBroker.emitToTerminal
      { b with echo := echo, echoes := b.echoes ++ event.echo norm }

def step (b : ConsoleBroker) : Label → Option ConsoleBroker
  | .event event => stepEvent norm b event
  | .pause paused => some (b.pause paused)

end Steps

/-! ### What the terminal does with the pieces -/

section Terminal

variable {norm : NormalizationOptions} {b : ConsoleBroker} {pieces : List Piece}

/-- A terminal that goes on is sent the pieces as they are. -/
theorem foldl_emitToTerminal_of_running (running : b.terminalPaused = false)
    (text : ∀ piece ∈ pieces, piece.text ≠ []) :
    pieces.foldl ConsoleBroker.emitToTerminal b =
      { b with sent := b.sent ++ pieces } := by
  induction pieces generalizing b with
  | nil => rw [List.append_nil]; rfl
  | cons piece pieces ih =>
      obtain ⟨here, later⟩ := List.forall_mem_cons.mp text
      have bytes : piece.bytes ≠ [] :=
        List.append_ne_nil_of_right_ne_nil _ here
      have emitted : b.emitToTerminal piece =
          { b with sent := b.sent ++ [piece] } := by
        unfold ConsoleBroker.emitToTerminal
        rw [if_neg bytes, if_neg (by simp [running])]
      have rest := @ih { b with sent := b.sent ++ [piece] } running later
      rw [List.foldl_cons, emitted, rest, List.append_assoc]
      rfl

theorem withinLimits_of_append {lines more : List Piece}
    (within : withinLimits (lines ++ more) = true) :
    withinLimits lines = true := by
  unfold withinLimits bufBytes at within ⊢
  simp only [Bool.and_eq_true, decide_eq_true_eq, List.map_append,
    List.sum_append, List.length_append] at within ⊢
  omega

theorem trim_of_withinLimits {lines : List Piece}
    (within : withinLimits lines = true) : trim lines = lines := by
  cases lines with
  | nil => rfl
  | cons line lines => rw [trim, if_pos within]

/-- A paused terminal keeps the pieces as long as they fit. -/
theorem foldl_emitToTerminal_of_paused (paused : b.terminalPaused = true)
    (text : ∀ piece ∈ pieces, piece.text ≠ [])
    (within : withinLimits (b.bufLines ++ pieces) = true) :
    pieces.foldl ConsoleBroker.emitToTerminal b =
      { b with bufLines := b.bufLines ++ pieces } := by
  induction pieces generalizing b with
  | nil => rw [List.append_nil]; rfl
  | cons piece pieces ih =>
      obtain ⟨here, later⟩ := List.forall_mem_cons.mp text
      have bytes : piece.bytes ≠ [] :=
        List.append_ne_nil_of_right_ne_nil _ here
      rw [← List.singleton_append, ← List.append_assoc] at within
      have emitted : b.emitToTerminal piece =
          { b with bufLines := b.bufLines ++ [piece] } := by
        unfold ConsoleBroker.emitToTerminal
        rw [if_neg bytes, if_pos paused,
          trim_of_withinLimits (withinLimits_of_append within)]
      have rest :=
        @ih { b with bufLines := b.bufLines ++ [piece] } paused later within
      rw [List.foldl_cons, emitted, rest, List.append_assoc]
      rfl

end Terminal

end Console

end JetKvm
