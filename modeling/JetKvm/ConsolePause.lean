import JetKvm.ConsoleBroker
import JetKvm.NewestFitting

/-!
# The console while it is paused

Translation of `emitToTerminal`, `enqueueBuffered` and `flushBuffer`, and of the
case of the loop for the pause channel, in `serial_console_helpers.go`, with a
sink that stays.  The buffer and its count of bytes are the newest strings
since the pause that fit.
-/

namespace JetKvm

namespace Console

open NewestFitting

/-- `sent` is what the sink was sent. -/
structure Terminal where
  terminalPaused : Bool := false
  bufLines : List Bytes := []
  bufBytes : Int := 0
  sent : List Bytes := []
  deriving DecidableEq, Repr

/-- The loop that drops the oldest strings while the buffer is over a limit -/
def dropOldest : (bufLines : List Bytes) → (bufBytes : Int) →
    List Bytes × Int
  | [], bytes => ([], bytes)
  | line :: lines, bytes =>
      if bytes > maxBufBytes ∨ (line :: lines).length > maxBufLines then
        dropOldest lines (bytes - line.length)
      else (line :: lines, bytes)

namespace Terminal

def enqueueBuffered (t : Terminal) (s : Bytes) : Terminal :=
  let (lines, bytes) := dropOldest (t.bufLines ++ [s]) (t.bufBytes + s.length)
  { t with bufLines := lines, bufBytes := bytes }

def emitToTerminal (t : Terminal) (s : Bytes) : Terminal :=
  if s = [] then t
  else if t.terminalPaused then t.enqueueBuffered s
  else { t with sent := t.sent ++ [s] }

def flushBuffer (t : Terminal) : Terminal :=
  if t.bufLines = [] then { t with bufLines := [], bufBytes := 0 }
  else
    { t with sent := t.sent ++ t.bufLines, bufLines := [], bufBytes := 0 }

def setPaused (t : Terminal) (paused : Bool) : Terminal :=
  let wasPaused := t.terminalPaused
  let t := { t with terminalPaused := paused }
  if wasPaused && !paused then t.flushBuffer else t

end Terminal

inductive TerminalEvent where
  | emit (s : Bytes)
  | pause (paused : Bool)
  deriving DecidableEq, Repr

def Terminal.handle (t : Terminal) : TerminalEvent → Terminal
  | .emit s => t.emitToTerminal s
  | .pause paused => t.setPaused paused

def Terminal.run (t : Terminal) (events : List TerminalEvent) : Terminal :=
  events.foldl Terminal.handle t

/-! ### What pausing is for -/

def totalBytes (lines : List Bytes) : Nat := (lines.map List.length).sum

def fitsBuffer (lines : List Bytes) : Bool :=
  totalBytes lines ≤ maxBufBytes && lines.length ≤ maxBufLines

/-- The strings that the events emit; an empty string is none. -/
def emitted : List TerminalEvent → List Bytes
  | [] => []
  | .emit s :: events => if s = [] then emitted events else s :: emitted events
  | .pause _ :: events => emitted events

/-- `held` are all strings emitted since the pause, while there is one. -/
structure Pausing where
  held : Option (List Bytes) := none
  sent : List Bytes := []
  deriving DecidableEq, Repr

namespace Pausing

def emit (p : Pausing) (s : Bytes) : Pausing :=
  if s = [] then p
  else
    match p.held with
    | none => { p with sent := p.sent ++ [s] }
    | some held => { p with held := some (held ++ [s]) }

def setPaused (p : Pausing) (paused : Bool) : Pausing :=
  match p.held, paused with
  | none, true => { p with held := some [] }
  | some held, false =>
      { held := none, sent := p.sent ++ newest fitsBuffer held }
  | _, _ => p

def handle (p : Pausing) : TerminalEvent → Pausing
  | .emit s => p.emit s
  | .pause paused => p.setPaused paused

def run (p : Pausing) (events : List TerminalEvent) : Pausing :=
  events.foldl handle p

/-- The terminal that keeps of the held strings what fits -/
def terminal (p : Pausing) : Terminal where
  terminalPaused := p.held.isSome
  bufLines := newest fitsBuffer (p.held.getD [])
  bufBytes := totalBytes (newest fitsBuffer (p.held.getD []))
  sent := p.sent

end Pausing

/-- The strings emitted since the terminal was paused, if it is -/
def sincePause (events : List TerminalEvent) : List Bytes :=
  (Pausing.run {} events).held.getD []

/-! ### The counts of the buffer -/

theorem totalBytes_concat (lines : List Bytes) (s : Bytes) :
    totalBytes (lines ++ [s]) = totalBytes lines + s.length := by
  simp [totalBytes]

theorem fitsBuffer_iff {lines : List Bytes} :
    fitsBuffer lines = true ↔
      totalBytes lines ≤ maxBufBytes ∧ lines.length ≤ maxBufLines := by
  simp [fitsBuffer]

theorem fitsBuffer_of_concat (lines : List Bytes) (s : Bytes)
    (fit : fitsBuffer (lines ++ [s]) = true) : fitsBuffer lines = true := by
  rw [fitsBuffer_iff, totalBytes_concat, List.length_append] at fit
  rw [fitsBuffer_iff]
  omega

/-- The loop keeps the count of bytes, and stops where the buffer fits. -/
theorem dropOldest_totalBytes (lines : List Bytes) :
    dropOldest lines (totalBytes lines) =
      (newest fitsBuffer lines, (totalBytes (newest fitsBuffer lines) : Int)) := by
  induction lines with
  | nil => rfl
  | cons line lines ih =>
      have without : (totalBytes (line :: lines) : Int) - line.length =
          totalBytes lines := by
        simp only [totalBytes, List.map_cons, List.sum_cons, Int.natCast_add]
        omega
      rw [dropOldest, newest]
      by_cases fit : fitsBuffer (line :: lines) = true
      · obtain ⟨bytes, count⟩ := fitsBuffer_iff.mp fit
        rw [if_pos fit, if_neg (by omega)]
      · have over_ : (totalBytes (line :: lines) : Int) > maxBufBytes ∨
            (line :: lines).length > maxBufLines := by
          rw [fitsBuffer_iff] at fit
          omega
        rw [if_neg fit, if_pos over_, without, ih]

/-! ### The terminal keeps what fits -/

section Terminal

variable (p : Pausing)

theorem flushBuffer_eq (t : Terminal) :
    t.flushBuffer =
      { t with sent := t.sent ++ t.bufLines, bufLines := [], bufBytes := 0 } := by
  unfold Terminal.flushBuffer
  split
  · rename_i empty
    rw [empty, List.append_nil]
  · rfl

theorem emitToTerminal_terminal (s : Bytes) :
    p.terminal.emitToTerminal s = (p.emit s).terminal := by
  unfold Terminal.emitToTerminal Pausing.emit
  split
  · rfl
  · obtain ⟨_ | held, sent⟩ := p
    · rfl
    · have counted : (totalBytes (newest fitsBuffer held) : Int) + s.length =
          totalBytes (newest fitsBuffer held ++ [s]) := by
        rw [totalBytes_concat]
        rfl
      have again := newest_newest_concat fitsBuffer_of_concat held s
      simp only [Pausing.terminal, Terminal.enqueueBuffered, Option.isSome_some,
        if_true, Option.getD_some]
      rw [counted, dropOldest_totalBytes, again]

theorem setPaused_terminal (paused : Bool) :
    p.terminal.setPaused paused = (p.setPaused paused).terminal := by
  obtain ⟨_ | held, sent⟩ := p
  · cases paused <;> rfl
  · cases paused with
    | true => rfl
    | false =>
        exact flushBuffer_eq _

theorem handle_terminal (event : TerminalEvent) :
    p.terminal.handle event = (p.handle event).terminal := by
  cases event with
  | emit s => exact emitToTerminal_terminal p s
  | pause paused => exact setPaused_terminal p paused

/-- The hand-kept buffer is the newest strings that fit, in every run. -/
theorem run_terminal (events : List TerminalEvent) :
    p.terminal.run events = (p.run events).terminal := by
  induction events generalizing p with
  | nil => rfl
  | cons event events ih =>
      have first : p.terminal.handle event = (p.handle event).terminal :=
        handle_terminal p event
      calc p.terminal.run (event :: events)
          = (p.terminal.handle event).run events := rfl
        _ = ((p.handle event).run events).terminal := by rw [first, ih]

end Terminal

/-! ### What is sent -/

section Sent

variable {t : Terminal}

theorem sent_handle_of_paused (paused : t.terminalPaused = true)
    {event : TerminalEvent} (stays : event ≠ .pause false) :
    (t.handle event).sent = t.sent := by
  cases event with
  | emit s =>
      simp only [Terminal.handle, Terminal.emitToTerminal, paused, if_true]
      split
      · rfl
      · rfl
  | pause again =>
      cases again with
      | true => simp [Terminal.handle, Terminal.setPaused]
      | false => exact absurd rfl stays

theorem sent_emit_of_running (running : t.terminalPaused = false) {s : Bytes}
    (some : s ≠ []) :
    (t.handle (.emit s)).sent = t.sent ++ [s] := by
  change (t.emitToTerminal s).sent = _
  rw [Terminal.emitToTerminal, if_neg some, running, if_neg Bool.false_ne_true]

/-- What one event sends, and what is held after it, was held or emitted. -/
theorem exists_sent_handle (p : Pausing) (event : TerminalEvent) :
    ∃ more, (p.handle event).sent = p.sent ++ more ∧
      (more ++ (p.handle event).held.getD []).Sublist
        (p.held.getD [] ++ emitted [event]) := by
  obtain ⟨held, sent⟩ := p
  cases event with
  | emit s =>
      by_cases empty : s = []
      · refine ⟨[], ?_, ?_⟩
        · simp [Pausing.handle, Pausing.emit, empty]
        · simp [Pausing.handle, Pausing.emit, emitted, empty]
      · cases held with
        | none =>
            refine ⟨[s], ?_, ?_⟩
            · simp [Pausing.handle, Pausing.emit, empty]
            · simp [Pausing.handle, Pausing.emit, emitted, empty]
        | some held =>
            refine ⟨[], ?_, ?_⟩
            · simp [Pausing.handle, Pausing.emit, empty]
            · simp [Pausing.handle, Pausing.emit, emitted, empty]
  | pause paused =>
      have same : emitted [.pause paused] = [] := rfl
      rw [same, List.append_nil]
      cases held with
      | none =>
          cases paused <;>
            exact ⟨[], (List.append_nil _).symm, List.Sublist.refl _⟩
      | some held =>
          cases paused with
          | true => exact ⟨[], (List.append_nil _).symm, List.Sublist.refl _⟩
          | false =>
              refine ⟨newest fitsBuffer held, rfl, ?_⟩
              have kept := (newest_suffix held : newest fitsBuffer held <:+ held)
              exact (List.append_nil _).symm ▸ kept.sublist

theorem emitted_cons (event : TerminalEvent) (events : List TerminalEvent) :
    emitted (event :: events) = emitted [event] ++ emitted events := by
  cases event with
  | emit s =>
      by_cases empty : s = []
      · simp [emitted, empty]
      · simp [emitted, empty]
  | pause paused => rfl

theorem exists_sent_run (p : Pausing) (events : List TerminalEvent) :
    ∃ more, (p.run events).sent = p.sent ++ more ∧
      (more ++ (p.run events).held.getD []).Sublist
        (p.held.getD [] ++ emitted events) := by
  induction events generalizing p with
  | nil =>
      refine ⟨[], (List.append_nil _).symm, ?_⟩
      exact List.sublist_append_left _ _
  | cons event events ih =>
      obtain ⟨first, sentFirst, within⟩ := exists_sent_handle p event
      obtain ⟨more, sentMore, withinMore⟩ := ih (p.handle event)
      have whole : p.run (event :: events) = (p.handle event).run events := rfl
      refine ⟨first ++ more, ?_, ?_⟩
      · rw [whole, sentMore, sentFirst, List.append_assoc]
      · rw [whole, List.append_assoc]
        have later := withinMore.append_left first
        have here := within.append_right (emitted events)
        rw [List.append_assoc, List.append_assoc, ← emitted_cons] at here
        exact later.trans here

end Sent

/-! ### Every run -/

/-- In every run the buffer is the longest end of the strings emitted since the
pause that fits, a paused terminal sends nothing, a running one what is emitted
at once, and the end of the pause sends the buffer before anything else. -/
theorem pause_bounded_ordered (events : List TerminalEvent) :
    let t := Terminal.run {} events
    (t.terminalPaused = true →
      ∀ event, event ≠ .pause false → (t.handle event).sent = t.sent) ∧
    (t.terminalPaused = false →
      ∀ s, s ≠ [] → (t.handle (.emit s)).sent = t.sent ++ [s]) ∧
    t.bufLines <:+ sincePause events ∧
    (∀ lines, lines <:+ sincePause events → fitsBuffer lines = true →
      lines <:+ t.bufLines) ∧
    t.bufLines.length ≤ maxBufLines ∧
    t.bufBytes ≤ maxBufBytes ∧
    t.bufBytes = totalBytes t.bufLines ∧
    ∀ later, ∃ more,
      ((t.handle (.pause false)).run later).sent =
        t.sent ++ t.bufLines ++ more ∧
      more.Sublist (emitted later) := by
  intro t
  have kept : t = (Pausing.run {} events).terminal := run_terminal {} events
  obtain ⟨bytes, count⟩ := fitsBuffer_iff.mp
    (fits_newest (rfl : fitsBuffer [] = true) (sincePause events))
  refine ⟨fun paused event stays => sent_handle_of_paused paused stays,
    fun running s some => sent_emit_of_running running some, ?_⟩
  rw [kept]
  refine ⟨newest_suffix _, fun lines within fit => suffix_newest fit within,
    count, Int.ofNat_le.mpr bytes, rfl, fun later => ?_⟩
  generalize Pausing.run {} events = p
  have unpaused : p.terminal.handle (.pause false) =
      (p.handle (.pause false)).terminal := handle_terminal p _
  obtain ⟨more, sent, within⟩ := exists_sent_run (p.handle (.pause false)) later
  refine ⟨more, ?_, ?_⟩
  · rw [unpaused, run_terminal]
    refine sent.trans (congrArg (· ++ more) ?_)
    obtain ⟨_ | held, before⟩ := p
    · exact (List.append_nil _).symm
    · rfl
  · have none : (p.handle (.pause false)).held = none := by
      obtain ⟨_ | held, before⟩ := p <;> rfl
    rw [none] at within
    exact (List.sublist_append_left _ _).trans within

end Console

end JetKvm
