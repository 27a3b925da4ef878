import JetKvm.LabelledRuns
import JetKvm.UsbGadgetConfig
import JetKvm.UsbKeyboardKeysDown
import Mathlib.Algebra.Group.Int.Defs
import Mathlib.Data.Int.Bitwise

/-!
# The inactivity that the jiggler waits for

Translation of `runJiggler` in `jiggler.go` and of the reports of
`internal/usbgadget` that reset the time of the last user input.  The jiggler
moves the mouse through `RelMouseReport`, which takes that for input too.
-/

namespace JetKvm

namespace JigglerInactivity

open LabelledRuns UsbGadget

/-! ### The reports of the gadget -/

/-- Times are in nanoseconds. -/
structure Gadget where
  enabledDevices : Devices
  keysDownState : KeysDownState := {}
  lastUserInput : Int
  deriving DecidableEq, Repr

def Gadget.resetUserInputTime (now : Int) (u : Gadget) : Gadget :=
  { u with lastUserInput := now }

/-- What a report leaves, and the data that the host gets -/
abbrev Reporting := Gadget × Option (List UInt8)

/-- A write that misses its deadline is no error, but nothing arrives. -/
def arrived (write : HidWrite) (data : List UInt8) : Option (List UInt8) :=
  if write = .delivered then some data else none

/-- `KeyboardReport` and `keypressReport` reset the time in any case. -/
def Gadget.report (reported : Reported) (write : HidWrite) (now : Int)
    (u : Gadget) : Reporting :=
  ({ u with keysDownState := reported.tracked }.resetUserInputTime now,
    reported.written.bind (arrived write))

def Gadget.keyboardReport (modifier : UInt8) (keys : List UInt8)
    (write : HidWrite) (now : Int) (u : Gadget) : Reporting :=
  u.report (UsbGadget.keyboardReport u.keysDownState modifier keys write) write now

def Gadget.keypressReport (key : UInt8) (press : Bool) (write : HidWrite)
    (now : Int) (u : Gadget) : Reporting :=
  u.report (UsbGadget.keypressReport u.keysDownState key press write) write now

/-- A mouse that is not enabled reports nothing. -/
def Gadget.mouseReport (enabled : Bool) (data : List UInt8) (write : HidWrite)
    (now : Int) (u : Gadget) : Reporting :=
  if enabled = false then (u, none)
  else
    match write.err with
    | some _ => (u, none)
    | none => (u.resetUserInputTime now, arrived write data)

/-- A wheel that did not turn is not reported; an error of the write does not
keep the time from being reset. -/
def Gadget.mouseWheelReport (enabled : Bool) (wheelY wheelX : Int8)
    (data : List UInt8) (write : HidWrite) (now : Int) (u : Gadget) : Reporting :=
  if enabled = false then (u, none)
  else if wheelY = 0 ∧ wheelX = 0 then (u, none)
  else (u.resetUserInputTime now, arrived write data)

def Gadget.absMouseReport (x y : Int) (buttons : UInt8) (write : HidWrite)
    (now : Int) (u : Gadget) : Reporting :=
  u.mouseReport u.enabledDevices.absoluteMouse
    [1, buttons, UInt8.ofInt x, UInt8.ofInt (x >>> 8), UInt8.ofInt y,
      UInt8.ofInt (y >>> 8)] write now

def Gadget.relMouseReport (mx my : Int8) (buttons : UInt8) (write : HidWrite)
    (now : Int) (u : Gadget) : Reporting :=
  u.mouseReport u.enabledDevices.relativeMouse
    [buttons, mx.toUInt8, my.toUInt8, 0, 0] write now

def Gadget.absMouseWheelReport (wheelY wheelX : Int8) (write : HidWrite)
    (now : Int) (u : Gadget) : Reporting :=
  u.mouseWheelReport u.enabledDevices.absoluteMouse wheelY wheelX
    [2, wheelY.toUInt8, wheelX.toUInt8] write now

def Gadget.relMouseWheelReport (wheelY wheelX : Int8) (write : HidWrite)
    (now : Int) (u : Gadget) : Reporting :=
  u.mouseWheelReport u.enabledDevices.relativeMouse wheelY wheelX
    [0, 0, 0, wheelY.toUInt8, wheelX.toUInt8] write now

/-- The reports that a user asks for -/
inductive Request where
  | keyboard (modifier : UInt8) (keys : List UInt8)
  | keypress (key : UInt8) (press : Bool)
  | absMouse (x y : Int) (buttons : UInt8)
  | relMouse (dx dy : Int8) (buttons : UInt8)
  | wheel (wheelY wheelX : Int8)
  deriving DecidableEq, Repr

def Request.report (request : Request) (write : HidWrite) (now : Int)
    (u : Gadget) : Reporting :=
  match request with
  | .keyboard modifier keys => u.keyboardReport modifier keys write now
  | .keypress key press => u.keypressReport key press write now
  | .absMouse x y buttons => u.absMouseReport x y buttons write now
  | .relMouse dx dy buttons => u.relMouseReport dx dy buttons write now
  | .wheel wheelY wheelX =>
      if u.enabledDevices.absoluteMouse then
        u.absMouseWheelReport wheelY wheelX write now
      else u.relMouseWheelReport wheelY wheelX write now

/-! ### The runs of the jiggler -/

/-- What `runJiggler` reads of the configuration; an `int` has 32 bits. -/
structure Config where
  jigglerEnabled : Bool
  inactivityLimitSeconds : Int32
  jitterPercentage : Int32
  deriving DecidableEq, Repr

/-- The limit in nanoseconds -/
def Config.limit (config : Config) : Int :=
  config.inactivityLimitSeconds.toInt * 1000000000

/-- `time.Duration(inactivitySeconds)*time.Second`, an `int64` -/
def Config.inactivity (config : Config) : Int :=
  (config.inactivityLimitSeconds.toInt * 1000000000).bmod (2 ^ 64)

/-- What `rand` chooses for one movement -/
structure Jiggle where
  x : Fin 3
  y : Fin 3
  negateX : Bool
  negateY : Bool
  deriving DecidableEq, Repr

def Jiggle.displacement (steps : Fin 3) (negate : Bool) : Int8 :=
  let d : Int8 := Int8.ofNat (steps + 1)
  if negate then -d else d

def Jiggle.request (jiggle : Jiggle) : Request :=
  .relMouse (Jiggle.displacement jiggle.x jiggle.negateX)
    (Jiggle.displacement jiggle.y jiggle.negateY) 0

inductive Origin where
  | user
  | jiggler
  deriving DecidableEq, Repr

/-- A report that the host got -/
structure Sent where
  origin : Origin
  time : Int
  data : List UInt8
  deriving DecidableEq, Repr

/-- The runs that sleep, each until a time, and those that checked and are going
to move the mouse.  The latest report is the first in `sent`. -/
structure State where
  gadget : Gadget
  started : Int
  now : Int
  sleeping : List Int := []
  moving : List Jiggle := []
  sent : List Sent := []
  deriving DecidableEq, Repr

inductive Label where
  | pass (duration : Nat)
  | report (request : Request) (write : HidWrite)
  | run (jitter : Int)
  | check (wake : Int) (jiggle : Jiggle)
  | move (jiggle : Jiggle) (write : HidWrite)
  deriving DecidableEq, Repr

section Jiggler

variable (config : Config)
-- whether the host has configured the gadget
variable (usbReadyForHidReports : Bool)

def State.rpcHidReport (origin : Origin) (request : Request) (write : HidWrite)
    (s : State) : State :=
  if usbReadyForHidReports = false then s
  else
    let (gadget, data) := request.report write s.now s.gadget
    { s with
      gadget := gadget
      sent := data.toList.map (⟨origin, s.now, ·⟩) ++ s.sent }

/-- `time.Since`, which does not exceed an `int64` -/
def State.timeSinceLastInput (s : State) : Int :=
  min (s.now - s.gadget.lastUserInput) (2 ^ 63 - 1)

/-- When a run that starts now, with this jitter, checks -/
def State.wake (s : State) (jitter : Int) : Int :=
  if config.jitterPercentage ≠ 0 then s.now + jitter else s.now

def step (s : State) : Label → Option State
  | .pass duration => some { s with now := s.now + duration }
  | .report request write =>
      some (s.rpcHidReport usbReadyForHidReports .user request write)
  | .run jitter =>
      if config.jigglerEnabled then
        some { s with sleeping := s.wake config jitter :: s.sleeping }
      else some s
  | .check wake jiggle =>
      if wake ∈ s.sleeping ∧ wake ≤ s.now then
        some { s with
          sleeping := s.sleeping.erase wake
          moving :=
            if s.timeSinceLastInput > config.inactivity then jiggle :: s.moving
            else s.moving }
      else none
  | .move jiggle write =>
      if jiggle ∈ s.moving then
        some ({ s with moving := s.moving.erase jiggle }.rpcHidReport
          usbReadyForHidReports .jiggler jiggle.request write)
      else none

end Jiggler

/-- A gadget that is new -/
def initial (enabledDevices : Devices) (now : Int) : State where
  gadget := { enabledDevices := enabledDevices, lastUserInput := now }
  started := now
  now := now

def Label.Delivered : Label → Prop
  | .report _ write | .move _ write => write = .delivered
  | _ => True

instance : (label : Label) → Decidable label.Delivered
  | .report _ write | .move _ write =>
      inferInstanceAs (Decidable (write = .delivered))
  | .pass _ | .run _ | .check _ _ => isTrue trivial

/-! ### Moving on inactivity -/

section Inactivity

variable (config : Config)

/-- Every report of a user is older than the limit; before there is one, the
gadget itself has to be. -/
def Inactive (s : State) : Prop :=
  config.limit < s.now - s.started ∧
    ∀ report ∈ s.sent, report.origin = .user → config.limit < s.now - report.time

/-- When a run finds the user inactive, the jiggler's own movements are older than
the limit as well. -/
def Undisturbed (s : State) : Label → Prop
  | .check _ _ => Inactive config s →
      ∀ report ∈ s.sent, report.origin = .jiggler →
        config.limit < s.now - report.time
  | _ => True

variable {config} {s next : State} {label : Label}

theorem arrived_delivered (data : List UInt8) : arrived .delivered data = some data :=
  if_pos rfl

/-! ### What the reports do to the time -/

/-- Either nothing is reported, or the host gets data and the time is reset. -/
inductive Resets (now : Int) (u : Gadget) : Reporting → Prop
  | skipped : Resets now u (u, none)
  | reported (keysDownState : KeysDownState) (data : List UInt8) :
      Resets now u
        ({ u with keysDownState := keysDownState, lastUserInput := now }, some data)

section Reports

variable (now : Int) (u : Gadget)

theorem resets_report {reported : Reported} {data : List UInt8}
    (written : reported.written = some data) :
    Resets now u (u.report reported .delivered now) := by
  unfold Gadget.report
  rw [written, Option.bind_some, arrived_delivered]
  exact .reported reported.tracked data

theorem resets_mouseReport (enabled : Bool) (data : List UInt8) :
    Resets now u (u.mouseReport enabled data .delivered now) := by
  cases enabled
  · exact .skipped
  · exact .reported u.keysDownState data

theorem resets_mouseWheelReport (enabled : Bool) (wheelY wheelX : Int8)
    (data : List UInt8) :
    Resets now u (u.mouseWheelReport enabled wheelY wheelX data .delivered now) := by
  unfold Gadget.mouseWheelReport
  split_ifs
  · exact .skipped
  · exact .skipped
  · exact .reported u.keysDownState data

theorem written_keypressReport (tracked : KeysDownState) (key : UInt8)
    (press : Bool) :
    ∃ data, (UsbGadget.keypressReport tracked key press .delivered).written =
      some data := by
  unfold UsbGadget.keypressReport
  split
  · exact ⟨_, rfl⟩
  · exact ⟨_, rfl⟩

theorem resets_request (request : Request) :
    Resets now u (request.report .delivered now u) := by
  cases request with
  | keyboard modifier keys => exact resets_report now u rfl
  | keypress key press =>
      obtain ⟨data, written⟩ := written_keypressReport u.keysDownState key press
      exact resets_report now u written
  | absMouse x y buttons => exact resets_mouseReport now u _ _
  | relMouse dx dy buttons => exact resets_mouseReport now u _ _
  | wheel wheelY wheelX =>
      unfold Request.report
      split_ifs
      · exact resets_mouseWheelReport now u _ wheelY wheelX _
      · exact resets_mouseWheelReport now u _ wheelY wheelX _

end Reports

/-! ### The last input -/

/-- The last input is the latest report, whoever it came from. -/
structure Known (s : State) : Prop where
  relativeMouse : s.gadget.enabledDevices.relativeMouse = true
  past : s.gadget.lastUserInput ≤ s.now
  started : s.started ≤ s.gadget.lastUserInput
  sent : ∀ report ∈ s.sent, report.time ≤ s.gadget.lastUserInput
  last : s.gadget.lastUserInput = s.started ∨
    ∃ report ∈ s.sent, report.time = s.gadget.lastUserInput

theorem Known.rpcHidReport (known : Known s) (origin : Origin) (request : Request) :
    Known (s.rpcHidReport true origin request .delivered) := by
  obtain ⟨relativeMouse, past, started, sent, last⟩ := known
  have resets := resets_request s.now s.gadget request
  unfold State.rpcHidReport
  rw [if_neg nofun]
  revert resets
  generalize request.report .delivered s.now s.gadget = reporting
  intro resets
  cases resets with
  | skipped => exact ⟨relativeMouse, past, started, sent, last⟩
  | reported keysDownState data =>
      refine ⟨relativeMouse, Int.le_refl s.now, started.trans past, ?_, ?_⟩
      · exact List.forall_mem_cons.mpr
          ⟨Int.le_refl s.now, fun report inSent => (sent report inSent).trans past⟩
      · exact .inr ⟨_, List.mem_cons_self, rfl⟩

theorem Known.step (known : Known s) (delivered : label.Delivered)
    (taken : step config true s label = some next) : Known next := by
  cases label with
  | pass duration =>
      cases taken
      have past : s.gadget.lastUserInput ≤ s.now + duration :=
        known.past.trans (by omega)
      exact { known with past := past }
  | report request write =>
      obtain rfl : write = .delivered := delivered
      cases taken
      exact known.rpcHidReport .user request
  | run jitter =>
      simp only [JigglerInactivity.step] at taken
      split_ifs at taken
      · cases taken
        exact { known with }
      · cases taken
        exact known
  | check wake jiggle =>
      simp only [JigglerInactivity.step, Option.ite_none_right_eq_some] at taken
      obtain ⟨-, taken⟩ := taken
      cases taken
      exact { known with }
  | move jiggle write =>
      obtain rfl : write = .delivered := delivered
      simp only [JigglerInactivity.step, Option.ite_none_right_eq_some] at taken
      obtain ⟨-, taken⟩ := taken
      cases taken
      have still : Known { s with moving := s.moving.erase jiggle } := { known with }
      exact still.rpcHidReport .jiggler jiggle.request

end Inactivity

/-! ### A run every fifty seconds -/

end JigglerInactivity

end JetKvm
