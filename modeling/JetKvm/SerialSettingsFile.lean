import JetKvm.ConsoleText
import JetKvm.FallibleCalls
import Mathlib.Data.List.Basic

/-!
# The settings of the serial port

Translation of `getSerialSettings` and `setSerialSettings` of `serial.go`.  The
settings are in the file, in `serialConfig`, in `serialPortMode` and in the
options of the mux and the broker.  The file is written before the settings are
checked, and the mode before it is set on the port, which may be nil.
-/

namespace JetKvm

namespace SerialSettingsFile

open Console (Bytes NormalizeMode LineEndingMode NormalizationOptions)
open Fallible

/-! ### The settings -/

structure Terminator where
  label : String
  value : String
  deriving DecidableEq, Repr

/-- An `int` of the device has 32 bits. -/
structure QuickButton where
  id : String
  label : String
  command : String
  terminator : Terminator
  sort : Int32
  deriving DecidableEq, Repr

structure SerialSettings where
  baudRate : Int32
  dataBits : Int32
  parity : String
  stopBits : String
  terminator : Terminator
  hideSerialSettings : Bool
  enableEcho : Bool
  normalizeMode : String
  normalizeLineEnd : String
  tabRender : Bytes
  preserveANSI : Bool
  showNLTag : Bool
  buttons : List QuickButton
  deriving DecidableEq, Repr

inductive Parity where
  | noParity | odd | even | mark | space
  deriving DecidableEq, Repr

inductive StopBits where
  | one | onePointFive | two
  deriving DecidableEq, Repr

structure Mode where
  baudRate : Int32
  dataBits : Int32
  parity : Parity
  stopBits : StopBits
  deriving DecidableEq, Repr

def defaultMode : Mode where
  baudRate := 115200
  dataBits := 8
  parity := .noParity
  stopBits := .one

def stopBitsOf : String → Option StopBits
  | "1" => some .one
  | "1.5" => some .onePointFive
  | "2" => some .two
  | _ => none

def parityOf : String → Option Parity
  | "none" => some .noParity
  | "odd" => some .odd
  | "even" => some .even
  | "mark" => some .mark
  | "space" => some .space
  | _ => none

def stopBitsText : StopBits → String
  | .one => "1"
  | .onePointFive => "1.5"
  | .two => "2"

def parityText : Parity → String
  | .noParity => "none"
  | .odd => "odd"
  | .even => "even"
  | .mark => "mark"
  | .space => "space"

def normalizeModeOf : String → NormalizeMode
  | "caret" => .caret
  | "names" => .names
  | "hex" => .hex
  | _ => .names

def crlfModeOf : String → LineEndingMode
  | "keep" => .asIs
  | "lf" => .lf
  | "cr" => .cr
  | "crlf" => .crlf
  | "lfcr" => .lfcr
  | _ => .asIs

def normOptions (settings : SerialSettings) : NormalizationOptions where
  mode := normalizeModeOf settings.normalizeMode
  lineEnding := crlfModeOf settings.normalizeLineEnd
  tabRender := settings.tabRender
  preserveANSI := settings.preserveANSI
  showNLTag := settings.showNLTag

/-! ### The two calls -/

/-- The indented text of the settings, and the settings that the first value of
a text has -/
structure SettingsJson where
  marshal : SerialSettings → List Char
  unmarshal : List Char → Option SerialSettings

/-- A call returns an error, or it panics, which `callRPCHandler` recovers. -/
inductive Failure where
  | error (text : String)
  | panic
  deriving DecidableEq, Repr

/-- The port, the mux and the broker may be nil; of the last two there are the
echo and the options. -/
structure Serial where
  file : Option (List Char)
  portOpen : Bool
  serialConfig : SerialSettings
  serialPortMode : Mode
  serialMux : Option Bool
  consoleBroker : Option NormalizationOptions
  deriving DecidableEq, Repr

section Calls

variable (json : SettingsJson)

/-- Where the two calls agree: the options that follow from `serialConfig` -/
def applyOptions (serial : Serial) : Serial :=
  { serial with
    serialMux := serial.serialMux.map fun _ => serial.serialConfig.enableEcho
    consoleBroker :=
      serial.consoleBroker.map fun _ => normOptions serial.serialConfig }

/-- `port.SetMode`, whose error is ignored -/
def setMode : Fallible Failure Serial Unit := do
  if (← get).portOpen = false then
    throw .panic

/-- The settings and the error that are returned; the file is opened if it is
there. -/
def getSerialSettings :
    Fallible Failure Serial (SerialSettings × Option String) := do
  modify fun serial => { serial with
    serialConfig := { serial.serialConfig with
      stopBits := stopBitsText defaultMode.stopBits
      parity := parityText defaultMode.parity } }
  let serial ← get
  match serial.file with
  | none =>
      return (serial.serialConfig,
        some "open /userdata/serialSettings.json: no such file or directory")
  | some text =>
      match json.unmarshal text with
      | none => return (serial.serialConfig, none)
      | some loadedConfig =>
          -- a text that is not known leaves the zero value, the first one
          modify fun serial => { serial with
            serialConfig := loadedConfig
            serialPortMode :=
              { baudRate := loadedConfig.baudRate
                dataBits := loadedConfig.dataBits
                parity := (parityOf loadedConfig.parity).getD .noParity
                stopBits := (stopBitsOf loadedConfig.stopBits).getD .one } }
          setMode
          modify applyOptions
          return (loadedConfig, none)

/-- The settings that are asked for, and how the file lets itself be created and
written: a write that fails leaves some of the text. -/
structure Call where
  newSettings : SerialSettings
  create : Option String := none
  write : Option (Nat × String) := none

def Call.line (call : Call) : List Char :=
  json.marshal call.newSettings ++ ['\n']

/-- What the call leaves in the file it has truncated -/
def Call.left (call : Call) : List Char :=
  match call.write with
  | none => call.line json
  | some (written, _) => (call.line json).take written

/-- The result is an error or nil. -/
def setSerialSettings (call : Call) : Fallible Failure Serial Unit := do
  match call.create with
  | some error =>
      throw (.error ("failed to create SerialSettings file: " ++ error))
  | none => modify fun serial => { serial with file := some [] }
  modify fun serial => { serial with file := some (call.left json) }
  match call.write with
  | some (_, error) =>
      throw (.error ("failed to encode SerialSettings: " ++ error))
  | none => pure ()
  let stopBits ← match stopBitsOf call.newSettings.stopBits with
    | some stopBits => pure stopBits
    | none => throw (.error ("invalid stop bits: " ++ call.newSettings.stopBits))
  let parity ← match parityOf call.newSettings.parity with
    | some parity => pure parity
    | none => throw (.error ("invalid parity: " ++ call.newSettings.parity))
  modify fun serial => { serial with
    serialPortMode :=
      { baudRate := call.newSettings.baudRate
        dataBits := call.newSettings.dataBits
        parity := parity
        stopBits := stopBits } }
  setMode
  modify fun serial => { serial with serialConfig := call.newSettings }
  modify applyOptions

/-- The settings in force are those that are returned, and stay. -/
def Faithful (serial : Serial) : Prop :=
  Ends (getSerialSettings json) serial
    (fun returned next => returned.1 = serial.serialConfig ∧ next = serial)
    fun _ _ => False

/-- The state after some calls -/
def after (serial : Serial) (calls : List Call) : Serial :=
  calls.foldl (fun serial call => (setSerialSettings json call).after serial)
    serial

/-! ### How one call ends -/

def modeOf (settings : SerialSettings) : Option Mode :=
  match stopBitsOf settings.stopBits, parityOf settings.parity with
  | some stopBits, some parity => some
      { baudRate := settings.baudRate
        dataBits := settings.dataBits
        parity := parity
        stopBits := stopBits }
  | _, _ => none

/-- Nothing fails, the settings are valid, and the port is open. -/
def Call.Succeeds (call : Call) (serial : Serial) : Prop :=
  (call.create = none ∧ call.write = none ∧
    (modeOf call.newSettings).isSome = true) ∧ serial.portOpen = true

/-- The settings are in the file and in force. -/
def inForce (call : Call) (mode : Mode) (serial : Serial) : Serial :=
  applyOptions { serial with
    file := some (call.line json)
    serialConfig := call.newSettings
    serialPortMode := mode }

variable {json} {call : Call} {serial : Serial}

/-- What is left if the call fails after the file is there: its text, and the
mode of valid settings -/
def Call.failed (json : SettingsJson) (call : Call) (serial : Serial) : Serial :=
  { serial with
    file := some (call.left json)
    serialPortMode :=
      if call.write = none then
        (modeOf call.newSettings).getD serial.serialPortMode
      else serial.serialPortMode }

theorem set_of_create {error : String} (refused : call.create = some error) :
    setSerialSettings json call serial =
      .error (.error ("failed to create SerialSettings file: " ++ error))
        serial := by
  unfold setSerialSettings
  rw [refused]
  rfl

theorem set_of_succeeds (succeeds : call.Succeeds serial) :
    ∃ mode, modeOf call.newSettings = some mode ∧
      setSerialSettings json call serial =
        .ok () (inForce json call mode serial) := by
  obtain ⟨⟨created, written, valid⟩, isOpen⟩ := succeeds
  obtain ⟨settings, create, write⟩ := call
  obtain ⟨file, portOpen, config, mode, mux, broker⟩ := serial
  dsimp only at created written valid isOpen
  subst created written isOpen
  unfold setSerialSettings
  unfold modeOf at valid ⊢
  cases stopBits : stopBitsOf settings.stopBits with
  | none => simp [stopBits] at valid
  | some stopBits' =>
      cases parity : parityOf settings.parity with
      | none => simp [stopBits, parity] at valid
      | some parity' =>
          exact ⟨_, rfl, rfl⟩

/-- A call that fails after the file is there leaves it with what was written,
and on a port that is not open the mode too. -/
theorem set_of_not_succeeds (created : call.create = none)
    (fails : ¬ call.Succeeds serial) :
    ∃ failure, setSerialSettings json call serial =
      .error failure (call.failed json serial) := by
  obtain ⟨settings, create, write⟩ := call
  obtain ⟨file, portOpen, config, mode, mux, broker⟩ := serial
  dsimp only at created
  subst created
  unfold setSerialSettings Call.failed modeOf
  cases write with
  | some failure => exact ⟨_, rfl⟩
  | none =>
      cases stopBits : stopBitsOf settings.stopBits with
      | none => exact ⟨_, rfl⟩
      | some stopBits' =>
          cases parity : parityOf settings.parity with
          | none => exact ⟨_, rfl⟩
          | some parity' =>
              cases portOpen with
              | false => exact ⟨_, rfl⟩
              | true =>
                  refine absurd ⟨⟨rfl, rfl, ?_⟩, rfl⟩ fails
                  simp [modeOf, stopBits, parity]

theorem portOpen_after (json : SettingsJson) (call : Call) (serial : Serial) :
    ((setSerialSettings json call).after serial).portOpen = serial.portOpen := by
  cases created : call.create with
  | some error => rw [after_of_error (set_of_create created)]
  | none =>
      by_cases succeeds : call.Succeeds serial
      · obtain ⟨mode, -, returns⟩ := @set_of_succeeds json call serial succeeds
        rw [after_of_ok returns]
        rfl
      · obtain ⟨failure, failed⟩ :=
          @set_of_not_succeeds json call serial created succeeds
        rw [after_of_error failed]
        rfl

/-! ### When the settings are atomic -/

/-- The file cannot be created, or the call succeeds, or the file is left with
the text that it had, and the mode too if the settings are valid. -/
def Harmless (json : SettingsJson) (call : Call) (serial : Serial) : Prop :=
  call.create ≠ none ∨ call.Succeeds serial ∨
    serial.file = some (call.left json) ∧
      (call.write = none → ∀ mode ∈ modeOf call.newSettings,
        serial.serialPortMode = mode)

theorem failed_eq_iff :
    call.failed json serial = serial ↔
      serial.file = some (call.left json) ∧
        (call.write = none → ∀ mode ∈ modeOf call.newSettings,
          serial.serialPortMode = mode) := by
  obtain ⟨file, portOpen, config, mode, mux, broker⟩ := serial
  unfold Call.failed
  by_cases written : call.write = none
  · cases valid : modeOf call.newSettings <;> simp [written, eq_comm]
  · simp [written, eq_comm]

theorem callAtomic_iff_harmless :
    Atomic (setSerialSettings json call) serial ↔ Harmless json call serial := by
  unfold Harmless
  by_cases created : call.create = none
  · by_cases succeeds : call.Succeeds serial
    · obtain ⟨mode, -, returns⟩ := @set_of_succeeds json call serial succeeds
      exact iff_of_true (atomic_of_ok returns) (.inr (.inl succeeds))
    · obtain ⟨failure, failed⟩ :=
        @set_of_not_succeeds json call serial created succeeds
      rw [atomic_iff_of_error failed, failed_eq_iff]
      simp only [created, succeeds, ne_eq, not_true_eq_false, false_or]
  · obtain ⟨error, refused⟩ := Option.ne_none_iff_exists'.mp created
    exact iff_of_true ((atomic_iff_of_error (set_of_create refused)).mpr rfl)
      (.inl created)

/-- Once a call has succeeded, reading the file back changes nothing. -/
theorem faithful_of_succeeds
    (reads : json.unmarshal (call.line json) = some call.newSettings)
    (succeeds : call.Succeeds serial) :
    Faithful json ((setSerialSettings json call).after serial) := by
  obtain ⟨mode, valid, returns⟩ := @set_of_succeeds json call serial succeeds
  rw [after_of_ok returns]
  unfold modeOf at valid
  split at valid
  · rename_i stopBits parity knownStop knownParity
    obtain rfl := Option.some.inj valid
    unfold Faithful getSerialSettings setMode inForce applyOptions
    simp [-bind_pure_comp, reads, knownStop, knownParity, succeeds.2,
      Function.comp_def]
  · cases valid

theorem portOpen_of_after (calls : List Call) :
    (after json serial calls).portOpen = serial.portOpen := by
  induction calls generalizing serial with
  | nil => rfl
  | cons call calls ih => exact ih.trans (portOpen_after json call serial)

theorem after_concat (calls : List Call) :
    after json serial (calls ++ [call]) =
      (setSerialSettings json call).after (after json serial calls) := by
  simp [after]

theorem after_eq_of_harmless (harmless : Harmless json call serial)
    (fails : ¬ call.Succeeds serial) :
    (setSerialSettings json call).after serial = serial := by
  have atomic := callAtomic_iff_harmless.mpr harmless
  by_cases created : call.create = none
  · obtain ⟨error, failed⟩ := @set_of_not_succeeds json call serial created fails
    rw [after_of_error failed]
    exact (atomic_iff_of_error failed).mp atomic
  · obtain ⟨error, refused⟩ := Option.ne_none_iff_exists'.mp created
    exact after_of_error (set_of_create refused)

/-- Reading the file back changes nothing: once a call has succeeded, or from
the start if it did so then. -/
theorem faithful_after {calls : List Call}
    (reads : ∀ call ∈ calls,
      json.unmarshal (call.line json) = some call.newSettings)
    (harmless : ∀ before call later, calls = before ++ call :: later →
      Harmless json call (after json serial before))
    (settled : Faithful json serial ∨ ∃ call ∈ calls, call.Succeeds serial) :
    Faithful json (after json serial calls) := by
  induction calls using List.reverseRecOn with
  | nil =>
      rcases settled with start | ⟨call, none, -⟩
      · exact start
      · cases none
  | append_singleton calls call ih =>
      rw [after_concat]
      by_cases succeeds : call.Succeeds (after json serial calls)
      · exact faithful_of_succeeds (reads call (by simp)) succeeds
      · have here := harmless calls call [] rfl
        rw [after_eq_of_harmless here succeeds]
        refine ih (fun earlier inCalls => reads earlier (by simp [inCalls])) ?_ ?_
        · intro before earlier later split
          exact harmless before earlier (later ++ [call]) (by simp [split])
        · rcases settled with start | ⟨earlier, inCalls, did⟩
          · exact .inl start
          · rcases List.mem_append.mp inCalls with before | last
            · exact .inr ⟨earlier, before, did⟩
            · rw [List.mem_singleton.mp last] at did
              exact absurd ⟨did.1, (portOpen_of_after calls).trans did.2⟩
                succeeds

/-- No call that fails leaves a trace, and reading the file back after any of
the calls returns the settings in force and keeps them: from the start if it
does so there, and once a call has succeeded. -/
structure SettingsAtomic (json : SettingsJson) (serial : Serial)
    (calls : List Call) : Prop where
  atomic : ∀ before call later, calls = before ++ call :: later →
    Atomic (setSerialSettings json call) (after json serial before)
  faithful : ∀ before later, calls = before ++ later →
    (Faithful json serial ∨ ∃ call ∈ before, call.Succeeds serial) →
      Faithful json (after json serial before)

/-- The settings are atomic exactly if no call fails that leaves another text
in the file or another mode. -/
theorem settingsAtomic_iff_harmless (json : SettingsJson) (serial : Serial)
    (calls : List Call)
    (reads : ∀ call ∈ calls,
      json.unmarshal (call.line json) = some call.newSettings) :
    SettingsAtomic json serial calls ↔
      ∀ before call later, calls = before ++ call :: later →
        Harmless json call (after json serial before) := by
  constructor
  · intro settings before call later split
    exact callAtomic_iff_harmless.mp (settings.atomic before call later split)
  · intro harmless
    refine ⟨fun before call later split =>
      callAtomic_iff_harmless.mpr (harmless before call later split), ?_⟩
    rintro before later rfl settled
    refine faithful_after (fun call inBefore => reads call (by simp [inBefore])) ?_
      settled
    intro earlier call rest split
    exact harmless earlier call (rest ++ later) (by simp [split])

end Calls

/-! ### Settings that are refused -/

def defaultSettings : SerialSettings where
  baudRate := 115200
  dataBits := 8
  parity := "none"
  stopBits := "1"
  terminator := ⟨"LF (\\n)", "\n"⟩
  hideSerialSettings := false
  enableEcho := false
  normalizeMode := "names"
  normalizeLineEnd := "keep"
  tabRender := []
  preserveANSI := true
  showNLTag := false
  buttons := []

/-- The text of the default settings, with other stop bits -/
def settingsText (stopBits : String) : List Char :=
  ("\x7b\n  \"baudRate\": 115200,\n  \"dataBits\": 8,\n" ++
    "  \"parity\": \"none\",\n  \"stopBits\": \"" ++ stopBits ++ "\",\n" ++
    "  \"terminator\": \x7b\n    \"label\": \"LF (\\\\n)\",\n" ++
    "    \"value\": \"\\n\"\n  \x7d,\n  \"hideSerialSettings\": false,\n" ++
    "  \"enableEcho\": false,\n  \"normalizeMode\": \"names\",\n" ++
    "  \"normalizeLineEnd\": \"keep\",\n  \"tabRender\": \"\",\n" ++
    "  \"preserveANSI\": true,\n  \"showNLTag\": false,\n" ++
    "  \"buttons\": []\n\x7d").toList

/-- A coder that knows the default settings with these stop bits -/
def settingsJson (stopBits : String) : SettingsJson where
  marshal _ := settingsText stopBits
  unmarshal text :=
    if text = settingsText stopBits ++ ['\n'] then
      some { defaultSettings with stopBits := stopBits }
    else none

def freshSerial : Serial where
  file := none
  portOpen := true
  serialConfig := defaultSettings
  serialPortMode := defaultMode
  serialMux := some false
  consoleBroker := some
    { mode := .names, lineEnding := .lf, tabRender := [], preserveANSI := true }

theorem settingsJson_reads (stopBits : String) :
    (settingsJson stopBits).unmarshal
        (Call.line (settingsJson stopBits)
          ⟨{ defaultSettings with stopBits := stopBits }, none, none⟩) =
      some { defaultSettings with stopBits := stopBits } := by
  simp only [settingsJson, Call.line, if_true]

/-- Two stop bits are saved. -/
theorem settingsAtomic_iff_harmless_two :
    let call : Call := ⟨{ defaultSettings with stopBits := "2" }, none, none⟩
    (settingsJson "2").unmarshal (call.line (settingsJson "2")) =
        some call.newSettings ∧
      (SettingsAtomic (settingsJson "2") freshSerial [call] ↔
        ∀ before other later, [call] = before ++ other :: later →
          Harmless (settingsJson "2") other
            (after (settingsJson "2") freshSerial before)) :=
  ⟨settingsJson_reads "2", settingsAtomic_iff_harmless (settingsJson "2") freshSerial
    _ (List.forall_mem_singleton.mpr (settingsJson_reads "2"))⟩

/-- Three stop bits are refused, but are in the file then. -/
theorem not_settingsAtomic_three :
    ¬ ∀ (json : SettingsJson) (serial : Serial) (calls : List Call),
      (∀ call ∈ calls, json.unmarshal (call.line json) = some call.newSettings) →
        SettingsAtomic json serial calls := by
  intro all
  have settings := all (settingsJson "3") freshSerial
    [⟨{ defaultSettings with stopBits := "3" }, none, none⟩]
    (List.forall_mem_singleton.mpr (settingsJson_reads "3"))
  rcases callAtomic_iff_harmless.mp (settings.atomic [] _ [] rfl) with
    refused | ⟨⟨-, -, valid⟩, -⟩ | ⟨same, -⟩
  · exact refused rfl
  · exact absurd valid (by decide)
  · cases same

end SerialSettingsFile

end JetKvm
