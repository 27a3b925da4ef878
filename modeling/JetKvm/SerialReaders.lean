import JetKvm.LabelledRuns
import Mathlib.Data.List.Nodup
import Mathlib.Tactic.SplitIfs

/-!
# Readers of the serial port

Translation of the goroutines that read the serial port (`serial.go` and
`SerialMux` in `serial_console_helpers.go`) and of the calls that start them:
`initSerialPort` and `rpcSetActiveExtension`.  Opened ports are numbered, and a
goroutine reads the port that the variable held when it started.
-/

namespace JetKvm

namespace SerialReaders

open LabelledRuns

inductive Consumer where
  | atxControl
  | dcControl
  | consoleBroker
  deriving DecidableEq, Repr

/-- The parser of an extension, or else the console broker -/
def consumerOf (activeExtension : String) : Consumer :=
  if activeExtension = "atx-power" then .atxControl
  else if activeExtension = "dc-power" then .dcControl
  else .consoleBroker

/-- A goroutine, with the port that it reads -/
structure Reader where
  consumer : Consumer
  port : Nat
  deriving DecidableEq, Repr

/-- `port` is the open port, if there is one, and `starting` are the parsers
whose goroutine has not taken the port yet; `serialMux` is told by its port. -/
structure State where
  activeExtension : String
  initialized : Bool := false
  crashed : Bool := false
  port : Option Nat := none
  ports : Nat := 0
  serialMux : Option Nat := none
  starting : List Consumer := []
  readers : List Reader := []
  deriving DecidableEq, Repr

namespace State

/-- A nil port is dereferenced, and every goroutine ends. -/
def crash (state : State) : State :=
  { state with crashed := true, port := none, starting := [], readers := [] }

/-- The port that was open is closed; only a port that could be opened gets a
mux, whose reader starts. -/
def reopenSerialPort (state : State) (openOk : Bool) : State :=
  if openOk then
    { state with
      port := some state.ports
      ports := state.ports + 1
      serialMux := some state.ports
      readers := ⟨.consoleBroker, state.ports⟩ :: state.readers }
  else { state with port := none }

/-- `unmountATXControl` or `unmountDCControl`, where one is asked for -/
def unmount (state : State) (openOk : Bool) : State :=
  if consumerOf state.activeExtension = .consoleBroker then state
  else state.reopenSerialPort openOk

/-- `mountATXControl` or `mountDCControl`, where one is asked for.  It panics
on a nil port before it starts a parser. -/
def mount (state : State) : State :=
  if consumerOf state.activeExtension = .consoleBroker ∨ state.port = none then
    state
  else
    { state with
      starting := consumerOf state.activeExtension :: state.starting }

/-- Nothing recovers a panic at start-up. -/
def initSerialPort (state : State) (openOk : Bool) : State :=
  let opened := { state with initialized := true }.reopenSerialPort openOk
  if consumerOf opened.activeExtension ≠ .consoleBroker ∧ opened.port = none then
    opened.crash
  else opened.mount

/-- `callRPCHandler` recovers a panic of the call. -/
def rpcSetActiveExtension (state : State) (extensionId : String)
    (openOk saveOk : Bool) : State :=
  if state.activeExtension = extensionId then state
  else
    let changed := { state.unmount openOk with activeExtension := extensionId }
    if saveOk then changed.mount else changed

/-- A parser takes the port. -/
def takePort (state : State) (consumer : Consumer) : State :=
  match state.port with
  | none => state.crash
  | some port =>
      { state with
        starting := state.starting.erase consumer
        readers := ⟨consumer, port⟩ :: state.readers }

/-- A read of a closed port fails; the reader of a mux ends when its mux was
closed as well. -/
def Ends (state : State) (reader : Reader) : Prop :=
  reader ∈ state.readers ∧ state.port ≠ some reader.port ∧
    (reader.consumer = .consoleBroker → state.serialMux ≠ some reader.port)
  deriving Decidable

end State

/-- Start-up, a call with what comes of opening the port and of saving the
configuration, and the steps of the goroutines; bytes that are read go to the
consumer of the reader. -/
inductive Label where
  | initSerialPort (openOk : Bool)
  | rpcSetActiveExtension (extensionId : String) (openOk saveOk : Bool)
  | takePort (consumer : Consumer)
  | read (reader : Reader) (bytes : List UInt8)
  | ends (reader : Reader)
  deriving DecidableEq, Repr

def step (state : State) (label : Label) : Option State :=
  if state.crashed then none
  else
    match label with
    | .initSerialPort openOk =>
        if state.initialized then none else some (state.initSerialPort openOk)
    | .rpcSetActiveExtension extensionId openOk saveOk =>
        some (state.rpcSetActiveExtension extensionId openOk saveOk)
    | .takePort consumer =>
        if consumer ∈ state.starting then some (state.takePort consumer) else none
    | .read reader _ =>
        if reader ∈ state.readers ∧ state.port = some reader.port then some state
        else none
    | .ends reader =>
        if state.Ends reader then
          some { state with readers := state.readers.erase reader }
        else none

def initial (activeExtension : String) : State :=
  { activeExtension := activeExtension }

/-- The goroutines that read the open port -/
def openReaders (state : State) : List Reader :=
  state.readers.filter fun reader => state.port = some reader.port

/-- One goroutine at most reads the open port, for the consumer in charge. -/
def Exclusive (state : State) : Prop :=
  (openReaders state).length ≤ 1 ∧
    ∀ reader ∈ openReaders state,
      reader.consumer = consumerOf state.activeExtension
  deriving Decidable

/-- Bytes that are read reach the consumer in charge. -/
def Reaches (state : State) : Label → Prop
  | .read reader _ => reader.consumer = consumerOf state.activeExtension
  | _ => True

/-- The step does not leave an extension active with an open port. -/
def LeavesToConsole (state : State) : Label → Prop
  | .initSerialPort openOk =>
      consumerOf state.activeExtension = .consoleBroker ∨ openOk = false
  | .rpcSetActiveExtension extensionId openOk _ =>
      state.activeExtension = extensionId ∨
        consumerOf extensionId = .consoleBroker ∨
        (state.unmount openOk).port = none
  | _ => True

/-! ### The reader of the mux -/

/-- Only muxes have readers, each on a port of its own. -/
structure MuxesRead (state : State) : Prop where
  idle : state.starting = []
  muxes : ∀ reader ∈ state.readers, reader.consumer = .consoleBroker
  distinct : (state.readers.map Reader.port).Nodup
  opened : ∀ reader ∈ state.readers, reader.port < state.ports
  mux : ∀ port ∈ state.port, ⟨.consoleBroker, port⟩ ∈ state.readers

/-- What holds in every state of a run that leaves the port to the console -/
structure Invariant (state : State) : Prop where
  read : MuxesRead state
  console : ∀ port ∈ state.port,
    consumerOf state.activeExtension = .consoleBroker

theorem Invariant.initial (activeExtension : String) :
    Invariant (initial activeExtension) :=
  ⟨⟨rfl, nofun, List.nodup_nil, nofun, nofun⟩, nofun⟩

section Steps

variable {state next : State}

theorem length_le_one_of_nodup {ports : List Nat} {port : Nat}
    (distinct : ports.Nodup) (same : ∀ other ∈ ports, other = port) :
    ports.length ≤ 1 := by
  cases ports with
  | nil => exact Nat.zero_le 1
  | cons first rest =>
      cases rest with
      | nil => exact Nat.le_refl 1
      | cons second rest =>
          obtain ⟨firstNot, -⟩ := List.nodup_cons.mp distinct
          rw [same first (by simp), same second (by simp)] at firstNot
          exact absurd List.mem_cons_self firstNot

theorem mem_openReaders {reader : Reader} :
    reader ∈ openReaders state ↔
      reader ∈ state.readers ∧ state.port = some reader.port := by
  rw [openReaders, List.mem_filter, decide_eq_true_iff]

theorem Invariant.exclusive (invariant : Invariant state) :
    Exclusive state := by
  obtain ⟨⟨-, muxes, distinct, -, -⟩, console⟩ := invariant
  constructor
  · cases isOpen : state.port with
    | none =>
        have noReader : openReaders state = [] := by
          apply List.eq_nil_iff_forall_not_mem.mpr
          intro reader member
          have same := (mem_openReaders.mp member).2
          rw [isOpen] at same
          cases same
        rw [noReader]
        exact Nat.zero_le 1
    | some port =>
        have sublist : ((openReaders state).map Reader.port).Sublist
            (state.readers.map Reader.port) :=
          List.filter_sublist.map Reader.port
        rw [← @List.length_map _ _ _ Reader.port]
        apply @length_le_one_of_nodup _ port (distinct.sublist sublist)
        intro other member
        obtain ⟨reader, inside, rfl⟩ := List.mem_map.mp member
        have same := (mem_openReaders.mp inside).2
        rw [isOpen] at same
        exact (Option.some.inj same).symm
  · intro reader member
    obtain ⟨inside, isOpen⟩ := mem_openReaders.mp member
    rw [muxes reader inside, console reader.port isOpen]

theorem MuxesRead.reopenSerialPort (read : MuxesRead state) (openOk : Bool) :
    MuxesRead (state.reopenSerialPort openOk) := by
  obtain ⟨idle, muxes, distinct, opened, -⟩ := read
  cases openOk with
  | false => exact ⟨idle, muxes, distinct, opened, nofun⟩
  | true =>
      constructor
      · exact idle
      · exact List.forall_mem_cons.mpr ⟨rfl, muxes⟩
      · refine List.nodup_cons.mpr ⟨?_, distinct⟩
        intro member
        obtain ⟨reader, inside, same⟩ := List.mem_map.mp member
        have before := opened reader inside
        dsimp only at same
        omega
      · refine List.forall_mem_cons.mpr ⟨Nat.lt_succ_self _, ?_⟩
        intro reader inside
        exact Nat.lt_succ_of_lt (opened reader inside)
      · rintro port ⟨⟩
        exact List.mem_cons_self

theorem MuxesRead.unmount (read : MuxesRead state) (openOk : Bool) :
    MuxesRead (state.unmount openOk) := by
  rw [State.unmount]
  split_ifs
  · exact read
  · exact read.reopenSerialPort openOk

theorem Invariant.crash (state : State) : Invariant state.crash :=
  ⟨⟨rfl, nofun, List.nodup_nil, nofun, nofun⟩, nofun⟩

/-- Nothing is mounted on an open port. -/
theorem Invariant.mount (read : MuxesRead state)
    (left : consumerOf state.activeExtension = .consoleBroker ∨
      state.port = none) : Invariant state.mount := by
  rw [State.mount, if_pos left]
  refine ⟨read, fun port isOpen => left.resolve_right fun closed => ?_⟩
  cases closed.symm.trans isOpen

/-- A mux reads the open port: an extension that is active has not got it. -/
theorem MuxesRead.closed_of_exclusive (read : MuxesRead state)
    (exclusive : Exclusive state)
    (active : consumerOf state.activeExtension ≠ .consoleBroker) :
    state.port = none := by
  cases isOpen : state.port with
  | none => rfl
  | some port =>
      have inside := read.mux port isOpen
      have right := exclusive.2 _ (mem_openReaders.mpr ⟨inside, isOpen⟩)
      exact absurd right.symm active

theorem exclusive_mount (exclusive : Exclusive state.mount) :
    Exclusive state := by
  rw [State.mount] at exclusive
  split_ifs at exclusive <;> exact exclusive

theorem MuxesRead.change (read : MuxesRead state) (openOk : Bool)
    (extensionId : String) :
    MuxesRead { state.unmount openOk with activeExtension := extensionId } := by
  obtain ⟨idle, muxes, distinct, opened, mux⟩ := read.unmount openOk
  exact ⟨idle, muxes, distinct, opened, mux⟩

theorem MuxesRead.openFirst (read : MuxesRead state) (openOk : Bool) :
    MuxesRead ({ state with initialized := true }.reopenSerialPort openOk) := by
  obtain ⟨idle, muxes, distinct, opened, mux⟩ := read
  have begun : MuxesRead { state with initialized := true } :=
    ⟨idle, muxes, distinct, opened, mux⟩
  exact begun.reopenSerialPort openOk

theorem Invariant.initSerialPort (invariant : Invariant state) {openOk : Bool}
    (leaves : LeavesToConsole state (.initSerialPort openOk)) :
    Invariant (state.initSerialPort openOk) := by
  unfold State.initSerialPort
  dsimp only
  split_ifs
  · exact Invariant.crash _
  · apply Invariant.mount (invariant.read.openFirst openOk)
    cases openOk with
    | false => exact Or.inr rfl
    | true => exact Or.inl (leaves.resolve_right nofun)

theorem Invariant.rpcSetActiveExtension (invariant : Invariant state)
    {extensionId : String} {openOk saveOk : Bool}
    (leaves : LeavesToConsole state
      (.rpcSetActiveExtension extensionId openOk saveOk)) :
    Invariant (state.rpcSetActiveExtension extensionId openOk saveOk) := by
  unfold State.rpcSetActiveExtension
  by_cases same : state.activeExtension = extensionId
  · rw [if_pos same]
    exact invariant
  rw [if_neg same]
  have left := leaves.resolve_left same
  have changed := invariant.read.change openOk extensionId
  cases saveOk with
  | true => exact Invariant.mount changed left
  | false =>
      refine ⟨changed, fun port isOpen => left.resolve_right ?_⟩
      intro closed
      cases closed.symm.trans isOpen

theorem Invariant.ends (invariant : Invariant state) {reader : Reader}
    (ended : state.Ends reader) :
    Invariant { state with readers := state.readers.erase reader } := by
  obtain ⟨⟨idle, muxes, distinct, opened, mux⟩, console⟩ := invariant
  refine ⟨⟨idle, ?_, ?_, ?_, ?_⟩, console⟩
  · intro other member
    exact muxes other (List.mem_of_mem_erase member)
  · exact distinct.sublist (List.erase_sublist.map Reader.port)
  · intro other member
    exact opened other (List.mem_of_mem_erase member)
  · intro port isOpen
    refine (List.mem_erase_of_ne ?_).mpr (mux port isOpen)
    rintro rfl
    exact ended.2.1 isOpen

theorem Invariant.step (invariant : Invariant state) {label : Label}
    (leaves : LeavesToConsole state label)
    (taken : SerialReaders.step state label = some next) : Invariant next := by
  cases label with
  | initSerialPort openOk =>
      simp only [SerialReaders.step, Option.ite_none_left_eq_some,
        Option.some.injEq] at taken
      obtain ⟨-, -, rfl⟩ := taken
      exact invariant.initSerialPort leaves
  | rpcSetActiveExtension extensionId openOk saveOk =>
      simp only [SerialReaders.step, Option.ite_none_left_eq_some,
        Option.some.injEq] at taken
      obtain ⟨-, rfl⟩ := taken
      exact invariant.rpcSetActiveExtension leaves
  | takePort consumer =>
      simp only [SerialReaders.step, Option.ite_none_left_eq_some,
        Option.ite_none_right_eq_some, invariant.read.idle,
        List.not_mem_nil] at taken
      exact taken.2.1.elim
  | read reader bytes =>
      simp only [SerialReaders.step, Option.ite_none_left_eq_some,
        Option.ite_none_right_eq_some, Option.some.injEq] at taken
      obtain ⟨-, -, rfl⟩ := taken
      exact invariant
  | ends reader =>
      simp only [SerialReaders.step, Option.ite_none_left_eq_some,
        Option.ite_none_right_eq_some, Option.some.injEq] at taken
      obtain ⟨-, ended, rfl⟩ := taken
      exact invariant.ends ended

/-- A reader of the open port is the one in charge. -/
theorem Invariant.reaches (invariant : Invariant state) {label : Label}
    (taken : SerialReaders.step state label = some next) :
    Reaches state label := by
  cases label with
  | read reader bytes =>
      simp only [SerialReaders.step, Option.ite_none_left_eq_some,
        Option.ite_none_right_eq_some] at taken
      obtain ⟨-, reads, -⟩ := taken
      exact invariant.exclusive.2 reader (mem_openReaders.mpr reads)
  | _ => trivial

/-- A step that hands an open port to an extension leaves it with the mux. -/
theorem Invariant.leavesToConsole (invariant : Invariant state) {label : Label}
    (taken : SerialReaders.step state label = some next)
    (exclusive : Exclusive next) : LeavesToConsole state label := by
  cases label with
  | initSerialPort openOk =>
      simp only [SerialReaders.step, Option.ite_none_left_eq_some,
        Option.some.injEq] at taken
      obtain ⟨-, -, rfl⟩ := taken
      by_contra active
      rw [LeavesToConsole, not_or, Bool.not_eq_false] at active
      obtain ⟨active, rfl⟩ := active
      have mounted : state.initSerialPort true = State.mount _ :=
        if_neg fun both => nomatch both.2
      rw [mounted] at exclusive
      have closed := (invariant.read.openFirst true).closed_of_exclusive
        (exclusive_mount exclusive) active
      cases closed
  | rpcSetActiveExtension extensionId openOk saveOk =>
      simp only [SerialReaders.step, Option.ite_none_left_eq_some,
        Option.some.injEq] at taken
      obtain ⟨-, rfl⟩ := taken
      by_contra active
      rw [LeavesToConsole, not_or, not_or] at active
      obtain ⟨different, active, isOpen⟩ := active
      rw [State.rpcSetActiveExtension, if_neg different] at exclusive
      have changed := invariant.read.change openOk extensionId
      cases saveOk with
      | true =>
          exact isOpen (changed.closed_of_exclusive
            (exclusive_mount exclusive) active)
      | false => exact isOpen (changed.closed_of_exclusive exclusive active)
  | takePort consumer => trivial
  | read reader bytes => trivial
  | ends reader => trivial

end Steps

/-! ### Runs -/

/-- The port has one reader, the right one, exactly in the runs that leave it to
the console. -/
theorem exclusive_iff_leavesToConsole (activeExtension : String)
    (labels : List Label) :
    (AllStates step Exclusive (initial activeExtension) labels ∧
        AllSteps step Reaches (initial activeExtension) labels) ↔
      AllSteps step LeavesToConsole (initial activeExtension) labels := by
  have atStart := Invariant.initial activeExtension
  have exact : AllStates step Exclusive (initial activeExtension) labels ↔
      AllSteps step LeavesToConsole (initial activeExtension) labels := by
    apply allStates_iff_allSteps _ _ _ atStart labels
    · intro state invariant
      exact invariant.exclusive
    · intro state next label invariant leaves taken
      exact invariant.step leaves taken
    · intro state next label invariant taken exclusive
      exact invariant.leavesToConsole taken exclusive
  constructor
  · rintro ⟨exclusive, -⟩
    exact exact.mp exclusive
  · intro leaves
    refine ⟨exact.mpr leaves, ?_⟩
    apply allSteps_of_allSteps _ _ atStart leaves
    · intro state next label invariant here taken
      exact invariant.step here taken
    · intro state next label invariant here taken
      exact invariant.reaches taken

/-- A device with ATX control starts up; both its goroutines read the port. -/
def withATXControl : List Label :=
  [.initSerialPort true, .takePort .atxControl,
    .read ⟨.consoleBroker, 0⟩ [48, 48]]

theorem withATXControl_not_exclusive :
    ¬ ∀ (activeExtension : String) (labels : List Label),
      AllStates step Exclusive (initial activeExtension) labels ∧
        AllSteps step Reaches (initial activeExtension) labels := by
  intro all
  exact absurd (all "atx-power" withATXControl).1 (by decide)

end SerialReaders

end JetKvm
