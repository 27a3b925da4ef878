import JetKvm.VirtualMedia
import Mathlib.Logic.Function.Basic

/-!
# Remote reads and the mutex of virtual media

The NBD requests of the kernel beside the calls that mount and unmount, under
`virtualMediaStateMutex`.  Taking the mutex and leaving it are steps of their
own; what a call does between them it does alone.  A read of a remote image
uses `httpRangeReader` after it has left the mutex.
-/

namespace JetKvm

namespace VirtualMedia

namespace Reads

open LabelledRuns

/-- The bytes of a URL from an offset on -/
structure RemoteBytes where
  url : String
  off : Int
  length : Nat
  deriving DecidableEq, Repr

inductive Answer where
  | bytes (remote : RemoteBytes)
  | size (size : Int)
  | state (state : Option VirtualMediaState)
  | done
  | error (failure : Failure)
  | nilReader
  deriving DecidableEq

/-- A call, with what it is going to meet -/
inductive Call where
  | readAt (length : Nat) (off : Int)
  | size
  | getVirtualMediaState
  | unmountImage (ejection : Ejection)
  | mountWithHTTP (url : String) (mode : VirtualMediaMode)
      (size : Except Failure Int) (change : ModeChange) (start write : Outcome)
  | mountWithStorage (filename : String) (mode : VirtualMediaMode)
      (size : Except Failure Int) (change : ModeChange) (write : Outcome)

/-- The call takes the mutex by `RLock`. -/
def Call.reads : Call → Bool
  | .readAt _ _ | .getVirtualMediaState => true
  | _ => false

inductive Stage where
  | started
  | locked
  | released
  | returned (answer : Answer)
  deriving DecidableEq

/-- `seen` is the state that `ReadAt` finds under the mutex. -/
structure Operation where
  call : Call
  stage : Stage
  seen : Option VirtualMediaState := none

/-- `writer` and `readers` are the calls that hold the mutex; `replaced` is, for
a read that has left it, the URL of the last mount that has made a reader
since. -/
structure System where
  media : State := {}
  writer : Option Nat := none
  readers : List Nat := []
  operations : Nat → Option Operation := fun _ => none
  replaced : Nat → Option String := fun _ => none

/-- `finish` is what is left after the mutex; `fetch` is what a remote read
meets outside. -/
inductive Label where
  | call (id : Nat) (call : Call)
  | acquire (id : Nat)
  | release (id : Nat)
  | finish (id : Nat) (fetch : Outcome)

namespace System

def Holds (system : System) (id : Nat) : Prop :=
  system.writer = some id ∨ id ∈ system.readers

def put (system : System) (id : Nat) (operation : Operation) : System :=
  { system with
    operations := Function.update system.operations id (some operation) }

/-- `Unlock` or `RUnlock` of the call -/
def unlock (system : System) (id : Nat) : System :=
  { system with
    writer := if system.writer = some id then none else system.writer
    readers := system.readers.filter (· ≠ id) }

/-- The call returns what its part under the mutex returns. -/
def withMedia (system : System) (id : Nat) (call : Call)
    (body : EStateM.Result Failure State Unit) (next : Stage) : System :=
  match body with
  | .ok _ media => { system.put id ⟨call, next, none⟩ with media := media }
  | .error failure media =>
      { system.put id ⟨call, .returned (.error failure), none⟩ with
        media := media }

end System

/-- The file name is checked before the mutex is taken. -/
def Call.begin : Call → Stage
  | .mountWithStorage filename _ _ _ _ =>
      match sanitizeFilename filename with
      | .ok _ => .started
      | .error failure => .returned (.error failure)
  | _ => .started

/-- A mount over HTTP replaces the reader before it asks for the size. -/
def Call.enter (state : State) : Call → State
  | .mountWithHTTP url _ _ _ _ _ =>
      if state.currentVirtualMediaState.isSome then state
      else { state with httpRangeReader := some url }
  | _ => state

/-- A read that leaves the mutex starts anew; a mount over HTTP makes the reader
of its URL where nothing is mounted. -/
def Call.replace (system : System) (id : Nat) : Call → Nat → Option String
  | .readAt _ _ => Function.update system.replaced id none
  | .mountWithHTTP url _ _ _ _ _ =>
      if system.media.currentVirtualMediaState.isSome then system.replaced
      else fun _ => some url
  | _ => system.replaced

/-- What `ReadAt` returns once it has left the mutex -/
def readAnswer (state : State) (seen : VirtualMediaState) (length : Nat)
    (off : Int) (fetch : Outcome) : Answer :=
  match seen.source with
  | .HTTP =>
      match state.httpRangeReader with
      | none => .nilReader
      | some url =>
          match fetch with
          | .ok _ => .bytes ⟨url, off, length⟩
          | .error failure => .error failure
  | .Storage => .error { message := "unknown image source" }

section Steps

variable (truncates : Bool)

/-- The rest of `rpcMountWithHTTP` after `prepareHTTPMount` -/
def startNBDDevice (start write : Outcome) : MediaCall := do
  modify fun state => { state with nbdDevice := some {} }
  Fallible.answer start
  modify fun state => { state with nbdDevice := some { running := true } }
  setMassStorageImage truncates nbdDevicePath write

/-- What a call does under the mutex, and how it leaves it -/
def leave (system : System) (id : Nat) (call : Call) : System :=
  match call with
  | .readAt _ _ =>
      match system.media.currentVirtualMediaState with
      | none =>
          -- this return leaves the read lock as it is
          system.put id
            ⟨call, .returned (.error { message := "image not mounted" }), none⟩
      | some seen => (system.unlock id).put id ⟨call, .released, some seen⟩
  | .getVirtualMediaState =>
      (system.unlock id).put id
        ⟨call, .returned (.state system.media.currentVirtualMediaState), none⟩
  | .size =>
      (system.unlock id).put id
        ⟨call,
          match system.media.currentVirtualMediaState with
          | none => .returned (.error { message := "no virtual media state" })
          | some state => .returned (.size state.size), none⟩
  | .unmountImage ejection =>
      (system.unlock id).withMedia id call
        (rpcUnmountImage truncates ejection system.media) (.returned .done)
  | .mountWithHTTP url mode size change _ _ =>
      (system.unlock id).withMedia id call
        (prepareHTTPMount truncates url mode size change system.media) .released
  | .mountWithStorage filename mode size change write =>
      -- the file name has been checked, so this is its part under the mutex
      (system.unlock id).withMedia id call
        (rpcMountWithStorage truncates filename mode size change write
          system.media) (.returned .done)

def step (system : System) : Label → Option System
  | .call id call =>
      match system.operations id with
      | none => some (system.put id ⟨call, call.begin, none⟩)
      | some _ => none
  | .acquire id =>
      match system.operations id with
      | some ⟨call, .started, _⟩ =>
          if call.reads then
            if system.writer = none then
              some
                { system.put id ⟨call, .locked, none⟩ with
                  readers := id :: system.readers }
            else none
          else if system.writer = none ∧ system.readers = [] then
            some
              { system.put id ⟨call, .locked, none⟩ with
                writer := some id, media := call.enter system.media
                replaced := call.replace system id }
          else none
      | _ => none
  | .release id =>
      match system.operations id with
      | some ⟨call, .locked, _⟩ =>
          some
            { leave truncates system id call with
              replaced := call.replace system id }
      | _ => none
  | .finish id fetch =>
      match system.operations id with
      | some ⟨.readAt length off, .released, some seen⟩ =>
          some (system.put id ⟨.readAt length off,
            .returned (readAnswer system.media seen length off fetch),
            some seen⟩)
      | some ⟨.mountWithHTTP url mode size change start write, .released, _⟩ =>
          some (system.withMedia id
            (.mountWithHTTP url mode size change start write)
            (startNBDDevice truncates start write system.media)
            (.returned .done))
      | _ => none

end Steps

/-- Only a call on its way to its release holds the mutex, and a read is
answered with the bytes that it asked for of the URL that it found mounted. -/
structure Sound (system : System) : Prop where
  held : ∀ id, system.Holds id → ∃ operation,
    system.operations id = some operation ∧ operation.stage = .locked
  released : ∀ id operation answer, system.operations id = some operation →
    operation.stage = .returned answer → ¬ system.Holds id
  answered : ∀ id operation remote, system.operations id = some operation →
    operation.stage = .returned (.bytes remote) →
      ∃ seen length off, operation.seen = some seen ∧
        operation.call = .readAt length off ∧ remote = ⟨seen.url, off, length⟩

/-- A read under the mutex finds an image mounted, and from where a read has
left it until its answer no mount makes the reader of another URL. -/
def FindsItsImage (system : System) : Label → Prop
  | .release id => ∀ length off seen,
      system.operations id = some ⟨.readAt length off, .locked, seen⟩ →
        system.media.currentVirtualMediaState.isSome
  | .finish id fetch => ∀ length off seen url,
      system.operations id = some ⟨.readAt length off, .released, some seen⟩ →
        seen.source = .HTTP → fetch = .ok () →
          system.replaced id = some url → url = seen.url
  | _ => True

/-- Who is between its acquire and its release holds the mutex, and nobody
else. -/
structure Invariant (system : System) : Prop where
  held : ∀ id, system.Holds id → ∃ operation,
    system.operations id = some operation ∧ operation.stage = .locked
  holds : ∀ id operation, system.operations id = some operation →
    operation.stage = .locked → system.Holds id
  answered : ∀ id operation remote, system.operations id = some operation →
    operation.stage = .returned (.bytes remote) →
      ∃ seen length off, operation.seen = some seen ∧
        operation.call = .readAt length off ∧ remote = ⟨seen.url, off, length⟩

/-- The reader is that of the URL mounted. -/
def ReadsMounted (state : State) : Prop :=
  ∀ seen, state.currentVirtualMediaState = some seen → seen.source = .HTTP →
    state.httpRangeReader = some seen.url

/-- A read that has left the mutex finds the reader of the URL that it saw, or
of the last mount since. -/
structure Remote (system : System) : Prop where
  mounted : ReadsMounted system.media
  found : ∀ id call seen,
    system.operations id = some ⟨call, .released, some seen⟩ →
      seen.source = .HTTP →
        system.media.httpRangeReader =
          some ((system.replaced id).getD seen.url)

/-- The reader is the one before, or of the URL that is noted for every read. -/
def Notes (system next : System) : Prop :=
  next.media.httpRangeReader = system.media.httpRangeReader ∧
      next.replaced = system.replaced ∨
    ∃ url, next.media.httpRangeReader = some url ∧
      next.replaced = fun _ => some url

/-- The operation is not locked and, if it is a read that was answered, has the
bytes that it asked for. -/
structure Operation.Settled (operation : Operation) : Prop where
  unlocked : operation.stage ≠ .locked
  answered : ∀ remote, operation.stage = .returned (.bytes remote) →
    ∃ seen length off, operation.seen = some seen ∧
      operation.call = .readAt length off ∧ remote = ⟨seen.url, off, length⟩

/-- A stage that is neither locked nor that of a read that was answered -/
def Stage.Plain : Stage → Prop
  | .locked | .returned (.bytes _) => False
  | _ => True

theorem Operation.Settled.of_plain {call : Call} {stage : Stage}
    {seen : Option VirtualMediaState} (plain : stage.Plain) :
    Operation.Settled ⟨call, stage, seen⟩ where
  unlocked same := by
    obtain rfl : stage = .locked := same
    exact plain
  answered remote same := by
    obtain rfl : stage = .returned (.bytes remote) := same
    exact plain.elim

section Systems

variable {system next : System} {id other : Nat} {operation : Operation}

namespace System

@[simp] theorem operations_put_self :
    (system.put id operation).operations id = some operation :=
  Function.update_self ..

theorem operations_put_cases {found : Operation}
    (isFound : (system.put id operation).operations other = some found) :
    other = id ∧ found = operation ∨
      other ≠ id ∧ system.operations other = some found := by
  by_cases same : other = id
  · subst same
    have equal := Option.some.inj (operations_put_self.symm.trans isFound)
    exact .inl ⟨rfl, equal.symm⟩
  · exact .inr ⟨same, (Function.update_of_ne same _ _).symm.trans isFound⟩

theorem operations_of_put {found : Operation}
    (isFound : (system.put id operation).operations other = some found)
    (differs : found ≠ operation) : system.operations other = some found :=
  (operations_put_cases isFound).elim (fun here => absurd here.2 differs)
    And.right

theorem holds_unlock :
    (system.unlock id).Holds other ↔ other ≠ id ∧ system.Holds other := by
  have writer : (if system.writer = some id then none else system.writer) =
      some other ↔ other ≠ id ∧ system.writer = some other := by
    by_cases mine : system.writer = some id
    · simp [mine, eq_comm]
    · rw [if_neg mine]
      refine ⟨fun isOther => ⟨?_, isOther⟩, And.right⟩
      rintro rfl
      exact mine isOther
  have readers : other ∈ system.readers.filter (· ≠ id) ↔
      other ≠ id ∧ other ∈ system.readers := by
    simp [and_comm]
  simp only [Holds, unlock, writer, readers, ← and_or_left]

theorem media_withMedia {call : Call} {body : MediaCall} {state : State}
    {stage : Stage} :
    (system.withMedia id call (body state) stage).media =
      Fallible.after body state := by
  unfold withMedia Fallible.after
  cases body state with
  | ok => rfl
  | error => rfl

theorem replaced_withMedia {call : Call}
    {body : EStateM.Result Failure State Unit} {stage : Stage} :
    (system.withMedia id call body stage).replaced = system.replaced := by
  cases body with
  | ok => rfl
  | error => rfl

/-- The call itself has seen nothing. -/
theorem operations_withMedia {call found : Call}
    {body : EStateM.Result Failure State Unit} {stage : Stage}
    {seen : VirtualMediaState}
    (isFound : (system.withMedia id call body stage).operations other =
      some ⟨found, .released, some seen⟩) :
    system.operations other = some ⟨found, .released, some seen⟩ := by
  cases body with
  | ok => exact operations_of_put isFound nofun
  | error => exact operations_of_put isFound nofun

end System

theorem invariant_initial : Invariant {} where
  held id holds := by
    rcases holds with writes | reads
    · cases writes
    · cases reads
  holds _ _ found := by cases found
  answered _ _ _ found := by cases found

theorem remote_initial : Remote {} where
  mounted _ none := by cases none
  found _ _ _ found := by cases found

namespace Invariant

theorem sound (invariant : Invariant system) : Sound system where
  held := invariant.held
  released id operation answer found returned holds := by
    obtain ⟨locked, found', isLocked⟩ := invariant.held id holds
    obtain rfl := Option.some.inj (found.symm.trans found')
    rw [returned] at isLocked
    cases isLocked
  answered := invariant.answered

/-- A call that does not hold the mutex goes on. -/
theorem put (invariant : Invariant system) (free : ¬ system.Holds id)
    (settled : operation.Settled) (media : State) :
    Invariant { system.put id operation with media := media } where
  held other holds := by
    obtain ⟨found, isFound, locked⟩ := invariant.held other holds
    have differs : other ≠ id := by
      rintro rfl
      exact free holds
    exact ⟨found, (Function.update_of_ne differs _ _).trans isFound, locked⟩
  holds other found isFound locked := by
    rcases System.operations_put_cases isFound with ⟨-, rfl⟩ | ⟨-, before⟩
    · exact absurd locked settled.unlocked
    · exact invariant.holds other found before locked
  answered other found remote isFound returned := by
    rcases System.operations_put_cases isFound with ⟨-, rfl⟩ | ⟨-, before⟩
    · exact settled.answered remote returned
    · exact invariant.answered other found remote before returned

/-- A call leaves the mutex. -/
theorem release (invariant : Invariant system) (settled : operation.Settled)
    (media : State) :
    Invariant { (system.unlock id).put id operation with media := media } where
  held other holds := by
    obtain ⟨differs, holds⟩ := System.holds_unlock.mp holds
    obtain ⟨found, isFound, locked⟩ := invariant.held other holds
    exact ⟨found, (Function.update_of_ne differs _ _).trans isFound, locked⟩
  holds other found isFound locked := by
    rcases System.operations_put_cases isFound with ⟨-, rfl⟩ | ⟨differs, before⟩
    · exact absurd locked settled.unlocked
    · exact System.holds_unlock.mpr
        ⟨differs, invariant.holds other found before locked⟩
  answered other found remote isFound returned := by
    rcases System.operations_put_cases isFound with ⟨-, rfl⟩ | ⟨-, before⟩
    · exact settled.answered remote returned
    · exact invariant.answered other found remote before returned

/-- A call takes the mutex. -/
theorem acquire (invariant : Invariant system) {call : Call}
    {writer : Option Nat} {readers : List Nat} (media : State)
    (taken : ∀ other, writer = some other ∨ other ∈ readers ↔
      other = id ∨ system.Holds other) :
    Invariant
      { system.put id ⟨call, .locked, none⟩ with
        writer := writer, readers := readers, media := media } where
  held other holds := by
    by_cases same : other = id
    · subst same
      exact ⟨_, System.operations_put_self, rfl⟩
    · obtain ⟨found, isFound, locked⟩ :=
        invariant.held other (((taken other).mp holds).resolve_left same)
      exact ⟨found, (Function.update_of_ne same _ _).trans isFound, locked⟩
  holds other found isFound locked := by
    refine (taken other).mpr ?_
    rcases System.operations_put_cases isFound with ⟨same, -⟩ | ⟨-, before⟩
    · exact .inl same
    · exact .inr (invariant.holds other found before locked)
  answered other found remote isFound returned := by
    rcases System.operations_put_cases isFound with ⟨-, rfl⟩ | ⟨-, before⟩
    · cases returned
    · exact invariant.answered other found remote before returned

theorem noting (invariant : Invariant system)
    (replaced : Nat → Option String) :
    Invariant { system with replaced := replaced } :=
  ⟨invariant.held, invariant.holds, invariant.answered⟩

theorem free (invariant : Invariant system)
    (found : system.operations id = some operation)
    (unlocked : operation.stage ≠ .locked) : ¬ system.Holds id := by
  intro holds
  obtain ⟨locked, found', isLocked⟩ := invariant.held id holds
  obtain rfl := Option.some.inj (found.symm.trans found')
  exact unlocked isLocked

theorem withMedia {base : System}
    (keeps : ∀ {operation : Operation}, operation.Settled → ∀ media,
      Invariant { base.put id operation with media := media })
    {call : Call} {stage : Stage} (plain : stage.Plain)
    (body : EStateM.Result Failure State Unit) :
    Invariant (base.withMedia id call body stage) := by
  cases body with
  | ok _ media => exact keeps (.of_plain plain) media
  | error failure media => exact keeps (.of_plain (by trivial)) media

end Invariant

theorem plain_begin (call : Call) : call.begin.Plain := by
  cases call with
  | mountWithStorage filename mode size change write =>
      unfold Call.begin
      dsimp only
      cases sanitizeFilename filename with
      | ok _ => trivial
      | error _ => trivial
  | _ => trivial

/-! ## The reader that a read finds -/

section Reader

open Fallible

variable {truncates : Bool} {reader : Option String}

/-- The reader is this one, and of the URL mounted. -/
def HasReader (reader : Option String) (state : State) : Prop :=
  state.httpRangeReader = reader ∧ ReadsMounted state

theorem keeps_setMassStorageImage (imagePath : String) (write : Outcome) :
    Keeps (HasReader reader) (setMassStorageImage truncates imagePath write) :=
  Keeps.bind ((keeps_answer write).wrapping _) fun _ =>
    keeps_modify fun _ has => has

theorem keeps_setMassStorageMode (cdrom : Bool) (change : ModeChange) :
    Keeps (HasReader reader) (setMassStorageMode truncates cdrom change) := by
  refine keeps_get_bind fun state => Keeps.ite (keeps_pure ()) ?_
  have update : Keeps (HasReader reader) (updateGadgetConfig truncates change) :=
    Keeps.bind (keeps_modify fun _ has => has) fun _ => keeps_answer _
  refine Keeps.bind (keeps_modify fun _ has => has) fun _ =>
    update.bind fun _ => ?_
  cases change.openKeyboard with
  | ok => exact keeps_pure ()
  | error => exact (keeps_answer _).wrapping _

theorem keeps_rpcUnmountImage (ejection : Ejection) :
    Keeps (HasReader reader) (rpcUnmountImage truncates ejection) := by
  refine Keeps.bind (keeps_setMassStorageImage "\n" _).attempt fun result => ?_
  have forget : Keeps (HasReader reader) (modify fun state : State =>
      { state with
        nbdDevice := none, currentVirtualMediaState := none } : MediaCall) :=
    keeps_modify fun _ has => ⟨has.1, nofun⟩
  cases result with
  | ok => exact (keeps_pure ()).bind fun _ => forget
  | error err =>
      refine Keeps.bind (Keeps.ite (keeps_throw _) ?_) fun _ => forget
      exact Keeps.bind (((keeps_answer _).wrapping _).wrapping _) fun _ =>
        (keeps_setMassStorageImage "\n" _).wrapping _

theorem keeps_startNBDDevice (start write : Outcome) :
    Keeps (HasReader reader) (startNBDDevice truncates start write) :=
  Keeps.bind (keeps_modify fun _ has => has) fun _ =>
    Keeps.bind (keeps_answer start) fun _ =>
      Keeps.bind (keeps_modify fun _ has => has) fun _ =>
        keeps_setMassStorageImage nbdDevicePath write

theorem keeps_rpcMountWithStorage (filename : String) (mode : VirtualMediaMode)
    (size : Except Failure Int) (change : ModeChange) (write : Outcome) :
    Keeps (HasReader reader)
      (rpcMountWithStorage truncates filename mode size change write) := by
  refine Keeps.bind (keeps_answer _) fun filename => keeps_get_bind fun state =>
    Keeps.ite (keeps_throw _) ?_
  refine Keeps.bind ((keeps_answer size).wrapping _) fun n =>
    Keeps.bind ((keeps_setMassStorageMode _ change).wrapping _) fun _ =>
      Keeps.bind ((keeps_setMassStorageImage _ write).wrapping _) fun _ => ?_
  refine keeps_modify fun state has => ⟨has.1, fun seen isSeen isHTTP => ?_⟩
  -- what is recorded is an image of the storage
  obtain rfl := Option.some.inj isSeen
  cases isHTTP

/-- A mount that gets past its first check makes the reader of its URL. -/
theorem ends_prepareHTTPMount {state : State} (url : String)
    (mode : VirtualMediaMode) (size : Except Failure Int) (change : ModeChange)
    (free : state.currentVirtualMediaState = none) :
    Ends (prepareHTTPMount truncates url mode size change) state
      (fun _ => HasReader (some url)) fun _ => HasReader (some url) := by
  have record (n : Int) : Keeps (HasReader (some url))
      (modify fun state : State =>
        { state with
          currentVirtualMediaState :=
            some { source := .HTTP, mode := mode, url := url, size := n } } :
        MediaCall) :=
    keeps_modify fun state has => ⟨has.1, fun seen isSeen _ => by
      obtain rfl := Option.some.inj isSeen
      exact has.1⟩
  have rest := Keeps.bind
    ((keeps_answer size).wrapping (.wrap "failed to use http url")) fun n =>
      Keeps.bind ((@keeps_setMassStorageMode truncates (some url) (mode = CDROM)
        change).wrapping (.wrap "failed to set mass storage mode"))
          fun _ => record n
  have free' : ¬ state.currentVirtualMediaState.isSome := by simp [free]
  refine ends_bind.mpr (ends_get.mpr (ends_ite.mpr
    ⟨fun mounted => absurd mounted free', fun _ => ends_bind.mpr (rest _ ?_)⟩))
  refine ⟨rfl, fun seen isSeen => ?_⟩
  cases free.symm.trans isSeen

end Reader

namespace Remote

/-- What the step does to the reader is noted, and no read has left the mutex by
it. -/
theorem of_notes (remote : Remote system) (notes : Notes system next)
    (mounted : ReadsMounted next.media)
    (before : ∀ id call seen,
      next.operations id = some ⟨call, .released, some seen⟩ →
        system.operations id = some ⟨call, .released, some seen⟩) :
    Remote next where
  mounted := mounted
  found id call seen isFound isHTTP := by
    rcases notes with ⟨reader, replaced⟩ | ⟨url, reader, replaced⟩
    · rw [reader, replaced]
      exact remote.found id call seen (before id call seen isFound) isHTTP
    · rw [reader, replaced]
      rfl

theorem has (remote : Remote system) :
    HasReader system.media.httpRangeReader system.media :=
  ⟨rfl, remote.mounted⟩

theorem noting (remote : Remote system) {replaced : Nat → Option String}
    (same : system.replaced = replaced) :
    Remote { system with replaced := replaced } := by
  subst same
  exact remote

/-- A step that does nothing to virtual media -/
theorem put (remote : Remote system) {call : Call} {stage : Stage}
    {seen : Option VirtualMediaState} (waits : stage ≠ .released)
    {writer : Option Nat} {readers : List Nat} :
    Remote { system.put id ⟨call, stage, seen⟩ with
      writer := writer, readers := readers } :=
  remote.of_notes (.inl ⟨rfl, rfl⟩) remote.mounted
    fun _ _ _ isFound => System.operations_of_put isFound
      fun same => waits (congrArg Operation.stage same).symm

/-- A mount makes its reader as soon as it has the mutex. -/
theorem acquire (remote : Remote system) (call : Call)
    (writes : call.reads = false) :
    Remote { system.put id ⟨call, .locked, none⟩ with
      writer := some id, media := call.enter system.media
      replaced := call.replace system id } := by
  have unnoted : Remote { system.put id ⟨call, .locked, none⟩ with
      writer := some id } := remote.put (by nofun)
  cases call with
  | readAt => cases writes
  | getVirtualMediaState => cases writes
  | size => exact unnoted
  | unmountImage => exact unnoted
  | mountWithStorage => exact unnoted
  | mountWithHTTP url mode size change start write =>
      cases mounted : system.media.currentVirtualMediaState with
      | some _ =>
          simp only [Call.enter, Call.replace, mounted, Option.isSome_some,
            if_true]
          exact unnoted
      | none =>
          simp only [Call.enter, Call.replace, mounted, Option.isSome_none,
            Bool.false_eq_true, if_false]
          refine remote.of_notes (.inr ⟨url, rfl, rfl⟩) (fun seen isSeen => ?_)
            fun other call seen isFound =>
              System.operations_of_put isFound nofun
          cases isSeen

/-- A read that leaves the mutex has seen the URL that the reader is of. -/
theorem leave_readAt (remote : Remote system) (length : Nat) (off : Int) :
    Remote { leave truncates system id (.readAt length off) with
      replaced := Function.update system.replaced id none } := by
  have apart {other : Nat} {call : Call} {seen : VirtualMediaState}
      (differs : other ≠ id)
      (isFound : system.operations other = some ⟨call, .released, some seen⟩)
      (isHTTP : seen.source = .HTTP) :
      system.media.httpRangeReader = some
        ((Function.update system.replaced id none other).getD seen.url) := by
    rw [Function.update_of_ne differs]
    exact remote.found other call seen isFound isHTTP
  cases mounted : system.media.currentVirtualMediaState with
  | none =>
      simp only [leave, mounted]
      refine ⟨remote.mounted, fun other call seen isFound isHTTP => ?_⟩
      rcases System.operations_put_cases isFound with ⟨-, same⟩ | ⟨differs, before⟩
      · cases same
      · exact apart differs before isHTTP
  | some image =>
      simp only [leave, mounted]
      refine ⟨remote.mounted, fun other call seen isFound isHTTP => ?_⟩
      rcases System.operations_put_cases isFound with ⟨rfl, same⟩ | ⟨differs, before⟩
      · obtain rfl := Option.some.inj (Operation.mk.inj same).2.2
        have noted : Function.update system.replaced other none other = none :=
          Function.update_self ..
        exact (remote.mounted seen mounted isHTTP).trans
          (congrArg (fun url => some (Option.getD url seen.url)) noted).symm
      · exact apart differs before isHTTP

/-- A call that keeps the reader -/
theorem withMedia (remote : Remote system) {base : System} {body : MediaCall}
    {call : Call} {stage : Stage}
    (operations : base.operations = system.operations)
    (replaced : base.replaced = system.replaced)
    (ends : Fallible.Ends body system.media
      (fun _ => HasReader system.media.httpRangeReader)
      fun _ => HasReader system.media.httpRangeReader) :
    Remote (base.withMedia id call (body system.media) stage) := by
  obtain ⟨reader, mounted⟩ := ends.after
  rw [← @System.media_withMedia base] at reader mounted
  refine remote.of_notes (.inl ⟨reader, ?_⟩) mounted
    fun other found seen isFound => ?_
  · exact System.replaced_withMedia.trans replaced
  · exact operations ▸ System.operations_withMedia isFound

theorem leave (remote : Remote system) (call : Call) :
    Remote { leave truncates system id call with
      replaced := call.replace system id } := by
  have operations : (system.unlock id).operations = system.operations := rfl
  have replaced : (system.unlock id).replaced = system.replaced := rfl
  cases call with
  | readAt length off => exact remote.leave_readAt length off
  | getVirtualMediaState => exact remote.put (by nofun)
  | size =>
      simp only [Reads.leave]
      cases system.media.currentVirtualMediaState with
      | none => exact remote.put (by nofun)
      | some state => exact remote.put (by nofun)
  | unmountImage ejection =>
      have ends := @keeps_rpcUnmountImage truncates _ ejection system.media
        remote.has
      exact (remote.withMedia operations replaced ends).noting
        System.replaced_withMedia
  | mountWithStorage filename mode size change write =>
      have ends := @keeps_rpcMountWithStorage truncates _ filename mode size
        change write system.media remote.has
      exact (remote.withMedia operations replaced ends).noting
        System.replaced_withMedia
  | mountWithHTTP url mode size change start write =>
      cases mounted : system.media.currentVirtualMediaState with
      | some image =>
          have ends : Fallible.Ends
              (prepareHTTPMount truncates url mode size change) system.media
              (fun _ => HasReader system.media.httpRangeReader)
              fun _ => HasReader system.media.httpRangeReader := by
            simpa [prepareHTTPMount, Fallible.ends_ite, mounted] using remote.has
          simp only [Call.replace, mounted, Option.isSome_some, if_true]
          exact (remote.withMedia operations replaced ends).noting
            System.replaced_withMedia
      | none =>
          obtain ⟨reader, recorded⟩ :=
            (@ends_prepareHTTPMount truncates _ url mode size change mounted).after
          rw [← @System.media_withMedia (system.unlock id)] at reader recorded
          simp only [Call.replace, mounted, Option.isSome_none,
            Bool.false_eq_true, if_false]
          exact remote.of_notes (.inr ⟨url, reader, rfl⟩) recorded
            fun other found seen isFound =>
              @System.operations_withMedia (system.unlock id) _ _ _ _ _ _ _ isFound

end Remote

section Steps

variable {truncates : Bool} {label : Label}

/-- A call leaves the mutex, unless it is a read that finds no image. -/
theorem Invariant.leave (invariant : Invariant system) (call : Call)
    (finds : ∀ length off, call = .readAt length off →
      system.media.currentVirtualMediaState.isSome) :
    Invariant (leave truncates system id call) := by
  have keeps {operation : Operation} (settled : operation.Settled)
      (media : State) :
      Invariant { (system.unlock id).put id operation with media := media } :=
    invariant.release settled media
  cases call with
  | readAt length off =>
      obtain ⟨seen, mounted⟩ :=
        Option.isSome_iff_exists.mp (finds length off rfl)
      simp only [Reads.leave, mounted]
      exact keeps (.of_plain (by trivial)) system.media
  | getVirtualMediaState => exact keeps (.of_plain (by trivial)) system.media
  | size =>
      simp only [Reads.leave]
      cases system.media.currentVirtualMediaState with
      | none => exact keeps (.of_plain (by trivial)) system.media
      | some state => exact keeps (.of_plain (by trivial)) system.media
  | unmountImage ejection => exact Invariant.withMedia keeps (by trivial) _
  | mountWithHTTP url mode size change start write =>
      exact Invariant.withMedia keeps (by trivial) _
  | mountWithStorage filename mode size change write =>
      exact Invariant.withMedia keeps (by trivial) _

/-- A read that finds the reader of its URL is answered with its bytes. -/
theorem settled_readAnswer {seen : VirtualMediaState} {length : Nat} {off : Int}
    {fetch : Outcome}
    (finds : seen.source = .HTTP → fetch = .ok () →
      system.media.httpRangeReader = some seen.url) :
    Operation.Settled
      ⟨.readAt length off,
        .returned (readAnswer system.media seen length off fetch),
        some seen⟩ where
  unlocked := nofun
  answered remote same := by
    refine ⟨seen, length, off, rfl, rfl, ?_⟩
    have answer := Stage.returned.inj same
    unfold readAnswer at answer
    cases source : seen.source with
    | Storage =>
        rw [source] at answer
        cases answer
    | HTTP =>
        simp only [source] at answer
        cases reader : system.media.httpRangeReader with
        | none =>
            rw [reader] at answer
            cases answer
        | some url =>
            simp only [reader] at answer
            cases fetch with
            | error failure => cases answer
            | ok _ =>
                have same := reader.symm.trans (finds source rfl)
                rw [← Option.some.inj same]
                exact (Answer.bytes.inj answer).symm

theorem Remote.step (remote : Remote system)
    (taken : Reads.step truncates system label = some next) : Remote next := by
  cases label with
  | call id call =>
      simp only [Reads.step] at taken
      split at taken
      · obtain rfl := Option.some.inj taken
        refine remote.put fun released => ?_
        cases call with
        | mountWithStorage filename mode size change write =>
            simp only [Call.begin] at released
            split at released
            · cases released
            · cases released
        | _ => cases released
      · cases taken
  | acquire id =>
      simp only [Reads.step] at taken
      split at taken
      · split_ifs at taken with reads
        · obtain rfl := Option.some.inj taken
          exact remote.put (by nofun)
        · obtain rfl := Option.some.inj taken
          exact remote.acquire _ (Bool.eq_false_iff.mpr reads)
      · cases taken
  | release id =>
      simp only [Reads.step] at taken
      split at taken
      · obtain rfl := Option.some.inj taken
        exact remote.leave _
      · cases taken
  | finish id fetch =>
      simp only [Reads.step] at taken
      split at taken
      · obtain rfl := Option.some.inj taken
        exact remote.put (by nofun)
      · obtain rfl := Option.some.inj taken
        exact remote.withMedia rfl rfl
          (keeps_startNBDDevice _ _ system.media remote.has)
      · cases taken

theorem Invariant.step (invariant : Invariant system) (remote : Remote system)
    (finds : FindsItsImage system label)
    (taken : Reads.step truncates system label = some next) :
    Invariant next := by
  cases label with
  | call id call =>
      simp only [Reads.step] at taken
      split at taken
      · rename_i fresh
        obtain rfl := Option.some.inj taken
        have free : ¬ system.Holds id := by
          intro holds
          obtain ⟨operation, found, -⟩ := invariant.held id holds
          rw [fresh] at found
          cases found
        exact invariant.put free (.of_plain (plain_begin call))
          system.media
      · cases taken
  | acquire id =>
      simp only [Reads.step] at taken
      split at taken
      · split_ifs at taken with reads open' open'
        · obtain rfl := Option.some.inj taken
          refine invariant.acquire system.media fun other => ?_
          simp [System.Holds, System.put, open']
        · obtain rfl := Option.some.inj taken
          refine (invariant.acquire _ fun other => ?_).noting _
          simp [System.Holds, System.put, open', eq_comm]
      · cases taken
  | release id =>
      simp only [Reads.step] at taken
      split at taken
      · rename_i call seen found
        obtain rfl := Option.some.inj taken
        refine (invariant.leave call fun length off isRead => ?_).noting _
        subst isRead
        exact finds length off seen found
      · cases taken
  | finish id fetch =>
      simp only [Reads.step] at taken
      split at taken
      · rename_i length off seen found
        obtain rfl := Option.some.inj taken
        refine invariant.put (invariant.free found nofun)
          (settled_readAnswer fun isHTTP fetched => ?_) system.media
        rw [remote.found id _ seen found isHTTP]
        cases replaced : system.replaced id with
        | none => rfl
        | some url =>
            exact congrArg some
              (finds length off seen url found isHTTP fetched replaced)
      · rename_i found
        obtain rfl := Option.some.inj taken
        have free := invariant.free found nofun
        exact Invariant.withMedia (fun settled => invariant.put free settled)
          (by trivial) _
      · cases taken

/-- A read that does not find its image returns with the mutex, or is answered
with the bytes of another URL. -/
theorem Invariant.findsItsImage (invariant : Invariant system)
    (remote : Remote system)
    (taken : Reads.step truncates system label = some next)
    (sound : Sound next) : FindsItsImage system label := by
  cases label with
  | call => trivial
  | acquire => trivial
  | release id =>
      intro length off seen found
      simp only [Reads.step, found] at taken
      by_contra unmounted
      rw [Option.not_isSome_iff_eq_none] at unmounted
      simp only [Reads.leave, unmounted] at taken
      obtain rfl := Option.some.inj taken
      exact sound.released id _ _ System.operations_put_self rfl
        (invariant.holds id _ found rfl)
  | finish id fetch =>
      intro length off seen url found isHTTP fetched replaced
      have reader := remote.found id _ seen found isHTTP
      rw [replaced, Option.getD_some] at reader
      simp only [Reads.step, found] at taken
      obtain rfl := Option.some.inj taken
      have answer : readAnswer system.media seen length off fetch =
          .bytes ⟨url, off, length⟩ := by
        simp [readAnswer, isHTTP, reader, fetched]
      obtain ⟨seen', length', off', sameSeen, -, same⟩ :=
        sound.answered id _ ⟨url, off, length⟩ System.operations_put_self
          (congrArg Stage.returned answer)
      obtain rfl := Option.some.inj sameSeen
      exact (RemoteBytes.mk.inj same).1

end Steps

end Systems

/-- Of the runs of any number of requests and calls, the sound ones are those in
which every read finds its image. -/
theorem sound_iff_findsItsImage (truncates : Bool) (labels : List Label) :
    AllStates (step truncates) Sound {} labels ↔
      AllSteps (step truncates) FindsItsImage {} labels :=
  @allStates_iff_allSteps System Label (step truncates)
    (fun system => Invariant system ∧ Remote system) Sound FindsItsImage
    (fun kept => kept.1.sound)
    (fun kept finds taken =>
      ⟨kept.1.step kept.2 finds taken, kept.2.step taken⟩)
    (fun kept => kept.1.findsItsImage kept.2) {}
    ⟨invariant_initial, remote_initial⟩ labels

/-- A read of the kernel waits for an unmount and then finds nothing mounted. -/
def readDuringUnmount : List Label :=
  [.call 0 (.mountWithHTTP "http://192.168.1.9/boot.iso" CDROM (.ok 4096) {}
      (.ok ()) (.ok ())),
    .acquire 0, .release 0, .finish 0 (.ok ()), .call 1 (.unmountImage {}),
    .acquire 1, .call 2 (.readAt 4096 0), .release 1, .acquire 2, .release 2]

theorem readDuringUnmount_not_sound :
    ¬ ∀ truncates labels, AllStates (step truncates) Sound {} labels := by
  intro everywhere
  have run := everywhere false readDuringUnmount
  have mounted := (((run.2 _ rfl).2 _ rfl).2 _ rfl).2 _ rfl
  have unmounting := ((mounted.2 _ rfl).2 _ rfl).2 _ rfl
  have unmounted := unmounting.2 _ rfl
  have returned := ((unmounted.2 _ rfl).2 _ rfl).first
  have unmounted : _ = some (Operation.mk (.readAt 4096 0)
    (.returned (.error { message := "image not mounted" })) none) := rfl
  exact returned.released 2 _ _ unmounted rfl (.inr List.mem_cons_self)

end Reads

end VirtualMedia

end JetKvm
