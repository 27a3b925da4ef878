import JetKvm.ImagesFolder
import JetKvm.LabelledRuns
import Mathlib.Logic.Function.Basic

/-!
# Uploads of images

`rpcStartStorageFileUpload` opens `<name>.incomplete` for appending and hands
out an upload id; a data channel or an HTTP request with that id brings the
bytes, and its handler renames the file when it has counted enough of them.
Any number of calls and handlers run at the same time.
-/

namespace JetKvm

namespace ImageUploads

open LabelledRuns
open VirtualMedia (imagePath sanitizeFilename)

/-- Where a call of `rpcStartStorageFileUpload` stands; from `pending` on its
upload id is in `pendingUploads`. -/
inductive StartPoint where
  | statFile
  | statUpload
  | openFile (alreadyUploadedBytes : Nat)
  | register (alreadyUploadedBytes file : Nat)
  | pending (alreadyUploadedBytes file : Nat)
  | gone
  deriving DecidableEq, Repr

def StartPoint.isPending : StartPoint → Bool
  | .pending _ _ => true
  | _ => false

/-- Nothing reads `alone`, which tells that the size has been taken and that no
handler of a related name was running then or has begun since. -/
structure Upload where
  filePath : String
  size : Int
  point : StartPoint := .statFile
  closed : Bool := false
  alone : Bool := false
  deriving DecidableEq, Repr

def Upload.uploadPath (upload : Upload) : String :=
  upload.filePath ++ ".incomplete"

/-- `strings.TrimSuffix` -/
def trimSuffix (name suffix : String) : String :=
  if suffix.toList <:+ name.toList then
    String.ofList (name.toList.take (name.length - suffix.length))
  else name

/-- The paths are one, or one of them is renamed to the other. -/
def related (path other : String) : Bool :=
  path = other || trimSuffix path ".incomplete" = other ||
    trimSuffix other ".incomplete" = path

/-- `handleUploadChannel` or `handleUploadHttp` -/
inductive Kind where
  | channel
  | http
  deriving DecidableEq, Repr

/-- Where the `OnMessage` callback stands: it has written a message and not yet
counted it, or could not write it. -/
inductive Callback where
  | idle
  | wrote (bytesWritten : Nat)
  | failed
  deriving DecidableEq, Repr

def Callback.uncounted : Callback → Nat
  | .wrote bytesWritten => bytesWritten
  | _ => 0

/-- Where a handler stands; only an HTTP handler is ever `writing`. -/
inductive Point where
  | receiving
  | writing (length : Nat) (eof : Bool)
  | closing
  | checking
  | promoting
  | deleting
  | finished
  deriving DecidableEq, Repr

def Point.takesData : Point → Bool
  | .receiving | .writing _ _ => true
  | _ => false

/-- The handler may still rename its file. -/
def Point.running : Point → Bool
  | .deleting | .finished => false
  | _ => true

/-- A handler with its copy of the pending upload. -/
structure Handler where
  upload : Nat
  kind : Kind
  path : String
  file : Nat
  size : Int
  totalBytesWritten : Int
  callback : Callback := .idle
  uploadComplete : Bool := false
  point : Point := .receiving
  deriving DecidableEq, Repr

/-- The images folder names files, which stay what they are when they are
renamed; upload ids number the calls that made them. -/
structure State where
  folder : String → Option Nat
  length : Nat → Nat
  created : Nat
  uploads : List Upload := []
  handlers : List Handler := []
  panicked : Bool := false

/-- What `reader.Read` returns beside the number of bytes -/
inductive ReadResult where
  | more
  | eof
  | failed
  deriving DecidableEq, Repr

/-- A write may fail after some of its bytes are in the file. -/
inductive Label where
  | start (filename : String) (size : Int)
  | advance (upload : Nat) (opens : Bool)
  | open' (upload : Nat) (kind : Kind)
  | message (handler length : Nat) (failsAfter : Option Nat)
  | count (handler : Nat)
  | read (handler length : Nat) (result : ReadResult)
  | write (handler : Nat) (failsAfter : Option Nat)
  | proceed (handler : Nat) (renames : Bool)
  deriving DecidableEq, Repr

def State.setUpload (state : State) (i : Nat) (upload : Upload) : State :=
  { state with uploads := state.uploads.set i upload }

def State.setHandler (state : State) (i : Nat) (handler : Handler) : State :=
  { state with handlers := state.handlers.set i handler }

def State.append (state : State) (file count : Nat) : State :=
  { state with
    length := Function.update state.length file (state.length file + count) }

/-- A handler of a related name is running. -/
def State.busy (state : State) (path : String) : Bool :=
  state.handlers.any fun handler =>
    handler.point.running && related handler.path path

def State.closed (state : State) (handler : Handler) : Bool :=
  state.uploads[handler.upload]?.any Upload.closed

/-- `File.Write`: how many bytes get into the file, and whether it succeeds -/
def State.written (state : State) (handler : Handler) (length : Nat)
    (failsAfter : Option Nat) : Nat × Bool :=
  if state.closed handler then (0, false)
  else
    match failsAfter with
    | none => (length, true)
    | some count => (min count length, false)

/-- `os.Rename` -/
def State.rename (state : State) (source target : String) : State :=
  match state.folder source with
  | none => state
  | some file =>
      { state with
        folder := Function.update
          (Function.update state.folder target (some file)) source none }

/-- `rpcStartStorageFileUpload` is called. -/
def startCall (state : State) (filename : String) (size : Int) : State :=
  match sanitizeFilename filename with
  | .error _ => state
  | .ok name =>
      { state with
        uploads := state.uploads ++
          [{ filePath := imagePath name, size := size }] }

/-- The next move of a call of `rpcStartStorageFileUpload` -/
def startStep (state : State) (i : Nat) (upload : Upload) (opens : Bool) :
    Option State :=
  match upload.point with
  | .statFile =>
      some (state.setUpload i { upload with
        point := if (state.folder upload.filePath).isSome then .gone
          else .statUpload })
  | .statUpload =>
      some (state.setUpload i { upload with
        alone := !state.busy upload.uploadPath
        point := .openFile
          (((state.folder upload.uploadPath).map state.length).getD 0) })
  | .openFile already =>
      if opens = false then
        some (state.setUpload i { upload with point := .gone })
      else
        match state.folder upload.uploadPath with
        | some file =>
            some (state.setUpload i
              { upload with point := .register already file })
        | none =>
            some { state.setUpload i
                { upload with point := .register already state.created } with
              folder := Function.update state.folder upload.uploadPath
                (some state.created)
              length := Function.update state.length state.created 0
              created := state.created + 1 }
  | .register already file =>
      some (state.setUpload i { upload with point := .pending already file })
  | .pending _ _ | .gone => none

/-- A data channel or a request comes with the upload id. -/
def openStep (state : State) (i : Nat) (kind : Kind) : State :=
  match state.uploads[i]? with
  | none => state
  | some upload =>
      match upload.point with
      | .pending already file =>
          { state with
            uploads := state.uploads.map fun other =>
              if related upload.uploadPath other.uploadPath then
                { other with alone := false }
              else other
            handlers := state.handlers ++
              [{ upload := i
                 kind := kind
                 path := upload.uploadPath
                 file := file
                 size := upload.size
                 totalBytesWritten := already }] }
      | _ => state

/-- `close(uploadComplete)` -/
def State.complete (state : State) (i : Nat) (handler : Handler) : State :=
  if handler.uploadComplete then { state with panicked := true }
  else state.setHandler i { handler with uploadComplete := true }

/-- The next move of the goroutine of a handler -/
def proceedStep (state : State) (i : Nat) (handler : Handler) (renames : Bool) :
    Option State :=
  match handler.point with
  | .receiving =>
      if handler.kind = .channel ∧ handler.uploadComplete = true then
        some (state.setHandler i { handler with point := .closing })
      else none
  | .closing =>
      some { state.setHandler i { handler with point := .checking } with
        uploads := state.uploads.modify handler.upload fun upload =>
          { upload with closed := true } }
  | .checking =>
      some (state.setHandler i { handler with
        point := if handler.totalBytesWritten = handler.size then .promoting
          else .deleting })
  | .promoting =>
      let moved := if renames then
          state.rename handler.path (trimSuffix handler.path ".incomplete")
        else state
      some (moved.setHandler i { handler with point := .deleting })
  | .deleting =>
      some { state.setHandler i { handler with point := .finished } with
        uploads := state.uploads.modify handler.upload fun upload =>
          { upload with point := .gone } }
  | .writing _ _ | .finished => none

/-- Where a request goes on once it has read from its body. -/
def afterRead (length : Nat) : ReadResult → Point
  | .failed => .closing
  | .eof => if 0 < length then .writing length true else .closing
  | .more => if 0 < length then .writing length false else .receiving

def handlerStep (state : State) (i : Nat) (handler : Handler) :
    Label → Option State
  | .message _ length failsAfter =>
      if handler.kind = .channel ∧ handler.callback = .idle ∧
          handler.point ≠ .finished then
        match state.written handler length failsAfter with
        | (count, true) =>
            some ((state.append handler.file count).setHandler i
              { handler with callback := .wrote count })
        | (count, false) =>
            some ((state.append handler.file count).setHandler i
              { handler with callback := .failed })
      else none
  | .count _ =>
      match handler.callback with
      | .idle => none
      | .wrote bytesWritten =>
          let counted : Handler :=
            { handler with
              totalBytesWritten := handler.totalBytesWritten + bytesWritten
              callback := .idle }
          if counted.size ≤ counted.totalBytesWritten then
            some (state.complete i counted)
          else some (state.setHandler i counted)
      | .failed => some (state.complete i { handler with callback := .idle })
  | .read _ length result =>
      if handler.kind = .http ∧ handler.point = .receiving ∧
          length ≤ 32 * 1024 then
        some (state.setHandler i
          { handler with point := afterRead length result })
      else none
  | .write _ failsAfter =>
      match handler.kind, handler.point with
      | .http, .writing length eof =>
          match state.written handler length failsAfter with
          | (count, true) =>
              some ((state.append handler.file count).setHandler i
                { handler with
                  totalBytesWritten := handler.totalBytesWritten + count
                  point := if eof then .closing else .receiving })
          | (count, false) =>
              some ((state.append handler.file count).setHandler i
                { handler with point := .closing })
      | _, _ => none
  | .proceed _ renames => proceedStep state i handler renames
  | _ => none

/-- The handler that a label is about -/
def Label.handler : Label → Option Nat
  | .message handler _ _ | .count handler | .read handler _ _
  | .write handler _ | .proceed handler _ => some handler
  | _ => none

def move (state : State) : Label → Option State
  | .start filename size => some (startCall state filename size)
  | .advance i opens => do
      let upload ← state.uploads[i]?
      startStep state i upload opens
  | .open' i kind => some (openStep state i kind)
  | label => do
      let i ← label.handler
      let handler ← state.handlers[i]?
      handlerStep state i handler label

def step (state : State) (label : Label) : Option State :=
  if state.panicked then none else move state label

/-- The images folder before the first upload -/
def initial (images : List (String × Nat)) : State where
  folder := fun name => images.findIdx? fun image => image.1 = name
  length := fun file => (images[file]?.map Prod.snd).getD 0
  created := images.length

/-- The handler still takes data for the file it has open. -/
def State.Writing (state : State) (handler : Handler) : Prop :=
  handler.point.takesData = true ∧ state.closed handler = false

/-- The handler that renames a file in this step, and the file -/
def promoted (state : State) : Label → Option (Handler × Nat)
  | .proceed i true => do
      let handler ← state.handlers[i]?
      if handler.point = .promoting then
        let file ← state.folder handler.path
        return (handler, file)
      else none
  | _ => none

/-- A file that is renamed has the declared size, and nobody is writing to it. -/
structure Whole (state : State) (handler : Handler) (file : Nat) : Prop where
  size : (state.length file : Int) = handler.size
  sole : ∀ other ∈ state.handlers, state.Writing other → other.file ≠ file

def RenamesWhole (state : State) (label : Label) : Prop :=
  ∀ renamed ∈ promoted state label, Whole state renamed.1 renamed.2

/-- The write does not fail partway once the declared bytes are counted. -/
def Handler.Intact (handler : Handler) (failsAfter : Option Nat) : Prop :=
  handler.totalBytesWritten = handler.size → failsAfter.getD 0 = 0

instance (handler : Handler) (failsAfter : Option Nat) :
    Decidable (handler.Intact failsAfter) :=
  inferInstanceAs (Decidable (_ → _))

/-- No handler begins unless it has been alone since the size of its file was
taken, no message comes after its upload is complete, and no write fails partway
once the declared bytes are counted. -/
def Undisturbed (state : State) : Label → Prop
  | .open' i _ => ∀ upload ∈ state.uploads[i]?,
      upload.point.isPending = true → upload.alone = true
  | .message i _ failsAfter => ∀ handler ∈ state.handlers[i]?,
      handler.uploadComplete = false ∧ handler.Intact failsAfter
  | .write i failsAfter => ∀ handler ∈ state.handlers[i]?,
      handler.Intact failsAfter
  | _ => True

instance (state : State) (handler : Handler) :
    Decidable (state.Writing handler) :=
  inferInstanceAs (Decidable (_ ∧ _))

instance (state : State) (handler : Handler) (file : Nat) :
    Decidable (Whole state handler file) :=
  decidable_of_iff
    ((state.length file : Int) = handler.size ∧
      ∀ other ∈ state.handlers, state.Writing other → other.file ≠ file)
    ⟨fun both => ⟨both.1, both.2⟩, fun whole => ⟨whole.size, whole.sole⟩⟩

instance (state : State) (label : Label) :
    Decidable (RenamesWhole state label) :=
  inferInstanceAs (Decidable (∀ renamed ∈ promoted state label,
    Whole state renamed.1 renamed.2))

instance (state : State) : (label : Label) → Decidable (Undisturbed state label)
  | .open' i _ => inferInstanceAs (Decidable (∀ upload ∈ state.uploads[i]?,
      upload.point.isPending = true → upload.alone = true))
  | .message i _ failsAfter => inferInstanceAs (Decidable
      (∀ handler ∈ state.handlers[i]?,
        handler.uploadComplete = false ∧ handler.Intact failsAfter))
  | .write i failsAfter => inferInstanceAs (Decidable
      (∀ handler ∈ state.handlers[i]?, handler.Intact failsAfter))
  | .start _ _ | .advance _ _ | .count _ | .read _ _ _ | .proceed _ _ =>
      isTrue trivial

/-- The handler counts no more bytes. -/
def Handler.Stopped (handler : Handler) : Prop :=
  match handler.kind with
  | .channel => handler.callback = .failed ∨ handler.uploadComplete = true
  | .http => handler.point.takesData = false

/-- The bytes of the file are those the handler has counted and those it is
about to count, or it has stopped at another number than the declared one. -/
def Handler.Account (handler : Handler) (length : Nat → Nat) : Prop :=
  (length handler.file : Int) =
      handler.totalBytesWritten + handler.callback.uncounted ∨
    handler.totalBytesWritten ≠ handler.size ∧ handler.Stopped

structure Handler.Sound (handler : Handler) : Prop where
  quiet : handler.uploadComplete = true ∨ handler.kind = .http →
    handler.callback = .idle
  awake : handler.kind = .channel → handler.point.takesData = false →
    handler.uploadComplete = true
  named : handler.point = .promoting → handler.totalBytesWritten = handler.size

/-- The size that the call has taken is still that of its file. -/
def Upload.Taken (upload : Upload) (folder : String → Option Nat)
    (length : Nat → Nat) : Prop :=
  match upload.point with
  | .openFile already =>
      already = ((folder upload.uploadPath).map length).getD 0
  | .register already file | .pending already file =>
      folder upload.uploadPath = some file ∧ length file = already
  | _ => True

structure Sound (state : State) : Prop where
  calm : state.panicked = false
  folder_lt : ∀ name file, state.folder name = some file → file < state.created
  folder_inj : ∀ name other file, state.folder name = some file →
    state.folder other = some file → name = other
  handlers : ∀ handler ∈ state.handlers, handler.Sound
  opened : ∀ handler ∈ state.handlers, handler.point.running = true →
    state.folder handler.path = some handler.file ∧
      handler.Account state.length
  apart : ∀ (i j : Nat) (handler other : Handler),
    state.handlers[i]? = some handler → state.handlers[j]? = some other →
      handler.point.running = true → other.point.running = true →
        related handler.path other.path = true → i = j
  uploads : ∀ upload ∈ state.uploads, upload.alone = true →
    upload.Taken state.folder state.length ∧
      state.busy upload.uploadPath = false

variable {state next : State} {handler changed : Handler} {upload : Upload}
variable {i : Nat} {label : Label}

theorem mem_concat {Item : Type*} {items : List Item} {last item : Item}
    (found : (items ++ [last])[i]? = some item) :
    items[i]? = some item ∨ i = items.length ∧ item = last := by
  rcases Nat.lt_or_ge i items.length with inside | outside
  · rw [List.getElem?_append_left inside] at found
    exact Or.inl found
  · rw [List.getElem?_append_right outside] at found
    rw [List.getElem?_singleton] at found
    split_ifs at found with first
    exact Or.inr ⟨by omega, (Option.some.inj found).symm⟩

theorem related_self (path : String) : related path path = true := by
  simp [related]

theorem related_comm (path other : String) :
    related path other = related other path := by
  unfold related
  rw [Bool.or_right_comm]
  simp only [@eq_comm _ path other]

theorem busy_eq_false_iff {path : String} :
    state.busy path = false ↔ ∀ handler ∈ state.handlers,
      handler.point.running = true → related handler.path path = false := by
  simp [State.busy, List.any_eq_false]

theorem Handler.Sound.idle (sound : handler.Sound)
    (ended : handler.point.takesData = false) : handler.callback = .idle := by
  refine sound.quiet ?_
  cases kind : handler.kind with
  | channel => exact .inl (sound.awake kind ended)
  | http => exact .inr rfl

/-- A running handler is the only one that has its file. -/
theorem Sound.only (sound : Sound state) {j : Nat} {other : Handler}
    (found : state.handlers[i]? = some handler)
    (otherFound : state.handlers[j]? = some other)
    (running : handler.point.running = true)
    (otherRunning : other.point.running = true)
    (shared : other.file = handler.file) : i = j := by
  have named := (sound.opened handler (List.mem_of_getElem? found) running).1
  have otherNamed :=
    (sound.opened other (List.mem_of_getElem? otherFound) otherRunning).1
  rw [shared] at otherNamed
  refine sound.apart i j handler other found otherFound running otherRunning ?_
  rw [sound.folder_inj _ _ _ named otherNamed]
  exact related_self other.path

/-- An upload that has been alone has another file than a running handler. -/
theorem Sound.folder_ne (sound : Sound state)
    (listed : handler ∈ state.handlers)
    (running : handler.point.running = true)
    (uploadListed : upload ∈ state.uploads) (alone : upload.alone = true) :
    state.folder upload.uploadPath ≠ some handler.file := by
  intro named
  have busy := busy_eq_false_iff.mp (sound.uploads upload uploadListed alone).2
    handler listed running
  rw [sound.folder_inj _ _ _ (sound.opened handler listed running).1 named,
    related_self] at busy
  cases busy

theorem Upload.Taken.congr {folder : String → Option Nat}
    {length later : Nat → Nat} (taken : upload.Taken folder length)
    (same : ∀ file, folder upload.uploadPath = some file →
      later file = length file) : upload.Taken folder later := by
  unfold Upload.Taken at taken ⊢
  split
  · rename_i already point
    rw [point] at taken
    rw [taken]
    cases named : folder upload.uploadPath with
    | none => rfl
    | some file => simp [same file named]
  · rename_i already file point
    rw [point] at taken
    exact ⟨taken.1, (same file taken.1).trans taken.2⟩
  · rename_i already file point
    rw [point] at taken
    exact ⟨taken.1, (same file taken.1).trans taken.2⟩
  · trivial

/-- A handler takes a step, in which bytes may come into its file. -/
theorem Sound.setHandler {length : Nat → Nat} (sound : Sound state)
    (found : state.handlers[i]? = some handler)
    (path : changed.path = handler.path) (file : changed.file = handler.file)
    (runs : changed.point.running = true → handler.point.running = true)
    (changedSound : changed.Sound)
    (account : changed.point.running = true → changed.Account length)
    (others : ∀ file, length file = state.length file ∨
      handler.point.running = true ∧ file = handler.file) :
    Sound { state.setHandler i changed with length := length } := by
  have before : ∀ {j other}, (state.handlers.set i changed)[j]? = some other →
      i = j ∧ other = changed ∨ i ≠ j ∧ state.handlers[j]? = some other := by
    intro j other otherFound
    by_cases same : i = j
    · subst same
      rw [List.getElem?_set_self', found] at otherFound
      exact Or.inl ⟨rfl, (Option.some.inj otherFound).symm⟩
    · rw [List.getElem?_set_ne same] at otherFound
      exact Or.inr ⟨same, otherFound⟩
  have earlier : ∀ {j : Nat} {other : Handler},
      (state.handlers.set i changed)[j]? = some other →
      other.point.running = true → ∃ old : Handler,
        state.handlers[j]? = some old ∧ old.path = other.path ∧
          old.point.running = true := by
    intro j other otherFound running
    rcases before otherFound with ⟨rfl, rfl⟩ | ⟨-, old⟩
    · exact ⟨handler, found, path.symm, runs running⟩
    · exact ⟨other, old, rfl, running⟩
  have member := List.mem_of_getElem? found
  refine ⟨sound.calm, sound.folder_lt, sound.folder_inj, ?_, ?_, ?_, ?_⟩
  · intro other listed
    obtain ⟨j, otherFound⟩ := List.mem_iff_getElem?.mp listed
    rcases before otherFound with ⟨-, rfl⟩ | ⟨-, old⟩
    · exact changedSound
    · exact sound.handlers other (List.mem_of_getElem? old)
  · intro other listed running
    obtain ⟨j, otherFound⟩ := List.mem_iff_getElem?.mp listed
    rcases before otherFound with ⟨-, rfl⟩ | ⟨different, old⟩
    · refine ⟨?_, account running⟩
      rw [path, file]
      exact (sound.opened handler member (runs running)).1
    · obtain ⟨named, kept⟩ :=
        sound.opened other (List.mem_of_getElem? old) running
      refine ⟨named, ?_⟩
      rcases others other.file with same | ⟨writing, shared⟩
      · unfold Handler.Account at kept ⊢
        dsimp only
        rw [same]
        exact kept
      · exact absurd (sound.only found old writing running shared) different
  · intro j k one two oneFound twoFound oneRunning twoRunning near
    obtain ⟨one', oneOld, onePath, oneRan⟩ := earlier oneFound oneRunning
    obtain ⟨two', twoOld, twoPath, twoRan⟩ := earlier twoFound twoRunning
    rw [← onePath, ← twoPath] at near
    exact sound.apart j k one' two' oneOld twoOld oneRan twoRan near
  · intro upload listed alone
    obtain ⟨taken, quiet⟩ := sound.uploads upload listed alone
    refine ⟨taken.congr fun file named => ?_, busy_eq_false_iff.mpr ?_⟩
    · rcases others file with same | ⟨writing, rfl⟩
      · exact same
      · exact absurd named (sound.folder_ne member writing listed alone)
    · intro other otherListed running
      obtain ⟨j, otherFound⟩ := List.mem_iff_getElem?.mp otherListed
      obtain ⟨old, oldFound, same, ran⟩ := earlier otherFound running
      rw [← same]
      exact busy_eq_false_iff.mp quiet old (List.mem_of_getElem? oldFound) ran

theorem Sound.withUploads (sound : Sound state) {uploads : List Upload}
    (each : ∀ upload ∈ uploads, upload.alone = true →
      upload.Taken state.folder state.length ∧
        state.busy upload.uploadPath = false) :
    Sound { state with uploads := uploads } :=
  ⟨sound.calm, sound.folder_lt, sound.folder_inj, sound.handlers,
    sound.opened, sound.apart, each⟩

theorem Sound.setUpload (sound : Sound state)
    (changed : upload.alone = true →
      upload.Taken state.folder state.length ∧
        state.busy upload.uploadPath = false) :
    Sound (state.setUpload i upload) := by
  refine sound.withUploads fun other member => ?_
  rcases List.mem_or_eq_of_mem_set member with member | rfl
  · exact sound.uploads other member
  · exact changed

/-- Closing the file of an upload and deleting its id take no size. -/
theorem Sound.modifyUpload (sound : Sound state) {change : Upload → Upload}
    (kept : ∀ upload, (change upload).alone = upload.alone ∧
      (change upload).uploadPath = upload.uploadPath)
    (taken : ∀ upload, upload.Taken state.folder state.length →
      (change upload).Taken state.folder state.length) :
    Sound { state with uploads := state.uploads.modify i change } := by
  refine sound.withUploads fun other member alone => ?_
  obtain ⟨j, found⟩ := List.mem_iff_getElem?.mp member
  rw [List.getElem?_modify] at found
  obtain ⟨upload, before, rfl⟩ := Option.map_eq_some_iff.mp found
  have listed := List.mem_of_getElem? before
  split at alone
  · rename_i same
    rw [if_pos same]
    rw [(kept upload).1] at alone
    rw [(kept upload).2]
    exact (sound.uploads upload listed alone).imp_left (taken upload)
  · rename_i different
    rw [if_neg different]
    exact sound.uploads upload listed alone

theorem Sound.startCall (sound : Sound state) (filename : String) (size : Int) :
    Sound (startCall state filename size) := by
  delta ImageUploads.startCall
  cases sanitizeFilename filename with
  | error _ => exact sound
  | ok name =>
      refine sound.withUploads fun upload listed alone => ?_
      rcases List.mem_append.mp listed with listed | listed
      · exact sound.uploads upload listed alone
      · obtain rfl := List.mem_singleton.mp listed
        cases alone

theorem Upload.Taken.create {folder : String → Option Nat}
    {length : Nat → Nat} {path : String} {created : Nat}
    (taken : upload.Taken folder length) (absent : folder path = none)
    (fresh : ∀ name file, folder name = some file → file ≠ created) :
    upload.Taken (Function.update folder path (some created))
      (Function.update length created 0) := by
  have elsewhere : ∀ {file}, folder upload.uploadPath = some file →
      Function.update folder path (some created) upload.uploadPath =
          some file ∧
        Function.update length created 0 file = length file := by
    intro file named
    refine ⟨?_, Function.update_of_ne (fresh _ _ named) _ _⟩
    refine (Function.update_of_ne ?_ _ _).trans named
    rintro same
    rw [same, absent] at named
    cases named
  cases point : upload.point with
  | openFile already =>
      simp only [Upload.Taken, point] at taken ⊢
      rw [taken]
      cases named : folder upload.uploadPath with
      | some file =>
          obtain ⟨kept, sized⟩ := elsewhere named
          rw [kept, Option.map_some, Option.map_some, sized]
      | none =>
          by_cases same : upload.uploadPath = path
          · simp [same]
          · simp [Function.update_of_ne same, named]
  | register already file | pending already file =>
      simp only [Upload.Taken, point] at taken ⊢
      obtain ⟨kept, sized⟩ := elsewhere taken.1
      exact ⟨kept, sized.trans taken.2⟩
  | statFile | statUpload | gone => simp only [Upload.Taken, point]

/-- A call makes the file that it found missing. -/
theorem Sound.create {already : Nat} (sound : Sound state)
    (listed : upload ∈ state.uploads)
    (point : upload.point = .openFile already)
    (absent : state.folder upload.uploadPath = none) :
    Sound { state.setUpload i
        { upload with point := .register already state.created } with
      folder := Function.update state.folder upload.uploadPath
        (some state.created)
      length := Function.update state.length state.created 0
      created := state.created + 1 } := by
  have fresh : ∀ name file, state.folder name = some file →
      file ≠ state.created := fun name file named =>
    Nat.ne_of_lt (sound.folder_lt name file named)
  refine ⟨sound.calm, fun name file named => ?_, ?_, sound.handlers, ?_,
    sound.apart, ?_⟩
  · simp only [Function.update_apply] at named
    split_ifs at named
    · cases named
      exact Nat.lt_succ_self _
    · exact Nat.lt_succ_of_lt (sound.folder_lt name file named)
  · intro name other file named otherNamed
    simp only [Function.update_apply] at named otherNamed
    split_ifs at named otherNamed with here there there
    · rw [here, there]
    · cases named
      exact absurd rfl (fresh _ _ otherNamed)
    · cases otherNamed
      exact absurd rfl (fresh _ _ named)
    · exact sound.folder_inj name other file named otherNamed
  · intro handler handlerListed running
    obtain ⟨named, account⟩ := sound.opened handler handlerListed running
    have elsewhere : handler.path ≠ upload.uploadPath := by
      intro same
      rw [same, absent] at named
      cases named
    refine ⟨(Function.update_of_ne elsewhere _ _).trans named, ?_⟩
    unfold Handler.Account at account ⊢
    dsimp only
    rw [Function.update_of_ne (fresh _ _ named)]
    exact account
  · intro other otherListed alone
    rcases List.mem_or_eq_of_mem_set otherListed with otherListed | rfl
    · exact (sound.uploads other otherListed alone).imp_left fun taken =>
        taken.create absent fresh
    · obtain ⟨taken, quiet⟩ := sound.uploads upload listed alone
      refine ⟨⟨Function.update_self _ _ _, ?_⟩, quiet⟩
      simp only [Upload.Taken, point, absent] at taken
      rw [taken]
      exact Function.update_self _ _ _

theorem Sound.startStep {opens : Bool} (sound : Sound state)
    (found : state.uploads[i]? = some upload)
    (taken : startStep state i upload opens = some next) : Sound next := by
  have member := List.mem_of_getElem? found
  have before := sound.uploads upload member
  cases point : upload.point with
  | statFile =>
      simp only [ImageUploads.startStep, point] at taken
      cases taken
      refine sound.setUpload fun alone => ⟨?_, (before alone).2⟩
      split
      · trivial
      · trivial
  | statUpload =>
      simp only [ImageUploads.startStep, point] at taken
      cases taken
      exact sound.setUpload fun alone => ⟨rfl, Bool.not_inj alone⟩
  | openFile already =>
      simp only [ImageUploads.startStep, point] at taken
      split_ifs at taken
      · cases taken
        exact sound.setUpload fun alone => ⟨trivial, (before alone).2⟩
      · split at taken
        · rename_i file named
          cases taken
          refine sound.setUpload fun alone => ⟨⟨named, ?_⟩, (before alone).2⟩
          have sized := (before alone).1
          simp only [Upload.Taken, point, named] at sized
          exact sized.symm
        · rename_i absent
          cases taken
          exact sound.create member point absent
  | register already file =>
      simp only [ImageUploads.startStep, point] at taken
      cases taken
      refine sound.setUpload fun alone => ⟨?_, (before alone).2⟩
      have sized := (before alone).1
      rw [Upload.Taken, point] at sized
      exact sized
  | pending | gone =>
      simp only [ImageUploads.startStep, point] at taken
      cases taken

/-- A handler that begins is alone with the file that its upload has opened. -/
theorem Sound.openStep {kind : Kind} (sound : Sound state)
    (alone : ∀ upload ∈ state.uploads[i]?, upload.point.isPending = true →
      upload.alone = true) : Sound (openStep state i kind) := by
  rw [ImageUploads.openStep]
  cases found : state.uploads[i]? with
  | none => exact sound
  | some upload =>
      have member := List.mem_of_getElem? found
      cases point : upload.point with
      | pending already file =>
          simp only [point]
          obtain ⟨sized, quiet⟩ := sound.uploads upload member
            (alone upload found (by rw [point]; rfl))
          rw [Upload.Taken, point] at sized
          rw [busy_eq_false_iff] at quiet
          refine ⟨sound.calm, sound.folder_lt, sound.folder_inj, ?_, ?_, ?_, ?_⟩
          · intro handler listed
            rcases List.mem_append.mp listed with listed | listed
            · exact sound.handlers handler listed
            · obtain rfl := List.mem_singleton.mp listed
              exact ⟨fun _ => rfl, nofun, nofun⟩
          · intro handler listed running
            rcases List.mem_append.mp listed with listed | listed
            · exact sound.opened handler listed running
            · obtain rfl := List.mem_singleton.mp listed
              refine ⟨sized.1, Or.inl ?_⟩
              simp [sized.2, Callback.uncounted]
          · intro j k one two oneFound twoFound oneRunning twoRunning near
            rcases mem_concat oneFound with oneOld | ⟨rfl, rfl⟩
            · rcases mem_concat twoFound with twoOld | ⟨rfl, rfl⟩
              · exact sound.apart j k one two oneOld twoOld oneRunning
                  twoRunning near
              · rw [quiet one (List.mem_of_getElem? oneOld) oneRunning] at near
                cases near
            · rcases mem_concat twoFound with twoOld | ⟨rfl, rfl⟩
              · rw [related_comm, quiet two (List.mem_of_getElem? twoOld)
                  twoRunning] at near
                cases near
              · rfl
          · intro later listed stays
            obtain ⟨other, otherListed, rfl⟩ := List.mem_map.mp listed
            split at stays
            · cases stays
            · rename_i apart
              rw [if_neg apart]
              obtain ⟨taken, idle⟩ := sound.uploads other otherListed stays
              refine ⟨taken, ?_⟩
              rw [State.busy, List.any_append, Bool.or_eq_false_iff]
              exact ⟨idle, by simpa using fun _ => apart⟩
      | statFile | statUpload | openFile | register | gone =>
          simp only [point]
          exact sound

/-- Only a file with nobody about it is renamed. -/
theorem Sound.rename (sound : Sound state) {source target : String}
    (handlersElsewhere : ∀ handler ∈ state.handlers,
      handler.point.running = true →
        handler.path ≠ source ∧ handler.path ≠ target)
    (uploadsElsewhere : ∀ upload ∈ state.uploads, upload.alone = true →
      upload.uploadPath ≠ source ∧ upload.uploadPath ≠ target) :
    Sound (state.rename source target) := by
  rw [State.rename]
  cases named : state.folder source with
  | none => exact sound
  | some file =>
      have kept : ∀ {path}, path ≠ source ∧ path ≠ target →
          Function.update (Function.update state.folder target (some file))
            source none path = state.folder path := by
        intro path other
        rw [Function.update_of_ne other.1, Function.update_of_ne other.2]
      refine ⟨sound.calm, fun name other found => ?_, ?_, sound.handlers, ?_,
        sound.apart, ?_⟩
      · simp only [Function.update_apply] at found
        split_ifs at found
        · cases found
          exact sound.folder_lt source file named
        · exact sound.folder_lt name other found
      · intro name other renamed found otherFound
        simp only [Function.update_apply] at found otherFound
        split_ifs at found otherFound with hereSource here thereSource there
          thereSource there
        · rw [here, there]
        · cases found
          exact absurd (sound.folder_inj _ _ _ named otherFound).symm
            thereSource
        · cases otherFound
          exact absurd (sound.folder_inj _ _ _ named found).symm hereSource
        · exact sound.folder_inj name other renamed found otherFound
      · intro handler listed running
        refine ⟨?_, (sound.opened handler listed running).2⟩
        exact (kept (handlersElsewhere handler listed running)).trans
          (sound.opened handler listed running).1
      · intro upload listed alone
        refine (sound.uploads upload listed alone).imp_left fun taken => ?_
        have same := kept (uploadsElsewhere upload listed alone)
        unfold Upload.Taken at taken ⊢
        dsimp only
        rw [same]
        exact taken

theorem ne_of_related_eq_false {path other : String}
    (apart : related path other = false) :
    other ≠ path ∧ other ≠ trimSuffix path ".incomplete" := by
  simp only [related, Bool.or_eq_false_iff, decide_eq_false_iff_not] at apart
  exact ⟨Ne.symm apart.1.1, Ne.symm apart.1.2⟩

theorem Handler.Account.counted {length : Nat → Nat}
    (account : handler.Account length) (going : ¬ handler.Stopped) :
    (length handler.file : Int) =
      handler.totalBytesWritten + handler.callback.uncounted :=
  account.resolve_right fun stopped => going stopped.2

/-- A handler moves on, after its upload is complete if it is a channel. -/
theorem Sound.goTo (sound : Sound state) (point : Point)
    (found : state.handlers[i]? = some handler)
    (runs : handler.point.running = true)
    (ended : handler.point.takesData = false → point.takesData = false)
    (complete : handler.kind = .channel → handler.uploadComplete = true)
    (named : point = .promoting → handler.totalBytesWritten = handler.size) :
    Sound (state.setHandler i { handler with point := point }) := by
  have member := List.mem_of_getElem? found
  refine sound.setHandler found rfl rfl (fun _ => runs)
    ⟨(sound.handlers handler member).quiet, fun kind _ => complete kind, named⟩
    (fun _ => ?_) (fun _ => Or.inl rfl)
  refine (sound.opened handler member runs).2.imp_right fun stopped =>
    ⟨stopped.1, ?_⟩
  have before := stopped.2
  unfold Handler.Stopped at before ⊢
  cases kind : handler.kind with
  | channel =>
      rw [kind] at before
      exact before
  | http =>
      rw [kind] at before
      exact ended before

/-- A handler is the only one about the file that it renames. -/
theorem Sound.promote (sound : Sound state)
    (found : state.handlers[i]? = some handler)
    (point : handler.point = .promoting)
    (complete : handler.kind = .channel → handler.uploadComplete = true) :
    Sound ((state.rename handler.path
      (trimSuffix handler.path ".incomplete")).setHandler i
        { handler with point := .deleting }) := by
  have runs : handler.point.running = true := by rw [point]; rfl
  have moved : Sound (state.setHandler i { handler with point := .deleting }) :=
    sound.goTo _ found runs (fun _ => rfl) complete nofun
  have swap : ∀ source target,
      (state.rename source target).setHandler i
          { handler with point := .deleting } =
        (state.setHandler i { handler with point := .deleting }).rename
          source target := by
    intro source target
    unfold State.rename State.setHandler
    dsimp only
    cases state.folder source with
    | none => rfl
    | some file => rfl
  rw [swap]
  refine moved.rename (fun other listed running => ?_)
    fun upload listed alone => ?_
  · obtain ⟨j, otherFound⟩ := List.mem_iff_getElem?.mp listed
    by_cases same : i = j
    · subst same
      rw [State.setHandler, List.getElem?_set_self', found] at otherFound
      cases otherFound
      cases running
    · rw [State.setHandler, List.getElem?_set_ne same] at otherFound
      refine ne_of_related_eq_false (Bool.eq_false_iff.mpr fun near => ?_)
      exact same (sound.apart i j handler other found otherFound runs running
        near)
  · exact ne_of_related_eq_false (busy_eq_false_iff.mp
      (sound.uploads upload listed alone).2 handler
        (List.mem_of_getElem? found) runs)

theorem Sound.proceedStep {renames : Bool} (sound : Sound state)
    (found : state.handlers[i]? = some handler)
    (taken : proceedStep state i handler renames = some next) : Sound next := by
  have handlerSound := sound.handlers handler (List.mem_of_getElem? found)
  have complete : handler.point.takesData = false →
      handler.kind = .channel → handler.uploadComplete = true :=
    fun ended kind => handlerSound.awake kind ended
  cases point : handler.point with
  | receiving =>
      simp only [ImageUploads.proceedStep, point] at taken
      split_ifs at taken with completed
      cases taken
      exact sound.goTo _ found (by rw [point]; rfl) (fun _ => rfl)
        (fun _ => completed.2) nofun
  | closing =>
      simp only [ImageUploads.proceedStep, point] at taken
      cases taken
      exact (sound.goTo .checking found (by rw [point]; rfl) (fun _ => rfl)
        (complete (by rw [point]; rfl)) nofun).modifyUpload
          (fun _ => ⟨rfl, rfl⟩) fun _ taken => taken
  | checking =>
      simp only [ImageUploads.proceedStep, point] at taken
      cases taken
      refine sound.goTo _ found (by rw [point]; rfl) (fun _ => ?_)
        (complete (by rw [point]; rfl)) fun reached => ?_
      · split
        · rfl
        · rfl
      · by_contra different
        rw [if_neg different] at reached
        cases reached
  | promoting =>
      have completed := complete (by rw [point]; rfl)
      simp only [ImageUploads.proceedStep, point] at taken
      cases taken
      cases renames with
      | false =>
          exact sound.goTo _ found (by rw [point]; rfl) (fun _ => rfl) completed
            nofun
      | true => exact sound.promote found point completed
  | deleting =>
      simp only [ImageUploads.proceedStep, point] at taken
      cases taken
      have finished :
          Sound (state.setHandler i { handler with point := .finished }) :=
        sound.setHandler found rfl rfl nofun ⟨handlerSound.quiet,
          fun kind _ => complete (by rw [point]; rfl) kind, nofun⟩ nofun
          fun _ => Or.inl rfl
      exact finished.modifyUpload (fun _ => ⟨rfl, rfl⟩) fun _ _ => trivial
  | writing | finished =>
      simp only [ImageUploads.proceedStep, point] at taken
      cases taken

theorem afterRead_ne_promoting (length : Nat) (result : ReadResult) :
    afterRead length result ≠ .promoting := by
  cases result with
  | failed => simp [afterRead]
  | eof | more =>
      rw [afterRead]
      split_ifs
      all_goals simp

theorem running_of_takesData {point : Point} (taking : point.takesData = true) :
    point.running = true := by
  cases point with
  | receiving | writing => rfl
  | closing | checking | promoting | deleting | finished => cases taking

/-- What a write that fails has put into the file. -/
theorem eq_zero_of_intact {length count : Nat} {failsAfter : Option Nat}
    (written : state.written handler length failsAfter = (count, false))
    (intact : handler.Intact failsAfter) :
    count = 0 ∨ handler.totalBytesWritten ≠ handler.size := by
  by_cases whole : handler.totalBytesWritten = handler.size
  · refine Or.inl ?_
    have none := intact whole
    unfold State.written at written
    split_ifs at written
    · cases written
      rfl
    · split at written
      · cases written
      · cases written
        rw [Option.getD_some] at none
        rw [none, Nat.zero_min]
  · exact Or.inr whole

/-- A handler that still takes data writes to its file. -/
theorem Sound.write (sound : Sound state) (count : Nat)
    (found : state.handlers[i]? = some handler)
    (taking : handler.point.takesData = true)
    (path : changed.path = handler.path) (file : changed.file = handler.file)
    (changedSound : changed.Sound)
    (account : changed.Account (state.append handler.file count).length) :
    Sound ((state.append handler.file count).setHandler i changed) := by
  have runs := running_of_takesData taking
  refine sound.setHandler found path file (fun _ => runs) changedSound
    (fun _ => account) fun other => ?_
  by_cases same : other = handler.file
  · exact Or.inr ⟨runs, same⟩
  · exact Or.inl (Function.update_of_ne same _ _)

theorem length_append_self (state : State) (file count : Nat) :
    ((state.append file count).length file : Int) =
      state.length file + count := by
  change (Function.update state.length file _ file : Int) = _
  rw [Function.update_self]
  push_cast
  rfl

theorem Sound.handlerStep (sound : Sound state)
    (found : state.handlers[i]? = some handler)
    (undisturbed : Undisturbed state label) (named : label.handler = some i)
    (taken : handlerStep state i handler label = some next) : Sound next := by
  have member := List.mem_of_getElem? found
  have handlerSound := sound.handlers handler member
  have opened := sound.opened handler member
  cases label with
  | message j length failsAfter =>
      obtain rfl := Option.some.inj named
      obtain ⟨incomplete, intact⟩ := undisturbed handler found
      simp only [ImageUploads.handlerStep] at taken
      split_ifs at taken with enabled
      obtain ⟨kind, idle, -⟩ := enabled
      have taking : handler.point.takesData = true := by
        by_contra ended
        rw [handlerSound.awake kind (Bool.eq_false_iff.mpr ended)] at incomplete
        cases incomplete
      have counted := (opened (running_of_takesData taking)).2.counted
        (by simp [Handler.Stopped, kind, idle, incomplete])
      have requests : ∀ {callback : Callback},
          handler.uploadComplete = true ∨ handler.kind = .http →
            callback = .idle := by
        rintro callback (complete | http)
        · rw [incomplete] at complete
          cases complete
        · rw [kind] at http
          cases http
      rw [idle] at counted
      split at taken
      · rename_i count written
        cases taken
        refine sound.write count found taking rfl rfl
          ⟨requests, handlerSound.awake, handlerSound.named⟩ (Or.inl ?_)
        rw [length_append_self, counted]
        simp [Callback.uncounted]
      · rename_i count written
        cases taken
        refine sound.write count found taking rfl rfl
          ⟨requests, handlerSound.awake, handlerSound.named⟩ ?_
        rcases eq_zero_of_intact written intact with rfl | other
        · refine Or.inl ?_
          rw [length_append_self, counted]
          simp [Callback.uncounted]
        · exact Or.inr ⟨other, by simp [Handler.Stopped, kind]⟩
  | count j =>
      simp only [ImageUploads.handlerStep] at taken
      -- a callback that has something to count belongs to an open channel
      have running : handler.callback ≠ .idle → handler.kind = .channel ∧
          handler.uploadComplete = false := by
        intro busy
        refine ⟨?_, ?_⟩
        · cases kind : handler.kind with
          | channel => rfl
          | http => exact absurd (handlerSound.quiet (.inr kind)) busy
        · cases complete : handler.uploadComplete with
          | false => rfl
          | true => exact absurd (handlerSound.quiet (.inl complete)) busy
      have receiving : handler.callback ≠ .idle →
          handler.point ≠ .promoting := by
        intro busy reached
        have := handlerSound.awake (running busy).1 (by rw [reached]; rfl)
        rw [(running busy).2] at this
        cases this
      split at taken
      · cases taken
      · rename_i bytesWritten wrote
        have busy : handler.callback ≠ .idle := by simp [wrote]
        have account : ∀ uploadComplete, handler.point.running = true →
            Handler.Account
              { handler with
                totalBytesWritten := handler.totalBytesWritten + bytesWritten
                callback := .idle
                uploadComplete := uploadComplete } state.length := by
          intro uploadComplete runs
          have counted := (opened runs).2.counted (by
            simp [Handler.Stopped, (running busy).1, (running busy).2, wrote])
          rw [wrote] at counted
          refine Or.inl (counted.trans ?_)
          simp [Callback.uncounted]
        split_ifs at taken with enough
        · cases taken
          rw [State.complete, if_neg (by simp [(running busy).2])]
          exact sound.setHandler found rfl rfl id ⟨fun _ => rfl, fun _ _ => rfl,
            fun reached => absurd reached (receiving busy)⟩ (account true)
            fun _ => Or.inl rfl
        · cases taken
          exact sound.setHandler found rfl rfl id ⟨fun _ => rfl,
            handlerSound.awake, fun reached => absurd reached (receiving busy)⟩
            (account handler.uploadComplete) fun _ => Or.inl rfl
      · rename_i failed
        have busy : handler.callback ≠ .idle := by simp [failed]
        cases taken
        rw [State.complete, if_neg (by simp [(running busy).2])]
        refine sound.setHandler found rfl rfl id ⟨fun _ => rfl, fun _ _ => rfl,
          fun reached => absurd reached (receiving busy)⟩ (fun runs => ?_)
          fun _ => Or.inl rfl
        have account := (opened runs).2
        rw [Handler.Account, failed] at account
        exact account.imp_right fun stopped =>
          ⟨stopped.1, by simp [Handler.Stopped, (running busy).1]⟩
  | read j length result =>
      simp only [ImageUploads.handlerStep] at taken
      split_ifs at taken with enabled
      cases taken
      obtain ⟨kind, point, -⟩ := enabled
      refine sound.goTo _ found (by rw [point]; rfl) (fun ended => ?_)
        (fun channel => ?_) fun reached =>
          absurd reached (afterRead_ne_promoting length result)
      · rw [point] at ended
        cases ended
      · rw [kind] at channel
        cases channel
  | write j failsAfter =>
      obtain rfl := Option.some.inj named
      have intact := undisturbed handler found
      simp only [ImageUploads.handlerStep] at taken
      split at taken
      · rename_i length eof kind writing
        have request : handler.kind = .channel →
            handler.uploadComplete = true := by
          intro channel
          rw [kind] at channel
          cases channel
        have taking : handler.point.takesData = true := by rw [writing]; rfl
        have counted := (opened (running_of_takesData taking)).2.counted
          (by simp [Handler.Stopped, kind, taking])
        split at taken
        · rename_i count written
          cases taken
          refine sound.write count found taking rfl rfl ⟨handlerSound.quiet,
            fun channel _ => request channel, ?_⟩ (Or.inl ?_)
          · intro reached
            cases eof with
            | true => cases reached
            | false => cases reached
          · rw [length_append_self, counted]
            dsimp only
            omega
        · rename_i count written
          cases taken
          refine sound.write count found taking rfl rfl ⟨handlerSound.quiet,
            fun channel _ => request channel, nofun⟩ ?_
          rcases eq_zero_of_intact written intact with rfl | other
          · refine Or.inl ?_
            rw [length_append_self, counted]
            dsimp only
            omega
          · exact Or.inr ⟨other, by simp [Handler.Stopped, kind,
              Point.takesData]⟩
      · cases taken
  | proceed j renames => exact sound.proceedStep found taken
  | start | advance | open' => cases named

theorem Sound.step (sound : Sound state) (undisturbed : Undisturbed state label)
    (taken : step state label = some next) : Sound next := by
  rw [ImageUploads.step, sound.calm] at taken
  replace taken : move state label = some next := taken
  have ofHandler : ∀ {label : Label}, Undisturbed state label → (do
      let i ← label.handler
      let handler ← state.handlers[i]?
      ImageUploads.handlerStep state i handler label) = some next →
        Sound next := by
    intro label undisturbed taken
    obtain ⟨i, named, taken⟩ := Option.bind_eq_some_iff.mp taken
    obtain ⟨handler, found, taken⟩ := Option.bind_eq_some_iff.mp taken
    exact sound.handlerStep found undisturbed named taken
  cases label with
  | start filename size =>
      cases taken
      exact sound.startCall filename size
  | advance i opens =>
      obtain ⟨upload, found, taken⟩ := Option.bind_eq_some_iff.mp taken
      exact sound.startStep found taken
  | open' i kind =>
      cases taken
      exact sound.openStep undisturbed
  | message | count | read | write | proceed =>
      exact ofHandler undisturbed taken

theorem sound_initial (images : List (String × Nat)) :
    Sound (initial images) where
  calm := rfl
  folder_lt := by
    intro name file found
    obtain ⟨inside, -⟩ := List.findIdx?_eq_some_iff_getElem.mp found
    exact inside
  folder_inj := by
    intro name other file found otherFound
    obtain ⟨inside, named, -⟩ := List.findIdx?_eq_some_iff_getElem.mp found
    obtain ⟨_, otherNamed, -⟩ :=
      List.findIdx?_eq_some_iff_getElem.mp otherFound
    exact (of_decide_eq_true named).symm.trans (of_decide_eq_true otherNamed)
  handlers := fun handler listed => absurd listed List.not_mem_nil
  opened := fun handler listed => absurd listed List.not_mem_nil
  apart := fun i j handler other found =>
    absurd (List.mem_of_getElem? found) List.not_mem_nil
  uploads := fun upload listed => absurd listed List.not_mem_nil

/-- A handler that renames a file has counted all its bytes, and no other takes
data for it. -/
theorem Sound.whole {file : Nat} (sound : Sound state)
    (renames : promoted state label = some (handler, file)) :
    Whole state handler file := by
  cases label with
  | proceed i renamed =>
      cases renamed with
      | false => cases renames
      | true =>
          obtain ⟨other, found, renames⟩ := Option.bind_eq_some_iff.mp renames
          split_ifs at renames with point
          obtain ⟨named, folder, renames⟩ := Option.bind_eq_some_iff.mp renames
          cases renames
          have member := List.mem_of_getElem? found
          have runs : handler.point.running = true := by rw [point]; rfl
          have handlerSound := sound.handlers handler member
          obtain ⟨opened, account⟩ := sound.opened handler member runs
          obtain rfl := Option.some.inj (opened.symm.trans folder)
          have declared := handlerSound.named point
          refine ⟨?_, fun other listed writing shared => ?_⟩
          · have counted := account.resolve_right fun stopped =>
              stopped.1 declared
            rw [handlerSound.idle (by rw [point]; rfl), declared] at counted
            simpa [Callback.uncounted] using counted
          · obtain ⟨j, otherFound⟩ := List.mem_iff_getElem?.mp listed
            obtain rfl := sound.only found otherFound runs
              (running_of_takesData writing.1) shared
            obtain rfl := Option.some.inj (found.symm.trans otherFound)
            have taking := writing.1
            rw [point] at taking
            cases taking
  | start | advance | open' | message | count | read | write => cases renames

theorem Sound.renamesWhole (sound : Sound state) : RenamesWhole state label :=
  fun _ found => sound.whole found

/-- In a run in which the uploads of one file do not overlap, no message comes
after its upload is complete and no write fails partway once the declared bytes
are there, only whole files are renamed and no handler panics. -/
theorem renamesWhole_of_undisturbed (images : List (String × Nat))
    (labels : List Label)
    (undisturbed : AllSteps step Undisturbed (initial images) labels) :
    AllSteps step RenamesWhole (initial images) labels ∧
      AllStates step (fun state => state.panicked = false) (initial images)
        labels := by
  have sound : Sound (initial images) := sound_initial images
  refine ⟨allSteps_of_allSteps Sound.step
    (fun sound _ _ => sound.renamesWhole) sound
    undisturbed, ?_⟩
  exact (allStates_of_allSteps Sound.step sound undisturbed).mono
    fun _ => Sound.calm

/-- A call of `rpcStartStorageFileUpload` up to its end -/
def started (upload : Nat) : List Label :=
  List.replicate 4 (.advance upload true)

/-- The rest of a handler once it has its data -/
def ended (handler moves : Nat) : List Label :=
  List.replicate moves (.proceed handler true)

/-- An upload over a data channel that is broken off, and resumed by a
request. -/
def resumedUpload : List Label :=
  .start "a.iso" 6 :: started 0 ++
    [.open' 0 .channel, .message 0 4 none, .count 0, .message 0 2 (some 0),
      .count 0] ++ ended 0 4 ++
    .start "a.iso" 6 :: started 1 ++
    [.open' 1 .http, .read 1 2 .more, .write 1 none, .read 1 0 .eof] ++
    ended 1 4

theorem resumedUpload_renamesWhole :
    (exec step (initial [("b.img", 512)]) resumedUpload).bind
        (fun last => last.folder (imagePath "a.iso")) = some 1 ∧
      AllSteps step RenamesWhole (initial [("b.img", 512)]) resumedUpload ∧
      AllStates step (fun state => state.panicked = false)
        (initial [("b.img", 512)]) resumedUpload :=
  ⟨by decide, renamesWhole_of_undisturbed _ resumedUpload (by decide)⟩

/-- Two uploads of one file, each of one byte: one is renamed while the other
has written its byte as well. -/
def overlappingUploads : List Label :=
  .start "a.iso" 1 :: started 0 ++ .start "a.iso" 1 :: started 1 ++
    [.open' 0 .channel, .open' 1 .channel, .message 1 1 none,
      .message 0 1 none, .count 0] ++ ended 0 4

/-- A client that sends one byte more than it declared. -/
def extraMessage : List Label :=
  .start "a.iso" 1 :: started 0 ++
    [.open' 0 .channel, .message 0 1 none, .count 0, .message 0 1 none,
      .count 0]

theorem overlappingUploads_extraMessage :
    (¬ ∀ (images : List (String × Nat)) (labels : List Label),
      AllSteps step RenamesWhole (initial images) labels) ∧
    ¬ ∀ (images : List (String × Nat)) (labels : List Label),
      AllStates step (fun state => state.panicked = false) (initial images)
        labels := by
  refine ⟨fun claimed => ?_, fun claimed => ?_⟩
  · exact absurd (claimed [] overlappingUploads) (by decide)
  · exact absurd (claimed [] extraMessage) (by decide)

end ImageUploads

end JetKvm
