import JetKvm.VirtualMedia
import JetKvm.ImageUploads

/-!
# Paths of images

What the calls of `usb_mass_storage.go` that are given the name of an image ask
of the file system. A call is that of `VirtualMedia`, with each operation on a
path or on an embedded image recorded, also when it fails; the attributes of the
USB gadget other than the image of the LUN have paths of their own.
-/

namespace JetKvm

namespace ImagePaths

open VirtualMedia hiding State step Request Request.call
open ImageUploads (trimSuffix)
open Filepath Fallible

inductive Operation where
  | mkdirAll (path : String)
  | stat (path : String)
  | create (path : String)
  | append (path : String)
  | remove (path : String)
  | rename (path newName : String)
  | writeImage (imagePath : String)
  | openResource (name : String)
  deriving DecidableEq, Repr

/-- `pendingUpload`, with the path that its file was opened by -/
structure PendingUpload where
  file : String
  size : Int
  alreadyUploadedBytes : Int
  deriving DecidableEq, Repr

structure Session where
  media : VirtualMedia.State := {}
  operations : List Operation := []
  pendingUploads : List (String × PendingUpload) := []

abbrev FileCall (Value : Type) := Fallible Failure Session Value

def record (operation : Operation) : FileCall Unit :=
  modify fun session =>
    { session with operations := session.operations ++ [operation] }

def onMedia (call : MediaCall) : FileCall Unit :=
  within Session.media (fun media session => { session with media := media })
    call

/-- `os.Stat` finds the file, knows that there is none or fails otherwise. -/
inductive Stat where
  | found (size : Int)
  | notExist
  | failed
  deriving DecidableEq, Repr

/-- What `rpcStartStorageFileUpload` meets outside -/
structure UploadStart where
  stat : Stat := .notExist
  statUpload : Stat := .notExist
  uuid : String := ""
  openFile : VirtualMedia.Outcome := .ok ()

structure StorageFileUpload where
  alreadyUploadedBytes : Int
  dataChannel : String
  deriving DecidableEq, Repr

section Calls

variable (truncates : Bool)

def setMassStorageImage (imagePath : String) (write : VirtualMedia.Outcome) :
    FileCall Unit := do
  record (.writeImage imagePath)
  onMedia (VirtualMedia.setMassStorageImage truncates imagePath write)

def mountImage (imagePath : String) (writes : ImageWrites) : FileCall Unit := do
  wrapping (.wrap "remove mass storage image error")
    (setMassStorageImage truncates "" writes.remove)
  wrapping (.wrap "set mass storage image error")
    (setMassStorageImage truncates imagePath writes.set)
  wrapping (.wrap "set Mass Storage Image Error")
    (setMassStorageImage truncates imagePath writes.setAgain)

def rpcMountBuiltInImage (filename : String) (builtIn : BuiltIn) :
    FileCall Unit := do
  record (.mkdirAll imagesFolder)
  wrapping (.wrap "failed to create images folder") (answer builtIn.folder)
  let filename ←
    wrapping (.wrap "invalid filename") (answer (sanitizeFilename filename))
  record (.stat (imagePath filename))
  if builtIn.stat then
    mountImage truncates (imagePath filename) builtIn.writes
  else
    record (.openResource filename)
    wrapping (.wrap ("image " ++ filename ++ " not found in built-in resources"))
      (answer builtIn.open')
    record (.create (imagePath filename))
    wrapping (.wrap "failed to create image file") (answer builtIn.create)
    wrapping (.wrap "failed to write image file") (answer builtIn.copy)
    mountImage truncates (imagePath filename) builtIn.writes

def prepareStorageMount (filename : String) (mode : VirtualMediaMode)
    (size : Except Failure Int) (change : ModeChange)
    (write : VirtualMedia.Outcome) :
    FileCall Unit := do
  let session ← get
  if session.media.currentVirtualMediaState.isSome then
    throw { message := "another virtual media is already mounted" }
  else
    record (.stat (imagePath filename))
    let n ← wrapping (.wrap "failed to get file info") (answer size)
    wrapping (.wrap "failed to set mass storage mode")
      (onMedia (setMassStorageMode truncates (mode = CDROM) change))
    wrapping (.wrap "failed to set mass storage image")
      (setMassStorageImage truncates (imagePath filename) write)
    onMedia (modify fun state =>
      { state with
        currentVirtualMediaState :=
          some { source := .Storage, mode := mode, filename := filename
                 size := n } })

def rpcMountWithStorage (filename : String) (mode : VirtualMediaMode)
    (size : Except Failure Int) (change : ModeChange)
    (write : VirtualMedia.Outcome) :
    FileCall Unit := do
  let filename ← answer (sanitizeFilename filename)
  prepareStorageMount truncates filename mode size change write

/-- The failure to delete is reported by its text only. -/
def rpcDeleteStorageFile (filename : String) (stat : Stat)
    (remove : VirtualMedia.Outcome) : FileCall Unit := do
  let sanitizedFilename ← answer (sanitizeFilename filename)
  record (.stat (imagePath sanitizedFilename))
  if stat = .notExist then
    throw { message := "file does not exist: " ++ filename }
  else
    record (.remove (imagePath sanitizedFilename))
    wrapping (fun err => { message := "failed to delete file: " ++ err.message })
      (answer remove)

def uploadIdPrefix : String := "upload_"

def Stat.size : Stat → Int
  | .found size => size
  | .notExist | .failed => 0

def rpcStartStorageFileUpload (filename : String) (size : Int)
    (outside : UploadStart) : FileCall StorageFileUpload := do
  let sanitizedFilename ← answer (sanitizeFilename filename)
  let filePath := imagePath sanitizedFilename
  let uploadPath := filePath ++ ".incomplete"
  record (.stat filePath)
  match outside.stat with
  | .found _ =>
      throw { message := "file already exists: " ++ sanitizedFilename }
  | .notExist | .failed =>
      record (.stat uploadPath)
      let uploadId := uploadIdPrefix ++ outside.uuid
      record (.append uploadPath)
      wrapping
        (fun err =>
          { message := "failed to open file for upload: " ++ err.message })
        (answer outside.openFile)
      modify fun session =>
        { session with
          pendingUploads :=
            (uploadId,
              { file := uploadPath, size := size
                alreadyUploadedBytes := outside.statUpload.size }) ::
            session.pendingUploads.filter (·.1 ≠ uploadId) }
      pure
        { alreadyUploadedBytes := outside.statUpload.size
          dataChannel := uploadId }

/-- The end of `handleUploadChannel` or `handleUploadHttp`; a failure to rename
is only logged. -/
def endUpload (uploadId : String) (totalBytesWritten : Int) :
    FileCall Unit := do
  let session ← get
  match session.pendingUploads.lookup uploadId with
  | none => pure ()
  | some pendingUpload =>
      onlyIf (totalBytesWritten = pendingUpload.size)
        (record (.rename pendingUpload.file
          (trimSuffix pendingUpload.file ".incomplete")))
      modify fun session =>
        { session with
          pendingUploads := session.pendingUploads.filter (·.1 ≠ uploadId) }

end Calls

/-- A call with the name of an image, and what it is going to meet -/
inductive Request where
  | mountBuiltInImage (filename : String) (builtIn : BuiltIn)
  | mountWithStorage (filename : String) (mode : VirtualMediaMode)
      (size : Except Failure Int) (change : ModeChange)
      (write : VirtualMedia.Outcome)
  | deleteStorageFile (filename : String) (stat : Stat)
      (remove : VirtualMedia.Outcome)
  | startStorageFileUpload (filename : String) (size : Int)
      (outside : UploadStart)

def Request.filename : Request → String
  | .mountBuiltInImage filename _ => filename
  | .mountWithStorage filename _ _ _ _ => filename
  | .deleteStorageFile filename _ _ => filename
  | .startStorageFileUpload filename _ _ => filename

def Request.call (truncates : Bool) : Request → FileCall Unit
  | .mountBuiltInImage filename builtIn =>
      rpcMountBuiltInImage truncates filename builtIn
  | .mountWithStorage filename mode size change write =>
      rpcMountWithStorage truncates filename mode size change write
  | .deleteStorageFile filename stat remove =>
      rpcDeleteStorageFile filename stat remove
  | .startStorageFileUpload filename size outside => do
      let _ ← rpcStartStorageFileUpload filename size outside
      pure ()

/-! ## What the calls touch -/

/-- The path of the entry, or that of its upload -/
def IsChild (name path : String) : Prop :=
  path = imagesFolder ++ "/" ++ name ∨
    path = imagesFolder ++ "/" ++ name ++ ".incomplete"

def Operation.Within (name : String) : Operation → Prop
  | .mkdirAll path => path = imagesFolder
  | .stat path | .create path | .append path | .remove path =>
      IsChild name path
  | .rename path newName => IsChild name path ∧ IsChild name newName
  | .writeImage image => image = "" ∨ IsChild name image
  | .openResource resource => resource = name

/-- The call fails when it has done no more than to create the folder, or what
it does is to the entry of the folder that its file name is sanitized to. -/
def Confined (truncates : Bool) (request : Request) (session : Session) : Prop :=
  ∃ added,
    ((request.call truncates).after session).operations =
        session.operations ++ added ∧
      ((∃ failure next,
          request.call truncates session = .error failure next) ∧
          (∀ operation ∈ added, operation = .mkdirAll imagesFolder) ∨
        ∃ name, sanitizeFilename request.filename = .ok name ∧
          IsElement name ∧ ∀ operation ∈ added, Operation.Within name operation)

/-- What was done since, and the uploads that were started, are of the entry. -/
structure Extends (start : Session) (name : String) (session : Session) :
    Prop where
  operations : ∃ added, session.operations = start.operations ++ added ∧
    ∀ operation ∈ added, Operation.Within name operation
  uploads : ∀ upload ∈ session.pendingUploads,
    upload ∈ start.pendingUploads ∨
      upload.2.file = imagesFolder ++ "/" ++ name ++ ".incomplete"

section Extends

variable {start : Session} {name : String}

theorem extends_self : Extends start name start :=
  ⟨⟨[], (List.append_nil _).symm, List.forall_mem_nil _⟩,
    fun _ present => .inl present⟩

theorem keeps_record {operation : Operation}
    (within : Operation.Within name operation) :
    Keeps (Extends start name) (record operation) := by
  refine keeps_modify fun session => ?_
  rintro ⟨⟨added, same, all⟩, uploads⟩
  refine ⟨⟨added ++ [operation], by simp [same], ?_⟩, uploads⟩
  exact List.forall_mem_append.mpr ⟨all, by simpa using within⟩

theorem keeps_record_bind {Value : Type} {operation : Operation}
    {next : Unit → FileCall Value} (within : Operation.Within name operation)
    (rest : Keeps (Extends start name) (next ())) :
    Keeps (Extends start name) (record operation >>= next) :=
  (keeps_record within).bind fun _ => rest

theorem keeps_onMedia (call : MediaCall) :
    Keeps (Extends start name) (onMedia call) :=
  keeps_within call fun _ _ held => ⟨held.operations, held.uploads⟩

variable (truncates : Bool)

theorem keeps_setMassStorageImage {image : String} (write : VirtualMedia.Outcome)
    (child : image = "" ∨ IsChild name image) :
    Keeps (Extends start name) (setMassStorageImage truncates image write) :=
  keeps_record_bind child (keeps_onMedia _)

theorem keeps_mountImage {image : String} (writes : ImageWrites)
    (child : IsChild name image) :
    Keeps (Extends start name) (mountImage truncates image writes) := by
  refine ((keeps_setMassStorageImage truncates _ (.inl rfl)).wrapping _).bind
    fun _ => ?_
  refine ((keeps_setMassStorageImage truncates _ (.inr child)).wrapping _).bind
    fun _ => ?_
  exact (keeps_setMassStorageImage truncates _ (.inr child)).wrapping _

theorem isChild_imagePath (element : IsElement name) :
    IsChild name (imagePath name) := .inl (imagePath_eq element)

theorem isChild_uploadPath (element : IsElement name) :
    IsChild name (imagePath name ++ ".incomplete") :=
  .inr (congrArg (· ++ ".incomplete") (imagePath_eq element))

variable {filename : String}

theorem keeps_rpcMountBuiltInImage
    (accepted : sanitizeFilename filename = .ok name) (builtIn : BuiltIn) :
    Keeps (Extends start name)
      (rpcMountBuiltInImage truncates filename builtIn) := by
  have child := isChild_imagePath (sanitizeFilename_eq_ok accepted).1
  rw [rpcMountBuiltInImage, accepted]
  refine keeps_record_bind rfl ?_
  refine ((keeps_answer _).wrapping _).bind fun _ => ?_
  change Keeps _ (record (.stat (imagePath name)) >>= fun _ => _)
  refine keeps_record_bind child ?_
  refine (keeps_mountImage truncates _ child).ite ?_
  refine keeps_record_bind rfl ?_
  refine ((keeps_answer _).wrapping _).bind fun _ => ?_
  refine keeps_record_bind child ?_
  refine ((keeps_answer _).wrapping _).bind fun _ => ?_
  exact ((keeps_answer _).wrapping _).bind fun _ =>
    keeps_mountImage truncates _ child

theorem keeps_rpcMountWithStorage
    (accepted : sanitizeFilename filename = .ok name) (mode : VirtualMediaMode)
    (size : Except Failure Int) (change : ModeChange)
    (write : VirtualMedia.Outcome) :
    Keeps (Extends start name)
      (rpcMountWithStorage truncates filename mode size change write) := by
  have child := isChild_imagePath (sanitizeFilename_eq_ok accepted).1
  rw [rpcMountWithStorage, accepted]
  change Keeps _ (prepareStorageMount truncates name mode size change write)
  refine keeps_get_bind fun session => (keeps_throw _).ite ?_
  refine keeps_record_bind child ?_
  refine ((keeps_answer _).wrapping _).bind fun n => ?_
  refine ((keeps_onMedia _).wrapping _).bind fun _ => ?_
  exact ((keeps_setMassStorageImage truncates _ (.inr child)).wrapping _).bind
    fun _ => keeps_onMedia _

theorem keeps_rpcDeleteStorageFile
    (accepted : sanitizeFilename filename = .ok name) (stat : Stat)
    (remove : VirtualMedia.Outcome) :
    Keeps (Extends start name) (rpcDeleteStorageFile filename stat remove) := by
  have child := isChild_imagePath (sanitizeFilename_eq_ok accepted).1
  rw [rpcDeleteStorageFile, accepted]
  change Keeps _ (record (.stat (imagePath name)) >>= fun _ => _)
  refine keeps_record_bind child ((keeps_throw _).ite ?_)
  exact keeps_record_bind child ((keeps_answer _).wrapping _)

theorem keeps_rpcStartStorageFileUpload
    (accepted : sanitizeFilename filename = .ok name) (size : Int)
    (outside : UploadStart) :
    Keeps (Extends start name)
      (rpcStartStorageFileUpload filename size outside) := by
  have child := isChild_imagePath (sanitizeFilename_eq_ok accepted).1
  have upload := isChild_uploadPath (sanitizeFilename_eq_ok accepted).1
  rw [rpcStartStorageFileUpload, accepted]
  change Keeps _ (record (.stat (imagePath name)) >>= fun _ => _)
  refine keeps_record_bind child ?_
  split
  · exact keeps_throw _
  all_goals
    refine keeps_record_bind upload ?_
    refine keeps_record_bind upload ?_
    refine ((keeps_answer _).wrapping _).bind fun _ => ?_
    refine Keeps.bind (keeps_modify fun session held => ?_) fun _ =>
      keeps_pure _
    refine ⟨held.operations, List.forall_mem_cons.mpr ⟨.inr ?_, ?_⟩⟩
    · exact congrArg (· ++ ".incomplete")
        (imagePath_eq (sanitizeFilename_eq_ok accepted).1)
    · exact fun upload kept => held.uploads upload (List.mem_filter.mp kept).1

/-- Whatever a call does once the name is accepted is to that entry. -/
theorem keeps_call {request : Request}
    (accepted : sanitizeFilename request.filename = .ok name) :
    Keeps (Extends start name) (request.call truncates) := by
  cases request with
  | mountBuiltInImage _ builtIn =>
      exact keeps_rpcMountBuiltInImage truncates accepted builtIn
  | mountWithStorage _ mode size change write =>
      exact keeps_rpcMountWithStorage truncates accepted mode size change write
  | deleteStorageFile _ stat remove =>
      exact keeps_rpcDeleteStorageFile accepted stat remove
  | startStorageFileUpload _ size outside =>
      exact (keeps_rpcStartStorageFileUpload accepted size outside).bind
        fun _ => keeps_pure _

end Extends

/-- A name that is not accepted is an error, after the folder was created for
one of the calls. -/
theorem call_of_rejected {truncates : Bool} {request : Request}
    {failure : Failure}
    (rejected : sanitizeFilename request.filename = .error failure)
    (session : Session) :
    ∃ reported added, request.call truncates session =
        .error reported
          { session with operations := session.operations ++ added } ∧
      ∀ operation ∈ added, operation = .mkdirAll imagesFolder := by
  cases request with
  | mountBuiltInImage filename builtIn =>
      change sanitizeFilename filename = _ at rejected
      rw [Request.call, rpcMountBuiltInImage, rejected]
      cases builtIn.folder with
      | ok _ => exact ⟨_, [.mkdirAll imagesFolder], rfl, by simp⟩
      | error _ => exact ⟨_, [.mkdirAll imagesFolder], rfl, by simp⟩
  | mountWithStorage filename =>
      change sanitizeFilename filename = _ at rejected
      rw [Request.call, rpcMountWithStorage, rejected]
      exact ⟨_, [], by rw [List.append_nil]; rfl, List.forall_mem_nil _⟩
  | deleteStorageFile filename =>
      change sanitizeFilename filename = _ at rejected
      rw [Request.call, rpcDeleteStorageFile, rejected]
      exact ⟨_, [], by rw [List.append_nil]; rfl, List.forall_mem_nil _⟩
  | startStorageFileUpload filename =>
      change sanitizeFilename filename = _ at rejected
      rw [Request.call, rpcStartStorageFileUpload, rejected]
      exact ⟨_, [], by rw [List.append_nil]; rfl, List.forall_mem_nil _⟩

theorem confined_call (truncates : Bool) (request : Request)
    (session : Session) : Confined truncates request session := by
  cases judged : sanitizeFilename request.filename with
  | error failure =>
      obtain ⟨reported, added, fails, creates⟩ :=
        @call_of_rejected truncates _ _ judged session
      refine ⟨added, ?_, .inl ⟨⟨reported, _, fails⟩, creates⟩⟩
      rw [Fallible.after, fails]
  | ok name =>
      obtain ⟨added, same, within⟩ :=
        (keeps_call truncates judged session extends_self).after.operations
      exact ⟨added, same,
        .inr ⟨name, judged, (sanitizeFilename_eq_ok judged).1, within⟩⟩

/-! ## Runs -/

/-- A call, or the end of an upload -/
inductive Event where
  | request (asked : Request)
  | endUpload (uploadId : String) (totalBytesWritten : Int)

def Event.call (truncates : Bool) : Event → FileCall Unit
  | .request asked => asked.call truncates
  | .endUpload uploadId totalBytesWritten =>
      ImagePaths.endUpload uploadId totalBytesWritten

def run (truncates : Bool) (session : Session) (events : List Event) :
    Session :=
  events.foldl (fun session event => (event.call truncates).after session)
    session

/-- All that was done and all that is being uploaded is of entries. -/
structure InFolder (session : Session) : Prop where
  operations : ∀ operation ∈ session.operations,
    ∃ name, IsElement name ∧ Operation.Within name operation
  uploads : ∀ upload ∈ session.pendingUploads, ∃ name, IsElement name ∧
    upload.2.file = imagesFolder ++ "/" ++ name ++ ".incomplete"

theorem trimSuffix_append (front suffix : String) :
    trimSuffix (front ++ suffix) suffix = front := by
  rw [trimSuffix, if_pos (by simp), ← String.toList_inj, String.toList_ofList,
    String.toList_append, String.length_append, Nat.add_sub_cancel]
  exact List.take_left' String.length_toList

section Runs

variable {session : Session} {truncates : Bool}

theorem Extends.inFolder {name : String} {next : Session}
    (extended : Extends session name next) (element : IsElement name)
    (held : InFolder session) : InFolder next := by
  obtain ⟨⟨added, same, within⟩, uploads⟩ := extended
  constructor
  · rw [same]
    exact List.forall_mem_append.mpr ⟨held.operations, fun operation here =>
      ⟨name, element, within operation here⟩⟩
  · intro upload present
    rcases uploads upload present with old | new
    · exact held.uploads upload old
    · exact ⟨name, element, new⟩

theorem InFolder.request (held : InFolder session) (request : Request) :
    InFolder ((request.call truncates).after session) := by
  cases judged : sanitizeFilename request.filename with
  | error failure =>
      obtain ⟨reported, added, fails, creates⟩ :=
        @call_of_rejected truncates _ _ judged session
      rw [Fallible.after, fails]
      refine ⟨List.forall_mem_append.mpr ⟨held.operations, ?_⟩, held.uploads⟩
      intro operation present
      rw [creates operation present]
      exact ⟨"any", by decide, rfl⟩
  | ok name =>
      exact (keeps_call truncates judged session extends_self).after.inFolder
        (sanitizeFilename_eq_ok judged).1 held

theorem InFolder.endUpload (held : InFolder session) (uploadId : String)
    (totalBytesWritten : Int) :
    InFolder ((endUpload uploadId totalBytesWritten).after session) := by
  refine Ends.after ?_
  rw [ImagePaths.endUpload, ends_bind, ends_get]
  cases found : session.pendingUploads.lookup uploadId with
  | none => exact held
  | some upload =>
      obtain ⟨front, back, here, -⟩ := List.lookup_eq_some_iff.mp found
      obtain ⟨name, element, path⟩ :=
        held.uploads (uploadId, upload) (by simp [here])
      have renamed : Operation.Within name
          (.rename upload.file (trimSuffix upload.file ".incomplete")) := by
        refine ⟨.inr path, .inl ?_⟩
        rw [path, trimSuffix_append]
      have others : ∀ other ∈ session.pendingUploads.filter (·.1 ≠ uploadId),
          ∃ name, IsElement name ∧
            other.2.file = imagesFolder ++ "/" ++ name ++ ".incomplete" :=
        fun other kept => held.uploads other (List.mem_filter.mp kept).1
      rw [ends_bind, ends_onlyIf]
      refine ⟨fun _ => ⟨?_, others⟩, fun _ => ⟨held.operations, others⟩⟩
      exact List.forall_mem_append.mpr ⟨held.operations,
        by simpa using ⟨name, element, renamed⟩⟩

/-- Over any run, the calls and the uploads they start stay in the folder. -/
theorem InFolder.run (held : InFolder session) (events : List Event) :
    InFolder (run truncates session events) := by
  induction events generalizing session with
  | nil => exact held
  | cons event events ih =>
      cases event with
      | request asked => exact @ih _ (held.request asked)
      | endUpload uploadId total => exact @ih _ (held.endUpload uploadId total)

end Runs

theorem run_stays_in_folder (truncates : Bool) (events : List Event) :
    InFolder (run truncates {} events) :=
  InFolder.run ⟨List.forall_mem_nil _, List.forall_mem_nil _⟩ events

/-- No call leaves the images folder, and a name that was accepted is accepted
as it is. -/
theorem confined_and_sanitized_again :
    (∀ truncates request session, Confined truncates request session) ∧
      ∀ filename name, sanitizeFilename filename = .ok name →
        sanitizeFilename name = .ok name :=
  ⟨confined_call, fun _ _ accepted =>
    sanitizeFilename_of_isElement (sanitizeFilename_eq_ok accepted).1
      (sanitizeFilename_eq_ok accepted).2⟩

theorem confined_and_sanitized_again_nested :
    Confined true (.deleteStorageFile "iso//./a.img" (.found 4096) (.ok ()))
        {} ∧
      sanitizeFilename "a.img" = .ok "a.img" :=
  ⟨confined_and_sanitized_again.1 true
      (.deleteStorageFile "iso//./a.img" (.found 4096) (.ok ())) {},
    confined_and_sanitized_again.2 "iso//./a.img" "a.img"
      (by decide +kernel)⟩

end ImagePaths

end JetKvm
