import JetKvm.CrashTriples
import JetKvm.LabelledRuns
import JetKvm.OtaUpdateRun

/-!
# What an update leaves in storage

`OtaUpdateRun` follows a run of the updater to its result.  Here the same
functions act on the update files step by step, so that a failure or a crash
may come after each of them, and the next run finds what the last one left.

Two library functions are parameters: the hash of some bytes, and whether the
GPG verifier accepts a signature for them.
-/

namespace JetKvm

namespace Ota

namespace Install

abbrev Bytes := List UInt8

/-- The run in which `verifyFile` moved a file into place, and the signature it
was called with. -/
structure Verification where
  component : Component
  status : ComponentUpdateStatus
  bypassSignatureCheck : Bool
  signature : Bytes
  deriving DecidableEq

/-- A file at the path of an update.  `movedBy` is `none` for a file that no
update has put there. -/
structure Placed where
  bytes : Bytes
  movedBy : Option Verification
  deriving DecidableEq

/-- `placed` and `unverified` are the files at the final path of a component
and at that path with `.unverified` appended.  The other fields record what
has happened: `started` that `downloadFile` has begun for the component,
`cleared` that it has got past the removal of the file at the final path, and
`installed` what was at the final path of the system when `rk_ota` was
started. -/
structure Storage where
  placed : Component → Option Placed
  unverified : Component → Option Bytes
  started : Component → Bool := fun _ => false
  cleared : Component → Bool := fun _ => false
  installed : List (Option Placed) := []

def update {Value : Type} (files : Component → Value) (component : Component)
    (value : Value) : Component → Value :=
  fun other => if other = component then value else files other

/-! ### What the outside world answers -/

inductive ReadError where
  | eof
  | failed (error : String)
  deriving DecidableEq

/-- One round of the copying loop: what was read, how much of it was written,
and the errors of the write and of the read. -/
structure Chunk where
  data : Bytes
  written : Nat
  writeError : Option String := none
  readError : Option ReadError := none

structure Body where
  statusCode : Nat
  contentLength : Int
  chunks : List Chunk

/-- The errors of the system calls in the order they are made, and the answers
of the servers.  A removal that finds no file counts as one without error. -/
structure Answers where
  signature : Reply Bytes
  componentFound : Bool := true
  removeFile : Option String := none
  removeUnverified : Option String := none
  create : Option String := none
  request : Option String := none
  response : Except String Body
  sync : Option String := none
  openFile : Option String := none
  stat : Option String := none
  readFile : Option String := none
  gpg : Option String := none
  rename : Option String := none
  chmod : Option String := none
  rkOtaStart : Option String := none
  rkOtaWait : Option String := none

/-- A failed call, with the context its caller adds. -/
def inContext (context : String) (error : Option String) : Option String :=
  error.map fun error => context ++ ": " ++ error

/-! ### The updater -/

open Program

abbrev Action (Value : Type) := Program Storage String Value

/-- The write of one round of the copying loop. -/
def writeChunk (component : Component) (chunk : Chunk) : Action Unit :=
  let written := chunk.data.take chunk.written
  if 0 < chunk.data.length then do
    effect fun storage =>
      { storage with
        unverified := update storage.unverified component
          (some ((storage.unverified component).getD [] ++ written)) }
    failIf (written.length < chunk.data.length)
      s!"short write: {written.length} < {chunk.data.length}"
    check (inContext "error writing to file" chunk.writeError)
  else pure ()

/-- The loop that copies the body of the response into the new file. -/
def copyBody (component : Component) : List Chunk → Action Unit
  | [] => pure ()
  | chunk :: chunks => do
      writeChunk component chunk
      match chunk.readError with
      | none => copyBody component chunks
      | some .eof => pure ()
      | some (.failed error) => fail s!"error reading response body: {error}"

def receive (component : Component) (answers : Answers) : Action Unit :=
  match answers.response with
  | .error error => fail s!"error downloading file: {error}"
  | .ok body => do
      failIf (body.statusCode ≠ 200) s!"unexpected status code: {body.statusCode}"
      failIf (body.contentLength ≤ 0) "invalid content length"
      copyBody component body.chunks

def downloadFile (component : Component) (answers : Answers) : Action Unit := do
  effect fun storage =>
    { storage with started := update storage.started component true }
  failIf (answers.componentFound = false) s!"component {component.name} not found"
  check (inContext "error removing existing file" answers.removeFile)
  effect fun storage =>
    { storage with
      placed := update storage.placed component none
      cleared := update storage.cleared component true }
  check (inContext "error removing existing unverified file"
    answers.removeUnverified)
  effect fun storage =>
    { storage with unverified := update storage.unverified component none }
  check (inContext "error creating file" answers.create)
  effect fun storage =>
    { storage with unverified := update storage.unverified component (some []) }
  check (inContext "error creating request" answers.request)
  receive component answers
  check (inContext "error syncing filesystem" answers.sync)

variable (sha256 : Bytes → String) (accepts : Bytes → Bytes → Bool)

/-- `VerifySignatureFromFile` reads the file again. -/
def verifySignatureFromFile (component : Component) (signature : Bytes)
    (answers : Answers) : Action Unit := do
  check (inContext "GPG signature verification failed" answers.gpg)
  let content ← look fun storage => (storage.unverified component).getD []
  failIf (accepts signature content = false)
    "GPG signature verification failed: invalid signature"

def verifySignature (component : Component) (signature : Bytes)
    (answers : Answers) : Action Unit :=
  if 0 < signature.length then
    verifySignatureFromFile accepts component signature answers
  else pure ()

/-- The hash of the file, as the reading loop computes it. -/
def hashFile (component : Component) (answers : Answers) : Action String := do
  check (inContext "error opening file for hashing" answers.openFile)
  match ← look fun storage => storage.unverified component with
  | none => fail "error opening file for hashing: no such file or directory"
  | some content =>
      check (inContext "error getting file info" answers.stat)
      check (inContext "error reading file" answers.readFile)
      pure (sha256 content)

/-- `movedBy` is only recorded with the file. -/
def verifyFile (component : Component) (expectedHash : String)
    (signature : Bytes) (movedBy : Verification) (answers : Answers) :
    Action Unit := do
  let hashSum ← hashFile sha256 component answers
  failIf (hashSum ≠ expectedHash) s!"hash mismatch: {hashSum} != {expectedHash}"
  verifySignature accepts component signature answers
  check (inContext "error renaming file" answers.rename)
  effect fun storage =>
    { storage with
      placed := update storage.placed component
        ((storage.unverified component).map fun bytes =>
          { bytes := bytes, movedBy := some movedBy })
      unverified := update storage.unverified component none }
  check (inContext "error making file executable" answers.chmod)

/-- What `updateApp` and `updateSystem` have in common. -/
def fetchAndVerify (component : Component) (status : ComponentUpdateStatus)
    (bypassSignatureCheck : Bool) (answers : Answers) : Action Unit :=
  match downloadComponentSignature status bypassSignatureCheck
      { signature := answers.signature } with
  | .error error => fail error
  | .ok signature => do
      let signature := signature.getD []
      downloadFile component answers
      verifyFile sha256 accepts component status.hash signature
        { component := component
          status := status
          bypassSignatureCheck := bypassSignatureCheck
          signature := signature } answers

def updateApp (status : ComponentUpdateStatus) (bypassSignatureCheck : Bool)
    (answers : Answers) : Action Unit :=
  fetchAndVerify sha256 accepts .app status bypassSignatureCheck answers

def updateSystem (status : ComponentUpdateStatus) (bypassSignatureCheck : Bool)
    (answers : Answers) : Action Unit := do
  fetchAndVerify sha256 accepts .system status bypassSignatureCheck answers
  check answers.rkOtaStart
  effect fun storage =>
    { storage with installed := storage.installed ++ [storage.placed .system] }
  check answers.rkOtaWait

def updateComponent (component : Component) (status : ComponentUpdateStatus)
    (bypassSignatureCheck : Bool) (answers : Answers) : Action Unit :=
  match component with
  | .app => updateApp sha256 accepts status bypassSignatureCheck answers
  | .system => updateSystem sha256 accepts status bypassSignatureCheck answers

/-! ### What the files are -/

/-- The file is as `verifyFile` moved it there: its hash is the one in the
component's metadata, and the GPG verifier accepted a signature for its bytes
unless that run bypassed the check. -/
def Verified (component : Component) (file : Placed) : Prop :=
  ∃ run, file.movedBy = some run ∧ run.component = component ∧
    sha256 file.bytes = run.status.hash ∧
    (run.bypassSignatureCheck = true ∨
      run.signature ≠ [] ∧ accepts run.signature file.bytes = true)

/-- Every file at a final path is verified, or was there from the start and no
`downloadFile` for its component has got past removing it.  `rk_ota` was only
started on verified files. -/
structure Safe (storage : Storage) : Prop where
  placed : ∀ component file, storage.placed component = some file →
    Verified sha256 accepts component file ∨
      file.movedBy = none ∧ storage.cleared component = false
  installed : ∀ found ∈ storage.installed,
    ∃ file, found = some file ∧ Verified sha256 accepts .system file

variable {sha256 accepts}

@[simp]
theorem update_self {Value : Type} (files : Component → Value)
    (component : Component) (value : Value) :
    update files component value component = value := if_pos rfl

theorem update_of_ne {Value : Type} (files : Component → Value)
    {component other : Component} (value : Value) (different : other ≠ component) :
    update files component value other = files other := if_neg different

theorem Safe.of_same {before after : Storage} (safe : Safe sha256 accepts before)
    (placed : after.placed = before.placed)
    (cleared : after.cleared = before.cleared)
    (installed : after.installed = before.installed) :
    Safe sha256 accepts after where
  placed := by
    rw [placed, cleared]
    exact safe.placed
  installed := by
    rw [installed]
    exact safe.installed

theorem Safe.clear {storage : Storage} (safe : Safe sha256 accepts storage)
    (component : Component) :
    Safe sha256 accepts
      { storage with
        placed := update storage.placed component none
        cleared := update storage.cleared component true } where
  placed := by
    intro other file found
    dsimp only at found ⊢
    by_cases same : other = component
    · subst same
      simp at found
    · rw [update_of_ne _ _ same] at found ⊢
      exact safe.placed other file found
  installed := safe.installed

theorem Safe.place {storage : Storage} (safe : Safe sha256 accepts storage)
    (component : Component) {file : Placed}
    (verified : Verified sha256 accepts component file)
    (unverified : Component → Option Bytes) :
    Safe sha256 accepts
      { storage with
        placed := update storage.placed component (some file)
        unverified := unverified } where
  placed := by
    intro other found there
    dsimp only at there ⊢
    by_cases same : other = component
    · subst same
      rw [update_self] at there
      exact .inl (Option.some.inj there ▸ verified)
    · rw [update_of_ne _ _ same] at there
      exact safe.placed other found there
  installed := safe.installed

theorem Safe.install {storage : Storage} (safe : Safe sha256 accepts storage)
    {file : Placed} (there : storage.placed .system = some file)
    (verified : Verified sha256 accepts .system file) :
    Safe sha256 accepts
      { storage with
        installed := storage.installed ++ [storage.placed .system] } where
  placed := safe.placed
  installed := by
    intro found member
    rcases List.mem_append.mp member with known | new
    · exact safe.installed found known
    · obtain rfl := List.mem_singleton.mp new
      exact ⟨file, there, verified⟩

/-! ### The functions keep the files safe -/

theorem keeps_writeChunk (component : Component) (chunk : Chunk) :
    Keeps (Safe sha256 accepts) (writeChunk component chunk) := by
  unfold writeChunk
  split
  · refine Keeps.bind (Keeps.effect fun storage safe => ?_) fun _ => ?_
    · exact safe.of_same rfl rfl rfl
    · exact Keeps.failIf.bind fun _ => Keeps.check
  · exact Keeps.pure

theorem keeps_copyBody (component : Component) (chunks : List Chunk) :
    Keeps (Safe sha256 accepts) (copyBody component chunks) := by
  induction chunks with
  | nil => exact Keeps.pure
  | cons chunk chunks ih =>
      refine (keeps_writeChunk component chunk).bind fun _ => ?_
      split
      · exact ih
      · exact Keeps.pure
      · exact Keeps.fail

theorem keeps_receive (component : Component) (answers : Answers) :
    Keeps (Safe sha256 accepts) (receive component answers) := by
  unfold receive
  split
  · exact Keeps.fail
  · exact Keeps.failIf.bind fun _ => Keeps.failIf.bind fun _ =>
      keeps_copyBody component _

theorem keeps_downloadFile (component : Component) (answers : Answers) :
    Keeps (Safe sha256 accepts) (downloadFile component answers) := by
  unfold downloadFile
  refine (Keeps.effect fun storage safe => ?begins).bind fun _ =>
    Keeps.failIf.bind fun _ => Keeps.check.bind fun _ =>
    (Keeps.effect fun storage safe => ?clears).bind fun _ =>
    Keeps.check.bind fun _ =>
    (Keeps.effect fun storage safe => ?removes).bind fun _ =>
    Keeps.check.bind fun _ =>
    (Keeps.effect fun storage safe => ?creates).bind fun _ =>
    Keeps.check.bind fun _ =>
    (keeps_receive component answers).bind fun _ => Keeps.check
  case clears => exact safe.clear component
  all_goals exact safe.of_same rfl rfl rfl

/-- The unverified file has this hash. -/
def Hashed (sha256 : Bytes → String) (accepts : Bytes → Bytes → Bool)
    (component : Component) (hashSum : String) (storage : Storage) :
    Prop :=
  Safe sha256 accepts storage ∧
    ∃ content, storage.unverified component = some content ∧
      sha256 content = hashSum

theorem triple_hashFile (component : Component) (answers : Answers) :
    Triple (Safe sha256 accepts) (Safe sha256 accepts)
      (hashFile sha256 component answers)
      (Hashed sha256 accepts component) := by
  have safe : ∀ storage, Safe sha256 accepts storage →
    Safe sha256 accepts storage := fun _ safe => safe
  refine Triple.check_bind safe fun _ => Triple.look_bind fun seen => ?_
  cases seen with
  | none => exact Triple.fail fun _ known => known.1
  | some content =>
      refine Triple.check_bind (fun _ known => known.1) fun _ => ?_
      refine Triple.check_bind (fun _ known => known.1) fun _ => ?_
      exact Triple.pure fun storage known => ⟨known.1, content, known.2, rfl⟩

/-- The unverified file may be moved into place by this run. -/
def Passed (sha256 : Bytes → String) (accepts : Bytes → Bytes → Bool)
    (component : Component) (movedBy : Verification) (storage : Storage) :
    Prop :=
  Safe sha256 accepts storage ∧
    ∃ content, storage.unverified component = some content ∧
      Verified sha256 accepts component
        { bytes := content, movedBy := some movedBy }

/-- The file at the final path is a verified one. -/
def Placing (sha256 : Bytes → String) (accepts : Bytes → Bytes → Bool)
    (component : Component) (storage : Storage) : Prop :=
  Safe sha256 accepts storage ∧
    ∃ file, storage.placed component = some file ∧
      Verified sha256 accepts component file

theorem triple_verifySignature (component : Component) (movedBy : Verification)
    (answers : Answers) (same : movedBy.component = component)
    (required : movedBy.bypassSignatureCheck = true ∨ movedBy.signature ≠ []) :
    Triple (Safe sha256 accepts)
      (Hashed sha256 accepts component movedBy.status.hash)
      (verifySignature accepts component movedBy.signature answers)
      fun _ => Passed sha256 accepts component movedBy := by
  unfold verifySignature
  split
  · rename_i given
    have signed : movedBy.signature ≠ [] := List.ne_nil_of_length_pos given
    refine Triple.check_bind (fun _ hashed => hashed.1) fun _ =>
      Triple.look_bind fun seen => ?_
    refine Triple.failIf (fun _ hashed => hashed.1.1) ?_
    rintro accepted storage ⟨⟨safe, content, there, hash⟩, rfl⟩
    refine ⟨safe, content, there, movedBy, rfl, same, hash, .inr ⟨signed, ?_⟩⟩
    simpa [there] using accepted
  · rename_i empty
    have bypassed : movedBy.bypassSignatureCheck = true := by
      refine required.resolve_right fun signed => empty ?_
      exact List.length_pos_iff.mpr signed
    refine Triple.pure ?_
    rintro storage ⟨safe, content, there, hash⟩
    exact ⟨safe, content, there, movedBy, rfl, same, hash, .inl bypassed⟩

theorem triple_verifyFile (component : Component) (movedBy : Verification)
    (answers : Answers) (same : movedBy.component = component)
    (required : movedBy.bypassSignatureCheck = true ∨ movedBy.signature ≠ []) :
    Triple (Safe sha256 accepts) (Safe sha256 accepts)
      (verifyFile sha256 accepts component movedBy.status.hash
        movedBy.signature movedBy answers)
      fun _ => Placing sha256 accepts component := by
  refine (triple_hashFile component answers).bind fun hashSum => ?_
  refine Triple.failIf_bind (fun _ hashed => hashed.1) fun equal => ?_
  obtain rfl : hashSum = movedBy.status.hash := not_not.mp equal
  refine (triple_verifySignature component movedBy answers same required).bind
    fun _ => ?_
  have places : ∀ storage, Passed sha256 accepts component movedBy storage →
      Placing sha256 accepts component
        { storage with
          placed := update storage.placed component
            ((storage.unverified component).map fun bytes =>
              { bytes := bytes, movedBy := some movedBy })
          unverified := update storage.unverified component none } := by
    rintro storage ⟨safe, content, there, verified⟩
    rw [there]
    exact ⟨safe.place component verified _, _, update_self _ _ _, verified⟩
  refine Triple.check_bind (fun _ passed => passed.1) fun _ => ?_
  refine Triple.effect_bind (fun storage passed => (places storage passed).1)
    places ?_
  exact Triple.check (fun _ placing => placing.1) fun _ _ placing => placing

theorem ne_nil_of_downloadSignature {reply : Reply Bytes} {signature : Bytes}
    (downloaded : downloadSignature reply = .ok signature) : signature ≠ [] := by
  unfold downloadSignature at downloaded
  split at downloaded
  · cases downloaded
  · split at downloaded
    · cases downloaded
    · split at downloaded
      · cases downloaded
      · split at downloaded
        · cases downloaded
        · rename_i filled
          cases downloaded
          simpa using filled

/-- No signature is returned only when the check is bypassed. -/
theorem bypassed_or_signed {status : ComponentUpdateStatus}
    {bypassSignatureCheck : Bool} {transfer : Transfer}
    {signature : Option Bytes}
    (fetched : downloadComponentSignature status bypassSignatureCheck transfer =
      .ok signature) :
    bypassSignatureCheck = true ∨ signature.getD [] ≠ [] := by
  cases bypassSignatureCheck with
  | true => exact .inl rfl
  | false =>
      right
      by_cases missing : status.sigUrl = ""
      · simp [downloadComponentSignature, missing] at fetched
      · simp only [downloadComponentSignature, missing, Bool.false_eq_true,
          if_false] at fetched
        cases answered : downloadSignature transfer.signature with
        | error error => simp [answered, Except.map] at fetched
        | ok bytes =>
            have nonempty := ne_nil_of_downloadSignature answered
            simp only [answered, Except.map, Except.ok.injEq] at fetched
            subst fetched
            simpa using nonempty

theorem triple_fetchAndVerify (component : Component)
    (status : ComponentUpdateStatus) (bypassSignatureCheck : Bool)
    (answers : Answers) :
    Triple (Safe sha256 accepts) (Safe sha256 accepts)
      (fetchAndVerify sha256 accepts component status bypassSignatureCheck
        answers)
      fun _ => Placing sha256 accepts component := by
  unfold fetchAndVerify
  split
  · exact Triple.fail fun _ safe => safe
  · rename_i signature fetched
    refine Triple.bind (keeps_downloadFile component answers) fun _ => ?_
    exact triple_verifyFile component
      { component := component
        status := status
        bypassSignatureCheck := bypassSignatureCheck
        signature := signature.getD [] } answers rfl (bypassed_or_signed fetched)

theorem keeps_updateComponent (component : Component)
    (status : ComponentUpdateStatus) (bypassSignatureCheck : Bool)
    (answers : Answers) :
    Keeps (Safe sha256 accepts)
      (updateComponent sha256 accepts component status bypassSignatureCheck
        answers) := by
  cases component with
  | app =>
      exact (triple_fetchAndVerify .app status bypassSignatureCheck answers).imp
        (fun _ safe => safe) fun _ _ placing => placing.1
  | system =>
      refine (triple_fetchAndVerify .system status bypassSignatureCheck
        answers).bind fun _ => ?_
      refine Triple.check_bind (fun _ placing => placing.1) fun _ => ?_
      refine (Triple.effect ?_ ?_).bind fun _ => Keeps.check
      all_goals
        rintro storage ⟨safe, file, there, verified⟩
        exact safe.install there verified

/-! ### Histories -/

variable (sha256 accepts)

/-- An update of a component, which a crash may cut off after any number of its
effects, or the boot loader taking the file that is at the final path. -/
inductive Happening where
  | update (component : Component) (status : ComponentUpdateStatus)
      (bypassSignatureCheck : Bool) (answers : Answers) (effects : Nat)
  | taken (component : Component)

def step (storage : Storage) : Happening → Option Storage
  | .update component status bypassSignatureCheck answers effects =>
      some ((updateComponent sha256 accepts component status
        bypassSignatureCheck answers).cutOff effects storage)
  | .taken component =>
      some { storage with placed := update storage.placed component none }

/-- Storage before the first update, with whatever files are in it. -/
def Storage.before (placed unverified : Component → Option Bytes) : Storage where
  placed := fun component =>
    (placed component).map fun bytes => { bytes := bytes, movedBy := none }
  unverified := unverified

theorem safe_before (placed unverified : Component → Option Bytes) :
    Safe sha256 accepts (Storage.before placed unverified) where
  placed := by
    intro component file there
    obtain ⟨bytes, -, rfl⟩ := Option.map_eq_some_iff.mp there
    exact .inr ⟨rfl, rfl⟩
  installed := by simp [Storage.before]

open LabelledRuns

/-- Whatever the servers answer, whichever calls fail and wherever the process
is cut off: the files of the updates stay safe. -/
theorem allStates_safe (placed unverified : Component → Option Bytes)
    (history : List Happening) :
    AllStates (step sha256 accepts) (Safe sha256 accepts)
      (Storage.before placed unverified) history := by
  refine allStates_of_invariant ?_ (safe_before sha256 accepts placed unverified)
    history
  intro storage next happening safe taken
  cases happening with
  | update component status bypassSignatureCheck answers effects =>
      obtain rfl := Option.some.inj taken
      exact (keeps_updateComponent component status bypassSignatureCheck
        answers).cutOff safe effects
  | taken component =>
      obtain rfl := Option.some.inj taken
      refine ⟨fun other file there => ?_, safe.installed⟩
      dsimp only at there
      by_cases same : other = component
      · subst same
        simp at there
      · rw [update_of_ne _ _ same] at there
        exact safe.placed other file there

/-- Once `downloadFile` has started for a component, only a verified file is at
its final path. -/
structure OnlyVerified (storage : Storage) : Prop where
  placed : ∀ component file, storage.started component = true →
    storage.placed component = some file →
      Verified sha256 accepts component file
  installed : ∀ found ∈ storage.installed,
    ∃ file, found = some file ∧ Verified sha256 accepts .system file

/-- A file that was there before stays when its removal fails. -/
theorem failedRemoval_not_onlyVerified :
    ¬ ∀ (sha256 : Bytes → String) (accepts : Bytes → Bytes → Bool)
        (placed unverified : Component → Option Bytes)
        (history : List Happening),
      AllStates (step sha256 accepts) (OnlyVerified sha256 accepts)
        (Storage.before placed unverified) history := by
  intro always
  let answers : Answers :=
    { signature := .failed "connection refused"
      removeFile := some "operation not permitted"
      response := .error "connection refused" }
  have everywhere := always (fun _ => "") (fun _ _ => true)
    (fun _ => some [1]) (fun _ => none) [.update .app {} true answers 100]
  obtain ⟨run, moved, -⟩ := (everywhere.2 _ rfl).first.placed .app
    { bytes := [1], movedBy := none } rfl rfl
  cases moved

end Install

end Ota

end JetKvm
