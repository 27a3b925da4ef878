import JetKvm.FileTreeOperations
import JetKvm.UsbFileChange

/-!
# The change set of the USB gadget

Translation of `internal/usbgadget/changeset.go`, of `changeset_symlink.go` and of
the comparison in `utils.go`: how one change looks at the tree, decides what to
do and does it.  The operating system's calls are those of a file tree.  Only the
command that mounts configfs is given from outside, as what it shows below the
directory if it succeeds.
-/

namespace JetKvm

namespace UsbGadget

/-! ### `utils.go` -/

/-- `strings.ToLower`, as far as hexadecimal digits go -/
def toLower (byte : UInt8) : UInt8 :=
  if 65 ≤ byte ∧ byte ≤ 90 then byte + 32 else byte

/-- `strings.Replace(hex, "0x", "", 1)` -/
def removeHexMark : Bytes → Bytes
  | 48 :: 120 :: rest => rest
  | byte :: rest => byte :: removeHexMark rest
  | [] => []

def hexDigit (byte : UInt8) : Option Nat :=
  if 48 ≤ byte ∧ byte ≤ 57 then some (byte.toNat - 48)
  else if 97 ≤ byte ∧ byte ≤ 102 then some (byte.toNat - 87)
  else none

/-- The digits of a number that fits easily into 64 bits. -/
def hexDigits : Bytes → Option Nat
  | [] => none
  | digits => digits.foldl
      (fun number byte => do return (← number) * 16 + (← hexDigit byte)) (some 0)

/-- `strconv.ParseInt(hex, 16, 64)` on few bytes in lower case -/
def hexToDecimal : Bytes → Option Int
  | 43 :: digits => (hexDigits digits).map Int.ofNat
  | 45 :: digits => (hexDigits digits).map fun number => -Int.ofNat number
  | digits => (hexDigits digits).map Int.ofNat

/-- `fmt.Sprintf("%04o", decimal)` -/
def decimalToOctal (decimal : Int) : Bytes :=
  let digits := (Nat.toDigits 8 decimal.natAbs).map fun digit =>
    UInt8.ofNat digit.toNat
  if decimal < 0 then 45 :: (List.replicate (3 - digits.length) 48 ++ digits)
  else List.replicate (4 - digits.length) 48 ++ digits

def hexToOctal (hex : Bytes) : Option Bytes :=
  (hexToDecimal (removeHexMark (hex.map toLower))).map decimalToOctal

/-- The encodings of white space. -/
def spaces : List Bytes :=
  [[9], [10], [11], [12], [13], [32], [0xC2, 0x85], [0xC2, 0xA0],
    [0xE1, 0x9A, 0x80], [0xE2, 0x80, 0x80], [0xE2, 0x80, 0x81],
    [0xE2, 0x80, 0x82], [0xE2, 0x80, 0x83], [0xE2, 0x80, 0x84],
    [0xE2, 0x80, 0x85], [0xE2, 0x80, 0x86], [0xE2, 0x80, 0x87],
    [0xE2, 0x80, 0x88], [0xE2, 0x80, 0x89], [0xE2, 0x80, 0x8A],
    [0xE2, 0x80, 0xA8], [0xE2, 0x80, 0xA9], [0xE2, 0x80, 0xAF],
    [0xE2, 0x81, 0x9F], [0xE3, 0x80, 0x80]]

/-- Drop the parts at the front, at most so many. -/
def dropParts (parts : List Bytes) : Nat → Bytes → Bytes
  | 0, text => text
  | bound + 1, text =>
      match parts.find? fun part => part.isPrefixOf text with
      | some part => dropParts parts bound (text.drop part.length)
      | none => text

/-- `strings.TrimSpace` -/
def trimSpace (text : Bytes) : Bytes :=
  let front := dropParts spaces text.length text
  (dropParts (spaces.map List.reverse) front.length front.reverse).reverse

/-- A newline more in the old content does not count, nor does the way a number
of four octal digits is written; loosely, nor does white space around it. -/
def compareFileContent (oldContent newContent : Bytes) (looserMatch : Bool) :
    Bool :=
  if oldContent = newContent then true
  else if oldContent = newContent ++ [10] then true
  else if newContent.length = 4 then
    if oldContent.length < 6 ∨ 7 < oldContent.length then false
    else
      let oldContent :=
        if oldContent.length = 7 ∧ oldContent.getLast? = some 10 then
          oldContent.dropLast
        else oldContent
      match hexToOctal oldContent with
      | none => false
      | some oldOctalValue =>
          if oldOctalValue = newContent then true
          else looserMatch && trimSpace oldContent = trimSpace newContent
  else looserMatch && trimSpace oldContent = trimSpace newContent

@[simp]
theorem compareFileContent_self (content : Bytes) (looserMatch : Bool) :
    compareFileContent content content looserMatch = true := by
  simp [compareFileContent]

/-! ### Looking at the tree -/

/-- The ways a look at the tree or a change of it goes wrong. -/
inductive ChangeError where
  | os (errno : Errno)
  | noSymlinksToCheck
  | failedToStatFile
  | notADirectory
  | failedToReadDirectory
  | failedToReadSymlink
  | failedToReadFile
  | unknownFileType
  | failedToRemoveSymlink
  | failedToCreateSymlink
  | failedToMountConfigFS
  deriving DecidableEq, Repr

inductive FileChangeResolvedAction where
  | doNothing
  | remove
  | createFile
  | writeFile
  | updateFile
  | createSymlink
  | recreateSymlink
  | reorderSymlinks
  | createDirectory
  | touch
  | mountConfigFS
  deriving DecidableEq, Repr

/-- `filepath.Join` goes by the names alone, whatever they lead to. -/
def joinStep (directory : Path) : FileTree.Step → Path
  | .here => directory
  | .up => directory.dropLast
  | .down name => directory ++ [name]

/-- The target of a link in the directory, made absolute. -/
def absoluteTarget (directory : Path) (target : Bytes) : Bytes :=
  if FileTree.isAbsolute target then target
  else bytesOf (pathText ((FileTree.stepsOf target).foldl joinStep directory))

/-- A requested change and what was last seen of its file.  The action that
follows from it is worked out anew whenever the source has reset it. -/
structure FileChange extends RequestedFileChange where
  actualState : FileState := .unknown
  actualContent : Bytes := []
  resolvedDeps : List String := []
  deriving DecidableEq, Repr

namespace RequestedFileChange

variable (change : RequestedFileChange) (tree : FileTree)

/-- The entries of a directory that are links. -/
def linkNames (files : List (String × Node)) : List String :=
  files.filterMap fun file =>
    match file.2 with
    | .symlink _ => some file.1
    | _ => none

/-- A link of the directory, with its target made absolute. -/
def readSymlink (name : String) : Except ChangeError Symlink :=
  match tree.readlink (change.path ++ [name]) with
  | .error _ => .error .failedToReadSymlink
  | .ok target => .ok
      { path := change.path ++ [name]
        target := absoluteTarget change.path target }

def checkIfSymlinksInOrder : Except ChangeError FileState :=
  if change.paramSymlinks = [] then .error .noSymlinksToCheck
  else
    match tree.lstat change.path with
    | .error .noEntry => .ok .absent
    | .error _ => .error .failedToStatFile
    | .ok .directory =>
        match tree.readDir change.path with
        | .error _ => .error .failedToReadDirectory
        | .ok files =>
            match (linkNames files).mapM (change.readSymlink tree) with
            | .error error => .error error
            | .ok symlinks =>
                if change.paramSymlinks = symlinks then
                  .ok .symlinkInOrderConfigFS
                else .ok .symlinkNotInOrderConfigFS
    | .ok _ => .error .notADirectory

/-- The state and source of the first mount at the path. -/
def checkIfDirIsMountPoint : Option (FileState × Bytes) :=
  (tree.mounts.find? fun mount => mount.point = change.path).map fun mount =>
    (if mount.fsType = "configfs" then .mountedConfigFS else .mounted,
      bytesOf mount.source)

end RequestedFileChange

namespace FileChange

variable (change : FileChange) (tree : FileTree)

/-- What is seen of the file, and what went wrong.  A device is seen and leaves
what was known before. -/
def getActualState : FileChange × Option ChangeError :=
  match tree.lstat change.path with
  | .error .noEntry => ({ change with actualState := .absent }, none)
  | .error _ => ({ change with actualState := .unknown }, none)
  | .ok (.symlink target) =>
      ({ change with
        actualState := .symlink
        actualContent := absoluteTarget change.path.dropLast target }, none)
  | .ok .directory =>
      let change := { change with actualState := .directory }
      match change.expectedState with
      | .mountedConfigFS =>
          match change.checkIfDirIsMountPoint tree with
          | none => (change, none)
          | some (state, source) =>
              ({ change with actualState := state, actualContent := source },
                none)
      | .symlinkInOrderConfigFS =>
          match change.checkIfSymlinksInOrder tree with
          | .error error => (change, some error)
          | .ok state => ({ change with actualState := state }, none)
      | _ => (change, none)
  | .ok .device => (change, none)
  | .ok (.file _) =>
      let change := { change with actualState := .file }
      match tree.readFile change.path with
      | .error _ => (change, some .failedToReadFile)
      | .ok content => ({ change with actualContent := content }, none)
  | .ok .other => (change, some .unknownFileType)

/-- What to do about the file as it was seen. -/
def actionFor : FileChangeResolvedAction :=
  let baseName := change.path.getLastD "/"
  match change.expectedState with
  | .directory =>
      if change.actualState = .directory then .doNothing else .createDirectory
  | .file =>
      if change.actualState = .file then .doNothing else .createFile
  | .fileContentMatch =>
      if change.actualState = .file then
        let looserMatch := baseName = "inquiry_string"
        if compareFileContent change.actualContent change.expectedContent
            looserMatch then .doNothing
        else if baseName = "file" ∧ change.actualContent = [] ∧
            change.expectedContent = [10] then .doNothing
        else .updateFile
      else .createFile
  | .symlink =>
      if change.actualState = .symlink then
        if change.actualContent = change.expectedContent then .doNothing
        else .recreateSymlink
      else .createSymlink
  | .symlinkInOrderConfigFS =>
      if change.actualState = .symlinkInOrderConfigFS then .doNothing
      else .reorderSymlinks
  | .absent =>
      if change.actualState = .absent then .doNothing else .remove
  | .mountedConfigFS =>
      if change.actualState = .mountedConfigFS then .doNothing
      else .mountConfigFS
  | _ => .doNothing

/-- The action, and what was seen on the way. -/
def getFileChangeResolvedAction : FileChange × FileChangeResolvedAction :=
  match change.expectedState with
  | .fileWrite => (change, .writeFile)
  | .touch => (change, .touch)
  | _ =>
      match change.getActualState tree with
      | (change, some _) => (change, .doNothing)
      | (change, none) => (change, change.actionFor)

end FileChange

/-! ### Changing it -/

/-- Take the elements one by one until one fails. -/
def untilError {Element Failure : Type}
    (step : FileTree → Element → Except Failure FileTree) :
    List Element → FileTree → FileTree × Option Failure
  | [], tree => (tree, none)
  | element :: rest, tree =>
      match step tree element with
      | .error failure => (tree, some failure)
      | .ok later => untilError step rest later

/-- The mount command.  Where it succeeds, configfs shows below the directory
as the tree given here. -/
abbrev MountCommand := FileTree → Path → Option FileTree

namespace RequestedFileChange

variable (change : RequestedFileChange) (tree : FileTree)

/-- The path a link is created at. -/
def symlinkPath (link : Symlink) : Path :=
  if link.isAbs then link.path else change.path ++ link.path

def removeSymlink (tree : FileTree) (name : String) :
    Except ChangeError FileTree :=
  match tree.remove (change.path ++ [name]) with
  | .error _ => .error .failedToRemoveSymlink
  | .ok later => .ok later

def createSymlink (tree : FileTree) (link : Symlink) :
    Except ChangeError FileTree :=
  match tree.symlink link.target (change.symlinkPath link) with
  | .error _ => .error .failedToCreateSymlink
  | .ok later => .ok later

def recreateSymlinks : FileTree × Option ChangeError :=
  match tree.readDir change.path with
  | .error _ => (tree, some .failedToReadDirectory)
  | .ok files =>
      match untilError change.removeSymlink (linkNames files) tree with
      | (later, some error) => (later, some error)
      | (later, none) =>
          untilError change.createSymlink change.paramSymlinks later

def mountConfigFS (mountCommand : MountCommand) : FileTree × Option ChangeError :=
  match tree.resolve change.path with
  | .error _ => (tree, some .failedToMountConfigFS)
  | .ok place =>
      match mountCommand tree change.path with
      | none => (tree, some .failedToMountConfigFS)
      | some shown =>
          match tree.mountAt place "none" "configfs" shown with
          | .error _ => (tree, some .failedToMountConfigFS)
          | .ok later => (later, none)

/-- One call of the operating system that succeeds or changes nothing. -/
def osCall (outcome : Except Errno FileTree) : FileTree × Option ChangeError :=
  match outcome with
  | .error errno => (tree, some (.os errno))
  | .ok later => (later, none)

/-- Do what was decided. -/
def perform (mountCommand : MountCommand) :
    FileChangeResolvedAction → FileTree × Option ChangeError
  | .writeFile | .updateFile | .createFile =>
      osCall tree (tree.writeFile change.path change.expectedContent)
  | .createSymlink =>
      osCall tree (tree.symlink change.expectedContent change.path)
  | .recreateSymlink =>
      match tree.remove change.path with
      | .error _ => (tree, some .failedToRemoveSymlink)
      | .ok later =>
          osCall later (later.symlink change.expectedContent change.path)
  | .reorderSymlinks => change.recreateSymlinks tree
  | .createDirectory =>
      let (later, errno) := tree.mkdirAll change.path
      (later, errno.map .os)
  | .remove => osCall tree (tree.remove change.path)
  | .touch =>
      match tree.stat change.path with
      | .error errno => (tree, some (.os errno))
      | .ok _ => (tree, none)
  | .mountConfigFS => change.mountConfigFS tree mountCommand
  | .doNothing => (tree, none)

end RequestedFileChange

/-- `applyChange`, on a change whose action was reset before. -/
def FileChange.applyChange (mountCommand : MountCommand) (change : FileChange)
    (tree : FileTree) : FileTree × Option ChangeError :=
  change.perform tree mountCommand (change.getFileChangeResolvedAction tree).2

/-! ### What a look finds -/

namespace FileChange

variable {change : FileChange} {tree : FileTree}

/-- The states that are looked for before anything is done. -/
def Checked (change : RequestedFileChange) : Prop :=
  change.expectedState ≠ .fileWrite ∧ change.expectedState ≠ .touch

instance (change : RequestedFileChange) : Decidable (Checked change) :=
  inferInstanceAs (Decidable (_ ∧ _))

theorem action_eq (checked : Checked change.toRequestedFileChange) :
    (change.getFileChangeResolvedAction tree).2 =
      match change.getActualState tree with
      | (_, some _) => .doNothing
      | (change, none) => change.actionFor := by
  obtain ⟨notWrite, notTouch⟩ := checked
  unfold getFileChangeResolvedAction
  split
  · exact absurd ‹_› notWrite
  · exact absurd ‹_› notTouch
  · split <;> simp_all

/-! What is seen, by what is at the path. -/

theorem getActualState_noEntry
    (seen : tree.lstat change.path = .error .noEntry) :
    change.getActualState tree = ({ change with actualState := .absent }, none) := by
  rw [getActualState, seen]

theorem getActualState_error {errno : Errno} (unseen : errno ≠ .noEntry)
    (seen : tree.lstat change.path = .error errno) :
    change.getActualState tree =
      ({ change with actualState := .unknown }, none) := by
  rw [getActualState, seen]
  cases errno <;> simp at unseen ⊢

theorem getActualState_symlink {target : Bytes}
    (seen : tree.lstat change.path = .ok (.symlink target)) :
    change.getActualState tree =
      ({ change with
        actualState := .symlink
        actualContent := absoluteTarget change.path.dropLast target }, none) := by
  rw [getActualState, seen]

theorem getActualState_file {content : Bytes}
    (seen : tree.lstat change.path = .ok (.file content)) :
    change.getActualState tree =
      ({ change with actualState := .file, actualContent := content }, none) := by
  simp only [getActualState, seen, FileTree.readFile_of_lstat seen]

theorem getActualState_device (seen : tree.lstat change.path = .ok .device) :
    change.getActualState tree = (change, none) := by
  rw [getActualState, seen]

theorem getActualState_other (seen : tree.lstat change.path = .ok .other) :
    change.getActualState tree = (change, some .unknownFileType) := by
  rw [getActualState, seen]

theorem getActualState_directory
    (seen : tree.lstat change.path = .ok .directory)
    (notMount : change.expectedState ≠ .mountedConfigFS)
    (notInOrder : change.expectedState ≠ .symlinkInOrderConfigFS) :
    change.getActualState tree =
      ({ change with actualState := .directory }, none) := by
  rw [getActualState, seen]
  dsimp only
  split
  · exact absurd ‹_› notMount
  · exact absurd ‹_› notInOrder
  · rfl

theorem toRequestedFileChange_getActualState :
    (change.getActualState tree).1.toRequestedFileChange =
      change.toRequestedFileChange := by
  unfold getActualState
  split <;> try rfl
  · dsimp only
    split
    · split <;> rfl
    · split <;> rfl
    · rfl
  · dsimp only
    split <;> rfl

@[simp]
theorem toRequestedFileChange_resolvedAction :
    (change.getFileChangeResolvedAction tree).1.toRequestedFileChange =
      change.toRequestedFileChange := by
  unfold getFileChangeResolvedAction
  split
  · rfl
  · rfl
  · have same : (change.getActualState tree).1.toRequestedFileChange = _ :=
      toRequestedFileChange_getActualState
    split <;> simp_all

/-- The content counts only where it was looked at. -/
theorem actionFor_congr {requested : RequestedFileChange} {state : FileState}
    {content otherContent : Bytes} {deps otherDeps : List String}
    (noFile : state ≠ .file) (noSymlink : state ≠ .symlink) :
    actionFor
        { toRequestedFileChange := requested
          actualState := state
          actualContent := otherContent
          resolvedDeps := otherDeps } =
      actionFor
        { toRequestedFileChange := requested
          actualState := state
          actualContent := content
          resolvedDeps := deps } := by
  cases expected : requested.expectedState <;>
    simp [actionFor, expected, noFile, noSymlink]

/-- What has no state to be checked asks for its action by itself. -/
theorem action_of_not_checked {other : FileChange}
    (same : other.toRequestedFileChange = change.toRequestedFileChange)
    (notChecked : ¬ Checked change.toRequestedFileChange) :
    (other.getFileChangeResolvedAction tree).2 =
      (change.getFileChangeResolvedAction tree).2 := by
  have write : change.expectedState = .fileWrite ∨
      change.expectedState = .touch := by
    by_contra neither
    exact notChecked (not_or.mp neither)
  unfold getFileChangeResolvedAction
  rcases write with write | write
  · simp [same, write]
  · simp [same, write]

/-- Only of a device is anything remembered. -/
theorem action_congr {other : FileChange}
    (same : other.toRequestedFileChange = change.toRequestedFileChange)
    (noDevice : tree.lstat change.path ≠ .ok .device) :
    (other.getFileChangeResolvedAction tree).2 =
      (change.getFileChangeResolvedAction tree).2 := by
  by_cases checked : Checked change.toRequestedFileChange
  · have otherChecked : Checked other.toRequestedFileChange := same ▸ checked
    rw [action_eq checked, action_eq otherChecked]
    obtain ⟨requested, state, content, deps⟩ := change
    obtain ⟨requested, otherState, otherContent, otherDeps⟩ := other
    cases same
    dsimp only at noDevice
    cases seen : tree.lstat requested.path with
    | error errno =>
        by_cases gone : errno = .noEntry
        · subst gone
          rw [getActualState_noEntry seen, getActualState_noEntry seen]
          exact actionFor_congr (by simp) (by simp)
        · rw [getActualState_error gone seen, getActualState_error gone seen]
          exact actionFor_congr (by simp) (by simp)
    | ok kind =>
        cases kind with
        | directory =>
            by_cases mounted : requested.expectedState = .mountedConfigFS
            · simp only [getActualState, seen, mounted]
              cases requested.checkIfDirIsMountPoint tree <;>
                simp [actionFor, mounted]
            by_cases inOrder : requested.expectedState = .symlinkInOrderConfigFS
            · simp only [getActualState, seen, inOrder]
              cases requested.checkIfSymlinksInOrder tree <;>
                simp [actionFor, inOrder]
            rw [getActualState_directory seen mounted inOrder,
              getActualState_directory seen mounted inOrder]
            exact actionFor_congr (by simp) (by simp)
        | file content =>
            rw [getActualState_file seen, getActualState_file seen]
            rfl
        | symlink target =>
            rw [getActualState_symlink seen, getActualState_symlink seen]
            rfl
        | device => exact absurd seen noDevice
        | other => rw [getActualState_other seen, getActualState_other seen]
  · exact action_of_not_checked same checked

end FileChange

end UsbGadget

end JetKvm
