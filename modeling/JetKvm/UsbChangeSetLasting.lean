import JetKvm.UsbSymlinkOrder

/-!
# What applying a change leaves

Whether a change, once applied, is found to have its expected state.  Each
expected state needs its own look at what the operation leaves at the path.
-/

namespace JetKvm

namespace UsbGadget

namespace RequestedFileChange

variable (change : RequestedFileChange) (tree : FileTree)

/-- The change as it is resolved at first. -/
def fresh : FileChange := { toRequestedFileChange := change }

/-- The expected state holds if there is nothing to do. -/
def Holds : Prop :=
  (change.fresh.getFileChangeResolvedAction tree).2 = .doNothing

instance : Decidable (change.Holds tree) :=
  inferInstanceAs (Decidable (_ = _))

/-- The contents of a file that need no change. -/
def Accepts (content : Bytes) : Prop :=
  let baseName := change.path.getLastD "/"
  compareFileContent content change.expectedContent
      (baseName = "inquiry_string") = true ∨
    baseName = "file" ∧ content = [] ∧ change.expectedContent = [10]

/-- What each expected state looks like. -/
def ExpectedThere : Prop :=
  match change.expectedState with
  | .directory => tree.lstat change.path = .ok .directory
  | .file => ∃ content, tree.lstat change.path = .ok (.file content)
  | .fileContentMatch => ∃ content,
      tree.lstat change.path = .ok (.file content) ∧ change.Accepts content
  | .symlink => ∃ target, tree.lstat change.path = .ok (.symlink target) ∧
      absoluteTarget change.path.dropLast target = change.expectedContent
  | .symlinkInOrderConfigFS => tree.lstat change.path = .ok .directory ∧
      ∀ state, change.checkIfSymlinksInOrder tree = .ok state →
        state = .symlinkInOrderConfigFS
  | .absent => tree.lstat change.path = .error .noEntry
  | .mountedConfigFS => tree.lstat change.path = .ok .directory ∧
      (change.checkIfDirIsMountPoint tree).map Prod.fst = some .mountedConfigFS
  | _ => True

variable {change tree}

theorem holds_iff (checked : FileChange.Checked change) :
    change.Holds tree ↔
      tree.lstat change.path = .ok .other ∨ change.ExpectedThere tree := by
  unfold Holds ExpectedThere Accepts
  rw [FileChange.action_eq checked]
  obtain ⟨notWrite, notTouch⟩ := checked
  cases seen : tree.lstat change.path with
  | error errno =>
      by_cases gone : errno = .noEntry
      · subst gone
        rw [FileChange.getActualState_noEntry seen]
        cases expected : change.expectedState <;>
          simp_all [fresh, FileChange.actionFor]
      · rw [FileChange.getActualState_error gone seen]
        cases expected : change.expectedState <;>
          simp_all [fresh, FileChange.actionFor]
  | ok kind =>
      cases kind with
      | directory =>
          by_cases mounted : change.expectedState = .mountedConfigFS
          · cases found : change.checkIfDirIsMountPoint tree <;>
              simp_all [fresh, FileChange.getActualState, FileChange.actionFor]
          by_cases inOrder : change.expectedState = .symlinkInOrderConfigFS
          · cases found : change.checkIfSymlinksInOrder tree <;>
              simp_all [fresh, FileChange.getActualState, FileChange.actionFor]
          rw [FileChange.getActualState_directory seen mounted inOrder]
          cases expected : change.expectedState <;>
            simp_all [fresh, FileChange.actionFor]
      | file content =>
          rw [FileChange.getActualState_file seen]
          cases expected : change.expectedState <;>
            simp_all [fresh, FileChange.actionFor]
          rw [← Bool.not_eq_true]
          tauto
      | symlink target =>
          rw [FileChange.getActualState_symlink seen]
          cases expected : change.expectedState <;>
            simp_all [fresh, FileChange.actionFor]
          by_cases same : absoluteTarget change.path.dropLast target =
            change.expectedContent <;> simp [same]
      | device =>
          rw [FileChange.getActualState_device seen]
          cases expected : change.expectedState <;>
            simp_all [fresh, FileChange.actionFor]
      | other =>
          rw [FileChange.getActualState_other seen]
          simp

/-! ### What each operation leaves -/

/-- The actions an expected state may ask for. -/
def actionsOf : FileState → List FileChangeResolvedAction
  | .directory => [.createDirectory]
  | .file => [.createFile]
  | .fileContentMatch => [.createFile, .updateFile]
  | .symlink => [.createSymlink, .recreateSymlink]
  | .symlinkInOrderConfigFS => [.reorderSymlinks]
  | .absent => [.remove]
  | .mountedConfigFS => [.mountConfigFS]
  | .fileWrite => [.writeFile]
  | .touch => [.touch]
  | _ => []

theorem actionFor_mem (change : FileChange) :
    change.actionFor = .doNothing ∨
      change.actionFor ∈ actionsOf change.expectedState := by
  unfold FileChange.actionFor actionsOf
  cases change.expectedState <;> dsimp only <;> repeat' split
  all_goals simp

theorem action_mem (change : FileChange) (tree : FileTree) :
    (change.getFileChangeResolvedAction tree).2 = .doNothing ∨
      (change.getFileChangeResolvedAction tree).2 ∈
        actionsOf change.expectedState := by
  by_cases checked : FileChange.Checked change.toRequestedFileChange
  · rw [FileChange.action_eq checked]
    split
    · exact Or.inl rfl
    · rename_i seen looked
      have same : (change.getActualState tree).1.toRequestedFileChange =
          change.toRequestedFileChange :=
        FileChange.toRequestedFileChange_getActualState
      rw [looked] at same
      rw [← same]
      exact actionFor_mem seen
  · right
    unfold FileChange.getFileChangeResolvedAction
    have write : change.expectedState = .fileWrite ∨
        change.expectedState = .touch := by
      by_contra neither
      exact checked (not_or.mp neither)
    rcases write with write | write <;> simp [actionsOf, write]

/-- Where the operation a change asks for leaves its expected state, if it
succeeds. -/
def Lasting (change : RequestedFileChange) (tree : FileTree) : Prop :=
  match change.expectedState with
  | .directory =>
      match tree.lstat change.path with
      | .ok (.symlink _) => False
      | _ => True
  | .file | .fileContentMatch =>
      match tree.lstat change.path with
      | .error .noEntry => True
      | .ok (.file _) => True
      | _ => False
  | .symlink => FileTree.isAbsolute change.expectedContent
  | .symlinkInOrderConfigFS =>
      tree.lstat change.path = .ok .directory ∧ change.InReadingOrder
  | .mountedConfigFS =>
      tree.node change.path = some .directory ∧
        ∀ mount ∈ tree.mounts, mount.point ≠ change.path
  | _ => True

instance (change : RequestedFileChange) (tree : FileTree) :
    Decidable (change.Lasting tree) := by
  unfold Lasting
  cases change.expectedState <;> dsimp only <;> (try split) <;> infer_instance

section Performed

variable {mountCommand : MountCommand} {later : FileTree}
variable {outcome : Option ChangeError}

theorem osCall_cases {call : Except Errno FileTree}
    (ran : osCall tree call = (later, outcome)) :
    (call = .ok later ∧ outcome = none) ∨
      ((∃ errno, call = .error errno) ∧ later = tree ∧ outcome ≠ none) := by
  unfold osCall at ran
  cases call <;> cases ran <;> simp

theorem holds_directory_iff (expected : change.expectedState = .directory)
    (ran : change.perform tree mountCommand .createDirectory = (later, outcome))
    (needed : ¬ change.Holds tree) :
    change.Holds later ↔ outcome = none ∧ change.Lasting tree := by
  have checked : FileChange.Checked change := by
    simp [FileChange.Checked, expected]
  rw [holds_iff checked] at needed ⊢
  simp only [ExpectedThere, Lasting, expected, not_or] at needed ⊢
  cases made : tree.mkdirAll change.path with
  | mk made errno =>
    rw [perform, made] at ran
    obtain ⟨rfl, rfl⟩ := Prod.mk.inj ran
    constructor
    · rintro (other | directory)
      · exact absurd (FileTree.lstat_of_lstat_mkdirAll made other (by simp)) needed.1
      · cases errno with
        | some errno => exact absurd directory (FileTree.lstat_of_mkdirAll_failed made)
        | none =>
            refine ⟨rfl, ?_⟩
            split
            · rename_i link
              rw [FileTree.lstat_of_mkdirAll_of_symlink made link] at directory
              cases directory
            · trivial
    · rintro ⟨ended, lasting⟩
      cases errno with
      | some errno => cases ended
      | none =>
          refine Or.inr (FileTree.lstat_of_mkdirAll made ?_)
          intro text link
          rw [link] at lasting
          exact lasting

theorem accepts_self : change.Accepts change.expectedContent := by
  simp [Accepts]

/-- A file is written where there is one, and through a link. -/
theorem holds_file_iff
    (expected : change.expectedState = .file ∨
      change.expectedState = .fileContentMatch)
    (ran : osCall tree (tree.writeFile change.path change.expectedContent) =
      (later, outcome))
    (needed : ¬ change.Holds tree) :
    change.Holds later ↔ outcome = none ∧ change.Lasting tree := by
  have checked : FileChange.Checked change := by
    rcases expected with expected | expected <;>
      simp [FileChange.Checked, expected]
  have noOther : tree.lstat change.path ≠ .ok .other :=
    fun other => needed ((holds_iff checked).mpr (Or.inl other))
  rcases osCall_cases ran with ⟨written, ended⟩ | ⟨-, same, failed⟩
  · have there : later.lstat change.path = .ok (.file change.expectedContent) →
        change.ExpectedThere later := by
      intro seen
      rcases expected with expected | expected <;>
        simp [ExpectedThere, expected, seen, accepts_self]
    rw [holds_iff checked, ended]
    rcases FileTree.lstat_cases_of_writeFile written with seen | ⟨old, seen⟩ |
      ⟨text, seen⟩ | ⟨seen, same⟩
    · have made := FileTree.lstat_of_writeFile written (Or.inl seen)
      rcases expected with expected | expected <;>
        simp [Lasting, expected, seen, there made]
    · have made := FileTree.lstat_of_writeFile written (Or.inr ⟨old, seen⟩)
      rcases expected with expected | expected <;>
        simp [Lasting, expected, seen, there made]
    · have kept := FileTree.lstat_of_writeFile_of_symlink written seen
      rcases expected with expected | expected <;>
        simp [Lasting, ExpectedThere, expected, seen, kept]
    · rw [same]
      rcases expected with expected | expected <;>
        simp [Lasting, ExpectedThere, expected, seen]
  · rw [same]
    exact iff_of_false needed fun both => failed both.1

theorem holds_of_symlink (tree : FileTree)
    (expected : change.expectedState = .symlink)
    (seen : later.lstat change.path = .ok (.symlink change.expectedContent)) :
    change.Holds later ↔ change.Lasting tree := by
  have checked : FileChange.Checked change := by
    simp [FileChange.Checked, expected]
  rw [holds_iff checked]
  simp only [ExpectedThere, Lasting, expected, seen]
  constructor
  · rintro (other | ⟨target, same, absolute⟩)
    · cases other
    · rw [← absolute]
      exact isAbsolute_absoluteTarget _ _
  · intro absolute
    exact Or.inr ⟨_, rfl, absoluteTarget_of_isAbsolute absolute⟩

theorem holds_createSymlink_iff (expected : change.expectedState = .symlink)
    (ran : change.perform tree mountCommand .createSymlink = (later, outcome))
    (needed : ¬ change.Holds tree) :
    change.Holds later ↔ outcome = none ∧ change.Lasting tree := by
  rcases osCall_cases ran with ⟨made, ended⟩ | ⟨-, same, failed⟩
  · rw [holds_of_symlink tree expected (FileTree.lstat_of_symlink made)]
    simp [ended]
  · rw [same]
    exact iff_of_false needed fun both => failed both.1

theorem holds_recreateSymlink_iff (expected : change.expectedState = .symlink)
    (ran : change.perform tree mountCommand .recreateSymlink = (later, outcome))
    (needed : ¬ change.Holds tree) :
    change.Holds later ↔ outcome = none ∧ change.Lasting tree := by
  have checked : FileChange.Checked change := by
    simp [FileChange.Checked, expected]
  rw [perform] at ran
  split at ran
  · obtain ⟨rfl, rfl⟩ := Prod.mk.inj ran
    exact iff_of_false needed fun both => by cases both.1
  rename_i middle removed
  rcases osCall_cases ran with ⟨made, ended⟩ | ⟨-, same, failed⟩
  · rw [holds_of_symlink tree expected (FileTree.lstat_of_symlink made)]
    simp [ended]
  · refine iff_of_false ?_ fun both => failed both.1
    rw [same, holds_iff checked]
    simp [ExpectedThere, expected, FileTree.lstat_of_remove removed]

theorem holds_remove_iff (expected : change.expectedState = .absent)
    (ran : change.perform tree mountCommand .remove = (later, outcome))
    (needed : ¬ change.Holds tree) :
    change.Holds later ↔ outcome = none ∧ change.Lasting tree := by
  have checked : FileChange.Checked change := by
    simp [FileChange.Checked, expected]
  rcases osCall_cases ran with ⟨removed, ended⟩ | ⟨-, same, failed⟩
  · rw [holds_iff checked]
    simp [ExpectedThere, Lasting, expected, ended,
      FileTree.lstat_of_remove removed]
  · rw [same]
    exact iff_of_false needed fun both => failed both.1

/-- The links of a directory are recreated where its path finds it again. -/
theorem holds_reorderSymlinks_iff
    (expected : change.expectedState = .symlinkInOrderConfigFS)
    (ran : change.perform tree mountCommand .reorderSymlinks = (later, outcome))
    (own : later.lstat change.path = tree.lstat change.path)
    (needed : ¬ change.Holds tree) :
    change.Holds later ↔ outcome = none ∧ change.Lasting tree := by
  have checked : FileChange.Checked change := by
    simp [FileChange.Checked, expected]
  rw [holds_iff checked] at needed ⊢
  simp only [ExpectedThere, Lasting, expected, not_or, own] at needed ⊢
  obtain ⟨noOther, notInOrder⟩ := needed
  by_cases directory : tree.lstat change.path = .ok .directory
  swap
  · simp [directory, noOther]
  have nonempty : change.paramSymlinks ≠ [] := by
    intro empty
    simp [directory, checkIfSymlinksInOrder, empty] at notInOrder
  obtain ⟨place, named, here⟩ := FileTree.lstat_eq_ok.mp directory
  obtain ⟨laterPlace, laterNamed, laterHere⟩ :=
    FileTree.lstat_eq_ok.mp (own.trans directory)
  have found := recreateSymlinks_inOrder_iff nonempty ran named here laterNamed
  rw [checkIfSymlinksInOrder_eq nonempty laterNamed laterHere, directory]
  by_cases same : change.paramSymlinks = change.linksAt later laterPlace
  · simpa [same] using found.mp same
  · rw [if_neg same]
    simpa using fun ended => not_and.mp (mt found.mpr same) ended

/-- A mount is found at a path that leads to itself. -/
theorem holds_mountConfigFS_iff
    (expected : change.expectedState = .mountedConfigFS)
    (ran : change.perform tree mountCommand .mountConfigFS = (later, outcome))
    (own : later.lstat change.path = tree.lstat change.path)
    (needed : ¬ change.Holds tree) :
    change.Holds later ↔ outcome = none ∧ change.Lasting tree := by
  have checked : FileChange.Checked change := by
    simp [FileChange.Checked, expected]
  have failed : later = tree → outcome ≠ none →
      (change.Holds later ↔ outcome = none ∧ change.Lasting tree) := by
    intro same failed
    rw [same]
    exact iff_of_false needed fun both => failed both.1
  rw [perform, mountConfigFS] at ran
  split at ran
  · obtain ⟨rfl, rfl⟩ := Prod.mk.inj ran
    exact failed rfl (by simp)
  rename_i place led
  split at ran
  · obtain ⟨rfl, rfl⟩ := Prod.mk.inj ran
    exact failed rfl (by simp)
  split at ran
  · obtain ⟨rfl, rfl⟩ := Prod.mk.inj ran
    exact failed rfl (by simp)
  rename_i mounted
  obtain ⟨rfl, rfl⟩ := Prod.mk.inj ran
  obtain ⟨directory, -, mounts⟩ := FileTree.mountAt_ok mounted
  rw [holds_iff checked] at needed ⊢
  simp only [ExpectedThere, Lasting, expected, not_or, own,
    checkIfDirIsMountPoint, mounts, List.find?_append] at needed ⊢
  obtain ⟨noOther, notMounted⟩ := needed
  constructor
  · rintro (other | ⟨seen, found⟩)
    · exact absurd other noOther
    cases before : tree.mounts.find? fun mount => mount.point = change.path with
    | some mount =>
        refine absurd ⟨seen, ?_⟩ notMounted
        simpa [before] using found
    | none =>
        have same : place = change.path := by
          by_contra differs
          simp [before, differs] at found
        rw [same] at directory
        rw [List.find?_eq_none] at before
        exact ⟨trivial, directory, fun mount member => by
          simpa using before mount member⟩
  · rintro ⟨-, here, fresh⟩
    have named := FileTree.placeOf_of_node (by rw [here]; simp)
    have same : place = change.path := by
      rw [FileTree.resolve_of_placeOf named (by simp [here])] at led
      exact (Except.ok.inj led).symm
    have before : tree.mounts.find? (fun mount => mount.point = change.path) =
        none := by
      rw [List.find?_eq_none]
      simpa using fresh
    refine Or.inr ⟨FileTree.lstat_eq_ok.mpr ⟨_, named, here⟩, ?_⟩
    simp [before, same]

/-- An operation that succeeds leaves the expected state where it lasts, and
nothing else does. -/
theorem holds_perform_iff (checked : FileChange.Checked change)
    {action : FileChangeResolvedAction}
    (asked : action ∈ actionsOf change.expectedState)
    (ran : change.perform tree mountCommand action = (later, outcome))
    (own : change.expectedState = .mountedConfigFS ∨
      change.expectedState = .symlinkInOrderConfigFS →
        later.lstat change.path = tree.lstat change.path)
    (needed : ¬ change.Holds tree) :
    change.Holds later ↔ outcome = none ∧ change.Lasting tree := by
  obtain ⟨notWrite, notTouch⟩ := checked
  cases expected : change.expectedState with
  | directory =>
      obtain rfl : action = .createDirectory := by
        simpa [actionsOf, expected] using asked
      exact holds_directory_iff expected ran needed
  | file =>
      obtain rfl : action = .createFile := by simpa [actionsOf, expected] using asked
      exact holds_file_iff (Or.inl expected) ran needed
  | fileContentMatch =>
      have either : action = .createFile ∨ action = .updateFile := by
        simpa [actionsOf, expected] using asked
      rcases either with rfl | rfl <;>
        exact holds_file_iff (Or.inr expected) ran needed
  | symlink =>
      have either : action = .createSymlink ∨ action = .recreateSymlink := by
        simpa [actionsOf, expected] using asked
      rcases either with rfl | rfl
      · exact holds_createSymlink_iff expected ran needed
      · exact holds_recreateSymlink_iff expected ran needed
  | symlinkInOrderConfigFS =>
      obtain rfl : action = .reorderSymlinks := by
        simpa [actionsOf, expected] using asked
      exact holds_reorderSymlinks_iff expected ran (own (Or.inr expected)) needed
  | absent =>
      obtain rfl : action = .remove := by simpa [actionsOf, expected] using asked
      exact holds_remove_iff expected ran needed
  | mountedConfigFS =>
      obtain rfl : action = .mountConfigFS := by
        simpa [actionsOf, expected] using asked
      exact holds_mountConfigFS_iff expected ran (own (Or.inl expected)) needed
  | fileWrite => exact absurd expected notWrite
  | touch => exact absurd expected notTouch
  | unknown => simp [actionsOf, expected] at asked
  | mounted => simp [actionsOf, expected] at asked
  | symlinkNotInOrderConfigFS => simp [actionsOf, expected] at asked

end Performed

end RequestedFileChange

end UsbGadget

end JetKvm
