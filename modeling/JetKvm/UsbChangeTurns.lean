import JetKvm.FileTreeFrames
import JetKvm.UsbChangeRounds

/-!
# The turns of a change set

The changes have their turns one after the other, and no turn should alter what a
change that had its turn before sees.  Where the paths are apart none does,
whatever the order.
-/

namespace JetKvm

namespace UsbGadget

open RequestedFileChange (unconditional)

/-- The turn of a change, with the trees before and after it. -/
structure Turn where
  before : FileTree
  change : FileChange
  error : Option ChangeError
  after : FileTree

namespace Turn

variable (turn : Turn)

def action : FileChangeResolvedAction :=
  (turn.change.getFileChangeResolvedAction turn.before).2

end Turn

section Runs

variable (mountCommand : MountCommand)

def turnsOf : List FileChange → FileTree → List Turn
  | [], _ => []
  | change :: rest, tree =>
      let outcome := change.applyChange mountCommand tree
      { before := tree, change, error := outcome.2, after := outcome.1 } ::
        turnsOf rest outcome.1

theorem changes_turnsOf (resolved : List FileChange) (tree : FileTree) :
    (turnsOf mountCommand resolved tree).map Turn.change = resolved := by
  induction resolved generalizing tree with
  | nil => rfl
  | cons change resolved ih => simp [turnsOf, ih]

/-- The turns of `Apply`. -/
def run (orders : Orders) (changes : List RequestedFileChange)
    (tree : FileTree) : List Turn :=
  match getChanges orders changes tree with
  | .error _ => []
  | .ok resolved => turnsOf mountCommand resolved tree

end Runs

/-- What a first look at the path of a change finds. -/
def RequestedFileChange.Sees (change : RequestedFileChange) (tree : FileTree) :
    FileChange × Option ChangeError :=
  change.fresh.getActualState tree

/-- The paths of the changes do not interfere: a mount or a reordering leaves
what its own path names, and no turn alters what a change that had its turn
before sees. -/
structure Undisturbed (changes : List RequestedFileChange)
    (turns : List Turn) : Prop where
  own : ∀ turn ∈ turns,
    turn.change.expectedState = .mountedConfigFS ∨
      turn.change.expectedState = .symlinkInOrderConfigFS →
    turn.after.lstat turn.change.path = turn.before.lstat turn.change.path
  later : turns.Pairwise fun earlier later =>
    ∀ change ∈ unconditional changes,
      change.resolvedKey = earlier.change.resolvedKey →
        change.Sees later.after = change.Sees later.before

/-! ### Looks that agree -/

section OneTurn

variable {mountCommand : MountCommand} {change : RequestedFileChange}
variable {tree : FileTree}

theorem holds_congr {later : FileTree} (checked : FileChange.Checked change)
    (same : change.Sees later = change.Sees tree) :
    change.Holds later ↔ change.Holds tree := by
  unfold RequestedFileChange.Sees at same
  unfold RequestedFileChange.Holds
  rw [FileChange.action_eq checked, FileChange.action_eq checked, same]

/-- Where the expected state holds there is nothing to do, whatever is
remembered. -/
theorem idle_of_holds (checked : FileChange.Checked change)
    (holds : change.Holds tree) : Idle tree change := by
  rintro known rfl
  by_cases device : tree.lstat known.path = .ok .device
  · -- No look at a device finds a state that was asked for.
    have looked := (RequestedFileChange.holds_iff checked).mp holds
    rw [device] at looked
    rcases RequestedFileChange.action_mem known tree with nothing | asked
    · exact nothing
    · exfalso
      obtain ⟨notWrite, notTouch⟩ := checked
      cases expected : known.expectedState <;>
        simp_all [RequestedFileChange.ExpectedThere,
          RequestedFileChange.actionsOf]
  · have same : (known.fresh.getFileChangeResolvedAction tree).2 =
        (known.getFileChangeResolvedAction tree).2 :=
      FileChange.action_congr rfl device
    exact same.symm.trans holds

end OneTurn

section WholeRuns

variable {mountCommand : MountCommand} {resolved : List FileChange}
variable {tree : FileTree}

theorem applyChange_of_mem {turn : Turn}
    (member : turn ∈ turnsOf mountCommand resolved tree) :
    turn.change.applyChange mountCommand turn.before =
      (turn.after, turn.error) := by
  induction resolved generalizing tree with
  | nil => simp [turnsOf] at member
  | cons change resolved ih =>
      rcases List.mem_cons.mp member with rfl | member
      · rfl
      · exact ih member

end WholeRuns

/-! ### Paths apart -/

namespace RequestedFileChange

/-- The directory of a change is there, as it is asked for. -/
def Standing (change : RequestedFileChange) (tree : FileTree) : Prop :=
  FileChange.Checked change ∧ change.Holds tree ∧
    tree.node change.path = some .directory

instance (change : RequestedFileChange) (tree : FileTree) :
    Decidable (change.Standing tree) :=
  inferInstanceAs (Decidable (_ ∧ _ ∧ _))

/-- Only a change that is about a link has one at its path. -/
def Direct (change : RequestedFileChange) (tree : FileTree) : Prop :=
  match tree.node change.path with
  | some (.symlink _) =>
      change.expectedState = .symlink ∨ change.expectedState = .absent
  | _ => True

instance (change : RequestedFileChange) (tree : FileTree) :
    Decidable (change.Direct tree) := by
  unfold Direct
  split <;> infer_instance

section Performed

open FileTree (ChangedBelow)

variable {mountCommand : MountCommand} {change : RequestedFileChange}
variable {tree later : FileTree} {outcome : Option ChangeError}

theorem changedBelow_osCall {call : Except Errno FileTree} {path : Path}
    (changes : ∀ later, call = .ok later → ChangedBelow tree later path)
    (ran : osCall tree call = (later, outcome)) :
    ChangedBelow tree later path := by
  rcases osCall_cases ran with ⟨done, -⟩ | ⟨-, rfl, -⟩
  · exact changes later done
  · exact .refl

/-- What is done about a change stays at its path and below it, unless it mounts
or reorders. -/
theorem changedBelow_perform {action : FileChangeResolvedAction}
    (held : tree.node change.path.dropLast = some .directory)
    (direct : change.Direct tree)
    (notMount : change.expectedState ≠ .mountedConfigFS)
    (notInOrder : change.expectedState ≠ .symlinkInOrderConfigFS)
    (asked : action = .doNothing ∨ action ∈ actionsOf change.expectedState)
    (ran : change.perform tree mountCommand action = (later, outcome)) :
    ChangedBelow tree later change.path := by
  have written : change.expectedState ≠ .symlink →
      change.expectedState ≠ .absent →
      osCall tree (tree.writeFile change.path change.expectedContent) =
        (later, outcome) → ChangedBelow tree later change.path :=
    fun notLink notAbsent => changedBelow_osCall fun _ =>
      FileTree.changedBelow_writeFile held fun text found => by
        simp [Direct, found, notLink, notAbsent] at direct
  have linked : ∀ {tree : FileTree},
      tree.node change.path.dropLast = some .directory →
      osCall tree (tree.symlink change.expectedContent change.path) =
        (later, outcome) → ChangedBelow tree later change.path :=
    fun held => changedBelow_osCall fun _ => FileTree.changedBelow_symlink held
  cases action with
  | doNothing =>
      cases ran
      exact .refl
  | writeFile | updateFile | createFile =>
      refine written ?_ ?_ ran <;> intro expected <;>
        simp [expected, actionsOf] at asked
  | createSymlink => exact linked held ran
  | recreateSymlink =>
      rw [perform] at ran
      split at ran
      · cases ran
        exact .refl
      · rename_i middle removed
        have first := FileTree.changedBelow_remove held removed
        exact first.trans (linked (first.held held fun _ => rfl) ran)
  | remove =>
      exact changedBelow_osCall (fun _ => FileTree.changedBelow_remove held) ran
  | createDirectory =>
      obtain ⟨rfl, -⟩ := Prod.mk.inj ran
      exact FileTree.changedBelow_mkdirAll held rfl
  | touch =>
      rw [perform] at ran
      split at ran <;> cases ran <;> exact .refl
  | reorderSymlinks | mountConfigFS =>
      cases expected : change.expectedState <;>
        simp_all [actionsOf]

/-- A change sees the same where nothing has changed at its path, nor, if it asks
for an order of links, in its directory. -/
theorem sees_congr {path : Path} (changed : ChangedBelow tree later path)
    (held : tree.node change.path.dropLast = some .directory)
    (apart : ¬ path <+: change.path)
    (links : change.expectedState = .symlinkInOrderConfigFS →
      ¬ change.path <+: path) :
    change.Sees later = change.Sees tree := by
  have same : later.lstat change.fresh.path = tree.lstat change.fresh.path :=
    changed.lstat held apart
  unfold Sees FileChange.getActualState
  rw [same]
  cases seen : tree.lstat change.fresh.path with
  | error errno => cases errno <;> rfl
  | ok kind =>
    cases kind with
    | directory =>
        have mounts : change.checkIfDirIsMountPoint later =
            change.checkIfDirIsMountPoint tree := by
          unfold checkIfDirIsMountPoint
          rw [changed.mounts]
        have ordered (expected : change.expectedState = .symlinkInOrderConfigFS) :
            change.checkIfSymlinksInOrder later =
              change.checkIfSymlinksInOrder tree := by
          by_cases nothing : change.paramSymlinks = []
          · simp [checkIfSymlinksInOrder, nothing]
          have named := FileTree.placeOf_of_held held
          have here := FileTree.nodeAt_eq_ok.mp
            ((FileTree.lstat_of_placeOf named).symm.trans seen)
          have laterHere := (changed.node _ apart).trans here
          have listed : later.entries change.path = tree.entries change.path := by
            refine FileTree.entries_congr fun name => changed.node _ fun below => ?_
            rcases List.prefix_concat_iff.mp below with own | below
            · exact links expected (own ▸ List.prefix_append _ _)
            · exact apart below
          rw [checkIfSymlinksInOrder_eq nothing named here,
            checkIfSymlinksInOrder_eq nothing (FileTree.placeOf_of_node
              (by rw [laterHere]; simp)) laterHere,
            linksAt, linksAt, FileTree.links, FileTree.links, listed]
        dsimp only [fresh]
        rw [mounts]
        cases expected : change.expectedState with
        | symlinkInOrderConfigFS => rw [ordered expected]
        | _ => rfl
    | file content =>
        dsimp only
        rw [FileTree.readFile_of_lstat seen,
          FileTree.readFile_of_lstat (same.trans seen)]
    | _ => rfl

end Performed

end RequestedFileChange

/-- The directory of each path is there, mounts and orders are as they are asked
for, and no path is at or below another, unless that is of a directory that is
there. -/
structure PathsApart (changes : List RequestedFileChange) (tree : FileTree) :
    Prop where
  held : ∀ change ∈ changes, tree.node change.path.dropLast = some .directory
  settled : ∀ change ∈ changes, change.expectedState = .mountedConfigFS ∨
    change.expectedState = .symlinkInOrderConfigFS → change.Standing tree
  apart : ∀ change ∈ changes, ∀ other ∈ changes, change ≠ other →
    change.path <+: other.path →
      change.expectedState ≠ .symlinkInOrderConfigFS ∧ change.Standing tree

section PathsApart

open RequestedFileChange

variable {mountCommand : MountCommand} {changes : List RequestedFileChange}
variable {tree later : FileTree} {outcome : Option ChangeError}
variable {known : FileChange} {resolved : List FileChange}

/-- A turn disturbs no other change, and leaves the paths apart. -/
theorem PathsApart.applyChange (apart : PathsApart changes tree)
    (member : known.toRequestedFileChange ∈ changes) (direct : known.Direct tree)
    (ran : known.applyChange mountCommand tree = (later, outcome)) :
    PathsApart changes later ∧ (known.Standing tree → later = tree) ∧
      ∀ change ∈ changes, change ≠ known.toRequestedFileChange →
        change.Sees later = change.Sees tree ∧
          (change.Direct tree → change.Direct later) := by
  by_cases standing : known.Standing tree
  · obtain ⟨checked, holds, -⟩ := standing
    rw [applyChange_of_idle (idle_of_holds checked holds)] at ran
    cases ran
    exact ⟨apart, fun _ => rfl, fun _ _ _ => ⟨rfl, id⟩⟩
  have changed := changedBelow_perform (apart.held _ member) direct
    (fun mount => standing (apart.settled _ member (Or.inl mount)))
    (fun order => standing (apart.settled _ member (Or.inr order)))
    (action_mem known tree) ran
  have off : ∀ change ∈ changes, change ≠ known.toRequestedFileChange →
      ¬ known.path <+: change.path := fun change changeIn other below =>
    standing (apart.apart _ member _ changeIn other.symm below).2
  have sees : ∀ change ∈ changes, change ≠ known.toRequestedFileChange →
      change.Sees later = change.Sees tree := by
    intro change changeIn other
    exact sees_congr changed (apart.held _ changeIn) (off _ changeIn other)
      fun expected below =>
        (apart.apart _ changeIn _ member other below).1 expected
  have stands : ∀ change ∈ changes, change.Standing tree →
      change.Standing later := by
    rintro change changeIn before
    have other : change ≠ known.toRequestedFileChange := by
      rintro rfl
      exact standing before
    obtain ⟨checked, holds, here⟩ := before
    exact ⟨checked, (holds_congr checked (sees _ changeIn other)).mpr holds,
      (changed.node _ (off _ changeIn other)).trans here⟩
  refine ⟨⟨fun change changeIn => ?_, fun change changeIn asked =>
    stands _ changeIn (apart.settled _ changeIn asked),
    fun change changeIn other otherIn differ below =>
      (apart.apart _ changeIn _ otherIn differ below).imp_right
        (stands _ changeIn)⟩, fun yes => absurd yes standing, ?_⟩
  · refine changed.held (apart.held _ changeIn) fun below => ?_
    rw [by_contra fun other => off _ changeIn other below]
  · intro change changeIn other
    refine ⟨sees _ changeIn other, fun direct => ?_⟩
    unfold Direct at direct ⊢
    rwa [changed.node _ (off _ changeIn other)]

theorem PathsApart.turn (apart : PathsApart changes tree)
    (member : ∀ known ∈ resolved, known.toRequestedFileChange ∈ changes)
    (direct : ∀ known ∈ resolved, known.Direct tree)
    (distinct : (keysOf resolved).Nodup) :
    ∀ turn ∈ turnsOf mountCommand resolved tree,
      (turn.change.expectedState = .mountedConfigFS ∨
        turn.change.expectedState = .symlinkInOrderConfigFS →
        turn.after.lstat turn.change.path = turn.before.lstat turn.change.path) ∧
      ∀ change ∈ changes, change ≠ turn.change.toRequestedFileChange →
        change.Sees turn.after = change.Sees turn.before := by
  induction resolved generalizing tree with
  | nil => simp [turnsOf]
  | cons first resolved ih =>
      have ran : first.applyChange mountCommand tree =
          ((first.applyChange mountCommand tree).1, _) := rfl
      obtain ⟨laterApart, stays, others⟩ :=
        apart.applyChange (member first (by simp)) (direct first (by simp)) ran
      obtain ⟨fresh, distinct⟩ := List.nodup_cons.mp distinct
      intro turn turnIn
      rcases List.mem_cons.mp turnIn with rfl | turnIn
      · refine ⟨fun asked => ?_, fun change changeIn other =>
          (others change changeIn other).1⟩
        exact congrArg (FileTree.lstat · first.path)
          (stays (apart.settled _ (member first (by simp)) asked))
      · refine ih laterApart (fun known knownIn => member known (by simp [knownIn]))
          (fun known knownIn => ?_) distinct turn turnIn
        refine (others _ (member known (by simp [knownIn])) ?_).2
          (direct known (by simp [knownIn]))
        intro same
        exact fresh (List.mem_map.mpr ⟨known, knownIn, by rw [same]⟩)

/-- Where the paths are apart, no turn disturbs another, in any order. -/
theorem undisturbed_of_pathsApart {orders : Orders}
    (fit : orders.Fit changes tree) (apart : PathsApart changes tree)
    (direct : ∀ change ∈ changes, change.Direct tree) :
    Undisturbed changes (run mountCommand orders changes tree) := by
  unfold run
  cases done : getChanges orders changes tree with
  | error error => exact ⟨by simp, List.Pairwise.nil⟩
  | ok resolved =>
      obtain ⟨graph, settled⟩ := settled_of_getChanges fit done
      obtain ⟨order, sorted, part⟩ := settled.ordered
      have distinct := sorted.nodup.sublist part
      have each := @PathsApart.turn mountCommand _ _ _ apart settled.origin
        (fun known member => direct _ (settled.origin known member)) distinct
      refine ⟨fun turn member => (each turn member).1, ?_⟩
      have keys : (turnsOf mountCommand resolved tree).Pairwise fun earlier later =>
          earlier.change.resolvedKey ≠ later.change.resolvedKey := by
        rw [keysOf, ← changes_turnsOf mountCommand resolved tree, List.map_map]
          at distinct
        exact List.pairwise_map.mp distinct
      refine keys.imp_of_mem fun _ member differ change changeIn sameKey => ?_
      refine (each _ member).2 change (List.mem_filter.mp changeIn).1 ?_
      rintro rfl
      exact differ sameKey.symm

/-- A directory that is there, with a file to be written in it. -/
example :
    let tree := (FileTree.empty.mkdirAll ["g1"]).1
    let changes : List RequestedFileChange :=
      [{ path := ["g1"], expectedState := .directory },
        { path := ["g1", "idVendor"]
          expectedState := .fileContentMatch
          expectedContent := bytesOf "0x1d6b"
          dependsOn := ["/g1"] }]
    Undisturbed changes (run (fun _ _ => none)
      { initial := some ["/g1", "/g1/idVendor"] } changes tree) :=
  undisturbed_of_pathsApart (Orders.fit_of_fits (by decide +kernel))
    ⟨by decide +kernel, by decide +kernel, by decide +kernel⟩ (by decide +kernel)

end PathsApart

end UsbGadget

end JetKvm
