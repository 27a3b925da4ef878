import JetKvm.UsbChangeTurns

/-!
# Applying a change set again

A change set that was applied should find its expected states and have nothing to
do when it is applied again.  It does exactly where each change, when its turn
comes, either has nothing to do or does something that lasts.
-/

namespace JetKvm

namespace UsbGadget

open RequestedFileChange (unconditional)

/-- The two ask for the same at the same path. -/
def RequestedFileChange.AsksSame (change other : RequestedFileChange) : Prop :=
  change.path = other.path ∧
    change.expectedState = other.expectedState ∧
    change.expectedContent = other.expectedContent ∧
    change.paramSymlinks = other.paramSymlinks

instance (change other : RequestedFileChange) :
    Decidable (change.AsksSame other) :=
  inferInstanceAs (Decidable (_ ∧ _ ∧ _ ∧ _))

/-! ### Turns that settle a change -/

namespace Turn

variable (turn : Turn)

/-- The expected state is there, or the operation succeeds and leaves it. -/
def Settles : Prop :=
  turn.change.Holds turn.before ∨
    turn.action ≠ .doNothing ∧ turn.error = none ∧
      turn.change.Lasting turn.before

instance : Decidable turn.Settles :=
  inferInstanceAs (Decidable (_ ∨ _ ∧ _ ∧ _))

/-- A change is settled by its turn, or by that of one with its key that asks for
the same.  One that asks for something else has to find the expected state and
nothing to do, or to leave that state. -/
def SettlesFor (requested : RequestedFileChange) : Prop :=
  if turn.change.AsksSame requested then turn.Settles
  else if turn.action = .doNothing then requested.Holds turn.before
  else requested.Holds turn.after

instance (requested : RequestedFileChange) :
    Decidable (turn.SettlesFor requested) :=
  inferInstanceAs (Decidable
    (if turn.change.AsksSame requested then turn.Settles
      else if turn.action = .doNothing then requested.Holds turn.before
      else requested.Holds turn.after))

end Turn

/-! ### One turn -/

section OneTurn

variable {mountCommand : MountCommand} {change : RequestedFileChange}
variable {tree : FileTree}

theorem holds_iff_of_asksSame {other : RequestedFileChange}
    (checked : FileChange.Checked change) (same : other.AsksSame change) :
    other.Holds tree ↔ change.Holds tree := by
  have otherChecked : FileChange.Checked other := by
    unfold FileChange.Checked
    rwa [same.2.1]
  rw [RequestedFileChange.holds_iff otherChecked,
    RequestedFileChange.holds_iff checked]
  cases other
  cases change
  obtain ⟨rfl, rfl, rfl, rfl⟩ := same
  exact Iff.rfl

theorem applyChange_eq (known : FileChange) :
    known.applyChange mountCommand tree =
      known.perform tree mountCommand
        (known.getFileChangeResolvedAction tree).2 := rfl

/-- After its turn the expected state of a change holds exactly where the turn
settles it. -/
theorem holds_iff_settles {turn : Turn}
    (taken : turn.change.applyChange mountCommand turn.before =
      (turn.after, turn.error))
    (checked : FileChange.Checked turn.change.toRequestedFileChange)
    (own : turn.change.expectedState = .mountedConfigFS ∨
      turn.change.expectedState = .symlinkInOrderConfigFS →
        turn.after.lstat turn.change.path = turn.before.lstat turn.change.path) :
    turn.change.Holds turn.after ↔ turn.Settles := by
  unfold Turn.Settles
  by_cases holds : turn.change.Holds turn.before
  · have nothing : turn.change.applyChange mountCommand turn.before =
        (turn.before, none) := applyChange_of_idle (idle_of_holds checked holds)
    rw [taken, Prod.mk.injEq] at nothing
    rw [nothing.1]
    exact iff_of_true holds (Or.inl holds)
  · rw [applyChange_eq] at taken
    rcases RequestedFileChange.action_mem turn.change turn.before with
      nothing | asked
    · rw [nothing] at taken
      obtain ⟨same, -⟩ := Prod.mk.inj taken
      rw [← same]
      simp [holds, Turn.action, nothing]
    · rw [RequestedFileChange.holds_perform_iff checked asked taken own holds]
      have needed : turn.action ≠ .doNothing := by
        intro nothing
        rw [Turn.action] at nothing
        rw [nothing] at asked
        unfold RequestedFileChange.actionsOf at asked
        split at asked <;> simp at asked
      simp [holds, needed]

theorem holds_iff_settlesFor {turn : Turn}
    (taken : turn.change.applyChange mountCommand turn.before =
      (turn.after, turn.error))
    (checked : FileChange.Checked change)
    (own : turn.change.expectedState = .mountedConfigFS ∨
      turn.change.expectedState = .symlinkInOrderConfigFS →
        turn.after.lstat turn.change.path = turn.before.lstat turn.change.path) :
    change.Holds turn.after ↔ turn.SettlesFor change := by
  unfold Turn.SettlesFor
  split_ifs with same idle
  · have turnChecked : FileChange.Checked turn.change.toRequestedFileChange := by
      unfold FileChange.Checked
      rwa [same.2.1]
    rw [← holds_iff_of_asksSame checked same]
    exact holds_iff_settles taken turnChecked own
  · rw [applyChange_eq] at taken
    rw [Turn.action] at idle
    rw [idle] at taken
    obtain ⟨unchanged, -⟩ := Prod.mk.inj taken
    rw [← unchanged]
  · exact Iff.rfl

end OneTurn

/-! ### Whole runs -/

section WholeRuns

variable {mountCommand : MountCommand} {changes : List RequestedFileChange}
variable {resolved : List FileChange} {tree final : FileTree}

theorem exists_turn {change : FileChange} (member : change ∈ resolved) :
    ∃ turn ∈ turnsOf mountCommand resolved tree, turn.change = change := by
  rw [← changes_turnsOf mountCommand resolved tree] at member
  exact List.mem_map.mp member

theorem applyChanges_cons {change : FileChange}
    (ran : applyChanges mountCommand (change :: resolved) tree = (final, none)) :
    applyChanges mountCommand resolved
      (change.applyChange mountCommand tree).1 = (final, none) := by
  rw [applyChanges] at ran
  split at ran
  · rename_i later taken
    rwa [taken]
  · rename_i later error taken
    split at ran
    · rwa [taken]
    · cases ran

/-- What every turn leaves as it sees it is so at the end. -/
theorem sees_of_turns {change : RequestedFileChange}
    (ran : applyChanges mountCommand resolved tree = (final, none))
    (kept : ∀ turn ∈ turnsOf mountCommand resolved tree,
      change.Sees turn.after = change.Sees turn.before) :
    change.Sees final = change.Sees tree := by
  induction resolved generalizing tree with
  | nil =>
      cases ran
      rfl
  | cons first resolved ih =>
      have rest := ih (applyChanges_cons ran) fun turn member =>
        kept turn (List.mem_cons_of_mem _ member)
      exact rest.trans (kept _ List.mem_cons_self)

/-- Once a change had its turn it sees the same until the end. -/
theorem sees_after_turn
    (ran : applyChanges mountCommand resolved tree = (final, none))
    (later : (turnsOf mountCommand resolved tree).Pairwise fun earlier later =>
      ∀ change ∈ unconditional changes,
        change.resolvedKey = earlier.change.resolvedKey →
          change.Sees later.after = change.Sees later.before)
    {turn : Turn} (turnIn : turn ∈ turnsOf mountCommand resolved tree)
    {change : RequestedFileChange} (member : change ∈ unconditional changes)
    (sameKey : turn.change.resolvedKey = change.resolvedKey) :
    change.Sees final = change.Sees turn.after := by
  induction resolved generalizing tree with
  | nil => simp [turnsOf] at turnIn
  | cons first resolved ih =>
      rw [turnsOf, List.pairwise_cons] at later
      have rest := applyChanges_cons ran
      rcases List.mem_cons.mp turnIn with rfl | turnIn
      · exact sees_of_turns rest fun turn turnIn =>
          later.1 turn turnIn change member sameKey.symm
      · exact ih rest later.2 turnIn

theorem apply_ok {orders : Orders}
    (applied : apply mountCommand orders changes tree = (final, none)) :
    ∃ resolved, getChanges orders changes tree = .ok resolved ∧
      applyChanges mountCommand resolved tree = (final, none) := by
  unfold apply at applied
  split at applied
  · cases applied
  · rename_i resolved done
    refine ⟨resolved, done, ?_⟩
    obtain ⟨sameTree, noError⟩ := Prod.mk.inj applied
    rw [Option.map_eq_none_iff] at noError
    exact Prod.ext sameTree noError

theorem action_of_idle
    (idle : ∀ change ∈ resolved, Idle tree change.toRequestedFileChange) :
    ∀ turn ∈ turnsOf mountCommand resolved tree, turn.action = .doNothing := by
  induction resolved with
  | nil => simp [turnsOf]
  | cons change resolved ih =>
      have quiet : change.applyChange mountCommand tree = (tree, none) :=
        applyChange_of_idle (idle change (by simp))
      intro turn member
      rw [turnsOf, quiet] at member
      rcases List.mem_cons.mp member with rfl | member
      · exact idle change (by simp) change rfl
      · exact ih (fun change member => idle change (by simp [member])) turn member

end WholeRuns

/-- A change set that was applied finds its expected states, and has nothing to
do when it is applied again, if and only if each unconditional change was
settled by its turn. -/
theorem holdsAgain_iff_settles (mountCommand : MountCommand) (orders : Orders)
    (changes : List RequestedFileChange) (tree final : FileTree)
    (checked : ∀ change ∈ changes, FileChange.Checked change)
    (fit : orders.Fit changes tree)
    (undisturbed : Undisturbed changes (run mountCommand orders changes tree))
    (applied : apply mountCommand orders changes tree = (final, none)) :
    ((∀ change ∈ unconditional changes, change.Holds final) ∧
      ∀ again : Orders, again.Fit changes final →
        apply mountCommand again changes final = (final, none) ∧
        ∀ turn ∈ run mountCommand again changes final,
          turn.action = .doNothing) ↔
      ∀ change ∈ unconditional changes,
        ∀ turn ∈ run mountCommand orders changes tree,
          turn.change.resolvedKey = change.resolvedKey →
            turn.SettlesFor change := by
  obtain ⟨resolved, done, ran⟩ := apply_ok applied
  have runIs : run mountCommand orders changes tree =
      turnsOf mountCommand resolved tree := by
    rw [run, done]
  rw [runIs] at undisturbed ⊢
  have checkedOf : ∀ change ∈ unconditional changes, FileChange.Checked change :=
    fun change member => checked change (List.mem_filter.mp member).1
  have settles : ∀ change ∈ unconditional changes,
      ∀ turn ∈ turnsOf mountCommand resolved tree,
        turn.change.resolvedKey = change.resolvedKey →
          (change.Holds final ↔ turn.SettlesFor change) := by
    intro change member turn turnIn sameKey
    have sees := sees_after_turn ran undisturbed.later turnIn member sameKey
    rw [holds_congr (checkedOf change member) sees]
    exact holds_iff_settlesFor (applyChange_of_mem turnIn)
      (checkedOf change member) (undisturbed.own turn turnIn)
  constructor
  · rintro ⟨holds, -⟩ change member turn turnIn sameKey
    exact (settles change member turn turnIn sameKey).mp (holds change member)
  · intro settled
    have holds : ∀ change ∈ unconditional changes, change.Holds final := by
      intro change member
      obtain ⟨found, foundIn, sameKey⟩ := exists_resolved fit done member
      obtain ⟨turn, turnIn, rfl⟩ := exists_turn foundIn
      exact (settles change member turn turnIn sameKey).mpr
        (settled change member turn turnIn sameKey)
    refine ⟨holds, ?_⟩
    intro again fitAgain
    obtain ⟨maps, order, collected, ordered⟩ := exists_topologicalOrder fit done
    obtain ⟨resolvedAgain, doneAgain, idle⟩ :=
      getChanges_of_idle fitAgain collected ordered fun change member =>
        idle_of_holds (checkedOf change member) (holds change member)
    rw [apply, run, doneAgain]
    dsimp only
    rw [applyChanges_of_idle idle]
    exact ⟨rfl, action_of_idle idle⟩

/-! ### Links that are asked for out of the order of their names -/

/-- The links of a keyboard and of a serial console, in the order the gadget
asks for them. -/
def linksOutOfOrder : List RequestedFileChange :=
  [{ key := "reorder-symlinks"
     path := ["c.1"]
     expectedState := .symlinkInOrderConfigFS
     paramSymlinks :=
       [{ path := ["c.1", "hid.usb0"], target := bytesOf "/functions/hid.usb0" },
         { path := ["c.1", "acm.usb0"], target := bytesOf "/functions/acm.usb0" }] }]

def noMount : MountCommand := fun _ _ => none

def onlyReorder : Orders where
  initial := some ["reorder-symlinks"]

def emptyConfig : FileTree := (FileTree.empty.mkdirAll ["c.1"]).1

/-- Such links are found out of order as soon as they are made. -/
theorem linksOutOfOrder_not_holdsAgain :
    ¬ ∀ (mountCommand : MountCommand) (orders : Orders)
        (changes : List RequestedFileChange) (tree final : FileTree),
      (∀ change ∈ changes, FileChange.Checked change) →
      orders.Fit changes tree →
      Undisturbed changes (run mountCommand orders changes tree) →
      apply mountCommand orders changes tree = (final, none) →
      (∀ change ∈ unconditional changes, change.Holds final) ∧
        ∀ again : Orders, again.Fit changes final →
          apply mountCommand again changes final = (final, none) ∧
          ∀ turn ∈ run mountCommand again changes final,
            turn.action = .doNothing := by
  intro claimed
  have undisturbed : Undisturbed linksOutOfOrder
      (run noMount onlyReorder linksOutOfOrder emptyConfig) :=
    ⟨by decide +kernel, by decide +kernel⟩
  have applied : (apply noMount onlyReorder linksOutOfOrder emptyConfig).2 =
      none := by decide +kernel
  obtain ⟨holds, -⟩ := claimed noMount onlyReorder linksOutOfOrder emptyConfig
    (apply noMount onlyReorder linksOutOfOrder emptyConfig).1
    (by decide) (Orders.fit_of_fits (by decide +kernel)) undisturbed
    (Prod.ext rfl applied)
  exact absurd holds (by decide +kernel)

/-- A directory, a file in it and a file that is to be gone. -/
def directoryAndFile : List RequestedFileChange :=
  [{ path := ["g1"], expectedState := .directory },
    { path := ["g1", "idVendor"]
      expectedState := .fileContentMatch
      expectedContent := bytesOf "0x1d6b"
      dependsOn := ["/g1"] },
    { path := ["c.1"], expectedState := .absent }]

def directoryFirst : Orders where
  initial := some ["/c.1", "/g1", "/g1/idVendor"]

theorem directoryAndFile_holdAgain :
    let final :=
      (apply noMount directoryFirst directoryAndFile emptyConfig).1
    (∀ change ∈ unconditional directoryAndFile, change.Holds final) ∧
      ∀ again : Orders, again.Fit directoryAndFile final →
        apply noMount again directoryAndFile final = (final, none) ∧
        ∀ turn ∈ run noMount again directoryAndFile final,
          turn.action = .doNothing := by
  have undisturbed : Undisturbed directoryAndFile
      (run noMount directoryFirst directoryAndFile emptyConfig) :=
    ⟨by decide +kernel, by decide +kernel⟩
  have applied :
      (apply noMount directoryFirst directoryAndFile emptyConfig).2 = none := by
    decide +kernel
  exact (holdsAgain_iff_settles noMount directoryFirst directoryAndFile
    emptyConfig (apply noMount directoryFirst directoryAndFile emptyConfig).1
    (by decide) (Orders.fit_of_fits (by decide +kernel)) undisturbed
    (Prod.ext rfl applied)).mpr (by decide +kernel)

end UsbGadget

end JetKvm
