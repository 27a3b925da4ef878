import JetKvm.FileTreeOperations

/-!
# What the operations on a file tree leave elsewhere

A path in a directory that is there names the place it spells.  An operation on
it changes nothing but what is at that place or below it, so a path apart from it
finds what it found before.
-/

namespace JetKvm

namespace FileTree

section Frames

variable {tree later : FileTree} {path place elsewhere : List String}
variable {content text : List UInt8}

theorem placeOf_of_held (held : tree.node path.dropLast = some .directory) :
    tree.placeOf path = .ok path := by
  rcases List.eq_nil_or_concat path with rfl | ⟨above, name, rfl⟩
  · rfl
  rw [List.concat_eq_append] at held ⊢
  rw [List.dropLast_concat] at held
  exact placeOf_append_of_dirAt (dirAt_of_node held)

theorem lstat_of_held (held : tree.node path.dropLast = some .directory) :
    tree.lstat path = tree.nodeAt path :=
  lstat_of_placeOf (placeOf_of_held held)

theorem resolve_of_held (held : tree.node path.dropLast = some .directory)
    (noLink : ∀ text, tree.node path ≠ some (.symlink text)) :
    tree.resolve path = .ok path :=
  resolve_of_placeOf (placeOf_of_held held) noLink

/-- Nothing has changed but what is at the path or below it. -/
structure ChangedBelow (tree later : FileTree) (path : List String) : Prop where
  node : ∀ place, ¬ path <+: place → later.node place = tree.node place
  mounts : later.mounts = tree.mounts

namespace ChangedBelow

theorem refl : ChangedBelow tree tree path := ⟨fun _ _ => rfl, rfl⟩

theorem trans {middle : FileTree} (first : ChangedBelow tree middle path)
    (second : ChangedBelow middle later path) : ChangedBelow tree later path where
  node place apart := (second.node place apart).trans (first.node place apart)
  mounts := second.mounts.trans first.mounts

theorem of_changed {value : Option Node}
    (changed : Changed tree later place value) (below : path <+: place) :
    ChangedBelow tree later path where
  node elsewhere apart := by
    refine changed.apart ?_
    rintro rfl
    exact apart below
  mounts := changed.mounts_eq

theorem held (changed : ChangedBelow tree later path)
    (held : tree.node elsewhere.dropLast = some .directory)
    (apart : path <+: elsewhere → elsewhere = path) :
    later.node elsewhere.dropLast = some .directory := by
  by_cases below : path <+: elsewhere.dropLast
  · obtain rfl := apart (below.trans (List.dropLast_prefix _))
    have empty : elsewhere = [] := by
      have short := below.length_le
      rw [List.length_dropLast] at short
      exact List.length_eq_zero_iff.mp (by omega)
    rw [empty]
    exact later.root
  · rw [changed.node _ below, held]

theorem lstat (changed : ChangedBelow tree later path)
    (held : tree.node elsewhere.dropLast = some .directory)
    (apart : ¬ path <+: elsewhere) :
    later.lstat elsewhere = tree.lstat elsewhere := by
  rw [lstat_of_held held, lstat_of_held (changed.held held fun below =>
    absurd below apart), nodeAt, nodeAt, changed.node _ apart]

end ChangedBelow

theorem entries_congr
    (same : ∀ name, later.node (place ++ [name]) = tree.node (place ++ [name])) :
    later.entries place = tree.entries place := by
  have distinct : Std.Irrefl fun file other : String × Node => file.1 < other.1 :=
    ⟨fun file => lt_irrefl file.1⟩
  have ordered : Std.Antisymm fun file other : String × Node =>
      file.1 < other.1 :=
    ⟨fun _ _ before after => absurd before after.asymm⟩
  refine pairwise_entries.eq_of_mem_iff pairwise_entries fun file => ?_
  rw [mem_entries, mem_entries, same]

/-! What each operation at a path changes. -/

theorem changedBelow_symlink (held : tree.node path.dropLast = some .directory)
    (made : tree.symlink text path = .ok later) :
    ChangedBelow tree later path := by
  obtain ⟨place, named, -, -, changed⟩ := symlink_ok made
  obtain rfl := Except.ok.inj ((placeOf_of_held held).symm.trans named)
  exact .of_changed changed (List.prefix_refl _)

theorem changedBelow_remove (held : tree.node path.dropLast = some .directory)
    (removed : tree.remove path = .ok later) :
    ChangedBelow tree later path := by
  obtain ⟨place, named, -, -, changed⟩ := remove_ok removed
  obtain rfl := Except.ok.inj ((placeOf_of_held held).symm.trans named)
  exact .of_changed changed (List.prefix_refl _)

theorem changedBelow_writeFile (held : tree.node path.dropLast = some .directory)
    (noLink : ∀ text, tree.node path ≠ some (.symlink text))
    (written : tree.writeFile path content = .ok later) :
    ChangedBelow tree later path := by
  obtain ⟨place, led, outcome⟩ := writeFile_ok written
  obtain rfl := Except.ok.inj ((resolve_of_held held noLink).symm.trans led)
  rcases outcome with ⟨-, rfl⟩ | ⟨-, changed⟩
  · exact .refl
  · exact .of_changed changed (List.prefix_refl _)

theorem changedBelow_mkdirAll {outcome : Option Errno}
    (held : tree.node path.dropLast = some .directory)
    (ran : tree.mkdirAll path = (later, outcome)) :
    ChangedBelow tree later path := by
  rcases List.eq_nil_or_concat path with rfl | ⟨above, name, rfl⟩
  · cases ran
    exact .refl
  rw [List.concat_eq_append] at held ran ⊢
  have parentHeld := held
  rw [List.dropLast_concat] at parentHeld
  have seen : tree.stat above = .ok .directory := stat_eq_ok.mpr
    ⟨above, resolve_of_dirAt (dirAt_of_node parentHeld), parentHeld⟩
  have there : mkdirAllOf above.reverse tree = (tree, none) := by
    rw [← List.reverse_reverse above] at seen
    cases names : above.reverse with
    | nil => rfl
    | cons last rest =>
        rw [names, List.reverse_cons] at seen
        simp [mkdirAllOf, seen]
  rw [mkdirAll, List.reverse_append, List.reverse_singleton,
    List.singleton_append] at ran
  rcases mkdirAllOf_cases ran with ⟨-, rfl, -⟩ | ⟨-, rfl, -⟩ |
    ⟨-, ⟨errno, failed, -⟩ | ⟨middle, made, last⟩⟩
  · exact .refl
  · exact .refl
  · rw [there] at failed
    cases failed
  rw [there] at made
  cases made
  rw [List.reverse_reverse] at last
  rcases mkdirLast_cases last with ⟨made, -⟩ | ⟨-, rfl, -⟩
  · obtain ⟨place, named, -, changed⟩ := mkdir_ok made
    obtain rfl := Except.ok.inj ((placeOf_of_held held).symm.trans named)
    exact .of_changed changed (List.prefix_refl _)
  · exact .refl

end Frames

end FileTree

end JetKvm
