import JetKvm.UsbChangeSet

/-!
# The order of symlinks in a directory

What `changeset_symlink.go` finds after it has recreated the links of a directory.
It finds them by their names, in the order of a directory's listing, so only
links that were asked for in that order are ever found in order.
-/

namespace JetKvm

namespace UsbGadget

def Symlink.name (link : Symlink) : String := link.path.getLastD ""

namespace RequestedFileChange

variable {change : RequestedFileChange} {tree later : FileTree}
variable {place : List String} {outcome : Option ChangeError}

/-! ### What the look finds -/

/-- The links of a directory, as the path to it names them. -/
def linksAt (change : RequestedFileChange) (tree : FileTree)
    (place : List String) : List Symlink :=
  (tree.links place).map fun link =>
    { path := change.path ++ [link.1]
      target := absoluteTarget change.path link.2 }

/-- The link is one of the directory. -/
def Owns (change : RequestedFileChange) (link : Symlink) : Prop :=
  link.isAbs ∧ link.path = change.path ++ [link.name]

instance (change : RequestedFileChange) (link : Symlink) :
    Decidable (change.Owns link) :=
  inferInstanceAs (Decidable (_ ∧ _))

/-- The listing goes by the names. -/
def InReadingOrder (change : RequestedFileChange) : Prop :=
  (∀ link ∈ change.paramSymlinks,
    change.Owns link ∧ FileTree.isAbsolute link.target) ∧
  change.paramSymlinks.Pairwise fun link other => link.name < other.name

instance (change : RequestedFileChange) : Decidable change.InReadingOrder :=
  inferInstanceAs (Decidable (_ ∧ _))

theorem linkNames_entries :
    linkNames (tree.entries place) = (tree.links place).map Prod.fst := by
  unfold linkNames FileTree.links
  rw [List.map_filterMap]
  congr 1
  funext file
  cases file.2 <;> rfl

theorem mapM_readSymlink (directory : tree.dirAt change.path = .ok place) :
    (linkNames (tree.entries place)).mapM (change.readSymlink tree) =
      .ok (change.linksAt tree place) := by
  have found : ∀ link ∈ tree.links place,
      tree.node (place ++ [link.1]) = some (.symlink link.2) :=
    fun link member => FileTree.mem_links.mp member
  rw [linkNames_entries, linksAt]
  generalize tree.links place = links at found ⊢
  induction links with
  | nil => rfl
  | cons link links ih =>
      have rest := ih fun link member => found link (by simp [member])
      have seen : tree.lstat (change.path ++ [link.1]) =
          .ok (.symlink link.2) :=
        FileTree.lstat_eq_ok.mpr ⟨place ++ [link.1],
          FileTree.placeOf_append_of_dirAt directory, found link (by simp)⟩
      have read : change.readSymlink tree link.1 = .ok
          { path := change.path ++ [link.1]
            target := absoluteTarget change.path link.2 } := by
        rw [readSymlink, FileTree.readlink_of_lstat seen]
      rw [List.map_cons, List.mapM_cons, read, rest]
      rfl

theorem checkIfSymlinksInOrder_eq (nonempty : change.paramSymlinks ≠ [])
    (named : tree.placeOf change.path = .ok place)
    (directory : tree.node place = some .directory) :
    change.checkIfSymlinksInOrder tree =
      if change.paramSymlinks = change.linksAt tree place then
        .ok .symlinkInOrderConfigFS
      else .ok .symlinkNotInOrderConfigFS := by
  have seen : tree.lstat change.path = .ok .directory :=
    FileTree.lstat_eq_ok.mpr ⟨place, named, directory⟩
  have dirAt := FileTree.dirAt_of_placeOf named directory
  have listed : tree.readDir change.path = .ok (tree.entries place) := by
    rw [FileTree.readDir, dirAt]
    rfl
  unfold checkIfSymlinksInOrder
  rw [if_neg nonempty, seen, listed]
  simp only [mapM_readSymlink dirAt]

theorem isAbsolute_absoluteTarget (directory : Path) (target : Bytes) :
    FileTree.isAbsolute (absoluteTarget directory target) = true := by
  unfold absoluteTarget
  split
  · assumption
  · simp [FileTree.isAbsolute, bytesOf, pathText]

theorem absoluteTarget_of_isAbsolute {directory : Path} {target : Bytes}
    (absolute : FileTree.isAbsolute target = true) :
    absoluteTarget directory target = target := by
  simp [absoluteTarget, absolute]

/-- Only links in reading order are found. -/
theorem inReadingOrder_of_eq
    (found : change.paramSymlinks = change.linksAt tree place) :
    change.InReadingOrder := by
  unfold InReadingOrder
  rw [found, linksAt]
  constructor
  · intro link member
    obtain ⟨stored, -, rfl⟩ := List.mem_map.mp member
    simp [Owns, Symlink.name, isAbsolute_absoluteTarget]
  · rw [List.pairwise_map]
    simpa [Symlink.name] using FileTree.pairwise_links

/-! ### Removing the links and creating them -/

/-- The path still names its place, or a link on the way is gone. -/
def NamesOrGone (change : RequestedFileChange) (tree : FileTree)
    (place : List String) : Prop :=
  tree.placeOf change.path = .ok place ∨
    tree.placeOf change.path = .error .noEntry

theorem NamesOrGone.of_dirAt (either : change.NamesOrGone tree place)
    {parent : List String} (parentAt : tree.dirAt change.path = .ok parent) :
    tree.placeOf change.path = .ok place := by
  rcases either with named | gone
  · exact named
  · obtain ⟨own, named⟩ := FileTree.placeOf_of_dirAt parentAt
    rw [gone] at named
    cases named

theorem removeSymlink_ok {name : String}
    (removed : change.removeSymlink tree name = .ok later) :
    ∃ parent, tree.dirAt change.path = .ok parent ∧
      FileTree.Changed tree later (parent ++ [name]) none := by
  unfold removeSymlink at removed
  split at removed
  · cases removed
  · rename_i gone
    cases removed
    obtain ⟨own, named, -, -, changed⟩ := FileTree.remove_ok gone
    obtain ⟨parent, parentAt, rfl⟩ := FileTree.placeOf_append_ok named
    exact ⟨parent, parentAt, changed⟩

/-- Removing links takes nothing else away.  It fails only where the path went
through one of them. -/
theorem untilError_removeSymlink {names : List String}
    (ran : untilError change.removeSymlink names tree = (later, outcome))
    (either : change.NamesOrGone tree place)
    (directory : tree.node place = some .directory)
    (links : ∀ name ∈ names, ∃ text,
      tree.node (place ++ [name]) = some (.symlink text))
    (nodup : names.Nodup) :
    change.NamesOrGone later place ∧ later.node place = some .directory ∧
      (∀ elsewhere, (∀ name ∈ names, elsewhere ≠ place ++ [name]) →
        later.node elsewhere = tree.node elsewhere) ∧
      (outcome = none → ∀ name ∈ names, later.node (place ++ [name]) = none) ∧
      (outcome ≠ none → later.placeOf change.path = .error .noEntry) := by
  induction names generalizing tree with
  | nil =>
      cases ran
      exact ⟨either, directory, fun _ _ => rfl, by simp, fun no => absurd rfl no⟩
  | cons name names ih =>
      rw [untilError] at ran
      obtain ⟨fresh, nodup⟩ := List.nodup_cons.mp nodup
      split at ran
      · rename_i failure failed
        obtain ⟨rfl, rfl⟩ := Prod.mk.inj ran
        have gone : tree.placeOf change.path = .error .noEntry := by
          rcases either with named | gone
          · obtain ⟨text, link⟩ := links name (by simp)
            obtain ⟨more, possible⟩ := FileTree.remove_of_symlink
              (FileTree.dirAt_of_placeOf named directory) link
            rw [removeSymlink, possible] at failed
            cases failed
          · exact gone
        exact ⟨either, directory, fun _ _ => rfl, by simp, fun _ => gone⟩
      · rename_i middle removed
        obtain ⟨parent, parentAt, changed⟩ := removeSymlink_ok removed
        have named := either.of_dirAt parentAt
        have same : parent = place := by
          rw [FileTree.dirAt_of_placeOf named directory] at parentAt
          exact (Except.ok.inj parentAt).symm
        subst same
        obtain ⟨laterEither, laterDirectory, apart, gone, failed⟩ := ih ran
          (changed.placeOf_of_gone named)
          (by rw [changed.apart (by simp), directory])
          (by
            intro other member
            obtain ⟨text, link⟩ := links other (by simp [member])
            refine ⟨text, ?_⟩
            rw [changed.apart ?_, link]
            rintro same
            have : other = name := by simpa using same
            exact fresh (this ▸ member))
          nodup
        refine ⟨laterEither, laterDirectory, ?_, ?_, failed⟩
        · intro elsewhere apartFrom
          rw [apart elsewhere fun other member => apartFrom other (by simp [member]),
            changed.apart (apartFrom name (by simp))]
        · intro ended other member
          rcases List.mem_cons.mp member with rfl | member
          · rw [apart _ fun third thirdIn same => ?_, changed.at]
            have : other = third := by simpa using same
            exact fresh (this ▸ thirdIn)
          · exact gone ended other member

theorem createSymlink_ok {link : Symlink} (owned : change.Owns link)
    (created : change.createSymlink tree link = .ok later) :
    ∃ parent, tree.dirAt change.path = .ok parent ∧
      tree.node (parent ++ [link.name]) = none ∧
      FileTree.Changed tree later (parent ++ [link.name])
        (some (.symlink link.target)) := by
  obtain ⟨absolute, path⟩ := owned
  unfold createSymlink at created
  split at created
  · cases created
  · rename_i made
    cases created
    rw [symlinkPath, if_pos absolute, path] at made
    obtain ⟨own, named, -, free, changed⟩ := FileTree.symlink_ok made
    obtain ⟨parent, parentAt, rfl⟩ := FileTree.placeOf_append_ok named
    exact ⟨parent, parentAt, free, changed⟩

/-- Creating links that the directory owns makes these and no others.  If it
fails, one of them is missing. -/
theorem untilError_createSymlink {links : List Symlink}
    (ran : untilError change.createSymlink links tree = (later, outcome))
    (owned : ∀ link ∈ links, change.Owns link)
    (distinct : links.Pairwise fun link other => link.name ≠ other.name)
    (either : change.NamesOrGone tree place)
    (directory : tree.node place = some .directory) :
    later.node place = some .directory ∧
      (tree.placeOf change.path = .ok place →
        later.placeOf change.path = .ok place) ∧
      (tree.placeOf change.path = .error .noEntry → later = tree) ∧
      (outcome = none → links ≠ [] → later.placeOf change.path = .ok place) ∧
      (outcome = none → ∀ name target,
        later.node (place ++ [name]) = some (.symlink target) ↔
          tree.node (place ++ [name]) = some (.symlink target) ∨
            ∃ link ∈ links, link.name = name ∧ link.target = target) ∧
      (outcome ≠ none →
        (∀ link ∈ links, ∀ target,
          tree.node (place ++ [link.name]) ≠ some (.symlink target)) →
        ∃ link ∈ links, ∀ target,
          later.node (place ++ [link.name]) ≠ some (.symlink target)) := by
  induction links generalizing tree with
  | nil =>
      cases ran
      exact ⟨directory, id, fun _ => rfl, by simp, by simp,
        fun no => absurd rfl no⟩
  | cons link links ih =>
      rw [untilError] at ran
      obtain ⟨apart, distinct⟩ := List.pairwise_cons.mp distinct
      split at ran
      · obtain ⟨rfl, rfl⟩ := Prod.mk.inj ran
        refine ⟨directory, id, fun _ => rfl, by simp, by simp, fun _ absent => ?_⟩
        exact ⟨link, by simp, absent link (by simp)⟩
      · rename_i middle created
        obtain ⟨parent, parentAt, free, changed⟩ :=
          createSymlink_ok (owned link (by simp)) created
        have named := either.of_dirAt parentAt
        have same : parent = place := by
          rw [FileTree.dirAt_of_placeOf named directory] at parentAt
          exact (Except.ok.inj parentAt).symm
        subst same
        have leadsOn := changed.leadsOn (by simp [free, FileTree.Leads])
        have middleNamed := leadsOn.placeOf named
        have other : ∀ {name : String}, name ≠ link.name →
            middle.node (parent ++ [name]) = tree.node (parent ++ [name]) :=
          fun differs => changed.apart fun same => differs (by simpa using same)
        obtain ⟨laterDirectory, laterNamed, -, -, exactly, missing⟩ := ih ran
          (fun link member => owned link (by simp [member])) distinct
          (Or.inl middleNamed) (by rw [changed.apart (by simp), directory])
        refine ⟨laterDirectory, fun _ => laterNamed middleNamed, ?_,
          fun _ _ => laterNamed middleNamed, ?_, ?_⟩
        · intro gone
          rw [gone] at named
          cases named
        · intro ended name target
          rw [exactly ended]
          by_cases own : name = link.name
          · subst own
            rw [changed.at, free]
            simp [eq_comm]
          · rw [other own]
            simp [Ne.symm own]
        · intro ended absent
          obtain ⟨one, oneIn, lost⟩ := missing ended (by
            intro one oneIn target
            rw [other (apart one oneIn).symm]
            exact absent one (by simp [oneIn]) target)
          exact ⟨one, by simp [oneIn], lost⟩

/-- Links that are owned and come in reading order are determined by what they
are. -/
theorem eq_linksAt (ordered : change.InReadingOrder)
    (exactly : ∀ name target,
      tree.node (place ++ [name]) = some (.symlink target) ↔
        ∃ link ∈ change.paramSymlinks, link.name = name ∧ link.target = target) :
    change.paramSymlinks = change.linksAt tree place := by
  obtain ⟨owned, increasing⟩ := ordered
  let pair (link : Symlink) : String × Bytes := (link.name, link.target)
  have increasingPairs : (change.paramSymlinks.map pair).Pairwise
      fun link other => link.1 < other.1 := List.pairwise_map.mpr increasing
  have listed : (tree.links place).Pairwise
      fun link other => link.1 < other.1 := FileTree.pairwise_links
  have nodup : ∀ {links : List (String × Bytes)},
      links.Pairwise (fun link other => link.1 < other.1) → links.Nodup :=
    fun pairwise => pairwise.imp fun before same => by simp [same] at before
  have perm : (change.paramSymlinks.map pair).Perm (tree.links place) := by
    rw [List.perm_ext_iff_of_nodup (nodup increasingPairs) (nodup listed)]
    rintro ⟨name, target⟩
    rw [FileTree.mem_links, exactly, List.mem_map]
    simp [pair]
  have same : change.paramSymlinks.map pair = tree.links place := by
    refine List.Perm.eq_of_pairwise ?_ increasingPairs listed perm
    intro link other _ _ before after
    exact absurd before (lt_asymm after)
  rw [linksAt, ← same, List.map_map]
  refine (List.map_id _).symm.trans (List.map_congr_left ?_)
  intro link member
  obtain ⟨⟨absolute, path⟩, target⟩ := owned link member
  obtain ⟨isAbs, linkPath, linkTarget⟩ := link
  simp only [pair, Function.comp, id, Symlink.mk.injEq]
  exact ⟨absolute, path, (absoluteTarget_of_isAbsolute target).symm⟩

/-- Once the links of a directory are removed it has none. -/
theorem untilError_removeSymlink_entries
    (ran : untilError change.removeSymlink (linkNames (tree.entries place)) tree =
      (later, outcome))
    (named : tree.placeOf change.path = .ok place)
    (directory : tree.node place = some .directory) :
    change.NamesOrGone later place ∧ later.node place = some .directory ∧
      (outcome = none → ∀ name target,
        later.node (place ++ [name]) ≠ some (.symlink target)) ∧
      (outcome ≠ none → later.placeOf change.path = .error .noEntry) := by
  have links : ∀ name ∈ linkNames (tree.entries place), ∃ text,
      tree.node (place ++ [name]) = some (.symlink text) := by
    rw [linkNames_entries]
    intro name member
    obtain ⟨link, linkIn, rfl⟩ := List.mem_map.mp member
    exact ⟨link.2, FileTree.mem_links.mp linkIn⟩
  have nodup : (linkNames (tree.entries place)).Nodup := by
    rw [linkNames_entries]
    exact List.pairwise_map.mpr (FileTree.pairwise_links.imp ne_of_lt)
  obtain ⟨either, laterDirectory, apart, gone, failed⟩ :=
    untilError_removeSymlink ran (Or.inl named) directory links nodup
  refine ⟨either, laterDirectory, ?_, failed⟩
  intro ended name target link
  by_cases listed : name ∈ linkNames (tree.entries place)
  · rw [gone ended name listed] at link
    cases link
  · rw [apart _ fun other member same => ?_] at link
    · apply listed
      rw [linkNames_entries]
      exact List.mem_map.mpr ⟨(name, target), FileTree.mem_links.mpr link, rfl⟩
    · have : name = other := by simpa using same
      exact listed (this ▸ member)

/-- Recreated links are found in order if and only if nothing failed and they
were asked for in reading order. -/
theorem recreateSymlinks_inOrder_iff (nonempty : change.paramSymlinks ≠ [])
    (ran : change.recreateSymlinks tree = (later, outcome))
    (named : tree.placeOf change.path = .ok place)
    (directory : tree.node place = some .directory)
    {laterPlace : List String}
    (laterNamed : later.placeOf change.path = .ok laterPlace) :
    change.paramSymlinks = change.linksAt later laterPlace ↔
      outcome = none ∧ change.InReadingOrder := by
  have listed : tree.readDir change.path = .ok (tree.entries place) := by
    rw [FileTree.readDir, FileTree.dirAt_of_placeOf named directory]
    rfl
  unfold recreateSymlinks at ran
  rw [listed] at ran
  dsimp only at ran
  split at ran
  · -- A removal fails only where it leaves the path without a place.
    rename_i failed
    obtain ⟨rfl, rfl⟩ := Prod.mk.inj ran
    obtain ⟨-, -, -, gone⟩ :=
      untilError_removeSymlink_entries failed named directory
    rw [gone (by simp)] at laterNamed
    cases laterNamed
  rename_i middle removed
  obtain ⟨either, middleDirectory, cleared, -⟩ :=
    untilError_removeSymlink_entries removed named directory
  have cleared := cleared rfl
  have created := fun ordered : change.InReadingOrder =>
    untilError_createSymlink ran (fun link member => (ordered.1 link member).1)
      (ordered.2.imp ne_of_lt) either middleDirectory
  constructor
  · intro found
    have ordered := inReadingOrder_of_eq found
    obtain ⟨-, keeps, stuck, -, -, missing⟩ := created ordered
    have same : laterPlace = place := by
      rcases either with middleNamed | gone
      · rw [keeps middleNamed] at laterNamed
        exact (Except.ok.inj laterNamed).symm
      · rw [stuck gone, gone] at laterNamed
        cases laterNamed
    subst same
    refine ⟨?_, ordered⟩
    by_contra failed
    obtain ⟨link, member, lost⟩ :=
      missing failed fun link _ target => cleared link.name target
    rw [found, linksAt, List.mem_map] at member
    obtain ⟨stored, storedIn, rfl⟩ := member
    refine lost stored.2 ?_
    simpa [Symlink.name] using FileTree.mem_links.mp storedIn
  · rintro ⟨ended, ordered⟩
    obtain ⟨-, -, -, placed, exactly, -⟩ := created ordered
    have same : laterPlace = place := by
      rw [placed ended nonempty] at laterNamed
      exact (Except.ok.inj laterNamed).symm
    subst same
    refine eq_linksAt ordered ?_
    intro name target
    rw [exactly ended]
    simp [cleared]

end RequestedFileChange

end UsbGadget

end JetKvm
