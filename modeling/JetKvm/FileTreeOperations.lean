import JetKvm.FileTree

/-!
# What the operations on a file tree leave

Each operation that succeeds changes one place, and a path that could be
followed before it can be followed after it, unless the operation took away
something on the way.
-/

namespace JetKvm

namespace FileTree

/-! ### What the operations leave -/

/-- The trees differ at one place at most, and their mounts are the same. -/
structure Changed (tree later : FileTree) (place : List String)
    (value : Option Node) : Prop where
  node_eq : later.node = Function.update tree.node place value
  mounts_eq : later.mounts = tree.mounts

section Operations

variable {tree later : FileTree} {path place : List String} {name : String}
variable {kind : Node} {value : Option Node} {text content : List UInt8}

theorem Changed.at (changed : Changed tree later place value) :
    later.node place = value := by
  rw [changed.node_eq, Function.update_self]

theorem Changed.apart (changed : Changed tree later place value)
    {elsewhere : List String} (apart : elsewhere ≠ place) :
    later.node elsewhere = tree.node elsewhere := by
  rw [changed.node_eq, Function.update_of_ne apart]

theorem Changed.leadsOn (changed : Changed tree later place value)
    (ends : ¬ Leads (tree.node place)) : LeadsOn tree.node later.node := by
  intro elsewhere leads
  exact changed.apart fun same => ends (same ▸ leads)

theorem LeadsOn.dirAt {directory : List String}
    (leadsOn : LeadsOn tree.node later.node)
    (there : tree.dirAt path = .ok directory) :
    later.dirAt path = .ok directory :=
  walk_leadsOn leadsOn there

theorem LeadsOn.placeOf (leadsOn : LeadsOn tree.node later.node)
    (named : tree.placeOf path = .ok place) :
    later.placeOf path = .ok place := by
  rcases List.eq_nil_or_concat path with rfl | ⟨above, name, rfl⟩
  · exact named
  rw [List.concat_eq_append, placeOf_append] at named ⊢
  cases directory : tree.dirAt above with
  | error errno => simp [directory, Except.map] at named
  | ok parent => rwa [leadsOn.dirAt directory, ← directory]

theorem put_ok (written : tree.put place name kind = .ok later) :
    tree.node place = some .directory ∧
      tree.node (place ++ [name]) ≠ some .directory ∧
      Changed tree later (place ++ [name]) (some kind) := by
  unfold put at written
  split at written
  · cases written
  · rename_i parent
    split at written
    · cases written
    · rename_i free
      cases written
      exact ⟨not_not.mp parent, free, rfl, rfl⟩

theorem put_of_node (parent : tree.node place = some .directory)
    (free : tree.node (place ++ [name]) ≠ some .directory) :
    ∃ later, tree.put place name kind = .ok later := by
  unfold put
  rw [dif_neg (not_not.mpr parent), dif_neg free]
  exact ⟨_, rfl⟩

theorem erase_ok (erased : tree.erase place name = .ok later) :
    (∀ below, tree.node (place ++ [name] ++ [below]) = none) ∧
      Changed tree later (place ++ [name]) none := by
  unfold erase at erased
  split at erased
  · cases erased
  · rename_i empty
    cases erased
    refine ⟨?_, rfl, rfl⟩
    intro below
    by_contra present
    exact empty ⟨below, tree.named _ _ present, present⟩

theorem mkdir_ok (made : tree.mkdir path = .ok later) :
    ∃ place, tree.placeOf path = .ok place ∧ tree.node place = none ∧
      Changed tree later place (some .directory) := by
  rcases List.eq_nil_or_concat path with rfl | ⟨above, name, rfl⟩
  · cases made
  rw [List.concat_eq_append] at made ⊢
  unfold mkdir at made
  rw [List.getLast?_concat, List.dropLast_concat] at made
  cases directory : tree.dirAt above with
  | error errno => simp [directory, Bind.bind, Except.bind] at made
  | ok parent =>
      simp only [directory, Bind.bind, Except.bind] at made
      split at made
      · rename_i free
        exact ⟨parent ++ [name], placeOf_append_of_dirAt directory, free,
          (put_ok made).2.2⟩
      · cases made

theorem symlink_ok (made : tree.symlink text path = .ok later) :
    ∃ place, tree.placeOf path = .ok place ∧ text ≠ [] ∧
      tree.node place = none ∧
      Changed tree later place (some (.symlink text)) := by
  rcases List.eq_nil_or_concat path with rfl | ⟨above, name, rfl⟩
  · cases made
  rw [List.concat_eq_append] at made ⊢
  unfold symlink at made
  rw [List.getLast?_concat, List.dropLast_concat] at made
  cases directory : tree.dirAt above with
  | error errno => simp [directory, Bind.bind, Except.bind] at made
  | ok parent =>
      simp only [directory, Bind.bind, Except.bind] at made
      split at made
      · cases made
      · rename_i nonempty
        split at made
        · rename_i free
          exact ⟨parent ++ [name], placeOf_append_of_dirAt directory,
            nonempty, free, (put_ok made).2.2⟩
        · cases made

theorem remove_ok (removed : tree.remove path = .ok later) :
    ∃ place, tree.placeOf path = .ok place ∧ tree.node place ≠ none ∧
      (∀ below, tree.node (place ++ [below]) = none) ∧
      Changed tree later place none := by
  rcases List.eq_nil_or_concat path with rfl | ⟨above, name, rfl⟩
  · cases removed
  rw [List.concat_eq_append] at removed ⊢
  unfold remove at removed
  rw [List.getLast?_concat, List.dropLast_concat] at removed
  cases directory : tree.dirAt above with
  | error errno => simp [directory, Bind.bind, Except.bind] at removed
  | ok parent =>
      simp only [directory, Bind.bind, Except.bind] at removed
      split at removed
      · cases removed
      · rename_i present
        split at removed
        · cases removed
        · obtain ⟨empty, changed⟩ := erase_ok removed
          exact ⟨parent ++ [name], placeOf_append_of_dirAt directory,
            present, empty, changed⟩

/-- There is a file, or room for one. -/
def TakesFile (node : Option Node) : Prop :=
  node = none ∨ ∃ content, node = some (.file content)

theorem TakesFile.ends {node : Option Node} (takes : TakesFile node) :
    ¬ Leads node := by
  rcases takes with rfl | ⟨content, rfl⟩ <;> simp [Leads]

/-- A device takes the content; otherwise it is in a file where the path leads. -/
theorem writeFile_ok (written : tree.writeFile path content = .ok later) :
    ∃ place, tree.resolve path = .ok place ∧
      (tree.node place = some .device ∧ later = tree ∨
        TakesFile (tree.node place) ∧
          Changed tree later place (some (.file content))) := by
  unfold writeFile at written
  cases led : tree.resolve path with
  | error errno => simp [led, Bind.bind, Except.bind] at written
  | ok place =>
      refine ⟨place, rfl, ?_⟩
      simp only [led, Bind.bind, Except.bind] at written
      split at written
      · rename_i named free
        obtain ⟨-, -, changed⟩ := put_ok written
        rw [List.dropLast_append_getLast?] at changed
        · exact Or.inr ⟨Or.inl free, changed⟩
        · exact named
      · rename_i named file
        obtain ⟨-, -, changed⟩ := put_ok written
        rw [List.dropLast_append_getLast?] at changed
        · exact Or.inr ⟨Or.inr ⟨_, file⟩, changed⟩
        · exact named
      · rename_i device
        cases written
        exact Or.inl ⟨device, rfl⟩
      · cases written
      · cases written

/-! A path that could be followed before a change, after it. -/

theorem lstat_of_symlink (made : tree.symlink text path = .ok later) :
    later.lstat path = .ok (.symlink text) := by
  obtain ⟨place, named, -, free, changed⟩ := symlink_ok made
  have leadsOn := changed.leadsOn (by simp [free, Leads])
  exact lstat_eq_ok.mpr ⟨place, leadsOn.placeOf named, changed.at⟩

theorem lstat_of_mkdir (made : tree.mkdir path = .ok later) :
    later.lstat path = .ok .directory := by
  obtain ⟨place, named, free, changed⟩ := mkdir_ok made
  have leadsOn := changed.leadsOn (by simp [free, Leads])
  exact lstat_eq_ok.mpr ⟨place, leadsOn.placeOf named, changed.at⟩

theorem Changed.placeOf_of_gone (changed : Changed tree later place none)
    {elsewhere : List String} (named : tree.placeOf path = .ok elsewhere) :
    later.placeOf path = .ok elsewhere ∨
      later.placeOf path = .error .noEntry := by
  rcases List.eq_nil_or_concat path with rfl | ⟨above, name, rfl⟩
  · exact Or.inl named
  rw [List.concat_eq_append, placeOf_append] at named ⊢
  cases directory : tree.dirAt above with
  | error errno => simp [directory, Except.map] at named
  | ok parent =>
      rw [directory] at named
      have either := walk_update_none place directory
      rw [← changed.node_eq] at either
      rcases either with same | gone
      · exact Or.inl (by rw [dirAt, same, named])
      · exact Or.inr (by rw [dirAt, gone]; rfl)

theorem lstat_of_remove (removed : tree.remove path = .ok later) :
    later.lstat path = .error .noEntry := by
  obtain ⟨place, named, -, -, changed⟩ := remove_ok removed
  rcases changed.placeOf_of_gone named with same | gone
  · rw [lstat_of_placeOf same]
    exact nodeAt_eq_noEntry.mpr changed.at
  · rw [lstat, gone]
    rfl

/-- A file is made where there is none, and rewritten where there is one. -/
theorem lstat_of_writeFile (written : tree.writeFile path content = .ok later)
    (seen : tree.lstat path = .error .noEntry ∨
      ∃ old, tree.lstat path = .ok (.file old)) :
    later.lstat path = .ok (.file content) := by
  obtain ⟨place, led, outcome⟩ := writeFile_ok written
  obtain ⟨own, named⟩ := placeOf_of_resolve led
  have noLink : ∀ text, tree.node own ≠ some (.symlink text) := by
    intro text link
    rw [lstat_of_placeOf named, nodeAt, link] at seen
    rcases seen with seen | ⟨old, seen⟩ <;> cases seen
  have same : own = place := by
    rw [resolve_of_placeOf named noLink] at led
    exact Except.ok.inj led
  subst same
  rcases outcome with ⟨device, -⟩ | ⟨takes, changed⟩
  · rw [lstat_of_placeOf named, nodeAt, device] at seen
    rcases seen with seen | ⟨old, seen⟩ <;> cases seen
  · exact lstat_eq_ok.mpr
      ⟨own, (changed.leadsOn takes.ends).placeOf named, changed.at⟩

/-- Writing changes no link, and makes none. -/
theorem lstat_of_writeFile_of_symlink
    (written : tree.writeFile path content = .ok later)
    (seen : tree.lstat path = .ok (.symlink text)) :
    later.lstat path = .ok (.symlink text) := by
  obtain ⟨place, led, outcome⟩ := writeFile_ok written
  rcases outcome with ⟨-, rfl⟩ | ⟨takes, changed⟩
  · exact seen
  have leadsOn := changed.leadsOn takes.ends
  obtain ⟨own, named, link⟩ := lstat_eq_ok.mp seen
  refine lstat_eq_ok.mpr ⟨own, leadsOn.placeOf named, ?_⟩
  rw [leadsOn own (Or.inr ⟨text, link⟩), link]

/-- What can be written to at a path. -/
theorem lstat_cases_of_writeFile
    (written : tree.writeFile path content = .ok later) :
    tree.lstat path = .error .noEntry ∨
      (∃ old, tree.lstat path = .ok (.file old)) ∨
      (∃ text, tree.lstat path = .ok (.symlink text)) ∨
      tree.lstat path = .ok .device ∧ later = tree := by
  obtain ⟨place, led, outcome⟩ := writeFile_ok written
  obtain ⟨own, named⟩ := placeOf_of_resolve led
  by_cases link : ∃ text, tree.node own = some (.symlink text)
  · obtain ⟨text, link⟩ := link
    exact Or.inr (Or.inr (Or.inl
      ⟨text, lstat_eq_ok.mpr ⟨own, named, link⟩⟩))
  have same : own = place := by
    rw [resolve_of_placeOf named fun text found => link ⟨text, found⟩] at led
    exact Except.ok.inj led
  subst same
  rw [lstat_of_placeOf named]
  rcases outcome with ⟨device, same⟩ | ⟨free | ⟨old, file⟩, -⟩
  · exact Or.inr (Or.inr (Or.inr ⟨nodeAt_eq_ok.mpr device, same⟩))
  · exact Or.inl (nodeAt_eq_noEntry.mpr free)
  · exact Or.inr (Or.inl ⟨old, nodeAt_eq_ok.mpr file⟩)

theorem remove_of_symlink (directory : tree.dirAt path = .ok place)
    (link : tree.node (place ++ [name]) = some (.symlink text)) :
    ∃ later, tree.remove (path ++ [name]) = .ok later := by
  have empty : ¬ ∃ below ∈ tree.names,
      tree.node (place ++ [name] ++ [below]) ≠ none := by
    rintro ⟨below, -, present⟩
    rw [tree.closed _ _ present] at link
    cases link
  unfold remove erase
  rw [List.getLast?_concat, List.dropLast_concat]
  simp only [directory, Bind.bind, Except.bind, link]
  rw [if_neg (by simp), if_neg (by simp), dif_neg empty]
  exact ⟨_, rfl⟩

/-! Making directories on the way to a path. -/

theorem mkdir_of_dirAt (directory : tree.dirAt path = .ok place)
    (free : tree.node (place ++ [name]) = none) :
    ∃ later, tree.mkdir (path ++ [name]) = .ok later := by
  unfold mkdir
  rw [List.getLast?_concat, List.dropLast_concat]
  simp only [directory, Bind.bind, Except.bind, free, if_pos]
  exact put_of_node (node_of_dirAt directory) (by simp [free])

theorem node_below_of_none (free : tree.node place = none) :
    tree.node (place ++ [name]) = none := by
  by_contra present
  rw [tree.closed _ _ present] at free
  cases free

/-- The ways making a directory with those above it goes. -/
theorem mkdirAllOf_cases {names : List String} {outcome : Option Errno}
    (ran : mkdirAllOf (name :: names) tree = (later, outcome)) :
    let path := names.reverse ++ [name]
    (tree.stat path = .ok .directory ∧ later = tree ∧ outcome = none) ∨
      ((∃ kind, tree.stat path = .ok kind ∧ kind ≠ .directory) ∧
        later = tree ∧ outcome = some .notDirectory) ∨
      ((∃ errno, tree.stat path = .error errno) ∧
        ((∃ errno, mkdirAllOf names tree = (later, some errno) ∧
            outcome = some errno) ∨
          ∃ middle, mkdirAllOf names tree = (middle, none) ∧
            middle.mkdirLast path = (later, outcome))) := by
  simp only [mkdirAllOf] at ran
  split at ran
  · rename_i seen
    cases ran
    exact Or.inl ⟨seen, rfl, rfl⟩
  · rename_i kind noDirectory seen
    cases ran
    exact Or.inr (Or.inl ⟨⟨kind, seen, noDirectory⟩, rfl, rfl⟩)
  · rename_i errno unseen
    refine Or.inr (Or.inr ⟨⟨errno, unseen⟩, ?_⟩)
    split at ran
    · rename_i failed
      cases ran
      exact Or.inl ⟨_, failed, rfl⟩
    · rename_i middle made
      exact Or.inr ⟨middle, made, ran⟩

theorem mkdirLast_cases {outcome : Option Errno}
    (ran : tree.mkdirLast path = (later, outcome)) :
    (tree.mkdir path = .ok later ∧ outcome = none) ∨
      ((∃ errno, tree.mkdir path = .error errno) ∧ later = tree ∧
        (outcome = none ↔ tree.lstat path = .ok .directory)) := by
  unfold mkdirLast at ran
  split at ran
  · rename_i made
    cases ran
    exact Or.inl ⟨made, rfl⟩
  · rename_i errno refused
    refine Or.inr ⟨⟨errno, refused⟩, ?_⟩
    split at ran
    · rename_i seen
      cases ran
      simp [seen]
    · rename_i unseen
      cases ran
      simpa using unseen

/-- Either there was nothing to make, or the last directory made is empty. -/
theorem eq_or_empty_of_mkdirAllOf {names : List String}
    (made : mkdirAllOf names tree = (later, none)) :
    later = tree ∨ ∃ place, later.dirAt names.reverse = .ok place ∧
      ∀ below, later.node (place ++ [below]) = none := by
  induction names generalizing later with
  | nil =>
      cases made
      exact Or.inl rfl
  | cons name above ih =>
      rcases mkdirAllOf_cases made with ⟨-, same, -⟩ | ⟨-, -, no⟩ |
        ⟨-, ⟨errno, -, no⟩ | ⟨middle, aboveMade, last⟩⟩
      · exact Or.inl same
      · cases no
      · cases no
      rcases mkdirLast_cases last with ⟨mkdirMade, -⟩ |
        ⟨⟨errno, refused⟩, same, -⟩
      · right
        obtain ⟨place, named, free, changed⟩ := mkdir_ok mkdirMade
        cases directory : middle.dirAt above.reverse with
        | error errno => simp [directory, Except.map] at named
        | ok parent =>
            rw [placeOf_append_of_dirAt directory, Except.ok.injEq] at named
            subst named
            have leadsOn := changed.leadsOn (by simp [free, Leads])
            refine ⟨parent ++ [name], ?_, ?_⟩
            · rw [List.reverse_cons]
              exact dirAt_append (leadsOn.dirAt directory) changed.at
            · intro below
              rw [changed.apart (by simp)]
              exact node_below_of_none free
      · subst same
        rcases ih aboveMade with same | ⟨place, directory, empty⟩
        · exact Or.inl same
        · obtain ⟨more, possible⟩ := mkdir_of_dirAt directory (empty name)
          rw [possible] at refused
          cases refused

theorem stat_of_stat_append (seen : tree.stat (path ++ [name]) = .ok kind) :
    tree.stat path = .ok .directory := by
  obtain ⟨place, led, -⟩ := stat_eq_ok.mp seen
  rw [resolve, List.map_append] at led
  obtain ⟨parent, directory⟩ := walk_of_append (by simp) led
  exact stat_eq_ok.mpr
    ⟨parent, resolve_of_dirAt directory, node_of_dirAt directory⟩

/-- If not all could be made, then what the path leads to is no directory. -/
theorem stat_of_mkdirAllOf_failed {names : List String} {errno : Errno}
    (failed : mkdirAllOf names tree = (later, some errno)) :
    later.stat names.reverse ≠ .ok .directory := by
  induction names generalizing later errno with
  | nil => cases failed
  | cons name above ih =>
      rw [List.reverse_cons]
      rcases mkdirAllOf_cases failed with ⟨-, -, no⟩ |
        ⟨⟨kind, seen, noDirectory⟩, rfl, -⟩ |
        ⟨⟨unseen, error⟩, ⟨errno, aboveFailed, -⟩ | ⟨middle, aboveMade, last⟩⟩
      · cases no
      · rw [seen]
        simpa using noDirectory
      · intro seen
        exact ih aboveFailed (stat_of_stat_append seen)
      rcases mkdirLast_cases last with ⟨-, no⟩ | ⟨⟨refusal, refused⟩, rfl, -⟩
      · cases no
      rcases eq_or_empty_of_mkdirAllOf aboveMade with
        rfl | ⟨place, directory, empty⟩
      · rw [error]
        simp
      · obtain ⟨more, possible⟩ := mkdir_of_dirAt directory (empty name)
        rw [possible] at refused
        cases refused

theorem LeadsOn.trans {node middle other : List String → Option Node}
    (first : LeadsOn node middle) (second : LeadsOn middle other) :
    LeadsOn node other := by
  intro place leads
  have same := first place leads
  rw [← same] at leads
  exact (second place leads).trans same

theorem leadsOn_mkdirAllOf {names : List String} {outcome : Option Errno}
    (ran : mkdirAllOf names tree = (later, outcome)) :
    LeadsOn tree.node later.node := by
  induction names generalizing later outcome with
  | nil =>
      cases ran
      exact fun _ _ => rfl
  | cons name above ih =>
      rcases mkdirAllOf_cases ran with ⟨-, rfl, -⟩ | ⟨-, rfl, -⟩ |
        ⟨-, ⟨errno, failed, -⟩ | ⟨middle, aboveMade, last⟩⟩
      · exact fun _ _ => rfl
      · exact fun _ _ => rfl
      · exact ih failed
      rcases mkdirLast_cases last with ⟨made, -⟩ | ⟨-, rfl, -⟩
      · obtain ⟨place, -, free, changed⟩ := mkdir_ok made
        exact (ih aboveMade).trans (changed.leadsOn (by simp [free, Leads]))
      · exact ih aboveMade

/-- A path that leads to a directory names it, or a link. -/
theorem lstat_of_stat (seen : tree.stat path = .ok .directory)
    (noLink : ∀ text, tree.lstat path ≠ .ok (.symlink text)) :
    tree.lstat path = .ok .directory := by
  obtain ⟨place, led, here⟩ := stat_eq_ok.mp seen
  obtain ⟨own, named⟩ := placeOf_of_resolve led
  have same : tree.resolve path = .ok own := by
    refine resolve_of_placeOf named ?_
    intro text link
    exact noLink text (lstat_eq_ok.mpr ⟨own, named, link⟩)
  rw [led, Except.ok.injEq] at same
  exact lstat_eq_ok.mpr ⟨own, named, same ▸ here⟩

/-- Where there is no link there is a directory then. -/
theorem lstat_of_mkdirAll (made : tree.mkdirAll path = (later, none))
    (noLink : ∀ text, tree.lstat path ≠ .ok (.symlink text)) :
    later.lstat path = .ok .directory := by
  rcases List.eq_nil_or_concat path with rfl | ⟨above, name, rfl⟩
  · exact lstat_eq_ok.mpr ⟨[], rfl, later.root⟩
  rw [List.concat_eq_append] at made noLink ⊢
  rw [mkdirAll, List.reverse_append, List.reverse_singleton,
    List.singleton_append] at made
  have ways := mkdirAllOf_cases made
  simp only [List.reverse_reverse] at ways
  rcases ways with ⟨seen, rfl, -⟩ | ⟨-, -, no⟩ |
    ⟨-, ⟨errno, -, no⟩ | ⟨middle, aboveMade, last⟩⟩
  · exact lstat_of_stat seen noLink
  · cases no
  · cases no
  rcases mkdirLast_cases last with ⟨mkdirMade, -⟩ | ⟨-, rfl, seen⟩
  · exact lstat_of_mkdir mkdirMade
  · exact seen.mp rfl

/-- Where there is a link it stays. -/
theorem lstat_of_mkdirAll_of_symlink {outcome : Option Errno}
    (ran : tree.mkdirAll path = (later, outcome))
    (seen : tree.lstat path = .ok (.symlink text)) :
    later.lstat path = .ok (.symlink text) := by
  have leadsOn := leadsOn_mkdirAllOf ran
  obtain ⟨place, named, link⟩ := lstat_eq_ok.mp seen
  refine lstat_eq_ok.mpr ⟨place, leadsOn.placeOf named, ?_⟩
  rw [leadsOn place (Or.inr ⟨text, link⟩), link]

theorem lstat_of_mkdirAll_failed {errno : Errno}
    (failed : tree.mkdirAll path = (later, some errno)) :
    later.lstat path ≠ .ok .directory := by
  intro seen
  have unseen := stat_of_mkdirAllOf_failed failed
  rw [List.reverse_reverse] at unseen
  exact unseen (stat_of_lstat seen (by simp))

/-- Nothing but directories appears. -/
theorem lstat_of_lstat_mkdirAll {outcome : Option Errno}
    (ran : tree.mkdirAll path = (later, outcome))
    (seen : later.lstat path = .ok kind) (noDirectory : kind ≠ .directory) :
    tree.lstat path = .ok kind := by
  rcases List.eq_nil_or_concat path with rfl | ⟨above, name, rfl⟩
  · cases ran
    exact seen
  rw [List.concat_eq_append] at ran seen ⊢
  rw [mkdirAll, List.reverse_append, List.reverse_singleton,
    List.singleton_append] at ran
  have ways := mkdirAllOf_cases ran
  simp only [List.reverse_reverse] at ways
  rcases ways with ⟨-, rfl, -⟩ | ⟨-, rfl, -⟩ |
    ⟨-, ⟨errno, aboveFailed, -⟩ | ⟨middle, aboveMade, last⟩⟩
  · exact seen
  · exact seen
  · have unseen := stat_of_mkdirAllOf_failed aboveFailed
    rw [List.reverse_reverse] at unseen
    obtain ⟨place, named, -⟩ := lstat_eq_ok.mp seen
    obtain ⟨parent, parentAt, -⟩ := placeOf_append_ok named
    exact absurd (stat_eq_ok.mpr
      ⟨parent, resolve_of_dirAt parentAt, node_of_dirAt parentAt⟩) unseen
  rcases mkdirLast_cases last with ⟨mkdirMade, -⟩ | ⟨⟨errno, refused⟩, rfl, -⟩
  · rw [lstat_of_mkdir mkdirMade, Except.ok.injEq] at seen
    exact absurd seen.symm noDirectory
  rcases eq_or_empty_of_mkdirAllOf aboveMade with
    rfl | ⟨place, directory, empty⟩
  · exact seen
  · rw [List.reverse_reverse] at directory
    obtain ⟨more, possible⟩ := mkdir_of_dirAt directory (empty name)
    rw [possible] at refused
    cases refused

/-! Mounting. -/

theorem mountAt_ok {source fsType : String} {covering : FileTree}
    (mounted : tree.mountAt place source fsType covering = .ok later) :
    tree.node place = some .directory ∧
      (∀ below, later.node below =
        if place <+: below then covering.node (below.drop place.length)
        else tree.node below) ∧
      later.mounts = tree.mounts ++ [{ point := place, source, fsType }] := by
  unfold mountAt at mounted
  split at mounted
  · cases mounted
  · rename_i directory
    cases mounted
    exact ⟨not_not.mp directory, fun _ => rfl, rfl⟩

end Operations

end FileTree

end JetKvm
