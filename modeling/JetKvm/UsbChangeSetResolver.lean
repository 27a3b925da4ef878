import JetKvm.UsbChangeSet

/-!
# Resolving and applying the changes

Translation of `internal/usbgadget/changeset_resolver.go`.  The graph library
sorts the keys of the changes, each after those it depends on; the order is not
fixed, because the source goes through maps, so it is given from outside and
only has to be such an order.  The time limits are left out: where they strike,
`Apply` ends with an error.
-/

namespace JetKvm

namespace UsbGadget

inductive ResolveError where
  | duplicateChange (key : String)
  | cyclesDetected
  | dependencyNotFound (key : String)
  | change (error : ChangeError)
  deriving DecidableEq, Repr

/-- A map from keys to changes, as the list of its values. -/
abbrev ChangesMap := List FileChange

namespace ChangesMap

variable (changesMap : ChangesMap)

def get? (key : String) : Option FileChange :=
  changesMap.find? fun change => change.resolvedKey = key

/-- Put the change in the place of what its key leads to. -/
def set (change : FileChange) : ChangesMap :=
  changesMap.filter (fun other => other.resolvedKey ≠ change.resolvedKey) ++
    [change]

end ChangesMap

/-- Keys with those they depend on. -/
abbrev Graph := List (String × List String)

/-- Each key of the graph comes after those it depends on. -/
structure TopologicalOrder (graph : Graph) (order : List String) : Prop where
  nodup : order.Nodup
  mem : ∀ entry ∈ graph, entry.1 ∈ order ∧ ∀ key ∈ entry.2, key ∈ order
  known : ∀ key ∈ order, ∃ entry ∈ graph, key = entry.1 ∨ key ∈ entry.2
  first : order.Pairwise fun earlier later =>
    ∀ entry ∈ graph, entry.1 = earlier → later ∉ entry.2
  loopless : ∀ entry ∈ graph, entry.1 ∉ entry.2

instance (graph : Graph) (order : List String) :
    Decidable (TopologicalOrder graph order) :=
  decidable_of_iff
    (order.Nodup ∧
      (∀ entry ∈ graph, entry.1 ∈ order ∧ ∀ key ∈ entry.2, key ∈ order) ∧
      (∀ key ∈ order, ∃ entry ∈ graph, key = entry.1 ∨ key ∈ entry.2) ∧
      (order.Pairwise fun earlier later =>
        ∀ entry ∈ graph, entry.1 = earlier → later ∉ entry.2) ∧
      ∀ entry ∈ graph, entry.1 ∉ entry.2)
    ⟨fun ⟨nodup, mem, known, first, loopless⟩ =>
      ⟨nodup, mem, known, first, loopless⟩,
      fun ⟨nodup, mem, known, first, loopless⟩ =>
      ⟨nodup, mem, known, first, loopless⟩⟩

/-- What the library answers for a graph: there is no order when there are
cycles. -/
def Sorted (graph : Graph) : Option (List String) → Prop
  | some order => TopologicalOrder graph order
  | none => ∀ order, ¬ TopologicalOrder graph order

def graphOf (changesMap : ChangesMap) : Graph :=
  changesMap.map fun change =>
    (change.resolvedKey, change.dependsOn ++ change.resolvedDeps)

/-- The maps of `GetChanges`: the unconditional changes and the others. -/
structure ChangeMaps where
  changesMap : ChangesMap := []
  conditionalChangesMap : ChangesMap := []

namespace ChangeMaps

variable (maps : ChangeMaps)

/-- One round of the loop of `GetChanges`. -/
def add (change : RequestedFileChange) : Except ResolveError ChangeMaps :=
  if change.when ≠ "" then .ok
    { maps with
      conditionalChangesMap := maps.conditionalChangesMap.set
        { toRequestedFileChange := change } }
  else
    match maps.changesMap.get? change.resolvedKey with
    | some present =>
        if present.IsSame change then .ok maps
        else .error (.duplicateChange change.resolvedKey)
    | none => .ok
        { maps with
          changesMap := maps.changesMap.set { toRequestedFileChange := change } }

def ofChanges (changes : List RequestedFileChange) :
    Except ResolveError ChangeMaps :=
  changes.foldlM add {}

end ChangeMaps

/-- Put the conditional changes that a change waits for into the map.  One that
is there already stays as it is. -/
def addDependencies (conditionalChangesMap : ChangesMap) :
    List String → ChangesMap → Except ResolveError ChangesMap
  | [], changesMap => .ok changesMap
  | dep :: deps, changesMap =>
      match conditionalChangesMap.get? dep with
      | none => .error (.dependencyNotFound dep)
      | some depChange =>
          match changesMap.get? dep with
          | some present =>
              if present.when ≠ "" then
                addDependencies conditionalChangesMap deps changesMap
              else
                addDependencies conditionalChangesMap deps
                  (changesMap.set depChange)
          | none =>
              addDependencies conditionalChangesMap deps
                (changesMap.set depChange)

/-- The state of a resolution.  The resolved changes are given by their keys,
since what is known of a change is kept in the map. -/
structure Resolution where
  changesMap : ChangesMap
  resolvedKeys : List String := []
  additionalResolveRequired : Bool := false

namespace Resolution

variable (conditionalChangesMap : ChangesMap) (tree : FileTree)
variable (resolution : Resolution)

def resolvedChanges : List FileChange :=
  resolution.resolvedKeys.filterMap resolution.changesMap.get?

/-- Look at the change with the key.  The action that follows comes with it. -/
def look (key : String) : Resolution × Option FileChange :=
  match resolution.changesMap.get? key with
  | none => (resolution, none)
  | some change =>
      let (change, action) := change.getFileChangeResolvedAction tree
      ({ resolution with
          changesMap := resolution.changesMap.set change
          resolvedKeys := resolution.resolvedKeys ++ [key] },
        if action = .doNothing then none else some change)

/-- One round of the loop of `doResolveChanges` when it runs first. -/
def resolveInitially (resolution : Resolution) (key : String) :
    Except ResolveError Resolution :=
  match resolution.look tree key with
  | (resolution, none) => .ok resolution
  | (resolution, some change) =>
      match change.beforeChange with
      | none => .ok resolution
      | some deps =>
          (addDependencies conditionalChangesMap deps
              (resolution.changesMap.set
                { change with resolvedDeps := change.resolvedDeps ++ deps })).map
            fun changesMap =>
              { resolution with changesMap, additionalResolveRequired := true }

/-- One round of the loop when it runs again. -/
def resolveAgain (resolution : Resolution) (key : String) : Resolution :=
  (resolution.look tree key).1

end Resolution

/-- The orders of the keys in the two resolutions, where there are any. -/
structure Orders where
  initial : Option (List String)
  additional : Option (List String) := none
  deriving Repr

namespace ChangeMaps

variable (maps : ChangeMaps) (tree : FileTree)

/-- `resolveChanges(true)`, up to the second resolution. -/
def resolveInitially (initial : Option (List String)) :
    Except ResolveError Resolution :=
  match initial with
  | none => .error .cyclesDetected
  | some order =>
      order.foldlM (Resolution.resolveInitially maps.conditionalChangesMap tree)
        { changesMap := maps.changesMap }

end ChangeMaps

namespace Resolution

variable (tree : FileTree) (resolution : Resolution)

/-- The second resolution, which is made if changes were added. -/
def finish (additional : Option (List String)) :
    Except ResolveError (List FileChange) :=
  if resolution.additionalResolveRequired then
    match additional with
    | none => .error .cyclesDetected
    | some order => .ok
        (order.foldl (resolveAgain tree)
          { resolution with resolvedKeys := [] }).resolvedChanges
  else .ok resolution.resolvedChanges

end Resolution

section Apply

variable (mountCommand : MountCommand) (orders : Orders)
variable (changes : List RequestedFileChange) (tree : FileTree)

def getChanges : Except ResolveError (List FileChange) := do
  let maps ← ChangeMaps.ofChanges changes
  let resolution ← maps.resolveInitially tree orders.initial
  resolution.finish tree orders.additional

/-- The graph keeps what it holds from the first resolution to the second. -/
def Orders.Fit : Prop :=
  ∀ maps, ChangeMaps.ofChanges changes = .ok maps →
    Sorted (graphOf maps.changesMap) orders.initial ∧
      ∀ resolution, maps.resolveInitially tree orders.initial = .ok resolution →
        resolution.additionalResolveRequired →
        Sorted (graphOf maps.changesMap ++ graphOf resolution.changesMap)
          orders.additional

/-- Whether orders that are given fit. -/
def Orders.fits : Bool :=
  match ChangeMaps.ofChanges changes, orders.initial with
  | .error _, _ => true
  | .ok _, none => false
  | .ok maps, some order =>
      TopologicalOrder (graphOf maps.changesMap) order &&
        match maps.resolveInitially tree orders.initial, orders.additional with
        | .error _, _ => true
        | .ok resolution, none => !resolution.additionalResolveRequired
        | .ok resolution, some order =>
            !resolution.additionalResolveRequired ||
              TopologicalOrder
                (graphOf maps.changesMap ++ graphOf resolution.changesMap) order

/-- Apply the changes in turn.  An error is passed over where the change says
so, and ends the run otherwise. -/
def applyChanges : List FileChange → FileTree → FileTree × Option ChangeError
  | [], tree => (tree, none)
  | change :: rest, tree =>
      match change.applyChange mountCommand tree with
      | (later, none) => applyChanges rest later
      | (later, some error) =>
          if change.ignoreErrors then applyChanges rest later
          else (later, some error)

def apply : FileTree × Option ResolveError :=
  match getChanges orders changes tree with
  | .error error => (tree, some error)
  | .ok resolved =>
      let (later, error) := applyChanges mountCommand resolved tree
      (later, error.map .change)

end Apply

/-! ### What the maps hold -/

namespace ChangesMap

variable {changesMap : ChangesMap} {change : FileChange} {key : String}

def HasKey (changesMap : ChangesMap) (key : String) : Prop :=
  (changesMap.get? key).isSome

theorem get?_set : (changesMap.set change).get? key =
    if key = change.resolvedKey then some change else changesMap.get? key := by
  unfold get? set
  rw [List.find?_append, List.find?_filter]
  by_cases own : key = change.resolvedKey
  · have gone : changesMap.find? (fun _ => false) = none :=
      List.find?_eq_none.mpr (by simp)
    subst own
    simp [gone]
  · rw [if_neg own]
    have single : [change].find? (fun other => other.resolvedKey = key) = none := by
      simp [Ne.symm own]
    rw [single, Option.or_none]
    congr 1
    funext other
    by_cases same : other.resolvedKey = key
    · simp [same, own]
    · simp [same]

/-- An entry after a change is set is that change or one from before. -/
theorem get?_set_cases {found : FileChange}
    (looked : (changesMap.set change).get? key = some found) :
    key = change.resolvedKey ∧ found = change ∨
      key ≠ change.resolvedKey ∧ changesMap.get? key = some found := by
  rw [get?_set] at looked
  by_cases own : key = change.resolvedKey
  · rw [if_pos own] at looked
    exact .inl ⟨own, (Option.some.inj looked).symm⟩
  · rw [if_neg own] at looked
    exact .inr ⟨own, looked⟩

theorem HasKey.set (present : changesMap.HasKey key) :
    (changesMap.set change).HasKey key := by
  unfold HasKey
  rw [get?_set]
  split
  · rfl
  · exact present

theorem hasKey_set_self : (changesMap.set change).HasKey change.resolvedKey := by
  simp [HasKey, get?_set]

theorem mem_of_get? (found : changesMap.get? key = some change) :
    change ∈ changesMap ∧ change.resolvedKey = key := by
  refine ⟨List.mem_of_find?_eq_some found, ?_⟩
  simpa using List.find?_some found

theorem mem_set {other : FileChange} (member : other ∈ changesMap.set change) :
    other = change ∨ other ∈ changesMap := by
  unfold set at member
  rcases List.mem_append.mp member with kept | own
  · exact Or.inr (List.mem_filter.mp kept).1
  · exact Or.inl (List.mem_singleton.mp own)

theorem HasKey.mem_graphOf (present : changesMap.HasKey key) :
    ∃ deps, (key, deps) ∈ graphOf changesMap := by
  obtain ⟨change, found⟩ := Option.isSome_iff_exists.mp present
  obtain ⟨member, rfl⟩ := mem_of_get? found
  exact ⟨_, List.mem_map.mpr ⟨change, member, rfl⟩⟩

theorem HasKey.addDependencies {conditionalChangesMap later : ChangesMap}
    {deps : List String}
    (added : addDependencies conditionalChangesMap deps changesMap = .ok later)
    (present : changesMap.HasKey key) : later.HasKey key := by
  induction deps generalizing changesMap with
  | nil =>
      cases added
      exact present
  | cons dep deps ih =>
      rw [UsbGadget.addDependencies] at added
      split at added
      · cases added
      · split at added
        · split at added
          · exact ih added present
          · exact ih added present.set
        · exact ih added present.set

end ChangesMap

namespace Resolution

variable {conditionalChangesMap : ChangesMap} {tree : FileTree}
variable {resolution later : Resolution} {key other : String}

/-- The resolution goes on: no key is lost, and none is forgotten. -/
structure Extends (resolution later : Resolution) : Prop where
  hasKey : ∀ key, resolution.changesMap.HasKey key →
    later.changesMap.HasKey key
  resolved : ∀ key ∈ resolution.resolvedKeys, key ∈ later.resolvedKeys

theorem Extends.refl : Extends resolution resolution := ⟨fun _ => id, fun _ => id⟩

theorem Extends.trans {middle : Resolution} (first : Extends resolution middle)
    (second : Extends middle later) : Extends resolution later :=
  ⟨fun key present => second.hasKey key (first.hasKey key present),
    fun key member => second.resolved key (first.resolved key member)⟩

theorem extends_look : Extends resolution (resolution.look tree key).1 := by
  unfold look
  split
  · exact Extends.refl
  · exact ⟨fun _ present => present.set, fun _ member => by simp [member]⟩

theorem mem_look (present : resolution.changesMap.HasKey key) :
    key ∈ (resolution.look tree key).1.resolvedKeys := by
  obtain ⟨change, found⟩ := Option.isSome_iff_exists.mp present
  simp [look, found]

theorem extends_resolveInitially
    (resolved : resolution.resolveInitially conditionalChangesMap tree key =
      .ok later) :
    Extends (resolution.look tree key).1 later := by
  unfold resolveInitially at resolved
  split at resolved
  · rename_i looked nothing
    cases resolved
    rw [nothing]
    exact Extends.refl
  · rename_i looked change something
    rw [something]
    split at resolved
    · cases resolved
      exact Extends.refl
    · rename_i deps waits
      cases added : addDependencies conditionalChangesMap deps
          (looked.changesMap.set
            { change with resolvedDeps := change.resolvedDeps ++ deps }) with
      | error error =>
          rw [added] at resolved
          cases resolved
      | ok changesMap =>
          rw [added] at resolved
          cases resolved
          exact ⟨fun _ present => present.set.addDependencies added, fun _ => id⟩

/-- Each key of the order that leads to a change is resolved. -/
theorem resolved_foldlM {order : List String}
    (ran : order.foldlM (resolveInitially conditionalChangesMap tree) resolution =
      .ok later) :
    Extends resolution later ∧
      ∀ key ∈ order, resolution.changesMap.HasKey key →
        key ∈ later.resolvedKeys := by
  induction order generalizing resolution with
  | nil =>
      cases ran
      exact ⟨Extends.refl, by simp⟩
  | cons first order ih =>
      rw [List.foldlM_cons] at ran
      cases step : resolution.resolveInitially conditionalChangesMap tree first with
      | error error => simp [step, Bind.bind, Except.bind] at ran
      | ok middle =>
          rw [step] at ran
          obtain ⟨rest, each⟩ := ih ran
          have stepped := extends_resolveInitially step
          have before : Extends resolution middle := extends_look.trans stepped
          refine ⟨before.trans rest, ?_⟩
          intro key member present
          rcases List.mem_cons.mp member with rfl | member
          · exact rest.resolved _ (stepped.resolved _ (mem_look present))
          · exact each key member (before.hasKey key present)

theorem resolved_foldl (tree : FileTree) (order : List String)
    (resolution : Resolution) :
    Extends resolution (order.foldl (resolveAgain tree) resolution) ∧
      ∀ key ∈ order, resolution.changesMap.HasKey key →
        key ∈ (order.foldl (resolveAgain tree) resolution).resolvedKeys := by
  induction order generalizing resolution with
  | nil => exact ⟨Extends.refl, by simp⟩
  | cons first order ih =>
      obtain ⟨rest, each⟩ := ih (resolution.resolveAgain tree first)
      have before : Extends resolution (resolution.resolveAgain tree first) :=
        extends_look
      refine ⟨before.trans rest, ?_⟩
      intro key member present
      rcases List.mem_cons.mp member with rfl | member
      · exact rest.resolved _ (mem_look present)
      · exact each key member (before.hasKey key present)

theorem mem_resolvedChanges (member : key ∈ resolution.resolvedKeys)
    (present : resolution.changesMap.HasKey key) :
    ∃ change ∈ resolution.resolvedChanges, change.resolvedKey = key := by
  obtain ⟨change, found⟩ := Option.isSome_iff_exists.mp present
  exact ⟨change, List.mem_filterMap.mpr ⟨key, member, found⟩,
    (ChangesMap.mem_of_get? found).2⟩

end Resolution

namespace ChangeMaps

variable {maps later : ChangeMaps} {changes : List RequestedFileChange}
variable {change : RequestedFileChange}

theorem add_ok (added : maps.add change = .ok later) :
    (∀ key, maps.changesMap.HasKey key → later.changesMap.HasKey key) ∧
      (change.when = "" → later.changesMap.HasKey change.resolvedKey) ∧
      ∀ present ∈ later.changesMap, present ∈ maps.changesMap ∨
        present.toRequestedFileChange = change ∧ change.when = "" := by
  unfold add at added
  split at added
  · rename_i conditional
    cases added
    exact ⟨fun _ => id, fun no => absurd no conditional, fun _ => Or.inl⟩
  · rename_i unconditional
    rw [not_not] at unconditional
    split at added
    · rename_i present found
      split at added
      · cases added
        exact ⟨fun _ => id, fun _ => Option.isSome_iff_exists.mpr ⟨_, found⟩,
          fun _ => Or.inl⟩
      · cases added
    · cases added
      refine ⟨fun _ present => present.set, fun _ => ChangesMap.hasKey_set_self, ?_⟩
      intro present member
      rcases ChangesMap.mem_set member with rfl | member
      · exact Or.inr ⟨rfl, unconditional⟩
      · exact Or.inl member

theorem foldlM_add
    (collected : changes.foldlM add maps = .ok later) :
    (∀ key, maps.changesMap.HasKey key → later.changesMap.HasKey key) ∧
      (∀ change ∈ RequestedFileChange.unconditional changes,
        later.changesMap.HasKey change.resolvedKey) ∧
      ∀ present ∈ later.changesMap, present ∈ maps.changesMap ∨
        present.toRequestedFileChange ∈
          RequestedFileChange.unconditional changes := by
  unfold RequestedFileChange.unconditional
  induction changes generalizing maps with
  | nil =>
      cases collected
      exact ⟨fun _ => id, by simp, fun _ => Or.inl⟩
  | cons change changes ih =>
      rw [List.foldlM_cons] at collected
      cases step : maps.add change with
      | error error => simp [step, Bind.bind, Except.bind] at collected
      | ok middle =>
          rw [step] at collected
          obtain ⟨keep, add, come⟩ := add_ok step
          obtain ⟨keepRest, addRest, comeRest⟩ := ih collected
          refine ⟨fun key present => keepRest key (keep key present), ?_, ?_⟩
          · intro requested member
            obtain ⟨member, unconditional⟩ := List.mem_filter.mp member
            rcases List.mem_cons.mp member with rfl | member
            · exact keepRest _ (add (by simpa using unconditional))
            · exact addRest _ (List.mem_filter.mpr ⟨member, unconditional⟩)
          · intro present member
            rcases comeRest present member with member | member
            · rcases come present member with member | ⟨same, unconditional⟩
              · exact Or.inl member
              · right
                rw [same]
                exact List.mem_filter.mpr ⟨by simp, by simpa using unconditional⟩
            · right
              obtain ⟨member, unconditional⟩ := List.mem_filter.mp member
              exact List.mem_filter.mpr ⟨by simp [member], unconditional⟩

end ChangeMaps

section Apply

variable {mountCommand : MountCommand} {orders : Orders}
variable {changes : List RequestedFileChange} {tree : FileTree}

theorem Orders.fit_of_fits (checked : orders.fits changes tree = true) :
    orders.Fit changes tree := by
  intro maps collected
  unfold fits at checked
  rw [collected] at checked
  cases initial : orders.initial with
  | none => simp [initial] at checked
  | some order =>
      simp only [initial, Bool.and_eq_true, decide_eq_true_eq] at checked
      refine ⟨checked.1, ?_⟩
      intro resolution started again
      rw [started] at checked
      cases additional : orders.additional with
      | none => simp [additional, again] at checked
      | some order => simpa [additional, again, Sorted] using checked.2

theorem getChanges_ok {resolved : List FileChange}
    (done : getChanges orders changes tree = .ok resolved) :
    ∃ maps resolution, ChangeMaps.ofChanges changes = .ok maps ∧
      maps.resolveInitially tree orders.initial = .ok resolution ∧
      resolution.finish tree orders.additional = .ok resolved := by
  unfold getChanges at done
  cases collected : ChangeMaps.ofChanges changes with
  | error error => simp [collected, Bind.bind, Except.bind] at done
  | ok maps =>
      rw [collected] at done
      cases started : maps.resolveInitially tree orders.initial with
      | error error => simp [started, Bind.bind, Except.bind] at done
      | ok resolution =>
          simp only [Bind.bind, Except.bind, started] at done
          exact ⟨maps, resolution, rfl, started, done⟩

theorem resolveInitially_ok {maps : ChangeMaps} {initial : Option (List String)}
    {resolution : Resolution}
    (started : maps.resolveInitially tree initial = .ok resolution) :
    ∃ order, initial = some order ∧
      order.foldlM (Resolution.resolveInitially maps.conditionalChangesMap tree)
        { changesMap := maps.changesMap } = .ok resolution := by
  unfold ChangeMaps.resolveInitially at started
  split at started
  · cases started
  · exact ⟨_, rfl, started⟩

/-- Each unconditional change has its turn, or one with its key has. -/
theorem exists_resolved (fit : orders.Fit changes tree)
    {resolved : List FileChange}
    (done : getChanges orders changes tree = .ok resolved)
    {change : RequestedFileChange}
    (member : change ∈ RequestedFileChange.unconditional changes) :
    ∃ found ∈ resolved, found.resolvedKey = change.resolvedKey := by
  obtain ⟨maps, resolution, collected, started, finished⟩ := getChanges_ok done
  obtain ⟨sorted, sortedAgain⟩ := fit maps collected
  have present : maps.changesMap.HasKey change.resolvedKey :=
    (ChangeMaps.foldlM_add collected).2.1 change member
  obtain ⟨order, orderIs, ran⟩ := resolveInitially_ok started
  rw [orderIs] at sorted
  obtain ⟨goesOn, each⟩ := Resolution.resolved_foldlM ran
  have stillPresent := goesOn.hasKey _ present
  unfold Resolution.finish at finished
  split at finished
  · rename_i again
    have sorted := sortedAgain resolution started again
    split at finished
    · cases finished
    · rename_i additional additionalIs
      rw [additionalIs] at sorted
      cases finished
      obtain ⟨deps, inGraph⟩ := stillPresent.mem_graphOf
      have inOrder := (sorted.mem _ (List.mem_append_right _ inGraph)).1
      have all := Resolution.resolved_foldl tree additional
        { resolution with resolvedKeys := [] }
      exact Resolution.mem_resolvedChanges (all.2 _ inOrder stillPresent)
        (all.1.hasKey _ stillPresent)
  · cases finished
    obtain ⟨deps, inGraph⟩ := present.mem_graphOf
    have inOrder := (sorted.mem _ inGraph).1
    exact Resolution.mem_resolvedChanges (each _ inOrder present) stillPresent

/-- There is nothing to do about a change, whatever is known of it. -/
def Idle (tree : FileTree) (requested : RequestedFileChange) : Prop :=
  ∀ change : FileChange, change.toRequestedFileChange = requested →
    (change.getFileChangeResolvedAction tree).2 = .doNothing

theorem applyChange_of_idle {change : FileChange}
    (idle : Idle tree change.toRequestedFileChange) :
    change.applyChange mountCommand tree = (tree, none) := by
  rw [FileChange.applyChange, idle change rfl]
  rfl

theorem applyChanges_of_idle {resolved : List FileChange}
    (idle : ∀ change ∈ resolved, Idle tree change.toRequestedFileChange) :
    applyChanges mountCommand resolved tree = (tree, none) := by
  induction resolved with
  | nil => rfl
  | cons change resolved ih =>
      rw [applyChanges, applyChange_of_idle (idle change (by simp))]
      exact ih fun change member => idle change (by simp [member])

/-- A resolution in which nothing is to be done adds no changes. -/
theorem foldlM_of_idle (conditionalChangesMap : ChangesMap)
    (order : List String) (resolution : Resolution)
    (idle : ∀ change ∈ resolution.changesMap,
      Idle tree change.toRequestedFileChange) :
    ∃ later, order.foldlM
        (Resolution.resolveInitially conditionalChangesMap tree) resolution =
          .ok later ∧
      later.additionalResolveRequired = resolution.additionalResolveRequired ∧
      ∀ change ∈ later.changesMap, Idle tree change.toRequestedFileChange := by
  induction order generalizing resolution with
  | nil => exact ⟨resolution, rfl, rfl, idle⟩
  | cons key order ih =>
      have stepped : ∃ middle, resolution.resolveInitially conditionalChangesMap
          tree key = .ok middle ∧
          middle.additionalResolveRequired =
            resolution.additionalResolveRequired ∧
          ∀ change ∈ middle.changesMap, Idle tree change.toRequestedFileChange := by
        unfold Resolution.resolveInitially Resolution.look
        cases found : resolution.changesMap.get? key with
        | none => exact ⟨resolution, rfl, rfl, idle⟩
        | some change =>
            have quiet := idle change (ChangesMap.mem_of_get? found).1
            simp only [quiet change rfl, if_pos]
            refine ⟨_, rfl, rfl, ?_⟩
            intro other member
            rcases ChangesMap.mem_set member with rfl | member
            · rwa [FileChange.toRequestedFileChange_resolvedAction]
            · exact idle other member
      obtain ⟨middle, step, same, middleIdle⟩ := stepped
      obtain ⟨later, rest, sameRest, laterIdle⟩ := ih middle middleIdle
      refine ⟨later, ?_, sameRest.trans same, laterIdle⟩
      rw [List.foldlM_cons, step]
      exact rest

/-- Where there is nothing to do, only changes that do nothing are resolved. -/
theorem getChanges_of_idle (fit : orders.Fit changes tree) {maps : ChangeMaps}
    (collected : ChangeMaps.ofChanges changes = .ok maps)
    {order : List String}
    (ordered : TopologicalOrder (graphOf maps.changesMap) order)
    (idle : ∀ change ∈ RequestedFileChange.unconditional changes,
      Idle tree change) :
    ∃ resolved, getChanges orders changes tree = .ok resolved ∧
      ∀ change ∈ resolved, Idle tree change.toRequestedFileChange := by
  have mapIdle : ∀ change ∈ maps.changesMap,
      Idle tree change.toRequestedFileChange := by
    intro change member
    rcases (ChangeMaps.foldlM_add collected).2.2 change member with no | asked
    · cases no
    · exact idle _ asked
  obtain ⟨sorted, -⟩ := fit maps collected
  cases orderIs : orders.initial with
  | none =>
      rw [orderIs] at sorted
      exact absurd ordered (sorted order)
  | some initial =>
      obtain ⟨resolution, ran, same, resolutionIdle⟩ :=
        foldlM_of_idle maps.conditionalChangesMap initial
          { changesMap := maps.changesMap } mapIdle
      refine ⟨resolution.resolvedChanges, ?_, ?_⟩
      · unfold getChanges ChangeMaps.resolveInitially
        simp only [collected, orderIs, Bind.bind, Except.bind, ran]
        unfold Resolution.finish
        rw [same]
        rfl
      · intro change member
        obtain ⟨key, -, found⟩ := List.mem_filterMap.mp member
        exact resolutionIdle change (ChangesMap.mem_of_get? found).1

/-- The order that an earlier resolution went by is still one. -/
theorem exists_topologicalOrder {earlier : FileTree}
    (fit : orders.Fit changes earlier) {resolved : List FileChange}
    (done : getChanges orders changes earlier = .ok resolved) :
    ∃ maps order, ChangeMaps.ofChanges changes = .ok maps ∧
      TopologicalOrder (graphOf maps.changesMap) order := by
  obtain ⟨maps, resolution, collected, started, -⟩ := getChanges_ok done
  obtain ⟨order, orderIs, -⟩ := resolveInitially_ok started
  obtain ⟨sorted, -⟩ := fit maps collected
  rw [orderIs] at sorted
  exact ⟨maps, order, collected, sorted⟩

end Apply

end UsbGadget

end JetKvm
