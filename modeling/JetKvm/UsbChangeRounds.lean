import JetKvm.UsbChangeSetLasting
import JetKvm.UsbChangeSetResolver
import Mathlib.Logic.Relation

/-!
# What the two resolutions leave

The maps of `GetChanges` keep one change for each key.  The first resolution
adds the conditional changes that are asked for, and notes them as
dependencies of the one that asks; the second one only looks again.  What a
resolution leaves is told once for a round of the loop and once for the graph
that is sorted last.
-/

namespace JetKvm

namespace UsbGadget

namespace RequestedFileChange

/-- There is something to do about the change. -/
def Acts (change : RequestedFileChange) (tree : FileTree) : Prop :=
  ¬ change.Holds tree

instance (change : RequestedFileChange) (tree : FileTree) :
    Decidable (change.Acts tree) :=
  inferInstanceAs (Decidable (¬ _))

/-- The changes it asks for. -/
def waits (change : RequestedFileChange) : List String :=
  change.beforeChange.getD []

theorem isSame_refl (change : RequestedFileChange) : change.IsSame change :=
  ⟨rfl, rfl, rfl, rfl, rfl⟩

theorem IsSame.symm {one other : RequestedFileChange} (same : one.IsSame other) :
    other.IsSame one :=
  ⟨same.1.symm, same.2.1.symm, same.2.2.1.symm, same.2.2.2.1.symm,
    same.2.2.2.2.symm⟩

theorem IsSame.trans {one other third : RequestedFileChange}
    (first : one.IsSame other) (second : other.IsSame third) :
    one.IsSame third :=
  ⟨first.1.trans second.1, first.2.1.trans second.2.1,
    first.2.2.1.trans second.2.2.1, first.2.2.2.1.trans second.2.2.2.1,
    first.2.2.2.2.trans second.2.2.2.2⟩

end RequestedFileChange

open RequestedFileChange

/-! ### The changes that are collected -/

namespace ChangeMaps

/-- The maps hold the changes of the list, one for each key: the first of the
unconditional ones, and some conditional one. -/
structure Collects (maps : ChangeMaps) (changes : List RequestedFileChange) :
    Prop where
  unconditional : ∀ key found, maps.changesMap.get? key = some found →
    ∃ change ∈ changes, change.when = "" ∧ found = change.fresh
  conditional : ∀ key found,
    maps.conditionalChangesMap.get? key = some found →
    ∃ change ∈ changes, change.when ≠ "" ∧ found = change.fresh
  kept : ∀ change ∈ changes, change.when = "" →
    ∃ found, maps.changesMap.get? change.resolvedKey = some found ∧
      found.IsSame change

variable {maps later : ChangeMaps} {changes : List RequestedFileChange}
variable {change : RequestedFileChange}

theorem Collects.add (collects : maps.Collects changes)
    (added : maps.add change = .ok later) :
    later.Collects (changes ++ [change]) := by
  have wider : ∀ {Fits : RequestedFileChange → Prop},
      (∃ one ∈ changes, Fits one) → ∃ one ∈ changes ++ [change], Fits one :=
    fun ⟨one, member, fits⟩ => ⟨one, List.mem_append_left _ member, fits⟩
  have own : change ∈ changes ++ [change] := by simp
  unfold ChangeMaps.add at added
  by_cases unconditional : change.when = ""
  · rw [if_neg (not_not.mpr unconditional)] at added
    cases found : maps.changesMap.get? change.resolvedKey with
    | some present =>
        rw [found] at added
        dsimp only at added
        by_cases same : present.IsSame change
        · rw [if_pos same] at added
          obtain rfl := Except.ok.inj added
          refine ⟨fun key one looked => wider (collects.unconditional _ _ looked),
            fun key one looked => wider (collects.conditional _ _ looked), ?_⟩
          intro one member free
          rcases List.mem_append.mp member with member | last
          · exact collects.kept one member free
          · obtain rfl := List.mem_singleton.mp last
            exact ⟨present, found, same⟩
        · rw [if_neg same] at added
          cases added
    | none =>
        rw [found] at added
        obtain rfl := Except.ok.inj added
        refine ⟨?_, fun key one looked => wider (collects.conditional _ _ looked),
          ?_⟩
        · intro key one looked
          rcases ChangesMap.get?_set_cases looked with ⟨-, rfl⟩ | ⟨-, before⟩
          · exact ⟨change, own, unconditional, rfl⟩
          · exact wider (collects.unconditional _ _ before)
        · intro one member free
          dsimp only
          rw [ChangesMap.get?_set]
          by_cases here : one.resolvedKey = change.resolvedKey
          · rw [if_pos here]
            rcases List.mem_append.mp member with member | last
            · obtain ⟨other, there, -⟩ := collects.kept one member free
              rw [here, found] at there
              cases there
            · obtain rfl := List.mem_singleton.mp last
              exact ⟨_, rfl, isSame_refl _⟩
          · rw [if_neg here]
            rcases List.mem_append.mp member with member | last
            · exact collects.kept one member free
            · exact absurd (by rw [List.mem_singleton.mp last]) here
  · rw [if_pos unconditional] at added
    obtain rfl := Except.ok.inj added
    refine ⟨fun key one looked => wider (collects.unconditional _ _ looked),
      ?_, ?_⟩
    · intro key one looked
      rcases ChangesMap.get?_set_cases looked with ⟨-, rfl⟩ | ⟨-, before⟩
      · exact ⟨change, own, unconditional, rfl⟩
      · exact wider (collects.conditional _ _ before)
    · intro one member free
      rcases List.mem_append.mp member with member | last
      · exact collects.kept one member free
      · rw [List.mem_singleton.mp last] at free
        exact absurd free unconditional

theorem Collects.foldlM {before : List RequestedFileChange}
    (collects : maps.Collects before)
    (collected : changes.foldlM ChangeMaps.add maps = .ok later) :
    later.Collects (before ++ changes) := by
  induction changes generalizing maps before with
  | nil =>
      cases collected
      rwa [List.append_nil]
  | cons change changes ih =>
      rw [List.foldlM_cons] at collected
      cases step : maps.add change with
      | error error => simp [step, Bind.bind, Except.bind] at collected
      | ok middle =>
          rw [step] at collected
          have rest := ih (collects.add step) collected
          rwa [List.append_assoc] at rest

theorem collects_of_ofChanges (collected : ofChanges changes = .ok maps) :
    maps.Collects changes := by
  have nothing : ({} : ChangeMaps).Collects [] :=
    ⟨fun _ _ looked => (nomatch looked), fun _ _ looked => (nomatch looked),
      List.forall_mem_nil _⟩
  exact nothing.foldlM collected

end ChangeMaps

/-- What adding the dependencies leaves at a key, and that the conditional
changes know all of them. -/
theorem addDependencies_ok {conditionalChangesMap changesMap later : ChangesMap}
    {deps : List String}
    (added : addDependencies conditionalChangesMap deps changesMap =
      .ok later) :
    (∀ key, later.get? key = changesMap.get? key ∨
      key ∈ deps ∧ ∃ found, conditionalChangesMap.get? key = some found ∧
        later.get? key = some found) ∧
      ∀ dep ∈ deps, later.HasKey dep ∧ conditionalChangesMap.HasKey dep := by
  induction deps generalizing changesMap with
  | nil =>
      obtain rfl := Except.ok.inj added
      exact ⟨fun _ => Or.inl rfl, List.forall_mem_nil _⟩
  | cons dep deps ih =>
      rw [addDependencies] at added
      cases known : conditionalChangesMap.get? dep with
      | none =>
          rw [known] at added
          cases added
      | some depChange =>
          have depKey : depChange.resolvedKey = dep :=
            (ChangesMap.mem_of_get? known).2
          have knows : conditionalChangesMap.HasKey dep :=
            Option.isSome_iff_exists.mpr ⟨depChange, known⟩
          have afterSet : addDependencies conditionalChangesMap deps
              (changesMap.set depChange) = .ok later →
              (∀ key, later.get? key = changesMap.get? key ∨
                key ∈ dep :: deps ∧
                  ∃ found, conditionalChangesMap.get? key = some found ∧
                    later.get? key = some found) ∧
                ∀ other ∈ dep :: deps,
                  later.HasKey other ∧ conditionalChangesMap.HasKey other := by
            intro added
            obtain ⟨entries, all⟩ := ih added
            have present : later.HasKey dep := by
              have set : (changesMap.set depChange).HasKey depChange.resolvedKey :=
                ChangesMap.hasKey_set_self
              rw [depKey] at set
              exact set.addDependencies added
            refine ⟨?_, List.forall_mem_cons.mpr ⟨⟨present, knows⟩, all⟩⟩
            intro key
            rcases entries key with same | ⟨member, rest⟩
            · rw [ChangesMap.get?_set] at same
              by_cases here : key = depChange.resolvedKey
              · rw [if_pos here] at same
                rw [here, depKey] at same ⊢
                exact Or.inr ⟨List.mem_cons_self, depChange, known, same⟩
              · rw [if_neg here] at same
                exact Or.inl same
            · exact Or.inr ⟨List.mem_cons_of_mem _ member, rest⟩
          rw [known] at added
          dsimp only at added
          cases here : changesMap.get? dep with
          | none =>
              rw [here] at added
              exact afterSet added
          | some present =>
              rw [here] at added
              dsimp only at added
              by_cases conditional : present.when = ""
              · rw [if_neg (not_not.mpr conditional)] at added
                exact afterSet added
              · rw [if_pos conditional] at added
                obtain ⟨entries, all⟩ := ih added
                have stays : changesMap.HasKey dep :=
                  Option.isSome_iff_exists.mpr ⟨present, here⟩
                refine ⟨?_, List.forall_mem_cons.mpr
                  ⟨⟨stays.addDependencies added, knows⟩, all⟩⟩
                intro key
                exact (entries key).imp_right
                  (And.imp_left (List.mem_cons_of_mem dep))

/-! ### What a change remembers -/

namespace FileChange

variable {change : FileChange} {tree : FileTree}

/-- Of a device nothing is remembered, since nothing was known of it before. -/
def Remembers (change : FileChange) (tree : FileTree) : Prop :=
  tree.lstat change.path = .ok .device → change.actualState = .unknown

theorem remembers_fresh (requested : RequestedFileChange) :
    requested.fresh.Remembers tree := fun _ => rfl

theorem Remembers.congr {other : FileChange} (remembers : change.Remembers tree)
    (path : other.path = change.path)
    (state : other.actualState = change.actualState) : other.Remembers tree := by
  intro device
  rw [state]
  exact remembers (path ▸ device)

/-- A look at the change finds whether there is something to do about it. -/
theorem Remembers.action_iff (remembers : change.Remembers tree) :
    (change.getFileChangeResolvedAction tree).2 ≠ .doNothing ↔
      change.Acts tree := by
  have same : (change.getFileChangeResolvedAction tree).2 =
      (change.fresh.getFileChangeResolvedAction tree).2 := by
    by_cases device : tree.lstat change.path = .ok .device
    · by_cases checked : Checked change.toRequestedFileChange
      · have unknown := remembers device
        have freshChecked : Checked change.fresh.toRequestedFileChange := checked
        rw [action_eq checked, action_eq freshChecked,
          getActualState_device device,
          @getActualState_device change.toRequestedFileChange.fresh tree device]
        obtain ⟨requested, state, content, deps⟩ := change
        obtain rfl := unknown
        exact actionFor_congr (by simp) (by simp)
      · exact action_of_not_checked rfl checked
    · exact action_congr rfl device
  rw [same]
  rfl

theorem Remembers.look (remembers : change.Remembers tree) :
    (change.getFileChangeResolvedAction tree).1.Remembers tree := by
  intro device
  rw [toRequestedFileChange_resolvedAction] at device
  have unknown := remembers device
  unfold getFileChangeResolvedAction
  split
  · exact unknown
  · exact unknown
  · rw [getActualState_device device]
    exact unknown

@[simp]
theorem resolvedDeps_getActualState :
    (change.getActualState tree).1.resolvedDeps = change.resolvedDeps := by
  unfold getActualState
  split <;> try rfl
  · dsimp only
    split
    · split <;> rfl
    · split <;> rfl
    · rfl
  · dsimp only
    split <;> rfl

@[simp]
theorem resolvedDeps_resolvedAction :
    (change.getFileChangeResolvedAction tree).1.resolvedDeps =
      change.resolvedDeps := by
  unfold getFileChangeResolvedAction
  split
  · rfl
  · rfl
  · have same : (change.getActualState tree).1.resolvedDeps = _ :=
      resolvedDeps_getActualState
    split <;> simp_all

end FileChange

/-! ### The first resolution -/

namespace Resolution

variable {conditionalChangesMap : ChangesMap} {tree : FileTree}
variable {resolution later : Resolution} {key : String}

/-- What one round of the loop does. -/
theorem resolveInitially_cases
    (resolved : resolution.resolveInitially conditionalChangesMap tree key =
      .ok later) :
    (resolution.changesMap.get? key = none ∧ later = resolution) ∨
    ∃ change, resolution.changesMap.get? key = some change ∧
      (((change.getFileChangeResolvedAction tree).2 = .doNothing ∨
          change.beforeChange = none) ∧
        later =
          { resolution with
            changesMap := resolution.changesMap.set
              (change.getFileChangeResolvedAction tree).1
            resolvedKeys := resolution.resolvedKeys ++ [key] } ∨
        ∃ deps changesMap, change.beforeChange = some deps ∧
          addDependencies conditionalChangesMap deps
            ((resolution.changesMap.set
                (change.getFileChangeResolvedAction tree).1).set
              { (change.getFileChangeResolvedAction tree).1 with
                resolvedDeps := change.resolvedDeps ++ deps }) =
              .ok changesMap ∧
          (change.getFileChangeResolvedAction tree).2 ≠ .doNothing ∧
          later =
            { changesMap
              resolvedKeys := resolution.resolvedKeys ++ [key]
              additionalResolveRequired := true }) := by
  unfold resolveInitially look at resolved
  cases found : resolution.changesMap.get? key with
  | none =>
      rw [found] at resolved
      exact Or.inl ⟨rfl, (Except.ok.inj resolved).symm⟩
  | some change =>
      rw [found] at resolved
      dsimp only at resolved
      refine Or.inr ⟨change, rfl, ?_⟩
      by_cases idle : (change.getFileChangeResolvedAction tree).2 = .doNothing
      · rw [if_pos idle] at resolved
        exact Or.inl ⟨Or.inl idle, (Except.ok.inj resolved).symm⟩
      · rw [if_neg idle] at resolved
        dsimp only at resolved
        have same : (change.getFileChangeResolvedAction tree).1.beforeChange =
            change.beforeChange := by
          rw [FileChange.toRequestedFileChange_resolvedAction]
        rw [same, FileChange.resolvedDeps_resolvedAction] at resolved
        cases waits : change.beforeChange with
        | none =>
            rw [waits] at resolved
            exact Or.inl ⟨Or.inr rfl, (Except.ok.inj resolved).symm⟩
        | some deps =>
            rw [waits] at resolved
            dsimp only at resolved
            cases added : addDependencies conditionalChangesMap deps
                ((resolution.changesMap.set
                    (change.getFileChangeResolvedAction tree).1).set
                  { (change.getFileChangeResolvedAction tree).1 with
                    resolvedDeps := change.resolvedDeps ++ deps }) with
            | error error =>
                rw [added] at resolved
                cases resolved
            | ok changesMap =>
                rw [added] at resolved
                exact Or.inr ⟨deps, changesMap, rfl, added, idle,
                  (Except.ok.inj resolved).symm⟩

/-- The change asks for the other with good reason: it has been resolved, and
there is something to do about it. -/
def AsksFor (changes : List RequestedFileChange) (tree : FileTree)
    (resolvedKeys : List String) (asker change : RequestedFileChange) : Prop :=
  asker ∈ changes ∧ asker.resolvedKey ∈ resolvedKeys ∧ asker.Acts tree ∧
    change.resolvedKey ∈ asker.waits

/-- From one of the unconditional changes each asks for the next, up to this
one. -/
def Led (changes : List RequestedFileChange) (tree : FileTree)
    (resolvedKeys : List String) (change : RequestedFileChange) : Prop :=
  ∃ first ∈ unconditional changes, Relation.ReflTransGen
    (AsksFor changes tree resolvedKeys) first change

theorem Led.mono {changes : List RequestedFileChange}
    {resolvedKeys laterKeys : List String} {change : RequestedFileChange}
    (led : Led changes tree resolvedKeys change)
    (wider : ∀ key ∈ resolvedKeys, key ∈ laterKeys) :
    Led changes tree laterKeys change := by
  obtain ⟨first, free, path⟩ := led
  refine ⟨first, free, Relation.ReflTransGen.mono ?_ _ _ path⟩
  rintro asker other ⟨member, resolved, rest⟩
  exact ⟨member, wider _ resolved, rest⟩

/-- A conditional change is asked for by the last but one. -/
theorem Led.asked {changes : List RequestedFileChange}
    {resolvedKeys : List String} {change : RequestedFileChange}
    (led : Led changes tree resolvedKeys change) (conditional : change.when ≠ "") :
    ∃ asker, AsksFor changes tree resolvedKeys asker change := by
  obtain ⟨first, free, path⟩ := led
  rcases path.cases_tail with rfl | ⟨asker, -, asks⟩
  · have free := of_decide_eq_true (List.mem_filter.mp free).2
    exact absurd free conditional
  · exact ⟨asker, asks⟩

/-- What holds of the first resolution after its rounds for some keys. -/
structure Sound (changes : List RequestedFileChange) (tree : FileTree)
    (initial : ChangesMap) (done : List String) (resolution : Resolution) :
    Prop where
  origin : ∀ key found, resolution.changesMap.get? key = some found →
    found.toRequestedFileChange ∈ changes
  led : ∀ key found, resolution.changesMap.get? key = some found →
    Led changes tree resolution.resolvedKeys found.toRequestedFileChange
  remembers : ∀ key found, resolution.changesMap.get? key = some found →
    found.Remembers tree
  initially : ∀ key found, resolution.changesMap.get? key = some found →
    found.when = "" → initial.HasKey key
  heeded : ∀ key ∈ done, ∀ found,
    resolution.changesMap.get? key = some found → found.when = "" →
    found.Acts tree → ∀ dep ∈ found.waits,
      resolution.additionalResolveRequired = true ∧
        dep ∈ found.resolvedDeps ∧ resolution.changesMap.HasKey dep ∧
        ∃ change ∈ changes, change.when ≠ "" ∧ change.resolvedKey = dep
  resolvedKeys : resolution.resolvedKeys.Sublist done
  hasKey : ∀ key ∈ resolution.resolvedKeys, resolution.changesMap.HasKey key
  unchanged : resolution.additionalResolveRequired = false →
    ∀ key found, resolution.changesMap.get? key = some found →
    ∃ first, initial.get? key = some first ∧
      first.toRequestedFileChange = found.toRequestedFileChange

/-- A round for the key of a change: the entries it leaves, and what it does
where there is something to do about the change. -/
structure Round (changes : List RequestedFileChange) (tree : FileTree)
    (resolution : Resolution) (key : String) (change : FileChange)
    (later : Resolution) : Prop where
  resolvedKeys : later.resolvedKeys = resolution.resolvedKeys ++ [key]
  additional : resolution.additionalResolveRequired = true →
    later.additionalResolveRequired = true
  hasKey : ∀ other, resolution.changesMap.HasKey other →
    later.changesMap.HasKey other
  entry : ∀ other found, later.changesMap.get? other = some found →
    (other = key ∧ found.Remembers tree ∧
        found.toRequestedFileChange = change.toRequestedFileChange ∧
        (change.Acts tree → ∀ dep ∈ change.waits, dep ∈ found.resolvedDeps)) ∨
      (other ≠ key ∧ resolution.changesMap.get? other = some found) ∨
      (change.Acts tree ∧ other ∈ change.waits ∧
        ∃ requested ∈ changes, requested.when ≠ "" ∧ found = requested.fresh)
  heeds : change.Acts tree → ∀ dep ∈ change.waits,
    later.additionalResolveRequired = true ∧ later.changesMap.HasKey dep ∧
      ∃ requested ∈ changes, requested.when ≠ "" ∧ requested.resolvedKey = dep
  unchanged : later.additionalResolveRequired = false →
    ∀ other found, later.changesMap.get? other = some found →
    ∃ before, resolution.changesMap.get? other = some before ∧
      before.toRequestedFileChange = found.toRequestedFileChange

variable {changes : List RequestedFileChange}

/-- A look at a change that asks for nothing, or about which there is nothing to
do, is a round for its key. -/
theorem round_of_quiet {change : FileChange}
    (found : resolution.changesMap.get? key = some change)
    (remembered : change.Remembers tree)
    (quiet : change.Acts tree → ∀ dep, dep ∉ change.waits) :
    Round changes tree resolution key change
      { resolution with
        changesMap := resolution.changesMap.set
          (change.getFileChangeResolvedAction tree).1
        resolvedKeys := resolution.resolvedKeys ++ [key] } := by
  have lookedKey :
      (change.getFileChangeResolvedAction tree).1.resolvedKey = key := by
    rw [FileChange.toRequestedFileChange_resolvedAction]
    exact (ChangesMap.mem_of_get? found).2
  refine ⟨rfl, id, fun other present => present.set, ?_,
    fun acts dep member => absurd member (quiet acts dep), ?_⟩
  · intro other entry looked
    rcases ChangesMap.get?_set_cases looked with ⟨here, rfl⟩ | ⟨notHere, before⟩
    · exact Or.inl ⟨here.trans lookedKey, remembered.look,
        FileChange.toRequestedFileChange_resolvedAction,
        fun acts dep member => absurd member (quiet acts dep)⟩
    · exact Or.inr (Or.inl ⟨lookedKey ▸ notHere, before⟩)
  · intro _ other entry looked
    rcases ChangesMap.get?_set_cases looked with ⟨rfl, rfl⟩ | ⟨-, before⟩
    · rw [lookedKey]
      exact ⟨change, found,
        FileChange.toRequestedFileChange_resolvedAction.symm⟩
    · exact ⟨entry, before, rfl⟩

/-- So is a look at a change that asks for others, with the others added. -/
theorem round_of_asks {change : FileChange} {deps : List String}
    {changesMap : ChangesMap}
    (known : ∀ key found, conditionalChangesMap.get? key = some found →
      ∃ change ∈ changes, change.when ≠ "" ∧ found = change.fresh)
    (found : resolution.changesMap.get? key = some change)
    (remembered : change.Remembers tree) (asks : change.beforeChange = some deps)
    (added : addDependencies conditionalChangesMap deps
      ((resolution.changesMap.set
          (change.getFileChangeResolvedAction tree).1).set
        { (change.getFileChangeResolvedAction tree).1 with
          resolvedDeps := change.resolvedDeps ++ deps }) = .ok changesMap)
    (acts : change.Acts tree) :
    Round changes tree resolution key change
      { changesMap
        resolvedKeys := resolution.resolvedKeys ++ [key]
        additionalResolveRequired := true } := by
  have lookedKey :
      (change.getFileChangeResolvedAction tree).1.resolvedKey = key := by
    rw [FileChange.toRequestedFileChange_resolvedAction]
    exact (ChangesMap.mem_of_get? found).2
  have waits : change.waits = deps := by
    rw [RequestedFileChange.waits, asks]
    rfl
  obtain ⟨entries, all⟩ := addDependencies_ok added
  refine ⟨rfl, fun _ => rfl,
    fun other present => present.set.set.addDependencies added, ?_, ?_,
    fun final => nomatch final⟩
  · intro other entry looked
    rcases entries other with same | ⟨member, one, knownOne, same⟩
    · rcases ChangesMap.get?_set_cases (same.symm.trans looked) with
        ⟨here, rfl⟩ | ⟨notHere, before⟩
      · refine Or.inl ⟨here.trans lookedKey, remembered.look.congr rfl rfl,
          FileChange.toRequestedFileChange_resolvedAction, ?_⟩
        intro _ dep member
        rw [waits] at member
        exact List.mem_append_right _ member
      · rcases ChangesMap.get?_set_cases before with ⟨here, -⟩ | ⟨-, earlier⟩
        · exact absurd here notHere
        · exact Or.inr (Or.inl ⟨lookedKey ▸ notHere, earlier⟩)
    · obtain rfl : one = entry := Option.some.inj (same.symm.trans looked)
      rw [← waits] at member
      exact Or.inr (Or.inr ⟨acts, member, known other one knownOne⟩)
  · intro _ dep member
    rw [waits] at member
    obtain ⟨present, knows⟩ := all dep member
    obtain ⟨one, knownOne⟩ := Option.isSome_iff_exists.mp knows
    obtain ⟨requested, requestedIn, conditional, rfl⟩ := known dep one knownOne
    exact ⟨rfl, present, requested, requestedIn, conditional,
      (ChangesMap.mem_of_get? knownOne).2⟩

theorem round_of_resolveInitially
    (known : ∀ key found, conditionalChangesMap.get? key = some found →
      ∃ change ∈ changes, change.when ≠ "" ∧ found = change.fresh)
    (remembers : ∀ key found, resolution.changesMap.get? key = some found →
      found.Remembers tree)
    (resolved : resolution.resolveInitially conditionalChangesMap tree key =
      .ok later) :
    (resolution.changesMap.get? key = none ∧ later = resolution) ∨
    ∃ change, resolution.changesMap.get? key = some change ∧
      Round changes tree resolution key change later := by
  rcases resolveInitially_cases resolved with nothing | ⟨change, found, rest⟩
  · exact Or.inl nothing
  refine Or.inr ⟨change, found, ?_⟩
  have remembered := remembers key change found
  rcases rest with ⟨quiet, rfl⟩ | ⟨deps, changesMap, asks, added, acts, rfl⟩
  · refine round_of_quiet found remembered fun acts dep member => ?_
    rcases quiet with idle | none
    · exact absurd idle (remembered.action_iff.mpr acts)
    · rw [RequestedFileChange.waits, none] at member
      cases member
  · exact round_of_asks known found remembered asks added
      (remembered.action_iff.mp acts)

theorem Sound.round {initial : ChangesMap} {done : List String}
    {change : FileChange}
    (sound : Sound changes tree initial done resolution) (new : key ∉ done)
    (found : resolution.changesMap.get? key = some change)
    (round : Round changes tree resolution key change later) :
    Sound changes tree initial (done ++ [key]) later := by
  have own : key ∈ later.resolvedKeys := by simp [round.resolvedKeys]
  have changeKey : change.resolvedKey = key := (ChangesMap.mem_of_get? found).2
  have wider : ∀ {other}, Led changes tree resolution.resolvedKeys other →
      Led changes tree later.resolvedKeys other := by
    intro other led
    refine led.mono fun asker resolved => ?_
    rw [round.resolvedKeys]
    exact List.mem_append_left _ resolved
  refine ⟨?_, ?_, ?_, ?_, ?_, ?_, ?_, ?_⟩
  · intro other entry looked
    rcases round.entry other entry looked with
      ⟨-, -, same, -⟩ | ⟨-, before⟩ | ⟨-, -, requested, member, -, rfl⟩
    · rw [same]
      exact sound.origin key change found
    · exact sound.origin other entry before
    · exact member
  · intro other entry looked
    rcases round.entry other entry looked with
      ⟨-, -, same, -⟩ | ⟨-, before⟩ | ⟨acts, member, requested, -, -, rfl⟩
    · rw [same]
      exact wider (sound.led key change found)
    · exact wider (sound.led other entry before)
    · obtain ⟨first, free, path⟩ := wider (sound.led key change found)
      have otherKey : requested.resolvedKey = other :=
        (ChangesMap.mem_of_get? looked).2
      rw [← otherKey] at member
      rw [← changeKey] at own
      exact ⟨first, free, path.tail
        ⟨sound.origin key change found, own, acts, member⟩⟩
  · intro other entry looked
    rcases round.entry other entry looked with
      ⟨-, remembers, -, -⟩ | ⟨-, before⟩ | ⟨-, -, requested, -, -, rfl⟩
    · exact remembers
    · exact sound.remembers other entry before
    · exact FileChange.remembers_fresh requested
  · intro other entry looked free
    rcases round.entry other entry looked with
      ⟨rfl, -, same, -⟩ | ⟨-, before⟩ | ⟨-, -, requested, -, cond, rfl⟩
    · rw [same] at free
      exact sound.initially other change found free
    · exact sound.initially other entry before free
    · exact absurd free cond
  · intro other member entry looked free acts dep waits
    rcases round.entry other entry looked with
      ⟨-, -, same, deps⟩ | ⟨notKey, before⟩ | ⟨-, -, requested, -, cond, rfl⟩
    · rw [same] at acts waits
      obtain ⟨again, present, conditional⟩ := round.heeds acts dep waits
      exact ⟨again, deps acts dep waits, present, conditional⟩
    · have earlier : other ∈ done :=
        (List.mem_append.mp member).resolve_right
          fun last => notKey (List.mem_singleton.mp last)
      obtain ⟨again, inDeps, present, conditional⟩ :=
        sound.heeded other earlier entry before free acts dep waits
      exact ⟨round.additional again, inDeps, round.hasKey dep present,
        conditional⟩
    · exact absurd free cond
  · rw [round.resolvedKeys]
    exact sound.resolvedKeys.append (List.Sublist.refl _)
  · intro other member
    rw [round.resolvedKeys] at member
    rcases List.mem_append.mp member with earlier | last
    · exact round.hasKey other (sound.hasKey other earlier)
    · rw [List.mem_singleton.mp last]
      exact round.hasKey key (Option.isSome_iff_exists.mpr ⟨change, found⟩)
  · intro final other entry looked
    obtain ⟨before, there, same⟩ := round.unchanged final other entry looked
    have earlier : resolution.additionalResolveRequired = false := by
      by_contra required
      rw [Bool.not_eq_false] at required
      rw [round.additional required] at final
      cases final
    obtain ⟨first, initially, sameFirst⟩ :=
      sound.unchanged earlier other before there
    exact ⟨first, initially, sameFirst.trans same⟩

theorem Sound.foldlM {initial : ChangesMap} {done order : List String}
    (known : ∀ key found, conditionalChangesMap.get? key = some found →
      ∃ change ∈ changes, change.when ≠ "" ∧ found = change.fresh)
    (sound : Sound changes tree initial done resolution)
    (nodup : (done ++ order).Nodup)
    (ran : order.foldlM (resolveInitially conditionalChangesMap tree)
      resolution = .ok later) :
    Sound changes tree initial (done ++ order) later := by
  induction order generalizing resolution done with
  | nil =>
      cases ran
      rwa [List.append_nil]
  | cons key order ih =>
      rw [List.foldlM_cons] at ran
      cases step : resolution.resolveInitially conditionalChangesMap tree key with
      | error error => simp [step, Bind.bind, Except.bind] at ran
      | ok middle =>
          rw [step] at ran
          have new : key ∉ done := fun member =>
            (List.nodup_append.mp nodup).2.2 key member key (by simp) rfl
          have assoc : done ++ key :: order = (done ++ [key]) ++ order := by simp
          rw [assoc] at nodup ⊢
          refine ih ?_ nodup ran
          rcases round_of_resolveInitially known sound.remembers step with
            ⟨absent, rfl⟩ | ⟨change, found, round⟩
          · refine ⟨sound.origin, sound.led, sound.remembers,
              sound.initially, ?_,
              sound.resolvedKeys.trans (List.sublist_append_left _ _),
              sound.hasKey, sound.unchanged⟩
            intro other member found looked
            rcases List.mem_append.mp member with earlier | last
            · exact sound.heeded other earlier found looked
            · rw [List.mem_singleton.mp last, absent] at looked
              cases looked
          · exact sound.round new found round

/-! ### The second resolution -/

/-- What the request of an entry and its dependencies are. -/
def known (changesMap : ChangesMap) (key : String) :
    Option (RequestedFileChange × List String) :=
  (changesMap.get? key).map fun found =>
    (found.toRequestedFileChange, found.resolvedDeps)

theorem known_of_get? {changesMap : ChangesMap} {found : FileChange}
    (looked : changesMap.get? key = some found) :
    known changesMap key =
      some (found.toRequestedFileChange, found.resolvedDeps) := by
  rw [known, looked]
  rfl

/-- The second resolution looks at the changes and leaves what is known of
them. -/
theorem foldl_resolveAgain (tree : FileTree) (order : List String)
    (resolution : Resolution) :
    (∀ key, known (order.foldl (resolveAgain tree) resolution).changesMap key =
        known resolution.changesMap key) ∧
      ∃ keys, keys.Sublist order ∧
        (order.foldl (resolveAgain tree) resolution).resolvedKeys =
          resolution.resolvedKeys ++ keys ∧
        ∀ key ∈ keys, resolution.changesMap.HasKey key := by
  induction order generalizing resolution with
  | nil => exact ⟨fun _ => rfl, [], List.Sublist.refl _, by simp, by simp⟩
  | cons first order ih =>
      obtain ⟨same, keys, sublist, resolvedKeys, present⟩ :=
        ih (resolution.resolveAgain tree first)
      rw [List.foldl_cons]
      cases found : resolution.changesMap.get? first with
      | none =>
          have still : resolution.resolveAgain tree first = resolution := by
            simp [resolveAgain, look, found]
          rw [still] at same resolvedKeys present ⊢
          exact ⟨same, keys, sublist.cons first, resolvedKeys, present⟩
      | some change =>
          have key : change.resolvedKey = first :=
            (ChangesMap.mem_of_get? found).2
          have stepped : resolution.resolveAgain tree first =
              { resolution with
                changesMap := resolution.changesMap.set
                  (change.getFileChangeResolvedAction tree).1
                resolvedKeys := resolution.resolvedKeys ++ [first] } := by
            simp [resolveAgain, look, found]
          have entries : ∀ key,
              known (resolution.resolveAgain tree first).changesMap key =
                known resolution.changesMap key := by
            intro other
            rw [stepped]
            dsimp only [known]
            rw [ChangesMap.get?_set,
              FileChange.toRequestedFileChange_resolvedAction, key]
            by_cases here : other = first
            · rw [if_pos here, here, found]
              simp
            · rw [if_neg here]
          refine ⟨fun other => (same other).trans (entries other),
            first :: keys, sublist.cons_cons first, ?_, ?_⟩
          · rw [resolvedKeys, stepped, List.append_assoc]
            rfl
          · have hasKey : ∀ other,
                (resolution.resolveAgain tree first).changesMap.HasKey other →
                resolution.changesMap.HasKey other := by
              intro other there
              have same := entries other
              unfold known at same
              unfold ChangesMap.HasKey at there ⊢
              rw [← Option.isSome_map, same, Option.isSome_map] at there
              exact there
            refine List.forall_mem_cons.mpr ⟨?_, fun other member =>
              hasKey other (present other member)⟩
            exact Option.isSome_iff_exists.mpr ⟨change, found⟩

theorem map_resolvedKey_resolvedChanges
    (present : ∀ key ∈ resolution.resolvedKeys,
      resolution.changesMap.HasKey key) :
    resolution.resolvedChanges.map (fun found => found.resolvedKey) =
      resolution.resolvedKeys := by
  unfold resolvedChanges
  generalize resolution.resolvedKeys = keys at present ⊢
  induction keys with
  | nil => rfl
  | cons key keys ih =>
      obtain ⟨here, rest⟩ := List.forall_mem_cons.mp present
      obtain ⟨found, looked⟩ := Option.isSome_iff_exists.mp here
      rw [List.filterMap_cons_some looked, List.map_cons, ih rest,
        (ChangesMap.mem_of_get? looked).2]

end Resolution

/-! ### What is resolved -/

/-- The keys of the changes that are resolved. -/
def keysOf (resolved : List FileChange) : List String :=
  resolved.map fun found => found.resolvedKey

/-- What a resolution that succeeds leaves, told by the graph that was sorted
last. -/
structure Settled (changes : List RequestedFileChange) (tree : FileTree)
    (graph : Graph) (resolved : List FileChange) : Prop where
  ordered : ∃ order, TopologicalOrder graph order ∧
    (keysOf resolved).Sublist order
  origin : ∀ found ∈ resolved, found.toRequestedFileChange ∈ changes
  led : ∀ found ∈ resolved,
    Resolution.Led changes tree (keysOf resolved) found.toRequestedFileChange
  entry : ∀ found ∈ resolved, ∃ deps, (found.resolvedKey, deps) ∈ graph ∧
    found.dependsOn ⊆ deps ∧
    (found.when = "" → found.Acts tree → ∀ dep ∈ found.waits,
      dep ∈ deps ∧ dep ∈ keysOf resolved ∧
        ∃ change ∈ changes, change.when ≠ "" ∧ change.resolvedKey = dep)
  unconditional : ∀ change ∈ unconditional changes,
    change.resolvedKey ∈ keysOf resolved ∧
      ∃ deps, (change.resolvedKey, deps) ∈ graph ∧ change.dependsOn ⊆ deps

section Apply

variable {orders : Orders} {changes : List RequestedFileChange}
variable {tree : FileTree} {resolved : List FileChange}

theorem mem_resolvedChanges_iff {resolution : Resolution} {found : FileChange} :
    found ∈ resolution.resolvedChanges ↔
      found.resolvedKey ∈ resolution.resolvedKeys ∧
        resolution.changesMap.get? found.resolvedKey = some found := by
  constructor
  · intro member
    obtain ⟨key, inKeys, looked⟩ := List.mem_filterMap.mp member
    obtain ⟨-, rfl⟩ := ChangesMap.mem_of_get? looked
    exact ⟨inKeys, looked⟩
  · rintro ⟨inKeys, looked⟩
    exact List.mem_filterMap.mpr ⟨_, inKeys, looked⟩

theorem mem_graphOf_of_get? {changesMap : ChangesMap} {key : String}
    {found : FileChange} (looked : changesMap.get? key = some found) :
    (key, found.dependsOn ++ found.resolvedDeps) ∈ graphOf changesMap := by
  obtain ⟨member, rfl⟩ := ChangesMap.mem_of_get? looked
  exact List.mem_map.mpr ⟨found, member, rfl⟩

/-- The first resolution from the changes that were collected. -/
theorem sound_of_foldlM {maps : ChangeMaps} {order : List String}
    {resolution : Resolution} (collects : maps.Collects changes)
    (nodup : order.Nodup)
    (ran : order.foldlM
      (Resolution.resolveInitially maps.conditionalChangesMap tree)
      { changesMap := maps.changesMap } = .ok resolution) :
    Resolution.Sound changes tree maps.changesMap order resolution := by
  have start : Resolution.Sound changes tree maps.changesMap []
      { changesMap := maps.changesMap } := by
    refine ⟨?_, ?_, ?_, ?_, List.forall_mem_nil _, List.Sublist.refl _,
      List.forall_mem_nil _, fun _ key found looked => ⟨found, looked, rfl⟩⟩
    · intro key found looked
      obtain ⟨change, member, -, rfl⟩ := collects.unconditional key found looked
      exact member
    · intro key found looked
      obtain ⟨change, member, free, rfl⟩ :=
        collects.unconditional key found looked
      exact ⟨change, List.mem_filter.mpr ⟨member, decide_eq_true free⟩, .refl⟩
    · intro key found looked
      obtain ⟨change, -, -, rfl⟩ := collects.unconditional key found looked
      exact FileChange.remembers_fresh change
    · intro key found looked _
      exact Option.isSome_iff_exists.mpr ⟨found, looked⟩
  exact start.foldlM collects.conditional nodup ran

/-- The changes without a condition are in the first graph. -/
theorem mem_graphOf_of_unconditional {maps : ChangeMaps}
    (collects : maps.Collects changes) {change : RequestedFileChange}
    (member : change ∈ unconditional changes) :
    maps.changesMap.HasKey change.resolvedKey ∧
      ∃ deps, (change.resolvedKey, deps) ∈ graphOf maps.changesMap ∧
        change.dependsOn ⊆ deps := by
  obtain ⟨member, free⟩ := List.mem_filter.mp member
  obtain ⟨found, looked, same⟩ :=
    collects.kept change member (of_decide_eq_true free)
  refine ⟨Option.isSome_iff_exists.mpr ⟨found, looked⟩, _,
    mem_graphOf_of_get? looked, ?_⟩
  rw [← same.2.2.2.1]
  exact List.subset_append_left _ _

/-- The first resolution, where no changes were added. -/
theorem settled_of_first {maps : ChangeMaps} {order : List String}
    {resolution : Resolution} (collects : maps.Collects changes)
    (sorted : TopologicalOrder (graphOf maps.changesMap) order)
    (ran : order.foldlM
      (Resolution.resolveInitially maps.conditionalChangesMap tree)
      { changesMap := maps.changesMap } = .ok resolution)
    (final : resolution.additionalResolveRequired = false) :
    Settled changes tree (graphOf maps.changesMap)
      resolution.resolvedChanges := by
  have sound := sound_of_foldlM collects sorted.nodup ran
  have keysAre : keysOf resolution.resolvedChanges = resolution.resolvedKeys :=
    Resolution.map_resolvedKey_resolvedChanges sound.hasKey
  refine ⟨⟨order, sorted, keysAre ▸ sound.resolvedKeys⟩, ?_, ?_, ?_, ?_⟩
  · intro found member
    exact sound.origin _ found (mem_resolvedChanges_iff.mp member).2
  · intro found member
    rw [keysAre]
    exact sound.led _ found (mem_resolvedChanges_iff.mp member).2
  · intro found member
    obtain ⟨inResolved, looked⟩ := mem_resolvedChanges_iff.mp member
    obtain ⟨first, initially, equal⟩ := sound.unchanged final _ found looked
    refine ⟨_, mem_graphOf_of_get? initially, ?_, ?_⟩
    · rw [equal]
      exact List.subset_append_left _ _
    · intro free acts dep waits
      have again := (sound.heeded _ (sound.resolvedKeys.subset inResolved) found
        looked free acts dep waits).1
      rw [final] at again
      cases again
  · intro change member
    obtain ⟨present, deps, inGraph, subset⟩ :=
      mem_graphOf_of_unconditional collects member
    rw [keysAre]
    exact ⟨(Resolution.resolved_foldlM ran).2 _ (sorted.mem _ inGraph).1 present,
      deps, inGraph, subset⟩

/-- The second resolution, where changes were added. -/
theorem settled_of_second {maps : ChangeMaps} {order second : List String}
    {resolution : Resolution} (collects : maps.Collects changes)
    (sorted : TopologicalOrder (graphOf maps.changesMap) order)
    (ran : order.foldlM
      (Resolution.resolveInitially maps.conditionalChangesMap tree)
      { changesMap := maps.changesMap } = .ok resolution)
    (sortedSecond : TopologicalOrder
      (graphOf maps.changesMap ++ graphOf resolution.changesMap) second) :
    Settled changes tree
      (graphOf maps.changesMap ++ graphOf resolution.changesMap)
      (second.foldl (Resolution.resolveAgain tree)
        { resolution with resolvedKeys := [] }).resolvedChanges := by
  have sound := sound_of_foldlM collects sorted.nodup ran
  obtain ⟨same, keys, sublist, resolvedKeys, present⟩ :=
    Resolution.foldl_resolveAgain tree second
      { resolution with resolvedKeys := [] }
  obtain ⟨goesOn, each⟩ := Resolution.resolved_foldl tree second
    { resolution with resolvedKeys := [] }
  generalize second.foldl (Resolution.resolveAgain tree)
    { resolution with resolvedKeys := [] } = last at *
  dsimp only at same resolvedKeys present each
  rw [List.nil_append] at resolvedKeys
  have keysAre : keysOf last.resolvedChanges = keys := by
    rw [keysOf, Resolution.map_resolvedKey_resolvedChanges, resolvedKeys]
    intro key member
    rw [resolvedKeys] at member
    exact goesOn.hasKey key (present key member)
  have inKeys : ∀ key, resolution.changesMap.HasKey key → key ∈ keys := by
    intro key there
    obtain ⟨deps, inGraph⟩ := there.mem_graphOf
    have inOrder := (sortedSecond.mem _ (List.mem_append_right _ inGraph)).1
    rw [← resolvedKeys]
    exact each key inOrder there
  have before : ∀ found ∈ last.resolvedChanges, ∃ earlier,
      resolution.changesMap.get? found.resolvedKey = some earlier ∧
        found.toRequestedFileChange = earlier.toRequestedFileChange := by
    intro found member
    obtain ⟨inResolved, looked⟩ := mem_resolvedChanges_iff.mp member
    rw [resolvedKeys] at inResolved
    obtain ⟨earlier, there⟩ :=
      Option.isSome_iff_exists.mp (present _ inResolved)
    have equal := same found.resolvedKey
    rw [Resolution.known_of_get? looked, Resolution.known_of_get? there] at equal
    exact ⟨earlier, there, (Prod.mk.inj (Option.some.inj equal)).1⟩
  refine ⟨⟨second, sortedSecond, keysAre ▸ sublist⟩, ?_, ?_, ?_, ?_⟩
  · intro found member
    obtain ⟨earlier, there, equal⟩ := before found member
    rw [equal]
    exact sound.origin _ earlier there
  · intro found member
    obtain ⟨earlier, there, equal⟩ := before found member
    rw [equal, keysAre]
    exact (sound.led _ earlier there).mono fun key resolved =>
      inKeys key (sound.hasKey key resolved)
  · intro found member
    obtain ⟨earlier, there, equal⟩ := before found member
    refine ⟨_, List.mem_append_right _ (mem_graphOf_of_get? there), ?_, ?_⟩
    · rw [equal]
      exact List.subset_append_left _ _
    · intro free acts dep waits
      rw [equal] at free acts waits
      obtain ⟨deps, inGraph⟩ :=
        (sound.initially _ earlier there free).mem_graphOf
      obtain ⟨-, inDeps, present, conditional⟩ := sound.heeded _
        (sorted.mem _ inGraph).1 earlier there free acts dep waits
      rw [keysAre]
      exact ⟨List.mem_append_right _ inDeps, inKeys dep present, conditional⟩
  · intro change member
    obtain ⟨present, deps, inGraph, subset⟩ :=
      mem_graphOf_of_unconditional collects member
    rw [keysAre]
    exact ⟨inKeys _ ((Resolution.resolved_foldlM ran).1.hasKey _ present), deps,
      List.mem_append_left _ inGraph, subset⟩

theorem settled_of_getChanges (fit : orders.Fit changes tree)
    (done : getChanges orders changes tree = .ok resolved) :
    ∃ graph, Settled changes tree graph resolved := by
  obtain ⟨maps, resolution, collected, started, finished⟩ := getChanges_ok done
  obtain ⟨sorted, sortedAgain⟩ := fit maps collected
  have collects := ChangeMaps.collects_of_ofChanges collected
  obtain ⟨order, orderIs, ran⟩ := resolveInitially_ok started
  rw [orderIs] at sorted
  unfold Resolution.finish at finished
  by_cases again : resolution.additionalResolveRequired = true
  · rw [if_pos again] at finished
    have sortedSecond := sortedAgain resolution started again
    cases additional : orders.additional with
    | none =>
        rw [additional] at finished
        cases finished
    | some second =>
        rw [additional] at finished sortedSecond
        obtain rfl := Except.ok.inj finished
        exact ⟨_, settled_of_second collects sorted ran sortedSecond⟩
  · rw [if_neg again] at finished
    obtain rfl := Except.ok.inj finished
    exact ⟨_, settled_of_first collects sorted ran
      ((Bool.not_eq_true _).mp again)⟩

end Apply

end UsbGadget

end JetKvm
