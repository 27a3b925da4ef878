import JetKvm.UsbChangeRounds

/-!
# The order of the changes

What `GetChanges` answers for any list of changes: which changes are resolved,
in what order, and which lists are refused.  A change without a condition is
always resolved.  A conditional change is resolved if another change that has
something to do asks for it, and comes before an unconditional one that does;
the first of those that ask for one another is unconditional.
-/

namespace JetKvm

namespace UsbGadget

open RequestedFileChange

/-! ### What the order promises -/

/-- The keys are resolved once each, those of the unconditional changes among
them, and each change after those it depends on. -/
structure Arranged (changes : List RequestedFileChange)
    (resolved : List FileChange) : Prop where
  once : (keysOf resolved).Nodup
  unconditional : ∀ change ∈ unconditional changes,
    change.resolvedKey ∈ keysOf resolved
  dependencies : ∀ later earlier, (later' : later < resolved.length) →
    (earlier' : earlier < resolved.length) →
    resolved[earlier].resolvedKey ∈ resolved[later].dependsOn →
    earlier < later

/-- The changes a promise is about: those that can ask for conditional ones,
those whose `BeforeChange` comes before them, those whose key leads to them,
those that must know what they ask for, and the pairs that clash. -/
structure Scope where
  asks : RequestedFileChange → Prop
  waits : RequestedFileChange → Prop
  plain : RequestedFileChange → Prop
  seeks : RequestedFileChange → Prop
  apart : RequestedFileChange → RequestedFileChange → Prop

/-- A promise about all changes of the list. -/
def Scope.all (changes : List RequestedFileChange) : Scope where
  asks change := change ∈ unconditional changes
  waits _ := True
  plain change := change ∈ changes
  seeks change := change ∈ unconditional changes
  apart one other := one ≠ other

/-- No other change has its key. -/
def Sole (changes : List RequestedFileChange) (change : RequestedFileChange) :
    Prop :=
  change ∈ changes ∧
    ∀ other ∈ changes, other.resolvedKey = change.resolvedKey → other = change

/-- A promise about the changes that the resolver can tell apart.  What waits
is unconditional; a conditional change can be asked for by another one. -/
def Scope.resolvable (changes : List RequestedFileChange) (tree : FileTree) :
    Scope where
  asks change := change ∈ changes
  waits change := change.when = ""
  plain change := Sole changes change
  seeks change :=
    Sole changes change ∧ change.when = "" ∧ change.Acts tree
  apart one other := ¬ one.IsSame other

section Promise

variable (scope : Scope) (changes : List RequestedFileChange) (tree : FileTree)

/-- An unconditional change whose key leads to it has something to do, and
asks for the key. -/
def Asks (key : String) (change : RequestedFileChange) : Prop :=
  scope.plain change ∧ change.when = "" ∧ change ∈ changes ∧
    change.Acts tree ∧ key ∈ change.waits

/-- One key has to come after the other. -/
def Requires (key dep : String) : Prop :=
  (∃ change ∈ unconditional changes,
      change.resolvedKey = key ∧ dep ∈ change.dependsOn) ∨
    (∃ change, change.resolvedKey = key ∧ Asks scope changes tree dep change) ∨
    ∃ change, change.resolvedKey = key ∧ scope.plain change ∧
      change ∈ changes ∧ dep ∈ change.dependsOn ∧
      ∃ asker, Asks scope changes tree key asker

/-- What `GetChanges` promises: the order of what it resolves, and the lists
it refuses. -/
structure Keeps (orders : Orders) : Prop where
  arranged : ∀ resolved, getChanges orders changes tree = .ok resolved →
    Arranged changes resolved
  asked : ∀ resolved, getChanges orders changes tree = .ok resolved →
    ∀ change ∈ resolved, change.when ≠ "" →
    ∃ asker, scope.asks asker ∧ asker.resolvedKey ∈ keysOf resolved ∧
      asker.Acts tree ∧ change.resolvedKey ∈ asker.waits
  led : ∀ resolved, getChanges orders changes tree = .ok resolved →
    ∀ change ∈ resolved, Resolution.Led changes tree (keysOf resolved)
      change.toRequestedFileChange
  waits : ∀ resolved, getChanges orders changes tree = .ok resolved →
    ∀ later, (later' : later < resolved.length) →
    scope.waits resolved[later].toRequestedFileChange →
    resolved[later].Acts tree → ∀ dep ∈ resolved[later].waits,
    ∃ earlier, ∃ earlier' : earlier < resolved.length,
      resolved[earlier].resolvedKey = dep ∧ earlier < later
  clash : ∀ one ∈ unconditional changes, ∀ other ∈ unconditional changes,
    one.resolvedKey = other.resolvedKey → scope.apart one other →
    ∀ resolved, getChanges orders changes tree ≠ .ok resolved
  cycle : ∀ key, Relation.TransGen (Requires scope changes tree) key key →
    ∀ resolved, getChanges orders changes tree ≠ .ok resolved
  unknown : ∀ change, scope.seeks change → ∀ dep ∈ change.waits,
    (∀ other ∈ changes, other.when ≠ "" → other.resolvedKey ≠ dep) →
    ∀ resolved, getChanges orders changes tree ≠ .ok resolved

end Promise

theorem TopologicalOrder.idxOf_lt {graph : Graph} {order : List String}
    (sorted : TopologicalOrder graph order) {key dep : String}
    {deps : List String} (entry : (key, deps) ∈ graph) (member : dep ∈ deps) :
    order.idxOf dep < order.idxOf key := by
  obtain ⟨keyIn, depsIn⟩ := sorted.mem _ entry
  have depIn := depsIn dep member
  rcases Nat.lt_trichotomy (order.idxOf dep) (order.idxOf key) with
    less | same | more
  · exact less
  · have equal : dep = key := (List.idxOf_inj depIn).mp same
    rw [equal] at member
    exact absurd member (sorted.loopless _ entry)
  · have apart := List.pairwise_iff_getElem.mp sorted.first
      (order.idxOf key) (order.idxOf dep) (List.idxOf_lt_length_of_mem keyIn)
      (List.idxOf_lt_length_of_mem depIn) more
    rw [List.getElem_idxOf, List.getElem_idxOf] at apart
    exact absurd member (apart _ entry rfl)

theorem TopologicalOrder.lt_of_sublist {graph : Graph} {order : List String}
    (sorted : TopologicalOrder graph order) {resolved : List FileChange}
    (sublist : (keysOf resolved).Sublist order) {later earlier : Nat}
    (later' : later < resolved.length) (earlier' : earlier < resolved.length)
    {deps : List String} (entry : (resolved[later].resolvedKey, deps) ∈ graph)
    (member : resolved[earlier].resolvedKey ∈ deps) : earlier < later := by
  rcases Nat.lt_trichotomy earlier later with less | rfl | more
  · exact less
  · exact absurd member (sorted.loopless _ entry)
  · have apart := List.pairwise_iff_getElem.mp (sorted.first.sublist sublist)
      later earlier (by simpa [keysOf] using later')
      (by simpa [keysOf] using earlier') more
    simp only [keysOf, List.getElem_map] at apart
    exact absurd member (apart _ entry rfl)

section Settled

variable {changes : List RequestedFileChange} {tree : FileTree}
variable {graph : Graph} {resolved : List FileChange}

theorem exists_mem_of_mem_keysOf {key : String} (member : key ∈ keysOf resolved) :
    ∃ found ∈ resolved, found.resolvedKey = key :=
  List.mem_map.mp member

theorem Settled.arranged (settled : Settled changes tree graph resolved) :
    Arranged changes resolved := by
  obtain ⟨order, sorted, sublist⟩ := settled.ordered
  refine ⟨sorted.nodup.sublist sublist,
    fun change member => (settled.unconditional change member).1, ?_⟩
  intro later earlier later' earlier' depends
  obtain ⟨deps, inGraph, subset, -⟩ :=
    settled.entry resolved[later] (List.getElem_mem later')
  exact sorted.lt_of_sublist sublist later' earlier' inGraph (subset depends)

theorem Settled.waits (settled : Settled changes tree graph resolved)
    {later : Nat} (later' : later < resolved.length)
    (free : resolved[later].when = "") (acts : resolved[later].Acts tree)
    {dep : String} (asked : dep ∈ resolved[later].waits) :
    ∃ earlier, ∃ earlier' : earlier < resolved.length,
      resolved[earlier].resolvedKey = dep ∧ earlier < later := by
  obtain ⟨order, sorted, sublist⟩ := settled.ordered
  obtain ⟨deps, inGraph, -, heeds⟩ :=
    settled.entry resolved[later] (List.getElem_mem later')
  obtain ⟨inDeps, inKeys, -⟩ := heeds free acts dep asked
  obtain ⟨found, member, rfl⟩ := exists_mem_of_mem_keysOf inKeys
  obtain ⟨earlier, earlier', rfl⟩ := List.getElem_of_mem member
  exact ⟨earlier, earlier', rfl,
    sorted.lt_of_sublist sublist later' earlier' inGraph inDeps⟩

/-- A key leads to the only change that has it. -/
theorem Settled.exists_of_sole (settled : Settled changes tree graph resolved)
    {change : RequestedFileChange} (sole : Sole changes change)
    (inKeys : change.resolvedKey ∈ keysOf resolved) :
    ∃ found ∈ resolved, found.toRequestedFileChange = change := by
  obtain ⟨found, member, key⟩ := exists_mem_of_mem_keysOf inKeys
  exact ⟨found, member, sole.2 _ (settled.origin found member) key⟩

theorem Settled.heeds (settled : Settled changes tree graph resolved)
    {change : RequestedFileChange} (sole : Sole changes change)
    (free : change.when = "") (acts : change.Acts tree) {dep : String}
    (asked : dep ∈ change.waits) :
    (∃ deps, (change.resolvedKey, deps) ∈ graph ∧ dep ∈ deps) ∧
      dep ∈ keysOf resolved ∧
      ∃ other ∈ changes, other.when ≠ "" ∧ other.resolvedKey = dep := by
  have inKeys := (settled.unconditional change (List.mem_filter.mpr
    ⟨sole.1, decide_eq_true free⟩)).1
  obtain ⟨found, member, rfl⟩ := settled.exists_of_sole sole inKeys
  obtain ⟨deps, inGraph, -, heeds⟩ := settled.entry found member
  obtain ⟨inDeps, depKey, conditional⟩ := heeds free acts dep asked
  exact ⟨⟨deps, inGraph, inDeps⟩, depKey, conditional⟩

/-- Where one key has to come after another, the graph says so. -/
theorem Settled.entry_of_requires (settled : Settled changes tree graph resolved)
    {key dep : String}
    (requires : Requires (Scope.resolvable changes tree) changes tree key dep) :
    ∃ deps, (key, deps) ∈ graph ∧ dep ∈ deps := by
  rcases requires with ⟨change, member, rfl, depends⟩ |
    ⟨change, rfl, sole, free, -, acts, asked⟩ |
    ⟨change, rfl, sole, -, depends, asker, askerSole, free, -, acts, asked⟩
  · obtain ⟨-, deps, inGraph, subset⟩ := settled.unconditional change member
    exact ⟨deps, inGraph, subset depends⟩
  · exact (settled.heeds sole free acts asked).1
  · have inKeys := (settled.heeds askerSole free acts asked).2.1
    obtain ⟨found, member, rfl⟩ := settled.exists_of_sole sole inKeys
    obtain ⟨deps, inGraph, subset, -⟩ := settled.entry found member
    exact ⟨deps, inGraph, subset depends⟩

theorem Settled.not_cycle (settled : Settled changes tree graph resolved)
    (key : String) : ¬ Relation.TransGen
      (Requires (Scope.resolvable changes tree) changes tree) key key := by
  obtain ⟨order, sorted, -⟩ := settled.ordered
  have descends : ∀ {last}, Relation.TransGen
      (Requires (Scope.resolvable changes tree) changes tree) key last →
      order.idxOf last < order.idxOf key := by
    intro last path
    induction path with
    | single requires =>
        obtain ⟨deps, inGraph, member⟩ := settled.entry_of_requires requires
        exact sorted.idxOf_lt inGraph member
    | tail _ requires ih =>
        obtain ⟨deps, inGraph, member⟩ := settled.entry_of_requires requires
        exact (sorted.idxOf_lt inGraph member).trans ih
  intro cycle
  exact absurd (descends cycle) (Nat.lt_irrefl _)

end Settled

/-- For every list of changes, every tree and all orders that the graph library
can answer, `GetChanges` keeps its promise about the changes that it can tell
apart. -/
theorem keeps_resolvable (orders : Orders) (changes : List RequestedFileChange)
    (tree : FileTree) (fit : orders.Fit changes tree) :
    Keeps (Scope.resolvable changes tree) changes tree orders := by
  refine ⟨?_, ?_, ?_, ?_, ?_, ?_, ?_⟩
  · intro resolved done
    obtain ⟨graph, settled⟩ := settled_of_getChanges fit done
    exact settled.arranged
  · intro resolved done change member conditional
    obtain ⟨graph, settled⟩ := settled_of_getChanges fit done
    exact (settled.led change member).asked conditional
  · intro resolved done
    obtain ⟨graph, settled⟩ := settled_of_getChanges fit done
    exact settled.led
  · intro resolved done later later' free acts dep asked
    obtain ⟨graph, settled⟩ := settled_of_getChanges fit done
    exact settled.waits later' free acts asked
  · intro one oneIn other otherIn sameKey apart resolved done
    obtain ⟨maps, -, collected, -, -⟩ := getChanges_ok done
    have collects := ChangeMaps.collects_of_ofChanges collected
    have kept : ∀ change ∈ unconditional changes, ∃ found,
        maps.changesMap.get? change.resolvedKey = some found ∧
          found.IsSame change := by
      intro change member
      obtain ⟨member, free⟩ := List.mem_filter.mp member
      exact collects.kept change member (of_decide_eq_true free)
    obtain ⟨found, looked, same⟩ := kept one oneIn
    obtain ⟨found', looked', same'⟩ := kept other otherIn
    rw [sameKey, looked'] at looked
    obtain rfl := Option.some.inj looked
    exact apart (same.symm.trans same')
  · intro key cycle resolved done
    obtain ⟨graph, settled⟩ := settled_of_getChanges fit done
    exact settled.not_cycle key cycle
  · rintro change ⟨sole, free, acts⟩ dep asked unknown resolved done
    obtain ⟨graph, settled⟩ := settled_of_getChanges fit done
    obtain ⟨-, -, other, member, conditional, key⟩ :=
      settled.heeds sole free acts asked
    exact unknown other member conditional key

/-- A directory that asks for two conditional ones, the first of which asks for
the second. -/
def conditionalAsks : List RequestedFileChange :=
  [{ path := ["u"], expectedState := .directory
     beforeChange := some ["x", "y"] },
    { key := "x", path := ["x"], expectedState := .directory
      beforeChange := some ["y"], when := "beforeChange" },
    { key := "y", path := ["y"], expectedState := .directory
      when := "beforeChange" }]

def conditionalAsksOrders : Orders where
  initial := some ["/u"]
  additional := some ["x", "y", "/u"]

theorem conditionalAsks_fit :
    conditionalAsksOrders.Fit conditionalAsks FileTree.empty :=
  Orders.fit_of_fits (by decide)

/-- The list is resolved, and keeps the promise about unconditional changes. -/
theorem conditionalAsks_keeps :
    (∃ resolved, getChanges conditionalAsksOrders conditionalAsks
        FileTree.empty = .ok resolved ∧ keysOf resolved = ["x", "y", "/u"]) ∧
      Keeps (Scope.resolvable conditionalAsks FileTree.empty) conditionalAsks
        FileTree.empty conditionalAsksOrders :=
  ⟨⟨_, rfl, by decide⟩, keeps_resolvable _ _ _ conditionalAsks_fit⟩

/-- A file that is absent as it should be, and asks for a change that is not in
the list. -/
def idleAsks : List RequestedFileChange :=
  [{ path := ["a"], expectedState := .absent, beforeChange := some ["b"] }]

/-- A directory that depends on a conditional one, which asks for another. -/
def dependsOnConditional : List RequestedFileChange :=
  [{ path := ["a"], expectedState := .directory, beforeChange := some ["x"] },
    { path := ["b"], expectedState := .directory, dependsOn := ["x"] },
    { key := "x", path := ["x"], expectedState := .directory
      beforeChange := some ["y"], when := "beforeChange" },
    { key := "y", path := ["y"], expectedState := .directory
      when := "beforeChange" }]

/-- Two changes with one key that differ in their descriptions. -/
def describedTwice : List RequestedFileChange :=
  [{ path := ["a"], expectedState := .directory, description := "first" },
    { path := ["a"], expectedState := .directory, description := "second" }]

/-- A directory that asks for a change that is not in the list, and shares its
key with a conditional one. -/
def sharedKey : List RequestedFileChange :=
  [{ path := ["v"], expectedState := .directory, beforeChange := some ["/k"] },
    { path := ["k"], expectedState := .directory
      beforeChange := some ["missing"] },
    { key := "/k", path := ["k"], expectedState := .directory
      when := "beforeChange" }]

/-- A promise about all changes is not kept: not where an idle change asks for
one that is missing, nor by what conditional changes ask for, nor about changes
with one key that differ in what is not compared, nor about changes that share
their key with a conditional one. -/
theorem not_keeps_all :
    (∃ orders : Orders, orders.Fit idleAsks FileTree.empty ∧
      ¬ Keeps (Scope.all idleAsks) idleAsks FileTree.empty orders) ∧
    (∃ orders : Orders, orders.Fit conditionalAsks FileTree.empty ∧
      ¬ Keeps (Scope.all conditionalAsks) conditionalAsks FileTree.empty
        orders) ∧
    (∃ orders : Orders, orders.Fit dependsOnConditional FileTree.empty ∧
      ¬ Keeps (Scope.all dependsOnConditional) dependsOnConditional
        FileTree.empty orders) ∧
    (∃ orders : Orders, orders.Fit describedTwice FileTree.empty ∧
      ¬ Keeps (Scope.all describedTwice) describedTwice FileTree.empty
        orders) ∧
    ∃ orders : Orders, orders.Fit sharedKey FileTree.empty ∧
      ¬ Keeps (Scope.all sharedKey) sharedKey FileTree.empty orders := by
  refine ⟨⟨{ initial := some ["/a"] }, Orders.fit_of_fits (by decide), ?_⟩,
    ⟨conditionalAsksOrders, conditionalAsks_fit, ?_⟩,
    ⟨{ initial := some ["/a", "x", "/b"]
       additional := some ["y", "x", "/a", "/b"] },
      Orders.fit_of_fits (by decide), ?_⟩,
    ⟨{ initial := some ["/a"] }, Orders.fit_of_fits (by decide), ?_⟩,
    ⟨{ initial := some ["/v", "/k"], additional := some ["/k", "/v"] },
      Orders.fit_of_fits (by decide), ?_⟩⟩
  · intro keeps
    have asks : idleAsks[0] ∈ unconditional idleAsks := by decide
    exact keeps.unknown _ asks "b" (by decide) (by decide) _ rfl
  · intro keeps
    have done : getChanges conditionalAsksOrders conditionalAsks
        FileTree.empty = .ok
          [{ toRequestedFileChange := conditionalAsks[1]
             actualState := .absent },
            { toRequestedFileChange := conditionalAsks[2]
              actualState := .absent },
            { toRequestedFileChange := conditionalAsks[0]
              actualState := .absent
              resolvedDeps := ["x", "y"] }] := rfl
    obtain ⟨earlier, -, -, before⟩ :=
      keeps.waits _ done 0 (by decide) trivial (by decide) "y" (by decide)
    exact absurd before (Nat.not_lt_zero earlier)
  · intro keeps
    have done : getChanges
        { initial := some ["/a", "x", "/b"]
          additional := some ["y", "x", "/a", "/b"] } dependsOnConditional
        FileTree.empty = .ok
          [{ toRequestedFileChange := dependsOnConditional[3]
             actualState := .absent },
            { toRequestedFileChange := dependsOnConditional[2]
              actualState := .absent
              resolvedDeps := ["y"] },
            { toRequestedFileChange := dependsOnConditional[0]
              actualState := .absent
              resolvedDeps := ["x"] },
            { toRequestedFileChange := dependsOnConditional[1]
              actualState := .absent }] := rfl
    obtain ⟨asker, asks, -, -, waits⟩ :=
      keeps.asked _ done _ List.mem_cons_self (by decide)
    have none : ∀ asker ∈ unconditional dependsOnConditional,
        "y" ∉ asker.waits := by decide
    exact none asker asks waits
  · intro keeps
    have differ : describedTwice[0] ≠ describedTwice[1] := by decide
    exact keeps.clash describedTwice[0] (by decide) describedTwice[1] (by decide)
      rfl differ _ rfl
  · intro keeps
    have asks : sharedKey[1] ∈ unconditional sharedKey := by decide
    exact keeps.unknown _ asks "missing" (by decide) (by decide) _ rfl

end UsbGadget

end JetKvm
