import Mathlib.Data.List.Sort

/-!
# Lists sorted by a key

A sort that is not stable may answer any arrangement of its items in which the
keys do not fall.  What is read off the answer is determined if and only if any
two items with the same key yield the same.
-/

namespace JetKvm

namespace SortedListings

variable {Item Key Value : Type*} [LinearOrder Key]

/-- An answer of a sort by the keys. -/
structure Arranges (key : Item → Key) (items arranged : List Item) : Prop where
  perm : arranged.Perm items
  sorted : arranged.Pairwise fun first second => key first ≤ key second

variable {key : Item → Key} {items arranged : List Item}

theorem arranges_mergeSort (key : Item → Key) (items : List Item) :
    Arranges key items
      (items.mergeSort fun first second => key first ≤ key second) := by
  refine ⟨List.mergeSort_perm _ _, ?_⟩
  refine (List.pairwise_mergeSort ?_ ?_ items).imp ?_
  · intro first second third before after
    simp only [decide_eq_true_eq] at before after ⊢
    exact before.trans after
  · intro first second
    simpa using le_total (key first) (key second)
  · intro first second before
    simpa using before

/-- Sorting what is sorted changes nothing. -/
theorem Arranges.mergeSort_eq (arranges : Arranges key items arranged) :
    arranged.mergeSort (fun first second => key first ≤ key second) =
      arranged :=
  List.mergeSort_of_pairwise (arranges.sorted.imp fun before => by simpa using before)

theorem Arranges.mem_iff (arranges : Arranges key items arranged) {item : Item} :
    item ∈ arranged ↔ item ∈ items := arranges.perm.mem_iff

/-- Any item may come first among those with its key. -/
theorem Arranges.exists_first (arranges : Arranges key items arranged)
    {item : Item} (member : item ∈ items) :
    ∃ rest, Arranges key items
      (arranged.filter (fun other => key other < key item) ++ item :: rest) := by
  classical
  let alike := arranged.filter fun other => key other = key item
  let above := arranged.filter fun other => key item < key other
  have inAlike : item ∈ alike :=
    List.mem_filter.mpr ⟨arranges.mem_iff.mpr member, by simp⟩
  refine ⟨alike.erase item ++ above, ?_, ?_⟩
  · have split : (alike ++ above).Perm
        (arranged.filter fun other => !decide (key other < key item)) := by
      have parts := List.filter_append_perm (fun other => key other = key item)
        (arranged.filter fun other => !decide (key other < key item))
      rw [List.filter_filter, List.filter_filter] at parts
      refine List.Perm.trans (List.Perm.of_eq ?_) parts
      congr 1
      · refine List.filter_congr fun other _ => ?_
        by_cases same : key other = key item <;> simp [same]
      · refine List.filter_congr fun other _ => ?_
        rcases lt_trichotomy (key other) (key item) with less | same | more
        · simp [less, less.asymm]
        · simp [same]
        · simp [more, more.asymm, more.ne']
    have whole := List.filter_append_perm
      (fun other => decide (key other < key item)) arranged
    refine List.Perm.trans ?_ (whole.trans arranges.perm)
    refine List.Perm.append_left _ (List.Perm.trans ?_ split)
    rw [← List.cons_append]
    exact (List.perm_cons_erase inAlike).symm.append_right _
  · have alikeKey : ∀ other ∈ item :: alike.erase item, key other = key item := by
      intro other among
      rcases List.mem_cons.mp among with rfl | among
      · rfl
      · simpa using (List.mem_filter.mp (List.mem_of_mem_erase among)).2
    have aboveKey : ∀ other ∈ above, key item < key other := by
      intro other among
      simpa using (List.mem_filter.mp among).2
    rw [← List.cons_append, List.pairwise_append, List.pairwise_append]
    refine ⟨arranges.sorted.sublist List.filter_sublist, ⟨?_,
      arranges.sorted.sublist List.filter_sublist, ?_⟩, ?_⟩
    · refine List.pairwise_of_forall_mem_list fun one oneIn other otherIn => ?_
      rw [alikeKey one oneIn, alikeKey other otherIn]
    · intro one oneIn other otherIn
      rw [alikeKey one oneIn]
      exact (aboveKey other otherIn).le
    · intro one oneIn other otherIn
      have below : key one < key item := by
        simpa using (List.mem_filter.mp oneIn).2
      rcases List.mem_append.mp otherIn with same | above
      · rw [alikeKey other same]
        exact below.le
      · exact (below.trans (aboveKey other above)).le

/-- All answers of a sort read the same if and only if any two items with one
key do. -/
theorem filterMap_eq_iff (read : Item → Option Value) :
    (∀ one other, Arranges key items one → Arranges key items other →
        one.filterMap read = other.filterMap read) ↔
      ∀ first ∈ items, ∀ second ∈ items, key first = key second →
        ∀ value ∈ read first, ∀ other ∈ read second, value = other := by
  constructor
  · intro same first firstIn second secondIn sameKey value readFirst other
      readSecond
    have arranges := arranges_mergeSort key items
    obtain ⟨rest, firstFirst⟩ := arranges.exists_first firstIn
    obtain ⟨rest', secondFirst⟩ := arranges.exists_first secondIn
    have equal := same _ _ firstFirst secondFirst
    rw [sameKey, List.filterMap_append, List.filterMap_append,
      List.filterMap_cons_some readFirst,
      List.filterMap_cons_some readSecond] at equal
    exact (List.cons.inj (List.append_cancel_left equal)).1
  · intro same one other oneArranges otherArranges
    let tagged : Item → Option (Key × Value) := fun item =>
      (read item).map fun value => (key item, value)
    have untagged : ∀ listing : List Item,
        (listing.filterMap tagged).map Prod.snd = listing.filterMap read := by
      intro listing
      rw [List.map_filterMap]
      refine List.filterMap_congr fun item _ => ?_
      simp [tagged]
    have sorted : ∀ listing, Arranges key items listing →
        (listing.filterMap tagged).Pairwise fun first second =>
          first.1 ≤ second.1 := by
      intro listing arranges
      refine arranges.sorted.filterMap tagged ?_
      intro first second before one readFirst two readSecond
      simp only [tagged, Option.map_eq_some_iff] at readFirst readSecond
      obtain ⟨_, -, rfl⟩ := readFirst
      obtain ⟨_, -, rfl⟩ := readSecond
      exact before
    have equal : one.filterMap tagged = other.filterMap tagged := by
      refine List.Perm.eq_of_pairwise ?_ (sorted one oneArranges)
        (sorted other otherArranges)
        ((oneArranges.perm.trans otherArranges.perm.symm).filterMap tagged)
      rintro first second firstIn secondIn before after
      obtain ⟨item, itemIn, tag⟩ := List.mem_filterMap.mp firstIn
      obtain ⟨item', itemIn', tag'⟩ := List.mem_filterMap.mp secondIn
      simp only [tagged, Option.map_eq_some_iff] at tag tag'
      obtain ⟨value, readItem, rfl⟩ := tag
      obtain ⟨value', readItem', rfl⟩ := tag'
      have sameKey := le_antisymm before after
      rw [same item (oneArranges.mem_iff.mp itemIn) item'
        (otherArranges.mem_iff.mp itemIn') sameKey value readItem value' readItem']
      exact congrArg (·, value') sameKey
    rw [← untagged one, equal, untagged]

end SortedListings

end JetKvm
