import JetKvm.OrderedVisits
import Mathlib.Data.List.Induction

/-!
# Texts that do not depend on an order

Values are grouped under keys as they come, and words are written one after the
other with something between them. A text that is put together so is the same in
every order if and only if any two of its parts may be interchanged.
-/

namespace JetKvm

namespace InterchangedWords

variable {α Item Key Value : Type*}

/-! ## Interchange -/

/-- The words read the same in either order. -/
def Interchange (first second : List α) : Prop :=
  first ++ second = second ++ first

instance [DecidableEq α] (first second : List α) :
    Decidable (Interchange first second) :=
  inferInstanceAs (Decidable (_ = _))

theorem Interchange.refl (word : List α) : Interchange word word := rfl

theorem interchange_nil (word : List α) : Interchange [] word :=
  (List.append_nil word).symm

section Words

variable {word : Item → List α} {items others : List Item}

theorem flatMap_eq_of_perm (perm : items.Perm others)
    (alike : ∀ first ∈ items, ∀ second ∈ items,
      Interchange (word first) (word second)) :
    items.flatMap word = others.flatMap word := by
  induction perm with
  | nil => rfl
  | cons item _ ih =>
      rw [List.flatMap_cons, List.flatMap_cons, ih fun first here second there =>
        alike first (List.mem_cons_of_mem _ here) second
          (List.mem_cons_of_mem _ there)]
  | swap first second rest =>
      have here := alike second (by simp) first (by simp)
      simp only [List.flatMap_cons, ← List.append_assoc]
      rw [here]
  | trans before _ earlier later =>
      exact (earlier alike).trans (later fun first here second there =>
        alike first (before.mem_iff.mpr here) second
          (before.mem_iff.mpr there))

/-- Two words that come first in either order -/
theorem interchange_of_flatMap_eq {first second : Item}
    (same : (first :: second :: items).flatMap word =
      (second :: first :: items).flatMap word) :
    Interchange (word first) (word second) := by
  simp only [List.flatMap_cons, ← List.append_assoc] at same
  exact List.append_cancel_right same

/-- Texts that agree as a whole agree in each part if the parts are as long. -/
theorem eq_of_flatMap_eq {other : Item → List α}
    (long : ∀ item ∈ items, (word item).length = (other item).length)
    (same : items.flatMap word = items.flatMap other) :
    ∀ item ∈ items, word item = other item := by
  induction items with
  | nil => exact List.forall_mem_nil _
  | cons item items ih =>
      obtain ⟨here, rest⟩ := List.append_inj same (long item List.mem_cons_self)
      exact List.forall_mem_cons.mpr ⟨here,
        ih (fun other present => long other (List.mem_cons_of_mem _ present))
          rest⟩

end Words

/-- Words with something between them, and the same with it after each -/
theorem intercalate_append (mark : List α) {words : List (List α)}
    (some : words ≠ []) :
    mark.intercalate words ++ mark = words.flatMap (· ++ mark) := by
  induction words with
  | nil => exact absurd rfl some
  | cons word words ih =>
      cases words with
      | nil => simp
      | cons next words =>
          rw [List.intercalate_cons_cons, List.flatMap_cons,
            ← ih (List.cons_ne_nil _ _)]
          simp only [List.append_assoc]

theorem intercalate_eq_iff {mark : List α} {first second : List (List α)}
    (perm : first.Perm second) :
    mark.intercalate first = mark.intercalate second ↔
      first.flatMap (· ++ mark) = second.flatMap (· ++ mark) := by
  cases first with
  | nil =>
      rw [perm.nil_eq]
      exact iff_of_true rfl rfl
  | cons word first =>
      have some : second ≠ [] := fun none => by
        rw [none] at perm
        cases perm.eq_nil
      rw [← intercalate_append mark (List.cons_ne_nil word first),
        ← intercalate_append mark some]
      exact List.append_left_inj mark |>.symm

theorem length_intercalate_eq {mark : List α} {first second : List (List α)}
    (perm : first.Perm second) :
    (mark.intercalate first).length = (mark.intercalate second).length := by
  have whole := (perm.flatMap_right (· ++ mark)).length_eq
  cases first with
  | nil => rw [perm.nil_eq]
  | cons word first =>
      have some : second ≠ [] := fun none => by
        rw [none] at perm
        cases perm.eq_nil
      rw [← intercalate_append mark (List.cons_ne_nil word first),
        ← intercalate_append mark some] at whole
      simpa using whole

/-! ## Values grouped under keys -/

section Groups

variable [DecidableEq Key]

/-- One more value under a key -/
def add (groups : List (Key × List Value)) (key : Key) (value : Value) :
    List (Key × List Value) :=
  if key ∈ groups.map Prod.fst then
    groups.map fun group =>
      if group.1 = key then (group.1, group.2 ++ [value]) else group
  else groups ++ [(key, [value])]

/-- The values that came with a key -/
def valuesOf (key : Key) (pairs : List (Key × Value)) : List Value :=
  (pairs.filter (·.1 = key)).map Prod.snd

def group (pairs : List (Key × Value)) : List (Key × List Value) :=
  pairs.foldl (fun groups pair => add groups pair.1 pair.2) []

/-- Each key once, with the values that came with it -/
structure Groups (pairs : List (Key × Value))
    (groups : List (Key × List Value)) : Prop where
  distinct : (groups.map Prod.fst).Nodup
  keys : ∀ key, key ∈ groups.map Prod.fst ↔ key ∈ pairs.map Prod.fst
  values : ∀ group ∈ groups, group.2 = valuesOf group.1 pairs

theorem valuesOf_append (key : Key) (first second : List (Key × Value)) :
    valuesOf key (first ++ second) =
      valuesOf key first ++ valuesOf key second := by
  simp [valuesOf]

theorem valuesOf_singleton (key other : Key) (value : Value) :
    valuesOf other [(key, value)] = if key = other then [value] else [] := by
  unfold valuesOf
  rw [List.filter_singleton]
  by_cases here : key = other <;> simp [here]

theorem valuesOf_flatMap (key : Key) (items : List Item)
    (pairs : Item → List (Key × Value)) :
    valuesOf key (items.flatMap pairs) =
      items.flatMap fun item => valuesOf key (pairs item) := by
  simp [valuesOf, List.filter_flatMap, List.map_flatMap]

theorem valuesOf_eq_nil {key : Key} {pairs : List (Key × Value)}
    (absent : key ∉ pairs.map Prod.fst) : valuesOf key pairs = [] := by
  rw [valuesOf, List.map_eq_nil_iff, List.filter_eq_nil_iff]
  intro pair present
  simp only [decide_eq_true_eq]
  rintro rfl
  exact absent (List.mem_map_of_mem present)

theorem map_fst_add (groups : List (Key × List Value)) (key : Key)
    (value : Value) :
    (add groups key value).map Prod.fst =
      if key ∈ groups.map Prod.fst then groups.map Prod.fst
      else groups.map Prod.fst ++ [key] := by
  unfold add
  split
  · rw [List.map_map]
    exact List.map_congr_left fun group _ => by
      simp only [Function.comp_apply]
      split <;> rfl
  · rw [List.map_append]
    rfl

theorem Groups.add {pairs : List (Key × Value)}
    {groups : List (Key × List Value)} (grouped : Groups pairs groups)
    (key : Key) (value : Value) :
    Groups (pairs ++ [(key, value)]) (add groups key value) := by
  refine ⟨?_, fun other => ?_, fun group present => ?_⟩
  · rw [map_fst_add]
    split
    · exact grouped.distinct
    · rename_i fresh
      exact List.nodup_append.mpr ⟨grouped.distinct, List.nodup_singleton key,
        fun other here last new same => by
          rw [List.mem_singleton.mp new] at same
          exact fresh (same ▸ here)⟩
  · rw [map_fst_add, List.map_append, List.mem_append, ← grouped.keys other]
    split
    · rename_i known
      constructor
      · exact .inl
      · rintro (here | last)
        · exact here
        · rw [List.map_singleton, List.mem_singleton] at last
          rwa [last]
    · rw [List.mem_append, List.map_singleton]
  · rw [valuesOf_append, valuesOf_singleton]
    unfold InterchangedWords.add at present
    split at present
    · obtain ⟨old, there, rfl⟩ := List.mem_map.mp present
      have before := grouped.values old there
      by_cases here : old.1 = key
      · rw [if_pos here, before, if_pos here.symm]
      · rw [if_neg here, before, if_neg fun same => here same.symm,
          List.append_nil]
    · rename_i fresh
      rcases List.mem_append.mp present with there | new
      · have other : key ≠ group.1 := fun same =>
          fresh (same ▸ List.mem_map_of_mem there)
        rw [if_neg other, List.append_nil, grouped.values group there]
      · rw [List.mem_singleton.mp new, if_pos rfl]
        rw [valuesOf_eq_nil fun known => fresh ((grouped.keys key).mpr known)]
        rfl

theorem groups_group (pairs : List (Key × Value)) :
    Groups pairs (group pairs) := by
  induction pairs using List.reverseRec with
  | nil => exact ⟨List.nodup_nil, fun _ => Iff.rfl, List.forall_mem_nil _⟩
  | append_singleton pairs pair ih =>
      rw [group, List.foldl_append]
      exact ih.add pair.1 pair.2

end Groups

end InterchangedWords

end JetKvm
