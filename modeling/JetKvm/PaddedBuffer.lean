import Mathlib.Data.List.Basic
import Mathlib.Data.List.Nodup

/-!
# Bounded lists stored in a padded buffer

A fixed-size buffer can hold a short list of distinct values: the values from
the front on, then a blank value in every remaining slot.  One scan finds the
slot of a value or the first blank slot, an insertion writes into the slot
found, and a removal moves the later slots down by one and blanks the last.
The lemmas say what these buffer operations do to the stored list.
-/

namespace JetKvm

namespace PaddedBuffer

variable {α : Type*}

/-- The buffer of the given capacity that stores the values. -/
def store (capacity : Nat) (blank : α) (values : List α) : List α :=
  values ++ List.replicate (capacity - values.length) blank

/-- The first slot that holds the value or is blank. -/
def slotOf [DecidableEq α] (blank value : α) (buffer : List α) : Option Nat :=
  buffer.findIdx? fun slot => slot == value || slot == blank

/-- The move `copy(buffer[slot:], buffer[slot+1:])`: the last slot keeps its
value. -/
def copyDown (buffer : List α) (slot : Nat) : List α :=
  buffer.take slot ++ buffer.drop (slot + 1) ++
    buffer.drop (buffer.length - 1)

theorem copyDown_set_last {buffer : List α} {slot : Nat} {blank : α}
    (inside : slot < buffer.length) :
    (copyDown buffer slot).set (buffer.length - 1) blank =
      buffer.eraseIdx slot ++ [blank] := by
  obtain ⟨last, lastSlot⟩ :
      ∃ last, buffer.drop (buffer.length - 1) = [last] := by
    apply List.length_eq_one_iff.mp
    rw [List.length_drop]
    omega
  have shorter : (buffer.eraseIdx slot).length = buffer.length - 1 :=
    List.length_eraseIdx_of_lt inside
  rw [copyDown, lastSlot, ← List.eraseIdx_eq_take_drop_succ, ← shorter,
    List.set_append_right _ _ (Nat.le_refl _), Nat.sub_self,
    List.set_cons_zero]

/-- Lists a buffer can store: distinct values other than the blank, no more
than there are slots. -/
structure Storable (capacity : Nat) (blank : α) (values : List α) : Prop where
  nodup : values.Nodup
  blank_not_mem : blank ∉ values
  length_le : values.length ≤ capacity

variable {capacity : Nat} {blank value : α} {values : List α}

theorem Storable.nil : Storable capacity blank ([] : List α) :=
  ⟨List.nodup_nil, List.not_mem_nil, Nat.zero_le capacity⟩

theorem Storable.append (storable : Storable capacity blank values)
    (room : values.length < capacity) (proper : value ≠ blank)
    (absent : value ∉ values) :
    Storable capacity blank (values ++ [value]) where
  nodup := by
    rw [List.nodup_append_comm]
    exact List.nodup_cons.mpr ⟨absent, storable.nodup⟩
  blank_not_mem := by
    simpa [proper.symm] using storable.blank_not_mem
  length_le := by
    rw [List.length_append, List.length_singleton]
    exact room

theorem length_store (fits : values.length ≤ capacity) :
    (store capacity blank values).length = capacity := by
  simp [store, Nat.add_sub_cancel' fits]

theorem mem_store_iff (proper : value ≠ blank) :
    value ∈ store capacity blank values ↔ value ∈ values := by
  simp [store, List.mem_replicate, proper]

theorem getElem?_store_length (room : values.length < capacity) :
    (store capacity blank values)[values.length]? = some blank := by
  have positive : 0 < capacity - values.length := Nat.sub_pos_of_lt room
  rw [store, List.getElem?_append_right (Nat.le_refl _)]
  simp [positive]

theorem set_store_length (room : values.length < capacity) :
    (store capacity blank values).set values.length value =
      store capacity blank (values ++ [value]) := by
  obtain ⟨rest, capacity_eq⟩ : ∃ rest, capacity = values.length + (rest + 1) :=
    ⟨capacity - values.length - 1, by omega⟩
  have before : capacity - values.length = rest + 1 := by omega
  have after : capacity - (values ++ [value]).length = rest := by
    simp only [List.length_append, List.length_singleton]
    omega
  rw [store, store, before, after, List.set_append_right _ _ (Nat.le_refl _),
    Nat.sub_self, List.replicate_succ, List.set_cons_zero, List.append_assoc,
    List.singleton_append]

/-- Writing a blank into a blank slot changes nothing. -/
theorem set_store_length_blank (room : values.length < capacity) :
    (store capacity blank values).set values.length blank =
      store capacity blank values := by
  have inside : values.length < (store capacity blank values).length := by
    rw [length_store (Nat.le_of_lt room)]
    exact room
  have current : (store capacity blank values)[values.length] = blank := by
    have slot : (store capacity blank values)[values.length]? = some blank :=
      getElem?_store_length room
    rwa [List.getElem?_eq_getElem inside, Option.some.injEq] at slot
  conv_rhs => rw [← List.set_getElem_self inside]
  rw [current]

variable [DecidableEq α]

theorem Storable.erase (storable : Storable capacity blank values) :
    Storable capacity blank (values.erase value) where
  nodup := storable.nodup.erase value
  blank_not_mem := fun member =>
    storable.blank_not_mem (List.mem_of_mem_erase member)
  length_le := Nat.le_trans List.length_erase_le storable.length_le

/-- The scan stops at a stored value, since no blank precedes it. -/
theorem slotOf_store_of_mem (storable : Storable capacity blank values)
    (member : value ∈ values) :
    slotOf blank value (store capacity blank values) =
      some (values.idxOf value) := by
  have scan : values.findIdx? (fun slot => slot == value || slot == blank) =
      some (values.idxOf value) := by
    have sameTest : ∀ slot ∈ values,
        (slot == value || slot == blank) = (slot == value) := by
      intro slot slotMem
      have notBlank : slot ≠ blank := fun same =>
        storable.blank_not_mem (same ▸ slotMem)
      simp [notBlank]
    rw [List.findIdx?_eq_some_iff_findIdx_eq]
    have sameIndex :
        values.findIdx (fun slot => slot == value || slot == blank) =
          values.idxOf value := by
      unfold List.idxOf
      clear member storable
      induction values with
      | nil => rfl
      | cons head tail ih =>
          rw [List.findIdx_cons, List.findIdx_cons,
            sameTest head (List.mem_cons_self),
            ih fun slot slotMem => sameTest slot (List.mem_cons_of_mem _ slotMem)]
    exact ⟨List.idxOf_lt_length_iff.mpr member, sameIndex⟩
  simp [slotOf, store, List.findIdx?_append, scan]

theorem findIdx?_of_not_mem (storable : Storable capacity blank values)
    (absent : value ∉ values) :
    values.findIdx? (fun slot => slot == value || slot == blank) = none := by
  rw [List.findIdx?_eq_none_iff]
  intro slot slotMem
  have notValue : slot ≠ value := fun same => absent (same ▸ slotMem)
  have notBlank : slot ≠ blank := fun same =>
    storable.blank_not_mem (same ▸ slotMem)
  simp [notValue, notBlank]

/-- The scan for an absent value stops at the first blank slot. -/
theorem slotOf_store_of_room (storable : Storable capacity blank values)
    (absent : value ∉ values) (room : values.length < capacity) :
    slotOf blank value (store capacity blank values) = some values.length := by
  have positive : 0 < capacity - values.length := Nat.sub_pos_of_lt room
  simp [slotOf, store, List.findIdx?_append,
    findIdx?_of_not_mem storable absent, List.findIdx?_replicate, positive]

/-- The scan of a full buffer for an absent value finds nothing. -/
theorem slotOf_store_of_full (storable : Storable capacity blank values)
    (absent : value ∉ values) (full : values.length = capacity) :
    slotOf blank value (store capacity blank values) = none := by
  simp [slotOf, store, findIdx?_of_not_mem storable absent, full]

theorem getElem?_store_idxOf (member : value ∈ values) :
    (store capacity blank values)[values.idxOf value]? = some value := by
  have inside := List.idxOf_lt_length_iff.mpr member
  rw [store, List.getElem?_append_left inside, List.getElem?_eq_getElem inside,
    List.getElem_idxOf inside]

theorem set_store_idxOf (member : value ∈ values) :
    (store capacity blank values).set (values.idxOf value) value =
      store capacity blank values := by
  have inside := List.idxOf_lt_length_iff.mpr member
  rw [store, List.set_append_left _ _ inside]
  congr 1
  conv_rhs => rw [← List.set_getElem_self inside]
  rw [List.getElem_idxOf inside]

/-- Moving the slots after a stored value down and blanking the last slot
removes the value. -/
theorem copyDown_store (fits : values.length ≤ capacity)
    (member : value ∈ values) :
    (copyDown (store capacity blank values) (values.idxOf value)).set
        (capacity - 1) blank =
      store capacity blank (values.erase value) := by
  have inside := List.idxOf_lt_length_iff.mpr member
  have length_eq : (store capacity blank values).length = capacity :=
    length_store fits
  -- the last slot, whatever it holds, is overwritten
  obtain ⟨last, lastSlot⟩ :
      ∃ last, (store capacity blank values).drop (capacity - 1) = [last] := by
    apply List.length_eq_one_iff.mp
    rw [List.length_drop, length_eq]
    omega
  have moved : (store capacity blank values).take (values.idxOf value) ++
        (store capacity blank values).drop (values.idxOf value + 1) =
      values.erase value ++
        List.replicate (capacity - values.length) blank := by
    rw [← List.eraseIdx_idxOf_eq_erase, List.eraseIdx_eq_take_drop_succ, store,
      List.take_append_of_le_length (Nat.le_of_lt inside),
      List.drop_append_of_le_length inside, List.append_assoc]
  have shorter : (values.erase value).length = values.length - 1 :=
    List.length_erase_of_mem member
  have movedLength : (values.erase value ++
      List.replicate (capacity - values.length) blank).length =
        capacity - 1 := by
    rw [List.length_append, List.length_replicate, shorter]
    omega
  have blanks : capacity - (values.erase value).length =
      capacity - values.length + 1 := by
    omega
  rw [copyDown, length_eq, lastSlot, moved,
    List.set_append_right _ _ (Nat.le_of_eq movedLength), movedLength,
    Nat.sub_self, List.set_cons_zero, store, blanks, List.replicate_succ',
    List.append_assoc]

end PaddedBuffer

end JetKvm
