import Mathlib.Data.List.Basic

/-!
# Stores into a buffer of a fixed length

A store replaces a range of a buffer.  One that does not stay within the buffer
has no result.
-/

namespace JetKvm

namespace BufferStores

variable {α : Type*}

def store (buffer : List α) (position : Nat) (values : List α) : Option (List α) :=
  if position + values.length ≤ buffer.length then
    some (buffer.take position ++ values ++ buffer.drop (position + values.length))
  else none

/-- One value after the other, from a position on -/
def fill (value : α) : Nat → Nat → List α → Option (List α)
  | 0, _, buffer => some buffer
  | count + 1, position, buffer =>
      (store buffer position [value]).bind (fill value count (position + 1))

variable {buffer next first second values : List α} {position : Nat}

theorem isSome_store_iff :
    (store buffer position values).isSome ↔
      position + values.length ≤ buffer.length := by
  unfold store
  split <;> simp_all

theorem store_eq_some (fits : position + values.length ≤ buffer.length) :
    store buffer position values =
      some (buffer.take position ++ values ++
        buffer.drop (position + values.length)) :=
  if_pos fits

/-- A store over the front of a buffer -/
theorem store_zero (fits : values.length ≤ buffer.length) :
    store buffer 0 values = some (values ++ buffer.drop values.length) := by
  rw [store_eq_some (by rwa [Nat.zero_add])]
  simp

/-- A store over the end of a buffer -/
theorem store_length_append (same : values.length = second.length) :
    store (first ++ second) first.length values = some (first ++ values) := by
  rw [store_eq_some (by simp [same])]
  simp [same]

theorem store_nil (inside : position ≤ buffer.length) :
    store buffer position [] = some buffer := by
  rw [store_eq_some inside]
  simp

theorem length_of_store (stored : store buffer position values = some next) :
    next.length = buffer.length := by
  unfold store at stored
  split at stored
  · rename_i fits
    cases stored
    simp
    omega
  · cases stored

/-- Two stores in a row are one store of both. -/
theorem store_append (buffer first second : List α) (position : Nat) :
    ((store buffer position first).bind fun next =>
        store next (position + first.length) second) =
      store buffer position (first ++ second) := by
  by_cases fits : position + first.length ≤ buffer.length
  · have front : (buffer.take position ++ first).length =
        position + first.length := by
      rw [List.length_append, List.length_take_of_le (by omega)]
    rw [store_eq_some fits, Option.bind_some]
    by_cases both : position + (first ++ second).length ≤ buffer.length
    · have room : position + first.length + second.length ≤ buffer.length := by
        rwa [List.length_append, ← Nat.add_assoc] at both
      rw [store_eq_some both, store_eq_some (by simp; omega), ← front,
        List.take_left, List.drop_append, front, List.drop_drop,
        List.drop_eq_nil_of_le (by rw [front]; omega)]
      simp [Nat.add_assoc]
    · have outside : ¬ position + first.length + second.length ≤ buffer.length := by
        rwa [List.length_append, ← Nat.add_assoc] at both
      unfold store
      rw [if_neg both, if_neg (by simp; omega)]
  · unfold store
    rw [if_neg fits, if_neg (by simp; omega), Option.bind_none]

/-- A store, and what stores from its end on, store both. -/
theorem store_bind {rest : List α → Option (List α)}
    (continues : ∀ next : List α, position + first.length ≤ next.length →
      rest next = store next (position + first.length) second) :
    (store buffer position first).bind rest =
      store buffer position (first ++ second) := by
  rw [← store_append]
  refine Option.bind_congr fun next stored => continues next ?_
  rw [length_of_store stored]
  exact isSome_store_iff.mp (by rw [stored]; rfl)

theorem fill_eq_store (value : α) {count : Nat} (inside : position ≤ buffer.length) :
    fill value count position buffer =
      store buffer position (List.replicate count value) := by
  induction count generalizing position buffer with
  | zero => exact (store_nil inside).symm
  | succ count ih => exact store_bind fun next fits => ih fits

end BufferStores

end JetKvm
