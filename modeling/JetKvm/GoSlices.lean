import Mathlib.Algebra.Group.Nat.Defs
import Mathlib.Data.List.Basic
import Mathlib.Tactic.Common

/-!
# Go slices and run-time panics

A Go slice is a window into a backing array: `elements` are the positions
below its length, `spare` the positions between its length and its capacity.
Indexing is checked against the length, but the upper bound of a slice
expression is checked against the capacity, so `d[1:5]` may succeed on a slice
of length three.  A failed check is a run-time panic, kept apart from the
error values a function returns.
-/

namespace JetKvm

/-- The run-time panics of slice operations. -/
inductive Panic where
  | indexOutOfRange (index length : Nat)
  | sliceBoundsOutOfRange (low high limit : Nat)
  | makeSliceOutOfRange
  deriving DecidableEq, Repr

/-- What a function body does: return a value or panic. -/
abbrev Outcome (α : Type) := Except Panic α

/-- The body returns instead of panicking. -/
def Outcome.Returns {α : Type} (outcome : Outcome α) : Prop :=
  ∃ value, outcome = .ok value

namespace Outcome

variable {α β : Type}

@[simp]
theorem returns_ok (value : α) : Returns (.ok value) :=
  ⟨value, rfl⟩

@[simp]
theorem returns_pure (value : α) : Returns (pure value) :=
  ⟨value, rfl⟩

@[simp]
theorem not_returns_error (panic : Panic) :
    ¬ Returns (.error panic : Outcome α) := by
  rintro ⟨value, impossible⟩
  cases impossible

/-- A sequence of two bodies returns exactly when the first returns a value on
which the second returns. -/
theorem returns_bind_iff {first : Outcome α} {second : α → Outcome β} :
    Returns (first >>= second) ↔
      ∃ value, first = .ok value ∧ Returns (second value) := by
  cases first with
  | error panic =>
      constructor
      · intro returns
        exact (not_returns_error panic returns).elim
      · rintro ⟨value, impossible, _⟩
        cases impossible
  | ok value =>
      constructor
      · intro returns
        exact ⟨value, rfl, returns⟩
      · rintro ⟨_, sameValue, returns⟩
        cases sameValue
        exact returns

theorem returns_ite {condition : Prop} [Decidable condition]
    {first second : Outcome α} (holds : condition → Returns first)
    (fails : ¬ condition → Returns second) :
    Returns (if condition then first else second) := by
  split
  · rename_i isTrue
    exact holds isTrue
  · rename_i isFalse
    exact fails isFalse

end Outcome

/-- A slice: its elements and the rest of the backing array up to the
capacity. -/
structure Slice (α : Type) where
  elements : List α
  spare : List α
  deriving DecidableEq, Repr

namespace Slice

variable {α : Type}

/-- The backing array from the first element of the slice on. -/
def backing (slice : Slice α) : List α :=
  slice.elements ++ slice.spare

def length (slice : Slice α) : Nat :=
  slice.elements.length

def capacity (slice : Slice α) : Nat :=
  slice.backing.length

/-- The index expression `slice[position]`. -/
def index (slice : Slice α) (position : Nat) : Outcome α :=
  match slice.elements[position]? with
  | some element => .ok element
  | none => .error (.indexOutOfRange position slice.length)

/-- The slice expression `slice[low:high]`, checked against the capacity. -/
def between (slice : Slice α) (low high : Nat) : Outcome (Slice α) :=
  if low ≤ high ∧ high ≤ slice.capacity then
    .ok ⟨(slice.backing.take high).drop low, slice.backing.drop high⟩
  else
    .error (.sliceBoundsOutOfRange low high slice.capacity)

/-- The slice expression `slice[low:]`. -/
def dropTo (slice : Slice α) (low : Nat) : Outcome (Slice α) :=
  if low ≤ slice.length then
    .ok ⟨slice.elements.drop low, slice.spare⟩
  else
    .error (.sliceBoundsOutOfRange low slice.length slice.length)

theorem length_le_capacity (slice : Slice α) :
    slice.length ≤ slice.capacity := by
  simp [length, capacity, backing]

theorem index_of_lt {slice : Slice α} {position : Nat}
    (inside : position < slice.length) :
    slice.index position = .ok (slice.elements.get ⟨position, inside⟩) := by
  simp only [length] at inside
  simp [index, List.getElem?_eq_getElem inside]

theorem index_returns_iff {slice : Slice α} {position : Nat} :
    Outcome.Returns (slice.index position) ↔ position < slice.length := by
  constructor
  · rintro ⟨element, indexed⟩
    by_contra outside
    have absent : slice.elements[position]? = none :=
      List.getElem?_eq_none (Nat.le_of_not_lt outside)
    simp [index, absent] at indexed
  · intro inside
    exact ⟨_, index_of_lt inside⟩

@[simp]
theorem exists_index_eq_ok {slice : Slice α} {position : Nat} :
    (∃ element, slice.index position = .ok element) ↔
      position < slice.length :=
  index_returns_iff

/-- An index in range does not stop what follows it. -/
theorem returns_index_bind {β : Type} {slice : Slice α} {position : Nat}
    {next : α → Outcome β} (inside : position < slice.length)
    (continues : ∀ element, Outcome.Returns (next element)) :
    Outcome.Returns (slice.index position >>= next) := by
  rw [Outcome.returns_bind_iff]
  exact ⟨_, index_of_lt inside, continues _⟩

theorem between_of_le {slice : Slice α} {low high : Nat}
    (ordered : low ≤ high) (inside : high ≤ slice.capacity) :
    slice.between low high =
      .ok ⟨(slice.backing.take high).drop low, slice.backing.drop high⟩ :=
  if_pos ⟨ordered, inside⟩

theorem between_eq_ok_iff {slice window : Slice α} {low high : Nat} :
    slice.between low high = .ok window ↔
      (low ≤ high ∧ high ≤ slice.capacity) ∧
        window = ⟨(slice.backing.take high).drop low,
          slice.backing.drop high⟩ := by
  unfold between
  split
  · rename_i inside
    simp [inside, eq_comm]
  · rename_i outside
    simp [outside]

theorem between_returns_iff {slice : Slice α} {low high : Nat} :
    Outcome.Returns (slice.between low high) ↔
      low ≤ high ∧ high ≤ slice.capacity := by
  constructor
  · rintro ⟨window, sliced⟩
    exact (between_eq_ok_iff.mp sliced).1
  · rintro ⟨ordered, inside⟩
    exact ⟨_, between_of_le ordered inside⟩

@[simp]
theorem exists_between_eq_ok {slice : Slice α} {low high : Nat} :
    (∃ window, slice.between low high = .ok window) ↔
      low ≤ high ∧ high ≤ slice.capacity :=
  between_returns_iff

theorem dropTo_returns_iff {slice : Slice α} {low : Nat} :
    Outcome.Returns (slice.dropTo low) ↔ low ≤ slice.length := by
  unfold dropTo
  split
  · rename_i inside
    exact iff_of_true (Outcome.returns_ok _) inside
  · rename_i outside
    exact iff_of_false (Outcome.not_returns_error _) outside

@[simp]
theorem exists_dropTo_eq_ok {slice : Slice α} {low : Nat} :
    (∃ rest, slice.dropTo low = .ok rest) ↔ low ≤ slice.length :=
  dropTo_returns_iff

theorem length_between {slice window : Slice α} {low high : Nat}
    (sliced : slice.between low high = .ok window) :
    window.length = high - low := by
  obtain ⟨⟨_, inside⟩, rfl⟩ := between_eq_ok_iff.mp sliced
  simp only [capacity] at inside
  simp [length, inside]

/-- A window that some reader can use exists when the bounds are in range and
the window is wide enough for the reader. -/
@[simp]
theorem exists_between_and_le {slice : Slice α} {low high width : Nat} :
    (∃ window, slice.between low high = .ok window ∧ width ≤ window.length) ↔
      (low ≤ high ∧ high ≤ slice.capacity) ∧ width ≤ high - low := by
  constructor
  · rintro ⟨window, sliced, wide⟩
    rw [length_between sliced] at wide
    exact ⟨(between_eq_ok_iff.mp sliced).1, wide⟩
  · rintro ⟨inside, wide⟩
    obtain ⟨window, sliced⟩ := between_returns_iff.mpr inside
    exact ⟨window, sliced, by rwa [length_between sliced]⟩

@[simp]
theorem exists_between_and_le_and {slice : Slice α} {low high width : Nat}
    {rest : Prop} :
    (∃ window, slice.between low high = .ok window ∧
        width ≤ window.length ∧ rest) ↔
      ((low ≤ high ∧ high ≤ slice.capacity) ∧ width ≤ high - low) ∧ rest := by
  simp only [← and_assoc, exists_and_right]
  rw [exists_between_and_le]

/-! ## Reading what stands at an offset -/

theorem index_of_drop {slice : Slice α} {position : Nat} {element : α}
    {rest : List α} (found : slice.elements.drop position = element :: rest) :
    slice.index position = .ok element := by
  have at_position : slice.elements[position]? = some element := by
    rw [← List.head?_drop, found, List.head?_cons]
  rw [index, at_position]

theorem between_of_drop {slice : Slice α} {low : Nat} {window rest : List α}
    (found : slice.elements.drop low = window ++ rest)
    (inside : low ≤ slice.length) :
    slice.between low (low + window.length) =
      .ok ⟨window, rest ++ slice.spare⟩ := by
  have total : slice.length = low + window.length + rest.length := by
    have lengths := congrArg List.length found
    rw [List.length_drop, List.length_append] at lengths
    rw [length] at inside ⊢
    omega
  have whole : slice.backing.drop low = window ++ (rest ++ slice.spare) := by
    rw [backing, List.drop_append_of_le_length inside, found,
      List.append_assoc]
  have capacity_le := slice.length_le_capacity
  rw [between_of_le (Nat.le_add_right ..) (by omega), List.drop_take,
    Nat.add_sub_cancel_left, ← List.drop_drop, whole, List.take_left,
    List.drop_left]

end Slice

/-- The conversion `int(n)` of a `uint32` on a 32-bit target. -/
theorem toInt_toInt32 (number : UInt32) :
    number.toInt32.toInt = (number.toNat : Int).bmod (2 ^ 32) :=
  BitVec.toInt_eq_toNat_bmod number.toBitVec

theorem toInt_toInt32_of_lt {number : UInt32} (small : number.toNat < 2 ^ 31) :
    number.toInt32.toInt = number.toNat := by
  rw [toInt_toInt32, Int.bmod_def]
  omega

/-- `make([]T, 0, capacity)` for elements of `elementSize` bytes on a 32-bit
target, where an allocation is at most `2^32 - 1` bytes. -/
def makeSlice (elementSize : Nat) (capacity : Int32) : Outcome Unit :=
  if 0 ≤ capacity.toInt ∧ elementSize * capacity.toNatClampNeg < 2 ^ 32 then
    .ok ()
  else
    .error .makeSliceOutOfRange

theorem makeSlice_returns_iff {elementSize : Nat} {capacity : Int32} :
    Outcome.Returns (makeSlice elementSize capacity) ↔
      0 ≤ capacity.toInt ∧ elementSize * capacity.toNatClampNeg < 2 ^ 32 := by
  unfold makeSlice
  split
  · rename_i fits
    exact iff_of_true (Outcome.returns_ok _) fits
  · rename_i tooLarge
    exact iff_of_false (Outcome.not_returns_error _) tooLarge

/-- For elements of at least two bytes a count that does not fit in an `int`
is too large as well, so the check is a bound on the unsigned count. -/
theorem makeSlice_toInt32_returns_iff {elementSize : Nat} {number : UInt32}
    (wide : 2 ≤ elementSize) :
    Outcome.Returns (makeSlice elementSize number.toInt32) ↔
      elementSize * number.toNat < 2 ^ 32 := by
  have bound := number.toNat_lt
  rw [makeSlice_returns_iff, Int32.toNatClampNeg]
  by_cases small : number.toNat < 2 ^ 31
  · rw [toInt_toInt32_of_lt small, Int.toNat_natCast]
    exact and_iff_right (Int.natCast_nonneg _)
  · have negative : number.toInt32.toInt < 0 := by
      rw [toInt_toInt32, Int.bmod_def]
      omega
    have large : 2 * 2 ^ 31 ≤ elementSize * number.toNat :=
      Nat.mul_le_mul wide (Nat.le_of_not_lt small)
    constructor
    · rintro ⟨nonnegative, _⟩
      omega
    · intro fits
      omega

/-- `binary.BigEndian.Uint32`: reads four bytes, checking the last first. -/
def bigEndianUint32 (bytes : Slice UInt8) : Outcome UInt32 := do
  let b3 ← bytes.index 3
  let b2 ← bytes.index 2
  let b1 ← bytes.index 1
  let b0 ← bytes.index 0
  pure (b3.toUInt32 ||| b2.toUInt32 <<< 8 ||| b1.toUInt32 <<< 16 |||
    b0.toUInt32 <<< 24)

/-- `binary.BigEndian.Uint16`. -/
def bigEndianUint16 (bytes : Slice UInt8) : Outcome UInt16 := do
  let b1 ← bytes.index 1
  let b0 ← bytes.index 0
  pure (b1.toUInt16 ||| b0.toUInt16 <<< 8)

@[simp]
theorem exists_bigEndianUint32_eq_ok {bytes : Slice UInt8} :
    (∃ number, bigEndianUint32 bytes = .ok number) ↔ 4 ≤ bytes.length := by
  change Outcome.Returns (bigEndianUint32 bytes) ↔ 4 ≤ bytes.length
  simp only [bigEndianUint32, Outcome.returns_bind_iff, Outcome.returns_pure,
    and_true, exists_and_right, Slice.exists_index_eq_ok]
  omega

@[simp]
theorem exists_bigEndianUint16_eq_ok {bytes : Slice UInt8} :
    (∃ number, bigEndianUint16 bytes = .ok number) ↔ 2 ≤ bytes.length := by
  change Outcome.Returns (bigEndianUint16 bytes) ↔ 2 ≤ bytes.length
  simp only [bigEndianUint16, Outcome.returns_bind_iff, Outcome.returns_pure,
    and_true, exists_and_right, Slice.exists_index_eq_ok]
  omega

/-! ### Bytes of 32-bit numbers -/

theorem or_shiftLeft_of_lt {low high shift : Nat} (small : low < 2 ^ shift) :
    low ||| high <<< shift = low + high * 2 ^ shift := by
  rw [Nat.or_comm, ← Nat.shiftLeft_add_eq_or_of_lt small, Nat.shiftLeft_eq,
    Nat.add_comm]

/-- The four bytes do not overlap, so the bitwise sum is the arithmetic one. -/
theorem toNat_or_bytes (b0 b1 b2 b3 : UInt8) :
    (b3.toUInt32 ||| b2.toUInt32 <<< 8 ||| b1.toUInt32 <<< 16 |||
      b0.toUInt32 <<< 24).toNat =
      b3.toNat + b2.toNat * 2 ^ 8 + b1.toNat * 2 ^ 16 + b0.toNat * 2 ^ 24 := by
  have bound (b : UInt8) : b.toNat < 2 ^ 8 := b.toNat_lt
  have shifted (b : UInt8) (shift : Nat) (small : shift ≤ 24) :
      b.toNat <<< shift % 2 ^ 32 = b.toNat <<< shift := by
    apply Nat.mod_eq_of_lt
    rw [Nat.shiftLeft_eq]
    calc b.toNat * 2 ^ shift < 2 ^ 8 * 2 ^ shift :=
          Nat.mul_lt_mul_of_pos_right (bound b) (Nat.two_pow_pos shift)
      _ = 2 ^ (8 + shift) := (Nat.pow_add 2 8 shift).symm
      _ ≤ 2 ^ 32 := Nat.pow_le_pow_right (by decide) (by omega)
  have bound0 := bound b0
  have bound1 := bound b1
  have bound2 := bound b2
  have bound3 := bound b3
  simp only [UInt32.toNat_or, UInt32.toNat_shiftLeft, UInt8.toNat_toUInt32,
    UInt32.reduceToNat, Nat.reduceMod]
  rw [shifted b2 8 (by decide), shifted b1 16 (by decide),
    shifted b0 24 (by decide), or_shiftLeft_of_lt bound3,
    or_shiftLeft_of_lt (show b3.toNat + b2.toNat * 2 ^ 8 < 2 ^ 16 by omega),
    or_shiftLeft_of_lt (show b3.toNat + b2.toNat * 2 ^ 8 +
      b1.toNat * 2 ^ 16 < 2 ^ 24 by omega)]

theorem toNat_bytes (n : UInt32) :
    n.toUInt8.toNat + (n >>> 8).toUInt8.toNat * 2 ^ 8 +
      (n >>> 16).toUInt8.toNat * 2 ^ 16 +
        (n >>> 24).toUInt8.toNat * 2 ^ 24 = n.toNat := by
  have bound := n.toNat_lt
  simp [Nat.shiftRight_eq_div_pow]
  omega

/-- A number is put together from its four bytes. -/
theorem or_bytes (n : UInt32) :
    n.toUInt8.toUInt32 ||| (n >>> 8).toUInt8.toUInt32 <<< 8 |||
      (n >>> 16).toUInt8.toUInt32 <<< 16 |||
        (n >>> 24).toUInt8.toUInt32 <<< 24 = n :=
  UInt32.toNat_inj.mp ((toNat_or_bytes _ _ _ _).trans (toNat_bytes n))

end JetKvm
