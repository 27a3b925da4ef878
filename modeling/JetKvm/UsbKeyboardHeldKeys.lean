import JetKvm.UsbKeyboardKeysDown
import Mathlib.Data.List.Induction
import Mathlib.Data.Set.Insert
import Mathlib.Logic.Basic

/-!
# The tracked keyboard state as a list of held keys

What the six slots and the modifier byte are for: a set of modifiers that are
down and an ordered list of boundedly many distinct held keys.  The first part
is that keyboard over any type of keys; the second shows that the tracked
state of `keypressReport` represents it after every history of calls with
proper keys, whatever happens to the HID writes.
-/

namespace JetKvm

/-- A keyboard on which any set of modifiers and at most `capacity` other keys
can be down. -/
@[ext]
structure HeldKeyboard {Key : Type*} (isModifier : Key → Prop)
    (capacity : Nat) where
  modifiers : Set Key
  held : List Key
  modifiers_isModifier : ∀ key ∈ modifiers, isModifier key
  held_not_modifier : ∀ key ∈ held, ¬ isModifier key
  nodup : held.Nodup
  length_le : held.length ≤ capacity

namespace HeldKeyboard

variable {Key : Type*} {isModifier : Key → Prop} {capacity : Nat}

def empty : HeldKeyboard isModifier capacity where
  modifiers := ∅
  held := []
  modifiers_isModifier := fun _ member => absurd member (Set.notMem_empty _)
  held_not_modifier := fun _ member => absurd member List.not_mem_nil
  nodup := List.nodup_nil
  length_le := Nat.zero_le capacity

def Down (keyboard : HeldKeyboard isModifier capacity) (key : Key) : Prop :=
  key ∈ keyboard.modifiers ∨ key ∈ keyboard.held

theorem down_iff_of_modifier {keyboard : HeldKeyboard isModifier capacity}
    {key : Key} (modifier : isModifier key) :
    keyboard.Down key ↔ key ∈ keyboard.modifiers :=
  or_iff_left fun isHeld => keyboard.held_not_modifier key isHeld modifier

theorem down_iff_of_not_modifier {keyboard : HeldKeyboard isModifier capacity}
    {key : Key} (notModifier : ¬ isModifier key) :
    keyboard.Down key ↔ key ∈ keyboard.held :=
  or_iff_right fun set => notModifier (keyboard.modifiers_isModifier key set)

/-- Turn a modifier on. -/
def addModifier (keyboard : HeldKeyboard isModifier capacity) (key : Key)
    (modifier : isModifier key) : HeldKeyboard isModifier capacity :=
  { keyboard with
    modifiers := insert key keyboard.modifiers
    modifiers_isModifier := by
      rintro other (rfl | set)
      · exact modifier
      · exact keyboard.modifiers_isModifier other set }

/-- Turn a modifier off. -/
def dropModifier (keyboard : HeldKeyboard isModifier capacity) (key : Key) :
    HeldKeyboard isModifier capacity :=
  { keyboard with
    modifiers := keyboard.modifiers \ {key}
    modifiers_isModifier := fun other set =>
      keyboard.modifiers_isModifier other set.1 }

/-- Replace the held keys. -/
def withHeld (keyboard : HeldKeyboard isModifier capacity) (held : List Key)
    (notModifiers : ∀ key ∈ held, ¬ isModifier key) (nodup : held.Nodup)
    (length_le : held.length ≤ capacity) : HeldKeyboard isModifier capacity :=
  ⟨keyboard.modifiers, held, keyboard.modifiers_isModifier, notModifiers,
    nodup, length_le⟩

variable [DecidableEq Key] [DecidablePred isModifier]

/-- A new key joins the held keys if there is room; otherwise the keyboard
rolls over and holds none. -/
def press (keyboard : HeldKeyboard isModifier capacity) (key : Key) :
    HeldKeyboard isModifier capacity :=
  if modifier : isModifier key then
    keyboard.addModifier key modifier
  else if isHeld : key ∈ keyboard.held then
    keyboard
  else if room : keyboard.held.length < capacity then
    keyboard.withHeld (keyboard.held ++ [key])
      (by
        intro other member
        rcases List.mem_append.mp member with old | new
        · exact keyboard.held_not_modifier other old
        · rw [List.mem_singleton.mp new]
          exact modifier)
      (by
        rw [List.nodup_append_comm]
        exact List.nodup_cons.mpr ⟨isHeld, keyboard.nodup⟩)
      (by
        rw [List.length_append, List.length_singleton]
        exact room)
  else
    keyboard.withHeld [] (fun _ member => absurd member List.not_mem_nil)
      List.nodup_nil (Nat.zero_le capacity)

def release (keyboard : HeldKeyboard isModifier capacity) (key : Key) :
    HeldKeyboard isModifier capacity :=
  if isModifier key then
    keyboard.dropModifier key
  else
    keyboard.withHeld (keyboard.held.erase key)
      (fun other member =>
        keyboard.held_not_modifier other (List.mem_of_mem_erase member))
      (keyboard.nodup.erase key)
      (Nat.le_trans List.length_erase_le keyboard.length_le)

def keypress (keyboard : HeldKeyboard isModifier capacity) (key : Key)
    (pressed : Bool) : HeldKeyboard isModifier capacity :=
  if pressed then keyboard.press key else keyboard.release key

variable {keyboard : HeldKeyboard isModifier capacity} {key : Key}

/-- Pressing a key that is down changes nothing. -/
theorem press_of_down (down : keyboard.Down key) :
    keyboard.press key = keyboard := by
  by_cases modifier : isModifier key
  · rw [press, dif_pos modifier]
    have set := (down_iff_of_modifier modifier).mp down
    apply HeldKeyboard.ext
    · exact Set.insert_eq_of_mem set
    · rfl
  · rw [press, dif_neg modifier,
      dif_pos ((down_iff_of_not_modifier modifier).mp down)]

/-- Releasing a key that is not down changes nothing. -/
theorem release_of_not_down (notDown : ¬ keyboard.Down key) :
    keyboard.release key = keyboard := by
  by_cases modifier : isModifier key
  · rw [release, if_pos modifier]
    rw [down_iff_of_modifier modifier] at notDown
    apply HeldKeyboard.ext
    · apply Set.ext
      intro other
      refine ⟨fun set => set.1, fun set => ⟨set, ?_⟩⟩
      rintro rfl
      exact notDown set
    · rfl
  · rw [release, if_neg modifier]
    rw [down_iff_of_not_modifier modifier] at notDown
    apply HeldKeyboard.ext
    · rfl
    · exact List.erase_of_not_mem notDown

/-- A new key for which there is no room rolls the keyboard over. -/
theorem held_press_of_full (notModifier : ¬ isModifier key)
    (notDown : ¬ keyboard.Down key) (full : keyboard.held.length = capacity) :
    (keyboard.press key).held = [] := by
  rw [down_iff_of_not_modifier notModifier] at notDown
  rw [press, dif_neg notModifier, dif_neg notDown,
    dif_neg (Nat.not_lt.mpr (Nat.le_of_eq full.symm))]
  rfl

theorem held_press_of_room (notModifier : ¬ isModifier key)
    (notDown : ¬ keyboard.Down key) (room : keyboard.held.length < capacity) :
    (keyboard.press key).held = keyboard.held ++ [key] := by
  rw [down_iff_of_not_modifier notModifier] at notDown
  rw [press, dif_neg notModifier, dif_neg notDown, dif_pos room]
  rfl

theorem modifiers_press_of_not_modifier (notModifier : ¬ isModifier key) :
    (keyboard.press key).modifiers = keyboard.modifiers := by
  unfold press
  rw [dif_neg notModifier]
  split_ifs <;> rfl

/-- A modifier is down after a keypress if that keypress pressed it, or was
about another key and left it down. -/
theorem mem_modifiers_keypress_iff {other : Key} (modifier : isModifier other)
    (pressed : Bool) :
    other ∈ (keyboard.keypress key pressed).modifiers ↔
      if key = other then pressed = true else other ∈ keyboard.modifiers := by
  by_cases same : key = other
  · subst same
    cases pressed
    · simp [keypress, release, modifier, dropModifier]
    · simp [keypress, press, modifier, addModifier]
  · have distinct : other ≠ key := fun equal => same equal.symm
    by_cases keyModifier : isModifier key
    · cases pressed
      · simp [keypress, release, keyModifier, dropModifier, same, distinct]
      · simp [keypress, press, keyModifier, addModifier, same, distinct]
    · cases pressed
      · simp [keypress, release, keyModifier, withHeld, same]
      · simp [keypress, modifiers_press_of_not_modifier keyModifier, same]

end HeldKeyboard

namespace UsbGadget

open PaddedBuffer

/-- The keyboard the USB gadget tracks. -/
abbrev TrackedKeyboard := HeldKeyboard IsModifier hidKeyBufferSize

/-- The tracked state stores the held keys in order and has the bits of
exactly the modifiers that are down. -/
structure Represents (keyboard : TrackedKeyboard) (state : KeysDownState) :
    Prop where
  keys_eq : state.keys = storeKeys keyboard.held
  held_proper : ∀ key ∈ keyboard.held, key ≠ 0 ∧ key ≠ hidErrorRollOver
  modifier_bit_iff : ∀ {key mask}, modifierMask key = some mask →
    (state.modifier &&& mask ≠ 0 ↔ key ∈ keyboard.modifiers)

theorem Represents.initial :
    Represents HeldKeyboard.empty ({} : KeysDownState) where
  keys_eq := rfl
  held_proper := fun _ member => absurd member List.not_mem_nil
  modifier_bit_iff := fun _ => by simp [HeldKeyboard.empty]

variable {keyboard : TrackedKeyboard} {state : KeysDownState} {key : UInt8}

theorem isModifier_iff_exists_mask :
    IsModifier key ↔ ∃ mask, modifierMask key = some mask :=
  Option.isSome_iff_exists

theorem not_isModifier_iff : ¬ IsModifier key ↔ modifierMask key = none := by
  rw [IsModifier, Option.not_isSome_iff_eq_none]

theorem Represents.storable (represents : Represents keyboard state) :
    StorableKeys keyboard.held :=
  ⟨keyboard.nodup, fun zero => (represents.held_proper 0 zero).1 rfl,
    keyboard.length_le⟩

/-- The stored keys never look like an error roll over. -/
theorem head?_storeKeys_ne {held : List UInt8}
    (proper : ∀ key ∈ held, key ≠ 0 ∧ key ≠ hidErrorRollOver) :
    (storeKeys held).head? ≠ some hidErrorRollOver := by
  cases held with
  | nil => decide
  | cons first rest =>
      simpa [storeKeys, store] using (proper first List.mem_cons_self).2

/-- The mask of a modifier is a single bit, and different modifiers have
different bits. -/
theorem modifierMask_bit {mask : UInt8} (lookup : modifierMask key = some mask) :
    ∃ bit < 8, mask.toBitVec = BitVec.twoPow 8 bit ∧
      key.toNat = leftControl.toNat + bit := by
  have member : (key, mask) ∈ keyCodeToMaskMap := by
    obtain ⟨before, after, split, -⟩ := List.lookup_eq_some_iff.mp lookup
    rw [split]
    exact List.mem_append_right before List.mem_cons_self
  simp only [keyCodeToMaskMap, List.mem_cons, List.not_mem_nil, or_false,
    Prod.mk.injEq] at member
  rcases member with h | h | h | h | h | h | h | h
  · exact ⟨0, by decide, by rw [h.2]; decide, by rw [h.1]; decide⟩
  · exact ⟨1, by decide, by rw [h.2]; decide, by rw [h.1]; decide⟩
  · exact ⟨2, by decide, by rw [h.2]; decide, by rw [h.1]; decide⟩
  · exact ⟨3, by decide, by rw [h.2]; decide, by rw [h.1]; decide⟩
  · exact ⟨4, by decide, by rw [h.2]; decide, by rw [h.1]; decide⟩
  · exact ⟨5, by decide, by rw [h.2]; decide, by rw [h.1]; decide⟩
  · exact ⟨6, by decide, by rw [h.2]; decide, by rw [h.1]; decide⟩
  · exact ⟨7, by decide, by rw [h.2]; decide, by rw [h.1]; decide⟩

theorem and_mask_ne_zero_iff {modifier mask : UInt8} {bit : Nat}
    (inside : bit < 8) (single : mask.toBitVec = BitVec.twoPow 8 bit) :
    modifier &&& mask ≠ 0 ↔ modifier.toBitVec.getLsbD bit = true := by
  have nonzero : BitVec.twoPow 8 bit ≠ 0#8 := by
    intro zero
    have := congrArg (·.getLsbD bit) zero
    simp [inside] at this
  rw [Ne, ← UInt8.toBitVec_inj, UInt8.toBitVec_and, single,
    BitVec.and_twoPow]
  split_ifs with set
  · simp [set, nonzero]
  · simp [set]

section

variable {other : UInt8} {mask otherMask : UInt8}

theorem or_mask_and_ne_zero_iff (lookup : modifierMask key = some mask)
    (otherLookup : modifierMask other = some otherMask) (modifier : UInt8) :
    (modifier ||| mask) &&& otherMask ≠ 0 ↔
      key = other ∨ modifier &&& otherMask ≠ 0 := by
  obtain ⟨bit, inside, single, code⟩ := modifierMask_bit lookup
  obtain ⟨otherBit, otherInside, otherSingle, otherCode⟩ :=
    modifierMask_bit otherLookup
  rw [and_mask_ne_zero_iff otherInside otherSingle,
    and_mask_ne_zero_iff otherInside otherSingle, UInt8.toBitVec_or, single,
    BitVec.getLsbD_or, BitVec.getLsbD_twoPow]
  have sameKey : bit = otherBit ↔ key = other := by
    rw [← UInt8.toNat_inj, code, otherCode]
    omega
  simp [inside, sameKey, or_comm]

theorem andNot_mask_and_ne_zero_iff (lookup : modifierMask key = some mask)
    (otherLookup : modifierMask other = some otherMask) (modifier : UInt8) :
    (modifier &&& ~~~mask) &&& otherMask ≠ 0 ↔
      key ≠ other ∧ modifier &&& otherMask ≠ 0 := by
  obtain ⟨bit, inside, single, code⟩ := modifierMask_bit lookup
  obtain ⟨otherBit, otherInside, otherSingle, otherCode⟩ :=
    modifierMask_bit otherLookup
  rw [and_mask_ne_zero_iff otherInside otherSingle,
    and_mask_ne_zero_iff otherInside otherSingle, UInt8.toBitVec_and,
    UInt8.toBitVec_not, single, BitVec.getLsbD_and, BitVec.getLsbD_not,
    BitVec.getLsbD_twoPow]
  have sameKey : bit = otherBit ↔ key = other := by
    rw [← UInt8.toNat_inj, code, otherCode]
    omega
  simp [inside, otherInside, sameKey, and_comm]

end

theorem clearedOnRollOver_storeKeys {held : List UInt8}
    (proper : ∀ key ∈ held, key ≠ 0 ∧ key ≠ hidErrorRollOver)
    (modifier : UInt8) :
    clearedOnRollOver modifier (storeKeys held) =
      ⟨modifier, storeKeys held⟩ :=
  clearedOnRollOver_of_head?_ne (head?_storeKeys_ne proper)

/-- A full error roll over leaves every slot zero. -/
theorem clearedOnRollOver_rollOver (modifier : UInt8) :
    clearedOnRollOver modifier
        (List.replicate hidKeyBufferSize hidErrorRollOver) =
      ⟨modifier, storeKeys []⟩ :=
  rfl

theorem exists_modifierMask_of_bit {bit : Nat} (inside : bit < 8) :
    ∃ key mask, modifierMask key = some mask ∧
      mask.toBitVec = BitVec.twoPow 8 bit := by
  have pairs : ∀ bit : Fin 8, ∃ pair ∈ keyCodeToMaskMap,
      modifierMask pair.1 = some pair.2 ∧
        pair.2.toBitVec = BitVec.twoPow 8 bit := by
    decide
  obtain ⟨⟨key, mask⟩, -, lookup, single⟩ := pairs ⟨bit, inside⟩
  exact ⟨key, mask, lookup, single⟩

namespace Represents

variable (represents : Represents keyboard state)
include represents

/-- A keyboard is represented by one state only. -/
theorem unique {other : KeysDownState} (also : Represents keyboard other) :
    other = state := by
  have modifier_eq : other.modifier = state.modifier := by
    rw [← UInt8.toBitVec_inj]
    apply BitVec.eq_of_getLsbD_eq
    intro bit inside
    obtain ⟨key, mask, lookup, single⟩ := exists_modifierMask_of_bit inside
    rw [Bool.eq_iff_iff, ← and_mask_ne_zero_iff inside single,
      ← and_mask_ne_zero_iff inside single, also.modifier_bit_iff lookup,
      represents.modifier_bit_iff lookup]
  obtain ⟨otherModifier, otherKeys⟩ := other
  obtain ⟨modifier, keys⟩ := state
  rw [KeysDownState.mk.injEq]
  exact ⟨modifier_eq, also.keys_eq.trans represents.keys_eq.symm⟩

/-- A keypress of a modifier sets or clears its bit and keeps the slots. -/
theorem keypress_modifier (modifier : IsModifier key) (pressed : Bool)
    (write : HidWrite) :
    Represents (keyboard.keypress key pressed)
      (keypressReport state key pressed write).tracked := by
  obtain ⟨mask, lookup⟩ := isModifier_iff_exists_mask.mp modifier
  have held_eq : (keyboard.keypress key pressed).held = keyboard.held := by
    cases pressed
    · rw [HeldKeyboard.keypress, if_neg Bool.false_ne_true,
        HeldKeyboard.release, if_pos modifier]
      rfl
    · rw [HeldKeyboard.keypress, if_pos rfl, HeldKeyboard.press,
        dif_pos modifier]
      rfl
  rw [keypressReport_tracked_of_modifier lookup, represents.keys_eq,
    clearedOnRollOver_storeKeys represents.held_proper]
  refine ⟨?_, ?_, fun {other otherMask} otherLookup => ?_⟩
  · rw [held_eq]
  · rw [held_eq]
    exact represents.held_proper
  · have otherModifier :=
      isModifier_iff_exists_mask.mpr ⟨otherMask, otherLookup⟩
    rw [HeldKeyboard.mem_modifiers_keypress_iff otherModifier,
      ← represents.modifier_bit_iff otherLookup]
    cases pressed
    · rw [if_neg Bool.false_ne_true,
        andNot_mask_and_ne_zero_iff lookup otherLookup]
      by_cases same : key = other <;> simp [same]
    · rw [if_pos rfl, or_mask_and_ne_zero_iff lookup otherLookup]
      by_cases same : key = other <;> simp [same]

/-- The slots of a keyboard that keeps its modifiers. -/
theorem of_held {next : TrackedKeyboard}
    (modifiers_eq : next.modifiers = keyboard.modifiers)
    (proper : ∀ key ∈ next.held, key ≠ 0 ∧ key ≠ hidErrorRollOver) :
    Represents next ⟨state.modifier, storeKeys next.held⟩ where
  keys_eq := rfl
  held_proper := proper
  modifier_bit_iff := fun lookup => by
    rw [modifiers_eq]
    exact represents.modifier_bit_iff lookup

theorem press_key (notModifier : ¬ IsModifier key)
    (proper : key ≠ 0 ∧ key ≠ hidErrorRollOver) (write : HidWrite) :
    Represents (keyboard.press key)
      (keypressReport state key true write).tracked := by
  have modifiers_eq : (keyboard.press key).modifiers = keyboard.modifiers :=
    HeldKeyboard.modifiers_press_of_not_modifier notModifier
  have storable := represents.storable
  rw [keypressReport_tracked_of_not_modifier
    (not_isModifier_iff.mp notModifier), represents.keys_eq]
  by_cases isHeld : key ∈ keyboard.held
  · rw [keypressSlots_press_held storable isHeld,
      clearedOnRollOver_storeKeys represents.held_proper,
      HeldKeyboard.press_of_down (Or.inr isHeld)]
    exact represents.of_held rfl represents.held_proper
  · have notDown : ¬ keyboard.Down key :=
      mt (HeldKeyboard.down_iff_of_not_modifier notModifier).mp isHeld
    by_cases room : keyboard.held.length < hidKeyBufferSize
    · have held_eq := HeldKeyboard.held_press_of_room notModifier notDown room
      have allProper : ∀ other ∈ (keyboard.press key).held,
          other ≠ 0 ∧ other ≠ hidErrorRollOver := by
        intro other member
        rw [held_eq] at member
        rcases List.mem_append.mp member with old | new
        · exact represents.held_proper other old
        · rw [List.mem_singleton.mp new]
          exact proper
      rw [keypressSlots_press_new storable isHeld room, ← held_eq,
        clearedOnRollOver_storeKeys allProper]
      exact represents.of_held modifiers_eq allProper
    · have full : keyboard.held.length = hidKeyBufferSize :=
        Nat.le_antisymm keyboard.length_le (Nat.le_of_not_lt room)
      have held_eq := HeldKeyboard.held_press_of_full notModifier notDown full
      rw [keypressSlots_press_overflow storable isHeld full,
        clearedOnRollOver_rollOver, ← held_eq]
      apply represents.of_held modifiers_eq
      rw [held_eq]
      exact fun _ member => absurd member List.not_mem_nil

theorem release_key (notModifier : ¬ IsModifier key) (write : HidWrite) :
    Represents (keyboard.release key)
      (keypressReport state key false write).tracked := by
  have slots : keypressSlots (storeKeys keyboard.held) key false =
      storeKeys (keyboard.release key).held := by
    rw [HeldKeyboard.release, if_neg notModifier]
    by_cases isHeld : key ∈ keyboard.held
    · exact keypressSlots_release_held represents.storable isHeld
    · rw [keypressSlots_release_not_held represents.storable isHeld]
      exact congrArg storeKeys (List.erase_of_not_mem isHeld).symm
  have modifiers_eq :
      (keyboard.release key).modifiers = keyboard.modifiers := by
    rw [HeldKeyboard.release, if_neg notModifier]
    rfl
  have allProper : ∀ other ∈ (keyboard.release key).held,
      other ≠ 0 ∧ other ≠ hidErrorRollOver := by
    intro other member
    rw [HeldKeyboard.release, if_neg notModifier] at member
    exact represents.held_proper other (List.mem_of_mem_erase member)
  rw [keypressReport_tracked_of_not_modifier
    (not_isModifier_iff.mp notModifier), represents.keys_eq, slots,
    clearedOnRollOver_storeKeys allProper]
  exact represents.of_held modifiers_eq allProper

/-- The tracked state follows the keyboard through a keypress, however the
write to the host ends. -/
theorem keypress (proper : key ≠ 0 ∧ key ≠ hidErrorRollOver) (pressed : Bool)
    (write : HidWrite) :
    Represents (keyboard.keypress key pressed)
      (keypressReport state key pressed write).tracked := by
  by_cases modifier : IsModifier key
  · exact represents.keypress_modifier modifier pressed write
  · cases pressed
    · exact represents.release_key modifier write
    · exact represents.press_key modifier proper write

/-- The report of a keypress that overflows the buffer. -/
theorem written_of_overflow (notModifier : ¬ IsModifier key)
    (notDown : ¬ keyboard.Down key)
    (full : keyboard.held.length = hidKeyBufferSize) (write : HidWrite) :
    (keypressReport state key true write).written =
      match write with
      | .openFailed _ => none
      | _ => some (state.modifier :: 0x00 ::
          List.replicate hidKeyBufferSize hidErrorRollOver) := by
  rw [HeldKeyboard.down_iff_of_not_modifier notModifier] at notDown
  simp only [keypressReport, not_isModifier_iff.mp notModifier,
    represents.keys_eq,
    keypressSlots_press_overflow represents.storable notDown full]
  cases write <;> rfl

end Represents

/-- A call of `keypressReport`, with how its write to the host ends. -/
structure Keypress where
  key : UInt8
  press : Bool
  write : HidWrite
  deriving DecidableEq, Repr

namespace Keypress

/-- Zero marks a free slot and one an error roll over; neither is a key. -/
def Proper (call : Keypress) : Prop :=
  call.key ≠ 0 ∧ call.key ≠ hidErrorRollOver

instance : DecidablePred Proper := fun _ =>
  inferInstanceAs (Decidable (_ ∧ _))

def report (call : Keypress) (tracked : KeysDownState) : Reported :=
  keypressReport tracked call.key call.press call.write

end Keypress

/-- The tracked state after a history of calls, from the initial state. -/
def trackedAfter (history : List Keypress) : KeysDownState :=
  history.foldl (fun tracked call => (call.report tracked).tracked) {}

/-- The keyboard after the same history. -/
def heldAfter (history : List Keypress) : TrackedKeyboard :=
  history.foldl (fun keyboard call => keyboard.keypress call.key call.press)
    HeldKeyboard.empty

/-- Whether the last event of a key in the history is a press. -/
def lastPress (history : List Keypress) (key : UInt8) : Bool :=
  history.foldl (fun last call => if call.key = key then call.press else last)
    false

@[simp]
theorem trackedAfter_append_singleton (history : List Keypress)
    (call : Keypress) :
    trackedAfter (history ++ [call]) =
      (call.report (trackedAfter history)).tracked := by
  simp [trackedAfter]

@[simp]
theorem heldAfter_append_singleton (history : List Keypress)
    (call : Keypress) :
    heldAfter (history ++ [call]) =
      (heldAfter history).keypress call.key call.press := by
  simp [heldAfter]

@[simp]
theorem lastPress_append_singleton (history : List Keypress)
    (call : Keypress) (key : UInt8) :
    lastPress (history ++ [call]) key =
      if call.key = key then call.press else lastPress history key := by
  simp [lastPress]

theorem represents_after {history : List Keypress}
    (proper : ∀ call ∈ history, call.Proper) :
    Represents (heldAfter history) (trackedAfter history) := by
  induction history using List.reverseRecOn with
  | nil => exact Represents.initial
  | append_singleton earlier call ih =>
      have before := ih fun other member =>
        proper other (List.mem_append_left _ member)
      have callProper := proper call (List.mem_append_right _ List.mem_cons_self)
      rw [heldAfter_append_singleton, trackedAfter_append_singleton]
      exact before.keypress callProper call.press call.write

theorem mem_modifiers_heldAfter_iff (modifier : IsModifier key)
    (history : List Keypress) :
    key ∈ (heldAfter history).modifiers ↔ lastPress history key = true := by
  induction history using List.reverseRecOn with
  | nil => simp [heldAfter, lastPress, HeldKeyboard.empty]
  | append_singleton earlier call ih =>
      rw [heldAfter_append_singleton, lastPress_append_singleton,
        HeldKeyboard.mem_modifiers_keypress_iff modifier, ih]
      split_ifs <;> rfl

/-- After every history of proper keypresses the six slots are the held keys in
the order they were pressed, followed by zeros, and each modifier bit is the
last event of its key.  From there a redundant press or release changes
nothing, and a key for which there is no slot empties the list and reports an
error roll over. -/
theorem keypress_history_refines_held_keyboard (history : List Keypress)
    (proper : ∀ call ∈ history, call.Proper) :
    Represents (heldAfter history) (trackedAfter history) ∧
    (trackedAfter history).keys.length = hidKeyBufferSize ∧
    (∀ key mask, modifierMask key = some mask →
      ((trackedAfter history).modifier &&& mask ≠ 0 ↔
        lastPress history key = true)) ∧
    ∀ call : Keypress, call.Proper →
      (call.press = false → ¬ (heldAfter history).Down call.key →
        trackedAfter (history ++ [call]) = trackedAfter history) ∧
      (call.press = true → (heldAfter history).Down call.key →
        trackedAfter (history ++ [call]) = trackedAfter history) ∧
      (call.press = true → ¬ IsModifier call.key →
        ¬ (heldAfter history).Down call.key →
        (heldAfter history).held.length = hidKeyBufferSize →
          (heldAfter (history ++ [call])).held = [] ∧
          (call.report (trackedAfter history)).written =
            match call.write with
            | .openFailed _ => none
            | _ => some ((trackedAfter history).modifier :: 0x00 ::
                List.replicate hidKeyBufferSize hidErrorRollOver)) := by
  have represents := represents_after proper
  have unchanged : ∀ call : Keypress, call.Proper →
      (heldAfter history).keypress call.key call.press = heldAfter history →
      trackedAfter (history ++ [call]) = trackedAfter history := by
    intro call callProper same
    have later := represents.keypress callProper call.press call.write
    rw [same] at later
    rw [trackedAfter_append_singleton]
    exact represents.unique later
  refine ⟨represents, ?_, ?_, fun call callProper => ⟨?_, ?_, ?_⟩⟩
  · rw [represents.keys_eq]
    exact length_store (heldAfter history).length_le
  · intro key mask lookup
    rw [represents.modifier_bit_iff lookup]
    exact mem_modifiers_heldAfter_iff
      (isModifier_iff_exists_mask.mpr ⟨mask, lookup⟩) history
  · intro released notDown
    apply unchanged call callProper
    rw [released]
    exact HeldKeyboard.release_of_not_down notDown
  · intro pressed down
    apply unchanged call callProper
    rw [pressed]
    exact HeldKeyboard.press_of_down down
  · intro pressed notModifier notDown full
    constructor
    · rw [heldAfter_append_singleton, pressed]
      exact HeldKeyboard.held_press_of_full notModifier notDown full
    · rw [Keypress.report, pressed]
      exact represents.written_of_overflow notModifier notDown full call.write

/-- A shifted key, a second key whose report is lost, and a release. -/
theorem keypress_history_refines_held_keyboard_two_keys :
    let history : List Keypress :=
      [⟨leftShift, true, .delivered⟩, ⟨4, true, .delivered⟩,
        ⟨5, true, .failed "write error"⟩, ⟨4, false, .delivered⟩]
    trackedAfter history = ⟨0x02, [5, 0, 0, 0, 0, 0]⟩ ∧
      Represents (heldAfter history) (trackedAfter history) := by
  intro history
  have refines := keypress_history_refines_held_keyboard history (by decide)
  exact ⟨by decide, refines.1⟩

end UsbGadget

end JetKvm
