import JetKvm.PaddedBuffer
import Mathlib.Tactic.SplitIfs

/-!
# The tracked keyboard state of the USB gadget

Translation of the keyboard state in `internal/usbgadget/hid_keyboard.go`: the
modifier byte, the six key slots, and the two reports that change them.  A
report writes to the HID device and then updates the tracked state whether or
not the write succeeded; how the write ends is an input of the model.

`keypressReport` and `KeyboardReport` hold `keyboardMutex` from the first read
of the state to its update, so each is one step.
-/

namespace JetKvm

namespace UsbGadget

open PaddedBuffer

def hidKeyBufferSize : Nat := 6
def hidErrorRollOver : UInt8 := 0x01

/-- Initially no modifier is set and all six slots are zero. -/
structure KeysDownState where
  modifier : UInt8 := 0
  keys : List UInt8 := List.replicate hidKeyBufferSize 0
  deriving DecidableEq, Repr

def leftControl : UInt8 := 0xE0
def leftShift : UInt8 := 0xE1
def leftAlt : UInt8 := 0xE2
def leftSuper : UInt8 := 0xE3
def rightControl : UInt8 := 0xE4
def rightShift : UInt8 := 0xE5
def rightAlt : UInt8 := 0xE6
def rightSuper : UInt8 := 0xE7

def modifierMaskLeftControl : UInt8 := 0x01
def modifierMaskRightControl : UInt8 := 0x10
def modifierMaskLeftShift : UInt8 := 0x02
def modifierMaskRightShift : UInt8 := 0x20
def modifierMaskLeftAlt : UInt8 := 0x04
def modifierMaskRightAlt : UInt8 := 0x40
def modifierMaskLeftSuper : UInt8 := 0x08
def modifierMaskRightSuper : UInt8 := 0x80

def keyCodeToMaskMap : List (UInt8 × UInt8) :=
  [(leftControl, modifierMaskLeftControl),
    (leftShift, modifierMaskLeftShift),
    (leftAlt, modifierMaskLeftAlt),
    (leftSuper, modifierMaskLeftSuper),
    (rightControl, modifierMaskRightControl),
    (rightShift, modifierMaskRightShift),
    (rightAlt, modifierMaskRightAlt),
    (rightSuper, modifierMaskRightSuper)]

/-- The modifier bit of a key, if the key is a modifier. -/
def modifierMask (key : UInt8) : Option UInt8 :=
  keyCodeToMaskMap.lookup key

def IsModifier (key : UInt8) : Prop :=
  (modifierMask key).isSome

instance (key : UInt8) : Decidable (IsModifier key) :=
  inferInstanceAs (Decidable (_ = true))

/-- How an attempt to write a report to `/dev/hidg0` ends. -/
inductive HidWrite where
  | openFailed (error : String)
  | delivered
  | timedOut
  | failed (error : String)
  deriving DecidableEq, Repr

/-- The error of the write.  `writeWithTimeout` drops a missed deadline. -/
def HidWrite.err : HidWrite → Option String
  | .openFailed error => some error
  | .delivered => none
  | .timedOut => none
  | .failed error => some error

/-- The bytes handed to the device, if it could be opened, and the error. -/
def keyboardWriteHidFileLocked (modifier : UInt8) (keys : List UInt8)
    (write : HidWrite) : Option (List UInt8) × Option String :=
  match write with
  | .openFailed error => (none, some error)
  | written => (some (modifier :: 0x00 :: keys.take hidKeyBufferSize),
      written.err)

/-- The tracked state after an update, the state `UpdateKeysDown` returns, and
the state passed to `onKeysDownChange`, if it is called. -/
structure KeysDownUpdate where
  tracked : KeysDownState
  returned : KeysDownState
  notified : Option KeysDownState
  deriving DecidableEq, Repr

/-- The reported state, with the keys cleared if the report was an error roll
over. -/
def clearedOnRollOver (modifier : UInt8) (keys : List UInt8) : KeysDownState :=
  ⟨modifier,
    if keys.head? = some hidErrorRollOver then keys.map fun _ => 0 else keys⟩

def updateKeysDown (tracked : KeysDownState) (modifier : UInt8)
    (keys : List UInt8) : KeysDownUpdate :=
  let state := clearedOnRollOver modifier keys
  if tracked.modifier = state.modifier ∧ tracked.keys = state.keys then
    ⟨tracked, state, none⟩
  else
    ⟨state, state, some state⟩

/-- What a keyboard report does: the new tracked state, the value it returns,
the bytes written to the host, the notification and the error. -/
structure Reported where
  tracked : KeysDownState
  newState : KeysDownState
  written : Option (List UInt8)
  notified : Option KeysDownState
  err : Option String
  deriving DecidableEq, Repr

/-- The common end of both reports: write, then update the tracked state. -/
def writeAndUpdate (tracked : KeysDownState) (modifier : UInt8)
    (keys : List UInt8) (write : HidWrite) : Reported :=
  let (written, err) := keyboardWriteHidFileLocked modifier keys write
  let update := updateKeysDown tracked modifier keys
  ⟨update.tracked, update.returned, written, update.notified, err⟩

/-- `KeyboardReport`: the keys are cut or zero-padded to the buffer size. -/
def keyboardReport (tracked : KeysDownState) (modifier : UInt8)
    (keys : List UInt8) (write : HidWrite) : Reported :=
  let keys :=
    if keys.length > hidKeyBufferSize then keys.take hidKeyBufferSize else keys
  let keys :=
    if keys.length < hidKeyBufferSize then
      keys ++ List.replicate (hidKeyBufferSize - keys.length) 0
    else keys
  writeAndUpdate tracked modifier keys write

/-- The slot loop of `keypressReport` for a key that is not a modifier. -/
def keypressSlots (keys : List UInt8) (key : UInt8) (press : Bool) :
    List UInt8 :=
  match slotOf 0 key (keys.take hidKeyBufferSize) with
  | some i =>
      if press then
        keys.set i key
      else if keys.getD i 0 ≠ 0 then
        (copyDown keys i).set (hidKeyBufferSize - 1) 0
      else keys
  | none =>
      -- no slot was found: a press overflows the buffer, a release is ignored
      if press then keys.map fun _ => hidErrorRollOver else keys

def keypressReport (tracked : KeysDownState) (key : UInt8) (press : Bool)
    (write : HidWrite) : Reported :=
  match modifierMask key with
  | some mask =>
      let modifier :=
        if press then tracked.modifier ||| mask else tracked.modifier &&& ~~~mask
      writeAndUpdate tracked modifier tracked.keys write
  | none =>
      writeAndUpdate tracked tracked.modifier
        (keypressSlots tracked.keys key press) write

theorem clearedOnRollOver_of_head?_ne {modifier : UInt8} {keys : List UInt8}
    (noRollOver : keys.head? ≠ some hidErrorRollOver) :
    clearedOnRollOver modifier keys = ⟨modifier, keys⟩ := by
  simp [clearedOnRollOver, noRollOver]

/-- No state keeps an error roll over. -/
theorem clearedOnRollOver_head?_ne (modifier : UInt8) (keys : List UInt8) :
    (clearedOnRollOver modifier keys).keys.head? ≠ some hidErrorRollOver := by
  unfold clearedOnRollOver
  split_ifs with rolledOver
  · cases keys with
    | nil => exact nofun
    | cons first rest => simp [hidErrorRollOver]
  · exact rolledOver

/-- `UpdateKeysDown` reads two fields to see whether the state changes. -/
theorem sameFields_iff (tracked state : KeysDownState) :
    (tracked.modifier = state.modifier ∧ tracked.keys = state.keys) ↔
      tracked = state := by
  cases tracked
  cases state
  rw [KeysDownState.mk.injEq]

@[simp]
theorem updateKeysDown_returned (tracked : KeysDownState) (modifier : UInt8)
    (keys : List UInt8) :
    (updateKeysDown tracked modifier keys).returned =
      clearedOnRollOver modifier keys := by
  simp only [updateKeysDown, sameFields_iff]
  split_ifs <;> rfl

/-- The early return of `UpdateKeysDown` leaves the state it would store. -/
@[simp]
theorem updateKeysDown_tracked (tracked : KeysDownState) (modifier : UInt8)
    (keys : List UInt8) :
    (updateKeysDown tracked modifier keys).tracked =
      clearedOnRollOver modifier keys := by
  simp only [updateKeysDown, sameFields_iff]
  split_ifs with same
  · exact same
  · rfl

@[simp]
theorem writeAndUpdate_tracked (tracked : KeysDownState) (modifier : UInt8)
    (keys : List UInt8) (write : HidWrite) :
    (writeAndUpdate tracked modifier keys write).tracked =
      clearedOnRollOver modifier keys :=
  updateKeysDown_tracked tracked modifier keys

@[simp]
theorem writeAndUpdate_newState (tracked : KeysDownState) (modifier : UInt8)
    (keys : List UInt8) (write : HidWrite) :
    (writeAndUpdate tracked modifier keys write).newState =
      clearedOnRollOver modifier keys :=
  updateKeysDown_returned tracked modifier keys

/-- Whatever reaches the device is the report of the computed keys, before a
roll over is cleared. -/
theorem written_of_writeAndUpdate {tracked : KeysDownState} {modifier : UInt8}
    {keys report : List UInt8} {write : HidWrite}
    (written : (writeAndUpdate tracked modifier keys write).written =
      some report) :
    report = modifier :: 0x00 :: keys.take hidKeyBufferSize := by
  cases write <;>
    simp [writeAndUpdate, keyboardWriteHidFileLocked] at written <;>
    exact written.symm

theorem keypressReport_newState_head?_ne (tracked : KeysDownState)
    (key : UInt8) (press : Bool) (write : HidWrite) :
    (keypressReport tracked key press write).newState.keys.head? ≠
      some hidErrorRollOver := by
  unfold keypressReport
  cases modifierMask key <;>
    exact (writeAndUpdate_newState ..) ▸ clearedOnRollOver_head?_ne _ _

theorem keypressReport_tracked_of_modifier {key mask : UInt8}
    (isModifier : modifierMask key = some mask) (tracked : KeysDownState)
    (press : Bool) (write : HidWrite) :
    (keypressReport tracked key press write).tracked =
      clearedOnRollOver
        (if press then tracked.modifier ||| mask
          else tracked.modifier &&& ~~~mask)
        tracked.keys := by
  simp [keypressReport, isModifier]

theorem keypressReport_tracked_of_not_modifier {key : UInt8}
    (notModifier : modifierMask key = none) (tracked : KeysDownState)
    (press : Bool) (write : HidWrite) :
    (keypressReport tracked key press write).tracked =
      clearedOnRollOver tracked.modifier
        (keypressSlots tracked.keys key press) := by
  simp [keypressReport, notModifier]

/-! ## What the slot loop finds

The loop stops at the first slot that holds the key or is free. -/

section Slots

variable {key : UInt8} {keys before after : List UInt8}

/-- Slots the loop passes over. -/
def Passed (key : UInt8) (slots : List UInt8) : Prop :=
  ∀ slot ∈ slots, slot ≠ key ∧ slot ≠ 0

theorem slot_cases (key : UInt8) (keys : List UInt8) :
    (∃ before after, keys = before ++ key :: after ∧ Passed key before) ∨
      (∃ before after, keys = before ++ 0 :: after ∧ Passed key before ∧
        key ≠ 0) ∨
      Passed key keys := by
  induction keys with
  | nil => exact Or.inr (Or.inr nofun)
  | cons slot rest ih =>
      by_cases isKey : slot = key
      · subst isKey
        exact Or.inl ⟨[], rest, rfl, nofun⟩
      by_cases isFree : slot = 0
      · subst isFree
        exact Or.inr (Or.inl ⟨[], rest, rfl, nofun, fun same => isKey same.symm⟩)
      have passed {slots : List UInt8} (others : Passed key slots) :
          Passed key (slot :: slots) := by
        intro other member
        rcases List.mem_cons.mp member with rfl | inside
        · exact ⟨isKey, isFree⟩
        · exact others other inside
      rcases ih with ⟨before, after, rfl, others⟩ |
        ⟨before, after, rfl, others, proper⟩ | others
      · exact Or.inl ⟨slot :: before, after, rfl, passed others⟩
      · exact Or.inr (Or.inl ⟨slot :: before, after, rfl, passed others, proper⟩)
      · exact Or.inr (Or.inr (passed others))

theorem slotOf_of_passed {slot : UInt8} (passed : Passed key before)
    (stops : slot = key ∨ slot = 0) :
    slotOf 0 key (before ++ slot :: after) = some before.length := by
  have none_before : before.findIdx? (fun slot => slot == key || slot == 0) =
      none := by
    rw [List.findIdx?_eq_none_iff]
    intro other member
    obtain ⟨notKey, notFree⟩ := passed other member
    simp [notKey, notFree]
  simp [slotOf, List.findIdx?_append, none_before, List.findIdx?_cons, stops]

theorem take_of_full (full : keys.length = hidKeyBufferSize) :
    keys.take hidKeyBufferSize = keys := by
  rw [← full, List.take_length]

theorem keypressSlots_of_key
    (full : (before ++ key :: after).length = hidKeyBufferSize)
    (passed : Passed key before) (press : Bool) :
    keypressSlots (before ++ key :: after) key press =
      if press = false ∧ key ≠ 0 then before ++ after ++ [0]
      else before ++ key :: after := by
  have removed : (copyDown (before ++ key :: after) before.length).set
      (hidKeyBufferSize - 1) 0 = before ++ after ++ [0] := by
    rw [← full, copyDown_set_last (by simp), List.eraseIdx_append_of_length_le
      (Nat.le_refl _), Nat.sub_self, List.eraseIdx_cons_zero]
  rw [keypressSlots, take_of_full full, slotOf_of_passed passed (Or.inl rfl)]
  simp only [removed]
  cases press <;> simp

theorem keypressSlots_of_free
    (full : (before ++ 0 :: after).length = hidKeyBufferSize)
    (passed : Passed key before) (press : Bool) :
    keypressSlots (before ++ 0 :: after) key press =
      if press then before ++ key :: after else before ++ 0 :: after := by
  rw [keypressSlots, take_of_full full, slotOf_of_passed passed (Or.inr rfl)]
  cases press <;> simp

theorem keypressSlots_of_passed (full : keys.length = hidKeyBufferSize)
    (passed : Passed key keys) (press : Bool) :
    keypressSlots keys key press =
      if press then List.replicate hidKeyBufferSize hidErrorRollOver
      else keys := by
  have noSlot : slotOf 0 key keys = none := by
    rw [slotOf, List.findIdx?_eq_none_iff]
    intro other member
    obtain ⟨notKey, notFree⟩ := passed other member
    simp [notKey, notFree]
  rw [keypressSlots, take_of_full full, noSlot]
  simp only [List.map_const', full]

theorem length_keypressSlots (full : keys.length = hidKeyBufferSize)
    (key : UInt8) (press : Bool) :
    (keypressSlots keys key press).length = hidKeyBufferSize := by
  rcases slot_cases key keys with ⟨before, after, rfl, passed⟩ |
    ⟨before, after, rfl, passed, -⟩ | passed
  · rw [keypressSlots_of_key full passed]
    split_ifs
    · simpa using full
    · exact full
  · rw [keypressSlots_of_free full passed]
    split_ifs
    · simpa using full
    · exact full
  · rw [keypressSlots_of_passed full passed]
    split_ifs
    · exact List.length_replicate
    · exact full

theorem length_clearedOnRollOver (modifier : UInt8) (keys : List UInt8) :
    (clearedOnRollOver modifier keys).keys.length = keys.length := by
  unfold clearedOnRollOver
  split_ifs <;> simp

end Slots

section StoredKeys

variable {held : List UInt8} {key : UInt8}

/-- The six slots that hold the given keys. -/
abbrev storeKeys (held : List UInt8) : List UInt8 :=
  store hidKeyBufferSize 0 held

/-- Keys the six slots can hold: distinct and nonzero. -/
abbrev StorableKeys (held : List UInt8) : Prop :=
  Storable hidKeyBufferSize 0 held

theorem take_storeKeys (storable : StorableKeys held) :
    (storeKeys held).take hidKeyBufferSize = storeKeys held :=
  List.take_of_length_le (Nat.le_of_eq (length_store storable.length_le))

theorem keypressSlots_press_held (storable : StorableKeys held)
    (isHeld : key ∈ held) :
    keypressSlots (storeKeys held) key true = storeKeys held := by
  rw [keypressSlots, take_storeKeys storable,
    slotOf_store_of_mem storable isHeld]
  exact set_store_idxOf isHeld

theorem keypressSlots_press_new (storable : StorableKeys held)
    (notHeld : key ∉ held) (room : held.length < hidKeyBufferSize) :
    keypressSlots (storeKeys held) key true = storeKeys (held ++ [key]) := by
  rw [keypressSlots, take_storeKeys storable,
    slotOf_store_of_room storable notHeld room]
  exact set_store_length room

/-- Pressing a new key with all slots taken overwrites every slot. -/
theorem keypressSlots_press_overflow (storable : StorableKeys held)
    (notHeld : key ∉ held) (full : held.length = hidKeyBufferSize) :
    keypressSlots (storeKeys held) key true =
      List.replicate hidKeyBufferSize hidErrorRollOver := by
  rw [keypressSlots, take_storeKeys storable,
    slotOf_store_of_full storable notHeld full]
  change (storeKeys held).map _ = _
  rw [List.map_const', length_store storable.length_le]

theorem keypressSlots_release_held (storable : StorableKeys held)
    (isHeld : key ∈ held) :
    keypressSlots (storeKeys held) key false = storeKeys (held.erase key) := by
  have stored : (storeKeys held).getD (held.idxOf key) 0 ≠ 0 := by
    rw [List.getD_eq_getElem?_getD, getElem?_store_idxOf isHeld]
    rintro rfl
    exact storable.blank_not_mem isHeld
  rw [keypressSlots, take_storeKeys storable,
    slotOf_store_of_mem storable isHeld]
  change (if _ then _ else _) = _
  rw [if_neg Bool.false_ne_true, if_pos stored,
    copyDown_store storable.length_le isHeld]

/-- Releasing a key that is not held finds a free slot or no slot; either way
nothing changes. -/
theorem keypressSlots_release_not_held (storable : StorableKeys held)
    (notHeld : key ∉ held) :
    keypressSlots (storeKeys held) key false = storeKeys held := by
  rw [keypressSlots, take_storeKeys storable]
  rcases Nat.lt_or_eq_of_le storable.length_le with room | full
  · rw [slotOf_store_of_room storable notHeld room]
    have free : (storeKeys held).getD held.length 0 = 0 := by
      rw [List.getD_eq_getElem?_getD, getElem?_store_length room]
      rfl
    change (if _ then _ else _) = _
    rw [if_neg Bool.false_ne_true, if_neg (not_not_intro free)]
  · rw [slotOf_store_of_full storable notHeld full]
    rfl

/-- Pressing the code zero, which marks a free slot, stores nothing. -/
theorem keypressSlots_press_zero (storable : StorableKeys held)
    (room : held.length < hidKeyBufferSize) :
    keypressSlots (storeKeys held) 0 true = storeKeys held := by
  rw [keypressSlots, take_storeKeys storable,
    slotOf_store_of_room storable storable.blank_not_mem room]
  exact set_store_length_blank room

/-- The slot loop leaves an error roll over, or a list with at most the pressed
key added and without the released key. -/
theorem keypressSlots_cases (storable : StorableKeys held) (key : UInt8)
    (press : Bool) :
    keypressSlots (storeKeys held) key press =
        List.replicate hidKeyBufferSize hidErrorRollOver ∧ press = true ∨
      ∃ after, StorableKeys after ∧
        keypressSlots (storeKeys held) key press = storeKeys after ∧
        (∀ other ∈ after, other ∈ held ∨ press = true ∧ other = key) ∧
        (press = false → key ∉ after) := by
  by_cases isHeld : key ∈ held
  · right
    cases press with
    | true =>
        exact ⟨held, storable, keypressSlots_press_held storable isHeld,
          fun _ => Or.inl, nofun⟩
    | false =>
        exact ⟨held.erase key, storable.erase,
          keypressSlots_release_held storable isHeld,
          fun _ member => Or.inl (List.mem_of_mem_erase member),
          fun _ => storable.nodup.not_mem_erase⟩
  · cases press with
    | false =>
        exact Or.inr ⟨held, storable,
          keypressSlots_release_not_held storable isHeld, fun _ => Or.inl,
          fun _ => isHeld⟩
    | true =>
        rcases Nat.lt_or_eq_of_le storable.length_le with room | full
        · right
          by_cases zero : key = 0
          · subst zero
            exact ⟨held, storable, keypressSlots_press_zero storable room,
              fun _ => Or.inl, nofun⟩
          · refine ⟨held ++ [key], storable.append room zero isHeld,
              keypressSlots_press_new storable isHeld room, ?_, nofun⟩
            intro other member
            simpa using member
        · exact Or.inl
            ⟨keypressSlots_press_overflow storable isHeld full, rfl⟩

/-- The buffer holds distinct nonzero keys in its first slots. -/
def StoresKeys (keys : List UInt8) : Prop :=
  ∃ held, StorableKeys held ∧ keys = storeKeys held

theorem storesKeys_initial : StoresKeys ({} : KeysDownState).keys :=
  ⟨[], Storable.nil, rfl⟩

theorem exists_held_of_clearedOnRollOver (storable : StorableKeys held)
    (modifier : UInt8) :
    ∃ after, StorableKeys after ∧
      (clearedOnRollOver modifier (storeKeys held)).keys = storeKeys after ∧
      ∀ other ∈ after, other ∈ held := by
  unfold clearedOnRollOver
  split_ifs with rolledOver
  · refine ⟨[], Storable.nil, ?_, nofun⟩
    rw [List.map_const', length_store storable.length_le]
    rfl
  · exact ⟨held, storable, rfl, fun _ member => member⟩

/-- After `keypressReport` a nonzero key is held only if it was held before or
has just been pressed, and not if it has just been released. -/
theorem exists_held_of_keypressReport (storable : StorableKeys held)
    {tracked : KeysDownState} (stored : tracked.keys = storeKeys held)
    (key : UInt8) (press : Bool) (write : HidWrite) :
    ∃ after, StorableKeys after ∧
      (keypressReport tracked key press write).tracked.keys =
        storeKeys after ∧
      (∀ other ∈ after,
        other ∈ held ∨ press = true ∧ ¬ IsModifier key ∧ other = key) ∧
      (press = false → ¬ IsModifier key → key ∉ after) := by
  cases lookup : modifierMask key with
  | some mask =>
      rw [keypressReport_tracked_of_modifier lookup, stored]
      obtain ⟨after, afterStorable, after_eq, fromHeld⟩ :=
        exists_held_of_clearedOnRollOver storable
          (if press then tracked.modifier ||| mask
            else tracked.modifier &&& ~~~mask)
      refine ⟨after, afterStorable, after_eq,
        fun other member => Or.inl (fromHeld other member), ?_⟩
      intro _ notModifier
      simp [IsModifier, lookup] at notModifier
  | none =>
      have notModifier : ¬ IsModifier key := by simp [IsModifier, lookup]
      rw [keypressReport_tracked_of_not_modifier lookup, stored]
      rcases keypressSlots_cases storable key press with
        ⟨rollOver, pressed⟩ | ⟨slots, slotsStorable, slots_eq, fromHeld, released⟩
      · rw [rollOver]
        refine ⟨[], Storable.nil, rfl, nofun, ?_⟩
        rw [pressed]
        exact nofun
      · rw [slots_eq]
        obtain ⟨after, afterStorable, after_eq, fromSlots⟩ :=
          exists_held_of_clearedOnRollOver slotsStorable tracked.modifier
        refine ⟨after, afterStorable, after_eq, ?_, ?_⟩
        · intro other member
          rcases fromHeld other (fromSlots other member) with old | ⟨pressed, new⟩
          · exact Or.inl old
          · exact Or.inr ⟨pressed, notModifier, new⟩
        · intro isRelease _ member
          exact released isRelease (fromSlots key member)

end StoredKeys

end UsbGadget

end JetKvm
