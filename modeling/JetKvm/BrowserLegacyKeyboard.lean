import JetKvm.LabelledRuns
import JetKvm.UsbKeyboardKeysDown

/-!
# Legacy key handling in the browser

Translation of the path `ui/src/hooks/useKeyboard.ts` takes for devices without
the key press report: the browser tracks the keyboard itself, with the logic of
`keypressReport`, and sends full keyboard reports.

The keys are a JavaScript array, changed in place.  A reset stores the array of
the constant `MACRO_RESET_KEYBOARD_STATE` itself, so from then on key events
write into the constant.  After a roll over the browser resets the modifier as
well, while the device keeps it.
-/

namespace JetKvm

namespace BrowserKeyboard

open LabelledRuns UsbGadget

namespace modifiers

def controlLeft : UInt8 := 0x01
def controlRight : UInt8 := 0x10
def shiftLeft : UInt8 := 0x02
def shiftRight : UInt8 := 0x20
def altLeft : UInt8 := 0x04
def altRight : UInt8 := 0x40
def metaLeft : UInt8 := 0x08
def metaRight : UInt8 := 0x80

end modifiers

/-- `hidKeyToModifierMask` -/
def hidKeyToModifierMask : List (UInt8 × UInt8) :=
  [(0xe0, modifiers.controlLeft), (0xe1, modifiers.shiftLeft),
    (0xe2, modifiers.altLeft), (0xe3, modifiers.metaLeft),
    (0xe4, modifiers.controlRight), (0xe5, modifiers.shiftRight),
    (0xe6, modifiers.altRight), (0xe7, modifiers.metaRight)]

/-- `simulateDeviceSideKeyHandlingForLegacyDevices`: the new state, whose keys
are what the array of the old one now holds. -/
def simulateDeviceSideKeyHandlingForLegacyDevices (state : KeysDownState)
    (key : UInt8) (press : Bool) : KeysDownState :=
  let mask := (hidKeyToModifierMask.lookup key).getD 0
  if mask ≠ 0 then
    { state with
      modifier :=
        if press then state.modifier ||| mask else state.modifier &&& ~~~mask }
  else
    match state.keys.findIdx? fun slot => slot == key || slot == 0 with
    | some i =>
        if press then { state with keys := state.keys.set i key }
        else if state.keys.getD i 0 ≠ 0 then
          { state with keys := state.keys.eraseIdx i ++ [0] }
        else state
    | none =>
        if press then
          { state with keys := List.replicate hidKeyBufferSize hidErrorRollOver }
        else state

/-- The store and the array of `MACRO_RESET_KEYBOARD_STATE`.  The store refers
to an array of its own, or to that one. -/
structure Store where
  modifier : UInt8
  ownKeys : List UInt8
  resetKeys : List UInt8
  holdsResetKeys : Bool
  deriving DecidableEq, Repr

namespace Store

/-- The state the store shows. -/
def keysDownState (store : Store) : KeysDownState :=
  ⟨store.modifier, if store.holdsResetKeys then store.resetKeys else store.ownKeys⟩

/-- Changes the array the store refers to. -/
def writeKeys (store : Store) (keys : List UInt8) : Store :=
  if store.holdsResetKeys then { store with resetKeys := keys }
  else { store with ownKeys := keys }

/-- The response of `handleLegacyKeyboardReport`: the report is stored. -/
def setModifier (store : Store) (modifier : UInt8) : Store :=
  { store with modifier }

/-- `resetKeyboardState`, once its report is answered. -/
def resetKeyboardState (store : Store) : Store :=
  { store with modifier := 0, holdsResetKeys := true }

theorem keysDownState_setModifier_writeKeys (store : Store)
    (state : KeysDownState) :
    ((store.writeKeys state.keys).setModifier state.modifier).keysDownState =
      state := by
  obtain ⟨modifier, ownKeys, resetKeys, holds⟩ := store
  cases holds <;> rfl

theorem resetKeys_writeKeys (store : Store) (keys : List UInt8) :
    (store.writeKeys keys).resetKeys =
      if store.holdsResetKeys then keys else store.resetKeys := by
  unfold writeKeys
  split_ifs <;> rfl

theorem holdsResetKeys_writeKeys (store : Store) (keys : List UInt8) :
    (store.writeKeys keys).holdsResetKeys = store.holdsResetKeys := by
  unfold writeKeys
  split_ifs <;> rfl

/-- All keys up, in the store and in the constant. -/
def allUp (holdsResetKeys : Bool) : Store where
  modifier := 0
  ownKeys := List.replicate hidKeyBufferSize 0
  resetKeys := List.replicate hidKeyBufferSize 0
  holdsResetKeys

end Store

/-- The legacy branch of `handleKeyPress`: the store once every report is
answered, and the reports in the order they are sent in. -/
def handleKeyPress (store : Store) (key : UInt8) (press : Bool) :
    Store × List KeysDownState :=
  if key = 0 then (store, [])
  else
    let downState :=
      simulateDeviceSideKeyHandlingForLegacyDevices store.keysDownState key press
    let reported :=
      (store.writeKeys downState.keys).setModifier downState.modifier
    if downState.keys.head? = some hidErrorRollOver then
      let reset := reported.resetKeyboardState
      (reset, [downState, reset.keysDownState])
    else (reported, [downState])

/-- An event of a mapped key, and how the write of the report ends on the
device. -/
structure KeyEvent where
  key : UInt8
  press : Bool
  write : HidWrite
  mapped : key ≠ 0

/-- The browser's store beside the state a device tracks. -/
structure Trackers where
  browser : Store
  device : KeysDownState
  deriving DecidableEq, Repr

def initial (holdsResetKeys : Bool) : Trackers :=
  ⟨Store.allUp holdsResetKeys, {}⟩

/-- Both sides handle the event. -/
def step (trackers : Trackers) (event : KeyEvent) : Option Trackers :=
  some
    { browser := (handleKeyPress trackers.browser event.key event.press).1
      device :=
        (keypressReport trackers.device event.key event.press event.write).tracked }

/-- Both sides track the same modifier and keys. -/
def InSync (trackers : Trackers) : Prop :=
  trackers.browser.keysDownState = trackers.device

/-- An event that overflows the buffer, or that puts the code of the overflow
into its first slot. -/
def RollsOver (keys : List UInt8) (key : UInt8) (press : Bool) : Prop :=
  ¬ IsModifier key ∧
    (press = true ∧
        (key ∉ keys ∧ 0 ∉ keys ∨
          key = hidErrorRollOver ∧ keys.head? = some 0) ∨
      press = false ∧ keys.head? = some key ∧
        keys[1]? = some hidErrorRollOver)

/-- What a roll over needs for both sides to end it alike: no modifier to keep,
and a reset array of zeros, which it is while the store does not refer to it. -/
def ResetsAlike (trackers : Trackers) (event : KeyEvent) : Prop :=
  RollsOver trackers.device.keys event.key event.press →
    trackers.device.modifier = 0 ∧
      trackers.browser.holdsResetKeys = false

/-! ## One event -/

section Event

variable {state : KeysDownState} {key : UInt8}

theorem simulate_of_modifier {mask : UInt8}
    (lookup : modifierMask key = some mask) (press : Bool) :
    simulateDeviceSideKeyHandlingForLegacyDevices state key press =
      { state with
        modifier :=
          if press then state.modifier ||| mask
          else state.modifier &&& ~~~mask } := by
  have found : hidKeyToModifierMask.lookup key = some mask := lookup
  have proper : mask ≠ 0 := by
    have everyMask :
        keyCodeToMaskMap.all (fun entry => entry.2 ≠ 0) = true := by decide
    obtain ⟨before, after, split, -⟩ := List.lookup_eq_some_iff.mp lookup
    have member : (key, mask) ∈ keyCodeToMaskMap := by simp [split]
    simpa using List.all_eq_true.mp everyMask (key, mask) member
  simp [simulateDeviceSideKeyHandlingForLegacyDevices, found, proper]

/-- The two slot loops agree on a buffer of six slots. -/
theorem simulate_of_not_modifier
    (full : state.keys.length = hidKeyBufferSize)
    (notModifier : modifierMask key = none) (press : Bool) :
    simulateDeviceSideKeyHandlingForLegacyDevices state key press =
      { state with keys := keypressSlots state.keys key press } := by
  have notFound : hidKeyToModifierMask.lookup key = none := notModifier
  have whole : state.keys.take hidKeyBufferSize = state.keys := by
    rw [← full, List.take_length]
  rw [keypressSlots, whole, PaddedBuffer.slotOf]
  simp only [simulateDeviceSideKeyHandlingForLegacyDevices, notFound,
    Option.getD_none, ne_eq, not_true_eq_false, if_false]
  cases slot : state.keys.findIdx? fun slot => slot == key || slot == 0 with
  | none =>
      cases press with
      | true => simp [← full, List.map_const']
      | false => simp
  | some i =>
      have inside : i < state.keys.length := by
        exact (List.findIdx?_eq_some_iff_findIdx_eq.mp slot).1
      have removed := @PaddedBuffer.copyDown_set_last _ _ _ (0 : UInt8) inside
      rw [full] at removed
      cases press with
      | true => simp
      | false =>
          simp only [Bool.false_eq_true, if_false, removed]
          split <;> rfl

/-- The device tracks what the browser computes, with a roll over cleared. -/
theorem keypressReport_tracked_eq
    (full : state.keys.length = hidKeyBufferSize) (press : Bool)
    (write : HidWrite) :
    (keypressReport state key press write).tracked =
      clearedOnRollOver
        (simulateDeviceSideKeyHandlingForLegacyDevices state key press).modifier
        (simulateDeviceSideKeyHandlingForLegacyDevices state key press).keys := by
  cases lookup : modifierMask key with
  | some mask =>
      rw [keypressReport_tracked_of_modifier lookup, simulate_of_modifier lookup]
  | none =>
      rw [keypressReport_tracked_of_not_modifier lookup,
        simulate_of_not_modifier full lookup]

theorem length_simulate (full : state.keys.length = hidKeyBufferSize)
    (key : UInt8) (press : Bool) :
    (simulateDeviceSideKeyHandlingForLegacyDevices state key press).keys.length =
      hidKeyBufferSize := by
  cases lookup : modifierMask key with
  | some mask =>
      rw [simulate_of_modifier lookup]
      exact full
  | none =>
      rw [simulate_of_not_modifier full lookup]
      exact length_keypressSlots full key press

/-- The events that leave an overflow in the first slot. -/
theorem keypressSlots_head?_eq_iff {keys : List UInt8}
    (full : keys.length = hidKeyBufferSize)
    (noRollOver : keys.head? ≠ some hidErrorRollOver)
    (mapped : key ≠ 0) (press : Bool) :
    (keypressSlots keys key press).head? = some hidErrorRollOver ↔
      press = true ∧
          (key ∉ keys ∧ 0 ∉ keys ∨
            key = hidErrorRollOver ∧ keys.head? = some 0) ∨
        press = false ∧ keys.head? = some key ∧
          keys[1]? = some hidErrorRollOver := by
  rcases slot_cases key keys with ⟨before, after, rfl, passed⟩ |
    ⟨before, after, rfl, passed, -⟩ | passed
  · -- the key is held
    rw [keypressSlots_of_key full passed]
    cases before with
    | nil =>
        obtain ⟨second, rest, rfl⟩ : ∃ second rest, after = second :: rest := by
          match after, full with
          | second :: rest, _ => exact ⟨second, rest, rfl⟩
        cases press with
        | true => simp_all
        | false => simp [mapped]
    | cons first rest =>
        obtain ⟨notKey, notFree⟩ := passed first (List.mem_cons_self ..)
        cases press with
        | true => simp_all
        | false => simp_all
  · -- the key is not held and some slot is free
    rw [keypressSlots_of_free full passed]
    cases before with
    | nil =>
        cases press with
        | true => simp
        | false => simp_all [eq_comm]
    | cons first rest =>
        obtain ⟨notKey, notFree⟩ := passed first (List.mem_cons_self ..)
        cases press with
        | true => simp_all
        | false => simp_all
  · -- the key is not held and no slot is free
    have absent : key ∉ keys ∧ 0 ∉ keys :=
      ⟨fun member => (passed key member).1 rfl,
        fun member => (passed 0 member).2 rfl⟩
    rw [keypressSlots_of_passed full passed]
    cases press with
    | true => exact iff_of_true rfl (Or.inl ⟨rfl, Or.inl absent⟩)
    | false =>
        refine iff_of_false noRollOver ?_
        rintro (⟨impossible, -⟩ | ⟨-, atHead, -⟩)
        · exact Bool.false_ne_true impossible
        · exact absent.1 (List.mem_of_mem_head? atHead)

/-- The events after which the browser finds an overflow in its first slot. -/
theorem simulate_head?_eq_iff (full : state.keys.length = hidKeyBufferSize)
    (noRollOver : state.keys.head? ≠ some hidErrorRollOver)
    (mapped : key ≠ 0) (press : Bool) :
    (simulateDeviceSideKeyHandlingForLegacyDevices state key press).keys.head? =
        some hidErrorRollOver ↔
      RollsOver state.keys key press := by
  cases lookup : modifierMask key with
  | some mask =>
      have isModifier : IsModifier key := by simp [IsModifier, lookup]
      rw [simulate_of_modifier lookup]
      exact iff_of_false noRollOver fun rolls => rolls.1 isModifier
  | none =>
      have notModifier : ¬ IsModifier key := by simp [IsModifier, lookup]
      rw [simulate_of_not_modifier full lookup, RollsOver,
        and_iff_right notModifier]
      exact keypressSlots_head?_eq_iff full noRollOver mapped press

theorem simulate_modifier_of_not_modifier
    (full : state.keys.length = hidKeyBufferSize)
    (notModifier : ¬ IsModifier key) (press : Bool) :
    (simulateDeviceSideKeyHandlingForLegacyDevices state key press).modifier =
      state.modifier := by
  have lookup : modifierMask key = none := by
    simpa [IsModifier] using notModifier
  rw [simulate_of_not_modifier full lookup]

/-- What the store shows after an event. -/
theorem handleKeyPress_keysDownState (store : Store) (mapped : key ≠ 0)
    (press : Bool) :
    let computed := simulateDeviceSideKeyHandlingForLegacyDevices
      store.keysDownState key press
    (handleKeyPress store key press).1.keysDownState =
      if computed.keys.head? = some hidErrorRollOver then
        ⟨0, if store.holdsResetKeys then computed.keys else store.resetKeys⟩
      else computed := by
  intro computed
  rw [handleKeyPress, if_neg mapped]
  change (if computed.keys.head? = some hidErrorRollOver then _
    else _ : Store × List KeysDownState).1.keysDownState = _
  split_ifs with rollsOver holds
  · change (⟨0, (store.writeKeys computed.keys).resetKeys⟩ : KeysDownState) = _
    rw [store.resetKeys_writeKeys, if_pos holds]
  · change (⟨0, (store.writeKeys computed.keys).resetKeys⟩ : KeysDownState) = _
    rw [store.resetKeys_writeKeys, if_neg holds]
  · exact store.keysDownState_setModifier_writeKeys computed

/-- While the store does not refer to the constant's array, nothing writes into
it. -/
theorem handleKeyPress_resetKeys {store : Store} {press : Bool}
    (own : (handleKeyPress store key press).1.holdsResetKeys = false) :
    store.holdsResetKeys = false ∧
      (handleKeyPress store key press).1.resetKeys = store.resetKeys := by
  unfold handleKeyPress at own ⊢
  simp only at own ⊢
  split_ifs at own ⊢ with zero rollsOver
  · exact ⟨own, rfl⟩
  · simp [Store.resetKeyboardState] at own
  · rw [Store.setModifier, Store.holdsResetKeys_writeKeys] at own
    refine ⟨own, ?_⟩
    rw [Store.setModifier, Store.resetKeys_writeKeys, own]
    rfl

end Event

/-! ## Runs of events -/

/-- What holds whether or not the two sides agree. -/
structure TrackersInvariant (trackers : Trackers) : Prop where
  full : trackers.device.keys.length = hidKeyBufferSize
  noRollOver : trackers.device.keys.head? ≠ some hidErrorRollOver
  resetKeys_zero : trackers.browser.holdsResetKeys = false →
    trackers.browser.resetKeys = List.replicate hidKeyBufferSize 0

theorem trackersInvariant_initial (holdsResetKeys : Bool) :
    TrackersInvariant (initial holdsResetKeys) where
  full := rfl
  noRollOver := by simp [initial, hidKeyBufferSize, hidErrorRollOver]
  resetKeys_zero := fun _ => rfl

theorem inSync_initial (holdsResetKeys : Bool) :
    InSync (initial holdsResetKeys) := by
  cases holdsResetKeys <;> rfl

section Step

variable {trackers next : Trackers} {event : KeyEvent}

theorem TrackersInvariant.after (invariant : TrackersInvariant trackers)
    (taken : step trackers event = some next) : TrackersInvariant next := by
  obtain rfl := Option.some.inj taken
  refine ⟨?_, ?_, ?_⟩
  · rw [keypressReport_tracked_eq invariant.full, length_clearedOnRollOver]
    exact length_simulate invariant.full event.key event.press
  · rw [keypressReport_tracked_eq invariant.full]
    exact clearedOnRollOver_head?_ne _ _
  · intro own
    obtain ⟨ownBefore, unchanged⟩ := handleKeyPress_resetKeys own
    exact unchanged.trans (invariant.resetKeys_zero ownBefore)

/-- An event keeps the two sides in sync exactly when, if it rolls over, they
end the roll over alike. -/
theorem TrackersInvariant.inSync_iff (invariant : TrackersInvariant trackers)
    (inSync : InSync trackers) (taken : step trackers event = some next) :
    InSync next ↔ ResetsAlike trackers event := by
  obtain rfl := Option.some.inj taken
  have rollsOver_iff := simulate_head?_eq_iff invariant.full
    invariant.noRollOver event.mapped event.press
  have computedLength :=
    length_simulate invariant.full event.key event.press
  have sameState : trackers.browser.keysDownState = trackers.device := inSync
  unfold InSync ResetsAlike
  rw [handleKeyPress_keysDownState _ event.mapped,
    keypressReport_tracked_eq invariant.full, ← rollsOver_iff, sameState]
  -- an event that rolls over is not one of a modifier
  have sameModifier := fun rolls : RollsOver trackers.device.keys event.key
      event.press =>
    simulate_modifier_of_not_modifier invariant.full rolls.1 event.press
  rw [← rollsOver_iff] at sameModifier
  generalize simulateDeviceSideKeyHandlingForLegacyDevices trackers.device
    event.key event.press = computed at *
  by_cases rolledOver : computed.keys.head? = some hidErrorRollOver
  · have cleared : clearedOnRollOver computed.modifier computed.keys =
        ⟨trackers.device.modifier, List.replicate hidKeyBufferSize 0⟩ := by
      rw [clearedOnRollOver, if_pos rolledOver, List.map_const',
        computedLength, sameModifier rolledOver]
    have notZero : computed.keys ≠ List.replicate hidKeyBufferSize 0 := by
      intro zero
      rw [zero] at rolledOver
      simp [hidKeyBufferSize, hidErrorRollOver] at rolledOver
    rw [if_pos rolledOver, cleared]
    simp only [rolledOver, forall_true_left, KeysDownState.mk.injEq]
    cases own : trackers.browser.holdsResetKeys with
    | true => simp [notZero]
    | false => simp [invariant.resetKeys_zero own, eq_comm]
  · rw [if_neg rolledOver, clearedOnRollOver_of_head?_ne rolledOver]
    exact iff_of_true rfl fun rolls => absurd rolls rolledOver

end Step

/-- The browser and the device track the same state after each event of a
history exactly when every event that rolls the buffer over comes with no
modifier held and with the store holding an array of its own. -/
theorem inSync_iff_resetsAlike (holdsResetKeys : Bool)
    (events : List KeyEvent) :
    AllStates step InSync (initial holdsResetKeys) events ↔
      AllSteps step ResetsAlike (initial holdsResetKeys) events :=
  allStates_iff_allSteps_of_invariant TrackersInvariant.after
    TrackersInvariant.inSync_iff (trackersInvariant_initial holdsResetKeys)
    (inSync_initial holdsResetKeys) events

/-- The left shift key and seven letters are pressed. -/
def sevenLettersShifted : List KeyEvent :=
  [⟨leftShift, true, .delivered, by decide⟩, ⟨4, true, .delivered, by decide⟩,
    ⟨5, true, .delivered, by decide⟩, ⟨6, true, .delivered, by decide⟩,
    ⟨7, true, .delivered, by decide⟩, ⟨8, true, .delivered, by decide⟩,
    ⟨9, true, .delivered, by decide⟩, ⟨10, true, .delivered, by decide⟩]

/-- The seventh letter rolls over: the device still has shift held, the browser
no modifier. -/
theorem sevenLettersShifted_not_inSync :
    ¬ AllStates step InSync (initial false) sevenLettersShifted := by
  intro everywhere
  have last := @AllStates.last Trackers KeyEvent step InSync (initial false)
    _ sevenLettersShifted everywhere rfl
  revert last
  unfold InSync
  decide

end BrowserKeyboard

end JetKvm
