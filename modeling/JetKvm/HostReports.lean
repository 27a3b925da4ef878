import JetKvm.GamepadIsolation
import JetKvm.HidDescriptor
import JetKvm.HidRpcRoundTrip
import JetKvm.UsbGadgetConfig
import JetKvm.UsbKeyboardHeldKeys
import JetKvm.UsbKeyboardHostAgreement

/-!
# What the host reads in the reports

The report descriptors of `internal/usbgadget` say where a host finds the keys,
buttons and axes in the reports that the gadget writes beside them.
-/

namespace JetKvm

namespace HostReports

open HidDescriptor UsbGadget

/-! ## The layouts -/

namespace Keyboard

def modifiers : Field where
  count := 8
  usagePage := 7
  usages := [(0xe0, 0xe7)]

def reserved : Field where
  offset := 8
  size := 8
  count := 1
  flags := 3
  usagePage := 7

def leds : Field where
  kind := .output
  count := 5
  usagePage := 8
  usages := [(1, 5)]

def ledPadding : Field where
  kind := .output
  offset := 5
  size := 3
  count := 1
  flags := 3
  usagePage := 8

def keys : Field where
  offset := 16
  size := 8
  count := 6
  logicalMaximum := 255
  flags := 0
  usagePage := 7
  usages := [(0, 255)]

theorem parse_desc :
    parse keyboardReportDesc =
      some [modifiers, reserved, leds, ledPadding, keys] := by
  decide

end Keyboard

namespace Pad

def axes : Field where
  size := 8
  count := 6
  logicalMaximum := 255
  usagePage := 1
  usages :=
    [(0x30, 0x30), (0x31, 0x31), (0x32, 0x32), (0x35, 0x35), (0x33, 0x33),
      (0x34, 0x34)]

def buttons : Field where
  offset := 48
  count := 17
  usagePage := 9
  usages := [(1, 17)]

def padding : Field where
  offset := 65
  count := 7
  flags := 3
  usagePage := 9

theorem parse_desc :
    parse gamepadReportDesc = some [axes, buttons, padding] := by
  decide

end Pad

/-! ## The keyboard -/

/-- Bit `index` of a byte, as the value of a control -/
def bitOf (byte : UInt8) (index : Nat) : Int :=
  (byte.toNat / 2 ^ index % 2 : Nat)

def keyUsage (key : UInt8) : Usage :=
  ⟨7, key.toNat⟩

theorem bitOf_ne_zero_iff {byte : UInt8} {index : Nat} :
    bitOf byte index ≠ 0 ↔ byte.toBitVec.getLsbD index = true := by
  rw [BitVec.getLsbD, Nat.testBit_eq_decide_div_mod_eq, decide_eq_true_iff,
    bitOf]
  change _ ↔ byte.toNat / 2 ^ index % 2 = 1
  omega

/-- The controls that have the bits of a byte, from the lowest -/
def bitControls (page first count : Nat) (byte : UInt8) : List (Usage × Int) :=
  (List.range count).map fun index => (⟨page, first + index⟩, bitOf byte index)

/-- A field in the first bits of a report -/
theorem controls_firstByte {field : Field} {first : Nat} (byte : UInt8)
    (payload : List UInt8) (data : field.constant = false ∧ field.variable)
    (nonnegative : 0 ≤ field.logicalMinimum) (single : field.size = 1)
    (range : field.usages = [(first, first + field.count - 1)])
    (front : field.offset = 0) (few : field.count ≤ 8) :
    field.controls (byte :: payload) =
      bitControls field.usagePage first field.count byte := by
  rw [Field.controls_bits first data nonnegative single range, front]
  apply List.map_congr_left
  intro index member
  have inside := List.mem_range.mp member
  have bit := bitsAt_byte (byte :: payload) 0 index 1 (by omega)
  rw [Nat.mul_zero] at bit
  rw [bit]
  rfl

theorem exists_mem_bitControls_iff {page first count : Nat} {byte : UInt8}
    {usage : Usage} :
    (∃ value, (usage, value) ∈ bitControls page first count byte ∧ value ≠ 0) ↔
      ∃ index < count, usage = ⟨page, first + index⟩ ∧
        byte.toBitVec.getLsbD index = true := by
  simp only [bitControls, List.mem_map, List.mem_range, Prod.mk.injEq]
  constructor
  · rintro ⟨_, ⟨index, inside, rfl, rfl⟩, set⟩
    exact ⟨index, inside, rfl, bitOf_ne_zero_iff.mp set⟩
  · rintro ⟨index, inside, rfl, set⟩
    exact ⟨_, ⟨index, inside, rfl, rfl⟩, bitOf_ne_zero_iff.mpr set⟩

namespace Keyboard

variable {modifier : UInt8} {keys : List UInt8}

/-- What the host makes of a report of the keyboard -/
def reading (modifier : UInt8) (keys : List UInt8) : Reading where
  controls := bitControls 7 0xe0 8 modifier
  selected := (keys.filter (· ≠ 0)).map keyUsage

theorem selects_key (key : UInt8) :
    Keyboard.keys.selects key.toNat =
      if key = 0 then none else some (keyUsage key) := by
  have small := key.toNat_lt
  have zero : key.toNat = 0 ↔ key = 0 := by
    rw [← UInt8.toNat_inj]
    rfl
  have inside : Keyboard.keys.logicalMinimum ≤ (key.toNat : Int) ∧
      (key.toNat : Int) ≤ Keyboard.keys.logicalMaximum := by
    simp only [Keyboard.keys]
    omega
  have named : usageAt Keyboard.keys.usages key.toNat = some key.toNat := by
    simp only [Keyboard.keys, usageAt]
    rw [if_pos (by omega), Nat.zero_add]
  have start : ((key.toNat : Int) - Keyboard.keys.logicalMinimum).toNat =
      key.toNat := by
    simp [Keyboard.keys]
  rw [Field.selects, if_pos inside, start, named]
  by_cases free : key = 0
  · simp [free]
  · simp [free, zero, keyUsage, Keyboard.keys]

theorem selected_keys (six : keys.length = hidKeyBufferSize) (first second : UInt8) :
    Keyboard.keys.selected (first :: second :: keys) =
      (keys.filter (· ≠ 0)).map keyUsage := by
  have counted : Keyboard.keys.count = keys.length := six.symm
  have value (index : Nat) :
      Keyboard.keys.value (first :: second :: keys) index =
        (keys.getD index 0).toNat := by
    rw [Field.value_byte (by decide) rfl (index + 2) (by
      simp only [Keyboard.keys]
      omega)]
    rfl
  have whole : (List.range keys.length).map (fun index => keys.getD index 0) =
      keys := by
    apply List.ext_getElem
    · simp
    · intro index left right
      simp [right]
  calc
    Keyboard.keys.selected (first :: second :: keys) =
        ((List.range keys.length).map fun index => keys.getD index 0).filterMap
          fun key => if key = 0 then none else some (keyUsage key) := by
      rw [Field.selected, if_pos (by decide), counted, List.filterMap_map]
      simp only [value, selects_key]
      rfl
    _ = (keys.filter (· ≠ 0)).map keyUsage := by
      rw [whole, ← List.filterMap_eq_map, List.filterMap_filter]
      apply List.filterMap_congr
      intro key _
      by_cases free : key = 0 <;> simp [free]

/-- The host reads the modifiers and the keys of a report. -/
theorem hostReads_input (modifier : UInt8) (six : keys.length = hidKeyBufferSize) :
    hostReads keyboardReportDesc .input (modifier :: 0x00 :: keys) =
      some (reading modifier keys) := by
  have made : fieldsOf [modifiers, reserved, leds, ledPadding, Keyboard.keys]
      .input 0 = [modifiers, reserved, Keyboard.keys] := by
    decide
  have pressed : modifiers.controls (modifier :: 0x00 :: keys) =
      bitControls 7 0xe0 8 modifier :=
    controls_firstByte modifier _ (by decide) (by decide) rfl rfl rfl (by decide)
  rw [hostReads_withoutIds parse_desc (by decide) made (by
    rw [List.length_cons, List.length_cons, six]
    decide)]
  simp (disch := decide) only [readingOf, List.flatMap_cons,
    List.flatMap_nil, List.append_nil, List.nil_append, pressed,
    selected_keys six, Field.controls_of_constant, Field.selected_of_constant,
    Field.controls_of_array, Field.selected_of_variable, reading]

/-- The keys that are on in a report -/
theorem on_reading_iff (key : UInt8) :
    (reading modifier keys).On (keyUsage key) ↔
      (∃ mask, modifierMask key = some mask ∧ modifier &&& mask ≠ 0) ∨
        key ≠ 0 ∧ key ∈ keys := by
  have selected : keyUsage key ∈ (reading modifier keys).selected ↔
      key ≠ 0 ∧ key ∈ keys := by
    simp only [reading, List.mem_map, List.mem_filter, decide_eq_true_eq,
      keyUsage, Usage.mk.injEq, true_and, UInt8.toNat_inj, exists_eq_right]
    exact and_comm
  have control : (∃ value, (keyUsage key, value) ∈
      (reading modifier keys).controls ∧ value ≠ 0) ↔
        ∃ mask, modifierMask key = some mask ∧ modifier &&& mask ≠ 0 := by
    rw [reading, exists_mem_bitControls_iff]
    simp only [keyUsage, Usage.mk.injEq, true_and]
    constructor
    · rintro ⟨bit, inside, code, set⟩
      obtain ⟨other, mask, lookup, single⟩ := exists_modifierMask_of_bit inside
      obtain ⟨otherBit, otherInside, otherSingle, otherCode⟩ :=
        modifierMask_bit lookup
      have sameBit : otherBit = bit := by
        have powers := congrArg BitVec.toNat (otherSingle.symm.trans single)
        rw [BitVec.toNat_twoPow_of_lt otherInside,
          BitVec.toNat_twoPow_of_lt inside] at powers
        exact Nat.pow_right_injective (Nat.le_refl 2) powers
      obtain rfl : other = key := by
        rw [← UInt8.toNat_inj, otherCode, sameBit, code]
        rfl
      exact ⟨mask, lookup, (and_mask_ne_zero_iff inside single).mpr set⟩
    · rintro ⟨mask, lookup, set⟩
      obtain ⟨bit, inside, single, code⟩ := modifierMask_bit lookup
      exact ⟨bit, inside, code, (and_mask_ne_zero_iff inside single).mp set⟩
  rw [Reading.On, control, selected]

/-- A modifier or a key that the keyboard holds is on in the report that is
made of the state. -/
theorem on_iff_down {keyboard : TrackedKeyboard} {state : KeysDownState}
    (represents : Represents keyboard state) (key : UInt8) :
    (reading state.modifier state.keys).On (keyUsage key) ↔
      keyboard.Down key := by
  have held : key ≠ 0 ∧ key ∈ state.keys ↔ key ∈ keyboard.held := by
    rw [represents.keys_eq]
    constructor
    · rintro ⟨nonzero, member⟩
      exact (PaddedBuffer.mem_store_iff nonzero).mp member
    · intro member
      have nonzero := (represents.held_proper key member).1
      exact ⟨nonzero, (PaddedBuffer.mem_store_iff nonzero).mpr member⟩
  have down : (∃ mask, modifierMask key = some mask ∧
      state.modifier &&& mask ≠ 0) ↔ key ∈ keyboard.modifiers := by
    constructor
    · rintro ⟨mask, lookup, set⟩
      exact (represents.modifier_bit_iff lookup).mp set
    · intro set
      obtain ⟨mask, lookup⟩ :=
        isModifier_iff_exists_mask.mp (keyboard.modifiers_isModifier key set)
      exact ⟨mask, lookup, (represents.modifier_bit_iff lookup).mpr set⟩
  rw [on_reading_iff, held, down, HeldKeyboard.Down]

/-- A report that begins with the error code consists of it. -/
theorem keys_eq_of_rolledOver {keyboard : TrackedKeyboard} {state : KeysDownState}
    (represents : Represents keyboard state) {event : UInt8}
    (proper : event ≠ 0 ∧ event ≠ hidErrorRollOver) {press : Bool}
    (rolledOver : (keypressed state event press).keys.head? =
      some hidErrorRollOver) :
    (keypressed state event press).keys =
      List.replicate hidKeyBufferSize hidErrorRollOver := by
  have noneHeld := head?_storeKeys_ne represents.held_proper
  rw [← represents.keys_eq] at noneHeld
  cases lookup : modifierMask event with
  | some mask =>
      simp only [keypressed, lookup] at rolledOver
      exact absurd rolledOver noneHeld
  | none =>
      simp only [keypressed, lookup, represents.keys_eq] at rolledOver ⊢
      rcases keypressSlots_cases represents.storable event press with
        ⟨all, -⟩ | ⟨held, -, stored, only, -⟩
      · exact all
      · rw [stored] at rolledOver
        have clean : ∀ key ∈ held, key ≠ 0 ∧ key ≠ hidErrorRollOver := by
          intro other member
          rcases only other member with old | ⟨-, rfl⟩
          · exact represents.held_proper other old
          · exact proper
        exact absurd rolledOver (head?_storeKeys_ne clean)

/-- The report of a key event shows the keys that are held after it.  One that
overflows shows the error code six times, and the modifiers. -/
theorem on_keypressed_iff {keyboard : TrackedKeyboard} {state : KeysDownState}
    (represents : Represents keyboard state) {event : UInt8}
    (proper : event ≠ 0 ∧ event ≠ hidErrorRollOver) (press : Bool) {key : UInt8}
    (regular : key ≠ hidErrorRollOver) :
    (reading (keypressed state event press).modifier
        (keypressed state event press).keys).On (keyUsage key) ↔
      (keyboard.keypress event press).Down key := by
  have after := represents.keypress proper press .delivered
  rw [keypressReport_eq, writeAndUpdate_tracked] at after
  by_cases rolledOver : (keypressed state event press).keys.head? =
      some hidErrorRollOver
  · have overflows := keys_eq_of_rolledOver represents proper rolledOver
    have absent : key ∉ (keypressed state event press).keys := by
      rw [overflows, List.mem_replicate]
      rintro ⟨-, same⟩
      exact regular same
    have cleared : key ∉ (clearedOnRollOver
        (keypressed state event press).modifier
        (keypressed state event press).keys).keys ∨ key = 0 := by
      rw [clearedOnRollOver, if_pos rolledOver, List.map_const',
        List.mem_replicate]
      by_cases free : key = 0
      · exact .inr free
      · exact .inl fun zero => free zero.2
    rw [← on_iff_down after key, on_reading_iff, on_reading_iff]
    apply or_congr Iff.rfl
    constructor
    · rintro ⟨-, member⟩
      exact absurd member absent
    · rintro ⟨nonzero, member⟩
      rcases cleared with notThere | free
      · exact absurd member notThere
      · exact absurd free nonzero
  · rw [clearedOnRollOver_of_head?_ne rolledOver] at after
    exact on_iff_down after key

/-- Whatever a history of key events writes to the host, the host reads in it
the keys that are held after the last event. -/
theorem hostReads_held_keys (history : List Keypress) (call : Keypress)
    (proper : ∀ earlier ∈ history ++ [call], earlier.Proper)
    {report : List UInt8}
    (written : (call.report (trackedAfter history)).written = some report) :
    ∃ shown, hostReads keyboardReportDesc .input report = some shown ∧
      ∀ key ≠ hidErrorRollOver,
        (shown.On (keyUsage key) ↔
          (heldAfter (history ++ [call])).Down key) := by
  have represents := represents_after fun earlier member =>
    proper earlier (List.mem_append_left _ member)
  have callProper := proper call (List.mem_append_right _ List.mem_cons_self)
  have full : (trackedAfter history).keys.length = hidKeyBufferSize := by
    rw [represents.keys_eq]
    exact PaddedBuffer.length_store (heldAfter history).length_le
  have six := length_keypressed full call.key call.press
  rw [Keypress.report, keypressReport_eq] at written
  have bytes := written_of_writeAndUpdate written
  rw [List.take_of_length_le (Nat.le_of_eq six)] at bytes
  subst bytes
  refine ⟨_, hostReads_input _ six, ?_⟩
  intro key regular
  rw [heldAfter_append_singleton]
  exact on_keypressed_iff represents callProper call.press regular

theorem hostReads_held_keys_shift :
    ∃ shown, hostReads keyboardReportDesc .input [0x02, 0, 0x04, 0, 0, 0, 0, 0] =
        some shown ∧
      ∀ key ≠ hidErrorRollOver,
        (shown.On (keyUsage key) ↔
          (heldAfter ([⟨0x04, true, .delivered⟩] ++ [⟨0xe1, true, .delivered⟩])).Down
            key) :=
  hostReads_held_keys [⟨0x04, true, .delivered⟩] ⟨0xe1, true, .delivered⟩
    (by decide) (by decide)

/-- The five LEDs of an output report -/
theorem hostReads_output (b : UInt8) :
    hostReads keyboardReportDesc .output [b] =
      some { controls := bitControls 8 1 5 b } := by
  have made : fieldsOf [modifiers, reserved, leds, ledPadding, Keyboard.keys]
      .output 0 = [leds, ledPadding] := by
    decide
  have lit : leds.controls [b] = bitControls 8 1 5 b :=
    controls_firstByte b [] (by decide) (by decide) rfl rfl rfl (by decide)
  rw [hostReads_withoutIds parse_desc (by decide) made rfl]
  simp (disch := decide) only [readingOf, List.flatMap_cons,
    List.flatMap_nil, List.append_nil, lit, Field.controls_of_constant,
    Field.selected_of_constant, Field.selected_of_variable]

/-- The page of the LEDs -/
def ledUsage (id : Nat) : Usage :=
  ⟨8, id⟩

theorem on_leds_iff (b mask : UInt8) (index : Nat) (inside : index < 5)
    (single : mask.toBitVec = BitVec.twoPow 8 index) :
    decide (b &&& mask ≠ 0) = true ↔
      Reading.On { controls := bitControls 8 1 5 b } (ledUsage (1 + index)) := by
  rw [decide_eq_true_iff, and_mask_ne_zero_iff (by omega) single, Reading.On,
    exists_mem_bitControls_iff]
  constructor
  · intro lit
    exact .inl ⟨index, inside, rfl, lit⟩
  · rintro (⟨other, -, same, lit⟩ | selected)
    · obtain rfl : index = other :=
        Nat.add_left_cancel (congrArg Usage.id same)
      exact lit
    · simp at selected

/-! ### The LEDs of a session -/

open HidRpc HidRpc.Browser

def validKeyboardLedMasks : UInt8 :=
  keyboardLedMaskNumLock ||| keyboardLedMaskCapsLock |||
    keyboardLedMaskScrollLock ||| keyboardLedMaskCompose |||
      keyboardLedMaskKana ||| keyboardLedMaskShift

def validLeds (state : UInt8) : Bool :=
  state &&& ~~~validKeyboardLedMasks = 0

/-- The state that is kept, and what the callback is called with -/
def updateKeyboardState (keyboardState state : UInt8) :
    UInt8 × Option KeyboardState :=
  if validLeds state = false then (keyboardState, none)
  else if keyboardState = state then (keyboardState, none)
  else (state, some (getKeyboardState state))

/-- What the output reports of a host leave, and the messages that the session
sends of them -/
def readReports (keyboardState : UInt8) : List UInt8 → UInt8 × List Message
  | [] => (keyboardState, [])
  | report :: reports =>
      let (next, change) := updateKeyboardState keyboardState report
      let (last, messages) := readReports next reports
      (last, (change.map newKeyboardLedMessage).toList ++ messages)

/-- What a browser that showed one state shows after the messages -/
def Shows (first : KeyboardLedState) :
    List Message → KeyboardLedState → Prop
  | [], shown => shown = first
  | message :: messages, shown =>
      ∃ next, BrowserDecodes message (.keyboardLedState next) ∧
        Shows next messages shown

def shownOf (keyboardState : UInt8) : KeyboardLedState :=
  .ofKeyboardState (getKeyboardState keyboardState)

/-- Reports with other bits and reports that change nothing make no message, and
the last valid one is kept and shown. -/
theorem readReports_eq (keyboardState : UInt8) (reports : List UInt8) :
    (readReports keyboardState reports).1 =
        (reports.filter validLeds).getLastD keyboardState ∧
      Shows (shownOf keyboardState) (readReports keyboardState reports).2
        (shownOf ((reports.filter validLeds).getLastD keyboardState)) := by
  induction reports generalizing keyboardState with
  | nil => exact ⟨rfl, rfl⟩
  | cons report reports ih =>
      simp only [readReports, updateKeyboardState]
      cases valid : validLeds report with
      | false =>
          rw [if_pos rfl, List.filter_cons_of_neg (by simp [valid])]
          exact ih keyboardState
      | true =>
          rw [if_neg Bool.true_eq_false.mp,
            List.filter_cons_of_pos valid, List.getLastD_cons]
          by_cases same : keyboardState = report
          · rw [if_pos same, ← same]
            exact ih keyboardState
          · rw [if_neg same]
            exact ⟨(ih report).1, shownOf report,
              keyboardState_round_trip report, (ih report).2⟩

/-- A browser that shows the LEDs of the state that the device has keeps showing
those that the host has put in its last valid report. -/
theorem leds_shown (keyboardState : UInt8) (reports : List UInt8) :
    ∃ lit shown,
      hostReads keyboardReportDesc .output
          [(reports.filter validLeds).getLastD keyboardState] = some lit ∧
      Shows (shownOf keyboardState) (readReports keyboardState reports).2 shown ∧
      (shown.numLock = true ↔ lit.On (ledUsage 1)) ∧
      (shown.capsLock = true ↔ lit.On (ledUsage 2)) ∧
      (shown.scrollLock = true ↔ lit.On (ledUsage 3)) ∧
      (shown.compose = true ↔ lit.On (ledUsage 4)) ∧
      (shown.kana = true ↔ lit.On (ledUsage 5)) :=
  ⟨_, _, hostReads_output _, (readReports_eq keyboardState reports).2,
    on_leds_iff _ _ 0 (by decide) (by decide),
    on_leds_iff _ _ 1 (by decide) (by decide),
    on_leds_iff _ _ 2 (by decide) (by decide),
    on_leds_iff _ _ 3 (by decide) (by decide),
    on_leds_iff _ _ 4 (by decide) (by decide)⟩

end Keyboard

/-! ## The gamepads -/

namespace Pad

open Gamepad.Isolation (Report)

def sticks (report : Report) : List (Usage × Int) :=
  [(⟨1, 0x30⟩, (report.leftStickX.toNat : Int)),
    (⟨1, 0x31⟩, (report.leftStickY.toNat : Int)),
    (⟨1, 0x32⟩, (report.rightStickX.toNat : Int)),
    (⟨1, 0x35⟩, (report.rightStickY.toNat : Int)),
    (⟨1, 0x33⟩, (report.leftTrigger.toNat : Int)),
    (⟨1, 0x34⟩, (report.rightTrigger.toNat : Int))]

/-- Button `index + 1` is bit `index`. -/
def pressed (report : Report) : List (Usage × Int) :=
  (List.range 17).map fun index =>
    (⟨9, 1 + index⟩, ((report.buttons.toNat / 2 ^ index % 2 : Nat) : Int))

theorem controls_axes (report : Report) :
    axes.controls report.bytes.toList = sticks report := by
  rw [Field.controls_listed [0x30, 0x31, 0x32, 0x35, 0x33, 0x34]
    (by decide) rfl rfl]
  have value (index : Nat) :
      axes.value report.bytes.toList index =
        (report.bytes.toList.getD index 0).toNat :=
    Field.value_byte (by decide) rfl index (by
      simp only [axes]
      omega)
  simp only [List.mapIdx_cons, List.mapIdx_nil, value]
  rfl

/-- The last three bytes of a report are the lower seventeen buttons. -/
theorem littleEndian_buttons (report : Report) :
    littleEndian (report.bytes.toList.drop 6) = report.buttons.toNat % 2 ^ 17 := by
  have masked (n : Nat) : n &&& 131071 = n % 2 ^ 17 ∧ n &&& 255 = n % 2 ^ 8 ∧
      n &&& 1 = n % 2 ^ 1 :=
    ⟨Nat.and_two_pow_sub_one_eq_mod n 17, Nat.and_two_pow_sub_one_eq_mod n 8,
      Nat.and_two_pow_sub_one_eq_mod n 1⟩
  have bytes : report.bytes.toList.drop 6 =
      [((report.buttons &&& 0x1FFFF) &&& 0xFF).toUInt8,
        (((report.buttons &&& 0x1FFFF) >>> 8) &&& 0xFF).toUInt8,
        (((report.buttons &&& 0x1FFFF) >>> 16) &&& 0x01).toUInt8] :=
    rfl
  simp only [bytes, littleEndian, UInt32.toUInt8_and, UInt32.toUInt8_ofNat,
    UInt8.toNat_and, UInt32.toNat_toUInt8, Nat.reducePow, UInt8.reduceToNat,
    masked, dvd_refl, Nat.mod_mod_of_dvd, UInt32.toNat_shiftRight,
    UInt32.toNat_and, UInt32.reduceToNat, Nat.reduceMod,
    Nat.shiftRight_eq_div_pow, pow_one, Nat.reduceDvd]
  omega

theorem controls_buttons (report : Report) :
    buttons.controls report.bytes.toList = pressed report := by
  rw [Field.controls_bits 1 (by decide) (by decide) rfl rfl]
  apply List.map_congr_left
  intro index member
  have bit := mod_div_mod report.buttons.toNat 1
    (show index + 1 ≤ 17 from List.mem_range.mp member)
  rw [show buttons.offset = 8 * 6 from rfl, bitsAt_drop, bitsAt,
    littleEndian_buttons, ← bit]
  rfl

theorem hostReads_report (report : Report) :
    hostReads gamepadReportDesc .input report.bytes.toList =
      some { controls := sticks report ++ pressed report } := by
  have made : fieldsOf [axes, buttons, padding] .input 0 =
      [axes, buttons, padding] := by
    decide
  rw [hostReads_withoutIds parse_desc (by decide) made (by
    rw [Vector.length_toList]
    decide)]
  simp (disch := decide) only [readingOf, List.flatMap_cons,
    List.flatMap_nil, List.append_nil, controls_axes, controls_buttons,
    Field.controls_of_constant, Field.selected_of_constant,
    Field.selected_of_variable]

/-- Whatever slot the report of a browser is for, the host reads the sticks and
the seventeen buttons of the browser there. -/
theorem hostReads_browser_report (slot padIndex : Fin Gamepad.maxGamepads)
    (lx ly rx ry lt rt : UInt8) (buttons : UInt32) (spare : List UInt8) :
    ∃ message bytes,
      HidRpc.onHidMessage false
          ⟨(HidRpc.Report.gamepad padIndex lx ly rx ry lt rt buttons).marshal,
            spare⟩ =
        .ok (.call (.gamepadReport message)) ∧
      Gamepad.Isolation.rpcGamepadReport ⟨true, true⟩ slot.val
          (Report.ofMessage message) = .ok (some (slot, bytes)) ∧
      hostReads gamepadReportDesc .input bytes.toList =
        some { controls :=
          sticks ⟨lx, ly, rx, ry, lt, rt, buttons⟩ ++
            pressed ⟨lx, ly, rx, ry, lt, rt, buttons⟩ } := by
  refine ⟨_, _, HidRpc.onHidMessage_marshal false _ spare, ?_,
    hostReads_report ⟨lx, ly, rx, ry, lt, rt, buttons⟩⟩
  simp [Gamepad.Isolation.rpcGamepadReport, Gamepad.Isolation.gamepadInputReport,
    Report.ofMessage]

end Pad

end HostReports

end JetKvm
