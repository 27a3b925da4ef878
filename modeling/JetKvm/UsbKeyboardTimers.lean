import JetKvm.UsbKeyboardHostAgreement

/-!
# Timers of keys that are up

`UpdateKeysDown` clears the slots of a roll over before `KeypressReport` looks
for one, in the slots that both share.  So a press that overflows the buffer
arms a timer too, and the timers of the keys that were cleared stay.
-/

namespace JetKvm

namespace UsbGadget

open LabelledRuns

namespace Hosted

/-- A key event, or the firing of a timer, one after the other -/
inductive KeyEvent where
  | keypressReport (key : UInt8) (press : Bool) (write : HidWrite)
  | performAutoRelease (key : UInt8) (write : HidWrite)
  deriving DecidableEq, Repr

/-- A timer fires as long as its entry is in the map. -/
def keyStep (hosted : Hosted) : KeyEvent → Option Hosted
  | .keypressReport key press write =>
      some (hosted.keypressReport key press write).next
  | .performAutoRelease key write =>
      if hosted.kbdAutoReleaseTimers key then
        some (hosted.performAutoRelease key write).next
      else none

/-- Only keys that are down have timers. -/
def TimersDown (hosted : Hosted) : Prop :=
  ∀ key, hosted.kbdAutoReleaseTimers key = true →
    ¬ IsModifier key ∧ key ∈ hosted.keysDownState.keys

/-- The press finds a slot, and does not put the error code into the first one.
It does not take the last free slot either when the code of free slots has a
timer. -/
def PressFits (hosted : Hosted) (key : UInt8) : Prop :=
  (key ∈ hosted.keysDownState.keys ∨ 0 ∈ hosted.keysDownState.keys) ∧
    ¬ (key = hidErrorRollOver ∧ hosted.keysDownState.keys.head? = some 0) ∧
      (hosted.kbdAutoReleaseTimers 0 = true →
        key ∈ hosted.keysDownState.keys ∨
          2 ≤ hosted.keysDownState.keys.count 0)

/-- The release does not move the error code into the first slot. -/
def ReleaseFits (hosted : Hosted) (key : UInt8) : Prop :=
  ¬ (key ≠ 0 ∧ hosted.keysDownState.keys.head? = some key ∧
    hosted.keysDownState.keys[1]? = some hidErrorRollOver)

/-- No event clears the slots, whether of an overflow or because the code of an
error comes to be the first. -/
def Fits (hosted : Hosted) : KeyEvent → Prop
  | .keypressReport key press _ =>
      ¬ IsModifier key →
        if press then hosted.PressFits key else hosted.ReleaseFits key
  | .performAutoRelease key _ => hosted.ReleaseFits key

/-! ### The keys after an event -/

section Keys

variable {tracked : KeysDownState} {held : List UInt8} {key : UInt8}

theorem clearedOnRollOver_storeKeys (modifier : UInt8)
    (first : held.head? ≠ some hidErrorRollOver) :
    (clearedOnRollOver modifier (storeKeys held)).keys = storeKeys held := by
  refine congrArg KeysDownState.keys (clearedOnRollOver_of_head?_ne ?_)
  cases held with
  | nil => decide
  | cons key rest => exact first

theorem clearedOnRollOver_of_head? (modifier : UInt8) {keys : List UInt8}
    (full : keys.length = hidKeyBufferSize)
    (first : keys.head? = some hidErrorRollOver) :
    (clearedOnRollOver modifier keys).keys = storeKeys [] := by
  simp only [clearedOnRollOver, first, if_true, List.map_const', full]
  rfl

/-- The keys that are held after a press -/
def pressed (held : List UInt8) (key : UInt8) : List UInt8 :=
  if key ∈ held ∨ key = 0 ∧ held.length < hidKeyBufferSize then held
  else if held.length = hidKeyBufferSize ∨ key = hidErrorRollOver ∧ held = [] then
    []
  else held ++ [key]

/-- The keys that are held after a release -/
def released (held : List UInt8) (key : UInt8) : List UInt8 :=
  if (held.erase key).head? = some hidErrorRollOver then [] else held.erase key

section Reports

variable (storable : StorableKeys held) (stored : tracked.keys = storeKeys held)
  (first : held.head? ≠ some hidErrorRollOver)
  (notModifier : ¬ IsModifier key)
include storable stored first

omit storable in
theorem keys_of_modifier (isModifier : IsModifier key) (press : Bool)
    (write : HidWrite) :
    (UsbGadget.keypressReport tracked key press write).tracked.keys =
      storeKeys held := by
  obtain ⟨mask, isMask⟩ := Option.isSome_iff_exists.mp isModifier
  rw [keypressReport_tracked_of_modifier isMask, stored]
  exact clearedOnRollOver_storeKeys _ first

include notModifier

theorem keys_press (write : HidWrite) :
    (UsbGadget.keypressReport tracked key true write).tracked.keys =
      storeKeys (pressed held key) := by
  have notMask : modifierMask key = none := by
    simpa [IsModifier] using notModifier
  rw [keypressReport_tracked_of_not_modifier notMask, stored]
  unfold pressed
  by_cases isHeld : key ∈ held
  · rw [if_pos (.inl isHeld), keypressSlots_press_held storable isHeld]
    exact clearedOnRollOver_storeKeys _ first
  rcases Nat.lt_or_eq_of_le storable.length_le with room | full
  · by_cases isZero : key = 0
    · subst isZero
      rw [if_pos (.inr ⟨rfl, room⟩), keypressSlots_press_zero storable room]
      exact clearedOnRollOver_storeKeys _ first
    · rw [keypressSlots_press_new storable isHeld room,
        if_neg (by simp [isHeld, isZero])]
      by_cases alone : key = hidErrorRollOver ∧ held = []
      · obtain ⟨rfl, rfl⟩ := alone
        rw [if_pos (.inr ⟨rfl, rfl⟩)]
        rfl
      · rw [if_neg (not_or.mpr ⟨Nat.ne_of_lt room, alone⟩)]
        refine clearedOnRollOver_storeKeys _ ?_
        cases held with
        | nil => simpa using alone
        | cons other rest => exact first
  · have overflows := keypressSlots_press_overflow storable isHeld full
    rw [overflows, if_neg (by simp [isHeld, full]), if_pos (.inl full)]
    rfl

omit first in
theorem keys_release (write : HidWrite) :
    (UsbGadget.keypressReport tracked key false write).tracked.keys =
      storeKeys (released held key) := by
  have notMask : modifierMask key = none := by
    simpa [IsModifier] using notModifier
  have slots : keypressSlots (storeKeys held) key false =
      storeKeys (held.erase key) := by
    by_cases isHeld : key ∈ held
    · exact keypressSlots_release_held storable isHeld
    · rw [keypressSlots_release_not_held storable isHeld,
        List.erase_of_not_mem isHeld]
  rw [keypressReport_tracked_of_not_modifier notMask, stored, slots]
  unfold released
  split_ifs with rollsOver
  · refine clearedOnRollOver_of_head? _ ?_ ?_
    · exact PaddedBuffer.length_store (storable.erase).length_le
    · cases remaining : held.erase key with
      | nil => simp [remaining] at rollsOver
      | cons other rest =>
          rw [remaining] at rollsOver
          exact rollsOver
  · exact clearedOnRollOver_storeKeys _ rollsOver

end Reports

theorem mem_storeKeys (storable : StorableKeys held) :
    key ∈ storeKeys held ↔
      key ∈ held ∨ key = 0 ∧ held.length < hidKeyBufferSize := by
  by_cases isZero : key = 0
  · subst isZero
    have absent := storable.blank_not_mem
    simp [PaddedBuffer.store, List.mem_replicate, absent, Nat.sub_ne_zero_iff_lt]
  · simp [PaddedBuffer.mem_store_iff isZero, isZero]

theorem count_storeKeys (storable : StorableKeys held) :
    (storeKeys held).count 0 = hidKeyBufferSize - held.length := by
  have absent := List.count_eq_zero.mpr storable.blank_not_mem
  simp [PaddedBuffer.store, absent]

theorem head?_storeKeys_eq_zero_iff (storable : StorableKeys held) :
    (storeKeys held).head? = some 0 ↔ held = [] := by
  cases held with
  | nil => exact iff_of_true rfl rfl
  | cons other rest =>
      have proper : other ≠ 0 := by
        rintro rfl
        exact storable.blank_not_mem List.mem_cons_self
      simp [PaddedBuffer.store, proper]

theorem mem_pressed {other : UInt8} (member : other ∈ pressed held key) :
    other ∈ held ∨ other = key := by
  unfold pressed at member
  split_ifs at member
  · exact .inl member
  · cases member
  · simpa using member

theorem mem_released (storable : StorableKeys held) {other : UInt8}
    (member : other ∈ released held key) : other ∈ held ∧ other ≠ key := by
  unfold released at member
  split_ifs at member
  · cases member
  · refine ⟨List.mem_of_mem_erase member, ?_⟩
    rintro rfl
    exact storable.nodup.not_mem_erase member

theorem storable_pressed (storable : StorableKeys held) (key : UInt8) :
    StorableKeys (pressed held key) := by
  have fits := storable.length_le
  unfold pressed
  split_ifs with same none
  · exact storable
  · exact PaddedBuffer.Storable.nil
  · rw [not_or] at same none
    have room : held.length < hidKeyBufferSize := Nat.lt_of_le_of_ne fits none.1
    have proper : key ≠ 0 := fun isZero => same.2 ⟨isZero, room⟩
    exact storable.append room proper same.1

theorem storable_released (storable : StorableKeys held) (key : UInt8) :
    StorableKeys (released held key) := by
  unfold released
  split_ifs
  · exact PaddedBuffer.Storable.nil
  · exact storable.erase

theorem head?_pressed (first : held.head? ≠ some hidErrorRollOver)
    (key : UInt8) : (pressed held key).head? ≠ some hidErrorRollOver := by
  unfold pressed
  split_ifs with same none
  · exact first
  · exact nofun
  · rw [not_or] at none
    cases held with
    | nil => simpa using none.2
    | cons other rest => exact first

theorem head?_released (held : List UInt8) (key : UInt8) :
    (released held key).head? ≠ some hidErrorRollOver := by
  unfold released
  split_ifs with rollsOver
  · exact nofun
  · exact rollsOver

end Keys

/-! ### What an event does -/

section Events

variable {hosted : Hosted} {key : UInt8} {press : Bool} {write : HidWrite}

theorem keysDownState_keypressReport :
    (hosted.keypressReport key press write).next.keysDownState =
      (UsbGadget.keypressReport hosted.keysDownState key press write).tracked := by
  simp only [Hosted.keypressReport, updateTimer]
  split_ifs <;> rfl

theorem timers_of_modifier (isModifier : IsModifier key) :
    (hosted.keypressReport key press write).next.kbdAutoReleaseTimers =
      hosted.kbdAutoReleaseTimers := by
  simp only [Hosted.keypressReport, updateTimer, if_pos isModifier]
  rfl

/-- The state that `KeypressReport` looks at never has a roll over. -/
theorem timers_press (notModifier : ¬ IsModifier key) :
    (hosted.keypressReport key true write).next.kbdAutoReleaseTimers =
      (hosted.setTimer key true).kbdAutoReleaseTimers := by
  have cleared :=
    keypressReport_newState_head?_ne hosted.keysDownState key true write
  simp only [Hosted.keypressReport, updateTimer, if_neg notModifier, cleared]
  rfl

theorem timers_release (notModifier : ¬ IsModifier key) :
    (hosted.keypressReport key false write).next.kbdAutoReleaseTimers =
      (hosted.setTimer key false).kbdAutoReleaseTimers := by
  simp only [Hosted.keypressReport, updateTimer, if_neg notModifier, or_true,
    if_true]
  rfl

theorem timers_performAutoRelease
    (timed : hosted.kbdAutoReleaseTimers key = true) :
    (hosted.performAutoRelease key write).next.kbdAutoReleaseTimers =
      (hosted.setTimer key false).kbdAutoReleaseTimers := by
  simp only [Hosted.performAutoRelease, timed, if_true]
  split_ifs <;> rfl

end Events

/-- The slots hold keys that all have timers, and only keys have. -/
structure Timed (hosted : Hosted) (held : List UInt8) : Prop where
  storable : StorableKeys held
  stored : hosted.keysDownState.keys = storeKeys held
  first : held.head? ≠ some hidErrorRollOver
  timed : ∀ key ∈ held, hosted.kbdAutoReleaseTimers key = true
  plain : ∀ key, hosted.kbdAutoReleaseTimers key = true → ¬ IsModifier key

section Timed

variable {hosted next : Hosted} {held : List UInt8} {key : UInt8}
variable {write : HidWrite}

theorem Timed.initial : Timed {} [] where
  storable := PaddedBuffer.Storable.nil
  stored := rfl
  first := nofun
  timed := nofun
  plain := nofun

theorem Timed.of_modifier (timed : Timed hosted held)
    (isModifier : IsModifier key) (press : Bool) :
    Timed (hosted.keypressReport key press write).next held where
  storable := timed.storable
  stored := by
    rw [keysDownState_keypressReport]
    exact keys_of_modifier timed.stored timed.first isModifier press write
  first := timed.first
  timed := by
    rw [timers_of_modifier isModifier]
    exact timed.timed
  plain := by
    rw [timers_of_modifier isModifier]
    exact timed.plain

theorem Timed.press (timed : Timed hosted held)
    (notModifier : ¬ IsModifier key) :
    Timed (hosted.keypressReport key true write).next (pressed held key) where
  storable := storable_pressed timed.storable key
  stored := by
    rw [keysDownState_keypressReport]
    exact keys_press timed.storable timed.stored timed.first notModifier write
  first := head?_pressed timed.first key
  timed := by
    intro other member
    rw [timers_press notModifier]
    rcases mem_pressed member with before | rfl
    · simp [setTimer, timed.timed other before]
    · simp [setTimer]
  plain := by
    intro other hasTimer
    rw [timers_press notModifier] at hasTimer
    by_cases same : other = key
    · rw [same]
      exact notModifier
    · simp only [setTimer, if_neg same] at hasTimer
      exact timed.plain other hasTimer

/-- A key is released, and its timer is gone. -/
theorem Timed.without (timed : Timed hosted held)
    (keys : next.keysDownState.keys = storeKeys (released held key))
    (timers : next.kbdAutoReleaseTimers =
      (hosted.setTimer key false).kbdAutoReleaseTimers) :
    Timed next (released held key) where
  storable := storable_released timed.storable key
  stored := keys
  first := head?_released held key
  timed := by
    intro other member
    obtain ⟨before, distinct⟩ := mem_released timed.storable member
    rw [timers]
    simp [setTimer, distinct, timed.timed other before]
  plain := by
    intro other hasTimer
    rw [timers] at hasTimer
    by_cases same : other = key
    · simp [setTimer, same] at hasTimer
    · simp only [setTimer, if_neg same] at hasTimer
      exact timed.plain other hasTimer

theorem Timed.keys_performAutoRelease (timed : Timed hosted held)
    (hasTimer : hosted.kbdAutoReleaseTimers key = true) :
    (hosted.performAutoRelease key write).next.keysDownState.keys =
      storeKeys (released held key) := by
  simp only [Hosted.performAutoRelease, hasTimer, if_true]
  split_ifs with isDown
  · exact keys_release timed.storable timed.stored (timed.plain key hasTimer)
      write
  · have absent : key ∉ held := by
      intro isHeld
      rw [timed.stored, mem_storeKeys timed.storable] at isDown
      exact isDown (.inl isHeld)
    unfold released
    rw [List.erase_of_not_mem absent, if_neg timed.first]
    exact timed.stored

theorem Timed.timersDown_iff (timed : Timed hosted held) :
    hosted.TimersDown ↔ ∀ key, hosted.kbdAutoReleaseTimers key = true →
      key ∈ held ∨ key = 0 ∧ held.length < hidKeyBufferSize := by
  unfold TimersDown
  simp only [timed.stored, mem_storeKeys timed.storable]
  refine forall₂_congr fun key hasTimer => ?_
  exact and_iff_right (timed.plain key hasTimer)

theorem Timed.pressFits_iff (timed : Timed hosted held) :
    hosted.PressFits key ↔
      (key ∈ held ∨ held.length < hidKeyBufferSize) ∧
        ¬ (key = hidErrorRollOver ∧ held = []) ∧
          (hosted.kbdAutoReleaseTimers 0 = true →
            key ∈ held ∨ key = 0 ∧ held.length < hidKeyBufferSize ∨
              held.length + 1 < hidKeyBufferSize) := by
  have storable := timed.storable
  have absent := storable.blank_not_mem
  unfold PressFits
  rw [timed.stored, mem_storeKeys storable, mem_storeKeys storable,
    count_storeKeys storable, head?_storeKeys_eq_zero_iff storable]
  have free : 2 ≤ hidKeyBufferSize - held.length ↔
      held.length + 1 < hidKeyBufferSize := by
    omega
  rw [free]
  simp only [absent, false_or, true_and, or_assoc]
  refine and_congr_left fun _ => ?_
  constructor
  · rintro (isHeld | ⟨-, room⟩ | room)
    · exact .inl isHeld
    · exact .inr room
    · exact .inr room
  · exact Or.imp_right .inr

theorem Timed.timersDown_press_iff (timed : Timed hosted held)
    (down : hosted.TimersDown) (notModifier : ¬ IsModifier key) :
    (hosted.keypressReport key true write).next.TimersDown ↔
      hosted.PressFits key := by
  rw [(timed.press notModifier).timersDown_iff, timed.pressFits_iff,
    timers_press notModifier]
  rw [timed.timersDown_iff] at down
  have fits := timed.storable.length_le
  have absent := timed.storable.blank_not_mem
  have armed (other : UInt8) :
      (hosted.setTimer key true).kbdAutoReleaseTimers other = true ↔
        other = key ∨ hosted.kbdAutoReleaseTimers other = true := by
    by_cases same : other = key <;> simp [setTimer, same]
  simp only [armed]
  unfold pressed
  split_ifs with same none
  · -- the key is down already, or its code is that of a free slot
    refine iff_of_true ?_ ?_
    · rintro other (rfl | hasTimer)
      · exact same
      · exact down other hasTimer
    · rcases same with isHeld | ⟨rfl, room⟩
      · refine ⟨.inl isHeld, ?_, fun _ => .inl isHeld⟩
        rintro ⟨-, rfl⟩
        cases isHeld
      · exact ⟨.inr room, by simp [hidErrorRollOver],
          fun _ => .inr (.inl ⟨rfl, room⟩)⟩
  · -- the slots are cleared
    rw [not_or] at same
    rcases none with full | alone
    · refine iff_of_false ?_ ?_
      · intro all
        obtain ⟨other, rest, rfl⟩ : ∃ other rest, held = other :: rest :=
          List.exists_cons_of_ne_nil (by rintro rfl; cases full)
        have hasTimer := timed.timed other List.mem_cons_self
        rcases all other (.inr hasTimer) with member | ⟨rfl, -⟩
        · cases member
        · exact absent List.mem_cons_self
      · rintro ⟨isHeld | room, -⟩
        · exact same.1 isHeld
        · omega
    · refine iff_of_false ?_ ?_
      · intro all
        rcases all key (.inl rfl) with member | ⟨rfl, -⟩
        · cases member
        · exact absurd alone.1 (by decide)
      · rintro ⟨-, notAlone, -⟩
        exact notAlone alone
  · -- the key is added
    rw [not_or] at same none
    have room : held.length < hidKeyBufferSize := Nat.lt_of_le_of_ne fits none.1
    have proper : key ≠ 0 := fun isZero => same.2 ⟨isZero, room⟩
    simp only [List.mem_append, List.mem_singleton, List.length_append,
      List.length_singleton, same.1, proper, false_and, false_or]
    constructor
    · intro all
      refine ⟨room, none.2, fun hasTimer => ?_⟩
      rcases all 0 (.inr hasTimer) with (member | isKey) | ⟨-, left⟩
      · exact absurd member absent
      · exact absurd isKey.symm proper
      · exact left
    · rintro ⟨-, -, left⟩ other (rfl | hasTimer)
      · exact .inl (.inr rfl)
      · rcases down other hasTimer with member | ⟨rfl, -⟩
        · exact .inl (.inl member)
        · exact .inr ⟨rfl, left hasTimer⟩

theorem Timed.releaseFits_iff (timed : Timed hosted held) :
    hosted.ReleaseFits key ↔ (held.erase key).head? ≠ some hidErrorRollOver := by
  have first := timed.first
  unfold ReleaseFits
  rw [timed.stored]
  match held with
  | [] =>
      refine iff_of_true ?_ nofun
      rintro ⟨proper, same, -⟩
      exact proper (Option.some.inj same).symm
  | [other] =>
      refine iff_of_true ?_ ?_
      · rintro ⟨-, -, same⟩
        cases same
      · by_cases same : other = key
        · simp [same]
        · simpa [List.erase_cons, same] using first
  | other :: second :: rest =>
      have storable := timed.storable
      have proper : other ≠ 0 := by
        rintro rfl
        exact storable.blank_not_mem List.mem_cons_self
      have slots : (storeKeys (other :: second :: rest)).head? = some other ∧
          (storeKeys (other :: second :: rest))[1]? = some second := ⟨rfl, rfl⟩
      rw [slots.1, slots.2]
      by_cases same : other = key
      · subst same
        simp [proper]
      · simpa [List.erase_cons, same] using first

/-- A release keeps the timers of the other keys, and their slots too unless it
clears all. -/
theorem Timed.timersDown_without_iff (timed : Timed hosted held)
    (down : hosted.TimersDown)
    (keys : next.keysDownState.keys = storeKeys (released held key))
    (timers : next.kbdAutoReleaseTimers =
      (hosted.setTimer key false).kbdAutoReleaseTimers) :
    next.TimersDown ↔ hosted.ReleaseFits key := by
  rw [(timed.without keys timers).timersDown_iff, timed.releaseFits_iff, timers]
  rw [timed.timersDown_iff] at down
  have others (other : UInt8) :
      (hosted.setTimer key false).kbdAutoReleaseTimers other = true ↔
        other ≠ key ∧ hosted.kbdAutoReleaseTimers other = true := by
    by_cases same : other = key <;> simp [setTimer, same]
  simp only [others]
  unfold released
  split_ifs with rollsOver
  · refine iff_of_false ?_ (not_not_intro rollsOver)
    intro all
    have inErased := List.mem_of_head? rollsOver
    have isHeld := List.mem_of_mem_erase inErased
    have distinct : hidErrorRollOver ≠ key := by
      rintro rfl
      exact timed.storable.nodup.not_mem_erase inErased
    rcases all _ ⟨distinct, timed.timed _ isHeld⟩ with member | ⟨isZero, -⟩
    · cases member
    · exact absurd isZero (by decide)
  · refine iff_of_true ?_ rollsOver
    rintro other ⟨distinct, hasTimer⟩
    rcases down other hasTimer with isHeld | ⟨isZero, room⟩
    · exact .inl ((List.mem_erase_of_ne distinct).mpr isHeld)
    · have shorter : (held.erase key).length ≤ held.length :=
        List.length_erase_le
      exact .inr ⟨isZero, Nat.lt_of_le_of_lt shorter room⟩

/-! ### Histories -/

theorem Timed.keyStep {event : KeyEvent} (timed : Timed hosted held)
    (taken : Hosted.keyStep hosted event = some next) :
    ∃ held, Timed next held := by
  cases event with
  | keypressReport key press write =>
      obtain rfl := Option.some.inj taken
      by_cases isModifier : IsModifier key
      · exact ⟨held, timed.of_modifier isModifier press⟩
      · cases press with
        | true => exact ⟨_, timed.press isModifier⟩
        | false =>
            refine ⟨_, timed.without ?_ (timers_release isModifier)⟩
            rw [keysDownState_keypressReport]
            exact keys_release timed.storable timed.stored isModifier write
  | performAutoRelease key write =>
      simp only [Hosted.keyStep] at taken
      split_ifs at taken with hasTimer
      obtain rfl := Option.some.inj taken
      exact ⟨_, timed.without (timed.keys_performAutoRelease hasTimer)
        (timers_performAutoRelease hasTimer)⟩

theorem Timed.timersDown_keyStep_iff {event : KeyEvent}
    (timed : Timed hosted held) (down : hosted.TimersDown)
    (taken : Hosted.keyStep hosted event = some next) :
    next.TimersDown ↔ hosted.Fits event := by
  cases event with
  | keypressReport key press write =>
      obtain rfl := Option.some.inj taken
      by_cases isModifier : IsModifier key
      · have same := @Timed.of_modifier hosted held key write timed isModifier press
        rw [same.timersDown_iff, timers_of_modifier isModifier,
          ← timed.timersDown_iff]
        exact iff_of_true down fun notModifier => absurd isModifier notModifier
      · simp only [Fits, isModifier, not_false_eq_true, forall_true_left]
        cases press with
        | true => exact timed.timersDown_press_iff down isModifier
        | false =>
            refine timed.timersDown_without_iff down ?_ (timers_release isModifier)
            rw [keysDownState_keypressReport]
            exact keys_release timed.storable timed.stored isModifier write
  | performAutoRelease key write =>
      simp only [Hosted.keyStep] at taken
      split_ifs at taken with hasTimer
      obtain rfl := Option.some.inj taken
      exact timed.timersDown_without_iff down
        (timed.keys_performAutoRelease hasTimer)
        (timers_performAutoRelease hasTimer)

end Timed

theorem timersDown_iff_fits (events : List KeyEvent) :
    AllStates keyStep TimersDown {} events ↔ AllSteps keyStep Fits {} events := by
  refine @allStates_iff_allSteps_of_invariant Hosted KeyEvent keyStep
    (fun hosted => ∃ held, Timed hosted held) TimersDown Fits ?_ ?_ {}
    ⟨[], Timed.initial⟩ nofun events
  · rintro hosted next event ⟨held, timed⟩ taken
    exact timed.keyStep taken
  · rintro hosted next event ⟨held, timed⟩ down taken
    exact timed.timersDown_keyStep_iff down taken

/-- The seventh key clears the slots of the six, and all seven have timers. -/
theorem not_timersDown_seventhKey :
    ¬ ∀ events : List KeyEvent, AllStates keyStep TimersDown {} events := by
  intro always
  have everywhere := always
    ([4, 5, 6, 7, 8, 9, 10].map (.keypressReport · true .delivered))
  obtain ⟨-, isDown⟩ := everywhere.last rfl 10 (by decide)
  exact absurd isDown (by decide)

end Hosted

end UsbGadget

end JetKvm
