import JetKvm.UsbKeyboardHostAgreement
import Mathlib.Data.List.TakeWhile

/-!
# Releasing a key

The slot loop of a release stops at the first slot that holds the key or is
free.  Full reports store whatever bytes they carry, so that the key may be held
once more behind that slot.
-/

namespace JetKvm

namespace UsbGadget

open LabelledRuns

/-- The slots behind the one at which the slot loop stops -/
def slotsBehind (key : UInt8) (keys : List UInt8) : List UInt8 :=
  (keys.dropWhile fun slot => slot ≠ key ∧ slot ≠ 0).tail

namespace Hosted

/-- The bytes that an operation hands to the device -/
def written (hosted : Hosted) (label : Label) : Option (List UInt8) :=
  match label.operation with
  | .keyboardReport modifier keys =>
      (UsbGadget.keyboardReport hosted.keysDownState modifier keys
        label.write).written
  | .keypressReport key press =>
      (UsbGadget.keypressReport hosted.keysDownState key press
        label.write).written
  | .performAutoRelease key =>
      if hosted.kbdAutoReleaseTimers key ∧ key ∈ hosted.keysDownState.keys then
        (UsbGadget.keypressReport hosted.keysDownState key false
          label.write).written
      else none

/-- The operation releases this key, which is neither a modifier nor one of the
codes that are no keys. -/
def ReleasesKey (hosted : Hosted) (key : UInt8) (label : Label) : Prop :=
  ¬IsModifier key ∧ key ≠ 0 ∧ key ≠ hidErrorRollOver ∧
    hosted.AsksRelease key label.operation

/-- The key that an operation releases is neither tracked afterwards nor in the
report. -/
def Released (hosted : Hosted) (label : Label) : Prop :=
  ∀ key, hosted.ReleasesKey key label →
    key ∉ (hosted.perform label).next.keysDownState.keys ∧
      ∀ report, hosted.written label = some report → key ∉ report.drop 2

/-- The key is not held behind the slot where the loop stops; or the device
cannot be opened, and the error code that the release moves into the first slot
clears the tracked keys. -/
def HeldInFront (hosted : Hosted) (label : Label) : Prop :=
  ∀ key, hosted.ReleasesKey key label →
    key ∉ slotsBehind key hosted.keysDownState.keys ∨
      (∃ error, label.write = .openFailed error) ∧
        PartlyRollsOver hosted.keysDownState key false

end Hosted

/-! ### The slot loop -/

section Slots

variable {key slot : UInt8} {keys before after : List UInt8}

theorem slotsBehind_of_passed (passed : Passed key before)
    (stops : slot = key ∨ slot = 0) :
    slotsBehind key (before ++ slot :: after) = after := by
  have skipped : ∀ other ∈ before,
      decide (other ≠ key ∧ other ≠ 0) = true := by
    intro other member
    exact decide_eq_true (passed other member)
  have stopped : decide (slot ≠ key ∧ slot ≠ 0) = false := by
    apply decide_eq_false
    rintro ⟨notKey, notFree⟩
    exact stops.elim notKey notFree
  rw [slotsBehind, List.dropWhile_append_of_pos skipped, List.dropWhile_cons,
    stopped]
  rfl

theorem slotsBehind_of_all_passed (passed : Passed key keys) :
    slotsBehind key keys = [] := by
  have skipped : ∀ other ∈ keys, decide (other ≠ key ∧ other ≠ 0) = true := by
    intro other member
    exact decide_eq_true (passed other member)
  rw [slotsBehind, List.dropWhile_eq_nil_iff.mpr skipped, List.tail_nil]

/-- A key is still held after its release exactly if it was held behind the slot
at which the loop stops. -/
theorem mem_keypressSlots_iff (full : keys.length = hidKeyBufferSize)
    (proper : key ≠ 0) :
    key ∈ keypressSlots keys key false ↔ key ∈ slotsBehind key keys := by
  have notIn : ∀ {before : List UInt8}, Passed key before → key ∉ before :=
    fun passed member => (passed key member).1 rfl
  rcases slot_cases key keys with ⟨before, after, rfl, passed⟩ |
    ⟨before, after, rfl, passed, -⟩ | passed
  · rw [keypressSlots_of_key full passed, if_pos ⟨rfl, proper⟩,
      slotsBehind_of_passed passed (.inl rfl)]
    simp [notIn passed, proper]
  · rw [keypressSlots_of_free full passed, if_neg Bool.false_ne_true,
      slotsBehind_of_passed passed (.inr rfl)]
    simp [notIn passed, proper]
  · rw [keypressSlots_of_passed full passed, if_neg Bool.false_ne_true,
      slotsBehind_of_all_passed passed]
    simp [notIn passed]

theorem mem_of_mem_slotsBehind (behind : key ∈ slotsBehind key keys) :
    key ∈ keys :=
  (List.dropWhile_sublist _).subset (List.mem_of_mem_tail behind)

theorem mem_clearedOnRollOver_iff (modifier : UInt8) (proper : key ≠ 0) :
    key ∈ (clearedOnRollOver modifier keys).keys ↔
      key ∈ keys ∧ keys.head? ≠ some hidErrorRollOver := by
  unfold clearedOnRollOver
  split_ifs with rolledOver
  · simp [rolledOver, proper]
  · simp [rolledOver]

end Slots

/-! ### One release -/

namespace Hosted

variable {hosted : Hosted} {label : Label}

/-- What is left of a key after the report of its release -/
theorem released_report_iff {key : UInt8} {write : HidWrite}
    (sixSlots : hosted.SixSlots) (notModifier : ¬IsModifier key)
    (proper : key ≠ 0) (notError : key ≠ hidErrorRollOver) :
    (key ∉ (UsbGadget.keypressReport hosted.keysDownState key false
          write).tracked.keys ∧
        ∀ report, (UsbGadget.keypressReport hosted.keysDownState key false
          write).written = some report → key ∉ report.drop 2) ↔
      key ∉ slotsBehind key hosted.keysDownState.keys ∨
        (∃ error, write = .openFailed error) ∧
          PartlyRollsOver hosted.keysDownState key false := by
  have lookup : modifierMask key = none := by
    simpa [IsModifier] using notModifier
  have computed : keypressed hosted.keysDownState key false =
      { hosted.keysDownState with
        keys := keypressSlots hosted.keysDownState.keys key false } := by
    rw [keypressed, lookup]
  have full := length_keypressSlots sixSlots.full key false
  have remains := mem_keypressSlots_iff sixSlots.full proper
  have rollsOver := @partlyRollsOver_iff hosted.keysDownState key sixSlots.full
    sixSlots.noRollOver false
  rw [computed] at rollsOver
  rw [keypressReport_eq, computed, writeAndUpdate_tracked,
    mem_clearedOnRollOver_iff _ proper, remains, ← rollsOver]
  by_cases behind : key ∈ slotsBehind key hosted.keysDownState.keys
  · have notOnes : keypressSlots hosted.keysDownState.keys key false ≠
        List.replicate hidKeyBufferSize hidErrorRollOver := by
      intro ones
      have held := remains.mpr behind
      rw [ones] at held
      exact notError (List.eq_of_mem_replicate held)
    have held := remains.mpr behind
    cases write <;>
      simp [behind, notOnes, writeAndUpdate, keyboardWriteHidFileLocked,
        take_of_full full, held]
  · have gone := mt remains.mp behind
    cases write <;>
      simp [behind, writeAndUpdate, keyboardWriteHidFileLocked,
        take_of_full full, gone]

theorem SixSlots.released_iff (sixSlots : hosted.SixSlots) :
    hosted.Released label ↔ hosted.HeldInFront label := by
  refine forall₂_congr fun key ⟨notModifier, proper, notError, asks⟩ => ?_
  obtain ⟨operation, write⟩ := label
  have report := @released_report_iff hosted key write sixSlots notModifier
    proper notError
  cases operation with
  | keyboardReport modifier keys => exact asks.elim
  | keypressReport other press =>
      obtain ⟨rfl, rfl⟩ := asks
      rw [← report]
      simp only [perform, keypressReport, updateTimer_keysDownState, written,
        applyReport]
  | performAutoRelease other =>
      obtain ⟨rfl, present⟩ := asks
      by_cases held : other ∈ hosted.keysDownState.keys
      · rw [← report]
        simp only [perform, performAutoRelease, present, held, if_true, written,
          applyReport, and_self]
      · have behind : other ∉ slotsBehind other hosted.keysDownState.keys :=
          mt mem_of_mem_slotsBehind held
        simp [perform, performAutoRelease, present, held, written, setTimer,
          behind]

/-- Over a history, every key that is released is gone exactly if none was held
behind the slot at which the loop of its release stops. -/
theorem released_iff_heldInFront (labels : List Label) :
    AllSteps step Released {} labels ↔ AllSteps step HeldInFront {} labels := by
  refine @allSteps_congr Hosted Label step SixSlots Released HeldInFront ?_ ?_
    {}
    sixSlots_initial labels
  · intro hosted next label sixSlots _ taken
    obtain rfl := Option.some.inj taken
    exact sixSlots.next
  · intro hosted next label sixSlots _
    exact sixSlots.released_iff

/-- A full report holds a key twice, and then the key is released. -/
def releaseOfDouble : List Label :=
  [⟨.keyboardReport 0 [4, 4], .delivered⟩,
    ⟨.keypressReport 4 false, .delivered⟩]

theorem releaseOfDouble_not_released :
    ¬AllSteps step Released {} releaseOfDouble := by
  intro released
  obtain ⟨-, afterReport⟩ := released _ rfl
  obtain ⟨release, -⟩ := afterReport _ rfl
  have gone := (release 4 ⟨by decide, by decide, by decide, rfl, rfl⟩).1
  revert gone
  decide

end Hosted

end UsbGadget

end JetKvm
