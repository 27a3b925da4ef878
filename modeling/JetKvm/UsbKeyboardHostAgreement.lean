import JetKvm.LabelledRuns
import JetKvm.UsbKeyboardKeysDown

/-!
# The tracked keyboard state and the host

The host knows the keys of the last report that was delivered to it.
`KeyboardReport`, `KeypressReport` and `performAutoRelease` update the tracked
state whatever became of the write, and a write that missed its deadline is not
even an error, so the tracked state can run ahead of the host.  Auto-release
trusts the tracked state: a key it no longer shows is not released again.
-/

namespace JetKvm

namespace UsbGadget

open LabelledRuns

/-- The keys a report shows to the host: six times the error code shows none. -/
def shownKeys (keys : List UInt8) : List UInt8 :=
  if keys = List.replicate hidKeyBufferSize hidErrorRollOver then
    List.replicate hidKeyBufferSize 0
  else keys

/-- The state of the gadget, and the last keyboard report the host received. -/
structure Hosted where
  keysDownState : KeysDownState := {}
  kbdAutoReleaseTimers : UInt8 → Bool := fun _ => false
  lastReport : KeysDownState := {}

namespace Hosted

/-- What the host takes to be down. -/
def hostState (hosted : Hosted) : KeysDownState :=
  ⟨hosted.lastReport.modifier, shownKeys hosted.lastReport.keys⟩

inductive Operation where
  | keyboardReport (modifier : UInt8) (keys : List UInt8)
  | keypressReport (key : UInt8) (press : Bool)
  | performAutoRelease (key : UInt8)
  deriving DecidableEq, Repr

/-- An operation, and how its HID write ends if it makes one. -/
structure Label where
  operation : Operation
  write : HidWrite
  deriving DecidableEq, Repr

/-- What an operation does: the new state, whether it sends a report, and the
error. -/
structure Done where
  next : Hosted
  sends : Bool
  err : Option String

/-- The bytes of a report that reached the host. -/
def received (report : List UInt8) : KeysDownState :=
  ⟨report.headD 0, report.drop 2⟩

/-- The tracked state after a report, and what the host has if the report was
delivered. -/
def applyReport (hosted : Hosted) (reported : Reported) (write : HidWrite) :
    Hosted :=
  { hosted with
    keysDownState := reported.tracked
    lastReport :=
      if write = .delivered then
        (reported.written.map received).getD hosted.lastReport
      else hosted.lastReport }

def setTimer (hosted : Hosted) (key : UInt8) (present : Bool) : Hosted :=
  { hosted with
    kbdAutoReleaseTimers := fun other =>
      if other = key then present else hosted.kbdAutoReleaseTimers other }

/-- The end of `KeypressReport`; modifiers have no timers. -/
def updateTimer (hosted : Hosted) (key : UInt8) (press : Bool)
    (state : KeysDownState) : Hosted :=
  let isRolledOver := state.keys.head? = some hidErrorRollOver
  if IsModifier key then hosted
  else if isRolledOver ∨ press = false then hosted.setTimer key false
  else hosted.setTimer key true

def keyboardReport (hosted : Hosted) (modifier : UInt8) (keys : List UInt8)
    (write : HidWrite) : Done :=
  let reported :=
    UsbGadget.keyboardReport hosted.keysDownState modifier keys write
  ⟨hosted.applyReport reported write, true, reported.err⟩

def keypressReport (hosted : Hosted) (key : UInt8) (press : Bool)
    (write : HidWrite) : Done :=
  let reported := UsbGadget.keypressReport hosted.keysDownState key press write
  ⟨(hosted.applyReport reported write).updateTimer key press reported.newState,
    true, reported.err⟩

/-- `performAutoRelease`, which only logs the error of its report. -/
def performAutoRelease (hosted : Hosted) (key : UInt8) (write : HidWrite) :
    Done :=
  if hosted.kbdAutoReleaseTimers key then
    let removed := hosted.setTimer key false
    if key ∈ hosted.keysDownState.keys then
      let reported :=
        UsbGadget.keypressReport hosted.keysDownState key false write
      ⟨removed.applyReport reported write, true, reported.err⟩
    else ⟨removed, false, none⟩
  else ⟨hosted, false, none⟩

def perform (hosted : Hosted) (label : Label) : Done :=
  match label.operation with
  | .keyboardReport modifier keys =>
      hosted.keyboardReport modifier keys label.write
  | .keypressReport key press => hosted.keypressReport key press label.write
  | .performAutoRelease key => hosted.performAutoRelease key label.write

def step (hosted : Hosted) (label : Label) : Option Hosted :=
  some (hosted.perform label).next

/-- The tracked state is what the host takes to be down. -/
def InAgreement (hosted : Hosted) : Prop :=
  hosted.keysDownState = hosted.hostState

/-- The operation asks for the release of the key: a key-up report, or the
auto-release of a key that has a timer. -/
def AsksRelease (hosted : Hosted) (key : UInt8) : Operation → Prop
  | .keyboardReport _ _ => False
  | .keypressReport other press => other = key ∧ press = false
  | .performAutoRelease other =>
      other = key ∧ hosted.kbdAutoReleaseTimers key = true

/-- What an operation promises about the host. -/
structure KeepsAgreement (hosted : Hosted) (label : Label) : Prop where
  /-- After a nil error the tracked state is what the host was last sent. -/
  nil_agrees : (hosted.perform label).err = none →
    (hosted.perform label).next.InAgreement
  /-- Without a delivery the tracked state stays where it was, or where the host
  is. -/
  not_advanced : label.write ≠ .delivered →
    (hosted.perform label).next.keysDownState = hosted.keysDownState ∨
      (hosted.perform label).next.InAgreement
  /-- The release of a key that the host has down is sent. -/
  release_sent : ∀ key, key ≠ 0 → hosted.AsksRelease key label.operation →
    key ∈ hosted.hostState.keys → (hosted.perform label).sends = true

end Hosted

/-! ## When an operation keeps the agreement -/

/-- The keys cut or zero-padded to the buffer size. -/
def sixKeys (keys : List UInt8) : List UInt8 :=
  (keys ++ List.replicate hidKeyBufferSize 0).take hidKeyBufferSize

/-- A non-modifier key in front of the first free slot, where the slot loop
finds it. -/
def InFront (keys : List UInt8) (key : UInt8) : Prop :=
  key ∈ keys.takeWhile fun slot => slot ≠ 0

/-- A key event that leaves the tracked state as it is. -/
def RepeatsKeypress (tracked : KeysDownState) (key : UInt8) (press : Bool) :
    Prop :=
  match modifierMask key with
  | some mask => tracked.modifier &&& mask = if press then mask else 0
  | none =>
      if press then
        InFront tracked.keys key ∨ key = 0 ∧ 0 ∈ tracked.keys ∨
          key = hidErrorRollOver ∧
            tracked.keys = List.replicate hidKeyBufferSize 0
      else ¬ InFront tracked.keys key

/-- A key event that puts the error code into the first slot without putting it
into all six. -/
def PartlyRollsOver (tracked : KeysDownState) (key : UInt8) (press : Bool) :
    Prop :=
  modifierMask key = none ∧
    if press then
      key = hidErrorRollOver ∧ tracked.keys.head? = some 0 ∧
        tracked.keys.tail ≠
          List.replicate (hidKeyBufferSize - 1) hidErrorRollOver
    else
      key ≠ 0 ∧ tracked.keys.head? = some key ∧
        tracked.keys[1]? = some hidErrorRollOver

namespace Hosted

/-- The operation leaves the tracked state as it is. -/
def Repeats (hosted : Hosted) : Operation → Prop
  | .keyboardReport modifier keys =>
      modifier = hosted.keysDownState.modifier ∧
        (sixKeys keys = hosted.keysDownState.keys ∨
          (sixKeys keys).head? = some hidErrorRollOver ∧
            hosted.keysDownState.keys = List.replicate hidKeyBufferSize 0)
  | .keypressReport key press => RepeatsKeypress hosted.keysDownState key press
  | .performAutoRelease key =>
      hosted.kbdAutoReleaseTimers key = true →
        key ∈ hosted.keysDownState.keys →
          RepeatsKeypress hosted.keysDownState key false

/-- The operation reports the error code in the first slot, where it clears the
tracked keys, but not in all six, where the host takes it for no keys. -/
def ClearsUnseen (hosted : Hosted) : Operation → Prop
  | .keyboardReport _ keys =>
      (sixKeys keys).head? = some hidErrorRollOver ∧
        sixKeys keys ≠ List.replicate hidKeyBufferSize hidErrorRollOver
  | .keypressReport key press => PartlyRollsOver hosted.keysDownState key press
  | .performAutoRelease key =>
      hosted.kbdAutoReleaseTimers key = true ∧
        key ∈ hosted.keysDownState.keys ∧
          PartlyRollsOver hosted.keysDownState key false

/-- A report that is delivered means the same to both sides, and one that is
not changes nothing. -/
def Honest (hosted : Hosted) (label : Label) : Prop :=
  if label.write = .delivered then ¬ hosted.ClearsUnseen label.operation
  else hosted.Repeats label.operation

end Hosted

/-! ## Bits of the modifier -/

theorem or_mask_eq_iff (modifier mask : UInt8) :
    modifier ||| mask = modifier ↔ modifier &&& mask = mask := by
  simp only [← UInt8.toBitVec_inj, UInt8.toBitVec_or, UInt8.toBitVec_and,
    BitVec.eq_of_getLsbD_eq_iff, BitVec.getLsbD_or, BitVec.getLsbD_and]
  refine forall₂_congr fun bit _ => ?_
  cases modifier.toBitVec.getLsbD bit <;>
    cases mask.toBitVec.getLsbD bit <;> decide

theorem andNot_mask_eq_iff (modifier mask : UInt8) :
    modifier &&& ~~~mask = modifier ↔ modifier &&& mask = 0 := by
  simp only [← UInt8.toBitVec_inj, UInt8.toBitVec_not, UInt8.toBitVec_and,
    BitVec.eq_of_getLsbD_eq_iff, BitVec.getLsbD_and]
  refine forall₂_congr fun bit inside => ?_
  simp [inside]

/-! ## The reports -/

section Reports

variable {tracked : KeysDownState} {key : UInt8}

/-- The modifier and the keys a key event computes. -/
def keypressed (tracked : KeysDownState) (key : UInt8) (press : Bool) :
    KeysDownState :=
  match modifierMask key with
  | some mask =>
      { tracked with
        modifier :=
          if press then tracked.modifier ||| mask
          else tracked.modifier &&& ~~~mask }
  | none => { tracked with keys := keypressSlots tracked.keys key press }

theorem keypressReport_eq (press : Bool) (write : HidWrite) :
    keypressReport tracked key press write =
      writeAndUpdate tracked (keypressed tracked key press).modifier
        (keypressed tracked key press).keys write := by
  unfold keypressReport keypressed
  cases modifierMask key <;> rfl

theorem length_sixKeys (keys : List UInt8) :
    (sixKeys keys).length = hidKeyBufferSize := by
  simp [sixKeys]

theorem keyboardReport_eq (modifier : UInt8) (keys : List UInt8)
    (write : HidWrite) :
    keyboardReport tracked modifier keys write =
      writeAndUpdate tracked modifier (sixKeys keys) write := by
  unfold keyboardReport sixKeys
  simp only
  congr 1
  rcases Nat.lt_trichotomy keys.length hidKeyBufferSize with less | same | more
  · have whole : keys.take hidKeyBufferSize = keys :=
      List.take_of_length_le (Nat.le_of_lt less)
    simp [List.take_append, less, Nat.not_lt.mpr (Nat.le_of_lt less), whole]
  · rw [← same, if_neg (Nat.lt_irrefl _), if_neg (Nat.lt_irrefl _),
      List.take_left]
  · simp [List.take_append, more, Nat.le_of_lt more]

theorem length_keypressed (full : tracked.keys.length = hidKeyBufferSize)
    (key : UInt8) (press : Bool) :
    (keypressed tracked key press).keys.length = hidKeyBufferSize := by
  unfold keypressed
  cases modifierMask key with
  | some mask => exact full
  | none => exact length_keypressSlots full key press

/-- The slots in front of the first free one. -/
theorem inFront_of_passed {before : List UInt8}
    (passed : Passed key before) (proper : key ≠ 0) (after : List UInt8) :
    InFront (before ++ key :: after) key := by
  unfold InFront
  rw [List.takeWhile_append_of_pos fun slot member => by
    simpa using (passed slot member).2]
  simp [proper]

theorem not_inFront_of_free {before : List UInt8}
    (passed : Passed key before) (after : List UInt8) :
    ¬ InFront (before ++ 0 :: after) key := by
  unfold InFront
  rw [List.takeWhile_append_of_pos fun slot member => by
    simpa using (passed slot member).2]
  simpa using fun member => (passed key member).1 rfl

theorem not_inFront_of_not_mem {keys : List UInt8} (absent : key ∉ keys) :
    ¬ InFront keys key :=
  fun inFront => absent (List.takeWhile_subset _ inFront)

/-- Moving the slots after a key down over it changes the buffer. -/
theorem moved_ne {after : List UInt8} (proper : key ≠ 0) :
    after ++ [0] ≠ key :: after := by
  intro same
  have counts := congrArg (List.count 0) same
  simp [proper] at counts

theorem clearedOnRollOver_keys_eq_iff (modifier : UInt8)
    {keys old : List UInt8} (full : keys.length = hidKeyBufferSize)
    (noRollOver : old.head? ≠ some hidErrorRollOver) :
    (clearedOnRollOver modifier keys).keys = old ↔
      keys = old ∨ keys.head? = some hidErrorRollOver ∧
        old = List.replicate hidKeyBufferSize 0 := by
  unfold clearedOnRollOver
  split_ifs with rollsOver
  · have different : keys ≠ old := fun same => noRollOver (same ▸ rollsOver)
    simp [rollsOver, different, full, List.map_const', eq_comm]
  · simp [rollsOver]

theorem ne_zeros_of_mem {keys : List UInt8} (member : key ∈ keys)
    (proper : key ≠ 0) : keys ≠ List.replicate hidKeyBufferSize 0 := by
  rintro rfl
  exact proper (List.eq_of_mem_replicate member)

theorem repeatsKeypress_iff (full : tracked.keys.length = hidKeyBufferSize)
    (noRollOver : tracked.keys.head? ≠ some hidErrorRollOver) (press : Bool) :
    clearedOnRollOver (keypressed tracked key press).modifier
        (keypressed tracked key press).keys = tracked ↔
      RepeatsKeypress tracked key press := by
  obtain ⟨modifier, keys⟩ := tracked
  unfold keypressed RepeatsKeypress
  cases lookup : modifierMask key with
  | some mask =>
      simp only [clearedOnRollOver_of_head?_ne noRollOver,
        KeysDownState.mk.injEq, and_true]
      cases press with
      | true => exact or_mask_eq_iff modifier mask
      | false => exact andNot_mask_eq_iff modifier mask
  | none =>
      have sameModifier (slots : List UInt8) :
          clearedOnRollOver modifier slots = ⟨modifier, keys⟩ ↔
            (clearedOnRollOver modifier slots).keys = keys := by
        simp [clearedOnRollOver]
      simp only [sameModifier]
      rw [clearedOnRollOver_keys_eq_iff modifier
        (length_keypressSlots full key press) noRollOver]
      rcases slot_cases key keys with ⟨before, after, rfl, passed⟩ |
        ⟨before, after, rfl, passed, proper⟩ | passed
      · -- the key is held, or is the code of a free slot
        rw [keypressSlots_of_key full passed]
        by_cases free : key = 0
        · subst free
          have notInFront := not_inFront_of_free passed after
          cases press with
          | true => simp
          | false => simp [notInFront]
        · have inFront := inFront_of_passed passed free after
          have held : key ∈ before ++ key :: after := by simp
          have notZeros := ne_zeros_of_mem held free
          cases press with
          | true => simp [inFront]
          | false => simp [free, inFront, moved_ne free, notZeros]
      · -- the key is not held and some slot is free
        rw [keypressSlots_of_free full passed]
        have notInFront := not_inFront_of_free passed after
        cases press with
        | true =>
            have notSame : key :: after ≠ 0 :: after := by simp [proper]
            have atFront : before ++ 0 :: after =
                  List.replicate hidKeyBufferSize 0 →
                ((before ++ key :: after).head? = some hidErrorRollOver ↔
                  key = hidErrorRollOver) := by
              intro zeros
              cases before with
              | nil => simp
              | cons first rest =>
                  have notFree := (passed first (List.mem_cons_self ..)).2
                  exact absurd zeros
                    (ne_zeros_of_mem (List.mem_cons_self ..) notFree)
            simp only [if_true, notInFront, proper, false_and, false_or,
              List.append_cancel_left_eq, notSame]
            exact and_congr_left atFront
        | false => simp [notInFront]
      · -- the key is not held and no slot is free
        rw [keypressSlots_of_passed full passed]
        have noKey : key ∉ keys := fun member => (passed key member).1 rfl
        have noFree : 0 ∉ keys := fun member => (passed 0 member).2 rfl
        have notInFront := not_inFront_of_not_mem noKey
        have notZeros : keys ≠ List.replicate hidKeyBufferSize 0 := by
          rintro rfl
          exact noFree (by simp [hidKeyBufferSize])
        have notOnes :
            List.replicate hidKeyBufferSize hidErrorRollOver ≠ keys := by
          rintro rfl
          exact noRollOver rfl
        cases press with
        | true => simp [notInFront, noFree, notZeros, notOnes]
        | false => simp [notInFront]

theorem partlyRollsOver_iff (full : tracked.keys.length = hidKeyBufferSize)
    (noRollOver : tracked.keys.head? ≠ some hidErrorRollOver) (press : Bool) :
    ((keypressed tracked key press).keys.head? = some hidErrorRollOver ∧
        (keypressed tracked key press).keys ≠
          List.replicate hidKeyBufferSize hidErrorRollOver) ↔
      PartlyRollsOver tracked key press := by
  obtain ⟨modifier, keys⟩ := tracked
  unfold keypressed PartlyRollsOver
  cases lookup : modifierMask key with
  | some mask => simp [noRollOver]
  | none =>
      simp only [true_and]
      rcases slot_cases key keys with ⟨before, after, rfl, passed⟩ |
        ⟨before, after, rfl, passed, proper⟩ | passed
      · -- the key is held, or is the code of a free slot
        rw [keypressSlots_of_key full passed]
        by_cases free : key = 0
        · subst free
          cases press <;> simp_all [hidErrorRollOver]
        · have notOnes : before ++ after ++ [0] ≠
              List.replicate hidKeyBufferSize hidErrorRollOver := by
            intro ones
            have zero : (0 : UInt8) ∈ before ++ after ++ [0] := by simp
            rw [ones] at zero
            exact absurd (List.eq_of_mem_replicate zero) (by decide)
          cases before with
          | nil =>
              obtain ⟨second, rest, rfl⟩ :
                  ∃ second rest, after = second :: rest := by
                cases after with
                | nil => simp [hidKeyBufferSize] at full
                | cons second rest => exact ⟨second, rest, rfl⟩
              cases press with
              | true => simp_all
              | false => simp_all
          | cons first rest =>
              obtain ⟨notKey, notFree⟩ := passed first (List.mem_cons_self ..)
              cases press with
              | true => simp_all
              | false => simp_all
      · -- the key is not held and some slot is free
        rw [keypressSlots_of_free full passed]
        cases before with
        | nil =>
            cases press with
            | true =>
                simpa [hidKeyBufferSize, List.replicate_succ] using Or.inl
            | false => simp_all [eq_comm]
        | cons first rest =>
            obtain ⟨notKey, notFree⟩ := passed first (List.mem_cons_self ..)
            cases press with
            | true => simp_all
            | false => simp_all
      · -- the key is not held and no slot is free
        rw [keypressSlots_of_passed full passed]
        cases press with
        | true =>
            refine iff_of_false (fun both => both.2 rfl) ?_
            rintro ⟨-, atHead, -⟩
            exact (passed 0 (List.mem_of_mem_head? atHead)).2 rfl
        | false =>
            refine iff_of_false (fun both => noRollOver both.1) ?_
            rintro ⟨-, atHead, -⟩
            exact (passed key (List.mem_of_mem_head? atHead)).1 rfl

end Reports

/-! ## One operation -/

namespace Hosted

variable {hosted : Hosted}

/-- A report the gadget makes, delivered or not. -/
theorem applyReport_writeAndUpdate (hosted : Hosted) (report : KeysDownState)
    (full : report.keys.length = hidKeyBufferSize) (write : HidWrite) :
    hosted.applyReport (writeAndUpdate hosted.keysDownState report.modifier
        report.keys write) write =
      { hosted with
        keysDownState := clearedOnRollOver report.modifier report.keys
        lastReport :=
          if write = .delivered then report else hosted.lastReport } := by
  have whole := take_of_full full
  unfold applyReport
  rw [writeAndUpdate_tracked]
  cases write <;>
    simp [writeAndUpdate, keyboardWriteHidFileLocked, received, whole]

@[simp]
theorem updateTimer_keysDownState (key : UInt8) (press : Bool)
    (state : KeysDownState) :
    (hosted.updateTimer key press state).keysDownState =
      hosted.keysDownState := by
  unfold updateTimer
  simp only
  split_ifs <;> rfl

@[simp]
theorem updateTimer_lastReport (key : UInt8) (press : Bool)
    (state : KeysDownState) :
    (hosted.updateTimer key press state).lastReport = hosted.lastReport := by
  unfold updateTimer
  simp only
  split_ifs <;> rfl

/-- What holds of the tracked state whatever becomes of the writes. -/
structure SixSlots (hosted : Hosted) : Prop where
  full : hosted.keysDownState.keys.length = hidKeyBufferSize
  noRollOver : hosted.keysDownState.keys.head? ≠ some hidErrorRollOver

/-- The operation sends this report and tracks it. -/
structure Sends (hosted : Hosted) (label : Label) (report : KeysDownState) :
    Prop where
  full : report.keys.length = hidKeyBufferSize
  sends : (hosted.perform label).sends = true
  err : (hosted.perform label).err = label.write.err
  tracked : (hosted.perform label).next.keysDownState =
    clearedOnRollOver report.modifier report.keys
  lastReport : (hosted.perform label).next.lastReport =
    if label.write = .delivered then report else hosted.lastReport
  repeats_iff :
    clearedOnRollOver report.modifier report.keys = hosted.keysDownState ↔
      hosted.Repeats label.operation
  clearsUnseen_iff :
    (report.keys.head? = some hidErrorRollOver ∧
        report.keys ≠ List.replicate hidKeyBufferSize hidErrorRollOver) ↔
      hosted.ClearsUnseen label.operation

/-- The operation sends nothing, and no key it is to release is tracked. -/
structure SendsNothing (hosted : Hosted) (label : Label) : Prop where
  err : (hosted.perform label).err = none
  tracked : (hosted.perform label).next.keysDownState = hosted.keysDownState
  lastReport : (hosted.perform label).next.lastReport = hosted.lastReport
  released : ∀ key, hosted.AsksRelease key label.operation →
    key ∉ hosted.keysDownState.keys
  repeats : hosted.Repeats label.operation
  clearsSeen : ¬ hosted.ClearsUnseen label.operation

theorem SixSlots.sends_keyboardReport (sixSlots : hosted.SixSlots)
    (modifier : UInt8) (keys : List UInt8) (write : HidWrite) :
    hosted.Sends ⟨.keyboardReport modifier keys, write⟩
      ⟨modifier, sixKeys keys⟩ := by
  have full := length_sixKeys keys
  have applied := applyReport_writeAndUpdate hosted
    ⟨modifier, sixKeys keys⟩ full write
  have performed : hosted.perform ⟨.keyboardReport modifier keys, write⟩ =
      ⟨hosted.applyReport (writeAndUpdate hosted.keysDownState modifier
        (sixKeys keys) write) write, true, write.err⟩ := by
    simp only [perform, keyboardReport, keyboardReport_eq]
    cases write <;> rfl
  rw [applied] at performed
  refine ⟨full, ?_, ?_, ?_, ?_, ?_, Iff.rfl⟩
  · rw [performed]
  · rw [performed]
  · rw [performed]
  · rw [performed]
  · have cleared := clearedOnRollOver_keys_eq_iff modifier full
      sixSlots.noRollOver
    rw [← sameFields_iff, cleared]
    exact Iff.rfl

theorem SixSlots.sends_keypressReport (sixSlots : hosted.SixSlots)
    (key : UInt8) (press : Bool) (write : HidWrite) :
    hosted.Sends ⟨.keypressReport key press, write⟩
      (keypressed hosted.keysDownState key press) := by
  have full := length_keypressed sixSlots.full key press
  have applied := applyReport_writeAndUpdate hosted
    (keypressed hosted.keysDownState key press) full write
  have err : (hosted.perform ⟨.keypressReport key press, write⟩).err =
      write.err := by
    simp only [perform, keypressReport, keypressReport_eq]
    cases write <;> rfl
  refine ⟨full, rfl, err, ?_, ?_, ?_, ?_⟩
  · simp only [perform, keypressReport, keypressReport_eq,
      updateTimer_keysDownState, applied]
  · simp only [perform, keypressReport, keypressReport_eq,
      updateTimer_lastReport, applied]
  · exact repeatsKeypress_iff sixSlots.full sixSlots.noRollOver press
  · exact partlyRollsOver_iff sixSlots.full sixSlots.noRollOver press

theorem SixSlots.performAutoRelease_cases (sixSlots : hosted.SixSlots)
    (key : UInt8) (write : HidWrite) :
    hosted.Sends ⟨.performAutoRelease key, write⟩
        (keypressed hosted.keysDownState key false) ∨
      hosted.SendsNothing ⟨.performAutoRelease key, write⟩ := by
  by_cases timer : hosted.kbdAutoReleaseTimers key = true
  · by_cases held : key ∈ hosted.keysDownState.keys
    · left
      have full := length_keypressed sixSlots.full key false
      have applied := applyReport_writeAndUpdate
        (hosted.setTimer key false)
        (keypressed hosted.keysDownState key false) full write
      have performed : hosted.perform ⟨.performAutoRelease key, write⟩ =
          ⟨(hosted.setTimer key false).applyReport
            (writeAndUpdate hosted.keysDownState
              (keypressed hosted.keysDownState key false).modifier
              (keypressed hosted.keysDownState key false).keys write) write,
            true, write.err⟩ := by
        simp only [perform, performAutoRelease, timer, held, if_true,
          keypressReport_eq]
        cases write <;> rfl
      have sameTracked :
          (hosted.setTimer key false).keysDownState = hosted.keysDownState :=
        rfl
      rw [sameTracked] at applied
      rw [applied] at performed
      refine ⟨full, ?_, ?_, ?_, ?_, ?_, ?_⟩
      · rw [performed]
      · rw [performed]
      · rw [performed]
      · rw [performed]
        rfl
      · rw [repeatsKeypress_iff sixSlots.full sixSlots.noRollOver]
        simp [Repeats, timer, held]
      · rw [partlyRollsOver_iff sixSlots.full sixSlots.noRollOver]
        simp [ClearsUnseen, timer, held]
    · right
      have performed : hosted.perform ⟨.performAutoRelease key, write⟩ =
          ⟨hosted.setTimer key false, false, none⟩ := by
        simp [perform, performAutoRelease, timer, held]
      refine ⟨?_, ?_, ?_, ?_, ?_, ?_⟩
      · rw [performed]
      · rw [performed]
        rfl
      · rw [performed]
        rfl
      · rintro other ⟨rfl, -⟩
        exact held
      · exact fun _ member => absurd member held
      · exact fun clears => held clears.2.1
  · right
    have performed : hosted.perform ⟨.performAutoRelease key, write⟩ =
        ⟨hosted, false, none⟩ := by
      simp [perform, performAutoRelease, timer]
    refine ⟨?_, ?_, ?_, ?_, ?_, ?_⟩
    · rw [performed]
    · rw [performed]
    · rw [performed]
    · rintro other ⟨rfl, present⟩
      exact absurd present timer
    · exact fun present => absurd present timer
    · exact fun clears => timer clears.1

/-- Every operation sends a report or has nothing to send. -/
theorem SixSlots.perform_cases (sixSlots : hosted.SixSlots) (label : Label) :
    (∃ report, hosted.Sends label report) ∨ hosted.SendsNothing label := by
  obtain ⟨operation, write⟩ := label
  cases operation with
  | keyboardReport modifier keys =>
      exact Or.inl ⟨_, sixSlots.sends_keyboardReport modifier keys write⟩
  | keypressReport key press =>
      exact Or.inl ⟨_, sixSlots.sends_keypressReport key press write⟩
  | performAutoRelease key =>
      exact (sixSlots.performAutoRelease_cases key write).imp_left
        fun sends => ⟨_, sends⟩

/-- The tracked state after a report of six slots agrees with a host that was
sent it unless the report clears the tracked keys unseen. -/
theorem cleared_eq_shown_iff {report : KeysDownState}
    (full : report.keys.length = hidKeyBufferSize) :
    clearedOnRollOver report.modifier report.keys =
        ⟨report.modifier, shownKeys report.keys⟩ ↔
      ¬ (report.keys.head? = some hidErrorRollOver ∧
        report.keys ≠ List.replicate hidKeyBufferSize hidErrorRollOver) := by
  unfold clearedOnRollOver shownKeys
  by_cases ones :
      report.keys = List.replicate hidKeyBufferSize hidErrorRollOver
  · rw [ones]
    simp [hidKeyBufferSize]
  · by_cases rollsOver : report.keys.head? = some hidErrorRollOver
    · have notZeros : List.replicate hidKeyBufferSize 0 ≠ report.keys := by
        intro zeros
        rw [← zeros] at rollsOver
        simp [hidKeyBufferSize, hidErrorRollOver] at rollsOver
      simp [ones, rollsOver, List.map_const', full, notZeros]
    · simp [ones, rollsOver]

theorem sixSlots_initial : SixSlots {} where
  full := rfl
  noRollOver := by decide

theorem inAgreement_initial : InAgreement {} := by
  unfold InAgreement
  decide

section Step

variable {label : Label}

theorem SixSlots.next (sixSlots : hosted.SixSlots) :
    (hosted.perform label).next.SixSlots := by
  rcases sixSlots.perform_cases label with ⟨report, sent⟩ | nothing
  · refine ⟨?_, ?_⟩
    · rw [sent.tracked, length_clearedOnRollOver, sent.full]
    · rw [sent.tracked]
      exact clearedOnRollOver_head?_ne _ _
  · refine ⟨?_, ?_⟩
    · rw [nothing.tracked]
      exact sixSlots.full
    · rw [nothing.tracked]
      exact sixSlots.noRollOver

/-- Where the tracked state agrees with the host, an operation keeps the
agreement exactly when it is honest. -/
theorem SixSlots.inAgreement_next_iff (sixSlots : hosted.SixSlots)
    (agrees : hosted.InAgreement) :
    (hosted.perform label).next.InAgreement ↔ hosted.Honest label := by
  have same : hosted.keysDownState = hosted.hostState := agrees
  rcases sixSlots.perform_cases label with ⟨report, sent⟩ | nothing
  · unfold InAgreement hostState Honest
    rw [sent.tracked, sent.lastReport]
    by_cases delivered : label.write = .delivered
    · rw [if_pos delivered, if_pos delivered, cleared_eq_shown_iff sent.full,
        sent.clearsUnseen_iff]
    · rw [if_neg delivered, if_neg delivered, ← sent.repeats_iff, same]
      rfl
  · have kept : (hosted.perform label).next.InAgreement := by
      unfold InAgreement hostState
      rw [nothing.tracked, nothing.lastReport]
      exact agrees
    refine iff_of_true kept ?_
    unfold Honest
    split_ifs
    · exact nothing.clearsSeen
    · exact nothing.repeats

/-- What an operation promises comes down to keeping the agreement. -/
theorem SixSlots.keepsAgreement_iff (sixSlots : hosted.SixSlots)
    (agrees : hosted.InAgreement) :
    hosted.KeepsAgreement label ↔ hosted.Honest label := by
  have same : hosted.keysDownState = hosted.hostState := agrees
  rw [← sixSlots.inAgreement_next_iff agrees]
  constructor
  · intro keeps
    by_cases delivered : label.write = .delivered
    · apply keeps.nil_agrees
      rcases sixSlots.perform_cases label with ⟨report, sent⟩ | nothing
      · rw [sent.err, delivered]
        rfl
      · exact nothing.err
    · rcases keeps.not_advanced delivered with unchanged | inAgreement
      · have sameReport : (hosted.perform label).next.lastReport =
            hosted.lastReport := by
          rcases sixSlots.perform_cases label with ⟨report, sent⟩ | nothing
          · rw [sent.lastReport, if_neg delivered]
          · exact nothing.lastReport
        unfold InAgreement hostState
        rw [unchanged, sameReport]
        exact agrees
      · exact inAgreement
  · intro inAgreement
    refine ⟨fun _ => inAgreement, fun _ => Or.inr inAgreement, ?_⟩
    intro key _ asks held
    rcases sixSlots.perform_cases label with ⟨report, sent⟩ | nothing
    · exact sent.sends
    · rw [← same] at held
      exact absurd held (nothing.released key asks)

end Step

/-- The operations of a history keep their promises, and the tracked state
agrees with the host throughout, exactly when every delivered report means the
same to both sides and every other one changes nothing. -/
theorem keepsAgreement_iff_honest (labels : List Label) :
    (AllSteps step KeepsAgreement {} labels ∧
        AllStates step InAgreement {} labels) ↔
      AllSteps step Honest {} labels := by
  have initial : SixSlots {} ∧ InAgreement {} :=
    ⟨sixSlots_initial, inAgreement_initial⟩
  refine @allSteps_and_allStates_iff Hosted Label step
    (fun hosted => hosted.SixSlots ∧ hosted.InAgreement) InAgreement Honest
    KeepsAgreement (fun both => both.2) ?_ ?_ {} initial labels
  · rintro hosted next label ⟨sixSlots, agrees⟩ honest taken
    obtain rfl := Option.some.inj taken
    exact ⟨sixSlots.next, (sixSlots.inAgreement_next_iff agrees).mpr honest⟩
  · rintro hosted next label ⟨sixSlots, agrees⟩ -
    exact (sixSlots.keepsAgreement_iff agrees).symm

/-- A key is pressed, and the write of its release misses the deadline. -/
def timedOutRelease : List Label :=
  [⟨.keypressReport 4 true, .delivered⟩, ⟨.keypressReport 4 false, .timedOut⟩]

/-- The release returns nil and the key is no longer tracked, while the host
still has it down. -/
theorem timedOutRelease_not_keepsAgreement :
    ¬ AllSteps step KeepsAgreement {} timedOutRelease := by
  intro keeps
  obtain ⟨-, afterPress⟩ := keeps _ rfl
  obtain ⟨release, -⟩ := afterPress _ rfl
  have agrees := release.nil_agrees rfl
  revert agrees
  unfold InAgreement
  decide

end Hosted

end UsbGadget

end JetKvm
