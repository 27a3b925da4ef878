import JetKvm.HidRpcDispatch

/-!
# The length check of a keyboard macro

`KeyboardMacroReport` compares the length of a payload with `9 * n + 5` for the
step count `n` of its header, computed in an `int` of 32 bits.  The product may
wrap.
-/

namespace JetKvm

namespace HidRpc

open Outcome

/-- The length check of `KeyboardMacroReport` -/
def PassesLengthCheck (d : Slice UInt8) (count : UInt32) : Prop :=
  (d.length : Int) = (count.toInt32 * 9 + 5).toInt

instance (d : Slice UInt8) (count : UInt32) :
    Decidable (PassesLengthCheck d count) :=
  inferInstanceAs (Decidable (_ = _))

/-- The payload of a macro is decoded to the report. -/
def DecodesTo (d : Slice UInt8) (report : KeyboardMacroReport) : Prop :=
  Message.keyboardMacroReport ⟨typeKeyboardMacroReport, d⟩ = .ok (.ok report)

/-- What the length check is there for -/
structure LengthChecked (d : Slice UInt8) (count : UInt32) : Prop where
  returns : (∃ report, DecodesTo d report) ↔ d.length = 5 + 9 * count.toNat
  steps : ∀ report, DecodesTo d report →
    count.toInt32.toInt = count.toNat ∧ report.steps.length = count.toNat
  unwrapped : PassesLengthCheck d count → d.length = 5 + 9 * count.toNat

variable {d : Slice UInt8} {count : UInt32}

theorem length_keyboardMacroSteps {passes offset : Nat}
    {steps : List KeyboardMacroStep}
    (decoded : keyboardMacroSteps d passes offset = .ok steps) :
    steps.length = passes := by
  induction passes generalizing offset steps with
  | zero =>
      obtain rfl := Except.ok.inj decoded
      rfl
  | succ passes ih =>
      simp only [keyboardMacroSteps] at decoded
      cases first : keyboardMacroStepAt d offset with
      | error panic => simp [first, bind, Except.bind] at decoded
      | ok step =>
          cases others : keyboardMacroSteps d passes
              (offset + (1 + hidKeyBufferSize + 2)) with
          | error panic => simp [first, others, bind, Except.bind] at decoded
          | ok rest =>
              simp only [first, others, bind, Except.bind] at decoded
              obtain rfl := Except.ok.inj decoded
              rw [List.length_cons, ih others]

/-- With its header in place a payload is decided by what follows the header's
two reads. -/
theorem keyboardMacroReport_eq_body (present : 1 ≤ d.length)
    (declared : declaredStepCount d = some count) :
    Message.keyboardMacroReport ⟨typeKeyboardMacroReport, d⟩ =
      keyboardMacroReportBody d (d.elements.get ⟨0, present⟩) count := by
  have header := (readStepCount_eq_ok_iff d count).mpr declared
  simp only [Message.keyboardMacroReport, ne_eq, not_true_eq_false, if_false]
  rw [Slice.index_of_lt present]
  simp only [bind, Except.bind] at header ⊢
  cases window : d.between 1 5 with
  | error panic => simp [window] at header
  | ok bytes =>
      simp only [window] at header ⊢
      rw [header]

theorem body_eq_ok_iff {isPaste : UInt8} {report : KeyboardMacroReport} :
    keyboardMacroReportBody d isPaste count = .ok (.ok report) ↔
      PassesLengthCheck d count ∧
        makeSlice keyboardMacroStepSize count.toInt32 = .ok () ∧
        ∃ steps,
          keyboardMacroSteps d count.toInt32.toNatClampNeg 5 = .ok steps ∧
            ⟨isPaste == 1, count, steps⟩ = report := by
  unfold keyboardMacroReportBody PassesLengthCheck
  by_cases passes : (d.length : Int) = (count.toInt32 * 9 + 5).toInt
  · rw [if_neg (not_not_intro passes)]
    simp only [passes, true_and, bind, Except.bind]
    cases makeSlice keyboardMacroStepSize count.toInt32 with
    | error panic => simp
    | ok made =>
        cases keyboardMacroSteps d count.toInt32.toNatClampNeg 5 with
        | error panic => simp
        | ok steps => simp [pure, Except.pure]
  · rw [if_pos passes]
    refine iff_of_false ?_ fun both => passes both.1
    intro decoded
    cases Except.ok.inj decoded

section Declared

variable (present : 1 ≤ d.length) (declared : declaredStepCount d = some count)

include present declared

/-- A payload is decoded if it passes the check with a count that `make`
accepts. -/
theorem decodes_iff :
    (∃ report, DecodesTo d report) ↔
      PassesLengthCheck d count ∧
        keyboardMacroStepSize * count.toNat < 2 ^ 32 := by
  unfold DecodesTo
  rw [keyboardMacroReport_eq_body present declared]
  constructor
  · rintro ⟨report, decoded⟩
    have passes := (body_eq_ok_iff.mp decoded).1
    have returns := keyboardMacroReportBody_returns_iff d
      (d.elements.get ⟨0, present⟩) count
    exact ⟨passes, returns.mp ⟨_, decoded⟩ passes⟩
  · rintro ⟨passes, fits⟩
    have bound : 20 * count.toNat < 2 ^ 32 := fits
    have length : (d.length : Int) = 9 * count.toNat + 5 :=
      passes.trans (expectedLength_of_lt fits)
    obtain ⟨made, makes⟩ : Returns (makeSlice keyboardMacroStepSize _) :=
      (makeSlice_toInt32_returns_iff (by decide)).mpr fits
    have toNat : count.toInt32.toNatClampNeg = count.toNat := by
      rw [Int32.toNatClampNeg, toInt_toInt32_of_lt (by omega),
        Int.toNat_natCast]
    obtain ⟨steps, read⟩ :=
      keyboardMacroSteps_returns d count.toNat 5 (by omega)
    rw [← toNat] at read
    exact ⟨_, body_eq_ok_iff.mpr ⟨passes, makes, steps, read, rfl⟩⟩

/-- A report has as many steps as its count says. -/
theorem length_steps_of_decodesTo {report : KeyboardMacroReport}
    (decoded : DecodesTo d report) :
    count.toInt32.toInt = count.toNat ∧ report.steps.length = count.toNat := by
  have fits := ((decodes_iff present declared).mp ⟨report, decoded⟩).2
  have bound : 20 * count.toNat < 2 ^ 32 := fits
  have converted : count.toInt32.toInt = count.toNat :=
    toInt_toInt32_of_lt (by omega)
  unfold DecodesTo at decoded
  rw [keyboardMacroReport_eq_body present declared] at decoded
  obtain ⟨-, -, steps, read, rfl⟩ := body_eq_ok_iff.mp decoded
  refine ⟨converted, ?_⟩
  rw [length_keyboardMacroSteps read, Int32.toNatClampNeg, converted,
    Int.toNat_natCast]

end Declared

/-- A length that an `int` holds passes the check if it is right. -/
theorem passesLengthCheck_of_length (small : d.length < 2 ^ 31)
    (length : d.length = 5 + 9 * count.toNat) : PassesLengthCheck d count := by
  have converted : count.toInt32.toInt = count.toNat :=
    toInt_toInt32_of_lt (by omega)
  have nine : (9 : Int32).toInt = 9 := rfl
  have five : (5 : Int32).toInt = 5 := rfl
  unfold PassesLengthCheck
  rw [Int32.toInt_add, Int32.toInt_mul, converted, nine, five]
  simp only [Int.bmod_def]
  omega

/-- The length check of a payload does what it is there for exactly if no count
passes it that `make` refuses. -/
theorem lengthChecked_iff (header : 5 ≤ d.length) (small : d.length < 2 ^ 31)
    (declared : declaredStepCount d = some count) :
    LengthChecked d count ↔
      (PassesLengthCheck d count →
        keyboardMacroStepSize * count.toNat < 2 ^ 32) := by
  have present : 1 ≤ d.length := by omega
  have decodes := decodes_iff present declared
  constructor
  · intro checked passes
    exact (decodes.mp (checked.returns.mpr (checked.unwrapped passes))).2
  · intro accepted
    have unwrapped (passes : PassesLengthCheck d count) :
        d.length = 5 + 9 * count.toNat := by
      have length := passes.trans (expectedLength_of_lt (accepted passes))
      omega
    refine ⟨?_, fun _ => length_steps_of_decodesTo present declared, unwrapped⟩
    rw [decodes]
    refine ⟨fun both => unwrapped both.1, fun length => ?_⟩
    have passes := passesLengthCheck_of_length small length
    exact ⟨passes, accepted passes⟩

theorem lengthChecked_iff_one_step :
    LengthChecked ⟨[0, 0, 0, 0, 1, 2, 4, 0, 0, 0, 0, 0, 0, 20], []⟩ 1 ↔
      (PassesLengthCheck
          ⟨[0, 0, 0, 0, 1, 2, 4, 0, 0, 0, 0, 0, 0, 20], []⟩ 1 →
        keyboardMacroStepSize * (1 : UInt32).toNat < 2 ^ 32) :=
  lengthChecked_iff (by decide) (by decide) rfl

/-- A payload of six bytes with the count 954437177: nine times that is one more
than a multiple of 2^32. -/
def wrappedMacro : Slice UInt8 :=
  ⟨[0x00, 0x38, 0xE3, 0x8E, 0x39, 0x00], []⟩

theorem wrappedMacro_not_lengthChecked :
    ¬ ∀ (d : Slice UInt8) (count : UInt32), 5 ≤ d.length →
      d.length < 2 ^ 31 → declaredStepCount d = some count →
        LengthChecked d count := by
  intro checked
  have macroChecked :=
    checked wrappedMacro 954437177 (by decide) (by decide) rfl
  have length := macroChecked.unwrapped (by decide)
  revert length
  decide

end HidRpc

end JetKvm
