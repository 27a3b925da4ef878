import JetKvm.ConsoleText
import Mathlib.Tactic.IntervalCases

/-!
# The normalizer of the serial console

`normalize` reads all of any text, writes no control bytes but the line endings
it was told to write, and passes on every byte that is not a control byte.
-/

namespace JetKvm

namespace Console

/-! ### The loop ends -/

/-- A run of the loop over the text, with what it writes -/
inductive Normalizes (opt : NormalizationOptions) : Bytes → Bytes → Prop where
  | done : Normalizes opt [] []
  | round {b : UInt8} {rest written : Bytes} :
      Normalizes opt (normalizeNext opt b rest).2 written →
      Normalizes opt (b :: rest) ((normalizeNext opt b rest).1 ++ written)

theorem csi_append (rest : Bytes) : (csi rest).1 ++ (csi rest).2 = rest := by
  unfold csi
  dsimp only
  rw [List.append_assoc, List.take_append_drop]
  exact List.takeWhile_append_dropWhile

theorem osc_append (rest : Bytes) : (osc rest).1 ++ (osc rest).2 = rest := by
  induction rest with
  | nil => rfl
  | cons c rest ih =>
      rw [osc]
      split
      · rfl
      · split
        · rename_i terminator
          obtain ⟨rest, rfl⟩ := List.head?_eq_some_iff.mp terminator.2
          rw [terminator.1]
          rfl
        · exact congrArg (c :: ·) ih

section Loop

variable {opt : NormalizationOptions}

/-- A control sequence is passed on as it is. -/
theorem sequence_append {b c : UInt8} {rest : Bytes} {parts : Bytes × Bytes}
    (starts : rest.head? = some c) (same : parts.1 ++ parts.2 = rest.drop 1) :
    (b :: c :: parts.1) ++ parts.2 = b :: rest := by
  obtain ⟨rest, rfl⟩ := List.head?_eq_some_iff.mp starts
  exact congrArg (b :: c :: ·) same

/-- What is left to be read is an end of what follows the byte. -/
theorem normalizeNext_suffix (b : UInt8) (rest : Bytes) :
    (normalizeNext opt b rest).2 <:+ rest := by
  have after : ∀ parts : Bytes × Bytes, parts.1 ++ parts.2 = rest.drop 1 →
      parts.2 <:+ rest := fun parts same =>
    (show parts.2 <:+ rest.drop 1 from ⟨parts.1, same⟩).trans
      (List.drop_suffix 1 rest)
  unfold normalizeNext
  split
  · exact after (csi _) (csi_append _)
  · split
    · exact after (osc _) (osc_append _)
    · split
      · dsimp only
        split
        · exact List.drop_suffix 1 rest
        · exact List.suffix_refl _
      · split
        · exact List.suffix_refl _
        · split
          · exact List.suffix_refl _
          · exact List.suffix_refl _

/-- As many rounds as there are bytes read everything. -/
theorem normalizes_normalizeLoop {rounds : Nat} {text : Bytes}
    (enough : text.length ≤ rounds) :
    Normalizes opt text (normalizeLoop opt rounds text) := by
  induction rounds generalizing text with
  | zero =>
      obtain rfl := List.length_eq_zero_iff.mp (Nat.le_zero.mp enough)
      exact .done
  | succ rounds ih =>
      cases text with
      | nil => exact .done
      | cons b rest =>
          have fewer := (@normalizeNext_suffix opt b rest).length_le
          rw [List.length_cons] at enough
          exact .round (ih (by omega))

theorem normalizes_normalize (opt : NormalizationOptions) (text : Bytes) :
    Normalizes opt text (normalize opt text) :=
  normalizes_normalizeLoop (Nat.le_refl _)

theorem Normalizes.unique {text first second : Bytes}
    (here : Normalizes opt text first) (there : Normalizes opt text second) :
    first = second := by
  induction here generalizing second with
  | done =>
      cases there
      rfl
  | round _ ih =>
      cases there with
      | round later => rw [ih later]

theorem normalize_eq_iff {text written : Bytes} :
    normalize opt text = written ↔ Normalizes opt text written := by
  refine ⟨?_, (normalizes_normalize opt text).unique⟩
  rintro rfl
  exact normalizes_normalize opt text

theorem normalize_cons (opt : NormalizationOptions) (b : UInt8) (rest : Bytes) :
    normalize opt (b :: rest) =
      (normalizeNext opt b rest).1 ++
        normalize opt (normalizeNext opt b rest).2 :=
  normalize_eq_iff.mpr (.round (normalizes_normalize _ _))

end Loop

/-! ### Control bytes -/

def IsControl (x : UInt8) : Prop := x < 0x20 ∨ x = 0x7F

instance (x : UInt8) : Decidable (IsControl x) :=
  inferInstanceAs (Decidable (_ ∨ _))

/-- What the normalizer may leave of a tab -/
def IsKeptTab (opt : NormalizationOptions) (x : UInt8) : Prop :=
  x = 9 ∧ opt.tabRender = []

/-- The bytes of the line endings that are written -/
def lineEndingBytes (mode : LineEndingMode) : Bytes := (eols mode).flatten

theorem printable_of_all {text : Bytes}
    (all : (text.all fun x => ¬ IsControl x) = true) :
    ∀ x ∈ text, ¬ IsControl x :=
  fun x member => of_decide_eq_true (List.all_eq_true.mp all x member)

theorem printable_of_toNat {x : UInt8} (low : 32 ≤ x.toNat)
    (high : x.toNat < 127) : ¬ IsControl x := by
  rintro (control | rfl)
  · have small : x.toNat < 32 := control
    omega
  · exact absurd high (by decide)

theorem printable_newlineTag (b : UInt8) (pair : Bool) :
    ∀ x ∈ newlineTag b pair, ¬ IsControl x := by
  unfold newlineTag
  split
  · split <;> exact printable_of_all (by decide)
  · split <;> exact printable_of_all (by decide)

theorem printable_hexDigit {n : Nat} (small : n < 16) :
    ¬ IsControl (hexDigit n) := by
  interval_cases n <;> decide

theorem printable_hexByte (b : UInt8) : ∀ x ∈ hexByte b, ¬ IsControl x := by
  have bound := b.toNat_lt
  exact List.forall_mem_cons.mpr ⟨printable_hexDigit (by omega),
    List.forall_mem_singleton.mpr (printable_hexDigit (by omega))⟩

theorem printable_controlNames :
    ∀ n ∈ controlNames, ∀ x ∈ ascii n, ¬ IsControl x := by
  have table : (controlNames.all fun n =>
      (ascii n).all fun x => ¬ IsControl x) = true := by
    decide
  exact fun n member =>
    printable_of_all (List.all_eq_true.mp table n member)

/-- A control byte is written in printable ones, in every mode. -/
theorem printable_control {b : UInt8} (isControl : IsControl b)
    (mode : NormalizeMode) : ∀ x ∈ control mode b, ¬ IsControl x := by
  cases mode with
  | caret =>
      unfold control
      dsimp only
      split
      · exact printable_of_all (by decide)
      · rename_i notDEL
        have small : b.toNat < 32 := isControl.resolve_right notDEL
        have sum : (64 + b).toNat = 64 + b.toNat := by
          rw [UInt8.toNat_add]
          exact Nat.mod_eq_of_lt (by simp; omega)
        exact List.forall_mem_append.mpr ⟨printable_of_all (by decide),
          List.forall_mem_singleton.mpr
            (printable_of_toNat (by omega) (by omega))⟩
  | names =>
      unfold control
      dsimp only
      split
      · rename_i n named
        refine List.forall_mem_append.mpr ⟨List.forall_mem_append.mpr
          ⟨printable_of_all (by decide), ?_⟩, printable_of_all (by decide)⟩
        split at named
        · obtain rfl := Option.some.inj named
          exact printable_of_all (by decide)
        · exact printable_controlNames n (List.mem_of_getElem? named)
      · exact List.forall_mem_append.mpr
          ⟨printable_of_all (by decide), printable_hexByte b⟩
  | hex =>
      exact List.forall_mem_append.mpr
        ⟨printable_of_all (by decide), printable_hexByte b⟩

/-! ### What is written -/

section Written

variable {opt : NormalizationOptions}

theorem newline_subset {b : UInt8} (newlineByte : b = cr ∨ b = lf)
    (mode : LineEndingMode) (rest : Bytes) :
    ∀ x ∈ newline mode b rest, x ∈ lineEndingBytes mode := by
  cases mode with
  | asIs =>
      have table : ∀ x, x = cr ∨ x = lf → x ∈ lineEndingBytes .asIs := by
        rintro x (rfl | rfl) <;> decide
      unfold newline
      dsimp only
      split
      · rename_i pair
        cases rest with
        | nil => simp [isPair] at pair
        | cons c rest =>
            refine List.forall_mem_cons.mpr ⟨table b newlineByte,
              List.forall_mem_singleton.mpr (table c ?_)⟩
            simp [isPair] at pair
            rcases pair with ⟨-, rfl⟩ | ⟨-, rfl⟩
            · exact .inr rfl
            · exact .inl rfl
      · exact List.forall_mem_singleton.mpr (table b newlineByte)
  | _ => exact fun x member => member

/-- One round writes no control byte but what it was told to write. -/
theorem control_of_mem_normalizeNext (noANSI : opt.preserveANSI = false)
    (cleanTab : ∀ x ∈ opt.tabRender, ¬ IsControl x) (b : UInt8) (rest : Bytes) :
    ∀ x ∈ (normalizeNext opt b rest).1, IsControl x →
      x ∈ lineEndingBytes opt.lineEnding ∨ IsKeptTab opt x := by
  unfold normalizeNext
  rw [if_neg (by simp [noANSI]), if_neg (by simp [noANSI])]
  split
  · rename_i newlineByte
    refine List.forall_mem_append.mpr ⟨fun x member isControl => ?_,
      fun x member _ => .inl (newline_subset newlineByte _ rest x member)⟩
    split at member
    · exact absurd isControl (printable_newlineTag b _ x member)
    · cases member
  · split
    · rename_i isTab
      dsimp only
      split
      · exact fun x member isControl =>
          absurd isControl (cleanTab x member)
      · rename_i noRender
        exact List.forall_mem_singleton.mpr
          fun _ => .inr ⟨isTab, not_not.mp noRender⟩
    · split
      · rename_i isControl
        exact fun x member control =>
          absurd control (printable_control isControl opt.mode x member)
      · rename_i printable
        exact List.forall_mem_singleton.mpr
          fun control => absurd control printable

theorem control_of_mem_normalize (noANSI : opt.preserveANSI = false)
    (cleanTab : ∀ x ∈ opt.tabRender, ¬ IsControl x) (text : Bytes) :
    ∀ x ∈ normalize opt text, IsControl x →
      x ∈ lineEndingBytes opt.lineEnding ∨ IsKeptTab opt x := by
  have run := normalizes_normalize opt text
  generalize normalize opt text = written at run ⊢
  induction run with
  | done => exact List.forall_mem_nil _
  | round _ ih =>
      exact List.forall_mem_append.mpr
        ⟨control_of_mem_normalizeNext noANSI cleanTab _ _, ih⟩

/-- The bytes that are no control bytes -/
def printables (text : Bytes) : Bytes := text.filter fun x => ¬ IsControl x

theorem printables_cons_of_control {b : UInt8} (isControl : IsControl b)
    (rest : Bytes) : printables (b :: rest) = printables rest :=
  List.filter_cons_of_neg (by simpa using isControl)

/-- What is copied whole loses no printable byte. -/
theorem printables_sublist_of_append {text front rest : Bytes}
    (same : front ++ rest = text) :
    (printables text).Sublist (front ++ printables rest) := by
  subst text
  unfold printables
  rw [List.filter_append]
  exact List.filter_sublist.append_right _

/-- The second byte of a pair of newlines is not printable either. -/
theorem printables_drop_of_isPair {b : UInt8} {rest : Bytes}
    (pair : isPair b rest = true) :
    printables (rest.drop 1) = printables rest := by
  cases rest with
  | nil => rfl
  | cons c rest =>
      have second : IsControl c := by
        simp [isPair] at pair
        rcases pair with ⟨-, rfl⟩ | ⟨-, rfl⟩ <;> decide
      exact (printables_cons_of_control second rest).symm

/-- One round passes the printable bytes on that it reads. -/
theorem printables_normalizeNext (b : UInt8) (rest : Bytes) :
    (printables (b :: rest)).Sublist
      ((normalizeNext opt b rest).1 ++
        printables (normalizeNext opt b rest).2) := by
  unfold normalizeNext
  split
  · rename_i ansi
    exact printables_sublist_of_append (sequence_append ansi.2.2 (csi_append _))
  · split
    · rename_i ansi
      exact printables_sublist_of_append (sequence_append ansi.2.2 (osc_append _))
    · split
      · rename_i newlineByte
        have control : IsControl b := by
          rcases newlineByte with rfl | rfl <;> decide
        rw [printables_cons_of_control control]
        refine (?_ : (printables rest).Sublist _).trans
          (List.sublist_append_right _ _)
        dsimp only
        split
        · rename_i pair
          rw [printables_drop_of_isPair pair]
        · exact List.Sublist.refl _
      · split
        · rename_i isTab
          rw [isTab, printables_cons_of_control (by decide)]
          exact List.sublist_append_right _ _
        · split
          · rename_i isControl
            rw [printables_cons_of_control isControl]
            exact List.sublist_append_right _ _
          · rename_i printable
            have notControl : ¬ IsControl b := printable
            have kept : printables (b :: rest) = b :: printables rest :=
              List.filter_cons_of_pos (by simpa using notControl)
            rw [kept]
            exact List.Sublist.refl _

theorem printables_normalize (text : Bytes) :
    (printables text).Sublist (normalize opt text) := by
  have run := normalizes_normalize opt text
  generalize normalize opt text = written at run ⊢
  induction run with
  | done => exact List.Sublist.refl _
  | round _ ih =>
      exact (printables_normalizeNext _ _).trans (ih.append_left _)

end Written

/-- The loop ends on every text, and where it does not preserve control
sequences it leaves none that an escape byte begins. -/
theorem normalize_ends_and_is_safe (opt : NormalizationOptions) (text : Bytes) :
    (∃! written, Normalizes opt text written) ∧
    Normalizes opt text (normalize opt text) ∧
    (printables text).Sublist (normalize opt text) ∧
    (opt.preserveANSI = false → (∀ x ∈ opt.tabRender, ¬ IsControl x) →
      (∀ x ∈ normalize opt text, IsControl x →
        x ∈ lineEndingBytes opt.lineEnding ∨ IsKeptTab opt x) ∧
      esc ∉ normalize opt text) := by
  have run := normalizes_normalize opt text
  refine ⟨⟨_, run, fun _ other => other.unique run⟩, run,
    printables_normalize text, fun noANSI cleanTab => ?_⟩
  have told := control_of_mem_normalize noANSI cleanTab text
  refine ⟨told, fun member => ?_⟩
  rcases told esc member (by decide) with ending | tab
  · have none : ∀ mode, esc ∉ lineEndingBytes mode := by
      intro mode
      cases mode <;> decide
    exact none _ ending
  · exact absurd tab.1 (by decide)

/-- A color sequence of the target is shown, not obeyed. -/
theorem normalize_ends_and_is_safe_color :
    (∀ x ∈ normalize {} (esc :: ascii "[31m"), IsControl x →
      x ∈ lineEndingBytes .asIs ∨ IsKeptTab {} x) ∧
    esc ∉ normalize {} (esc :: ascii "[31m") :=
  (normalize_ends_and_is_safe {} (esc :: ascii "[31m")).2.2.2 rfl
    (List.forall_mem_nil _)

end Console

end JetKvm
