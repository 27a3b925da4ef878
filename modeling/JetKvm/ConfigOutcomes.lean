import JetKvm.ConfigStructs

/-!
# What can come of checking a struct

Over all orders in which the fields, the conditions and what is nested are gone
through: whether the check may pass, fail, panic, or fail after it has changed
something.  Each is told by the fields alone; what a check that passes leaves
does not depend on the orders.
-/

namespace JetKvm

namespace ConfStruct

open ConfParser (Parsers)
open OrderedVisits

variable {Nested Order : Type}

/-- What can come of a check in some order, and what is left if it passes -/
structure Outcomes (Subject : Type) where
  passes : Subject → Prop
  fails : Subject → Prop
  panics : Subject → Prop
  spoils : Subject → Prop
  filled : Subject → Subject

structure Realises (check : Order → Nested → Nested × Checked Unit)
    (outcomes : Outcomes Nested) : Prop where
  passes_iff : ∀ s, outcomes.passes s ↔ ∃ order, (check order s).2 = .ok ()
  fails_iff : ∀ s, outcomes.fails s ↔
    ∃ order message, (check order s).2 = .error message
  panics_iff : ∀ s, outcomes.panics s ↔ ∃ order, (check order s).2 = .panic
  spoils_iff : ∀ s, outcomes.spoils s ↔
    ∃ order message, (check order s).2 = .error message ∧ (check order s).1 ≠ s
  left_of_ok : ∀ order s, (check order s).2 = .ok () →
    (check order s).1 = outcomes.filled s

namespace FieldConfig

variable (configs : List (FieldConfig Nested)) (config : FieldConfig Nested)

/-! ### Whether a field is required -/

def Finds (result : Checked Bool) : Prop :=
  config.required = false ∧
    ∃ condition ∈ config.requiredIf, findsMet configs condition = some result

/-- By its tag or by a condition, in some order -/
def Asked : Prop :=
  config.required = true ∨ config.Finds configs (.ok true)

/-- No condition finds anything, in any order. -/
def Unasked : Prop :=
  config.required = false ∧
    ∀ condition ∈ config.requiredIf, findsMet configs condition = none

instance : Decidable (config.Finds configs result) :=
  inferInstanceAs (Decidable (_ ∧ ∃ condition ∈ config.requiredIf, _ = _))

instance : Decidable (config.Asked configs) :=
  inferInstanceAs (Decidable (_ = _ ∨ FieldConfig.Finds _ _ _))

variable {configs config}

theorem findsMet_ne_ok_false {condition : String × String} :
    findsMet configs condition ≠ some (.ok false) := by
  rw [findsMet]
  cases configs.find? fun config => config.name = condition.1 with
  | none => simp
  | some other =>
      cases value : other.currentValue <;> simp only [value, Value.findsMet]
      all_goals first | split <;> simp | simp

theorem exists_isRequired_iff {result : Checked Bool}
    (distinct : (config.requiredIf.map Prod.fst).Nodup)
    (found : result ≠ .ok false) :
    (∃ rank, config.isRequired configs rank = result) ↔
      config.required = true ∧ result = .ok true ∨
        config.Finds configs result := by
  cases required : config.required with
  | true => simp [isRequired, Finds, required, eq_comm]
  | false =>
      have searched := @exists_findSome_iff _ _ _ _ Prod.fst config.requiredIf
        (findsMet configs) result distinct
      simp only [isRequired, Finds, required, Bool.false_eq_true, if_false,
        false_and, false_or, true_and]
      rw [← searched]
      refine exists_congr fun rank => ?_
      cases (inOrder Prod.fst rank config.requiredIf).findSome?
        (findsMet configs) with
      | none => simp [found.symm]
      | some first => simp

theorem isRequired_eq_false_iff (rank : String → Nat) :
    config.isRequired configs rank = .ok false ↔ config.Unasked configs := by
  cases required : config.required with
  | true => simp [isRequired, Unasked, required]
  | false =>
      have searched := @findSome_eq_none_iff _ _ _ Prod.fst config.requiredIf
        (findsMet configs) rank
      simp only [isRequired, Unasked, required, Bool.false_eq_true, if_false,
        true_and]
      rw [← searched]
      cases first : (inOrder Prod.fst rank config.requiredIf).findSome?
        (findsMet configs) with
      | none => simp
      | some result =>
          obtain ⟨condition, -, isResult⟩ :=
            List.exists_of_findSome?_eq_some first
          have other : result ≠ .ok false := by
            rintro rfl
            exact findsMet_ne_ok_false isResult
          simp [other]

theorem not_asked_of_unasked (unasked : config.Unasked configs) :
    ¬config.Asked configs := by
  rintro (required | ⟨-, condition, member, met⟩)
  · exact absurd required (by simp [unasked.1])
  · rw [unasked.2 condition member] at met
    cases met

section Required

variable (distinct : (config.requiredIf.map Prod.fst).Nodup)

include distinct

theorem exists_required_iff :
    (∃ rank, config.validateRequired configs rank = .ok true) ↔
      config.Asked configs ∧ config.currentValue.isEmpty = false := by
  have required := @exists_isRequired_iff _ configs config (.ok true) distinct
    (by simp)
  simp only [and_true] at required
  rw [Asked, ← required, ← exists_and_right]
  refine exists_congr fun rank => ?_
  rw [validateRequired]
  cases config.isRequired configs rank with
  | ok value => cases value <;> cases config.currentValue.isEmpty <;> simp
  | error message => simp
  | panic => simp

theorem exists_validateRequired_error_iff :
    (∃ rank message, config.validateRequired configs rank = .error message) ↔
      config.Asked configs ∧ config.currentValue.isEmpty = true ∨
        ∃ message, config.Finds configs (.error message) := by
  have required := @exists_isRequired_iff _ configs config (.ok true) distinct
    (by simp)
  have stumbles := fun message =>
    @exists_isRequired_iff _ configs config (.error message) distinct (by simp)
  simp only [and_true, reduceCtorEq, and_false, false_or] at required stumbles
  rw [Asked, ← required]
  simp only [← stumbles]
  rw [← exists_and_right, @exists_comm String (String → Nat), ← exists_or]
  refine exists_congr fun rank => ?_
  rw [validateRequired]
  cases config.isRequired configs rank with
  | ok value => cases value <;> cases config.currentValue.isEmpty <;> simp
  | error message => simp
  | panic => simp

theorem exists_validateRequired_panic_iff :
    (∃ rank, config.validateRequired configs rank = .panic) ↔
      config.Finds configs .panic := by
  have stumbles := @exists_isRequired_iff _ configs config .panic distinct
    (by simp)
  simp only [reduceCtorEq, and_false, false_or] at stumbles
  rw [← stumbles]
  refine exists_congr fun rank => ?_
  rw [validateRequired]
  cases config.isRequired configs rank with
  | ok value => cases value <;> cases config.currentValue.isEmpty <;> simp
  | error message => simp
  | panic => simp

end Required

theorem validateRequired_eq_false_iff (rank : String → Nat) :
    config.validateRequired configs rank = .ok false ↔
      config.Unasked configs := by
  rw [← isRequired_eq_false_iff rank, validateRequired]
  cases config.isRequired configs rank with
  | ok value => cases value <;> cases config.currentValue.isEmpty <;> simp
  | error message => simp
  | panic => simp

/-! ### Visiting a field -/

section Visits

variable (parsers : Parsers) (outcomes : Outcomes Nested)
variable (configs) (config)

def passes : Prop :=
  config.validateValue parsers = .ok () ∧
    (config.Unasked configs ∨
      config.Asked configs ∧ config.currentValue.isEmpty = false ∧
        (∀ inner, config.currentValue ≠ .struct inner) ∧
        ∀ inner, config.currentValue = .pointer (some inner) →
          outcomes.passes inner)

def fails : Prop :=
  config.Asked configs ∧ config.currentValue.isEmpty = true ∨
    (∃ message, config.Finds configs (.error message)) ∨
    config.validateValue parsers ≠ .ok () ∧
      (config.Unasked configs ∨ config.Asked configs) ∨
    config.validateValue parsers = .ok () ∧ config.Asked configs ∧
      ∃ inner, config.currentValue = .pointer (some inner) ∧
        outcomes.fails inner

def panics : Prop :=
  config.Finds configs .panic ∨
    config.validateValue parsers = .ok () ∧ config.Asked configs ∧
      ((∃ inner, config.currentValue = .struct inner) ∨
        ∃ inner, config.currentValue = .pointer (some inner) ∧
          outcomes.panics inner)

def spoils : Prop :=
  config.validateValue parsers = .ok () ∧ config.Asked configs ∧
    ∃ inner, config.currentValue = .pointer (some inner) ∧ outcomes.spoils inner

def filled : Value Nested :=
  match config.currentValue with
  | .pointer (some inner) =>
      if config.Asked configs then .pointer (some (outcomes.filled inner))
      else config.currentValue
  | _ => config.updated

variable {configs config parsers outcomes}
variable {nested : Order → Nested → Nested × Checked Unit}
variable {choice : (String → Nat) × Order}

theorem visit_of_error {message : String}
    (error : config.validateRequired configs choice.1 = .error message) :
    config.visit parsers nested configs choice =
      (config.currentValue, .error message) := by
  rw [visit, error]

theorem visit_of_panic
    (panic : config.validateRequired configs choice.1 = .panic) :
    config.visit parsers nested configs choice =
      (config.currentValue, .panic) := by
  rw [visit, panic]

theorem visit_of_invalid {required : Bool} {message : String}
    (ok : config.validateRequired configs choice.1 = .ok required)
    (invalid : config.validateValue parsers = .error message) :
    config.visit parsers nested configs choice =
      (config.currentValue, .error message) := by
  rw [visit, ok]
  simp only [invalid]

section Valid

variable (valid : config.validateValue parsers = .ok ())

include valid

theorem visit_of_not_required
    (ok : config.validateRequired configs choice.1 = .ok false) :
    config.visit parsers nested configs choice = (config.updated, .ok ()) := by
  rw [visit, ok]
  simp only [valid]

variable (required : config.validateRequired configs choice.1 = .ok true)

include required

theorem visit_of_struct {inner : Nested}
    (value : config.currentValue = .struct inner) :
    config.visit parsers nested configs choice = (.struct inner, .panic) := by
  rw [visit, required]
  simp only [valid, value]

theorem visit_of_pointer {inner : Nested}
    (value : config.currentValue = .pointer (some inner)) :
    config.visit parsers nested configs choice =
      (.pointer (some (nested choice.2 inner).1), (nested choice.2 inner).2) := by
  rw [visit, required]
  simp only [valid, value]

theorem visit_of_plain (noStruct : ∀ inner, config.currentValue ≠ .struct inner)
    (noPointer : ∀ inner, config.currentValue ≠ .pointer (some inner)) :
    config.visit parsers nested configs choice = (config.updated, .ok ()) := by
  rw [visit, required]
  simp only [valid]
  split
  · rename_i inner _ value
    exact absurd value (noStruct inner)
  · rename_i inner _ value
    exact absurd value (noPointer inner)
  · rfl

end Valid

theorem updated_of_pointer {inner : Option Nested}
    (value : config.currentValue = .pointer inner) :
    config.updated = .pointer inner := by
  rw [updated, value]
  split <;> rfl

/-- The cases of a visit -/
theorem visit_cases (choice : (String → Nat) × Order) :
    (∃ message, config.validateRequired configs choice.1 = .error message ∧
      config.visit parsers nested configs choice =
        (config.currentValue, .error message)) ∨
    (config.validateRequired configs choice.1 = .panic ∧
      config.visit parsers nested configs choice =
        (config.currentValue, .panic)) ∨
    (∃ required message,
      config.validateRequired configs choice.1 = .ok required ∧
      config.validateValue parsers = .error message ∧
      config.visit parsers nested configs choice =
        (config.currentValue, .error message)) ∨
    (config.validateRequired configs choice.1 = .ok false ∧
      config.validateValue parsers = .ok () ∧
      config.visit parsers nested configs choice = (config.updated, .ok ())) ∨
    (∃ inner, config.validateRequired configs choice.1 = .ok true ∧
      config.validateValue parsers = .ok () ∧
      config.currentValue = .struct inner ∧
      config.visit parsers nested configs choice = (.struct inner, .panic)) ∨
    (∃ inner, config.validateRequired configs choice.1 = .ok true ∧
      config.validateValue parsers = .ok () ∧
      config.currentValue = .pointer (some inner) ∧
      config.visit parsers nested configs choice =
        (.pointer (some (nested choice.2 inner).1),
          (nested choice.2 inner).2)) ∨
    config.validateRequired configs choice.1 = .ok true ∧
      config.validateValue parsers = .ok () ∧
      (∀ inner, config.currentValue ≠ .struct inner) ∧
      (∀ inner, config.currentValue ≠ .pointer (some inner)) ∧
      config.visit parsers nested configs choice = (config.updated, .ok ()) := by
  cases required : config.validateRequired configs choice.1 with
  | error message => exact .inl ⟨message, rfl, visit_of_error required⟩
  | panic => exact .inr (.inl ⟨rfl, visit_of_panic required⟩)
  | ok asked =>
      refine .inr (.inr ?_)
      cases valid : config.validateValue parsers with
      | error message =>
          exact .inl ⟨asked, message, rfl, rfl, visit_of_invalid required valid⟩
      | ok value =>
          cases asked with
          | false =>
              exact .inr (.inl ⟨rfl, rfl, visit_of_not_required valid required⟩)
          | true =>
              refine .inr (.inr ?_)
              by_cases isStruct : ∃ inner, config.currentValue = .struct inner
              · obtain ⟨inner, isStruct⟩ := isStruct
                exact .inl ⟨inner, rfl, rfl, isStruct,
                  visit_of_struct valid required isStruct⟩
              · by_cases isPointer :
                    ∃ inner, config.currentValue = .pointer (some inner)
                · obtain ⟨inner, isPointer⟩ := isPointer
                  exact .inr (.inl ⟨inner, rfl, rfl, isPointer,
                    visit_of_pointer valid required isPointer⟩)
                · rw [not_exists] at isStruct isPointer
                  exact .inr (.inr ⟨rfl, rfl, isStruct, isPointer,
                    visit_of_plain valid required isStruct isPointer⟩)

end Visits

/-! ### What can come of a visit -/

section VisitOutcomes

variable {parsers : Parsers} {outcomes : Outcomes Nested}
variable {nested : Order → Nested → Nested × Checked Unit}
variable (realises : Realises nested outcomes)
variable (distinct : (config.requiredIf.map Prod.fst).Nodup)

include realises distinct

theorem exists_visit_ok_iff [Nonempty Order] :
    (∃ choice, (config.visit parsers nested configs choice).2 = .ok ()) ↔
      config.passes configs parsers outcomes := by
  constructor
  · rintro ⟨choice, ended⟩
    rcases config.visit_cases choice with ⟨message, -, visited⟩ |
      ⟨-, visited⟩ | ⟨required, message, -, -, visited⟩ |
      ⟨required, valid, visited⟩ | ⟨inner, -, -, -, visited⟩ |
      ⟨inner, required, valid, value, visited⟩ |
      ⟨required, valid, noStruct, noPointer, visited⟩
    all_goals rw [visited] at ended
    · cases ended
    · cases ended
    · cases ended
    · exact ⟨valid, .inl ((validateRequired_eq_false_iff _).mp required)⟩
    · cases ended
    · have asked := (exists_required_iff distinct).mp ⟨_, required⟩
      refine ⟨valid, .inr ⟨asked.1, asked.2, by simp [value], ?_⟩⟩
      intro other same
      rw [value] at same
      cases same
      exact (realises.passes_iff _).mpr ⟨_, ended⟩
    · have asked := (exists_required_iff distinct).mp ⟨_, required⟩
      exact ⟨valid, .inr ⟨asked.1, asked.2, noStruct,
        fun inner value => absurd value (noPointer inner)⟩⟩
  · rintro ⟨valid, unasked | ⟨asked, notEmpty, noStruct, passes⟩⟩
    · obtain ⟨order⟩ := ‹Nonempty Order›
      refine ⟨⟨fun _ => 0, order⟩, ?_⟩
      rw [visit_of_not_required valid
        ((validateRequired_eq_false_iff _).mpr unasked)]
    · obtain ⟨rank, required⟩ :=
        (exists_required_iff distinct).mpr ⟨asked, notEmpty⟩
      by_cases isPointer : ∃ inner, config.currentValue = .pointer (some inner)
      · obtain ⟨inner, isPointer⟩ := isPointer
        obtain ⟨order, ended⟩ :=
          (realises.passes_iff _).mp (passes inner isPointer)
        refine ⟨⟨rank, order⟩, ?_⟩
        rw [visit_of_pointer valid required isPointer]
        exact ended
      · obtain ⟨order⟩ := ‹Nonempty Order›
        refine ⟨⟨rank, order⟩, ?_⟩
        rw [visit_of_plain valid required noStruct (not_exists.mp isPointer)]

theorem exists_visit_error_iff [Nonempty Order] :
    (∃ choice message,
      (config.visit parsers nested configs choice).2 = .error message) ↔
      config.fails configs parsers outcomes := by
  constructor
  · rintro ⟨choice, message, ended⟩
    rcases config.visit_cases choice with ⟨message, error, visited⟩ |
      ⟨-, visited⟩ | ⟨required, message, ok, invalid, visited⟩ |
      ⟨-, -, visited⟩ | ⟨inner, -, -, -, visited⟩ |
      ⟨inner, required, valid, value, visited⟩ | ⟨-, -, -, -, visited⟩
    all_goals rw [visited] at ended
    · have failed :=
        (exists_validateRequired_error_iff distinct).mp ⟨_, _, error⟩
      exact failed.imp_right .inl
    · cases ended
    · refine .inr (.inr (.inl ⟨by simp [invalid], ?_⟩))
      cases required with
      | false => exact .inl ((validateRequired_eq_false_iff _).mp ok)
      | true => exact .inr ((exists_required_iff distinct).mp ⟨_, ok⟩).1
    · cases ended
    · cases ended
    · have asked := (exists_required_iff distinct).mp ⟨_, required⟩
      exact .inr (.inr (.inr ⟨valid, asked.1, inner, value,
        (realises.fails_iff _).mpr ⟨_, _, ended⟩⟩))
    · cases ended
  · have unmet : (∃ rank message,
          config.validateRequired configs rank = .error message) →
        ∃ choice message,
          (config.visit parsers nested configs choice).2 = .error message := by
      rintro ⟨rank, message, error⟩
      obtain ⟨order⟩ := ‹Nonempty Order›
      refine ⟨⟨rank, order⟩, message, ?_⟩
      rw [visit_of_error error]
    rw [exists_validateRequired_error_iff distinct] at unmet
    rintro (empty | stumbles | ⟨invalid, reached⟩ |
      ⟨valid, asked, inner, value, fails⟩)
    · exact unmet (.inl empty)
    · exact unmet (.inr stumbles)
    · obtain ⟨message, invalid⟩ :
          ∃ message, config.validateValue parsers = .error message := by
        cases value : config.validateValue parsers with
        | ok value => exact absurd value invalid
        | error message => exact ⟨message, rfl⟩
      obtain ⟨order⟩ := ‹Nonempty Order›
      rcases reached with unasked | asked
      · refine ⟨⟨fun _ => 0, order⟩, message, ?_⟩
        rw [visit_of_invalid ((validateRequired_eq_false_iff _).mpr unasked)
          invalid]
      · cases empty : config.currentValue.isEmpty with
        | true => exact unmet (.inl ⟨asked, empty⟩)
        | false =>
            obtain ⟨rank, required⟩ :=
              (exists_required_iff distinct).mpr ⟨asked, empty⟩
            refine ⟨⟨rank, order⟩, message, ?_⟩
            rw [visit_of_invalid required invalid]
    · obtain ⟨order, message, ended⟩ := (realises.fails_iff _).mp fails
      obtain ⟨rank, required⟩ :=
        (exists_required_iff distinct).mpr ⟨asked, by rw [value]; rfl⟩
      refine ⟨⟨rank, order⟩, message, ?_⟩
      rw [visit_of_pointer valid required value]
      exact ended

theorem exists_visit_panic_iff [Nonempty Order] :
    (∃ choice, (config.visit parsers nested configs choice).2 = .panic) ↔
      config.panics configs parsers outcomes := by
  constructor
  · rintro ⟨choice, ended⟩
    rcases config.visit_cases choice with ⟨message, -, visited⟩ |
      ⟨panic, visited⟩ | ⟨required, message, -, -, visited⟩ |
      ⟨-, -, visited⟩ | ⟨inner, required, valid, value, visited⟩ |
      ⟨inner, required, valid, value, visited⟩ | ⟨-, -, -, -, visited⟩
    all_goals rw [visited] at ended
    · cases ended
    · exact .inl ((exists_validateRequired_panic_iff distinct).mp ⟨_, panic⟩)
    · cases ended
    · cases ended
    · have asked := (exists_required_iff distinct).mp ⟨_, required⟩
      exact .inr ⟨valid, asked.1, .inl ⟨inner, value⟩⟩
    · have asked := (exists_required_iff distinct).mp ⟨_, required⟩
      exact .inr ⟨valid, asked.1, .inr ⟨inner, value,
        (realises.panics_iff _).mpr ⟨_, ended⟩⟩⟩
    · cases ended
  · obtain ⟨anyOrder⟩ := ‹Nonempty Order›
    rintro (stumbles | ⟨valid, asked, ⟨inner, value⟩ | ⟨inner, value, panics⟩⟩)
    · obtain ⟨rank, panic⟩ :=
        (exists_validateRequired_panic_iff distinct).mpr stumbles
      refine ⟨⟨rank, anyOrder⟩, ?_⟩
      rw [visit_of_panic panic]
    · obtain ⟨rank, required⟩ :=
        (exists_required_iff distinct).mpr ⟨asked, by rw [value]; rfl⟩
      refine ⟨⟨rank, anyOrder⟩, ?_⟩
      rw [visit_of_struct valid required value]
    · obtain ⟨order, ended⟩ := (realises.panics_iff _).mp panics
      obtain ⟨rank, required⟩ :=
        (exists_required_iff distinct).mpr ⟨asked, by rw [value]; rfl⟩
      refine ⟨⟨rank, order⟩, ?_⟩
      rw [visit_of_pointer valid required value]
      exact ended

/-- Only what is nested may have changed when a visit fails. -/
theorem exists_visit_spoils_iff :
    (∃ choice message,
      (config.visit parsers nested configs choice).2 = .error message ∧
        (config.visit parsers nested configs choice).1 ≠ config.currentValue) ↔
      config.spoils configs parsers outcomes := by
  constructor
  · rintro ⟨choice, message, ended, changed⟩
    rcases config.visit_cases choice with ⟨message, -, visited⟩ |
      ⟨-, visited⟩ | ⟨required, message, -, -, visited⟩ |
      ⟨-, -, visited⟩ | ⟨inner, -, -, -, visited⟩ |
      ⟨inner, required, valid, value, visited⟩ | ⟨-, -, -, -, visited⟩
    all_goals rw [visited] at ended changed
    · exact absurd rfl changed
    · cases ended
    · exact absurd rfl changed
    · cases ended
    · cases ended
    · have asked := (exists_required_iff distinct).mp ⟨_, required⟩
      refine ⟨valid, asked.1, inner, value,
        (realises.spoils_iff _).mpr ⟨_, _, ended, fun same => changed ?_⟩⟩
      rw [same, value]
    · cases ended
  · rintro ⟨valid, asked, inner, value, spoils⟩
    obtain ⟨order, message, ended, changed⟩ := (realises.spoils_iff _).mp spoils
    obtain ⟨rank, required⟩ :=
      (exists_required_iff distinct).mpr ⟨asked, by rw [value]; rfl⟩
    refine ⟨⟨rank, order⟩, message, ?_⟩
    rw [visit_of_pointer valid required value, value]
    refine ⟨ended, fun same => changed ?_⟩
    simpa using same

theorem visit_of_ok {choice : (String → Nat) × Order}
    (ended : (config.visit parsers nested configs choice).2 = .ok ()) :
    (config.visit parsers nested configs choice).1 =
      config.filled configs outcomes := by
  rcases config.visit_cases choice with ⟨message, -, visited⟩ |
    ⟨-, visited⟩ | ⟨required, message, -, -, visited⟩ |
    ⟨required, -, visited⟩ | ⟨inner, -, -, -, visited⟩ |
    ⟨inner, required, -, value, visited⟩ | ⟨-, -, -, noPointer, visited⟩
  all_goals rw [visited] at ended ⊢
  · cases ended
  · cases ended
  · cases ended
  · have unasked := (validateRequired_eq_false_iff _).mp required
    rw [filled]
    split
    · rename_i inner value
      rw [if_neg (not_asked_of_unasked unasked), updated_of_pointer value, value]
    · rfl
  · cases ended
  · have asked := (exists_required_iff distinct).mp ⟨_, required⟩
    rw [filled, value]
    simp only [if_pos asked.1, realises.left_of_ok _ _ ended]
  · rw [filled]
    split
    · rename_i inner value
      exact absurd value (noPointer inner)
    · rfl

end VisitOutcomes

end FieldConfig

/-! ### What a field holds afterwards -/

namespace Value

/-- The struct that a field holds, if one is there -/
def present : Value Nested → Option Nested
  | .struct nested => some nested
  | .pointer nested => nested
  | _ => none

end Value

theorem pointer_of_present {value : Value Nested} {inner : Nested}
    (noStruct : ∀ inner, value ≠ .struct inner)
    (isPresent : value.present = some inner) : value = .pointer (some inner) := by
  cases value with
  | struct nested => exact absurd rfl (noStruct nested)
  | pointer nested =>
      rw [Value.present] at isPresent
      rw [isPresent]
  | string | nullString | strings | int | nullInt | bool | nullBool =>
      cases isPresent

section Filled

variable {configs : List (FieldConfig Nested)} {config : FieldConfig Nested}
variable {outcomes : Outcomes Nested}

theorem filled_of_not_pointer
    (noPointer : ∀ inner, config.currentValue ≠ .pointer (some inner)) :
    config.filled configs outcomes = config.updated := by
  rw [FieldConfig.filled]
  split
  · rename_i inner value
    exact absurd value (noPointer inner)
  · rfl

theorem updated_of_not_empty (notEmpty : config.currentValue.isEmpty = false) :
    config.updated = config.currentValue := by
  rw [FieldConfig.updated, notEmpty]
  rfl

/-- Filling in what is nested changes nothing at the level above. -/
theorem filled_cases : config.filled configs outcomes = config.updated ∨
    ∃ inner, config.Asked configs ∧
      config.currentValue = .pointer (some inner) ∧
      config.updated = .pointer (some inner) ∧
      config.filled configs outcomes = .pointer (some (outcomes.filled inner)) := by
  by_cases isPointer : ∃ inner, config.currentValue = .pointer (some inner)
  · obtain ⟨inner, value⟩ := isPointer
    have updated := FieldConfig.updated_of_pointer value
    by_cases asked : config.Asked configs
    · refine .inr ⟨inner, asked, value, updated, ?_⟩
      rw [FieldConfig.filled, value]
      simp only [if_pos asked]
    · refine .inl ?_
      rw [FieldConfig.filled, updated, value]
      simp only [if_neg asked]
  · exact .inl (filled_of_not_pointer (not_exists.mp isPointer))

theorem kind_setTo (value : Value Nested) (default : Option Default) :
    (value.setTo default).kind = value.kind := by
  cases value <;> cases default with
  | none => rfl
  | some given => cases given <;> rfl

theorem present_setTo (value : Value Nested) (default : Option Default) :
    (value.setTo default).present = value.present := by
  cases value <;> cases default with
  | none => rfl
  | some given => cases given <;> rfl

theorem kind_updated : config.updated.kind = config.currentValue.kind := by
  rw [FieldConfig.updated]
  split
  · exact kind_setTo _ _
  · rfl

theorem present_updated : config.updated.present = config.currentValue.present := by
  rw [FieldConfig.updated]
  split
  · exact present_setTo _ _
  · rfl

theorem present_filled_of_none (absent : config.currentValue.present = none) :
    (config.filled configs outcomes).present = none := by
  rcases @filled_cases _ configs config outcomes with same |
    ⟨inner, -, value, -, -⟩
  · rw [same, present_updated, absent]
  · rw [value] at absent
    cases absent

theorem present_filled_of_not_asked (unasked : ¬config.Asked configs) :
    (config.filled configs outcomes).present = config.currentValue.present := by
  rcases @filled_cases _ configs config outcomes with same |
    ⟨inner, asked, -, -, -⟩
  · rw [same, present_updated]
  · exact absurd asked unasked

/-- What is nested in a field that is asked for is checked in its turn. -/
theorem filled_of_present {parsers : Parsers} {inner : Nested}
    (passes : config.passes configs parsers outcomes)
    (asked : config.Asked configs)
    (isPresent : config.currentValue.present = some inner) :
    outcomes.passes inner ∧ config.filled configs outcomes =
      .pointer (some (outcomes.filled inner)) := by
  rcases passes.2 with unasked | ⟨-, -, noStruct, passesInner⟩
  · exact absurd asked (FieldConfig.not_asked_of_unasked unasked)
  · have value := pointer_of_present noStruct isPresent
    refine ⟨passesInner inner value, ?_⟩
    rw [FieldConfig.filled, value]
    simp only [if_pos asked]

end Filled

theorem isEmpty_of_findsMet {value : Value Nested} {asked : String}
    (met : value.findsMet asked = some (.ok true)) : value.isEmpty = false := by
  cases value with
  | nullString value =>
      simp only [Value.findsMet] at met
      split at met
      · rename_i same
        simp [Value.isEmpty, same.1]
      · cases met
  | nullInt value =>
      simp only [Value.findsMet] at met
      split at met <;> cases met
  | string value => rfl
  | int value => rfl
  | strings value => cases met
  | bool value => rfl
  | nullBool value => cases met
  | struct nested => rfl
  | pointer nested => cases met

theorem validateValue_eq_ok_iff {parsers : Parsers} {config : FieldConfig Nested} :
    config.validateValue parsers = .ok () ↔
      config.validateOneOf = .ok () ∧ config.validateField parsers = .ok () := by
  rw [FieldConfig.validateValue]
  cases config.validateOneOf with
  | error message => simp [bind, Except.bind]
  | ok value => simp [bind, Except.bind]

/-! ### What can come of checking a struct -/

namespace Level

variable {parsers : Parsers} {s : Level Nested}

theorem fieldConfigs_of_not_parses (unread : ¬s.Parses parsers) :
    s.fieldConfigs parsers = [] := by
  rw [fieldConfigs]
  cases read : s.configs parsers with
  | error message => rfl
  | ok configs =>
      have same : s.fieldConfigs parsers = configs := by
        rw [fieldConfigs, read]
        rfl
      rw [Parses, same, read] at unread
      exact absurd rfl unread

theorem parses_of_mem {config : FieldConfig Nested}
    (member : config ∈ s.fieldConfigs parsers) : s.Parses parsers := by
  by_contra unread
  rw [fieldConfigs_of_not_parses unread] at member
  cases member

theorem forall₂_fieldConfigs (parses : s.Parses parsers) :
    List.Forall₂ (fun type config =>
        type.config parsers (s.value type.name) = .ok config)
      s.fields (s.fieldConfigs parsers) :=
  mapM_eq_ok_iff.mp parses

theorem names_of_forall₂ {types : List FieldType}
    {configs : List (FieldConfig Nested)}
    (read : List.Forall₂ (fun type config =>
      type.config parsers (s.value type.name) = .ok config) types configs) :
    configs.map FieldConfig.name = types.map FieldType.name := by
  induction read with
  | nil => rfl
  | cons first rest ih =>
      rw [List.map_cons, List.map_cons, ih,
        (FieldType.config_eq_ok first).2.2.2.1]

theorem distinct_fieldConfigs (s : Level Nested) :
    ((s.fieldConfigs parsers).map FieldConfig.name).Nodup := by
  by_cases parses : s.Parses parsers
  · rw [names_of_forall₂ (forall₂_fieldConfigs parses)]
    exact s.distinct
  · rw [fieldConfigs_of_not_parses parses]
    exact List.nodup_nil

theorem exists_type {config : FieldConfig Nested}
    (member : config ∈ s.fieldConfigs parsers) :
    ∃ type ∈ s.fields, type.config parsers (s.value type.name) = .ok config := by
  have found :=
    exists_of_forall₂ (forall₂_fieldConfigs (parses_of_mem member)) member
  exact found

theorem exists_config {type : FieldType} (parses : s.Parses parsers)
    (member : type ∈ s.fields) :
    ∃ config ∈ s.fieldConfigs parsers,
      type.config parsers (s.value type.name) = .ok config := by
  have found := exists_of_forall₂ (forall₂_fieldConfigs parses).flip member
  exact found

theorem value_of_mem {config : FieldConfig Nested}
    (member : config ∈ s.fieldConfigs parsers) :
    s.value config.name = config.currentValue := by
  obtain ⟨type, -, read⟩ := exists_type member
  obtain ⟨-, -, -, name, value, -⟩ := FieldType.config_eq_ok read
  rw [name, value]

theorem distinct_requiredIf {config : FieldConfig Nested}
    (member : config ∈ s.fieldConfigs parsers) :
    (config.requiredIf.map Prod.fst).Nodup := by
  obtain ⟨type, -, read⟩ := exists_type member
  exact (FieldType.requiredIf_eq_ok (FieldType.config_eq_ok read).2.1).1

section Outcomes

variable (parsers) (s) (nested : Outcomes Nested)

def filled : Level Nested :=
  { s with
    value := fun name =>
      match (s.fieldConfigs parsers).find? fun config => config.name = name with
      | some config => config.filled (s.fieldConfigs parsers) nested
      | none => s.value name }

def passes : Prop :=
  s.Parses parsers ∧ ∀ config ∈ s.fieldConfigs parsers,
    config.passes (s.fieldConfigs parsers) parsers nested

def fails : Prop :=
  ¬s.Parses parsers ∨ ∃ config ∈ s.fieldConfigs parsers,
    config.fails (s.fieldConfigs parsers) parsers nested

def panics : Prop :=
  ∃ config ∈ s.fieldConfigs parsers,
    config.panics (s.fieldConfigs parsers) parsers nested

/-- A field that fails comes after one that is filled in. -/
def spoils : Prop :=
  (∃ config ∈ s.fieldConfigs parsers,
      config.spoils (s.fieldConfigs parsers) parsers nested) ∨
    ∃ first ∈ s.fieldConfigs parsers, ∃ second ∈ s.fieldConfigs parsers,
      first ≠ second ∧
        (first.passes (s.fieldConfigs parsers) parsers nested ∧
          first.filled (s.fieldConfigs parsers) nested ≠ first.currentValue) ∧
        second.fails (s.fieldConfigs parsers) parsers nested

def outcomes : Outcomes (Level Nested) where
  passes s := s.passes parsers nested
  fails s := s.fails parsers nested
  panics s := s.panics parsers nested
  spoils s := s.spoils parsers nested
  filled s := s.filled parsers nested

end Outcomes

variable {nested : Order → Nested → Nested × Checked Unit}
variable {outcomes : Outcomes Nested} {plan : LevelPlan Order}

theorem filled_of_mem {config : FieldConfig Nested}
    (member : config ∈ s.fieldConfigs parsers) :
    (s.filled parsers outcomes).value config.name =
      config.filled (s.fieldConfigs parsers) outcomes := by
  simp only [filled, find?_key s.distinct_fieldConfigs member]

theorem filled_of_not_mem {name : String}
    (apart : name ∉ (s.fieldConfigs parsers).map FieldConfig.name) :
    (s.filled parsers outcomes).value name = s.value name := by
  have missing : (s.fieldConfigs parsers).find?
      (fun config => config.name = name) = none := by
    rw [List.find?_eq_none]
    intro config member same
    exact apart (decide_eq_true_eq.mp same ▸ List.mem_map_of_mem member)
  simp only [filled, missing]

def visits (parsers : Parsers) (nested : Order → Nested → Nested × Checked Unit)
    (plan : LevelPlan Order) (s : Level Nested) :
    (String → Value Nested) × Checked Unit :=
  visitInOrder FieldConfig.name
    (fun choice config =>
      config.visit parsers nested (s.fieldConfigs parsers) choice)
    plan (s.fieldConfigs parsers) s.value

theorem exists_visits_iff {result : Checked Unit} (stops : result ≠ .ok ()) :
    (∃ plan, (s.visits parsers nested plan).2 = result) ↔
      ∃ config ∈ s.fieldConfigs parsers, ∃ choice,
        (config.visit parsers nested (s.fieldConfigs parsers) choice).2 =
          result :=
  exists_result_iff s.distinct_fieldConfigs stops

theorem exists_visits_changed_iff [Nonempty Order] {result : Checked Unit}
    (stops : result ≠ .ok ()) :
    (∃ plan, (s.visits parsers nested plan).2 = result ∧
        (s.visits parsers nested plan).1 ≠ s.value) ↔
      (∃ config ∈ s.fieldConfigs parsers, ∃ choice,
        (config.visit parsers nested (s.fieldConfigs parsers) choice).2 =
            result ∧
          (config.visit parsers nested (s.fieldConfigs parsers) choice).1 ≠
            s.value config.name) ∨
        ∃ first ∈ s.fieldConfigs parsers, ∃ second ∈ s.fieldConfigs parsers,
          first ≠ second ∧
            (∃ choice,
              (first.visit parsers nested (s.fieldConfigs parsers) choice).2 =
                  .ok () ∧
                (first.visit parsers nested (s.fieldConfigs parsers) choice).1 ≠
                  s.value first.name) ∧
            ∃ choice,
              (second.visit parsers nested (s.fieldConfigs parsers) choice).2 =
                result :=
  exists_changed_iff s.distinct_fieldConfigs stops

theorem setDefaultsAndValidate_of_parses (parses : s.Parses parsers) :
    s.setDefaultsAndValidate parsers nested plan =
      ({ s with value := (s.visits parsers nested plan).1 },
        (s.visits parsers nested plan).2) := by
  rw [Parses] at parses
  rw [setDefaultsAndValidate, parses]
  rfl

theorem setDefaultsAndValidate_of_not_parses (unread : ¬s.Parses parsers) :
    ∃ message, s.setDefaultsAndValidate parsers nested plan =
      (s, .error message) := by
  rw [Parses, fieldConfigs] at unread
  rw [setDefaultsAndValidate]
  cases read : s.configs parsers with
  | error message => exact ⟨message, rfl⟩
  | ok configs =>
      rw [read] at unread
      exact absurd rfl unread

section Realises

variable [Nonempty Order] (realises : Realises nested outcomes)

include realises

theorem passes_iff : s.passes parsers outcomes ↔
    ∃ plan, (s.setDefaultsAndValidate parsers nested plan).2 = .ok () := by
  by_cases parses : s.Parses parsers
  · simp only [setDefaultsAndValidate_of_parses parses, visits]
    rw [exists_ok_iff s.distinct_fieldConfigs, passes,
      and_iff_right parses]
    refine forall₂_congr fun config member => ?_
    exact (FieldConfig.exists_visit_ok_iff realises
      (distinct_requiredIf member)).symm
  · refine ⟨fun passes => absurd passes.1 parses, ?_⟩
    rintro ⟨plan, ended⟩
    obtain ⟨message, failed⟩ := setDefaultsAndValidate_of_not_parses parses
    rw [failed] at ended
    cases ended

theorem fails_iff : s.fails parsers outcomes ↔ ∃ plan message,
    (s.setDefaultsAndValidate parsers nested plan).2 = .error message := by
  constructor
  · rintro (unread | ⟨config, member, fails⟩)
    · obtain ⟨order⟩ := ‹Nonempty Order›
      obtain ⟨message, failed⟩ := setDefaultsAndValidate_of_not_parses unread
      refine ⟨⟨fun _ => 0, fun _ => ⟨fun _ => 0, order⟩⟩, message, ?_⟩
      rw [failed]
    · obtain ⟨choice, message, ended⟩ := (FieldConfig.exists_visit_error_iff
        realises (distinct_requiredIf member)).mpr fails
      obtain ⟨plan, ended⟩ :=
        (exists_visits_iff (by simp)).mpr ⟨config, member, choice, ended⟩
      refine ⟨plan, message, ?_⟩
      rw [setDefaultsAndValidate_of_parses (parses_of_mem member)]
      exact ended
  · rintro ⟨plan, message, ended⟩
    by_cases parses : s.Parses parsers
    · rw [setDefaultsAndValidate_of_parses parses] at ended
      obtain ⟨config, member, choice, ended⟩ :=
        (exists_visits_iff (by simp)).mp ⟨plan, ended⟩
      exact .inr ⟨config, member, (FieldConfig.exists_visit_error_iff realises
        (distinct_requiredIf member)).mp ⟨choice, message, ended⟩⟩
    · exact .inl parses

theorem panics_iff : s.panics parsers outcomes ↔
    ∃ plan, (s.setDefaultsAndValidate parsers nested plan).2 = .panic := by
  constructor
  · rintro ⟨config, member, panics⟩
    obtain ⟨choice, ended⟩ := (FieldConfig.exists_visit_panic_iff realises
      (distinct_requiredIf member)).mpr panics
    obtain ⟨plan, ended⟩ :=
      (exists_visits_iff (by simp)).mpr ⟨config, member, choice, ended⟩
    refine ⟨plan, ?_⟩
    rw [setDefaultsAndValidate_of_parses (parses_of_mem member)]
    exact ended
  · rintro ⟨plan, ended⟩
    by_cases parses : s.Parses parsers
    · rw [setDefaultsAndValidate_of_parses parses] at ended
      obtain ⟨config, member, choice, ended⟩ :=
        (exists_visits_iff (by simp)).mp ⟨plan, ended⟩
      exact ⟨config, member, (FieldConfig.exists_visit_panic_iff realises
        (distinct_requiredIf member)).mp ⟨choice, ended⟩⟩
    · obtain ⟨message, failed⟩ := setDefaultsAndValidate_of_not_parses parses
      rw [failed] at ended
      cases ended

theorem spoils_iff : s.spoils parsers outcomes ↔ ∃ plan message,
    (s.setDefaultsAndValidate parsers nested plan).2 = .error message ∧
      (s.setDefaultsAndValidate parsers nested plan).1 ≠ s := by
  have changed_iff {plan : LevelPlan Order} (parses : s.Parses parsers) :
      (s.setDefaultsAndValidate parsers nested plan).1 ≠ s ↔
        (s.visits parsers nested plan).1 ≠ s.value := by
    rw [setDefaultsAndValidate_of_parses parses]
    refine not_congr ⟨fun same => congrArg Level.value same, fun same => ?_⟩
    simp only [same]
  constructor
  · rintro (⟨config, member, spoils⟩ |
      ⟨first, firstMember, second, secondMember, apart, ⟨passes, moved⟩, fails⟩)
    · obtain ⟨choice, message, ended, changed⟩ :=
        (FieldConfig.exists_visit_spoils_iff realises
          (distinct_requiredIf member)).mpr spoils
      rw [← value_of_mem member] at changed
      obtain ⟨plan, ended, changed⟩ := (exists_visits_changed_iff (by simp)).mpr
        (.inl ⟨config, member, choice, ended, changed⟩)
      refine ⟨plan, message, ?_,
        (changed_iff (parses_of_mem member)).mpr changed⟩
      rw [setDefaultsAndValidate_of_parses (parses_of_mem member)]
      exact ended
    · obtain ⟨choice, ok⟩ := (FieldConfig.exists_visit_ok_iff realises
        (distinct_requiredIf firstMember)).mpr passes
      have left := FieldConfig.visit_of_ok realises
        (distinct_requiredIf firstMember) ok
      rw [← left, ← value_of_mem firstMember] at moved
      obtain ⟨other, message, ended⟩ := (FieldConfig.exists_visit_error_iff
        realises (distinct_requiredIf secondMember)).mpr fails
      obtain ⟨plan, ended, changed⟩ := (exists_visits_changed_iff (by simp)).mpr
        (.inr ⟨first, firstMember, second, secondMember, apart,
          ⟨choice, ok, moved⟩, other, ended⟩)
      refine ⟨plan, message, ?_,
        (changed_iff (parses_of_mem firstMember)).mpr changed⟩
      rw [setDefaultsAndValidate_of_parses (parses_of_mem firstMember)]
      exact ended
  · rintro ⟨plan, message, ended, changed⟩
    by_cases parses : s.Parses parsers
    · rw [changed_iff parses] at changed
      rw [setDefaultsAndValidate_of_parses parses] at ended
      rcases (exists_visits_changed_iff (by simp)).mp ⟨plan, ended, changed⟩ with
        ⟨config, member, choice, ended, changed⟩ |
        ⟨first, firstMember, second, secondMember, apart,
          ⟨choice, ok, moved⟩, other, ended⟩
      · rw [value_of_mem member] at changed
        exact .inl ⟨config, member, (FieldConfig.exists_visit_spoils_iff
          realises (distinct_requiredIf member)).mp
            ⟨choice, message, ended, changed⟩⟩
      · rw [value_of_mem firstMember, FieldConfig.visit_of_ok realises
          (distinct_requiredIf firstMember) ok] at moved
        exact .inr ⟨first, firstMember, second, secondMember, apart,
          ⟨(FieldConfig.exists_visit_ok_iff realises
            (distinct_requiredIf firstMember)).mp ⟨choice, ok⟩, moved⟩,
          (FieldConfig.exists_visit_error_iff realises
            (distinct_requiredIf secondMember)).mp ⟨other, message, ended⟩⟩
    · obtain ⟨message, failed⟩ := setDefaultsAndValidate_of_not_parses parses
      rw [failed] at changed
      exact absurd rfl changed

omit [Nonempty Order] in
theorem left_of_ok {plan : LevelPlan Order}
    (ended : (s.setDefaultsAndValidate parsers nested plan).2 = .ok ()) :
    (s.setDefaultsAndValidate parsers nested plan).1 =
      s.filled parsers outcomes := by
  by_cases parses : s.Parses parsers
  · rw [setDefaultsAndValidate_of_parses parses] at ended ⊢
    rw [Level.mk.injEq]
    refine ⟨rfl, ?_⟩
    funext name
    by_cases visited : name ∈ (s.fieldConfigs parsers).map FieldConfig.name
    · obtain ⟨config, member, rfl⟩ := List.mem_map.mp visited
      have left := visitInOrder_of_mem s.distinct_fieldConfigs ended member
      have each := visitAll_ok_iff.mp ended config (mem_inOrder.mpr member)
      exact (left.trans (FieldConfig.visit_of_ok realises
        (distinct_requiredIf member) each)).trans (filled_of_mem member).symm
    · exact (visitInOrder_of_not_mem visited).trans
        (filled_of_not_mem visited).symm
  · obtain ⟨message, failed⟩ := setDefaultsAndValidate_of_not_parses parses
    rw [failed] at ended
    cases ended

end Realises

end Level

/-! ### Structs of any depth -/

def outcomes (parsers : Parsers) : (depth : Nat) → Outcomes (Struct depth)
  | 0 => ⟨nofun, nofun, nofun, nofun, nofun⟩
  | depth + 1 => Level.outcomes parsers (outcomes parsers depth)

instance (depth : Nat) : Nonempty (Orders depth) := by
  induction depth with
  | zero => exact ⟨()⟩
  | succ depth ih =>
      obtain ⟨order⟩ := ih
      exact ⟨⟨fun _ => 0, fun _ => ⟨fun _ => 0, order⟩⟩⟩

theorem realises_outcomes (parsers : Parsers) (depth : Nat) :
    Realises (setDefaultsAndValidate parsers depth) (outcomes parsers depth) := by
  induction depth with
  | zero => exact ⟨nofun, nofun, nofun, nofun, fun _ => nofun⟩
  | succ depth ih =>
      exact {
        passes_iff := fun s => Level.passes_iff ih
        fails_iff := fun s => Level.fails_iff ih
        panics_iff := fun s => Level.panics_iff ih
        spoils_iff := fun s => Level.spoils_iff ih
        left_of_ok := fun plan s => Level.left_of_ok ih }

end ConfStruct

end JetKvm
