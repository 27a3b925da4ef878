import JetKvm.ConfigOutcomes

/-!
# Checking a configuration twice

Whether the order of a check matters for how it ends, whether a check that fails
leaves the struct alone, and whether a check of what another one left passes and
changes nothing more.
-/

namespace JetKvm

namespace ConfStruct

open ConfParser (Parsers)
open OrderedVisits

variable {Nested Order : Type}

/-- What is expected of the check of one struct, over all orders -/
structure WellBehaved (parsers : Parsers) (depth : Nat) (s : Struct depth) :
    Prop where
  sameEnd : ∀ first second message,
    (setDefaultsAndValidate parsers depth first s).2 = .error message →
      ∃ other, (setDefaultsAndValidate parsers depth second s).2 = .error other
  unchanged : ∀ order message,
    (setDefaultsAndValidate parsers depth order s).2 = .error message →
      (setDefaultsAndValidate parsers depth order s).1 = s
  again : ∀ first second,
    (setDefaultsAndValidate parsers depth first s).2 = .ok () →
      setDefaultsAndValidate parsers depth second
          (setDefaultsAndValidate parsers depth first s).1 =
        ((setDefaultsAndValidate parsers depth first s).1, .ok ())

/-! ### Structs that every check leaves as they are -/

def Outcomes.Stable (outcomes : Outcomes Nested) (s : Nested) : Prop :=
  ¬outcomes.fails s ∧ ¬outcomes.panics s ∧ outcomes.filled s = s

theorem Realises.stable_iff {check : Order → Nested → Nested × Checked Unit}
    {outcomes : Outcomes Nested} (realises : Realises check outcomes)
    [Nonempty Order] {s : Nested} :
    outcomes.Stable s ↔ ∀ order, check order s = (s, .ok ()) := by
  constructor
  · rintro ⟨noError, noPanic, kept⟩ order
    have ended : (check order s).2 = .ok () := by
      cases result : (check order s).2 with
      | ok value => rfl
      | error message =>
          exact absurd ((realises.fails_iff s).mpr ⟨order, message, result⟩) noError
      | panic => exact absurd ((realises.panics_iff s).mpr ⟨order, result⟩) noPanic
    exact Prod.ext ((realises.left_of_ok order s ended).trans kept) ended
  · intro passes
    refine ⟨fun fails => ?_, fun panics => ?_, ?_⟩
    · obtain ⟨order, message, ended⟩ := (realises.fails_iff s).mp fails
      rw [passes order] at ended
      cases ended
    · obtain ⟨order, ended⟩ := (realises.panics_iff s).mp panics
      rw [passes order] at ended
      cases ended
    · obtain ⟨order⟩ := ‹Nonempty Order›
      have left := realises.left_of_ok order s (by rw [passes order])
      rw [passes order] at left
      exact left.symm

/-- No condition finds a missing field or a number, the checks of the value pass,
nothing is filled in, and what is required is there. -/
structure FieldConfig.Rests (parsers : Parsers) (rests : Nested → Prop)
    (configs : List (FieldConfig Nested)) (config : FieldConfig Nested) :
    Prop where
  finds : ∀ result, config.Finds configs result → result = .ok true
  valid : config.validateValue parsers = .ok ()
  complete : config.updated = config.currentValue
  asked : config.Asked configs → config.currentValue.isEmpty = false ∧
    config.currentValue.kind ≠ .struct ∧
    ∀ inner ∈ config.currentValue.present, rests inner

/-- Every check passes and leaves it as it is. -/
def Rests (parsers : Parsers) : (depth : Nat) → Struct depth → Prop
  | 0, _ => True
  | depth + 1, s => Level.Parses parsers s ∧
      ∀ config ∈ Level.fieldConfigs parsers s,
        config.Rests parsers (Rests parsers depth) (Level.fieldConfigs parsers s)

section Fields

variable {parsers : Parsers} {configs : List (FieldConfig Nested)}
variable {config : FieldConfig Nested} {outcomes : Outcomes Nested}

theorem unasked_or_asked
    (finds : ∀ result, config.Finds configs result → result = .ok true) :
    config.Unasked configs ∨ config.Asked configs := by
  cases required : config.required with
  | true => exact .inr (.inl required)
  | false =>
      by_cases found : ∃ result, config.Finds configs result
      · obtain ⟨result, found⟩ := found
        have met := finds result found
        subst met
        exact .inr (.inr found)
      · refine .inl ⟨required, fun condition member => ?_⟩
        rw [not_exists] at found
        cases result : findsMet configs condition with
        | none => rfl
        | some result' =>
            exact absurd ⟨required, condition, member, result⟩ (found result')

theorem value_of_kind_struct {value : Value Nested} (isStruct : value.kind = .struct) :
    ∃ inner, value = .struct inner := by
  cases value with
  | struct nested => exact ⟨nested, rfl⟩
  | pointer | string | nullString | strings | int | nullInt | bool | nullBool =>
      cases isStruct

theorem present_of_kind {value : Value Nested} {inner : Nested}
    (noStruct : value.kind ≠ .struct) (isPresent : value.present = some inner) :
    value = .pointer (some inner) :=
  pointer_of_present (fun other same => noStruct (by rw [same]; rfl)) isPresent

theorem FieldConfig.rests_iff :
    config.Rests parsers outcomes.Stable configs ↔
      ¬config.fails configs parsers outcomes ∧
        ¬config.panics configs parsers outcomes ∧
        config.filled configs outcomes = config.currentValue := by
  constructor
  · intro rests
    have stable : ∀ inner, config.Asked configs →
        config.currentValue = .pointer (some inner) → outcomes.Stable inner := by
      intro inner asked value
      exact (rests.asked asked).2.2 inner (by rw [value]; rfl)
    refine ⟨?_, ?_, ?_⟩
    · rintro (⟨asked, empty⟩ | ⟨message, found⟩ | ⟨invalid, -⟩ |
        ⟨-, asked, inner, value, fails⟩)
      · rw [(rests.asked asked).1] at empty
        cases empty
      · cases rests.finds _ found
      · exact invalid rests.valid
      · exact (stable inner asked value).1 fails
    · rintro (found | ⟨-, asked, ⟨inner, value⟩ | ⟨inner, value, panics⟩⟩)
      · cases rests.finds _ found
      · exact (rests.asked asked).2.1 (by rw [value]; rfl)
      · exact (stable inner asked value).2.1 panics
    · rcases @filled_cases _ configs config outcomes with same |
        ⟨inner, asked, value, -, filled⟩
      · rw [same, rests.complete]
      · rw [filled, value, (stable inner asked value).2.2]
  · rintro ⟨noError, noPanic, kept⟩
    have finds : ∀ result, config.Finds configs result → result = .ok true := by
      intro result found
      cases result with
      | ok met =>
          cases met with
          | true => rfl
          | false =>
              obtain ⟨-, condition, -, isFound⟩ := found
              exact absurd isFound findsMet_ne_ok_false
      | error message => exact absurd (.inr (.inl ⟨message, found⟩)) noError
      | panic => exact absurd (.inl found) noPanic
    have valid : config.validateValue parsers = .ok () := by
      by_contra invalid
      exact noError (.inr (.inr (.inl ⟨invalid, unasked_or_asked finds⟩)))
    exact {
      finds := finds
      valid := valid
      complete := by
        rcases @filled_cases _ configs config outcomes with same |
          ⟨inner, -, value, updated, -⟩
        · rw [← same, kept]
        · rw [updated, value]
      asked := by
        intro asked
        have noStruct : config.currentValue.kind ≠ .struct := by
          intro isStruct
          obtain ⟨inner, value⟩ := value_of_kind_struct isStruct
          exact noPanic (.inr ⟨valid, asked, .inl ⟨inner, value⟩⟩)
        refine ⟨?_, noStruct, ?_⟩
        · cases empty : config.currentValue.isEmpty with
          | false => rfl
          | true => exact absurd (.inl ⟨asked, empty⟩) noError
        · intro inner isPresent
          have value := present_of_kind noStruct isPresent
          rw [FieldConfig.filled, value] at kept
          simp only [if_pos asked] at kept
          refine ⟨fun fails => noError (.inr (.inr (.inr
              ⟨valid, asked, inner, value, fails⟩))),
            fun panics => noPanic (.inr ⟨valid, asked, .inr
              ⟨inner, value, panics⟩⟩), ?_⟩
          simpa using kept }

end Fields

theorem Level.filled_eq_iff {parsers : Parsers} {s : Level Nested}
    {outcomes : Outcomes Nested} :
    s.filled parsers outcomes = s ↔ ∀ config ∈ s.fieldConfigs parsers,
      config.filled (s.fieldConfigs parsers) outcomes = config.currentValue := by
  constructor
  · intro kept config member
    rw [← filled_of_mem member, kept, value_of_mem member]
  · intro each
    have values : (s.filled parsers outcomes).value = s.value := by
      funext name
      by_cases visited : name ∈ (s.fieldConfigs parsers).map FieldConfig.name
      · obtain ⟨config, member, rfl⟩ := List.mem_map.mp visited
        rw [filled_of_mem member, each config member, value_of_mem member]
      · exact filled_of_not_mem visited
    exact congrArg (fun value => ({ s with value := value } : Level Nested)) values

theorem Level.rests_iff_stable {parsers : Parsers} {s : Level Nested}
    {nested : Outcomes Nested} :
    (s.Parses parsers ∧ ∀ config ∈ s.fieldConfigs parsers,
        config.Rests parsers nested.Stable (s.fieldConfigs parsers)) ↔
      (Level.outcomes parsers nested).Stable s := by
  change _ ↔ ¬s.fails parsers nested ∧ ¬s.panics parsers nested ∧
    s.filled parsers nested = s
  rw [filled_eq_iff]
  simp only [FieldConfig.rests_iff, fails, panics]
  constructor
  · rintro ⟨parses, each⟩
    refine ⟨?_, ?_, fun config member => (each config member).2.2⟩
    · rintro (unread | ⟨config, member, fails⟩)
      · exact unread parses
      · exact (each config member).1 fails
    · rintro ⟨config, member, panics⟩
      exact (each config member).2.1 panics
  · rintro ⟨noError, noPanic, kept⟩
    refine ⟨by_contra fun unread => noError (.inl unread),
      fun config member => ⟨?_, ?_, kept config member⟩⟩
    · exact fun fails => noError (.inr ⟨config, member, fails⟩)
    · exact fun panics => noPanic ⟨config, member, panics⟩

theorem rests_iff_stable {parsers : Parsers} {depth : Nat} {s : Struct depth} :
    Rests parsers depth s ↔ (outcomes parsers depth).Stable s := by
  induction depth with
  | zero => exact nomatch s
  | succ depth ih =>
      have same : Rests parsers depth = (outcomes parsers depth).Stable :=
        funext fun inner => propext ih
      have level := @Level.rests_iff_stable _ parsers s (outcomes parsers depth)
      rw [← same] at level
      exact level

/-! ### What the next check finds -/

/-- The fields with their defaults filled in -/
def defaulted (configs : List (FieldConfig Nested)) : List (FieldConfig Nested) :=
  configs.map fun config => { config with currentValue := config.updated }

/-- What has to be so for the next check to pass and change nothing.  `settles`
tells the same of a nested struct that was checked, `rests` of one that was
not. -/
structure FieldConfig.Settles (parsers : Parsers) (settles rests : Nested → Prop)
    (configs : List (FieldConfig Nested)) (config : FieldConfig Nested) :
    Prop where
  finds : ∀ result, config.Finds (defaulted configs) result → result = .ok true
  typed : { config with currentValue := config.updated }.validateField parsers =
    .ok ()
  asked : config.Asked configs →
    ∀ inner ∈ config.currentValue.present, settles inner
  newlyAsked : ¬config.Asked configs → config.Asked (defaulted configs) →
    config.updated.isEmpty = false ∧ config.currentValue.kind ≠ .struct ∧
      ∀ inner ∈ config.currentValue.present, rests inner

def Settles (parsers : Parsers) : (depth : Nat) → Struct depth → Prop
  | 0, _ => True
  | depth + 1, s => ∀ config ∈ Level.fieldConfigs parsers s,
      config.Settles parsers (Settles parsers depth) (Rests parsers depth)
        (Level.fieldConfigs parsers s)

section Next

variable {parsers : Parsers} {configs : List (FieldConfig Nested)}
variable {config : FieldConfig Nested} {outcomes : Outcomes Nested}

/-- A field after a check that passed -/
def FieldConfig.refilled (configs : List (FieldConfig Nested))
    (outcomes : Outcomes Nested) (config : FieldConfig Nested) :
    FieldConfig Nested :=
  { config with currentValue := config.filled configs outcomes }

theorem kind_filled : (config.filled configs outcomes).kind =
    config.currentValue.kind := by
  rcases @filled_cases _ configs config outcomes with same |
    ⟨inner, -, value, -, filled⟩
  · rw [same, kind_updated]
  · rw [filled, value]
    rfl

theorem isEmpty_filled : (config.filled configs outcomes).isEmpty =
    config.updated.isEmpty := by
  rcases @filled_cases _ configs config outcomes with same |
    ⟨inner, -, -, updated, filled⟩
  · rw [same]
  · rw [updated, filled]
    rfl

theorem findsMet_filled (asked : String) :
    (config.filled configs outcomes).findsMet asked =
      config.updated.findsMet asked := by
  rcases @filled_cases _ configs config outcomes with same |
    ⟨inner, -, -, updated, filled⟩
  · rw [same]
  · rw [updated, filled]
    rfl

theorem setTo_setTo (value : Value Nested) (default : Option Default) :
    (value.setTo default).setTo default = value.setTo default := by
  cases value <;> cases default with
  | none => rfl
  | some given => cases given <;> rfl

theorem updated_updated :
    { config with currentValue := config.updated }.updated = config.updated := by
  cases before : config.currentValue.isEmpty with
  | false =>
      have same := updated_of_not_empty before
      rw [same, same]
  | true =>
      have same : config.updated = config.currentValue.setTo config.defaults := by
        rw [FieldConfig.updated, if_pos before]
      rw [FieldConfig.updated, same, setTo_setTo]
      exact ite_self _

theorem updated_refilled : (config.refilled configs outcomes).updated =
    config.filled configs outcomes := by
  rcases @filled_cases _ configs config outcomes with same |
    ⟨inner, -, -, -, filled⟩
  · rw [FieldConfig.refilled, same, updated_updated]
  · rw [FieldConfig.refilled, filled]
    rfl

theorem findsMet_map {others : FieldConfig Nested → Value Nested}
    (condition : String × String) :
    findsMet (configs.map fun config =>
        { config with currentValue := others config }) condition =
      match configs.find? fun config => config.name = condition.1 with
      | none =>
          some (.error ("required_if field `" ++ condition.1 ++ "` not found"))
      | some other => (others other).findsMet condition.2 := by
  simp only [findsMet, List.find?_map, Function.comp_def]
  cases configs.find? fun config => config.name = condition.1 with
  | none => rfl
  | some other => rfl

theorem findsMet_refilled (condition : String × String) :
    findsMet (configs.map (FieldConfig.refilled configs outcomes)) condition =
      findsMet (defaulted configs) condition := by
  have left := @findsMet_map _ configs
    (fun config => config.filled configs outcomes) condition
  have right := @findsMet_map _ configs FieldConfig.updated condition
  change findsMet (configs.map fun config =>
    { config with currentValue := config.filled configs outcomes }) condition = _
  rw [left, defaulted, right]
  cases configs.find? fun config => config.name = condition.1 with
  | none => rfl
  | some other => exact findsMet_filled condition.2

theorem finds_refilled_iff (result : Checked Bool) :
    (config.refilled configs outcomes).Finds
        (configs.map (FieldConfig.refilled configs outcomes)) result ↔
      config.Finds (defaulted configs) result := by
  simp only [FieldConfig.Finds, findsMet_refilled]
  exact Iff.rfl

theorem asked_refilled_iff :
    (config.refilled configs outcomes).Asked
        (configs.map (FieldConfig.refilled configs outcomes)) ↔
      config.Asked (defaulted configs) :=
  or_congr Iff.rfl (finds_refilled_iff _)

/-- A condition that is met stays met. -/
theorem asked_defaulted (asked : config.Asked configs) :
    config.Asked (defaulted configs) := by
  rcases asked with required | ⟨notRequired, condition, member, met⟩
  · exact .inl required
  · refine .inr ⟨notRequired, condition, member, ?_⟩
    rw [findsMet] at met
    rw [defaulted, findsMet_map]
    cases found : configs.find? fun config => config.name = condition.1 with
    | none =>
        rw [found] at met
        cases met
    | some other =>
        rw [found] at met
        change other.currentValue.findsMet condition.2 = _ at met
        change other.updated.findsMet condition.2 = _
        rw [updated_of_not_empty (isEmpty_of_findsMet met)]
        exact met

theorem validateField_of_pointer {inner : Option Nested}
    (value : config.currentValue = .pointer inner)
    (present : inner.isSome = true) :
    config.validateField parsers = .ok () ↔ config.validateTypes = [] := by
  have notEmpty : config.currentValue.isEmpty = false := by
    rw [value, Value.isEmpty, Option.isNone_eq_false_iff]
    exact present
  rw [FieldConfig.validateField, notEmpty, Bool.or_false,
    updated_of_not_empty notEmpty, value]
  by_cases unlimited : config.validateTypes = []
  · simp [unlimited]
  · simp [unlimited]

/-- A list of values is looked at with its default filled in, the types of the
texts are not. -/
theorem validateValue_refilled_iff
    (valid : config.validateValue parsers = .ok ()) :
    (config.refilled configs outcomes).validateValue parsers = .ok () ↔
      { config with currentValue := config.updated }.validateField parsers =
        .ok () := by
  have validOneOf := (validateValue_eq_ok_iff.mp valid).1
  have sameOneOf : (config.refilled configs outcomes).validateOneOf = .ok () := by
    rw [FieldConfig.validateOneOf] at validOneOf ⊢
    rw [updated_refilled]
    rcases @filled_cases _ configs config outcomes with same |
      ⟨inner, -, -, updated, filled⟩
    · rw [same]
      exact validOneOf
    · rw [updated] at validOneOf
      rw [filled]
      by_cases unlimited : config.oneOf.isEmpty = true
      · exact if_pos unlimited
      · rw [if_neg unlimited] at validOneOf
        cases validOneOf
  rw [validateValue_eq_ok_iff, and_iff_right sameOneOf]
  rcases @filled_cases _ configs config outcomes with same |
    ⟨inner, -, -, updated, filled⟩
  · rw [FieldConfig.refilled, same]
  · rw [FieldConfig.refilled, filled, updated]
    rw [@validateField_of_pointer _ parsers { config with
        currentValue := .pointer (some (outcomes.filled inner)) } _ rfl rfl,
      @validateField_of_pointer _ parsers { config with
        currentValue := .pointer (some inner) } _ rfl rfl]

variable {settles rests : Nested → Prop}

theorem rests_refilled_iff (passes : config.passes configs parsers outcomes)
    (nested : ∀ inner, outcomes.passes inner →
      (rests (outcomes.filled inner) ↔ settles inner)) :
    (config.refilled configs outcomes).Rests parsers rests
        (configs.map (FieldConfig.refilled configs outcomes)) ↔
      config.Settles parsers settles rests configs := by
  constructor
  · intro keeps
    exact {
      finds := fun result found =>
        keeps.finds result ((finds_refilled_iff result).mpr found)
      typed := (validateValue_refilled_iff passes.1).mp keeps.valid
      asked := by
        intro asked inner isPresent
        obtain ⟨passesInner, filled⟩ := filled_of_present passes asked isPresent
        apply (nested inner passesInner).mp
        apply (keeps.asked (asked_refilled_iff.mpr (asked_defaulted asked))).2.2
        rw [FieldConfig.refilled, filled]
        rfl
      newlyAsked := by
        intro unasked asked
        have kept := keeps.asked (asked_refilled_iff.mpr asked)
        simp only [FieldConfig.refilled, isEmpty_filled, kind_filled,
          present_filled_of_not_asked unasked] at kept
        exact kept }
  · intro settled
    exact {
      finds := fun result found =>
        settled.finds result ((finds_refilled_iff result).mp found)
      valid := (validateValue_refilled_iff passes.1).mpr settled.typed
      complete := updated_refilled
      asked := by
        intro askedNext
        have askedNext := asked_refilled_iff.mp askedNext
        simp only [FieldConfig.refilled, isEmpty_filled, kind_filled]
        by_cases asked : config.Asked configs
        · rcases passes.2 with unasked | ⟨-, notEmpty, noStruct, -⟩
          · exact absurd asked (FieldConfig.not_asked_of_unasked unasked)
          · rw [updated_of_not_empty notEmpty]
            refine ⟨notEmpty, fun isStruct => ?_, fun inner isPresent => ?_⟩
            · obtain ⟨inner, value⟩ := value_of_kind_struct isStruct
              exact noStruct inner value
            · cases before : config.currentValue.present with
              | none =>
                  rw [present_filled_of_none before] at isPresent
                  cases isPresent
              | some other =>
                  obtain ⟨passesInner, filled⟩ :=
                    filled_of_present passes asked before
                  rw [filled] at isPresent
                  cases isPresent
                  exact (nested other passesInner).mpr
                    (settled.asked asked other before)
        · rw [present_filled_of_not_asked asked]
          exact settled.newlyAsked asked askedNext }

end Next

namespace Level

variable {parsers : Parsers} {s : Level Nested} {outcomes : Outcomes Nested}

theorem configs_filled (parses : s.Parses parsers) :
    (s.filled parsers outcomes).configs parsers =
      .ok ((s.fieldConfigs parsers).map
        (FieldConfig.refilled (s.fieldConfigs parsers) outcomes)) := by
  rw [configs, mapM_eq_ok_iff, List.forall₂_map_right_iff,
    List.forall₂_iff_zip]
  have read := List.forall₂_iff_zip.mp (forall₂_fieldConfigs parses)
  refine ⟨read.1, fun {type config} paired => ?_⟩
  have each := read.2 paired
  have member := (List.of_mem_zip paired).2
  have name := (FieldType.config_eq_ok each).2.2.2.1
  have value := (FieldType.config_eq_ok each).2.2.2.2.1
  rw [← name, filled_of_mem member]
  exact FieldType.config_of_kind each (by rw [kind_filled, value])

theorem fieldConfigs_filled (parses : s.Parses parsers) :
    (s.filled parsers outcomes).fieldConfigs parsers =
      (s.fieldConfigs parsers).map
        (FieldConfig.refilled (s.fieldConfigs parsers) outcomes) := by
  rw [fieldConfigs, configs_filled parses]
  rfl

variable {settles rests : Nested → Prop}

theorem rests_filled_iff (passes : s.passes parsers outcomes)
    (nested : ∀ inner, outcomes.passes inner →
      (rests (outcomes.filled inner) ↔ settles inner)) :
    ((s.filled parsers outcomes).Parses parsers ∧
        ∀ config ∈ (s.filled parsers outcomes).fieldConfigs parsers,
          config.Rests parsers rests
            ((s.filled parsers outcomes).fieldConfigs parsers)) ↔
      ∀ config ∈ s.fieldConfigs parsers,
        config.Settles parsers settles rests (s.fieldConfigs parsers) := by
  have parses : (s.filled parsers outcomes).Parses parsers := by
    rw [Parses, fieldConfigs_filled passes.1, configs_filled passes.1]
  rw [and_iff_right parses, fieldConfigs_filled passes.1, List.forall_mem_map]
  exact forall₂_congr fun config member =>
    rests_refilled_iff (passes.2 config member) nested

end Level

/-! ### The check as a whole -/

section Whole

variable {parsers : Parsers} {depth : Nat}

theorem rests_filled_iff_settles {s : Struct depth}
    (passes : (outcomes parsers depth).passes s) :
    Rests parsers depth ((outcomes parsers depth).filled s) ↔
      Settles parsers depth s := by
  induction depth with
  | zero => exact Iff.rfl
  | succ depth ih => exact Level.rests_filled_iff passes fun inner => ih

theorem WellBehaved.not_spoils {s : Struct depth}
    (behaves : WellBehaved parsers depth s) :
    ¬(outcomes parsers depth).spoils s := by
  intro spoils
  obtain ⟨order, message, ended, changed⟩ :=
    ((realises_outcomes parsers depth).spoils_iff s).mp spoils
  exact changed (behaves.unchanged order message ended)

/-- The check of a struct is well behaved exactly if it cannot both fail and end
otherwise, cannot fail after it has filled something in, and where it passes,
leaves what the next check does not object to. -/
theorem wellBehaved_iff_settles (s : Struct depth) :
    WellBehaved parsers depth s ↔
      ¬((outcomes parsers depth).fails s ∧
          ((outcomes parsers depth).passes s ∨
            (outcomes parsers depth).panics s)) ∧
        ¬(outcomes parsers depth).spoils s ∧
        ((outcomes parsers depth).passes s → Settles parsers depth s) := by
  have realises := realises_outcomes parsers depth
  constructor
  · intro behaves
    refine ⟨?_, behaves.not_spoils, fun passes => ?_⟩
    · rintro ⟨fails, others⟩
      obtain ⟨first, message, ended⟩ := (realises.fails_iff s).mp fails
      rcases others with passes | panics
      · obtain ⟨second, passed⟩ := (realises.passes_iff s).mp passes
        obtain ⟨other, failed⟩ := behaves.sameEnd first second message ended
        rw [passed] at failed
        cases failed
      · obtain ⟨second, panicked⟩ := (realises.panics_iff s).mp panics
        obtain ⟨other, failed⟩ := behaves.sameEnd first second message ended
        rw [panicked] at failed
        cases failed
    · obtain ⟨order, ended⟩ := (realises.passes_iff s).mp passes
      rw [← rests_filled_iff_settles passes, rests_iff_stable,
        realises.stable_iff]
      intro second
      have again := behaves.again order second ended
      rw [realises.left_of_ok order s ended] at again
      exact again
  · rintro ⟨oneEnd, intact, settled⟩
    exact {
      sameEnd := by
        intro first second message ended
        have fails := (realises.fails_iff s).mpr ⟨first, message, ended⟩
        cases result : (setDefaultsAndValidate parsers depth second s).2 with
        | ok value =>
            exact absurd ⟨fails, .inl ((realises.passes_iff s).mpr
              ⟨second, result⟩)⟩ oneEnd
        | error other => exact ⟨other, rfl⟩
        | panic =>
            exact absurd ⟨fails, .inr ((realises.panics_iff s).mpr
              ⟨second, result⟩)⟩ oneEnd
      unchanged := by
        intro order message ended
        by_contra changed
        exact intact ((realises.spoils_iff s).mpr
          ⟨order, message, ended, changed⟩)
      again := by
        intro first second ended
        have passes := (realises.passes_iff s).mpr ⟨first, ended⟩
        rw [realises.left_of_ok first s ended]
        have stable := (rests_filled_iff_settles passes).mpr (settled passes)
        rw [rests_iff_stable, realises.stable_iff] at stable
        exact stable second }

end Whole

/-! ### A mode that does not exist -/

def rejectedConfig : Struct 1 where
  fields := [{
    name := "DHCPClient"
    typeString := "null.String"
    tags := { byDefault := "udhcpc", oneOf := "jetdhcpc,udhcpc" } }, {
    name := "LLDPMode"
    typeString := "null.String"
    tags := { byDefault := "basic", oneOf := "disabled,basic,all" } }]
  distinct := by decide
  value name :=
    if name = "LLDPMode" then .nullString (.of "sometimes") else .nullString {}

def dhcpClientConfig : FieldConfig (Struct 0) where
  name := "DHCPClient"
  typeString := "null.String"
  required := false
  requiredIf := []
  oneOf := ["jetdhcpc", "udhcpc"]
  validateTypes := []
  defaults := some (.string "udhcpc")
  currentValue := .nullString {}

def lldpModeConfig : FieldConfig (Struct 0) where
  name := "LLDPMode"
  typeString := "null.String"
  required := false
  requiredIf := []
  oneOf := ["disabled", "basic", "all"]
  validateTypes := []
  defaults := some (.string "basic")
  currentValue := .nullString (.of "sometimes")

theorem rejectedConfig_configs (parsers : Parsers) :
    Level.fieldConfigs parsers rejectedConfig =
      [dhcpClientConfig, lldpModeConfig] := rfl

/-- It is found out after another field has been filled in. -/
theorem rejectedConfig_not_wellBehaved :
    ¬∃ parsers, WellBehaved parsers 1 rejectedConfig := by
  rintro ⟨parsers, behaves⟩
  apply behaves.not_spoils
  refine .inr ⟨dhcpClientConfig, ?_, lldpModeConfig, ?_, ?_, ⟨?_, ?_⟩, ?_⟩
  · rw [rejectedConfig_configs]
    exact List.mem_cons_self
  · rw [rejectedConfig_configs]
    exact List.mem_cons_of_mem _ List.mem_cons_self
  · intro same
    exact absurd (congrArg FieldConfig.name same) (by decide)
  · exact ⟨rfl, .inl ⟨rfl, nofun⟩⟩
  · have filled : dhcpClientConfig.filled
        (Level.fieldConfigs parsers rejectedConfig) (outcomes parsers 0) =
          .nullString (.of "udhcpc") := rfl
    rw [filled]
    exact fun same => absurd (congrArg Value.isEmpty same) (by decide)
  · have invalid : lldpModeConfig.validateValue parsers ≠ .ok () := nofun
    exact .inr (.inr (.inl ⟨invalid, .inl ⟨rfl, nofun⟩⟩))

end ConfStruct

end JetKvm
