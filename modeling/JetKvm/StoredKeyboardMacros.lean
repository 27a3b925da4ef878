import JetKvm.ConfigDurability
import JetKvm.RpcIntegers
import Mathlib.Data.List.Forall2

/-!
# The stored keyboard macros

Translation of `setKeyboardMacros` and `getKeyboardMacros` of `jsonrpc.go` and of
the checks of `config.go`.  Type assertions pick the macros out of untyped JSON
and pass over what does not fit.
-/

namespace JetKvm

namespace ConfigDurability

def maxMacrosPerDevice : Nat := 25

def maxStepsPerMacro : Nat := 10

def maxKeysPerStep : Nat := 10

def minStepDelay : Int := 50

def maxStepDelay : Int := 2000

def clampDelay (delay : Int) : Int :=
  if delay < minStepDelay then minStepDelay
  else if delay > maxStepDelay then maxStepDelay
  else delay

/-- The step as the check leaves it -/
def KeyboardMacroStep.validate (s : KeyboardMacroStep) :
    Except String KeyboardMacroStep :=
  if s.keys.length > maxKeysPerStep then
    .error ("too many keys in step (max " ++ toString maxKeysPerStep ++ ")")
  else .ok { s with delay := clampDelay s.delay }

/-- The loop over the steps from an index on -/
def validateSteps : Nat → List KeyboardMacroStep →
    Except String (List KeyboardMacroStep)
  | _, [] => .ok []
  | i, step :: steps =>
      match step.validate with
      | .error err =>
          .error ("invalid step " ++ toString (i + 1) ++ ": " ++ err)
      | .ok step => do
          let rest ← validateSteps (i + 1) steps
          .ok (step :: rest)

def KeyboardMacro.validate (m : KeyboardMacro) : Except String KeyboardMacro :=
  if m.name = "" then .error "macro name cannot be empty"
  else if m.steps.length = 0 then .error "macro must have at least one step"
  else if m.steps.length > maxStepsPerMacro then
    .error ("too many steps in macro (max " ++ toString maxStepsPerMacro ++ ")")
  else do
    let steps ← validateSteps 0 m.steps
    .ok { m with steps := steps }

end ConfigDurability

namespace StoredMacros

open ConfigDurability GoFloat64 RpcArguments

/-! ### What is read from JSON -/

/-- The last of several members with the key -/
def field (fields : List (String × Json)) (key : String) : Option Json :=
  fields.reverse.lookup key

def textField (fields : List (String × Json)) (key : String) : String :=
  match field fields key with
  | some (.string text) => text
  | _ => ""

def numberField (fields : List (String × Json)) (key : String) : Option ℚ :=
  match field fields key with
  | some (.number number) => some number
  | _ => none

/-- What the loop over an array goes through -/
def arrayField (fields : List (String × Json)) (key : String) : List Json :=
  match field fields key with
  | some (.array elements) => elements
  | _ => []

def asString : Json → Option String
  | .string text => some text
  | _ => none

def asObject : Json → Option (List (String × Json))
  | .object fields => some fields
  | _ => none

section Reading

variable (machine : Machine)

/-- `int` of a double -/
def toInt (number : ℚ) : Int :=
  machine.toInteger true (IntKind.int.bits machine) number

def readStep (stepMap : List (String × Json)) : KeyboardMacroStep where
  keys := (arrayField stepMap "keys").filterMap asString
  modifiers := (arrayField stepMap "modifiers").filterMap asString
  delay :=
    match numberField stepMap "delay" with
    | some delay => toInt machine delay
    | none => 0

def readSteps (macroMap : List (String × Json)) : List KeyboardMacroStep :=
  ((arrayField macroMap "steps").filterMap asObject).map (readStep machine)

/-- `now` is the clock in nanoseconds. -/
def readId (now : Int) (macroMap : List (String × Json)) : String :=
  let id := textField macroMap "id"
  if id = "" then "macro-" ++ toString now else id

def readSortOrder (i : Nat) (macroMap : List (String × Json)) : Int :=
  match numberField macroMap "sortOrder" with
  | some sortOrder => toInt machine sortOrder
  | none => i + 1

/-- One macro before it is checked -/
def readMacro (now : Int) (i : Nat) (macroMap : List (String × Json)) :
    KeyboardMacro where
  id := readId now macroMap
  name := textField macroMap "name"
  steps := readSteps machine macroMap
  sortOrder := readSortOrder machine i macroMap

/-- The loop of `setKeyboardMacros` from an index on, with the clock at each -/
def readMacros (now : Nat → Int) :
    Nat → List Json → Except String (List KeyboardMacro)
  | _, [] => .ok []
  | i, item :: items =>
      match asObject item with
      | none => .error ("invalid macro at index " ++ toString i)
      | some macroMap =>
          match (readMacro machine (now i) i macroMap).validate with
          | .error err =>
              .error ("invalid macro at index " ++ toString i ++ ": " ++ err)
          | .ok checked => do
              let newMacros ← readMacros now (i + 1) items
              .ok (checked :: newMacros)

structure KeyboardMacrosParams where
  macros : Option (List Json)

/-- The macros that are stored afterwards, and the error that is returned -/
def setKeyboardMacros (now : Nat → Int) (saveError : Option String)
    (params : KeyboardMacrosParams) (stored : List KeyboardMacro) :
    List KeyboardMacro × Option String :=
  match params.macros with
  | none => (stored, some "missing or invalid macros parameter")
  | some items =>
      match readMacros machine now 0 items with
      | .error err => (stored, some err)
      | .ok newMacros => (newMacros, saveError)

/-- The value is unmarshalled into the parameters. -/
def unmarshalParams (macros : Json) : Except String KeyboardMacrosParams :=
  let mismatch (kind : String) : Except String KeyboardMacrosParams :=
    .error ("json: cannot unmarshal " ++ kind ++
      " into Go struct field KeyboardMacrosParams.macros" ++
      " of type []interface \x7b\x7d")
  match macros with
  | .array items => .ok ⟨some items⟩
  | .null => .ok ⟨none⟩
  | .bool _ => mismatch "bool"
  | .number _ => mismatch "number"
  | .string _ => mismatch "string"
  | .object _ => mismatch "object"

/-- The request with the value, of which the numbers are read as doubles -/
def sendKeyboardMacros (now : Nat → Int) (saveError : Option String)
    (macros : Json) (stored : List KeyboardMacro) :
    List KeyboardMacro × Option String :=
  match macros.read with
  | none => (stored, some "Parse error")
  | some macros =>
      match unmarshalParams macros with
      | .error err =>
          (stored, some ("failed to unmarshal JSON into struct: " ++ err ++
            " for parameter params"))
      | .ok params => setKeyboardMacros machine now saveError params stored

end Reading

/-! ### What is sent back -/

/-- A slice to which nothing was appended is nil. -/
def stringsJson (texts : List String) : Json :=
  if texts = [] then .null else .array (texts.map .string)

def stepFields (step : KeyboardMacroStep) : List (String × Json) :=
  [("keys", stringsJson step.keys), ("modifiers", stringsJson step.modifiers),
    ("delay", .number step.delay)]

def stepJson (step : KeyboardMacroStep) : Json :=
  .object (stepFields step)

/-- `sortOrder` has the option `omitempty`. -/
def macroJson (m : KeyboardMacro) : Json :=
  .object
    ([("id", .string m.id), ("name", .string m.name),
      ("steps", .array (m.steps.map stepJson))] ++
      if m.sortOrder = 0 then [] else [("sortOrder", .number m.sortOrder)])

def getKeyboardMacros (stored : List KeyboardMacro) : Json :=
  .array (stored.map macroJson)

/-! ### What should hold of a call -/

structure StepWellFormed (step : KeyboardMacroStep) : Prop where
  keys : step.keys.length ≤ maxKeysPerStep
  delay : minStepDelay ≤ step.delay ∧ step.delay ≤ maxStepDelay

structure MacroWellFormed (m : KeyboardMacro) : Prop where
  name : m.name ≠ ""
  steps : 1 ≤ m.steps.length ∧ m.steps.length ≤ maxStepsPerMacro
  each : ∀ step ∈ m.steps, StepWellFormed step

structure WellFormed (stored : List KeyboardMacro) : Prop where
  count : stored.length ≤ maxMacrosPerDevice
  distinct : (stored.map KeyboardMacro.id).Nodup
  each : ∀ m ∈ stored, MacroWellFormed m

/-- The step was sent, with its keys and modifiers and, if it is one of those
allowed, its delay. -/
def CarriesStep (sent : Json) (step : KeyboardMacroStep) : Prop :=
  ∃ stepMap, sent = .object stepMap ∧
    arrayField stepMap "keys" = step.keys.map .string ∧
    arrayField stepMap "modifiers" = step.modifiers.map .string ∧
    ∀ delay : Int, minStepDelay ≤ delay → delay ≤ maxStepDelay →
      numberField stepMap "delay" = some (delay : ℚ) → step.delay = delay

/-- The macro was sent, with every step in order. -/
def CarriesMacro (sent : Json) (m : KeyboardMacro) : Prop :=
  ∃ macroMap, sent = .object macroMap ∧
    List.Forall₂ CarriesStep (arrayField macroMap "steps") m.steps

def Carries (macros : Json) (stored : List KeyboardMacro) : Prop :=
  ∃ items, macros.read = some (.array items) ∧
    List.Forall₂ CarriesMacro items stored

/-- What is returned for the macros is stored as the same macros when it is sent
back. -/
def ComesBack (machine : Machine) (stored : List KeyboardMacro) : Prop :=
  ∀ now saveError before,
    sendKeyboardMacros machine now saveError (getKeyboardMacros stored) before =
      (stored, saveError)

/-- A call that returns an error leaves the macros unchanged, and one that does
not stores a well-formed list of what was sent, which comes back. -/
def Behaves (machine : Machine) (now : Nat → Int) (saveError : Option String)
    (macros : Json) (stored : List KeyboardMacro) : Prop :=
  match sendKeyboardMacros machine now saveError macros stored with
  | (next, some _) => next = stored
  | (next, none) =>
      WellFormed next ∧ Carries macros next ∧ ComesBack machine next

/-! ### Which calls behave -/

/-- The checks are passed. -/
def Accepts (item : Json) : Prop :=
  ∃ macroMap, asObject item = some macroMap ∧
    textField macroMap "name" ≠ "" ∧
    (1 ≤ ((arrayField macroMap "steps").filterMap asObject).length ∧
      ((arrayField macroMap "steps").filterMap asObject).length ≤
        maxStepsPerMacro) ∧
    ∀ stepMap ∈ (arrayField macroMap "steps").filterMap asObject,
      ((arrayField stepMap "keys").filterMap asString).length ≤ maxKeysPerStep

/-- Every step is an object, with nothing but strings for keys and modifiers. -/
def Whole (item : Json) : Prop :=
  ∀ macroMap, asObject item = some macroMap →
    ∀ element ∈ arrayField macroMap "steps", ∃ stepMap,
      asObject element = some stepMap ∧
        (∀ key ∈ arrayField stepMap "keys", (asString key).isSome) ∧
        ∀ modifier ∈ arrayField stepMap "modifiers", (asString modifier).isSome

/-- The integer is not left out, and it is the one that its double is converted
to. -/
def Resent (machine : Machine) (sortOrder : Int) : Prop :=
  sortOrder ≠ 0 ∧
    ∃ double, parseFloat sortOrder = some double ∧
      toInt machine double = sortOrder

/-- The macro that an item describes, with its delays brought within the limits -/
def sentMacro (machine : Machine) (now : Nat → Int) (i : Nat) (item : Json) :
    KeyboardMacro :=
  let m := readMacro machine (now i) i ((asObject item).getD [])
  { m with
    steps := m.steps.map fun s => { s with delay := clampDelay s.delay } }

structure Storable (machine : Machine) (now : Nat → Int) (items : List Json) :
    Prop where
  count : items.length ≤ maxMacrosPerDevice
  distinct :
    (items.mapIdx fun i item =>
      readId (now i) ((asObject item).getD [])).Nodup
  whole : ∀ item ∈ items, Whole item
  sortOrder : ∀ item ∈ items, ∀ macroMap sortOrder,
    asObject item = some macroMap →
      numberField macroMap "sortOrder" = some sortOrder →
        Resent machine (toInt machine sortOrder)

/-- Where the checks are passed, the macros can be stored and come back, and if
they cannot be saved they are those that are there already. -/
def Fits (machine : Machine) (now : Nat → Int) (saveError : Option String)
    (macros : Json) (stored : List KeyboardMacro) : Prop :=
  ∀ items, macros.read = some (.array items) →
    (∀ item ∈ items, Accepts item) →
      if saveError = none then Storable machine now items
      else items.mapIdx (sentMacro machine now) = stored

/-! ### The checks -/

section Checks

def clamped (step : KeyboardMacroStep) : KeyboardMacroStep :=
  { step with delay := clampDelay step.delay }

theorem clampDelay_bounds (delay : Int) :
    minStepDelay ≤ clampDelay delay ∧ clampDelay delay ≤ maxStepDelay := by
  unfold clampDelay minStepDelay maxStepDelay
  split
  · omega
  · split
    · omega
    · omega

theorem clampDelay_of_bounds {delay : Int} (lower : minStepDelay ≤ delay)
    (upper : delay ≤ maxStepDelay) : clampDelay delay = delay := by
  rw [clampDelay, if_neg (by omega), if_neg (by omega)]

theorem validate_step_of_le {step : KeyboardMacroStep}
    (few : step.keys.length ≤ maxKeysPerStep) :
    step.validate = .ok (clamped step) := by
  rw [KeyboardMacroStep.validate, if_neg (by omega)]
  rfl

theorem validateSteps_of_forall {steps : List KeyboardMacroStep} (i : Nat)
    (few : ∀ step ∈ steps, step.keys.length ≤ maxKeysPerStep) :
    validateSteps i steps = .ok (steps.map clamped) := by
  induction steps generalizing i with
  | nil => rfl
  | cons step steps ih =>
      obtain ⟨here, later⟩ := List.forall_mem_cons.mp few
      simp only [validateSteps, validate_step_of_le here, ih (i + 1) later]
      rfl

theorem validateSteps_of_not_forall {steps : List KeyboardMacroStep} (i : Nat)
    (many : ¬ ∀ step ∈ steps, step.keys.length ≤ maxKeysPerStep) :
    ∃ err, validateSteps i steps = .error err := by
  induction steps generalizing i with
  | nil => exact absurd (fun _ => nofun) many
  | cons step steps ih =>
      by_cases here : step.keys.length ≤ maxKeysPerStep
      · have later : ¬ ∀ step ∈ steps, step.keys.length ≤ maxKeysPerStep :=
          fun all => many (List.forall_mem_cons.mpr ⟨here, all⟩)
        obtain ⟨err, failed⟩ := ih (i + 1) later
        simp only [validateSteps, validate_step_of_le here, failed]
        exact ⟨err, rfl⟩
      · simp only [validateSteps, KeyboardMacroStep.validate,
          if_pos (show step.keys.length > maxKeysPerStep by omega)]
        exact ⟨_, rfl⟩

/-- What the checks ask of a macro -/
structure Valid (m : KeyboardMacro) : Prop where
  name : m.name ≠ ""
  steps : 1 ≤ m.steps.length ∧ m.steps.length ≤ maxStepsPerMacro
  keys : ∀ step ∈ m.steps, step.keys.length ≤ maxKeysPerStep

theorem Valid.validate {m : KeyboardMacro} (valid : Valid m) :
    m.validate = .ok { m with steps := m.steps.map clamped } := by
  have present := valid.steps.1
  have few := valid.steps.2
  rw [KeyboardMacro.validate, if_neg valid.name, if_neg (by omega),
    if_neg (by omega), validateSteps_of_forall 0 valid.keys]
  rfl

theorem validate_of_not_valid {m : KeyboardMacro} (invalid : ¬ Valid m) :
    ∃ err, m.validate = .error err := by
  unfold KeyboardMacro.validate
  by_cases unnamed : m.name = ""
  · exact ⟨_, if_pos unnamed⟩
  rw [if_neg unnamed]
  by_cases empty : m.steps.length = 0
  · exact ⟨_, if_pos empty⟩
  rw [if_neg empty]
  by_cases many : m.steps.length > maxStepsPerMacro
  · exact ⟨_, if_pos many⟩
  rw [if_neg many]
  have keys : ¬ ∀ step ∈ m.steps, step.keys.length ≤ maxKeysPerStep :=
    fun keys => invalid ⟨unnamed, by omega, keys⟩
  obtain ⟨err, failed⟩ := validateSteps_of_not_forall 0 keys
  rw [failed]
  exact ⟨err, rfl⟩

variable {machine : Machine} {now : Nat → Int}

theorem accepts_iff {item : Json} (clock : Int) (i : Nat) :
    Accepts item ↔ ∃ macroMap, asObject item = some macroMap ∧
      Valid (readMacro machine clock i macroMap) := by
  refine exists_congr fun macroMap => and_congr_right fun _ => ?_
  constructor
  · rintro ⟨name, steps, keys⟩
    refine ⟨name, ?_, ?_⟩
    · simpa [readMacro, readSteps] using steps
    · intro step sent
      obtain ⟨stepMap, present, rfl⟩ := List.mem_map.mp sent
      exact keys stepMap present
  · rintro ⟨name, steps, keys⟩
    refine ⟨name, ?_, ?_⟩
    · simpa [readMacro, readSteps] using steps
    · intro stepMap present
      exact keys _ (List.mem_map_of_mem present)

theorem readMacros_of_accepts {items : List Json} (i : Nat)
    (accepts : ∀ item ∈ items, Accepts item) :
    readMacros machine now i items =
      .ok (items.mapIdx fun j => sentMacro machine now (i + j)) := by
  induction items generalizing i with
  | nil => rfl
  | cons item items ih =>
      obtain ⟨here, later⟩ := List.forall_mem_cons.mp accepts
      obtain ⟨macroMap, isObject, valid⟩ :=
        (@accepts_iff machine item (now i) i).mp here
      simp only [readMacros, isObject, valid.validate, ih (i + 1) later,
        List.mapIdx_cons, sentMacro, Nat.add_zero, Option.getD_some]
      simp only [Nat.add_assoc, Nat.add_comm 1]
      rfl

theorem readMacros_of_not_accepts {items : List Json} (i : Nat)
    (refuses : ¬ ∀ item ∈ items, Accepts item) :
    ∃ err, readMacros machine now i items = .error err := by
  induction items generalizing i with
  | nil => exact absurd (fun _ => nofun) refuses
  | cons item items ih =>
      unfold readMacros
      cases isObject : asObject item with
      | none => exact ⟨_, rfl⟩
      | some macroMap =>
          dsimp only
          by_cases valid : Valid (readMacro machine (now i) i macroMap)
          · have here : Accepts item :=
              (accepts_iff (now i) i).mpr ⟨macroMap, isObject, valid⟩
            have later : ¬ ∀ item ∈ items, Accepts item :=
              fun all => refuses (List.forall_mem_cons.mpr ⟨here, all⟩)
            obtain ⟨err, failed⟩ := ih (i + 1) later
            rw [valid.validate, failed]
            exact ⟨err, rfl⟩
          · obtain ⟨err, failed⟩ := validate_of_not_valid valid
            rw [failed]
            exact ⟨_, rfl⟩

end Checks

/-! ### What is stored of what was sent -/

section Carrying

/-- The kept elements are in relation to the whole list only if every one is
kept. -/
theorem forall₂_filterMap_iff {α β : Type*} {relation : α → β → Prop}
    {keep : α → Option β} {elements : List α} :
    List.Forall₂ relation elements (elements.filterMap keep) ↔
      ∀ element ∈ elements, ∃ kept,
        keep element = some kept ∧ relation element kept := by
  induction elements with
  | nil => simp
  | cons element elements ih =>
      rw [List.forall_mem_cons]
      cases kept : keep element with
      | none =>
          rw [List.filterMap_cons_none kept]
          refine iff_of_false (fun related => ?_) (by simp)
          have same := related.length_eq
          have fewer := List.length_filterMap_le keep elements
          rw [List.length_cons] at same
          omega
      | some value =>
          rw [List.filterMap_cons_some kept, List.forall₂_cons, ih]
          simp

theorem map_string_filterMap_iff {elements : List Json} :
    elements = (elements.filterMap asString).map .string ↔
      ∀ element ∈ elements, (asString element).isSome := by
  rw [← List.forall₂_eq_eq_eq, List.forall₂_map_right_iff,
    forall₂_filterMap_iff]
  refine forall₂_congr fun element _ => ?_
  rw [Option.isSome_iff_exists]
  refine exists_congr fun text => and_iff_left_of_imp fun kept => ?_
  cases element with
  | string other =>
      cases kept
      rfl
  | null | bool | number | array | object => cases kept

theorem eq_object_iff {element : Json} {fields : List (String × Json)} :
    element = .object fields ↔ asObject element = some fields := by
  cases element with
  | object | null | bool | number | string | array => simp [asObject]

variable {machine : Machine} {now : Nat → Int} {items : List Json}

/-- Small integers are converted to themselves. -/
theorem toInt_intCast {n : Int} (small : |n| < 2 ^ 31) :
    toInt machine (n : ℚ) = n := by
  have within : InBits true (IntKind.int.bits machine) n := by
    have narrow : InBits true 32 n := by
      rw [abs_lt] at small
      exact ⟨small.1.le, small.2⟩
    apply narrow.widen
    · cases wide : machine.wide with
      | false => simp [IntKind.bits, wide]
      | true => simp [IntKind.bits, wide]
  rw [toInt, machine.toInteger_of_inBits _ _ _ (IntKind.bits_pos machine .int)]
  · rw [truncated_intCast]
  · rwa [truncated_intCast]

theorem carriesStep_iff {element : Json} {stepMap : List (String × Json)}
    (isObject : asObject element = some stepMap) :
    CarriesStep element (clamped (readStep machine stepMap)) ↔
      (∀ key ∈ arrayField stepMap "keys", (asString key).isSome) ∧
        ∀ modifier ∈ arrayField stepMap "modifiers",
          (asString modifier).isSome := by
  rw [← map_string_filterMap_iff, ← map_string_filterMap_iff]
  constructor
  · rintro ⟨other, sent, keys, modifiers, -⟩
    obtain rfl := Option.some.inj (isObject.symm.trans (eq_object_iff.mp sent))
    exact ⟨keys, modifiers⟩
  · rintro ⟨keys, modifiers⟩
    refine ⟨stepMap, eq_object_iff.mpr isObject, keys, modifiers, ?_⟩
    intro delay lower upper sent
    have small : |delay| < 2 ^ 31 := by
      unfold minStepDelay at lower
      unfold maxStepDelay at upper
      rw [abs_lt]
      omega
    simp only [clamped, readStep, sent, toInt_intCast small]
    exact clampDelay_of_bounds lower upper

theorem carriesMacro_iff {item : Json} (i : Nat) (accepts : Accepts item) :
    CarriesMacro item (sentMacro machine now i item) ↔ Whole item := by
  obtain ⟨macroMap, isObject, -⟩ := accepts
  have steps : (sentMacro machine now i item).steps =
      (((arrayField macroMap "steps").filterMap asObject).map
        (readStep machine)).map clamped := by
    simp only [sentMacro, isObject, Option.getD_some]
    rfl
  have whole : Whole item ↔
      List.Forall₂ CarriesStep (arrayField macroMap "steps")
        (sentMacro machine now i item).steps := by
    rw [steps, List.forall₂_map_right_iff, List.forall₂_map_right_iff,
      forall₂_filterMap_iff]
    simp only [Whole, isObject, Option.some.injEq, forall_eq']
    refine forall₂_congr fun element _ => exists_congr fun stepMap => ?_
    exact and_congr_right fun isStep => (carriesStep_iff isStep).symm
  rw [whole]
  constructor
  · rintro ⟨other, sent, carries⟩
    obtain rfl := Option.some.inj (isObject.symm.trans (eq_object_iff.mp sent))
    exact carries
  · intro carries
    exact ⟨macroMap, eq_object_iff.mpr isObject, carries⟩

theorem carries_iff {items : List Json} {sent : Nat → Json → KeyboardMacro}
    (each : ∀ item ∈ items, ∀ i,
      CarriesMacro item (sent i item) ↔ Whole item) :
    List.Forall₂ CarriesMacro items (items.mapIdx sent) ↔
      ∀ item ∈ items, Whole item := by
  induction items generalizing sent with
  | nil => simp
  | cons item items ih =>
      obtain ⟨here, later⟩ := List.forall_mem_cons.mp each
      rw [List.mapIdx_cons, List.forall₂_cons, List.forall_mem_cons, here 0,
        ih fun item sent i => later item sent (i + 1)]

theorem wellFormed_sentMacro {item : Json} (i : Nat) (accepts : Accepts item) :
    MacroWellFormed (sentMacro machine now i item) := by
  obtain ⟨macroMap, isObject, valid⟩ :=
    (@accepts_iff machine item (now i) i).mp accepts
  simp only [sentMacro, isObject, Option.getD_some]
  refine ⟨valid.name, ?_, ?_⟩
  · rw [List.length_map]
    exact valid.steps
  · intro step stored
    obtain ⟨read, present, rfl⟩ := List.mem_map.mp stored
    exact ⟨valid.keys read present, clampDelay_bounds read.delay⟩

theorem wellFormed_iff (accepts : ∀ item ∈ items, Accepts item) :
    WellFormed (items.mapIdx (sentMacro machine now)) ↔
      items.length ≤ maxMacrosPerDevice ∧
        (items.mapIdx fun i item =>
          readId (now i) ((asObject item).getD [])).Nodup := by
  have ids : (items.mapIdx (sentMacro machine now)).map KeyboardMacro.id =
      items.mapIdx fun i item => readId (now i) ((asObject item).getD []) := by
    rw [List.mapIdx_eq_zipIdx_map, List.map_map, List.mapIdx_eq_zipIdx_map]
    rfl
  constructor
  · rintro ⟨count, distinct, -⟩
    rw [ids] at distinct
    rw [List.length_mapIdx] at count
    exact ⟨count, distinct⟩
  · rintro ⟨count, distinct⟩
    refine ⟨by rwa [List.length_mapIdx], by rwa [ids], ?_⟩
    intro m present
    obtain ⟨i, within, rfl⟩ := List.mem_mapIdx.mp present
    exact wellFormed_sentMacro i (accepts _ (List.getElem_mem within))

theorem readId_ne_empty (clock : Int) (macroMap : List (String × Json)) :
    readId clock macroMap ≠ "" := by
  unfold readId
  dsimp only
  split
  · intro empty
    have short := congrArg String.length empty
    rw [String.length_append] at short
    simp at short
  · assumption

end Carrying

/-! ### What comes back -/

section ComingBack

variable {machine : Machine} {now : Nat → Int}

/-- The members of a macro that is sent back -/
def macroFields (m : KeyboardMacro) (sortOrder : Option ℚ) :
    List (String × Json) :=
  [("id", .string m.id), ("name", .string m.name),
    ("steps", .array (m.steps.map stepJson))] ++
    match sortOrder with
    | none => []
    | some number => [("sortOrder", .number number)]

theorem macroJson_eq (m : KeyboardMacro) :
    macroJson m = .object (macroFields m
      (if m.sortOrder = 0 then none else some (m.sortOrder : ℚ))) := by
  unfold macroJson macroFields
  split
  · rfl
  · rfl

theorem read_strings (texts : List String) :
    readElements (texts.map .string) = some (texts.map .string) := by
  induction texts with
  | nil => rfl
  | cons text texts ih =>
      simp only [List.map_cons, readElements, ih]
      rfl

theorem read_stringsJson (texts : List String) :
    (stringsJson texts).read = some (stringsJson texts) := by
  unfold stringsJson
  split
  · rfl
  · rw [Json.read, read_strings]
    rfl

theorem StepWellFormed.small {step : KeyboardMacroStep}
    (step_ok : StepWellFormed step) : |step.delay| < 2 ^ 31 := by
  have bounds := step_ok.delay
  unfold minStepDelay maxStepDelay at bounds
  rw [abs_lt]
  omega

theorem read_stepJson {step : KeyboardMacroStep} (wellFormed : StepWellFormed step) :
    (stepJson step).read = some (stepJson step) := by
  have float : parseFloat (step.delay : ℚ) = some (step.delay : ℚ) := by
    apply parseFloat_of_isFloat
    apply isFloat_intCast
    exact wellFormed.small.trans (by norm_num)
  simp only [stepJson, stepFields, Json.read, readFields, read_stringsJson, float]
  rfl

theorem read_steps {steps : List KeyboardMacroStep}
    (wellFormed : ∀ step ∈ steps, StepWellFormed step) :
    readElements (steps.map stepJson) = some (steps.map stepJson) := by
  induction steps with
  | nil => rfl
  | cons step steps ih =>
      obtain ⟨here, later⟩ := List.forall_mem_cons.mp wellFormed
      simp only [List.map_cons, readElements, read_stepJson here, ih later]
      rfl

theorem read_macroFields_none {m : KeyboardMacro} (wellFormed : MacroWellFormed m) :
    (Json.object (macroFields m none)).read =
      some (.object (macroFields m none)) := by
  simp only [macroFields, Json.read, List.append_nil, readFields,
    read_steps wellFormed.each]
  rfl

theorem read_macroFields_some {m : KeyboardMacro} (wellFormed : MacroWellFormed m)
    (number : ℚ) :
    (Json.object (macroFields m (some number))).read =
      (parseFloat number).map fun double =>
        .object (macroFields m (some double)) := by
  simp only [macroFields, Json.read, List.cons_append, List.nil_append,
    readFields, read_steps wellFormed.each]
  cases parseFloat number with
  | none => rfl
  | some double => rfl

theorem filterMap_stringsJson {texts : List String} {key : String}
    {fields : List (String × Json)}
    (present : field fields key = some (stringsJson texts)) :
    (arrayField fields key).filterMap asString = texts := by
  cases texts with
  | nil =>
      have empty : arrayField fields key = [] := by
        rw [arrayField, present]
        rfl
      rw [empty, List.filterMap_nil]
  | cons text texts =>
      have all : arrayField fields key = (text :: texts).map .string := by
        rw [arrayField, present]
        rfl
      rw [all, List.filterMap_map]
      exact List.filterMap_some

theorem readStep_stepFields {step : KeyboardMacroStep}
    (wellFormed : StepWellFormed step) :
    readStep machine (stepFields step) = step := by
  have keys := @filterMap_stringsJson step.keys "keys" (stepFields step) rfl
  have modifiers :=
    @filterMap_stringsJson step.modifiers "modifiers" (stepFields step) rfl
  have delay : numberField (stepFields step) "delay" = some (step.delay : ℚ) := rfl
  simp only [readStep, keys, modifiers, delay, toInt_intCast wellFormed.small]

theorem readSteps_stepJson {steps : List KeyboardMacroStep}
    (wellFormed : ∀ step ∈ steps, StepWellFormed step) :
    ((steps.map stepJson).filterMap asObject).map (readStep machine) = steps := by
  induction steps with
  | nil => rfl
  | cons step steps ih =>
      obtain ⟨here, later⟩ := List.forall_mem_cons.mp wellFormed
      have isObject : asObject (stepJson step) = some (stepFields step) := rfl
      rw [List.map_cons, List.filterMap_cons_some isObject, List.map_cons,
        ih later, readStep_stepFields here]

theorem readMacro_macroFields {m : KeyboardMacro} (wellFormed : MacroWellFormed m)
    (identified : m.id ≠ "") (clock : Int) (i : Nat) (sortOrder : Option ℚ) :
    readMacro machine clock i (macroFields m sortOrder) =
      { m with
        sortOrder := (sortOrder.map (toInt machine)).getD (i + 1) } := by
  have steps := @readSteps_stepJson machine m.steps wellFormed.each
  cases sortOrder with
  | none =>
      have id : textField (macroFields m none) "id" = m.id := rfl
      have own : arrayField (macroFields m none) "steps" =
        m.steps.map stepJson := rfl
      simp only [readMacro, readId, id, if_neg identified, readSteps, own, steps]
      rfl
  | some number =>
      have id : textField (macroFields m (some number)) "id" = m.id := rfl
      have own : arrayField (macroFields m (some number)) "steps" =
        m.steps.map stepJson := rfl
      simp only [readMacro, readId, id, if_neg identified, readSteps, own, steps]
      rfl

theorem clamped_of_wellFormed {m : KeyboardMacro} (wellFormed : MacroWellFormed m) :
    m.steps.map clamped = m.steps := by
  have same : ∀ step ∈ m.steps, clamped step = step := by
    intro step present
    obtain ⟨lower, upper⟩ := (wellFormed.each step present).delay
    rw [clamped, clampDelay_of_bounds lower upper]
  rw [List.map_congr_left same, List.map_id']

/-- What is sent back for a macro is stored as the macro but for its
`sortOrder`. -/
theorem readMacros_macroFields {m : KeyboardMacro}
    (wellFormed : MacroWellFormed m) (identified : m.id ≠ "") (i : Nat)
    (sortOrder : Option ℚ) (items : List Json) :
    readMacros machine now i (.object (macroFields m sortOrder) :: items) =
      (readMacros machine now (i + 1) items).map
        ({ m with
          sortOrder := (sortOrder.map (toInt machine)).getD (i + 1) } :: ·) := by
  have valid : Valid (readMacro machine (now i) i (macroFields m sortOrder)) := by
    rw [readMacro_macroFields wellFormed identified]
    exact ⟨wellFormed.name, wellFormed.steps,
      fun step present => (wellFormed.each step present).keys⟩
  simp only [readMacros, asObject, valid.validate]
  rw [readMacro_macroFields wellFormed identified]
  simp only [clamped_of_wellFormed wellFormed]
  cases readMacros machine now (i + 1) items with
  | error err => rfl
  | ok rest => rfl

/-- The macros from an index on come back. -/
def BackFrom (machine : Machine) (now : Nat → Int) (i : Nat)
    (stored : List KeyboardMacro) : Prop :=
  ∃ items, readElements (stored.map macroJson) = some items ∧
    readMacros machine now i items = .ok stored

theorem backFrom_cons_iff {m : KeyboardMacro} {stored : List KeyboardMacro}
    {i : Nat} {sortOrder : Option ℚ}
    (wellFormed : MacroWellFormed m) (identified : m.id ≠ "")
    (first : (macroJson m).read = some (.object (macroFields m sortOrder))) :
    BackFrom machine now i (m :: stored) ↔
      (sortOrder.map (toInt machine)).getD (i + 1) = m.sortOrder ∧
        BackFrom machine now (i + 1) stored := by
  unfold BackFrom
  rw [List.map_cons, readElements, first]
  constructor
  · rintro ⟨items, read, stores⟩
    cases others : readElements (stored.map macroJson) with
    | none =>
        rw [others] at read
        cases read
    | some later =>
        rw [others] at read
        cases read
        rw [readMacros_macroFields wellFormed identified] at stores
        cases checked : readMacros machine now (i + 1) later with
        | error err =>
            rw [checked] at stores
            cases stores
        | ok rest =>
            rw [checked] at stores
            obtain ⟨same, equal⟩ := List.cons.inj (Except.ok.inj stores)
            exact ⟨congrArg KeyboardMacro.sortOrder same, later, rfl,
              checked.trans (congrArg _ equal)⟩
  · rintro ⟨same, later, read, stores⟩
    refine ⟨.object (macroFields m sortOrder) :: later, by rw [read]; rfl, ?_⟩
    rw [readMacros_macroFields wellFormed identified, stores, same]
    rfl

/-- The macros come back exactly when each one's `sortOrder` does. -/
theorem backFrom_iff {stored : List KeyboardMacro}
    (wellFormed : ∀ m ∈ stored, MacroWellFormed m)
    (identified : ∀ m ∈ stored, m.id ≠ "") (i : Nat) :
    BackFrom machine now i stored ↔
      ∀ m ∈ stored, Resent machine m.sortOrder := by
  induction stored generalizing i with
  | nil => simp [BackFrom, readElements, readMacros]
  | cons m stored ih =>
      obtain ⟨here, later⟩ := List.forall_mem_cons.mp wellFormed
      obtain ⟨named, others⟩ := List.forall_mem_cons.mp identified
      rw [List.forall_mem_cons, ← ih later others (i + 1)]
      by_cases omitted : m.sortOrder = 0
      · -- it gets the place of the macro in the list, which is not zero
        have first : (macroJson m).read = some (.object (macroFields m none)) := by
          rw [macroJson_eq, if_pos omitted, read_macroFields_none here]
        rw [backFrom_cons_iff here named first, Option.map_none, Option.getD_none]
        refine and_congr_left fun _ => iff_of_false ?_ fun resent => ?_
        · omega
        · exact resent.1 omitted
      · have read : (macroJson m).read = (parseFloat m.sortOrder).map fun double =>
            .object (macroFields m (some double)) := by
          rw [macroJson_eq, if_neg omitted, read_macroFields_some here]
        cases float : parseFloat (m.sortOrder : ℚ) with
        | none =>
            rw [float, Option.map_none] at read
            refine iff_of_false ?_ ?_
            · rintro ⟨items, unread, -⟩
              rw [List.map_cons, readElements, read] at unread
              cases unread
            · rintro ⟨⟨-, double, present, -⟩, -⟩
              cases float.symm.trans present
        | some double =>
            rw [float, Option.map_some] at read
            rw [backFrom_cons_iff here named read, Option.map_some,
              Option.getD_some]
            refine and_congr_left fun _ => ?_
            constructor
            · intro same
              exact ⟨omitted, double, float, same⟩
            · rintro ⟨-, other, present, same⟩
              obtain rfl := Option.some.inj (float.symm.trans present)
              exact same

theorem comesBack_iff {stored : List KeyboardMacro}
    (wellFormed : ∀ m ∈ stored, MacroWellFormed m)
    (identified : ∀ m ∈ stored, m.id ≠ "") :
    ComesBack machine stored ↔ ∀ m ∈ stored, Resent machine m.sortOrder := by
  constructor
  · intro comesBack
    have once := comesBack (fun _ => 0) none []
    rw [← @backFrom_iff machine (fun _ => 0) stored wellFormed identified 0]
    unfold sendKeyboardMacros getKeyboardMacros at once
    rw [Json.read] at once
    cases read : readElements (stored.map macroJson) with
    | none =>
        rw [read] at once
        cases once
    | some items =>
        refine ⟨items, read, ?_⟩
        rw [read] at once
        simp only [Option.map_some, unmarshalParams, setKeyboardMacros] at once
        cases checked : readMacros machine (fun _ => 0) 0 items with
        | error err =>
            rw [checked] at once
            cases once
        | ok newMacros =>
            rw [checked] at once
            rw [(Prod.mk.inj once).1]
  · intro resent now saveError before
    obtain ⟨items, read, stores⟩ :=
      (@backFrom_iff machine now stored wellFormed identified 0).mpr resent
    rw [sendKeyboardMacros, getKeyboardMacros, Json.read, read]
    simp only [Option.map_some, unmarshalParams, setKeyboardMacros, stores]

/-- Integers of 32 bits are doubles, so that of these only zero does not come
back. -/
theorem resent_iff_ne_zero {sortOrder : Int} (small : |sortOrder| < 2 ^ 31) :
    Resent machine sortOrder ↔ sortOrder ≠ 0 := by
  refine and_iff_left ⟨sortOrder, ?_, toInt_intCast small⟩
  apply parseFloat_of_isFloat
  apply isFloat_intCast
  exact small.trans (by norm_num)

end ComingBack

/-! ### Exactly which calls behave -/

section Calls

variable {machine : Machine} {now : Nat → Int} {items : List Json}

theorem sortOrder_iff (few : items.length ≤ maxMacrosPerDevice)
    (accepts : ∀ item ∈ items, Accepts item) :
    (∀ m ∈ items.mapIdx (sentMacro machine now), Resent machine m.sortOrder) ↔
      ∀ item ∈ items, ∀ macroMap sortOrder, asObject item = some macroMap →
        numberField macroMap "sortOrder" = some sortOrder →
          Resent machine (toInt machine sortOrder) := by
  constructor
  · intro resent item present macroMap sortOrder isObject sent
    obtain ⟨i, within, rfl⟩ := List.getElem_of_mem present
    have here := resent (sentMacro machine now i items[i])
      (List.mem_mapIdx.mpr ⟨i, within, rfl⟩)
    simpa [sentMacro, readMacro, readSortOrder, isObject, sent] using here
  · intro resent m stored
    obtain ⟨i, within, rfl⟩ := List.mem_mapIdx.mp stored
    obtain ⟨macroMap, isObject, -⟩ := accepts _ (List.getElem_mem within)
    simp only [sentMacro, readMacro, readSortOrder, isObject, Option.getD_some]
    cases sent : numberField macroMap "sortOrder" with
    | some sortOrder =>
        exact resent _ (List.getElem_mem within) macroMap sortOrder isObject sent
    | none =>
        unfold maxMacrosPerDevice at few
        have small : |(i : Int) + 1| < 2 ^ 31 := by
          rw [abs_lt]
          omega
        rw [resent_iff_ne_zero small]
        omega

/-- Where the checks are passed, the macros are stored and the error is the one
of the save. -/
theorem sendKeyboardMacros_of_accepts {macros : Json} {saveError : Option String}
    {stored : List KeyboardMacro}
    (read : macros.read = some (.array items))
    (accepts : ∀ item ∈ items, Accepts item) :
    sendKeyboardMacros machine now saveError macros stored =
      (items.mapIdx (sentMacro machine now), saveError) := by
  have checked := @readMacros_of_accepts machine now items 0 accepts
  simp only [Nat.zero_add] at checked
  simp only [sendKeyboardMacros, read, unmarshalParams, setKeyboardMacros, checked]

theorem sendKeyboardMacros_of_not_accepts {macros : Json}
    {saveError : Option String} {stored : List KeyboardMacro}
    (refuses : ∀ items, macros.read = some (.array items) →
      ¬ ∀ item ∈ items, Accepts item) :
    ∃ err, sendKeyboardMacros machine now saveError macros stored =
      (stored, some err) := by
  unfold sendKeyboardMacros
  cases read : macros.read with
  | none => exact ⟨_, rfl⟩
  | some sent =>
      cases sent with
      | array items =>
          obtain ⟨err, failed⟩ :=
            @readMacros_of_not_accepts machine now items 0 (refuses items read)
          simp only [unmarshalParams, setKeyboardMacros, failed]
          exact ⟨err, rfl⟩
      | null | bool | number | string | object => exact ⟨_, rfl⟩

theorem storable_iff {macros : Json} (read : macros.read = some (.array items))
    (accepts : ∀ item ∈ items, Accepts item) :
    (WellFormed (items.mapIdx (sentMacro machine now)) ∧
      Carries macros (items.mapIdx (sentMacro machine now)) ∧
        ComesBack machine (items.mapIdx (sentMacro machine now))) ↔
      Storable machine now items := by
  have carries : Carries macros (items.mapIdx (sentMacro machine now)) ↔
      ∀ item ∈ items, Whole item := by
    rw [← carries_iff fun item present i =>
      @carriesMacro_iff machine now item i (accepts item present)]
    unfold Carries
    rw [read]
    simp
  have each : ∀ m ∈ items.mapIdx (sentMacro machine now),
      MacroWellFormed m ∧ m.id ≠ "" := by
    intro m stored
    obtain ⟨i, within, rfl⟩ := List.mem_mapIdx.mp stored
    exact ⟨wellFormed_sentMacro i (accepts _ (List.getElem_mem within)),
      readId_ne_empty _ _⟩
  rw [wellFormed_iff accepts, carries,
    comesBack_iff (fun m stored => (each m stored).1)
      fun m stored => (each m stored).2]
  constructor
  · rintro ⟨⟨count, distinct⟩, whole, resent⟩
    exact ⟨count, distinct, whole, (sortOrder_iff count accepts).mp resent⟩
  · rintro ⟨count, distinct, whole, sortOrder⟩
    exact ⟨⟨count, distinct⟩, whole,
      (sortOrder_iff count accepts).mpr sortOrder⟩

/-- A call stores well-formed macros that come back, or returns an error and
changes nothing, exactly when it fits. -/
theorem setKeyboardMacros_behaves_iff (machine : Machine) (now : Nat → Int)
    (saveError : Option String) (macros : Json) (stored : List KeyboardMacro) :
    Behaves machine now saveError macros stored ↔
      Fits machine now saveError macros stored := by
  by_cases accepted : ∃ items, macros.read = some (.array items) ∧
      ∀ item ∈ items, Accepts item
  · obtain ⟨items, read, accepts⟩ := accepted
    have fits : Fits machine now saveError macros stored ↔
        if saveError = none then Storable machine now items
        else items.mapIdx (sentMacro machine now) = stored := by
      refine ⟨fun fits => fits items read accepts, fun here others again _ => ?_⟩
      cases read.symm.trans again
      exact here
    rw [fits, Behaves, sendKeyboardMacros_of_accepts read accepts]
    cases saveError with
    | none =>
        rw [if_pos rfl]
        exact storable_iff read accepts
    | some err =>
        rw [if_neg nofun]
  · have refuses : ∀ items, macros.read = some (.array items) →
        ¬ ∀ item ∈ items, Accepts item := by
      intro items read accepts
      exact accepted ⟨items, read, accepts⟩
    obtain ⟨err, failed⟩ :=
      @sendKeyboardMacros_of_not_accepts machine now macros saveError stored refuses
    rw [Behaves, failed]
    refine iff_of_true rfl ?_
    intro items read accepts
    exact absurd accepts (refuses items read)

/-- Two macros are sent with one ID, and both are stored. -/
theorem not_behaves_sameId :
    ¬ Behaves Machine.narrow (fun _ => 0) none
      (.array (List.replicate 2 (.object
        [("id", .string "a"), ("name", .string "paste"),
          ("steps", .array [.object []])]))) [] := by
  intro behaves
  exact absurd behaves.1.distinct (by decide)

end Calls

end StoredMacros

end JetKvm
