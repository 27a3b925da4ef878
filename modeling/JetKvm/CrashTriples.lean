import Mathlib.Data.List.Basic

/-!
# Programs that may be cut off

A program acts on a world that outlives it, by atomic effects, and returns a
value or fails.  A crash cuts it off after any number of effects.  The rules
below are those of a Hoare logic with a third assertion: besides what holds
before the program and after it has returned a value, what holds of the world
after every single effect, and so wherever the program is cut off.
-/

namespace JetKvm

/-- The worlds a program leaves after its effects, in order, and how it ends. -/
def Program (World Failure Value : Type*) :=
  World → List World × Except Failure Value

namespace Program

variable {World Failure : Type*} {Value Other : Type}

/-- The world after the first `effects` effects of the program, or after all of
them if it has fewer. -/
def cutOff (program : Program World Failure Value) (effects : Nat)
    (world : World) : World :=
  ((program world).1.take effects).getLastD world

/-- The world after the last effect. -/
def final (program : Program World Failure Value) (world : World) : World :=
  (program world).1.getLastD world

protected def pure (value : Value) : Program World Failure Value :=
  fun _ => ([], .ok value)

protected def bind (program : Program World Failure Value)
    (next : Value → Program World Failure Other) :
    Program World Failure Other :=
  fun world =>
    match (program world).2 with
    | .ok value =>
        let later := next value (program.final world)
        ((program world).1 ++ later.1, later.2)
    | .error failure => ((program world).1, .error failure)

instance : Monad (Program World Failure) where
  pure := Program.pure
  bind := Program.bind

def fail (failure : Failure) : Program World Failure Value :=
  fun _ => ([], .error failure)

/-- Fail if there is a failure to report. -/
def check (failure : Option Failure) : Program World Failure Unit :=
  match failure with
  | some failure => fail failure
  | none => pure ()

def failIf (condition : Prop) [Decidable condition] (failure : Failure) :
    Program World Failure Unit :=
  if condition then fail failure else pure ()

/-- Look at the world. -/
def look (view : World → Value) : Program World Failure Value :=
  fun world => ([], .ok (view world))

/-- One atomic effect. -/
def effect (change : World → World) : Program World Failure Unit :=
  fun world => ([change world], .ok ())

/-! ### The effects of programs put together -/

theorem bind_of_ok {program : Program World Failure Value}
    {next : Value → Program World Failure Other} {world : World} {value : Value}
    (returns : (program world).2 = .ok value) :
    (program >>= next) world =
      ((program world).1 ++ (next value (program.final world)).1,
        (next value (program.final world)).2) := by
  simp [Bind.bind, Program.bind, returns]

theorem bind_of_error {program : Program World Failure Value}
    {next : Value → Program World Failure Other} {world : World}
    {failure : Failure} (fails : (program world).2 = .error failure) :
    (program >>= next) world = ((program world).1, .error failure) := by
  simp [Bind.bind, Program.bind, fails]

/-- A check has no effect. -/
theorem effects_check (failure : Option Failure) (world : World) :
    (check failure : Program World Failure Unit) world =
      ([], match failure with | some failure => .error failure | none => .ok ())
    := by
  cases failure <;> rfl

theorem effects_bind_check (program : Program World Failure Value)
    (failure : Option Failure) (world : World) :
    ((program >>= fun _ => check failure) world).1 = (program world).1 := by
  cases ends : (program world).2 with
  | ok value => rw [bind_of_ok ends, effects_check, List.append_nil]
  | error failed => rw [bind_of_error ends]

variable {always before : World → Prop} {after : Value → World → Prop}
variable {program : Program World Failure Value}

/-- Started in a world that satisfies `before`, the program leaves a world that
satisfies `always` by each of its effects; if it returns a value, `after` holds
of the value and the world, and if it fails, `always` holds of the world. -/
def Triple (always before : World → Prop)
    (program : Program World Failure Value)
    (after : Value → World → Prop) : Prop :=
  ∀ world, before world →
    (∀ left ∈ (program world).1, always left) ∧
      match (program world).2 with
      | .ok value => after value (program.final world)
      | .error _ => always (program.final world)

theorem Triple.pure {value : Value} (known : ∀ world, before world → after value world) :
    Triple always before (Pure.pure value : Program World Failure Value) after :=
  fun world holds => ⟨by simp [Pure.pure, Program.pure], known world holds⟩

theorem Triple.fail {failure : Failure}
    (safe : ∀ world, before world → always world) :
    Triple always before (fail failure : Program World Failure Value) after :=
  fun world holds => ⟨by simp [Program.fail], safe world holds⟩

theorem Triple.look {view : World → Value}
    (known : ∀ world, before world → after (view world) world) :
    Triple always before (look view : Program World Failure Value) after :=
  fun world holds => ⟨by simp [Program.look], known world holds⟩

theorem Triple.effect {change : World → World} {after : Unit → World → Prop}
    (safe : ∀ world, before world → always (change world))
    (known : ∀ world, before world → after () (change world)) :
    Triple always before (effect change : Program World Failure Unit) after := by
  intro world holds
  refine ⟨?_, known world holds⟩
  intro left member
  obtain rfl := List.mem_singleton.mp member
  exact safe world holds

theorem Triple.check {failure : Option Failure} {after : Unit → World → Prop}
    (safe : ∀ world, before world → always world)
    (known : failure = none → ∀ world, before world → after () world) :
    Triple always before (check failure : Program World Failure Unit) after := by
  cases failure with
  | some failure => exact Triple.fail safe
  | none => exact Triple.pure (known rfl)

theorem Triple.failIf {condition : Prop} [Decidable condition]
    {failure : Failure} {after : Unit → World → Prop}
    (safe : ∀ world, before world → always world)
    (known : ¬ condition → ∀ world, before world → after () world) :
    Triple always before
      (failIf condition failure : Program World Failure Unit) after := by
  unfold Program.failIf
  split
  · exact Triple.fail safe
  · rename_i excluded
    exact Triple.pure (known excluded)

theorem Triple.bind {next : Value → Program World Failure Other}
    {last : Other → World → Prop} (first : Triple always before program after)
    (second : ∀ value, Triple always (after value) (next value) last) :
    Triple always before (program >>= next) last := by
  intro world holds
  obtain ⟨visited, ended⟩ := first world holds
  cases result : (program world).2 with
  | error failure =>
      rw [result] at ended
      simp only [final, bind_of_error result]
      exact ⟨visited, ended⟩
  | ok value =>
      rw [result] at ended
      obtain ⟨laterVisited, laterEnded⟩ := second value _ ended
      have whole : (program >>= next) world = _ := bind_of_ok result
      have last : (program >>= next).final world =
          (next value).final (program.final world) := by
        simp only [final, whole, List.getLastD_eq_getLast?, List.getLast?_append]
        cases (next value _).1.getLast? <;> rfl
      rw [whole, last]
      refine ⟨?_, laterEnded⟩
      intro left member
      rcases List.mem_append.mp member with here | later
      · exact visited left here
      · exact laterVisited left later

/-- Weaken what is promised and ask for more. -/
theorem Triple.imp {stronger : World → Prop} {weaker : Value → World → Prop}
    (triple : Triple always before program after)
    (asks : ∀ world, stronger world → before world)
    (gives : ∀ value world, after value world → weaker value world) :
    Triple always stronger program weaker := by
  intro world holds
  obtain ⟨visited, ended⟩ := triple world (asks world holds)
  refine ⟨visited, ?_⟩
  cases result : (program world).2 with
  | error failure => simpa [result] using ended
  | ok value =>
      rw [result] at ended
      exact gives value _ ended

/-- What a look sees is known to the rest of the program. -/
theorem Triple.look_bind {view : World → Other}
    {next : Other → Program World Failure Value}
    (rest : ∀ seen, Triple always
      (fun world => before world ∧ view world = seen) (next seen) after) :
    Triple always before (Program.look view >>= next) after :=
  Triple.bind (Triple.look fun _ holds => ⟨holds, rfl⟩) rest

/-- The rest of the program runs only if there was nothing to report. -/
theorem Triple.check_bind {failure : Option Failure}
    {next : Unit → Program World Failure Value}
    (safe : ∀ world, before world → always world)
    (rest : failure = none → Triple always before (next ()) after) :
    Triple always before (Program.check failure >>= next) after := by
  cases failure with
  | some failure =>
      intro world holds
      exact ⟨by simp [Bind.bind, Program.bind, Program.check, Program.fail],
        safe world holds⟩
  | none =>
      exact Triple.bind (Triple.pure fun _ holds => holds) fun _ => rest rfl

theorem Triple.failIf_bind {condition : Prop} [Decidable condition]
    {failure : Failure} {next : Unit → Program World Failure Value}
    (safe : ∀ world, before world → always world)
    (rest : ¬ condition → Triple always before (next ()) after) :
    Triple always before (Program.failIf condition failure >>= next) after := by
  by_cases met : condition
  · have failed : Program.failIf condition failure =
        (Program.check (some failure) : Program World Failure Unit) := by
      simp [Program.failIf, Program.check, met]
    rw [failed]
    exact Triple.check_bind safe fun same => by cases same
  · have passed : Program.failIf condition failure =
        (Program.check none : Program World Failure Unit) := by
      simp [Program.failIf, Program.check, met]
    rw [passed]
    exact Triple.check_bind safe fun _ => rest met

theorem Triple.effect_bind {change : World → World} {middle : World → Prop}
    {next : Unit → Program World Failure Value}
    (safe : ∀ world, before world → always (change world))
    (known : ∀ world, before world → middle (change world))
    (rest : Triple always middle (next ()) after) :
    Triple always before (Program.effect change >>= next) after :=
  Triple.bind (Triple.effect safe known) fun _ => rest

/-! ### Programs that keep an assertion everywhere -/

/-- The program keeps the assertion through each of its effects. -/
def Keeps (always : World → Prop) (program : Program World Failure Value) :
    Prop :=
  Triple always always program fun _ => always

theorem Keeps.pure {value : Value} :
    Keeps always (Pure.pure value : Program World Failure Value) :=
  Triple.pure fun _ holds => holds

theorem Keeps.fail {failure : Failure} :
    Keeps always (Program.fail failure : Program World Failure Value) :=
  Triple.fail fun _ holds => holds

theorem Keeps.check {failure : Option Failure} :
    Keeps always (Program.check failure : Program World Failure Unit) :=
  Triple.check (fun _ holds => holds) fun _ _ holds => holds

theorem Keeps.failIf {condition : Prop} [Decidable condition]
    {failure : Failure} :
    Keeps always
      (Program.failIf condition failure : Program World Failure Unit) :=
  Triple.failIf (fun _ holds => holds) fun _ _ holds => holds

theorem Keeps.effect {change : World → World}
    (safe : ∀ world, always world → always (change world)) :
    Keeps always (Program.effect change : Program World Failure Unit) :=
  Triple.effect safe safe

theorem Keeps.bind {next : Value → Program World Failure Other}
    (first : Keeps always program) (second : ∀ value, Keeps always (next value)) :
    Keeps always (program >>= next) :=
  Triple.bind first second

/-- A program that keeps the assertion leaves a world that satisfies it
wherever it is cut off. -/
theorem Triple.cutOff (triple : Triple always always program after)
    {world : World} (holds : always world) (effects : Nat) :
    always (program.cutOff effects world) := by
  have visited := (triple world holds).1
  have left : program.cutOff effects world ∈
      world :: (program world).1.take effects := List.getLastD_mem_cons
  rcases List.mem_cons.mp left with same | member
  · rw [same]
    exact holds
  · exact visited _ (List.mem_of_mem_take member)

end Program

end JetKvm
