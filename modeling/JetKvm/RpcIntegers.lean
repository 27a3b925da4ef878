import JetKvm.OrderedVisits
import JetKvm.RpcArguments

/-!
# Integers that the JSON-RPC handlers are given

Which requests give the integer parameters of a handler, and the elements of its
slices of integers, the numbers that were sent.
-/

namespace JetKvm

namespace RpcArguments

open GoFloat64 OrderedVisits

/-! ## Integers of so many bits -/

section Bits

variable {signed : Bool} {bits : ℕ} {n : ℤ}

theorem lowBits_of_inBits (positive : 0 < bits) (within : InBits signed bits n) :
    lowBits signed bits n = n := by
  obtain ⟨bits, rfl⟩ : ∃ fewer, bits = fewer + 1 := ⟨bits - 1, by omega⟩
  unfold InBits at within
  unfold lowBits
  cases signed with
  | false => exact Int.emod_eq_of_lt within.1 within.2
  | true =>
      simp only [if_true, Nat.add_sub_cancel] at within
      have half : ((2 ^ (bits + 1) : ℕ) : ℤ) = 2 * 2 ^ bits := by
        push_cast
        ring
      apply Int.bmod_eq_of_le
      all_goals
        push_cast
        omega

theorem inBits_lowBits (positive : 0 < bits) :
    InBits signed bits (lowBits signed bits n) := by
  obtain ⟨bits, rfl⟩ : ∃ fewer, bits = fewer + 1 := ⟨bits - 1, by omega⟩
  unfold InBits lowBits
  cases signed with
  | false =>
      have limit : (0 : ℤ) < 2 ^ (bits + 1) := by positivity
      exact ⟨Int.emod_nonneg _ limit.ne', Int.emod_lt_of_pos _ limit⟩
  | true =>
      have half : ((2 ^ (bits + 1) : ℕ) : ℤ) = 2 * 2 ^ bits := by
        push_cast
        ring
      have low := @Int.le_bmod n (2 ^ (bits + 1)) (by positivity)
      have high := @Int.bmod_lt n (2 ^ (bits + 1)) (by positivity)
      simp only [if_true, Nat.add_sub_cancel]
      omega

theorem InBits.widen {wider : ℕ} (within : InBits signed bits n)
    (more : bits ≤ wider) : InBits signed wider n := by
  unfold InBits at within ⊢
  cases signed with
  | false =>
      have grows : (2 : ℤ) ^ bits ≤ 2 ^ wider :=
        pow_le_pow_right₀ (by norm_num) more
      exact ⟨within.1, within.2.trans_le grows⟩
  | true =>
      have grows : (2 : ℤ) ^ (bits - 1) ≤ 2 ^ (wider - 1) :=
        pow_le_pow_right₀ (by norm_num) (by omega)
      simp only [if_true] at within ⊢
      constructor <;> linarith

end Bits

/-- A machine with an `int` of 32 bits that keeps the low bits of what is out of
range -/
def Machine.narrow : Machine where
  wide := false
  toInteger signed bits value := lowBits signed bits (truncated value)
  inBits_toInteger _ _ _ positive := inBits_lowBits positive
  toInteger_of_inBits _ _ _ positive within := lowBits_of_inBits positive within

variable {machine : Machine} {kind : IntKind}

theorem IntKind.bits_spec (machine : Machine) (kind : IntKind) :
    kind.bits machine = 64 ∨ 0 < kind.bits machine ∧ kind.bits machine ≤ 32 := by
  cases wide : machine.wide <;> cases kind <;> simp [IntKind.bits, wide]

theorem IntKind.bits_pos (machine : Machine) (kind : IntKind) :
    0 < kind.bits machine := by
  rcases kind.bits_spec machine with same | ⟨positive, -⟩
  · omega
  · exact positive

theorem IntKind.InRange.inBits {n : ℤ} (within : kind.InRange machine n) :
    InBits kind.signed 64 n := by
  refine InBits.widen within ?_
  rcases kind.bits_spec machine with same | ⟨-, small⟩ <;> omega

theorem inRange_store (value : ℚ) :
    kind.InRange machine (store machine kind value) :=
  inBits_lowBits (kind.bits_pos machine)

/-- The machine turns the double that the integer is rounded to, which is not
among the integers of 64 bits, back into the integer. -/
def Regained (machine : Machine) (kind : IntKind) (n : ℤ) : Prop :=
  ∃ value, parseFloat n = some value ∧
    ¬ InBits kind.signed 64 (truncated value) ∧
    machine.toInteger kind.signed 64 value = n

/-- The number is an integer of the kind that is a double, or is regained from
one. -/
def Kept (machine : Machine) (kind : IntKind) (number : ℚ) : Prop :=
  ∃ n : ℤ, number = n ∧ kind.InRange machine n ∧
    (parseFloat n = some (n : ℚ) ∨ Regained machine kind n)

theorem store_of_inRange {n : ℤ} {value : ℚ}
    (within : kind.InRange machine n)
    (here : machine.toInteger kind.signed 64 value = n) :
    store machine kind value = n := by
  rw [store, here, lowBits_of_inBits (kind.bits_pos machine) within]

/-- What is not exact has to be an integer of 64 bits, for which no bits are
dropped. -/
theorem bits_eq_of_parseFloat_ne {n : ℤ} {value : ℚ}
    (within : kind.InRange machine n) (read : parseFloat n = some value)
    (other : value ≠ n) : kind.bits machine = 64 ∧ 2 ^ 53 ≤ |n| := by
  have large : 2 ^ 53 ≤ |n| := by
    by_contra small
    rw [parseFloat_of_isFloat (isFloat_intCast (not_le.mp small))] at read
    exact other (Option.some.inj read).symm
  refine ⟨(kind.bits_spec machine).resolve_right fun ⟨_, small⟩ => ?_, large⟩
  have wide := InBits.widen within small
  unfold InBits at wide
  rw [abs_eq_max_neg] at large
  split at wide
  all_goals
    norm_num at wide large
    omega

theorem kept_iff {number value : ℚ} (read : parseFloat number = some value) :
    (store machine kind value : ℚ) = number ↔ Kept machine kind number := by
  constructor
  · intro same
    have within := @inRange_store machine kind value
    obtain ⟨n, stored⟩ : ∃ n, store machine kind value = n := ⟨_, rfl⟩
    rw [stored] at same within
    subst same
    refine ⟨n, rfl, within, ?_⟩
    by_cases exactly : value = n
    · exact .inl (exactly ▸ read)
    obtain ⟨wide, large⟩ := bits_eq_of_parseFloat_ne within read exactly
    have here : machine.toInteger kind.signed 64 value = n := by
      rw [store, wide, lowBits_of_inBits (by norm_num)
        (machine.inBits_toInteger _ _ _ (by norm_num))] at stored
      exact stored
    refine .inr ⟨value, read, fun small => exactly ?_, here⟩
    -- A double this large is an integer, which is converted to itself.
    obtain ⟨m, rfl⟩ := exists_intCast_of_parseFloat (by exact_mod_cast large) read
    rw [machine.toInteger_of_inBits _ _ _ (by norm_num) small,
      truncated_intCast] at here
    rw [here]
  · rintro ⟨n, rfl, within, exactly | ⟨_, again, -, here⟩⟩
    · cases Option.some.inj (read.symm.trans exactly)
      rw [store_of_inRange within]
      rw [machine.toInteger_of_inBits _ _ _ (by norm_num)
        (by simpa using within.inBits), truncated_intCast]
    · cases Option.some.inj (read.symm.trans again)
      rw [store_of_inRange within here]

/-! ## Requests that get to the handler -/

/-- A value that is `ConvertibleTo` the type -/
def convertible : Json → GoType → Bool
  | .bool _, .bool => true
  | .number _, .int _ | .number _, .float64 => true
  | .string _, .string _ => true
  | .string _, .slice (.int .uint8) | .string _, .slice (.int .int32) => true
  | _, _ => false

section Calls

variable {Struct Result : Type} (structs : Structs Struct)

/-- A value that a parameter of the type can be made of -/
def accepted : GoType → Json → Bool
  | .slice elem, .array elements => elements.all (convertible · elem)
  | .struct name, .object fields =>
      match structs.marshal fields with
      | .ok jsonData => (structs.unmarshal name jsonData).isOk
      | .error _ => false
  | type, value => convertible value type

/-- The request can be read, and there is a value for each parameter that is not
optional. -/
def Acceptable (handler : RPCHandler Struct Result)
    (sent : List (String × Json)) : Prop :=
  ∃ params, readFields sent = some params ∧
    handler.allParamNames.length = handler.types.length ∧
    ∀ param ∈ handler.allParamNames.zip handler.types,
      match params.lookup param.1 with
      | none => param.1 ∈ handler.optionalParams
      | some value => accepted structs param.2 value

variable (machine)

theorem isSome_convertTo (value : Json) (type : GoType) :
    (convertTo machine value type : Option (Value Struct)).isSome =
      convertible value type := by
  unfold convertTo convertible
  split <;> simp_all

theorem convertTo_null (type : GoType) :
    (convertTo machine .null type : Option (Value Struct)) = none := by
  cases type <;> rfl

/-- A double is never among the elements that cannot be converted to `uint8`. -/
theorem mismatchedElement_ne_ok {name : String} {elem : GoType} {value : Json}
    (none : (convertTo machine value elem : Option (Value Struct)) = none)
    (arg : Value Struct) :
    mismatchedElement machine name elem value ≠ .ok arg := by
  unfold mismatchedElement
  split
  · cases none
  · exact nofun

theorem convertElement_eq_ok_iff {name : String} {elem : GoType} {value : Json}
    {arg : Value Struct} :
    convertElement machine name elem value = .ok arg ↔
      convertTo machine value elem = some arg := by
  unfold convertElement
  split
  · rw [convertTo_null]
    exact ⟨nofun, nofun⟩
  · split
    · rename_i converted found
      rw [found]
      simp
    · rename_i none
      rw [none]
      exact ⟨fun same => absurd same (mismatchedElement_ne_ok machine none arg),
        nofun⟩

theorem exists_convertElements_iff {name : String} {elem : GoType}
    {elements : List Json} :
    (∃ args : List (Value Struct),
        elements.mapM (convertElement machine name elem) = .ok args) ↔
      elements.all (convertible · elem) := by
  rw [List.all_eq_true]
  constructor
  · rintro ⟨args, converted⟩ element present
    obtain ⟨arg, -, here⟩ :=
      exists_of_forall₂ (mapM_eq_ok_iff.mp converted).flip present
    rw [← isSome_convertTo machine, (convertElement_eq_ok_iff machine).mp here]
    rfl
  · intro all
    have each : ∀ element ∈ elements, ∃ arg : Value Struct,
        convertElement machine name elem element = .ok arg ∧ True := by
      intro element present
      obtain ⟨arg, here⟩ := Option.isSome_iff_exists.mp
        ((isSome_convertTo machine element elem).trans (all element present))
      exact ⟨arg, (convertElement_eq_ok_iff machine).mpr here, trivial⟩
    obtain ⟨args, converted, -⟩ := exists_mapM_eq_ok each
    exact ⟨args, converted⟩

theorem accepted_of_convertible {type : GoType} {value : Json}
    (converts : convertible value type = true) :
    accepted structs type value = true := by
  unfold accepted
  split
  · cases converts
  · cases converts
  · exact converts

theorem exists_mismatchedParameter_iff {name : String} {type : GoType}
    {value : Json} (differs : convertible value type = false) :
    (∃ arg, mismatchedParameter machine structs name type value = .ok arg) ↔
      accepted structs type value := by
  unfold mismatchedParameter
  split
  · rename_i elem elements
    rw [accepted, ← @exists_convertElements_iff machine Struct name]
    cases elements.mapM (convertElement machine name elem) with
    | error failure => simp [Except.map]
    | ok args => simp [Except.map]
  · rename_i structName fields
    rw [accepted]
    cases structs.marshal fields with
    | error err => simp
    | ok jsonData =>
        cases parsed : structs.unmarshal structName jsonData with
        | error err => simp [parsed, Except.isOk, Except.toBool]
        | ok newStruct => simp [parsed, Except.isOk, Except.toBool]
  · rename_i notSlice notStruct
    unfold accepted
    split
    · exact absurd rfl (notSlice _ _ rfl)
    · exact absurd rfl (notStruct _ _ rfl)
    · simp [differs]

theorem exists_convertParameter_iff {name : String} {type : GoType}
    {value : Json} :
    (∃ arg, convertParameter machine structs name type value = .ok arg) ↔
      accepted structs type value := by
  unfold convertParameter
  split
  · unfold accepted
    split
    all_goals simp_all [convertible]
  · split
    · rename_i converted found
      refine ⟨fun _ => accepted_of_convertible structs ?_, fun _ => ⟨_, rfl⟩⟩
      rw [← isSome_convertTo machine, found]
      rfl
    · rename_i none
      refine exists_mismatchedParameter_iff machine structs ?_
      rw [← isSome_convertTo machine, none]
      rfl

theorem forall₂_readElements {sent elements : List Json}
    (read : readElements sent = some elements) :
    List.Forall₂ (fun value element => value.read = some element) sent
      elements := by
  induction sent generalizing elements with
  | nil =>
      cases read
      exact .nil
  | cons value sent ih =>
      rw [readElements] at read
      obtain ⟨first, here, read⟩ := Option.bind_eq_some_iff.mp read
      obtain ⟨rest, others, same⟩ := Option.bind_eq_some_iff.mp read
      cases same
      exact .cons here (ih others)

theorem lookup_readFields {sent params : List (String × Json)}
    (read : readFields sent = some params) (name : String) :
    sent.lookup name = none ∧ params.lookup name = none ∨
      ∃ value param, sent.lookup name = some value ∧
        value.read = some param ∧ params.lookup name = some param := by
  induction sent generalizing params with
  | nil =>
      cases read
      exact .inl ⟨rfl, rfl⟩
  | cons field sent ih =>
      obtain ⟨other, value⟩ := field
      rw [readFields] at read
      obtain ⟨first, here, read⟩ := Option.bind_eq_some_iff.mp read
      obtain ⟨rest, others, same⟩ := Option.bind_eq_some_iff.mp read
      cases same
      cases asked : name == other with
      | true =>
          exact .inr ⟨value, first, by rw [List.lookup_cons, asked], here,
            by rw [List.lookup_cons, asked]⟩
      | false =>
          simp only [List.lookup_cons, asked]
          exact ih others

/-! ## Integers that the handler is given -/

/-- The argument is the number that was sent. -/
def Holds (sent : Json) (arg : Value Struct) : Prop :=
  ∀ number, sent = .number number → ∃ n : ℤ, arg = .int n ∧ (n : ℚ) = number

/-- The numbers that were sent for an integer or a slice of integers are those of
the argument. -/
def HoldsAll : GoType → Json → Value Struct → Prop
  | .int _, sent, arg => Holds sent arg
  | .slice (.int _), .array sent, arg =>
      ∃ args, arg = .slice args ∧ List.Forall₂ Holds sent args
  | _, _, _ => True

/-- The numbers that are sent for integers of a kind -/
def Integers (property : IntKind → ℚ → Prop) : GoType → Json → Prop
  | .int kind, .number number => property kind number
  | .slice (.int kind), .array sent =>
      ∀ number, .number number ∈ sent → property kind number
  | _, _ => True

theorem Integers.imp {property weaker : IntKind → ℚ → Prop} {type : GoType}
    {sent : Json} (integers : Integers property type sent)
    (implies : ∀ kind number, property kind number → weaker kind number) :
    Integers weaker type sent := by
  unfold Integers at integers ⊢
  split
  · exact implies _ _ integers
  · exact fun number present => implies _ _ (integers number present)
  · exact trivial

theorem holds_iff {name : String} {sent value : Json} {arg : Value Struct}
    (read : sent.read = some value)
    (converted : convertElement machine name (.int kind) value = .ok arg) :
    Holds sent arg ↔ ∀ number, sent = .number number →
      Kept machine kind number := by
  refine forall_congr' fun number => forall_congr' ?_
  rintro rfl
  obtain ⟨double, parsed, rfl⟩ := Option.map_eq_some_iff.mp read
  rw [convertElement_eq_ok_iff] at converted
  cases converted
  rw [← kept_iff parsed]
  constructor
  · rintro ⟨n, same, here⟩
    cases same
    exact here
  · exact fun here => ⟨_, rfl, here⟩

theorem forall₂_holds_iff {name : String} {sent elements : List Json}
    {args : List (Value Struct)} (read : readElements sent = some elements)
    (converted : elements.mapM (convertElement machine name (.int kind)) =
      .ok args) :
    List.Forall₂ Holds sent args ↔
      ∀ number, .number number ∈ sent → Kept machine kind number := by
  have pairs := forall₂_compose (forall₂_readElements read)
    (mapM_eq_ok_iff.mp converted)
  have each (value : Json) (arg : Value Struct)
      (pair : ∃ element, value.read = some element ∧
        convertElement machine name (.int kind) element = .ok arg) :
      Holds value arg ↔
        ∀ number, value = .number number → Kept machine kind number := by
    obtain ⟨element, here, made⟩ := pair
    exact holds_iff machine here made
  rw [forall₂_iff_forall_mem pairs each]
  exact ⟨fun all number present => all _ present number rfl,
    fun all value present number same => all number (same ▸ present)⟩

theorem holdsAll_iff {name : String} {type : GoType} {sent value : Json}
    {arg : Value Struct} (read : sent.read = some value)
    (converted : convertParameter machine structs name type value = .ok arg) :
    HoldsAll type sent arg ↔ Integers (Kept machine) type sent := by
  unfold HoldsAll
  split
  · rename_i kind
    have element : convertElement machine name (.int kind) value = .ok arg := by
      cases value with
      | number number => exact converted
      | _ => cases converted
    rw [holds_iff machine read element]
    cases sent with
    | number number => simp [Integers]
    | _ => simp [Integers]
  · rename_i kind sent
    obtain ⟨elements, readAll, rfl⟩ := Option.map_eq_some_iff.mp read
    change Except.map Value.slice
      (elements.mapM (convertElement machine name (.int kind))) = _ at converted
    cases made : elements.mapM (convertElement machine name (.int kind)) with
    | error failure =>
        rw [made] at converted
        cases converted
    | ok args =>
        rw [made] at converted
        cases converted
        rw [Integers, ← forall₂_holds_iff machine readAll made]
        simp
  · rename_i notScalar notSlice
    unfold Integers
    split
    · exact absurd rfl (notScalar _)
    · exact absurd rfl (notSlice _ _ rfl)
    · exact Iff.rfl

variable {handler : RPCHandler Struct Result}
variable {sent params : List (String × Json)}

theorem exists_argument_iff {name : String} {type : GoType} :
    (∃ arg, argument machine structs handler params name type = .ok arg) ↔
      match params.lookup name with
      | none => name ∈ handler.optionalParams
      | some value => accepted structs type value := by
  unfold argument
  cases params.lookup name with
  | none =>
      dsimp only
      split <;> simp_all
  | some value => exact exists_convertParameter_iff machine structs

theorem exists_arguments_iff :
    (∃ args, arguments machine structs handler params = .ok args) ↔
      handler.allParamNames.length = handler.types.length ∧
        ∀ param ∈ handler.allParamNames.zip handler.types,
          match params.lookup param.1 with
          | none => param.1 ∈ handler.optionalParams
          | some value => accepted structs param.2 value := by
  unfold arguments
  split
  · rename_i differ
    simp [differ]
  rename_i same
  rw [ne_eq, not_not] at same
  simp only [same, true_and]
  constructor
  · rintro ⟨args, made⟩ param present
    obtain ⟨arg, -, here⟩ :=
      exists_of_forall₂ (mapM_eq_ok_iff.mp made).flip present
    exact (exists_argument_iff machine structs).mp ⟨arg, here⟩
  · intro all
    have each : ∀ param ∈ handler.allParamNames.zip handler.types,
        ∃ arg, argument machine structs handler params param.1 param.2 =
          .ok arg ∧ True := by
      intro param present
      obtain ⟨arg, here⟩ :=
        (exists_argument_iff machine structs).mpr (all param present)
      exact ⟨arg, here, trivial⟩
    obtain ⟨args, made, -⟩ := exists_mapM_eq_ok each
    exact ⟨args, made⟩

theorem callRequest_eq_called {args : List (Value Struct)}
    {reply : Except String (Option Result)}
    (called : callRequest machine structs handler sent = .called args reply) :
    ∃ params, readFields sent = some params ∧
      arguments machine structs handler params = .ok args := by
  unfold callRequest at called
  cases read : readFields sent with
  | none =>
      rw [read] at called
      cases called
  | some params =>
      rw [read] at called
      dsimp only [riskyCallRPCHandler] at called
      split at called
      · cases called
      · rename_i made
        cases called
        exact ⟨params, rfl, made⟩

/-- Only the shape of the request decides whether the handler is called. -/
theorem exists_called_iff :
    (∃ args reply, callRequest machine structs handler sent =
        .called args reply) ↔ Acceptable structs handler sent := by
  constructor
  · rintro ⟨args, reply, called⟩
    obtain ⟨params, read, made⟩ := callRequest_eq_called machine structs called
    exact ⟨params, read, (exists_arguments_iff machine structs).mp ⟨args, made⟩⟩
  · rintro ⟨params, read, shaped⟩
    obtain ⟨args, made⟩ := (exists_arguments_iff machine structs).mpr shaped
    refine ⟨args, returned (handler.func args), ?_⟩
    unfold callRequest
    rw [read]
    dsimp only [riskyCallRPCHandler]
    rw [made]

/-- The arguments are the numbers that were sent exactly where these are kept. -/
theorem forall₂_holdsAll_iff {args : List (Value Struct)}
    {reply : Except String (Option Result)}
    (called : callRequest machine structs handler sent = .called args reply) :
    List.Forall₂ (fun param arg => ∀ value, sent.lookup param.1 = some value →
        HoldsAll param.2 value arg)
        (handler.allParamNames.zip handler.types) args ↔
      ∀ param ∈ handler.allParamNames.zip handler.types, ∀ value,
        sent.lookup param.1 = some value →
          Integers (Kept machine) param.2 value := by
  obtain ⟨params, read, made⟩ := callRequest_eq_called machine structs called
  unfold arguments at made
  split at made
  · cases made
  refine forall₂_iff_forall_mem (mapM_eq_ok_iff.mp made) fun param arg here => ?_
  refine forall_congr' fun value => forall_congr' fun found => ?_
  obtain ⟨none, -⟩ | ⟨_, decoded, same, readValue, found'⟩ :=
    lookup_readFields read param.1
  · rw [none] at found
    cases found
  · cases Option.some.inj (same.symm.trans found)
    change argument machine structs handler params param.1 param.2 = _ at here
    unfold argument at here
    rw [found'] at here
    exact holdsAll_iff machine structs readValue here

/-- What is expected of a request whose numbers are exactly those that were
written -/
structure Faithful (handler : RPCHandler Struct Result)
    (sent : List (String × Json)) (outcome : Outcome Struct Result) : Prop where
  exactly : ∀ args reply, outcome = .called args reply →
    List.Forall₂ (fun param arg => ∀ value, sent.lookup param.1 = some value →
      HoldsAll param.2 value arg) (handler.allParamNames.zip handler.types) args
  rejects : ∀ param ∈ handler.allParamNames.zip handler.types, ∀ value,
    sent.lookup param.1 = some value →
      ¬ Integers (fun kind number =>
          ∃ n : ℤ, number = n ∧ kind.InRange machine n) param.2 value →
        ∃ failure, outcome = .failed failure
  calls : Acceptable structs handler sent →
    (∀ param ∈ handler.allParamNames.zip handler.types, ∀ value,
      sent.lookup param.1 = some value →
        Integers (fun kind number =>
          ∃ n : ℤ, number = n ∧ kind.InRange machine n) param.2 value) →
      ∃ args reply, outcome = .called args reply

/-- A request is faithful if and only if it is not accepted, or each number that
it has for an integer is one of the type and survives being read as a double. -/
theorem faithful_iff_kept (handler : RPCHandler Struct Result)
    (sent : List (String × Json)) :
    Faithful machine structs handler sent
        (callRequest machine structs handler sent) ↔
      (Acceptable structs handler sent →
        ∀ param ∈ handler.allParamNames.zip handler.types, ∀ value,
          sent.lookup param.1 = some value →
            Integers (Kept machine) param.2 value) := by
  constructor
  · intro faithful acceptable
    obtain ⟨args, reply, called⟩ :=
      (exists_called_iff machine structs).mpr acceptable
    exact (forall₂_holdsAll_iff machine structs called).mp
      (faithful.exactly args reply called)
  · intro kept
    refine ⟨fun args reply called => ?_, fun param present value here away => ?_,
      fun acceptable _ => (exists_called_iff machine structs).mpr acceptable⟩
    · have acceptable := (exists_called_iff machine structs).mp ⟨_, _, called⟩
      exact (forall₂_holdsAll_iff machine structs called).mpr (kept acceptable)
    · cases ended : callRequest machine structs handler sent with
      | failed failure => exact ⟨failure, rfl⟩
      | called args reply =>
          have acceptable := (exists_called_iff machine structs).mp ⟨_, _, ended⟩
          refine absurd ?_ away
          exact (kept acceptable param present value here).imp
            fun kind number ⟨n, same, within, _⟩ => ⟨n, same, within⟩

end Calls

theorem parseFloat_natCast {n : ℕ} (small : n < 2 ^ 53) :
    parseFloat (n : ℚ) = some (n : ℚ) := by
  have float := @isFloat_intCast n (by simpa using by exact_mod_cast small)
  exact_mod_cast parseFloat_of_isFloat float

def noStructs : Structs Unit where
  marshal _ := .ok ""
  unmarshal _ _ := .ok ()
  zero _ := ()

/-- A key that no `uint8` holds -/
def largeKey : List (String × Json) :=
  [("modifier", .number 0), ("keys", .array [.number 300])]

theorem callRequest_largeKey :
    callRequest Machine.narrow noStructs
        (integerHandler "keyboardReport" fun _ => [.error none]) largeKey =
      (.called [.int 0, .slice [.int 44]] (.ok none) : Outcome Unit Unit) := by
  have none : parseFloat 0 = some 0 := parseFloat_zero
  have key : parseFloat 300 = some 300 := @parseFloat_natCast 300 (by norm_num)
  have read : readFields largeKey = some largeKey := by
    simp [largeKey, readFields, readElements, Json.read, none, key]
  rw [callRequest, read]
  rfl

/-- The handler is called with another key, 300 modulo 256. -/
theorem not_faithful_largeKey :
    ¬ Faithful Machine.narrow noStructs
      (integerHandler "keyboardReport" fun _ => [.error none] :
        RPCHandler Unit Unit) largeKey
      (callRequest Machine.narrow noStructs
        (integerHandler "keyboardReport" fun _ => [.error none]) largeKey) := by
  intro faithful
  have args := faithful.exactly _ _ callRequest_largeKey
  change List.Forall₂ _ [("modifier", GoType.int .uint8),
    ("keys", GoType.slice (.int .uint8))] _ at args
  have keys := (List.forall₂_cons.mp (List.forall₂_cons.mp args).2).1
  obtain ⟨_, same, held⟩ := keys (.array [.number 300]) rfl
  cases same
  obtain ⟨n, here, wrong⟩ := (List.forall₂_cons.mp held).1 300 rfl
  cases here
  norm_num at wrong

end RpcArguments

end JetKvm
