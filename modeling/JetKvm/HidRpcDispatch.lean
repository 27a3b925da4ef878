import JetKvm.HidRpcMessage

/-!
# Dispatching received HID-RPC messages

The path of a received byte string: the data-channel callback picks a queue,
the queue's worker calls `onHidMessage`, which unmarshals the message and hands
it to `handleHidRPCMessage`, which calls the typed accessor for its type.  The
workers have no `recover`, so a panic in an accessor ends the process.  The
results say exactly which payloads the accessors survive.
-/

namespace JetKvm

namespace HidRpc

open Outcome

/-- The calls `handleHidRPCMessage` makes with a decoded message. -/
inductive RpcCall where
  | handshake
  | keypressReport (key : UInt8) (press : Bool)
  | keyboardReport (modifier : UInt8) (keys : List UInt8)
  | executeKeyboardMacro (steps : List KeyboardMacroStep)
  | cancelKeyboardMacro
  | keypressKeepAlive
  | absMouseReport (x y : Int32) (buttons : UInt8)
  | relMouseReport (dx dy : Int8) (buttons : UInt8)
  | gamepadReport (report : GamepadReport)
  deriving DecidableEq, Repr

/-- What handling a message comes to: a call, an error that is logged, or a
message that is logged and ignored. -/
inductive Handled where
  | call (request : RpcCall)
  | rejected (error : String)
  | ignored (reason : String)
  deriving DecidableEq, Repr

/-- Log the error of an accessor, or make the call with its value. -/
def Handled.ofDecoded {α : Type} (request : α → RpcCall) :
    Except String α → Handled
  | .ok value => .call (request value)
  | .error error => .rejected error

def handleHidRPCKeyboardInput (message : Message) : Outcome Handled := do
  if message.t = typeKeypressReport then
    return .ofDecoded (fun report => .keypressReport report.key report.press)
      (← message.keypressReport)
  else if message.t = typeKeyboardReport then
    return .ofDecoded (fun report => .keyboardReport report.modifier report.keys)
      (← message.keyboardReport)
  else
    return .rejected s!"unknown HID RPC message type: {message.t}"

def handleHidRPCMessage (message : Message) : Outcome Handled := do
  if message.t = typeHandshake then
    return .call .handshake
  else if message.t = typeKeypressReport ∨ message.t = typeKeyboardReport then
    handleHidRPCKeyboardInput message
  else if message.t = typeKeyboardMacroReport then
    return .ofDecoded (fun report => .executeKeyboardMacro report.steps)
      (← message.keyboardMacroReport)
  else if message.t = typeCancelKeyboardMacroReport then
    return .call .cancelKeyboardMacro
  else if message.t = typeKeypressKeepAliveReport then
    return .call .keypressKeepAlive
  else if message.t = typePointerReport then
    return .ofDecoded
      (fun report => .absMouseReport report.x report.y report.button)
      (← message.pointerReport)
  else if message.t = typeMouseReport then
    return .ofDecoded
      (fun report => .relMouseReport report.dx report.dy report.button)
      (← message.mouseReport)
  else if message.t = typeGamepadReport then
    return .ofDecoded .gamepadReport (← message.gamepadReport)
  else
    return .ignored s!"unknown HID RPC message type: {message.t}"

/-- `onHidMessage`; with `debug` the message is also rendered for the log. -/
def onHidMessage (debug : Bool) (data : Slice UInt8) : Outcome Handled := do
  if data.length < 1 then
    return .ignored "received empty data in HID RPC message handler"
  match ← unmarshal data with
  | .error error => return .rejected error
  | .ok message =>
      if debug then
        let _ ← message.string
      handleHidRPCMessage message

/-- The worker of one queue: it handles the queued messages in order. -/
def handleQueues (debug : Bool) : List (Slice UInt8) → Outcome (List Handled)
  | [] => pure []
  | data :: rest => do
      let handled ← onHidMessage debug data
      let later ← handleQueues debug rest
      return handled :: later

/-- `getOnHidMessageHandler`: the queue a data-channel message is put on, or
nothing when the message is dropped. -/
def onDataChannelMessage (isString : Bool) (data : Slice UInt8) :
    Outcome (Option Nat) := do
  if isString then
    return none
  if data.length < 1 then
    return none
  let first ← data.index 0
  return some (getQueueIndex first)

/-- The capacity `initQueues` gives each queue. -/
def hidQueueSize : Nat := 256

/-- Every data-channel message is queued on one of the four queues or
dropped. -/
theorem onDataChannelMessage_returns (isString : Bool) (data : Slice UInt8) :
    ∃ queue : Option (Fin 4),
      onDataChannelMessage isString data = .ok (queue.map Fin.val) := by
  unfold onDataChannelMessage
  cases isString with
  | true => exact ⟨none, rfl⟩
  | false =>
      by_cases empty : data.length < 1
      · exact ⟨none, by simp [empty, pure, Except.pure]⟩
      · have inside : 0 < data.length := by omega
        have first := Slice.index_of_lt inside
        refine ⟨some ⟨_, getQueueIndex_lt_four (data.elements.get ⟨0, by
          simpa [Slice.length, List.length_pos_iff] using empty⟩)⟩, ?_⟩
        simp only [empty, first, if_false, Bool.false_eq_true]
        rfl

/-! ## Payloads each accessor survives -/

theorem keypressReport_returns_iff (m : Message) :
    Returns m.keypressReport ↔
      (m.t = typeKeypressReport → 2 ≤ m.d.length) := by
  unfold Message.keypressReport
  by_cases typed : m.t = typeKeypressReport
  · simp only [typed, ne_eq, not_true_eq_false, if_false, returns_bind_iff,
      returns_pure, and_true, exists_and_right, Slice.exists_index_eq_ok,
      forall_true_left]
    omega
  · simp [typed]

theorem keyboardReport_returns_iff (m : Message) :
    Returns m.keyboardReport ↔
      (m.t = typeKeyboardReport → 1 ≤ m.d.length) := by
  unfold Message.keyboardReport
  by_cases typed : m.t = typeKeyboardReport
  · simp only [typed, ne_eq, not_true_eq_false, if_false, returns_bind_iff,
      returns_pure, and_true, exists_and_right, Slice.exists_index_eq_ok,
      Slice.exists_dropTo_eq_ok, forall_true_left]
    omega
  · simp [typed]

theorem mouseReport_returns_iff (m : Message) :
    Returns m.mouseReport ↔ (m.t = typeMouseReport → 3 ≤ m.d.length) := by
  unfold Message.mouseReport
  by_cases typed : m.t = typeMouseReport
  · simp only [typed, ne_eq, not_true_eq_false, if_false, returns_bind_iff,
      returns_pure, and_true, exists_and_right, Slice.exists_index_eq_ok,
      forall_true_left]
    omega
  · simp [typed]

@[simp]
theorem exists_toInt_eq_ok {b : Slice UInt8} :
    (∃ number, toInt b = .ok number) ↔ 4 ≤ b.length := by
  change Returns (toInt b) ↔ 4 ≤ b.length
  simp only [toInt, returns_bind_iff, returns_pure, and_true, exists_and_right,
    Slice.exists_index_eq_ok]
  omega

/-- The length check of `PointerReport` covers all its reads. -/
theorem pointerReport_returns (m : Message) : Returns m.pointerReport := by
  have room := m.d.length_le_capacity
  unfold Message.pointerReport
  by_cases typed : m.t = typePointerReport
  · by_cases complete : m.d.length = 9
    · simp only [typed, complete, ne_eq, not_true_eq_false, if_false,
        returns_bind_iff, returns_pure, and_true, exists_and_right,
        Slice.exists_index_eq_ok, exists_toInt_eq_ok,
        Slice.exists_between_and_le_and]
      omega
    · simp [typed, complete]
  · simp [typed]

/-- The length check of `GamepadReport` covers all its reads. -/
theorem gamepadReport_returns (m : Message) : Returns m.gamepadReport := by
  have room := m.d.length_le_capacity
  unfold Message.gamepadReport
  by_cases typed : m.t = typeGamepadReport
  · by_cases complete : m.d.length = 11
    · simp only [typed, complete, ne_eq, not_true_eq_false, if_false]
      repeat
        refine Slice.returns_index_bind ?_ fun _ => ?_
        · omega
      simp only [returns_bind_iff, returns_pure, and_true,
        exists_bigEndianUint32_eq_ok, Slice.exists_between_and_le]
      omega
    · simp [typed, complete]
  · simp [typed]

/-- Every branch of `String` checks the length it reads. -/
theorem string_returns (m : Message) : Returns m.string := by
  have room := m.d.length_le_capacity
  unfold Message.string
  repeat' refine returns_ite (fun _ => ?_) fun _ => ?_
  all_goals
    repeat
      refine Slice.returns_index_bind ?_ fun _ => ?_
      · omega
  -- what is left after the indexing are windows and numbers read from them
  all_goals
    simp only [returns_bind_iff, returns_pure, and_true, exists_and_right,
      Slice.exists_index_eq_ok, Slice.exists_dropTo_eq_ok,
      Slice.exists_between_eq_ok, exists_bigEndianUint32_eq_ok,
      Slice.exists_between_and_le]
  all_goals omega

/-! ## The step loop of a keyboard macro -/

/-- The step count a macro payload declares: bytes one to four of the backing
array, which may lie beyond the payload's own length. -/
def declaredStepCount (d : Slice UInt8) : Option UInt32 :=
  match d.backing with
  | _ :: b0 :: b1 :: b2 :: b3 :: _ =>
      some (b3.toUInt32 ||| b2.toUInt32 <<< 8 ||| b1.toUInt32 <<< 16 |||
        b0.toUInt32 <<< 24)
  | _ => none

theorem bigEndianUint32_four (b0 b1 b2 b3 : UInt8) (spare : List UInt8) :
    bigEndianUint32 ⟨[b0, b1, b2, b3], spare⟩ =
      .ok (b3.toUInt32 ||| b2.toUInt32 <<< 8 ||| b1.toUInt32 <<< 16 |||
        b0.toUInt32 <<< 24) :=
  rfl

theorem readStepCount_eq_ok_iff (d : Slice UInt8) (count : UInt32) :
    (d.between 1 5 >>= bigEndianUint32) = .ok count ↔
      declaredStepCount d = some count := by
  unfold declaredStepCount Slice.between Slice.capacity
  generalize d.backing = backing
  rcases backing with
    _ | ⟨first, _ | ⟨b0, _ | ⟨b1, _ | ⟨b2, _ | ⟨b3, rest⟩⟩⟩⟩⟩
  case cons.cons.cons.cons.cons =>
    have inside : 5 ≤ (first :: b0 :: b1 :: b2 :: b3 :: rest).length :=
      Nat.le_add_left 5 rest.length
    rw [if_pos ⟨by decide, inside⟩]
    change bigEndianUint32 ⟨[b0, b1, b2, b3], rest⟩ = .ok count ↔ _
    rw [bigEndianUint32_four, Except.ok.injEq, Option.some.injEq]
  -- a shorter backing array has no window of four bytes
  all_goals exact iff_of_false nofun nofun

theorem keyboardMacroStepAt_returns (d : Slice UInt8) (offset : Nat)
    (inside : offset + 9 ≤ d.length) :
    Returns (keyboardMacroStepAt d offset) := by
  have room := d.length_le_capacity
  simp only [keyboardMacroStepAt, returns_bind_iff, returns_pure, and_true,
    exists_and_right, Slice.exists_index_eq_ok, exists_bigEndianUint16_eq_ok,
    Slice.exists_between_and_le, Slice.exists_between_eq_ok]
  omega

theorem keyboardMacroSteps_returns (d : Slice UInt8) (count offset : Nat)
    (inside : offset + 9 * count ≤ d.length) :
    Returns (keyboardMacroSteps d count offset) := by
  induction count generalizing offset with
  | zero => exact returns_ok _
  | succ count ih =>
      obtain ⟨step, decoded⟩ :=
        keyboardMacroStepAt_returns d offset (by omega)
      obtain ⟨rest, decodedRest⟩ :=
        ih (offset + (1 + hidKeyBufferSize + 2)) (by
          simp only [hidKeyBufferSize]
          omega)
      simp only [keyboardMacroSteps, decoded, decodedRest]
      exact returns_ok _

/-- The length `KeyboardMacroReport` compares with, for a count that passes
`make`: the product has not wrapped. -/
theorem expectedLength_of_lt {count : UInt32}
    (fits : keyboardMacroStepSize * count.toNat < 2 ^ 32) :
    (count.toInt32 * 9 + 5).toInt = 9 * count.toNat + 5 := by
  have bound : 20 * count.toNat < 2 ^ 32 := fits
  have converted : count.toInt32.toInt = count.toNat :=
    toInt_toInt32_of_lt (by omega)
  have nine : (9 : Int32).toInt = 9 := rfl
  have five : (5 : Int32).toInt = 5 := rfl
  rw [Int32.toInt_add, Int32.toInt_mul, converted, nine, five]
  simp only [Int.bmod_def]
  omega

/-- A macro payload that holds its whole header and whose declared length,
taken in 32-bit arithmetic, matches the payload only for a step count that fits
in memory. -/
def MacroHeaderFits (d : Slice UInt8) : Prop :=
  5 ≤ d.length ∧
    ∃ count, declaredStepCount d = some count ∧
      ((d.length : Int) = (count.toInt32 * 9 + 5).toInt →
        keyboardMacroStepSize * count.toNat < 2 ^ 32)

/-- The header lies in the payload, so what is behind the payload plays no
part. -/
theorem MacroHeaderFits.of_elements {payload spare behind : List UInt8}
    (fits : MacroHeaderFits ⟨payload, spare⟩) :
    MacroHeaderFits ⟨payload, behind⟩ := by
  rcases payload with _ | ⟨first, _ | ⟨b0, _ | ⟨b1, _ | ⟨b2, _ | ⟨b3, rest⟩⟩⟩⟩⟩
  case cons.cons.cons.cons.cons => exact fits
  all_goals exact absurd fits.1 (by simp [Slice.length])

theorem length_of_declaredStepCount {d : Slice UInt8} {count : UInt32}
    (declared : declaredStepCount d = some count) : 5 ≤ d.capacity := by
  unfold declaredStepCount at declared
  unfold Slice.capacity
  split at declared
  · rename_i split
    simp [split]
  · cases declared

theorem keyboardMacroReportBody_returns_iff (d : Slice UInt8)
    (isPaste : UInt8) (count : UInt32) :
    Returns (keyboardMacroReportBody d isPaste count) ↔
      ((d.length : Int) = (count.toInt32 * 9 + 5).toInt →
        keyboardMacroStepSize * count.toNat < 2 ^ 32) := by
  unfold keyboardMacroReportBody
  by_cases same : (d.length : Int) = (count.toInt32 * 9 + 5).toInt
  · simp only [same, ne_eq, not_true_eq_false, if_false, forall_true_left]
    have wide : 2 ≤ keyboardMacroStepSize := by decide
    have allocation : Returns (makeSlice keyboardMacroStepSize count.toInt32) ↔
        keyboardMacroStepSize * count.toNat < 2 ^ 32 :=
      makeSlice_toInt32_returns_iff wide
    rw [← allocation, returns_bind_iff]
    refine ⟨fun ⟨_, made, _⟩ => ⟨_, made⟩, fun ⟨made, makes⟩ =>
      ⟨made, makes, ?_⟩⟩
    -- the allocation succeeded, so the declared length is the actual one
    have fits := allocation.mp ⟨made, makes⟩
    have bound : 20 * count.toNat < 2 ^ 32 := fits
    have count_eq : count.toInt32.toNatClampNeg = count.toNat := by
      rw [Int32.toNatClampNeg, toInt_toInt32_of_lt (by omega),
        Int.toNat_natCast]
    rw [expectedLength_of_lt fits] at same
    obtain ⟨steps, decoded⟩ :=
      keyboardMacroSteps_returns d count.toNat 5 (by omega)
    rw [count_eq, decoded]
    exact returns_ok _
  · simp only [same, ne_eq, not_false_eq_true, if_true, returns_pure,
      IsEmpty.forall_iff]

/-- The header is read up to the capacity: a shorter payload is survived where
the backing array goes on behind it. -/
theorem keyboardMacroReport_returns_iff (m : Message)
    (own : m.t = typeKeyboardMacroReport →
      5 ≤ m.d.capacity → 5 ≤ m.d.length) :
    Returns m.keyboardMacroReport ↔
      (m.t = typeKeyboardMacroReport → MacroHeaderFits m.d) := by
  unfold Message.keyboardMacroReport
  by_cases typed : m.t = typeKeyboardMacroReport
  · simp only [typed, ne_eq, not_true_eq_false, if_false, forall_true_left]
    rw [returns_bind_iff]
    have body (isPaste : UInt8) :
        Returns (m.d.between 1 5 >>= fun window =>
            bigEndianUint32 window >>= keyboardMacroReportBody m.d isPaste) ↔
          ∃ count, declaredStepCount m.d = some count ∧
            ((m.d.length : Int) = (count.toInt32 * 9 + 5).toInt →
              keyboardMacroStepSize * count.toNat < 2 ^ 32) := by
      rw [← bind_assoc, returns_bind_iff]
      simp only [readStepCount_eq_ok_iff, keyboardMacroReportBody_returns_iff]
    simp only [body, exists_and_right, Slice.exists_index_eq_ok]
    constructor
    · rintro ⟨_, count, declared, checked⟩
      exact ⟨own typed (length_of_declaredStepCount declared), count, declared,
        checked⟩
    · rintro ⟨header, read⟩
      exact ⟨by omega, read⟩
  · simp [typed]

/-! ## The whole path -/

/-- The payload is long enough for the accessor its type selects. -/
structure Message.Indexable (m : Message) : Prop where
  keypress : m.t = typeKeypressReport → 2 ≤ m.d.length
  keyboard : m.t = typeKeyboardReport → 1 ≤ m.d.length
  mouse : m.t = typeMouseReport → 3 ≤ m.d.length
  keyboardMacro : m.t = typeKeyboardMacroReport → MacroHeaderFits m.d

theorem returns_ofDecoded_iff {α : Type} {request : α → RpcCall}
    {decoded : Outcome (Except String α)} :
    Returns (do return Handled.ofDecoded request (← decoded)) ↔
      Returns decoded := by
  simp only [returns_bind_iff, returns_pure, and_true]
  exact Iff.rfl

/-- The types whose accessors index into the payload unchecked. -/
def uncheckedTypes : List MessageType :=
  [typeKeypressReport, typeKeyboardReport, typeMouseReport,
    typeKeyboardMacroReport]

theorem Message.indexable_of_not_mem {m : Message}
    (other : m.t ∉ uncheckedTypes) : m.Indexable := by
  simp only [uncheckedTypes, List.mem_cons, List.not_mem_nil, or_false,
    not_or] at other
  obtain ⟨keypress, keyboard, mouse, steps⟩ := other
  exact ⟨fun typed => (keypress typed).elim, fun typed => (keyboard typed).elim,
    fun typed => (mouse typed).elim, fun typed => (steps typed).elim⟩

/-- Only the four unchecked accessors restrict the payload. -/
theorem Message.indexable_of_eq {m : Message} {t : MessageType}
    (typed : m.t = t) (other : t ∉ uncheckedTypes) : m.Indexable :=
  Message.indexable_of_not_mem (typed ▸ other)

private theorem vacuous {t first second : MessageType} {conclusion : Prop}
    (typed : t = first) (distinct : first ≠ second) :
    t = second → conclusion :=
  fun other => (distinct (typed.symm.trans other)).elim

theorem handleHidRPCKeyboardInput_returns_iff {m : Message}
    (keyboardInput : m.t = typeKeypressReport ∨ m.t = typeKeyboardReport) :
    Returns (handleHidRPCKeyboardInput m) ↔ m.Indexable := by
  unfold handleHidRPCKeyboardInput
  by_cases keypress : m.t = typeKeypressReport
  · rw [if_pos keypress, returns_ofDecoded_iff, keypressReport_returns_iff]
    exact ⟨fun fits => ⟨fits, vacuous keypress (by decide),
      vacuous keypress (by decide), vacuous keypress (by decide)⟩,
      fun fits => fits.keypress⟩
  · have keyboard := keyboardInput.resolve_left keypress
    rw [if_neg keypress, if_pos keyboard, returns_ofDecoded_iff,
      keyboardReport_returns_iff]
    exact ⟨fun fits => ⟨vacuous keyboard (by decide), fits,
      vacuous keyboard (by decide), vacuous keyboard (by decide)⟩,
      fun fits => fits.keyboard⟩

theorem handleHidRPCMessage_returns_iff (m : Message)
    (own : m.t = typeKeyboardMacroReport →
      5 ≤ m.d.capacity → 5 ≤ m.d.length) :
    Returns (handleHidRPCMessage m) ↔ m.Indexable := by
  unfold handleHidRPCMessage
  by_cases handshake : m.t = typeHandshake
  · rw [if_pos handshake]
    exact iff_of_true (returns_pure _)
      (Message.indexable_of_eq handshake (by decide))
  rw [if_neg handshake]
  by_cases keyboardInput : m.t = typeKeypressReport ∨ m.t = typeKeyboardReport
  · rw [if_pos keyboardInput]
    exact handleHidRPCKeyboardInput_returns_iff keyboardInput
  rw [if_neg keyboardInput]
  by_cases steps : m.t = typeKeyboardMacroReport
  · rw [if_pos steps, returns_ofDecoded_iff,
      keyboardMacroReport_returns_iff m own]
    exact ⟨fun fits => ⟨vacuous steps (by decide), vacuous steps (by decide),
      vacuous steps (by decide), fits⟩, fun fits => fits.keyboardMacro⟩
  rw [if_neg steps]
  by_cases cancel : m.t = typeCancelKeyboardMacroReport
  · rw [if_pos cancel]
    exact iff_of_true (returns_pure _)
      (Message.indexable_of_eq cancel (by decide))
  rw [if_neg cancel]
  by_cases keepAlive : m.t = typeKeypressKeepAliveReport
  · rw [if_pos keepAlive]
    exact iff_of_true (returns_pure _)
      (Message.indexable_of_eq keepAlive (by decide))
  rw [if_neg keepAlive]
  by_cases pointer : m.t = typePointerReport
  · rw [if_pos pointer, returns_ofDecoded_iff]
    exact iff_of_true (pointerReport_returns m)
      (Message.indexable_of_eq pointer (by decide))
  rw [if_neg pointer]
  by_cases mouse : m.t = typeMouseReport
  · rw [if_pos mouse, returns_ofDecoded_iff, mouseReport_returns_iff]
    exact ⟨fun fits => ⟨vacuous mouse (by decide), vacuous mouse (by decide),
      fits, vacuous mouse (by decide)⟩, fun fits => fits.mouse⟩
  rw [if_neg mouse]
  by_cases gamepad : m.t = typeGamepadReport
  · rw [if_pos gamepad, returns_ofDecoded_iff]
    exact iff_of_true (gamepadReport_returns m)
      (Message.indexable_of_eq gamepad (by decide))
  · rw [if_neg gamepad]
    refine iff_of_true (returns_pure _) (Message.indexable_of_not_mem ?_)
    simp only [uncheckedTypes, List.mem_cons, List.not_mem_nil, or_false]
    tauto

/-- Unmarshalling a non-empty byte string splits off the type byte. -/
theorem unmarshal_cons (t : MessageType) (payload spare : List UInt8) :
    unmarshal ⟨t :: payload, spare⟩ = .ok (.ok ⟨t, ⟨payload, spare⟩⟩) := by
  simp [unmarshal, Slice.index, Slice.dropTo, Slice.length, bind, Except.bind,
    pure, Except.pure]

/-- A received byte string whose payload the selected accessor can index; the
empty string never reaches an accessor. -/
def PayloadFits (data : Slice UInt8) : Prop :=
  ∀ t payload, data.elements = t :: payload →
    Message.Indexable ⟨t, ⟨payload, data.spare⟩⟩

/-- The debug rendering never panics and does not change what is handled. -/
theorem onHidMessage_cons (debug : Bool) (t : MessageType)
    (payload spare : List UInt8) :
    onHidMessage debug ⟨t :: payload, spare⟩ =
      handleHidRPCMessage ⟨t, ⟨payload, spare⟩⟩ := by
  have nonempty : ¬ (Slice.length ⟨t :: payload, spare⟩ < 1) := by
    simp [Slice.length]
  unfold onHidMessage
  rw [if_neg nonempty, unmarshal_cons]
  cases debug with
  | false => rfl
  | true =>
      obtain ⟨rendered, described⟩ := string_returns ⟨t, ⟨payload, spare⟩⟩
      change (Message.string _ >>= fun _ => handleHidRPCMessage _) = _
      rw [described]
      rfl

theorem Message.Indexable.of_elements {t : MessageType}
    {payload spare behind : List UInt8}
    (fits : Message.Indexable ⟨t, ⟨payload, spare⟩⟩) :
    Message.Indexable ⟨t, ⟨payload, behind⟩⟩ :=
  ⟨fits.keypress, fits.keyboard, fits.mouse,
    fun typed => (fits.keyboardMacro typed).of_elements⟩

/-- Handling the message returns whatever lies behind it, also where its last
byte is the last of the backing array, so that a read past its end panics. -/
def StaysInside (debug : Bool) (data : Slice UInt8) : Prop :=
  ∀ behind, ∃ handled,
    onHidMessage debug ⟨data.elements, behind⟩ = .ok handled

theorem staysInside_iff (debug : Bool) (data : Slice UInt8) :
    StaysInside debug data ↔ PayloadFits data := by
  obtain ⟨elements, spare⟩ := data
  unfold StaysInside
  cases elements with
  | nil =>
      exact iff_of_true (fun _ => ⟨_, rfl⟩)
        fun t payload impossible => by cases impossible
  | cons t payload =>
      simp only [onHidMessage_cons]
      constructor
      · intro returns t' payload' split
        obtain ⟨rfl, rfl⟩ := List.cons.inj split
        -- with nothing behind it the payload holds what was read
        have own : t = typeKeyboardMacroReport →
            5 ≤ (⟨payload, []⟩ : Slice UInt8).capacity →
              5 ≤ (⟨payload, []⟩ : Slice UInt8).length := by
          intro _ room
          simpa [Slice.capacity, Slice.backing, Slice.length] using room
        exact ((handleHidRPCMessage_returns_iff _ own).mp
          (returns [])).of_elements
      · intro fits behind
        have indexable := fits t payload rfl
        exact (handleHidRPCMessage_returns_iff ⟨t, ⟨payload, behind⟩⟩
          fun typed _ => (indexable.keyboardMacro typed).1).mpr
            indexable.of_elements

theorem ofDecoded_eq_call {α : Type} {request : α → RpcCall}
    {decoded : Outcome (Except String α)} {made : RpcCall}
    (handled : (do return Handled.ofDecoded request (← decoded) :
      Outcome Handled) = .ok (.call made)) :
    ∃ value, made = request value := by
  cases decoded with
  | error panic => cases handled
  | ok result =>
      cases result with
      | error error => cases handled
      | ok value =>
          cases handled
          exact ⟨value, rfl⟩

/-- The type of the messages that ask for a call. -/
def RpcCall.messageType : RpcCall → MessageType
  | .handshake => typeHandshake
  | .keypressReport .. => typeKeypressReport
  | .keyboardReport .. => typeKeyboardReport
  | .executeKeyboardMacro _ => typeKeyboardMacroReport
  | .cancelKeyboardMacro => typeCancelKeyboardMacroReport
  | .keypressKeepAlive => typeKeypressKeepAliveReport
  | .absMouseReport .. => typePointerReport
  | .relMouseReport .. => typeMouseReport
  | .gamepadReport _ => typeGamepadReport

/-- Every call comes from a message of its own type. -/
theorem type_of_call {message : Message} {made : RpcCall}
    (handled : handleHidRPCMessage message = .ok (.call made)) :
    message.t = made.messageType := by
  unfold handleHidRPCMessage at handled
  by_cases handshake : message.t = typeHandshake
  · rw [if_pos handshake] at handled
    cases handled
    exact handshake
  rw [if_neg handshake] at handled
  by_cases keyboardInput :
      message.t = typeKeypressReport ∨ message.t = typeKeyboardReport
  · rw [if_pos keyboardInput, handleHidRPCKeyboardInput] at handled
    by_cases keypress : message.t = typeKeypressReport
    · rw [if_pos keypress] at handled
      obtain ⟨value, rfl⟩ := ofDecoded_eq_call handled
      exact keypress
    · have keyboard := keyboardInput.resolve_left keypress
      rw [if_neg keypress, if_pos keyboard] at handled
      obtain ⟨value, rfl⟩ := ofDecoded_eq_call handled
      exact keyboard
  rw [if_neg keyboardInput] at handled
  by_cases steps : message.t = typeKeyboardMacroReport
  · rw [if_pos steps] at handled
    obtain ⟨value, rfl⟩ := ofDecoded_eq_call handled
    exact steps
  rw [if_neg steps] at handled
  by_cases cancel : message.t = typeCancelKeyboardMacroReport
  · rw [if_pos cancel] at handled
    cases handled
    exact cancel
  rw [if_neg cancel] at handled
  by_cases keepAlive : message.t = typeKeypressKeepAliveReport
  · rw [if_pos keepAlive] at handled
    cases handled
    exact keepAlive
  rw [if_neg keepAlive] at handled
  by_cases pointer : message.t = typePointerReport
  · rw [if_pos pointer] at handled
    obtain ⟨value, rfl⟩ := ofDecoded_eq_call handled
    exact pointer
  rw [if_neg pointer] at handled
  by_cases mouse : message.t = typeMouseReport
  · rw [if_pos mouse] at handled
    obtain ⟨value, rfl⟩ := ofDecoded_eq_call handled
    exact mouse
  rw [if_neg mouse] at handled
  by_cases gamepad : message.t = typeGamepadReport
  · rw [if_pos gamepad] at handled
    obtain ⟨value, rfl⟩ := ofDecoded_eq_call handled
    exact gamepad
  rw [if_neg gamepad] at handled
  cases handled

/-- A worker survives its queue if every queued payload fits. -/
theorem handleQueues_returns (debug : Bool) (queue : List (Slice UInt8))
    (fits : ∀ data ∈ queue, PayloadFits data) :
    Returns (handleQueues debug queue) := by
  induction queue with
  | nil => exact returns_pure _
  | cons data rest ih =>
      rw [List.forall_mem_cons] at fits
      obtain ⟨handled, returned⟩ :=
        (staysInside_iff debug data).mpr fits.1 data.spare
      obtain ⟨later, others⟩ := ih fits.2
      simp only [handleQueues, returned, others]
      exact returns_ok _

/-- Every non-empty message from any of the three channels is queued, and the
worker that takes it from its queue survives it and indexes nothing past its
end exactly when its payload fits. -/
theorem received_message_survives_iff (debug : Bool) (data : Slice UInt8) :
    (∃ queue, onDataChannelMessage false data = .ok queue) ∧
      (StaysInside debug data ↔ PayloadFits data) := by
  obtain ⟨queue, queued⟩ := onDataChannelMessage_returns false data
  exact ⟨⟨_, queued⟩, staysInside_iff debug data⟩

/-- A keypress message without payload, and a macro message of seven bytes
whose declared length wraps onto its actual one, panic; a macro message of one
payload byte reads its step count behind the payload. -/
theorem short_keypress_and_wrapped_macro_panic :
    (¬ ∃ handled, onHidMessage false ⟨[0x05], []⟩ = .ok handled) ∧
      (¬ ∃ handled,
        onHidMessage false ⟨[0x07, 0x00, 0x38, 0xE3, 0x8E, 0x39, 0x00], []⟩ =
          .ok handled) ∧
      ¬ StaysInside false ⟨[0x07, 0x00], [0, 0, 0, 0]⟩ := by
  have keypress : onHidMessage false ⟨[0x05], []⟩ =
      .error (.indexOutOfRange 0 0) := rfl
  have wrapped :
      onHidMessage false ⟨[0x07, 0x00, 0x38, 0xE3, 0x8E, 0x39, 0x00], []⟩ =
        .error .makeSliceOutOfRange := rfl
  have header : onHidMessage false ⟨[0x07, 0x00], []⟩ =
      .error (.sliceBoundsOutOfRange 1 5 1) := rfl
  rw [keypress, wrapped]
  refine ⟨not_returns_error _, not_returns_error _, fun inside => ?_⟩
  exact not_returns_error _ (header ▸ inside [])

end HidRpc

end JetKvm
